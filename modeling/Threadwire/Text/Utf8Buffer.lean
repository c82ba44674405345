import Threadwire.Text.JsonText

/-!
# Texts in byte buffers

`Buffer.from(text, "utf8")` and `buffer.toString("utf8")`. Neither of them fails: a lone surrogate
is encoded as U+FFFD, and so is decoded what is not UTF-8, one replacement for each maximal part of
a character and for each byte that opens none. Where nothing needs a replacement they are inverse to
each other (`toText_toUtf8`); a text that `JSON.stringify` wrote is one of these, since it escapes
lone surrogates.
-/

namespace Utf8

/-- The character that stands for what cannot be decoded or encoded. -/
def replacement : ℕ := 0xFFFD

/-- One byte: where the strict decoder stops, what is unfinished is replaced and the byte is read
from the start; a byte that opens no character is replaced itself. -/
def replacingStep (s : State) (b : ℕ) : State × List ℕ :=
  match step s b with
  | some (s', codePoint) => (s', codePoint.toList)
  | none =>
    if s.needed = 0 then (start, [replacement])
    else
      match step start b with
      | some (s', codePoint) => (s', replacement :: codePoint.toList)
      | none => (start, [replacement, replacement])

/-- Decode bytes from a state. -/
def decodeReplacing : State → List UInt8 → State × List ℕ
  | s, [] => (s, [])
  | s, b :: bs =>
    let (s', codePoints) := replacingStep s b.toNat
    let (s'', rest) := decodeReplacing s' bs
    (s'', codePoints ++ rest)

/-- The code points of a buffer; a character that is cut off at the end is replaced. -/
def bufferCodePoints (bytes : List UInt8) : List ℕ :=
  let (s, codePoints) := decodeReplacing start bytes
  codePoints ++ if s.needed = 0 then [] else [replacement]

/-- `buffer.toString("utf8")`. -/
def toText (bytes : List UInt8) : Text := (bufferCodePoints bytes).flatMap encodeUtf16

/-- Where the strict decoder accepts, nothing is replaced. -/
theorem decodeReplacing_of_decodeFrom {s : State} {bytes : List UInt8} {result : State × List ℕ}
    (h : decodeFrom s bytes = some result) : decodeReplacing s bytes = result := by
  induction bytes generalizing s result with
  | nil => exact Option.some.inj h
  | cons b bytes ih =>
    rw [decodeFrom] at h
    cases hstep : step s b.toNat with
    | none => simp [hstep] at h
    | some next =>
      cases hrest : decodeFrom next.1 bytes with
      | none => simp [hstep, hrest] at h
      | some rest =>
        simp only [hstep, hrest, Option.bind_eq_bind, Option.bind_some, Option.pure_def,
          Option.some.injEq] at h
        rw [decodeReplacing, replacingStep, hstep]
        simp only [ih hrest]
        exact h

end Utf8

namespace Text

/-- A unit that is half of a pair. -/
def isSurrogate (c : UInt16) : Bool := isHighSurrogate c || isLowSurrogate c

/-- The code point of a pair. -/
def pairCodePoint (c d : UInt16) : ℕ := 0x10000 + (c.toNat - 0xD800) * 0x400 + (d.toNat - 0xDC00)

/-- The code point a unit is encoded as when it is not half of a pair. -/
def unitCodePoint (c : UInt16) : ℕ := if isSurrogate c then Utf8.replacement else c.toNat

/-- The code points that are encoded. -/
def codePoints : Text → List ℕ
  | [] => []
  | [c] => [unitCodePoint c]
  | c :: d :: rest =>
    if isHighSurrogate c && isLowSurrogate d then pairCodePoint c d :: codePoints rest
    else unitCodePoint c :: codePoints (d :: rest)

/-- `Buffer.from(text, "utf8")`. -/
def toUtf8 (text : Text) : List UInt8 :=
  (codePoints text).flatMap fun n => (Utf8.encodeCodePoint n).map UInt8.ofNat

/-- `text.isWellFormed()`: no surrogate is alone. -/
def isWellFormed : Text → Bool
  | [] => true
  | [c] => !isSurrogate c
  | c :: d :: rest =>
    if isHighSurrogate c && isLowSurrogate d then isWellFormed rest
    else !isSurrogate c && isWellFormed (d :: rest)

/-! ## Units and code points -/

/-- The high surrogates as a range. -/
theorem isHighSurrogate_iff {c : UInt16} :
    isHighSurrogate c = true ↔ 0xD800 ≤ c.toNat ∧ c.toNat ≤ 0xDBFF := by
  rw [isHighSurrogate, Bool.and_eq_true, decide_eq_true_eq, decide_eq_true_eq,
    UInt16.le_iff_toNat_le, UInt16.le_iff_toNat_le]
  rfl

/-- The low surrogates as a range. -/
theorem isLowSurrogate_iff {c : UInt16} :
    isLowSurrogate c = true ↔ 0xDC00 ≤ c.toNat ∧ c.toNat ≤ 0xDFFF := by
  rw [isLowSurrogate, Bool.and_eq_true, decide_eq_true_eq, decide_eq_true_eq,
    UInt16.le_iff_toNat_le, UInt16.le_iff_toNat_le]
  rfl

/-- The surrogates as one range. -/
theorem isSurrogate_iff {c : UInt16} :
    isSurrogate c = true ↔ 0xD800 ≤ c.toNat ∧ c.toNat ≤ 0xDFFF := by
  rw [isSurrogate, Bool.or_eq_true, isHighSurrogate_iff, isLowSurrogate_iff]
  omega

/-- A unit on its own is encoded as a scalar value: a lone surrogate is replaced. -/
theorem isValidChar_unitCodePoint (c : UInt16) : (unitCodePoint c).isValidChar := by
  have hlt : c.toNat < 0x10000 := c.toNat_lt
  unfold unitCodePoint Nat.isValidChar
  split_ifs with hc
  · right
    decide
  · rw [isSurrogate_iff] at hc
    omega

/-- A pair is encoded as a scalar value. -/
theorem isValidChar_pairCodePoint {c d : UInt16} (hc : isHighSurrogate c = true)
    (hd : isLowSurrogate d = true) : (pairCodePoint c d).isValidChar := by
  rw [isHighSurrogate_iff] at hc
  rw [isLowSurrogate_iff] at hd
  unfold pairCodePoint Nat.isValidChar
  omega

/-- Everything that a text is encoded as is a scalar value, whatever its surrogates. -/
theorem isValidChar_of_mem_codePoints {text : Text} : ∀ n ∈ codePoints text, n.isValidChar := by
  induction text using codePoints.induct with
  | case1 => exact fun n hn => absurd hn List.not_mem_nil
  | case2 c => exact List.forall_mem_singleton.mpr (isValidChar_unitCodePoint c)
  | case3 c d rest hpair ih =>
    rw [codePoints, if_pos hpair]
    rw [Bool.and_eq_true] at hpair
    exact List.forall_mem_cons.mpr ⟨isValidChar_pairCodePoint hpair.1 hpair.2, ih⟩
  | case4 c d rest hpair ih =>
    rw [codePoints, if_neg hpair]
    exact List.forall_mem_cons.mpr ⟨isValidChar_unitCodePoint c, ih⟩

/-- A unit that is no surrogate decodes to itself. -/
theorem encodeUtf16_unitCodePoint {c : UInt16} (hc : isSurrogate c = false) :
    encodeUtf16 (unitCodePoint c) = [c] := by
  have hlt : c.toNat < 0x10000 := c.toNat_lt
  rw [unitCodePoint, hc, if_neg (by decide), encodeUtf16, if_pos hlt, UInt16.ofNat_toNat]

/-- A pair decodes to its two units. -/
theorem encodeUtf16_pairCodePoint {c d : UInt16} (hc : isHighSurrogate c = true)
    (hd : isLowSurrogate d = true) : encodeUtf16 (pairCodePoint c d) = [c, d] := by
  rw [isHighSurrogate_iff] at hc
  rw [isLowSurrogate_iff] at hd
  have hhigh : 0xD800 + (pairCodePoint c d - 0x10000) / 0x400 = c.toNat := by
    unfold pairCodePoint
    omega
  have hlow : 0xDC00 + (pairCodePoint c d - 0x10000) % 0x400 = d.toNat := by
    unfold pairCodePoint
    omega
  rw [encodeUtf16, if_neg (by unfold pairCodePoint; omega), hhigh, hlow, UInt16.ofNat_toNat,
    UInt16.ofNat_toNat]

/-- The code points of a well-formed text are its own. -/
theorem encodeUtf16_codePoints {text : Text} (h : isWellFormed text = true) :
    (codePoints text).flatMap encodeUtf16 = text := by
  induction text using codePoints.induct with
  | case1 => rfl
  | case2 c =>
    rw [isWellFormed, Bool.not_eq_true'] at h
    rw [codePoints, List.flatMap_singleton, encodeUtf16_unitCodePoint h]
  | case3 c d rest hpair ih =>
    rw [isWellFormed, if_pos hpair] at h
    rw [codePoints, if_pos hpair, List.flatMap_cons, ih h]
    rw [Bool.and_eq_true] at hpair
    rw [encodeUtf16_pairCodePoint hpair.1 hpair.2]
    rfl
  | case4 c d rest hpair ih =>
    rw [isWellFormed, if_neg hpair, Bool.and_eq_true, Bool.not_eq_true'] at h
    rw [codePoints, if_neg hpair, List.flatMap_cons, ih h.2, encodeUtf16_unitCodePoint h.1]
    rfl

/-! ## Lengths and the round trip -/

/-- How many bytes a unit on its own takes. -/
theorem length_encodeCodePoint_unitCodePoint (c : UInt16) :
    (Utf8.encodeCodePoint (unitCodePoint c)).length = unitByteLength c := by
  have hlt : c.toNat < 0x10000 := c.toNat_lt
  have hone : c < 0x80 ↔ c.toNat < 0x80 := UInt16.lt_iff_toNat_lt
  have htwo : c < 0x800 ↔ c.toNat < 0x800 := UInt16.lt_iff_toNat_lt
  simp only [unitByteLength, hone, htwo, unitCodePoint, isSurrogate_iff, Utf8.encodeCodePoint,
    Utf8.replacement]
  split_ifs <;> first | rfl | omega

/-- A pair takes four bytes. -/
theorem length_encodeCodePoint_pairCodePoint (c d : UInt16) :
    (Utf8.encodeCodePoint (pairCodePoint c d)).length = 4 := by
  unfold Utf8.encodeCodePoint pairCodePoint
  rw [if_neg (by omega), if_neg (by omega), if_neg (by omega)]
  rfl

/-- `Buffer.byteLength` is the length of the buffer. -/
theorem length_toUtf8 (text : Text) : (toUtf8 text).length = byteLength text := by
  unfold toUtf8
  induction text using codePoints.induct with
  | case1 => rfl
  | case2 c =>
    rw [codePoints, byteLength, List.flatMap_singleton, List.length_map,
      length_encodeCodePoint_unitCodePoint]
  | case3 c d rest hpair ih =>
    rw [codePoints, byteLength, if_pos hpair, if_pos hpair, List.flatMap_cons, List.length_append,
      List.length_map, length_encodeCodePoint_pairCodePoint, ih]
  | case4 c d rest hpair ih =>
    rw [codePoints, byteLength, if_neg hpair, if_neg hpair, List.flatMap_cons, List.length_append,
      List.length_map, length_encodeCodePoint_unitCodePoint, ih]

/-- The strict decoder reads the code points of a buffer back. -/
theorem decodeFrom_toUtf8 (text : Text) :
    Utf8.decodeFrom Utf8.start (toUtf8 text) = some (Utf8.start, codePoints text) := by
  have hvalid := @isValidChar_of_mem_codePoints text
  unfold toUtf8
  generalize codePoints text = points at hvalid ⊢
  induction points with
  | nil => rfl
  | cons n points ih =>
    obtain ⟨hn, hpoints⟩ := List.forall_mem_cons.mp hvalid
    rw [List.flatMap_cons, Utf8.decodeFrom_append,
      Utf8.decodeFrom_map _ _ (Utf8.encodeCodePoint_lt hn), Utf8.steps_encodeCodePoint hn,
      Option.bind_some]
    simp only [ih hpoints, Option.map_some, List.singleton_append]

/-- A well-formed text is read back from its buffer. -/
theorem toText_toUtf8 {text : Text} (h : isWellFormed text = true) :
    Utf8.toText (toUtf8 text) = text := by
  have hpoints : Utf8.bufferCodePoints (toUtf8 text) = codePoints text := by
    rw [Utf8.bufferCodePoints, Utf8.decodeReplacing_of_decodeFrom (decodeFrom_toUtf8 text)]
    exact List.append_nil _
  rw [Utf8.toText, hpoints, encodeUtf16_codePoints h]

/-! ## Well-formed texts -/

/-- Joining two well-formed texts makes no lone surrogate. -/
theorem isWellFormed_append {a b : Text} (ha : isWellFormed a = true) (hb : isWellFormed b = true) :
    isWellFormed (a ++ b) = true := by
  induction a using isWellFormed.induct with
  | case1 => exact hb
  | case2 c =>
    rw [isWellFormed, Bool.not_eq_true'] at ha
    cases b with
    | nil => rw [List.append_nil, isWellFormed, ha]; rfl
    | cons d b =>
      have hpair : ¬(isHighSurrogate c && isLowSurrogate d) = true := by
        rw [isSurrogate, Bool.or_eq_false_iff] at ha
        rw [ha.1, Bool.false_and]
        decide
      rw [List.singleton_append, isWellFormed, if_neg hpair, ha, hb]
      rfl
  | case3 c d rest hpair ih =>
    rw [isWellFormed, if_pos hpair] at ha
    rw [List.cons_append, List.cons_append, isWellFormed, if_pos hpair]
    exact ih ha
  | case4 c d rest hpair ih =>
    rw [isWellFormed, if_neg hpair, Bool.and_eq_true] at ha
    rw [List.cons_append, List.cons_append, isWellFormed, if_neg hpair, Bool.and_eq_true]
    exact ⟨ha.1, ih ha.2⟩

/-- A unit that is no surrogate may be put in front. -/
theorem isWellFormed_cons {c : UInt16} {text : Text} (hc : isSurrogate c = false)
    (h : isWellFormed text = true) : isWellFormed (c :: text) = true :=
  isWellFormed_append (a := [c]) (by rw [isWellFormed, hc]; rfl) h

/-- A text without surrogates is well formed. -/
theorem isWellFormed_of_forall {text : Text} (h : ∀ c ∈ text, isSurrogate c = false) :
    isWellFormed text = true := by
  induction text with
  | nil => rfl
  | cons c text ih =>
    obtain ⟨hc, htext⟩ := List.forall_mem_cons.mp h
    exact isWellFormed_cons hc (ih htext)

/-- A spelled unit is ASCII or no surrogate. -/
theorem isSurrogate_of_mem_quoteUnit {c u : UInt16} (hu : u ∈ quoteUnit c) :
    isSurrogate u = false := by
  have hdigit : ∀ n < 16, isSurrogate (hexDigit n) = false := by decide
  have hpair : ∀ d, isSurrogate d = false → u ∈ [0x5C, d] → isSurrogate u = false := by
    intro d hd hmem
    rcases List.mem_cons.mp hmem with rfl | hmem
    · decide
    · rwa [List.mem_singleton.mp hmem]
  unfold quoteUnit at hu
  split_ifs at hu with hself h08 h09 h0A h0C h0D hescaped
  · refine hpair c ?_ hu
    rcases hself with rfl | rfl <;> decide
  · exact hpair _ (by decide) hu
  · exact hpair _ (by decide) hu
  · exact hpair _ (by decide) hu
  · exact hpair _ (by decide) hu
  · exact hpair _ (by decide) hu
  · have hlt : c.toNat < 0x10000 := c.toNat_lt
    simp only [unicodeEscape, List.mem_cons, List.not_mem_nil, or_false] at hu
    rcases hu with rfl | rfl | rfl | rfl | rfl | rfl
    · decide
    · decide
    · exact hdigit _ (by omega)
    · exact hdigit _ (by omega)
    · exact hdigit _ (by omega)
    · exact hdigit _ (by omega)
  · rw [List.mem_singleton.mp hu, isSurrogate, Bool.or_eq_false_iff]
    rw [not_or, not_or] at hescaped
    exact ⟨Bool.eq_false_iff.mpr hescaped.2.1, Bool.eq_false_iff.mpr hescaped.2.2⟩

/-- A spelled string is well formed, whatever the string is. -/
theorem isWellFormed_quoteUnits (text : Text) : isWellFormed (quoteUnits text) = true := by
  have hunit : ∀ c, isWellFormed (quoteUnit c) = true := fun c =>
    isWellFormed_of_forall fun u hu => isSurrogate_of_mem_quoteUnit hu
  induction text using quoteUnits.induct with
  | case1 => rfl
  | case2 c => exact hunit c
  | case3 c d rest hpair ih => rwa [quoteUnits, if_pos hpair, isWellFormed, if_pos hpair]
  | case4 c d rest hpair ih =>
    rw [quoteUnits, if_neg hpair]
    exact isWellFormed_append (hunit c) ih

/-- A quoted string is well formed, since its lone surrogates are escaped. -/
theorem isWellFormed_quote (text : Text) : isWellFormed (quote text) = true :=
  isWellFormed_append (isWellFormed_append rfl (isWellFormed_quoteUnits text)) rfl

end Text

/-! ## JSON in a buffer -/

namespace Json

/-- The units of a bare word are ASCII. -/
theorem isSurrogate_of_isBare {c : UInt16} (h : isBare c = true) : Text.isSurrogate c = false := by
  rw [Bool.eq_false_iff]
  intro hc
  rw [Text.isSurrogate_iff] at hc
  have hlow : ∀ d : UInt16, d.toNat < 0xD800 → ¬ c ≤ d := by
    intro d hd hcd
    rw [UInt16.le_iff_toNat_le] at hcd
    omega
  simp only [isBare, isDigit, Bool.or_eq_true, Bool.and_eq_true, decide_eq_true_eq,
    beq_iff_eq] at h
  rcases h with ((((h | h) | h) | rfl) | rfl) | rfl
  · exact hlow _ (by decide) h.2
  · exact hlow _ (by decide) h.2
  · exact hlow _ (by decide) h.2
  · exact absurd hc.1 (by decide)
  · exact absurd hc.1 (by decide)
  · exact absurd hc.1 (by decide)

section Lists

open Text

/-- The rest of an array is well formed where its items are. -/
theorem isWellFormed_moreItems {items : List Value} (h : ∀ v ∈ items, isWellFormed v.text = true) :
    isWellFormed (Value.text.moreItems items) = true := by
  induction items with
  | nil => rfl
  | cons v items ih =>
    obtain ⟨hv, hitems⟩ := List.forall_mem_cons.mp h
    exact isWellFormed_cons rfl (isWellFormed_append hv (ih hitems))

/-- The rest of an object is well formed where its values are. -/
theorem isWellFormed_moreMembers {members : List (Text × Value)}
    (h : ∀ m ∈ members, isWellFormed m.2.text = true) :
    isWellFormed (Value.text.moreMembers members) = true := by
  induction members with
  | nil => rfl
  | cons m members ih =>
    obtain ⟨hm, hmembers⟩ := List.forall_mem_cons.mp h
    exact isWellFormed_cons rfl (isWellFormed_append (isWellFormed_quote m.1)
      (isWellFormed_cons rfl (isWellFormed_append hm (ih hmembers))))

/-- What `JSON.stringify` writes is well formed. -/
theorem isWellFormed_text {v : Value} (h : v.Spelled) : isWellFormed v.text = true := by
  induction h with
  | null =>
    rw [Value.text, Text.of_ofList]
    rfl
  | bool b => cases b <;> rw [Value.text, Text.of_ofList] <;> rfl
  | number h =>
    exact isWellFormed_of_forall fun c hc => isSurrogate_of_isBare (isBare_of_isNumber h c hc)
  | string units => exact isWellFormed_quote units
  | @array items h ih =>
    rw [Value.text]
    refine isWellFormed_cons rfl (isWellFormed_append ?_ rfl)
    cases items with
    | nil => rfl
    | cons v items =>
      obtain ⟨hv, hitems⟩ := List.forall_mem_cons.mp ih
      exact isWellFormed_append hv (isWellFormed_moreItems hitems)
  | @object members h ih =>
    rw [Value.text]
    refine isWellFormed_cons rfl (isWellFormed_append ?_ rfl)
    cases members with
    | nil => rfl
    | cons m members =>
      obtain ⟨hm, hmembers⟩ := List.forall_mem_cons.mp ih
      exact isWellFormed_append (isWellFormed_quote m.1)
        (isWellFormed_cons rfl (isWellFormed_append hm (isWellFormed_moreMembers hmembers)))

end Lists

/-- A value is read back from the bytes of its text. -/
theorem parse_toText_toUtf8 {v : Value} (h : v.Spelled) :
    parse (Utf8.toText (Text.toUtf8 v.text)) = some v := by
  rw [Text.toText_toUtf8 (isWellFormed_text h), parse_text h]

end Json
