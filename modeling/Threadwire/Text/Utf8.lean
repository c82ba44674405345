import Mathlib.Tactic.Common

/-!
# Streaming UTF-8

A UTF-8 decoder that takes one byte at a time and rejects everything that is not well formed. Its
state between two bytes is what a streaming decoder carries from one chunk to the next, so decoding
is chunk-invariant because a run over `a ++ b` is a run over `a` and then over `b`.

`decodeFrom_encode` proves that the decoder inverts the encoder on every character sequence, from
which every prefix of an encoded sequence is accepted.

Texts are sequences of UTF-16 code units, as in languages whose strings are measured in them.
-/

/-- A text: its UTF-16 code units. -/
abbrev Text := List UInt16

namespace Utf8

/-- The decoder between two bytes: the code point so far, how many bytes are missing, and the range
of the next one. -/
structure State where
  codePoint : ℕ := 0
  needed : ℕ := 0
  lower : ℕ := 0x80
  upper : ℕ := 0xBF
deriving DecidableEq, Repr

/-- Between two characters. -/
abbrev start : State := {}

/-- One byte: the next state and the code point it completes, if any; `none` if it is malformed. -/
def step (s : State) (b : ℕ) : Option (State × Option ℕ) :=
  if s.needed = 0 then
    if b ≤ 0x7F then some (start, some b)
    else if 0xC2 ≤ b ∧ b ≤ 0xDF then some ({ codePoint := b - 0xC0, needed := 1 }, none)
    else if 0xE0 ≤ b ∧ b ≤ 0xEF then
      some ({ codePoint := b - 0xE0
              needed := 2
              lower := if b = 0xE0 then 0xA0 else 0x80
              upper := if b = 0xED then 0x9F else 0xBF }, none)
    else if 0xF0 ≤ b ∧ b ≤ 0xF4 then
      some ({ codePoint := b - 0xF0
              needed := 3
              lower := if b = 0xF0 then 0x90 else 0x80
              upper := if b = 0xF4 then 0x8F else 0xBF }, none)
    else none
  else if s.lower ≤ b ∧ b ≤ s.upper then
    let codePoint := s.codePoint * 0x40 + (b - 0x80)
    if s.needed = 1 then some (start, some codePoint)
    else some ({ codePoint, needed := s.needed - 1 }, none)
  else none

/-- Decode bytes from a state: the state after them and the code points they complete. -/
def decodeFrom : State → List UInt8 → Option (State × List ℕ)
  | s, [] => some (s, [])
  | s, b :: bs => do
    let (s, codePoint) ← step s b.toNat
    let (s, codePoints) ← decodeFrom s bs
    pure (s, codePoint.toList ++ codePoints)

/-- The bytes of a code point. -/
def encodeCodePoint (n : ℕ) : List ℕ :=
  if n < 0x80 then [n]
  else if n < 0x800 then [0xC0 + n / 0x40, 0x80 + n % 0x40]
  else if n < 0x10000 then [0xE0 + n / 0x1000, 0x80 + n / 0x40 % 0x40, 0x80 + n % 0x40]
  else [0xF0 + n / 0x40000, 0x80 + n / 0x1000 % 0x40, 0x80 + n / 0x40 % 0x40, 0x80 + n % 0x40]

/-- The UTF-8 bytes of a character sequence. -/
def encode (chars : List Char) : List UInt8 :=
  chars.flatMap fun c => (encodeCodePoint c.toNat).map UInt8.ofNat

/-- Chunk invariance: decoding a concatenation is decoding its parts one after the other. -/
theorem decodeFrom_append (s : State) (as bs : List UInt8) :
    decodeFrom s (as ++ bs) = (decodeFrom s as).bind fun (s', codePoints) =>
      (decodeFrom s' bs).map fun (s'', rest) => (s'', codePoints ++ rest) := by
  induction as generalizing s with
  | nil => simp [decodeFrom]
  | cons a as ih =>
    rw [List.cons_append, decodeFrom, decodeFrom]
    cases step s a.toNat with
    | none => rfl
    | some p =>
      obtain ⟨s', codePoint⟩ := p
      simp only [Option.bind_eq_bind, Option.bind_some, ih]
      cases decodeFrom s' as with
      | none => rfl
      | some q => cases h : decodeFrom q.1 bs <;> simp [h]

/-- Run `step` over byte values. -/
def steps : State → List ℕ → Option (State × List ℕ)
  | s, [] => some (s, [])
  | s, b :: bs => do
    let (s, codePoint) ← step s b
    let (s, codePoints) ← steps s bs
    pure (s, codePoint.toList ++ codePoints)

theorem decodeFrom_map (s : State) (bs : List ℕ) (hbs : ∀ b ∈ bs, b < 256) :
    decodeFrom s (bs.map UInt8.ofNat) = steps s bs := by
  induction bs generalizing s with
  | nil => rfl
  | cons b bs ih =>
    have hb : (UInt8.ofNat b).toNat = b := by
      rw [UInt8.toNat_ofNat']
      exact Nat.mod_eq_of_lt (hbs b List.mem_cons_self)
    rw [List.map_cons, decodeFrom, steps, hb]
    simp only [ih _ fun b' hb' => hbs b' (List.mem_cons_of_mem _ hb')]

theorem step_ascii {b : ℕ} (h : b ≤ 0x7F) : step start b = some (start, some b) := by
  simp [step, h]

theorem step_lead_two {b : ℕ} (h : 0xC2 ≤ b ∧ b ≤ 0xDF) :
    step start b = some ({ codePoint := b - 0xC0, needed := 1 }, none) := by
  rw [step, if_pos rfl, if_neg (by omega), if_pos h]

theorem step_lead_three {b : ℕ} (h : 0xE0 ≤ b ∧ b ≤ 0xEF) :
    step start b = some (⟨b - 0xE0, 2, if b = 0xE0 then 0xA0 else 0x80,
      if b = 0xED then 0x9F else 0xBF⟩, none) := by
  rw [step, if_pos rfl, if_neg (by omega), if_neg (by omega), if_pos h]

theorem step_lead_four {b : ℕ} (h : 0xF0 ≤ b ∧ b ≤ 0xF4) :
    step start b = some (⟨b - 0xF0, 3, if b = 0xF0 then 0x90 else 0x80,
      if b = 0xF4 then 0x8F else 0xBF⟩, none) := by
  rw [step, if_pos rfl, if_neg (by omega), if_neg (by omega), if_neg (by omega), if_pos h]

/-- A continuation byte that is not the last one. -/
theorem step_tail {codePoint needed lower upper b : ℕ} (h : lower ≤ b ∧ b ≤ upper) :
    step ⟨codePoint, needed + 2, lower, upper⟩ b =
      some ({ codePoint := codePoint * 0x40 + (b - 0x80), needed := needed + 1 }, none) := by
  rw [step, if_neg (by simp), if_pos h, if_neg (by simp)]
  rfl

/-- The last continuation byte completes the code point. -/
theorem step_last {codePoint lower upper b : ℕ} (h : lower ≤ b ∧ b ≤ upper) :
    step ⟨codePoint, 1, lower, upper⟩ b = some (start, some (codePoint * 0x40 + (b - 0x80))) := by
  rw [step, if_neg (by simp), if_pos h, if_pos rfl]

/-- The decoder inverts the encoder on one scalar value. -/
theorem steps_encodeCodePoint {n : ℕ} (hn : n.isValidChar) :
    steps start (encodeCodePoint n) = some (start, [n]) := by
  unfold Nat.isValidChar at hn
  unfold encodeCodePoint
  split_ifs with h1 h2 h3
  · -- One byte, and then two, three and four: each length has its range of code points.
    simp [steps, step_ascii (show n ≤ 0x7F by omega)]
  · simp only [steps, step_lead_two (show 0xC2 ≤ 0xC0 + n / 0x40 ∧ 0xC0 + n / 0x40 ≤ 0xDF by omega),
      step_last (show 0x80 ≤ 0x80 + n % 0x40 ∧ 0x80 + n % 0x40 ≤ 0xBF by omega),
      Option.bind_eq_bind, Option.bind_some]
    simp
    omega
  · -- The second byte has a narrower range behind the first and the last lead byte.
    have hsecond : (if 0xE0 + n / 0x1000 = 0xE0 then 0xA0 else 0x80) ≤ 0x80 + n / 0x40 % 0x40 ∧
        0x80 + n / 0x40 % 0x40 ≤ (if 0xE0 + n / 0x1000 = 0xED then 0x9F else 0xBF) := by
      split_ifs <;> omega
    simp only [steps,
      step_lead_three (show 0xE0 ≤ 0xE0 + n / 0x1000 ∧ 0xE0 + n / 0x1000 ≤ 0xEF by omega),
      step_tail hsecond,
      step_last (show 0x80 ≤ 0x80 + n % 0x40 ∧ 0x80 + n % 0x40 ≤ 0xBF by omega),
      Option.bind_eq_bind, Option.bind_some]
    simp
    omega
  · have hsecond : (if 0xF0 + n / 0x40000 = 0xF0 then 0x90 else 0x80) ≤ 0x80 + n / 0x1000 % 0x40 ∧
        0x80 + n / 0x1000 % 0x40 ≤ (if 0xF0 + n / 0x40000 = 0xF4 then 0x8F else 0xBF) := by
      split_ifs <;> omega
    simp only [steps,
      step_lead_four (show 0xF0 ≤ 0xF0 + n / 0x40000 ∧ 0xF0 + n / 0x40000 ≤ 0xF4 by omega),
      step_tail hsecond,
      step_tail (show 0x80 ≤ 0x80 + n / 0x40 % 0x40 ∧
        0x80 + n / 0x40 % 0x40 ≤ 0xBF by omega),
      step_last (show 0x80 ≤ 0x80 + n % 0x40 ∧ 0x80 + n % 0x40 ≤ 0xBF by omega),
      Option.bind_eq_bind, Option.bind_some]
    simp
    omega

theorem encodeCodePoint_lt {n : ℕ} (hn : n.isValidChar) : ∀ b ∈ encodeCodePoint n, b < 256 := by
  unfold Nat.isValidChar at hn
  unfold encodeCodePoint
  split_ifs <;> simp <;> omega

/-- The decoder inverts the encoder. -/
theorem decodeFrom_encode (chars : List Char) :
    decodeFrom start (encode chars) = some (start, chars.map Char.toNat) := by
  induction chars with
  | nil => rfl
  | cons c chars ih =>
    have hc : c.toNat.isValidChar := c.valid
    rw [encode, List.flatMap_cons, decodeFrom_append,
      decodeFrom_map _ _ (encodeCodePoint_lt hc), steps_encodeCodePoint hc]
    simp only [Option.bind_some]
    rw [← encode, ih]
    rfl

end Utf8

/-! ## The decoder object -/

/-- The UTF-16 code units of a code point. -/
def encodeUtf16 (n : ℕ) : Text :=
  if n < 0x10000 then [UInt16.ofNat n]
  else [UInt16.ofNat (0xD800 + (n - 0x10000) / 0x400), UInt16.ofNat (0xDC00 + (n - 0x10000) % 0x400)]

/-- The text of a string literal. -/
def Text.of (s : String) : Text := s.toList.flatMap fun c => encodeUtf16 c.toNat

/-- A string literal is the list of its characters. -/
theorem Text.of_ofList (chars : List Char) :
    Text.of (String.ofList chars) = chars.flatMap fun c => encodeUtf16 c.toNat := by
  rw [Text.of, String.toList_ofList]

theorem Text.of_ofList_ne {chars chars' : List Char}
    (h : chars.flatMap (fun c => encodeUtf16 c.toNat) ≠
      chars'.flatMap fun c => encodeUtf16 c.toNat) :
    Text.of (String.ofList chars) ≠ Text.of (String.ofList chars') := by
  rw [of_ofList, of_ofList]
  exact h

/-- A byte order mark at the front is not part of the text. -/
def stripBom : List ℕ → List ℕ
  | 0xFEFF :: rest => rest
  | codePoints => codePoints

/-- A fatal streaming decoder, `new TextDecoder("utf-8", { fatal: true })`. -/
structure TextDecoder where
  state : Utf8.State := {}
  bomSeen : Bool := false
deriving DecidableEq, Repr

namespace TextDecoder

/-- `decode(bytes, { stream: true })`; `none` is a throw. -/
def decodeStream (d : TextDecoder) (bytes : List UInt8) : Option (TextDecoder × Text) := do
  let (state, codePoints) ← Utf8.decodeFrom d.state bytes
  let kept := if d.bomSeen then codePoints else stripBom codePoints
  pure ({ state, bomSeen := d.bomSeen || !codePoints.isEmpty }, kept.flatMap encodeUtf16)

/-- `decode()`: the end of the stream, after which the decoder starts anew. -/
def decodeEnd (d : TextDecoder) : Option (TextDecoder × Text) :=
  if d.state.needed = 0 then some ({}, []) else none

/-- The text of a whole stream of characters. -/
def textOf (chars : List Char) : Text := (stripBom (chars.map Char.toNat)).flatMap encodeUtf16

/-- A decoder that has read `bytes` of a stream and put out `text`. -/
def HasRead (d : TextDecoder) (bytes : List UInt8) (text : Text) : Prop :=
  ∃ codePoints, Utf8.decodeFrom Utf8.start bytes = some (d.state, codePoints) ∧
    d.bomSeen = !codePoints.isEmpty ∧ text = (stripBom codePoints).flatMap encodeUtf16

theorem hasRead_nil : HasRead {} [] [] := ⟨[], rfl, rfl, rfl⟩

theorem stripBom_append {as bs : List ℕ} :
    stripBom (as ++ bs) = stripBom as ++ if as.isEmpty then stripBom bs else bs := by
  cases as with
  | nil => simp [stripBom]
  | cons a as =>
    by_cases ha : a = 0xFEFF
    · simp [stripBom, ha]
    · have hkeep : ∀ rest, stripBom (a :: rest) = a :: rest := fun rest => by
        unfold stripBom
        split
        · rename_i heq
          exact absurd (List.cons.inj heq).1 ha
        · rfl
      simp [hkeep]

/-- Reading a chunk of an encoded stream: the decoder accepts it and puts out the text that
belongs to it. -/
theorem HasRead.decodeStream {d : TextDecoder} {before chunk after : List UInt8} {text : Text}
    (h : d.HasRead before text) {chars : List Char}
    (hstream : before ++ chunk ++ after = Utf8.encode chars) :
    ∃ d' text', d.decodeStream chunk = some (d', text') ∧
      d'.HasRead (before ++ chunk) (text ++ text') := by
  obtain ⟨codePoints, hbefore, hbom, rfl⟩ := h
  have hall := Utf8.decodeFrom_encode chars
  rw [← hstream, List.append_assoc, Utf8.decodeFrom_append, hbefore, Option.bind_some] at hall
  simp only [Utf8.decodeFrom_append] at hall
  cases hchunk : Utf8.decodeFrom d.state chunk with
  | none => simp [hchunk] at hall
  | some p =>
    obtain ⟨state, rest⟩ := p
    refine ⟨_, _, by simp only [TextDecoder.decodeStream, hchunk]; rfl, codePoints ++ rest, ?_, ?_, ?_⟩
    · rw [Utf8.decodeFrom_append, hbefore]
      simp [hchunk]
    · cases codePoints <;> simp [hbom]
    · rw [stripBom_append, List.flatMap_append, hbom]
      cases codePoints <;> simp

/-- What has been put out is the front of the whole text. -/
theorem HasRead.isPrefix {d : TextDecoder} {before after : List UInt8} {text : Text}
    (h : d.HasRead before text) {chars : List Char}
    (hstream : before ++ after = Utf8.encode chars) : text <+: textOf chars := by
  obtain ⟨codePoints, hread, -, rfl⟩ := h
  have hall := Utf8.decodeFrom_encode chars
  rw [← hstream, Utf8.decodeFrom_append, hread, Option.bind_some] at hall
  cases hafter : Utf8.decodeFrom d.state after with
  | none => simp [hafter] at hall
  | some p =>
    have hcodePoints : codePoints ++ p.2 = chars.map Char.toNat := by
      simp only [hafter, Option.map_some, Option.some.injEq, Prod.mk.injEq] at hall
      exact hall.2
    rw [textOf, ← hcodePoints, stripBom_append, List.flatMap_append]
    exact List.prefix_append _ _

/-- After the whole stream the decoder is between two characters and has put out its text. -/
theorem HasRead.decodeEnd {d : TextDecoder} {text : Text} {chars : List Char}
    (h : d.HasRead (Utf8.encode chars) text) :
    d.decodeEnd = some ({}, []) ∧ text = textOf chars := by
  obtain ⟨codePoints, hread, -, rfl⟩ := h
  rw [Utf8.decodeFrom_encode, Option.some.injEq, Prod.mk.injEq] at hread
  obtain ⟨hstate, rfl⟩ := hread
  exact ⟨by rw [TextDecoder.decodeEnd, ← hstate]; rfl, rfl⟩

end TextDecoder
