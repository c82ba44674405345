import Mathlib.Data.List.TakeDrop
import Mathlib.Data.List.TakeWhile
import Threadwire.Text.Spelling

/-!
# The text of a JSON value

`Json.Value.text` writes a value as `JSON.stringify` does: members and items in order, no space
between tokens, and strings with their escapes. `parse_text` says that the parser reads every value
back, whatever it is made of, so two values with one text are the same value.

The lexer and the parser are separate passes, and so are the two halves of the proof: `lex_text`
gives the tokens of a text, in front of anything that does not continue its last token, and
`parseTokens_tokens` gives the value of these tokens, inside of any frames.
-/

namespace Json

namespace Value

/-- `JSON.stringify`, of a value as the parser gives it. -/
def text : Value → Text
  | .null => Text.of "null"
  | .bool true => Text.of "true"
  | .bool false => Text.of "false"
  | .number spelling => spelling
  | .string units => Text.quote units
  | .array items => 0x5B :: (itemTexts items ++ [0x5D])
  | .object members => 0x7B :: (memberTexts members ++ [0x7D])
where
  /-- The items, separated by commas. -/
  itemTexts : List Value → Text
    | [] => []
    | v :: items => v.text ++ moreItems items
  /-- The items after the first. -/
  moreItems : List Value → Text
    | [] => []
    | v :: items => 0x2C :: (v.text ++ moreItems items)
  /-- The members, separated by commas. -/
  memberTexts : List (Text × Value) → Text
    | [] => []
    | (name, v) :: members => Text.quote name ++ 0x3A :: (v.text ++ moreMembers members)
  /-- The members after the first. -/
  moreMembers : List (Text × Value) → Text
    | [] => []
    | (name, v) :: members => 0x2C :: (Text.quote name ++ 0x3A :: (v.text ++ moreMembers members))

/-- The tokens of a value. -/
def tokens : Value → List Token
  | .null => [.value .null]
  | .bool b => [.value (.bool b)]
  | .number spelling => [.value (.number spelling)]
  | .string units => [.string units]
  | .array items => .openBracket :: (itemTokens items ++ [.closeBracket])
  | .object members => .openBrace :: (memberTokens members ++ [.closeBrace])
where
  itemTokens : List Value → List Token
    | [] => []
    | v :: items => v.tokens ++ moreItems items
  moreItems : List Value → List Token
    | [] => []
    | v :: items => .comma :: (v.tokens ++ moreItems items)
  memberTokens : List (Text × Value) → List Token
    | [] => []
    | (name, v) :: members => .string name :: .colon :: (v.tokens ++ moreMembers members)
  moreMembers : List (Text × Value) → List Token
    | [] => []
    | (name, v) :: members => .comma :: .string name :: .colon :: (v.tokens ++ moreMembers members)

/-- A value whose numbers are spelled as JSON spells numbers. -/
inductive Spelled : Value → Prop
  | null : Spelled .null
  | bool (b : Bool) : Spelled (.bool b)
  | number {spelling : Text} (h : isNumber spelling = true) : Spelled (.number spelling)
  | string (units : Text) : Spelled (.string units)
  | array {items : List Value} (h : ∀ v ∈ items, Spelled v) : Spelled (.array items)
  | object {members : List (Text × Value)} (h : ∀ m ∈ members, Spelled m.2) :
      Spelled (.object members)

end Value

/-! ## Literal names and numbers -/

section Bare

variable {s text : Text}

theorem isBare_of_isDigit {c : UInt16} (h : isDigit c = true) : isBare c = true := by
  rw [isBare, h]
  rfl

/-- What follows the digits in front decides. -/
theorem isBare_of_rest (h : ∀ c ∈ s.dropWhile isDigit, isBare c = true) :
    ∀ c ∈ s, isBare c = true := by
  intro c hc
  rw [← List.takeWhile_append_dropWhile (p := isDigit) (l := s), List.mem_append] at hc
  rcases hc with hc | hc
  · exact isBare_of_isDigit (List.mem_takeWhile_imp hc)
  · exact h c hc

/-- An exponent's digits reach to the end. -/
theorem isBare_of_exponent
    (h : (match s with
      | 0x2B :: s | 0x2D :: s => s
      | s => s).dropWhile isDigit = []) : ∀ c ∈ s, isBare c = true := by
  split at h
  · exact List.forall_mem_cons.mpr ⟨rfl, isBare_of_rest (by simp [h])⟩
  · exact List.forall_mem_cons.mpr ⟨rfl, isBare_of_rest (by simp [h])⟩
  · exact isBare_of_rest (by simp [h])

/-- What may follow the fraction: an exponent, or nothing. -/
theorem isBare_of_exponentPart
    (h : (match s with
      | 0x65 :: s | 0x45 :: s =>
        (some ((match s with | 0x2B :: s | 0x2D :: s => s | s => s).takeWhile isDigit),
          (match s with | 0x2B :: s | 0x2D :: s => s | s => s).dropWhile isDigit)
      | s => (none, s)).2 = []) : ∀ c ∈ s, isBare c = true := by
  split at h
  · exact List.forall_mem_cons.mpr ⟨rfl, isBare_of_exponent h⟩
  · exact List.forall_mem_cons.mpr ⟨rfl, isBare_of_exponent h⟩
  · intro c hc
    exact absurd hc (by rw [show s = [] from h]; exact List.not_mem_nil)

/-- A number is made of the characters that the lexer keeps together. -/
theorem isBare_of_isNumber (h : isNumber s = true) : ∀ c ∈ s, isBare c = true := by
  have hsign : (∀ c ∈ if s.head? == some 0x2D then s.tail else s, isBare c = true) →
      ∀ c ∈ s, isBare c = true := by
    intro hrest
    split_ifs at hrest with hminus
    · cases s with
      | nil => exact hrest
      | cons c s =>
        obtain rfl : c = 0x2D := by simpa using hminus
        exact List.forall_mem_cons.mpr ⟨rfl, hrest⟩
    · exact hrest
  simp only [isNumber, List.span_eq_takeWhile_dropWhile, Bool.and_eq_true, decide_eq_true_eq] at h
  refine hsign (isBare_of_rest ?_)
  have hend := h.2
  generalize (if s.head? == some 0x2D then s.tail else s).dropWhile isDigit = r at hend ⊢
  have hexponent := isBare_of_exponentPart hend
  split at hexponent
  · exact List.forall_mem_cons.mpr ⟨rfl, isBare_of_rest hexponent⟩
  · exact hexponent

/-- The token of a number is the number. -/
theorem bareToken_number (h : isNumber s = true) : bareToken s = some (.value (.number s)) := by
  have hname : ∀ chars : List Char, isNumber (chars.flatMap fun c => encodeUtf16 c.toNat) = false →
      s ≠ Text.of (String.ofList chars) := by
    rintro chars hchars rfl
    rw [Text.of_ofList, hchars] at h
    exact absurd h (by decide)
  rw [bareToken, if_neg (hname ['n', 'u', 'l', 'l'] (by decide)),
    if_neg (hname ['t', 'r', 'u', 'e'] (by decide)),
    if_neg (hname ['f', 'a', 'l', 's', 'e'] (by decide)), if_pos h]

/-- A text that does not continue a literal name or a number in front of it. -/
def Stops (text : Text) : Prop := ∀ c ∈ text.head?, isBare c = false

theorem lex_bare (hs : ∀ c ∈ s, isBare c = true) (spelling : Text) :
    lex (.bare spelling) (s ++ text) = lex (.bare (spelling ++ s)) text := by
  induction s generalizing spelling with
  | nil => rw [List.nil_append, List.append_nil]
  | cons c s ih =>
    obtain ⟨hc, hs⟩ := List.forall_mem_cons.mp hs
    have hstep : lexStep (.bare spelling) c = some (.bare (spelling ++ [c]), []) := by
      rw [lexStep, if_pos hc]
    rw [List.cons_append, lex_cons_of_step hstep, ih hs, List.append_assoc, List.singleton_append]

/-- A character of a literal name or a number opens it. -/
theorem lexStep_between {c : UInt16} (hc : isBare c = true) :
    lexStep .between c = some (.bare [c], []) := by
  have hne : ∀ d, isBare d = false → c ≠ d := by
    rintro d hd rfl
    rw [hc] at hd
    cases hd
  have hspace : isSpace c = false := by
    simp only [isSpace, Bool.or_eq_false_iff, beq_eq_false_iff_ne]
    exact ⟨⟨⟨hne _ (by decide), hne _ (by decide)⟩, hne _ (by decide)⟩, hne _ (by decide)⟩
  rw [lexStep, lexBetween, hspace, if_neg (by decide), if_neg (hne _ (by decide)),
    if_neg (hne _ (by decide)), if_neg (hne _ (by decide)), if_neg (hne _ (by decide)),
    if_neg (hne _ (by decide)), if_neg (hne _ (by decide)), if_neg (hne _ (by decide)), if_pos hc]

/-- A literal name or a number is one token, in front of what does not continue it. -/
theorem lex_bareText {token : Token} (hs : ∀ c ∈ s, isBare c = true)
    (htoken : bareToken s = some token) (hne : s ≠ []) (htext : Stops text) :
    lex .between (s ++ text) = (lex .between text).map (token :: ·) := by
  obtain ⟨c, s, rfl⟩ := List.exists_cons_of_ne_nil hne
  obtain ⟨hc, hs⟩ := List.forall_mem_cons.mp hs
  rw [List.cons_append, lex_cons_of_step (lexStep_between hc), lex_bare hs, List.singleton_append]
  cases text with
  | nil =>
    have hend : lex (.bare (c :: s)) [] = (bareToken (c :: s)).map fun token => [token] := by
      simp only [lex]
    rw [hend, htoken]
    rfl
  | cons d text =>
    have hstep : lexStep (.bare (c :: s)) d =
        (lexStep .between d).map fun next => (next.1, token :: next.2) := by
      have hd : isBare d = false := htext d rfl
      simp only [lexStep, hd, htoken, Option.bind_eq_bind, Option.bind_some]
      cases lexBetween d <;> rfl
    rw [lex_cons, lex_cons, hstep]
    cases lexStep .between d with
    | none => rfl
    | some next => simp [Option.map_map, Function.comp_def]

end Bare

/-! ## The lexer -/

/-- The lexer reads a text as these tokens, in front of what does not continue it. -/
def Lexes (text : Text) (tokens : List Token) : Prop :=
  ∀ rest, Stops rest → lex .between (text ++ rest) = (lex .between rest).map (tokens ++ ·)

/-- A text that does not continue what is in front of it, wherever it stands. -/
def Follows (text : Text) : Prop := ∀ rest, Stops rest → Stops (text ++ rest)

section Lexes

variable {a b : Text} {as bs : List Token}

theorem Stops.of_head {c : UInt16} (hc : isBare c = false) : Stops (c :: a) := by
  intro d hd
  rw [List.head?_cons, Option.mem_some_iff] at hd
  rwa [← hd]

theorem follows_nil : Follows [] := fun _ h => h

theorem Follows.of_head {c : UInt16} (hc : isBare c = false) : Follows (c :: a) :=
  fun _ _ => .of_head hc

theorem Lexes.nil : Lexes [] [] := by
  intro rest _
  simp

theorem Lexes.append (ha : Lexes a as) (hb : Lexes b bs) (hfollows : Follows b) :
    Lexes (a ++ b) (as ++ bs) := by
  intro rest hrest
  rw [List.append_assoc, ha _ (hfollows rest hrest), hb rest hrest, Option.map_map]
  simp [Function.comp_def]

/-- A punctuation mark in front. -/
theorem Lexes.mark {c : UInt16} {token : Token} (h : lexStep .between c = some (.between, [token]))
    (ha : Lexes a as) : Lexes (c :: a) (token :: as) := by
  intro rest hrest
  rw [List.cons_append, lex_cons_of_token h, ha rest hrest, Option.map_map]
  rfl

/-- A string in front. -/
theorem Lexes.quote (t : Text) (ha : Lexes a as) : Lexes (Text.quote t ++ a) (.string t :: as) := by
  intro rest hrest
  rw [List.append_assoc, lex_quote, ha rest hrest, Option.map_map]
  rfl

theorem Lexes.of_bare {token : Token} (ha : ∀ c ∈ a, isBare c = true)
    (htoken : bareToken a = some token) (hne : a ≠ []) : Lexes a [token] := by
  intro rest hrest
  rw [lex_bareText ha htoken hne hrest]
  rfl

end Lexes

section Lists

variable {items : List Value} {members : List (Text × Value)}

theorem follows_moreItems : Follows (Value.text.moreItems items) := by
  cases items with
  | nil => exact follows_nil
  | cons v items => exact Follows.of_head rfl

theorem follows_moreMembers : Follows (Value.text.moreMembers members) := by
  cases members with
  | nil => exact follows_nil
  | cons m members => exact Follows.of_head rfl

theorem lexes_moreItems (h : ∀ v ∈ items, Lexes v.text v.tokens) :
    Lexes (Value.text.moreItems items) (Value.tokens.moreItems items) := by
  induction items with
  | nil => exact Lexes.nil
  | cons v items ih =>
    obtain ⟨hv, hitems⟩ := List.forall_mem_cons.mp h
    exact Lexes.mark rfl (hv.append (ih hitems) follows_moreItems)

theorem lexes_itemTexts (h : ∀ v ∈ items, Lexes v.text v.tokens) :
    Lexes (Value.text.itemTexts items) (Value.tokens.itemTokens items) := by
  cases items with
  | nil => exact Lexes.nil
  | cons v items =>
    obtain ⟨hv, hitems⟩ := List.forall_mem_cons.mp h
    exact hv.append (lexes_moreItems hitems) follows_moreItems

/-- A member's name, its colon and its value, in front of the other members. -/
theorem lexes_member (name : Text) {v : Value} (hv : Lexes v.text v.tokens)
    (hmembers : Lexes (Value.text.moreMembers members) (Value.tokens.moreMembers members)) :
    Lexes (Text.quote name ++ 0x3A :: (v.text ++ Value.text.moreMembers members))
      (.string name :: .colon :: (v.tokens ++ Value.tokens.moreMembers members)) :=
  Lexes.quote name (Lexes.mark rfl (hv.append hmembers follows_moreMembers))

theorem lexes_moreMembers (h : ∀ m ∈ members, Lexes m.2.text m.2.tokens) :
    Lexes (Value.text.moreMembers members) (Value.tokens.moreMembers members) := by
  induction members with
  | nil => exact Lexes.nil
  | cons m members ih =>
    obtain ⟨hm, hmembers⟩ := List.forall_mem_cons.mp h
    exact Lexes.mark rfl (lexes_member m.1 hm (ih hmembers))

theorem lexes_memberTexts (h : ∀ m ∈ members, Lexes m.2.text m.2.tokens) :
    Lexes (Value.text.memberTexts members) (Value.tokens.memberTokens members) := by
  cases members with
  | nil => exact Lexes.nil
  | cons m members =>
    obtain ⟨hm, hmembers⟩ := List.forall_mem_cons.mp h
    exact lexes_member m.1 hm (lexes_moreMembers hmembers)

end Lists

/-- The tokens of a value's text. -/
theorem lex_text {v : Value} (h : v.Spelled) : Lexes v.text v.tokens := by
  induction h with
  | null =>
    rw [Value.text, Value.tokens]
    refine Lexes.of_bare (List.all_eq_true.mp ?_) (by rw [bareToken, if_pos rfl]) ?_ <;>
      rw [Text.of_ofList] <;> decide
  | bool b =>
    cases b with
    | true =>
      rw [Value.text, Value.tokens]
      refine Lexes.of_bare (List.all_eq_true.mp ?_)
        (by rw [bareToken, if_neg (Text.of_ofList_ne (by decide)), if_pos rfl]) ?_ <;>
        rw [Text.of_ofList] <;> decide
    | false =>
      rw [Value.text, Value.tokens]
      refine Lexes.of_bare (List.all_eq_true.mp ?_)
        (by rw [bareToken, if_neg (Text.of_ofList_ne (by decide)),
          if_neg (Text.of_ofList_ne (by decide)), if_pos rfl]) ?_ <;>
        rw [Text.of_ofList] <;> decide
  | number h =>
    rw [Value.text, Value.tokens]
    refine Lexes.of_bare (isBare_of_isNumber h) (bareToken_number h) ?_
    rintro rfl
    exact absurd h (by decide)
  | string units =>
    rw [Value.text, Value.tokens, ← List.append_nil (Text.quote units)]
    exact Lexes.quote units Lexes.nil
  | array h ih =>
    -- The closing mark is what the last item is followed by; a mark continues no token.
    rw [Value.text, Value.tokens]
    exact Lexes.mark rfl ((lexes_itemTexts ih).append (Lexes.mark rfl Lexes.nil)
      (Follows.of_head rfl))
  | object h ih =>
    rw [Value.text, Value.tokens]
    exact Lexes.mark rfl ((lexes_memberTexts ih).append (Lexes.mark rfl Lexes.nil)
      (Follows.of_head rfl))

/-! ## The parser -/

/-- The parser reads tokens as a value, inside of any frames and in front of anything. -/
def Parses (tokens : List Token) (v : Value) : Prop :=
  ∀ frames rest, parseTokens .value frames (tokens ++ rest) = parseTokens (.after v) frames rest ∧
    parseTokens .valueOrClose frames (tokens ++ rest) = parseTokens (.after v) frames rest

/-- The items after one that was read, up to the end of the array. -/
theorem parseTokens_moreItems {items : List Value} (h : ∀ v ∈ items, Parses v.tokens v)
    (before : List Value) (v : Value) (frames : List Frame) (rest : List Token) :
    parseTokens (.after v) (.array before :: frames)
      (Value.tokens.moreItems items ++ .closeBracket :: rest) =
      parseTokens (.after (.array (before ++ v :: items))) frames rest := by
  induction items generalizing before v with
  | nil => rfl
  | cons w items ih =>
    obtain ⟨hw, hitems⟩ := List.forall_mem_cons.mp h
    rw [Value.tokens.moreItems, List.cons_append, parseTokens, List.append_assoc, (hw _ _).1,
      ih hitems, List.append_assoc]
    rfl

/-- The members after one that was read, up to the end of the object. -/
theorem parseTokens_moreMembers {members : List (Text × Value)}
    (h : ∀ m ∈ members, Parses m.2.tokens m.2) (before : List (Text × Value)) (name : Text)
    (v : Value) (frames : List Frame) (rest : List Token) :
    parseTokens (.after v) (.object before name :: frames)
      (Value.tokens.moreMembers members ++ .closeBrace :: rest) =
      parseTokens (.after (.object (before ++ (name, v) :: members))) frames rest := by
  induction members generalizing before name v with
  | nil => rfl
  | cons m members ih =>
    obtain ⟨hm, hmembers⟩ := List.forall_mem_cons.mp h
    obtain ⟨name', w⟩ := m
    rw [Value.tokens.moreMembers, List.cons_append, parseTokens, List.cons_append, parseTokens,
      List.cons_append, parseTokens, List.append_assoc, (hm _ _).1, ih hmembers, List.append_assoc]
    rfl

/-- The value of a value's tokens. -/
theorem parseTokens_tokens {v : Value} (h : v.Spelled) : Parses v.tokens v := by
  induction h with
  | null => exact fun frames rest => ⟨rfl, rfl⟩
  | bool b => exact fun frames rest => ⟨rfl, rfl⟩
  | number h => exact fun frames rest => ⟨rfl, rfl⟩
  | string units => exact fun frames rest => ⟨rfl, rfl⟩
  | @array items h ih =>
    intro frames rest
    have hread : parseTokens .valueOrClose (.array [] :: frames)
        (Value.tokens.itemTokens items ++ .closeBracket :: rest) =
        parseTokens (.after (.array items)) frames rest := by
      cases items with
      | nil => rfl
      | cons v items =>
        obtain ⟨hv, hitems⟩ := List.forall_mem_cons.mp ih
        rw [Value.tokens.itemTokens, List.append_assoc, (hv _ _).2, parseTokens_moreItems hitems]
        rfl
    rw [Value.tokens, List.cons_append, parseTokens, parseTokens, List.append_assoc]
    -- The two states that a value can open in treat an array alike.
    exact ⟨hread, hread⟩
  | @object members h ih =>
    intro frames rest
    have hread : parseTokens .nameOrClose frames
        (Value.tokens.memberTokens members ++ .closeBrace :: rest) =
        parseTokens (.after (.object members)) frames rest := by
      cases members with
      | nil => rfl
      | cons m members =>
        obtain ⟨hm, hmembers⟩ := List.forall_mem_cons.mp ih
        obtain ⟨name, v⟩ := m
        rw [Value.tokens.memberTokens, List.cons_append, parseTokens, List.cons_append, parseTokens,
          List.append_assoc, (hm _ _).1, parseTokens_moreMembers hmembers]
        rfl
    rw [Value.tokens, List.cons_append, parseTokens, parseTokens, List.append_assoc]
    exact ⟨hread, hread⟩

/-- `JSON.parse` inverts `JSON.stringify`. -/
theorem parse_text {v : Value} (h : v.Spelled) : parse v.text = some v := by
  have hlex : lex .between v.text = some v.tokens := by
    have hlex := lex_text h [] (fun c hc => by cases hc)
    rw [List.append_nil] at hlex
    rw [hlex, lex, Option.map_some, List.append_nil]
  have hparse := (parseTokens_tokens h [] []).1
  rw [List.append_nil] at hparse
  rw [parse, hlex]
  exact hparse


end Json
