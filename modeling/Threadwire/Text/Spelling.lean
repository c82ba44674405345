import Threadwire.Text.Json
import Threadwire.Text.Strings

/-!
# The spelling of a string in JSON

`Text.quote` spells a string so that the lexer reads exactly its code units back, whatever they are:
quotes and backslashes, control characters and lone surrogates are escaped, everything else stands
for itself. `lex_quote` is that round trip, in front of any text. A spelling has no control
characters, so it is a single line.
-/

namespace Json

/-- The lexer over a text that is not empty. -/
theorem lex_cons (lexer : Lexer) (c : UInt16) (text : Text) :
    lex lexer (c :: text) =
      (lexStep lexer c).bind fun (lexer, tokens) => (lex lexer text).map (tokens ++ ·) := by
  cases lexer <;> (simp only [lex, Option.map_eq_bind]; rfl)

/-- A character that completes no token. -/
theorem lex_cons_of_step {lexer lexer' : Lexer} {c : UInt16} {text : Text}
    (h : lexStep lexer c = some (lexer', [])) : lex lexer (c :: text) = lex lexer' text := by
  rw [lex_cons, h, Option.bind_some]
  simp

/-- A character that completes one token. -/
theorem lex_cons_of_token {lexer lexer' : Lexer} {c : UInt16} {text : Text} {token : Token}
    (h : lexStep lexer c = some (lexer', [token])) :
    lex lexer (c :: text) = (lex lexer' text).map (token :: ·) := by
  rw [lex_cons, h, Option.bind_some]
  simp

/-! ## Single units -/

theorem hexDigit?_hexDigit : ∀ n < 16, hexDigit? (Text.hexDigit n) = some n := by decide

/-- A unit that stands for itself. -/
theorem lex_string_plain {units text : Text} {c : UInt16} (hquote : c ≠ 0x22)
    (hbackslash : c ≠ 0x5C) (hcontrol : ¬ c < 0x20) :
    lex (.string units) (c :: text) = lex (.string (units ++ [c])) text :=
  lex_cons_of_step (by rw [lexStep, if_neg hquote, if_neg hbackslash, if_neg hcontrol])

/-- A unit spelled with one character after the backslash. -/
theorem lex_string_escape {units text : Text} {c unit : UInt16} (hc : c ≠ 0x75)
    (hescape : escape? c = some unit) :
    lex (.string units) (0x5C :: c :: text) = lex (.string (units ++ [unit])) text := by
  have hopen : lexStep (.string units) 0x5C = some (.escape units, []) := by
    rw [lexStep, if_neg (by decide), if_pos rfl]
  rw [lex_cons_of_step hopen]
  exact lex_cons_of_step (by rw [lexStep, if_neg hc, hescape, Option.map_some])

/-- A hexadecimal digit that is not the last of its escape. -/
theorem lex_unicode_digit {units text : Text} {unit digits n : ℕ} (hn : n < 16) (hdigits : digits ≠ 3) :
    lex (.unicode units unit digits) (Text.hexDigit n :: text) =
      lex (.unicode units (unit * 16 + n) (digits + 1)) text :=
  lex_cons_of_step (by
    rw [lexStep, hexDigit?_hexDigit n hn]
    simp [hdigits])

/-- A unit spelled with four hexadecimal digits. -/
theorem lex_string_unicode (units text : Text) (c : UInt16) :
    lex (.string units) (Text.unicodeEscape c ++ text) = lex (.string (units ++ [c])) text := by
  have hlt : c.toNat < 0x10000 := c.toNat_lt
  have hopen : lexStep (.string units) 0x5C = some (.escape units, []) := by
    rw [lexStep, if_neg (by decide), if_pos rfl]
  have hunicode : lexStep (.escape units) 0x75 = some (.unicode units 0 0, []) := by
    rw [lexStep, if_pos rfl]
  have hvalue : (((0 * 16 + c.toNat / 0x1000) * 16 + c.toNat / 0x100 % 0x10) * 16 +
      c.toNat / 0x10 % 0x10) * 16 + c.toNat % 0x10 = c.toNat := by
    omega
  have hlast : lexStep (.unicode units (((0 * 16 + c.toNat / 0x1000) * 16 +
      c.toNat / 0x100 % 0x10) * 16 + c.toNat / 0x10 % 0x10) 3) (Text.hexDigit (c.toNat % 0x10)) =
      some (.string (units ++ [c]), []) := by
    rw [lexStep, hexDigit?_hexDigit _ (by omega)]
    simp only [Option.bind_eq_bind, Option.bind_some, if_pos, hvalue, UInt16.ofNat_toNat]
    rfl
  show lex _ (0x5C :: 0x75 :: _ :: _ :: _ :: _ :: text) = _
  rw [lex_cons_of_step hopen, lex_cons_of_step hunicode,
    lex_unicode_digit (by omega) (by decide), lex_unicode_digit (by omega) (by decide),
    lex_unicode_digit (by omega) (by decide), lex_cons_of_step hlast]

/-- The lexer reads a unit's spelling back. -/
theorem lex_quoteUnit (units text : Text) (c : UInt16) :
    lex (.string units) (Text.quoteUnit c ++ text) = lex (.string (units ++ [c])) text := by
  unfold Text.quoteUnit
  split_ifs with hself h08 h09 h0A h0C h0D hescaped
  · refine lex_string_escape ?_ ?_
    · rcases hself with rfl | rfl <;> decide
    · rcases hself with rfl | rfl <;> rfl
  · subst h08
    exact lex_string_escape (by decide) rfl
  · subst h09
    exact lex_string_escape (by decide) rfl
  · subst h0A
    exact lex_string_escape (by decide) rfl
  · subst h0C
    exact lex_string_escape (by decide) rfl
  · subst h0D
    exact lex_string_escape (by decide) rfl
  · exact lex_string_unicode units text c
  · obtain ⟨hquote, hbackslash⟩ := not_or.mp hself
    exact lex_string_plain hquote hbackslash fun hcontrol => hescaped (.inl hcontrol)

/-! ## Strings -/

/-- The units of a surrogate pair stand for themselves. -/
theorem surrogate_plain {c : UInt16} (h : 0xD800 ≤ c) : c ≠ 0x22 ∧ c ≠ 0x5C ∧ ¬ c < 0x20 := by
  rw [UInt16.le_iff_toNat_le] at h
  rw [UInt16.lt_iff_toNat_lt]
  refine ⟨?_, ?_, ?_⟩
  · rintro rfl
    exact absurd h (by decide)
  · rintro rfl
    exact absurd h (by decide)
  · have hbound : (0xD800 : UInt16).toNat = 55296 := rfl
    have hspace : (0x20 : UInt16).toNat = 32 := rfl
    omega

theorem lex_quoteUnits (units t text : Text) :
    lex (.string units) (Text.quoteUnits t ++ text) = lex (.string (units ++ t)) text := by
  induction t using Text.quoteUnits.induct generalizing units with
  | case1 => simp [Text.quoteUnits]
  | case2 c => exact lex_quoteUnit units text c
  | case3 c d rest hpair ih =>
    -- A pair is spelled as it is; both halves are above every unit that is escaped.
    have hsurrogates : 0xD800 ≤ c ∧ 0xD800 ≤ d := by
      simp only [Text.isHighSurrogate, Text.isLowSurrogate, Bool.and_eq_true,
        decide_eq_true_eq] at hpair
      obtain ⟨⟨hc, -⟩, hd, -⟩ := hpair
      exact ⟨hc, UInt16.le_trans (by decide) hd⟩
    obtain ⟨hquote, hbackslash, hcontrol⟩ := surrogate_plain hsurrogates.1
    obtain ⟨hquote', hbackslash', hcontrol'⟩ := surrogate_plain hsurrogates.2
    rw [Text.quoteUnits, if_pos hpair, List.cons_append, List.cons_append,
      lex_string_plain hquote hbackslash hcontrol, lex_string_plain hquote' hbackslash' hcontrol',
      ih, List.append_assoc, List.append_assoc]
    rfl
  | case4 c d rest hpair ih =>
    rw [Text.quoteUnits, if_neg hpair, List.append_assoc, lex_quoteUnit, ih, List.append_assoc]
    rfl

/-- The lexer reads a quoted string back as one token, whatever follows it. -/
theorem lex_quote (t text : Text) :
    lex .between (Text.quote t ++ text) = (lex .between text).map (.string t :: ·) := by
  have hopen : lexStep .between 0x22 = some (.string [], []) := rfl
  have hclose : lexStep (.string t) 0x22 = some (.between, [.string t]) := by
    rw [lexStep, if_pos rfl]
  rw [Text.quote, List.append_assoc, List.append_assoc, List.singleton_append,
    lex_cons_of_step hopen, lex_quoteUnits, List.nil_append, List.singleton_append,
    lex_cons_of_token hclose]

/-- An object with one member, whose value is a string. -/
theorem parse_object_string {name value : Text} :
    parse ([0x7B] ++ Text.quote name ++ [0x3A] ++ Text.quote value ++ [0x7D]) =
      some (.object [(name, .string value)]) := by
  have hopen : lexStep .between 0x7B = some (.between, [.openBrace]) := rfl
  have hcolon : lexStep .between 0x3A = some (.between, [.colon]) := rfl
  have hclose : lexStep .between 0x7D = some (.between, [.closeBrace]) := rfl
  have hlex : lex .between ([0x7B] ++ Text.quote name ++ [0x3A] ++ Text.quote value ++ [0x7D]) =
      some [.openBrace, .string name, .colon, .string value, .closeBrace] := by
    simp only [List.append_assoc, List.cons_append, List.nil_append]
    rw [lex_cons_of_token hopen, lex_quote, lex_cons_of_token hcolon, lex_quote,
      lex_cons_of_token hclose]
    rfl
  rw [parse, hlex]
  rfl

end Json

namespace Text

/-! ## Spellings are single lines -/

theorem le_hexDigit : ∀ n < 16, 0x20 ≤ hexDigit n := by decide

theorem le_of_mem_escape {c u : UInt16} (hc : 0x20 ≤ c) (hu : u ∈ [0x5C, c]) : 0x20 ≤ u := by
  rcases List.mem_cons.mp hu with rfl | hu
  · decide
  · rwa [List.mem_singleton.mp hu]

/-- The spelling of a unit has no control characters. -/
theorem le_of_mem_quoteUnit {c u : UInt16} (hu : u ∈ quoteUnit c) : 0x20 ≤ u := by
  unfold quoteUnit at hu
  split_ifs at hu with hself h08 h09 h0A h0C h0D hescaped
  · refine le_of_mem_escape ?_ hu
    rcases hself with rfl | rfl <;> decide
  · exact le_of_mem_escape (by decide) hu
  · exact le_of_mem_escape (by decide) hu
  · exact le_of_mem_escape (by decide) hu
  · exact le_of_mem_escape (by decide) hu
  · exact le_of_mem_escape (by decide) hu
  · have hlt : c.toNat < 0x10000 := c.toNat_lt
    simp only [unicodeEscape, List.mem_cons, List.not_mem_nil, or_false] at hu
    rcases hu with rfl | rfl | rfl | rfl | rfl | rfl
    · decide
    · decide
    · exact le_hexDigit _ (by omega)
    · exact le_hexDigit _ (by omega)
    · exact le_hexDigit _ (by omega)
    · exact le_hexDigit _ (by omega)
  · rw [List.mem_singleton.mp hu]
    exact UInt16.not_lt.mp fun hcontrol => hescaped (.inl hcontrol)

theorem le_of_mem_quoteUnits {t : Text} {u : UInt16} (hu : u ∈ quoteUnits t) : 0x20 ≤ u := by
  induction t using quoteUnits.induct with
  | case1 => exact absurd hu (by simp [quoteUnits])
  | case2 c => exact le_of_mem_quoteUnit hu
  | case3 c d rest hpair ih =>
    rw [quoteUnits, if_pos hpair] at hu
    simp only [isHighSurrogate, isLowSurrogate, Bool.and_eq_true, decide_eq_true_eq] at hpair
    rcases List.mem_cons.mp hu with rfl | hu
    · exact UInt16.le_trans (by decide) hpair.1.1
    rcases List.mem_cons.mp hu with rfl | hu
    · exact UInt16.le_trans (by decide) hpair.2.1
    · exact ih hu
  | case4 c d rest hpair ih =>
    rw [quoteUnits, if_neg hpair] at hu
    rcases List.mem_append.mp hu with hu | hu
    · exact le_of_mem_quoteUnit hu
    · exact ih hu

/-- A quoted string has no control characters, so no line ends inside of it. -/
theorem le_of_mem_quote {t : Text} {u : UInt16} (hu : u ∈ quote t) : 0x20 ≤ u := by
  rw [quote, List.mem_append, List.mem_append, List.mem_singleton] at hu
  rcases hu with (rfl | hu) | rfl
  · decide
  · exact le_of_mem_quoteUnits hu
  · decide

end Text
