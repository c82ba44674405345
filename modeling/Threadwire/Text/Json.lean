import Threadwire.Text.Utf8

/-!
# JSON texts

A parser for JSON over UTF-16 code units, in two passes, each a recursion on its input: a lexer that
carries the token it is inside of, and a parser that carries the arrays and objects it is inside of.
Numbers keep their spelling, strings their code units (escapes may produce lone surrogates), and an
object its members in order; of two members with one name the later one counts.
-/

namespace Json

/-- A JSON value. -/
inductive Value where
  | null
  | bool (b : Bool)
  | number (spelling : Text)
  | string (units : Text)
  | array (items : List Value)
  | object (members : List (Text × Value))

/-- The value of an object's own property. -/
def Value.property? : Value → Text → Option Value
  | .object members, name => (members.reverse.find? fun m => m.1 == name).map Prod.snd
  | _, _ => none

/-! ## Tokens -/

inductive Token where
  | openBrace
  | closeBrace
  | openBracket
  | closeBracket
  | comma
  | colon
  | value (v : Value)
  | string (units : Text)

/-- What the lexer is inside of. -/
inductive Lexer where
  | between
  | bare (spelling : Text)
  | string (units : Text)
  | escape (units : Text)
  | unicode (units : Text) (unit digits : ℕ)

def isDigit (c : UInt16) : Bool := 0x30 ≤ c && c ≤ 0x39

/-- `-? (0 | [1-9][0-9]*) (. [0-9]+)? ([eE] [+-]? [0-9]+)?`. -/
def isNumber (spelling : Text) : Bool :=
  let s := if spelling.head? == some 0x2D then spelling.tail else spelling
  let (int, s) := s.span isDigit
  let (frac, s) := match s with
    | 0x2E :: s => let (digits, s) := s.span isDigit; (some digits, s)
    | s => (none, s)
  let (exp, s) := match s with
    | 0x65 :: s | 0x45 :: s =>
      let s := match s with | 0x2B :: s | 0x2D :: s => s | s => s
      let (digits, s) := s.span isDigit; (some digits, s)
    | s => (none, s)
  int ≠ [] && (int.length = 1 || int.head? ≠ some 0x30) && frac ≠ some [] && exp ≠ some [] && s = []

/-- The token of a spelling without quotes and punctuation. -/
def bareToken (spelling : Text) : Option Token :=
  if spelling = Text.of "null" then some (.value .null)
  else if spelling = Text.of "true" then some (.value (.bool true))
  else if spelling = Text.of "false" then some (.value (.bool false))
  else if isNumber spelling then some (.value (.number spelling))
  else none

def isSpace (c : UInt16) : Bool := c == 0x20 || c == 0x09 || c == 0x0A || c == 0x0D

/-- The characters numbers and literal names are made of. -/
def isBare (c : UInt16) : Bool :=
  isDigit c || (0x61 ≤ c && c ≤ 0x7A) || (0x41 ≤ c && c ≤ 0x5A) || c == 0x2B || c == 0x2D || c == 0x2E

def hexDigit? (c : UInt16) : Option ℕ :=
  let n := c.toNat
  if 0x30 ≤ n ∧ n ≤ 0x39 then some (n - 0x30)
  else if 0x61 ≤ n ∧ n ≤ 0x66 then some (n - 0x57)
  else if 0x41 ≤ n ∧ n ≤ 0x46 then some (n - 0x37)
  else none

/-- The unit of a one-character escape. -/
def escape? (c : UInt16) : Option UInt16 :=
  if c = 0x22 ∨ c = 0x5C ∨ c = 0x2F then some c
  else if c = 0x62 then some 0x08
  else if c = 0x66 then some 0x0C
  else if c = 0x6E then some 0x0A
  else if c = 0x72 then some 0x0D
  else if c = 0x74 then some 0x09
  else none

/-- A character between two tokens. -/
def lexBetween (c : UInt16) : Option (Lexer × List Token) :=
  if isSpace c then some (.between, [])
  else if c = 0x22 then some (.string [], [])
  else if c = 0x7B then some (.between, [.openBrace])
  else if c = 0x7D then some (.between, [.closeBrace])
  else if c = 0x5B then some (.between, [.openBracket])
  else if c = 0x5D then some (.between, [.closeBracket])
  else if c = 0x2C then some (.between, [.comma])
  else if c = 0x3A then some (.between, [.colon])
  else if isBare c then some (.bare [c], [])
  else none

/-- One character: the lexer after it and the tokens it completes. -/
def lexStep : Lexer → UInt16 → Option (Lexer × List Token)
  | .between, c => lexBetween c
  | .bare spelling, c =>
    if isBare c then some (.bare (spelling ++ [c]), [])
    else do
      let token ← bareToken spelling
      let (lexer, tokens) ← lexBetween c
      pure (lexer, token :: tokens)
  | .string units, c =>
    if c = 0x22 then some (.between, [.string units])
    else if c = 0x5C then some (.escape units, [])
    else if c < 0x20 then none
    else some (.string (units ++ [c]), [])
  | .escape units, c =>
    if c = 0x75 then some (.unicode units 0 0, [])
    else (escape? c).map fun unit => (.string (units ++ [unit]), [])
  | .unicode units unit digits, c => do
    let digit ← hexDigit? c
    let unit := unit * 16 + digit
    if digits = 3 then pure (.string (units ++ [UInt16.ofNat unit]), [])
    else pure (.unicode units unit (digits + 1), [])

/-- The tokens of a text. -/
def lex : Lexer → Text → Option (List Token)
  | .between, [] => some []
  | .bare spelling, [] => (bareToken spelling).map fun token => [token]
  | _, [] => none
  | lexer, c :: text => do
    let (lexer, tokens) ← lexStep lexer c
    let rest ← lex lexer text
    pure (tokens ++ rest)

/-! ## Values -/

/-- An array or an object that is not closed yet; an object with the name of its next member. -/
inductive Frame where
  | array (items : List Value)
  | object (members : List (Text × Value)) (name : Text)

/-- What may come next. -/
inductive Expect where
  | value
  | valueOrClose
  | name (members : List (Text × Value))
  | nameOrClose
  | colon (members : List (Text × Value)) (name : Text)
  | after (v : Value)

/-- Parse tokens inside of the given frames, the innermost first. -/
def parseTokens : Expect → List Frame → List Token → Option Value
  | .after v, [], [] => some v
  | .after v, .array items :: frames, .comma :: tokens =>
    parseTokens .value (.array (items ++ [v]) :: frames) tokens
  | .after v, .array items :: frames, .closeBracket :: tokens =>
    parseTokens (.after (.array (items ++ [v]))) frames tokens
  | .after v, .object members name :: frames, .comma :: tokens =>
    parseTokens (.name (members ++ [(name, v)])) frames tokens
  | .after v, .object members name :: frames, .closeBrace :: tokens =>
    parseTokens (.after (.object (members ++ [(name, v)]))) frames tokens
  | .value, frames, .value v :: tokens
  | .valueOrClose, frames, .value v :: tokens => parseTokens (.after v) frames tokens
  | .value, frames, .string units :: tokens
  | .valueOrClose, frames, .string units :: tokens =>
    parseTokens (.after (.string units)) frames tokens
  | .value, frames, .openBracket :: tokens
  | .valueOrClose, frames, .openBracket :: tokens =>
    parseTokens .valueOrClose (.array [] :: frames) tokens
  | .value, frames, .openBrace :: tokens
  | .valueOrClose, frames, .openBrace :: tokens => parseTokens .nameOrClose frames tokens
  | .valueOrClose, .array _ :: frames, .closeBracket :: tokens =>
    parseTokens (.after (.array [])) frames tokens
  | .nameOrClose, frames, .closeBrace :: tokens => parseTokens (.after (.object [])) frames tokens
  | .nameOrClose, frames, .string name :: tokens => parseTokens (.colon [] name) frames tokens
  | .name members, frames, .string name :: tokens =>
    parseTokens (.colon members name) frames tokens
  | .colon members name, frames, .colon :: tokens =>
    parseTokens .value (.object members name :: frames) tokens
  | _, _, _ => none

/-- `JSON.parse`; `none` is a throw. -/
def parse (text : Text) : Option Value := do
  let tokens ← lex .between text
  parseTokens .value [] tokens

end Json
