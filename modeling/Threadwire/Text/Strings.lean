import Threadwire.Text.Utf8

/-!
# String operations

The operations of JavaScript strings the repository uses, on their UTF-16 code units: trimming, lower
case for header values, byte lengths, and the spelling of a string in JSON.
-/

namespace Text

/-- The white space and line terminators that `trim` removes. -/
def isWhiteSpace (c : UInt16) : Bool :=
  (0x09 ≤ c && c ≤ 0x0D) || c == 0x20 || c == 0xA0 || c == 0x1680 ||
    (0x2000 ≤ c && c ≤ 0x200A) || c == 0x2028 || c == 0x2029 || c == 0x202F || c == 0x205F ||
    c == 0x3000 || c == 0xFEFF

/-- `trim`. -/
def trim (text : Text) : Text :=
  ((text.dropWhile isWhiteSpace).reverse.dropWhile isWhiteSpace).reverse

/-- `toLowerCase`, for the characters a header value can hold: those up to `0xFF`. -/
def toLowerCase (text : Text) : Text :=
  text.map fun c =>
    if (0x41 ≤ c && c ≤ 0x5A) || (0xC0 ≤ c && c ≤ 0xDE && c != 0xD7) then c + 0x20 else c

def isHighSurrogate (c : UInt16) : Bool := 0xD800 ≤ c && c ≤ 0xDBFF

def isLowSurrogate (c : UInt16) : Bool := 0xDC00 ≤ c && c ≤ 0xDFFF

/-- The UTF-8 length of a unit that is not half of a pair; a lone surrogate is replaced. -/
def unitByteLength (c : UInt16) : ℕ := if c < 0x80 then 1 else if c < 0x800 then 2 else 3

/-- `Buffer.byteLength(text, "utf8")`. -/
def byteLength : Text → ℕ
  | [] => 0
  | [c] => unitByteLength c
  | c :: d :: rest =>
    if isHighSurrogate c && isLowSurrogate d then 4 + byteLength rest
    else unitByteLength c + byteLength (d :: rest)

/-- `[...text].length`: the number of code points, where a lone surrogate is one. -/
def codePointLength : Text → ℕ
  | [] => 0
  | [_] => 1
  | c :: d :: rest =>
    if isHighSurrogate c && isLowSurrogate d then 1 + codePointLength rest
    else 1 + codePointLength (d :: rest)

/-- A hexadecimal digit in lower case. -/
def hexDigit (n : ℕ) : UInt16 := if n < 10 then UInt16.ofNat (0x30 + n) else UInt16.ofNat (0x57 + n)

/-- `\uXXXX`. -/
def unicodeEscape (c : UInt16) : Text :=
  [0x5C, 0x75, hexDigit (c.toNat / 0x1000), hexDigit (c.toNat / 0x100 % 0x10),
    hexDigit (c.toNat / 0x10 % 0x10), hexDigit (c.toNat % 0x10)]

/-- The spelling of a unit that is not half of a pair. -/
def quoteUnit (c : UInt16) : Text :=
  if c = 0x22 ∨ c = 0x5C then [0x5C, c]
  else if c = 0x08 then [0x5C, 0x62]
  else if c = 0x09 then [0x5C, 0x74]
  else if c = 0x0A then [0x5C, 0x6E]
  else if c = 0x0C then [0x5C, 0x66]
  else if c = 0x0D then [0x5C, 0x72]
  else if c < 0x20 ∨ isHighSurrogate c ∨ isLowSurrogate c then unicodeEscape c
  else [c]

/-- The spelling of a string's units. -/
def quoteUnits : Text → Text
  | [] => []
  | [c] => quoteUnit c
  | c :: d :: rest =>
    if isHighSurrogate c && isLowSurrogate d then c :: d :: quoteUnits rest
    else quoteUnit c ++ quoteUnits (d :: rest)

/-- `JSON.stringify(text)`. -/
def quote (text : Text) : Text := [0x22] ++ quoteUnits text ++ [0x22]

end Text
