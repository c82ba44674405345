import Mathlib.Algebra.Group.Nat.Defs
import Mathlib.Data.Int.Notation
import Threadwire.Text.Json

/-!
# Safe integers in JSON

The number a JSON spelling stands for is the binary64 number nearest to its decimal value, and of two
that are equally near the one whose significand is even. `Json.safeInteger?` says whether that number
is a safe integer, one of magnitude below `2 ^ 53`, and which.
-/

namespace Json

/-- A decimal: `digits * 10 ^ scale`, or the negative of it. -/
structure Decimal where
  negative : Bool
  digits : ℕ
  scale : ℤ
deriving DecidableEq, Repr

/-- The value of decimal digits. -/
def digitsValue (digits : Text) : ℕ := digits.foldl (fun n c => n * 10 + (c.toNat - 0x30)) 0

/-- The value of an exponent, an optional sign and digits. -/
def exponentValue : Text → ℤ
  | 0x2D :: digits => -(digitsValue digits : ℤ)
  | 0x2B :: digits => digitsValue digits
  | digits => digitsValue digits

/-- The decimal of a number's spelling. -/
def decimalOf (spelling : Text) : Decimal :=
  let negative := spelling.head? == some 0x2D
  let (int, rest) := (if negative then spelling.tail else spelling).span isDigit
  let (frac, rest) :=
    match rest with
    | 0x2E :: rest => rest.span isDigit
    | rest => ([], rest)
  { negative
    digits := digitsValue (int ++ frac)
    scale := exponentValue rest.tail - frac.length }

/-- Round `n / d` to the nearest integer, a half to the even one. -/
def roundHalfEven (n d : ℕ) : ℕ :=
  if 2 * (n % d) < d then n / d
  else if d < 2 * (n % d) then n / d + 1
  else n / d + n / d % 2

/-- The binary64 number nearest to `n / d`, where it is an integer below `2 ^ 53`. Below one it is
`1` within half a unit of the last place under it, and `0` up to half of the least positive
number. -/
def nearestInteger? (n d : ℕ) : Option ℕ :=
  if n < d then
    if 2 ^ 54 * (d - n) ≤ d then some 1
    else if 2 ^ 1075 * n ≤ d then some 0
    else none
  else if d * 2 ^ 53 ≤ n then none
  else
    let fractionBits := 52 - Nat.log2 (n / d)
    let rounded := roundHalfEven (n * 2 ^ fractionBits) d
    if rounded % 2 ^ fractionBits = 0 ∧ rounded / 2 ^ fractionBits < 2 ^ 53 then
      some (rounded / 2 ^ fractionBits)
    else none

/-- The number of a spelling, where `Number.isSafeInteger` holds of it. -/
def safeInteger? (spelling : Text) : Option ℤ :=
  let decimal := decimalOf spelling
  let magnitude :=
    if 0 ≤ decimal.scale then nearestInteger? (decimal.digits * 10 ^ decimal.scale.toNat) 1
    else nearestInteger? decimal.digits (10 ^ (-decimal.scale).toNat)
  magnitude.map fun n => if decimal.negative then -(n : ℤ) else n

example : safeInteger? (Text.of "1e3") = some 1000 := by decide +kernel

example : safeInteger? (Text.of "9007199254740991.4") = some 9007199254740991 := by decide +kernel

end Json
