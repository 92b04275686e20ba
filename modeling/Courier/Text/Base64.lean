import Courier.Text.Basic

/-!
# Base64

Three octets are written as four characters of six bits each; one or two octets at the end are
written with zero bits to fill the last character and `=` to fill the group.
-/

namespace Courier.Base64

/-- The character of a number below 64. -/
def digit (n : Nat) : CodePoint :=
  if n < 26 then CodePoint.ofNat (0x41 + n)
  else if n < 52 then CodePoint.ofNat (0x61 + n - 26)
  else if n < 62 then CodePoint.ofNat (0x30 + n - 52)
  else if n = 62 then CodePoint.ofChar '+'
  else CodePoint.ofChar '/'

/-- The character that fills the last group. -/
def filler : CodePoint := CodePoint.ofChar '='

/-- The base64 form of octets. -/
def encode : Bytes → Text
  | [] => []
  | [a] =>
    let n := a.toNat
    [digit (n / 4), digit (n % 4 * 16), filler, filler]
  | [a, b] =>
    let n := a.toNat * 256 + b.toNat
    [digit (n / 1024), digit (n / 16 % 64), digit (n % 16 * 4), filler]
  | a :: b :: c :: rest =>
    let n := (a.toNat * 256 + b.toNat) * 256 + c.toNat
    digit (n / 262144) :: digit (n / 4096 % 64) :: digit (n / 64 % 64) :: digit (n % 64)
      :: encode rest

end Courier.Base64
