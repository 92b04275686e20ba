import Courier.Text.Basic

/-!
# Capital letters

Words that are compared without regard to case are compared in capitals. Only words of unaccented
letters are ever compared, so a character matters only if its capital form is made of such letters.
-/

namespace Courier.Capital

/-- The capital form of the characters whose capitals are unaccented letters only: small letters,
dotless i, long s, sharp s and the ligatures of f and st. Any other character stands for itself. -/
def ofCodePoint (c : CodePoint) : Text :=
  let n := c.val
  if 0x61 ≤ n && n ≤ 0x7A then [CodePoint.ofNat (n - 0x20)]
  else if n = 0x131 then Text.ofString "I"
  else if n = 0x17F then Text.ofString "S"
  else if n = 0xDF then Text.ofString "SS"
  else if n = 0xFB00 then Text.ofString "FF"
  else if n = 0xFB01 then Text.ofString "FI"
  else if n = 0xFB02 then Text.ofString "FL"
  else if n = 0xFB03 then Text.ofString "FFI"
  else if n = 0xFB04 then Text.ofString "FFL"
  else if n = 0xFB05 || n = 0xFB06 then Text.ofString "ST"
  else [c]

/-- A text in capitals. -/
def ofText (t : Text) : Text := t.flatMap ofCodePoint

end Courier.Capital
