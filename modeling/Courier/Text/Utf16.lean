import Courier.Text.Basic

/-!
# The UTF-16 form of text

Characters up to U+FFFF take one unit of 16 bits, all others a high and a low surrogate. The length
of a message is measured in these units.
-/

namespace Courier.Utf16

/-- The units of one code point. -/
def encodeOne (c : CodePoint) : List UInt16 :=
  let n := c.val
  if n < 0x10000 then [n.toUInt16]
  else [(0xD800 + (n - 0x10000) / 0x400).toUInt16, (0xDC00 + (n - 0x10000) % 0x400).toUInt16]

/-- The units of a text. -/
def encode (t : Text) : List UInt16 := t.flatMap encodeOne

/-- The code point of a pair of surrogates. -/
def pair (high low : Nat) : CodePoint :=
  CodePoint.ofNat (0x10000 + (high - 0xD800) * 0x400 + (low - 0xDC00))

/-- The text of units, in which a surrogate without its partner stands for itself. -/
def decode : List UInt16 → Text
  | [] => []
  | [u] => [CodePoint.ofNat u.toNat]
  | u :: v :: rest =>
    let c := CodePoint.ofNat u.toNat
    if c.isHighSurrogate && (CodePoint.ofNat v.toNat).isLowSurrogate then
      pair u.toNat v.toNat :: decode rest
    else c :: decode (v :: rest)

end Courier.Utf16
