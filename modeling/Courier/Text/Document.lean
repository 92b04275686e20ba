import Courier.Text.Utf16
import Courier.Text.Utf8

/-!
# Octets of an unnamed encoding

A document in one of the Unicode encodings shows which one by its first octets: by a mark, or by
where its first characters have zero octets. Surrogates by themselves are read in every encoding.

* `Document.Encoding.ofOctets`: the encoding and the octets after the mark.
* `Document.decode?`: the text.
-/

namespace Courier.Document

/-- An encoding; the wide ones have an order of octets. -/
inductive Encoding where
  | utf8
  | utf16 (bigEndian : Bool)
  | utf32 (bigEndian : Bool)
  deriving DecidableEq, Repr

/-- The marks that name an encoding, a longer one before the one it begins with. -/
def marks : List (Bytes × Encoding) :=
  [([0x00, 0x00, 0xFE, 0xFF], .utf32 true), ([0xFF, 0xFE, 0x00, 0x00], .utf32 false),
    ([0xFE, 0xFF], .utf16 true), ([0xFF, 0xFE], .utf16 false), ([0xEF, 0xBB, 0xBF], .utf8)]

/-- The encoding of octets without a mark, by the zeros among the first of them. -/
def Encoding.ofZeros : Bytes → Encoding
  | [a, b] => if a = 0 then .utf16 true else if b = 0 then .utf16 false else .utf8
  | a :: b :: c :: d :: _ =>
    if a = 0 then (if b = 0 then .utf32 true else .utf16 true)
    else if b = 0 then (if c = 0 && d = 0 then .utf32 false else .utf16 false)
    else .utf8
  | _ => .utf8

/-- The encoding of octets, and the octets without the mark. -/
def Encoding.ofOctets (bs : Bytes) : Encoding × Bytes :=
  match marks.find? fun (mark, _) => mark.isPrefixOf bs with
  | some (mark, e) => (e, bs.drop mark.length)
  | none => (.ofZeros bs, bs)

/-- The units of two octets each, unless one octet is left over. -/
def units16? (bigEndian : Bool) : Bytes → Option (List UInt16)
  | [] => some []
  | [_] => none
  | a :: b :: rest => do
    let n := if bigEndian then a.toNat * 0x100 + b.toNat else b.toNat * 0x100 + a.toNat
    pure (n.toUInt16 :: (← units16? bigEndian rest))

/-- The code points of four octets each, unless octets are left over or a number is beyond the last
code point. -/
def codePoints32? (bigEndian : Bool) : Bytes → Option Text
  | [] => some []
  | a :: b :: c :: d :: rest => do
    let octets := if bigEndian then [a, b, c, d] else [d, c, b, a]
    let n := octets.foldl (fun n b => n * 0x100 + b.toNat) 0
    if h : n < 0x110000 then pure (⟨n, h⟩ :: (← codePoints32? bigEndian rest)) else none
  | _ => none

/-- The text of octets, if they are proper in the encoding that they show. -/
def decode? (bs : Bytes) : Option Text :=
  match Encoding.ofOctets bs with
  | (.utf8, rest) => (Utf8.decodeWithSurrogates? rest).toOption
  | (.utf16 bigEndian, rest) => (units16? bigEndian rest).map Utf16.decode
  | (.utf32 bigEndian, rest) => codePoints32? bigEndian rest

end Courier.Document
