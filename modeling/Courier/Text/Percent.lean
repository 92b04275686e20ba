import Courier.Text.Utf8

/-!
# Percent encoding

Every octet outside a set of harmless ones is written as `%` and two capital hexadecimal digits. The
body of a message is sent in this form, so that it can hold the delimiters of the form payload.

* `encode`: letters, digits and `-._~` are kept.
* `decode`: a `%` followed by two hexadecimal digits of either case is an octet, all else is kept.
-/

namespace Courier.Percent

/-- Letters, digits and the marks `-._~`, which need no escape anywhere. -/
def isUnreserved (b : UInt8) : Bool :=
  let n := b.toNat
  (0x30 ≤ n && n ≤ 0x39) || (0x41 ≤ n && n ≤ 0x5A) || (0x61 ≤ n && n ≤ 0x7A)
    || n = 0x2D || n = 0x2E || n = 0x5F || n = 0x7E

/-- `%` and the two capital hexadecimal digits of an octet. -/
def escape (b : UInt8) : Text :=
  [CodePoint.ofChar '%', CodePoint.upperHexDigit (b.toNat / 16),
    CodePoint.upperHexDigit (b.toNat % 16)]

/-- The piece that stands for one octet. -/
def encodeOctet (b : UInt8) : Text :=
  if isUnreserved b then [CodePoint.ofNat b.toNat] else escape b

/-- The pieces of all octets in order. -/
def encode (bs : Bytes) : Text := bs.flatMap encodeOctet

/-- The percent form of the UTF-8 form of a text, or its first run of surrogates. -/
def encodeText? (t : Text) : Except Utf8.Unencodable Text := (Utf8.encode? t).map encode

/-- The octets that a text in percent form stands for; a character without escape stands for its
UTF-8 octets. -/
def decode : Text → Bytes
  | [] => []
  | [c] => Utf8.encodeOne c
  | [c, d] => Utf8.encodeOne c ++ Utf8.encodeOne d
  | c :: h :: l :: rest =>
    if c = CodePoint.ofChar '%' then
      match h.hexValue?, l.hexValue? with
      | some high, some low => (16 * high + low).toUInt8 :: decode rest
      | _, _ => Utf8.encodeOne c ++ decode (h :: l :: rest)
    else Utf8.encodeOne c ++ decode (h :: l :: rest)

end Courier.Percent
