/-!
# Text as code points

A text is a list of code points in which lone surrogates may stand: arguments and file names that
were not proper UTF-8 arrive that way, and the messages of this library are built from them. So text
is not `String`, whose characters are scalar values only.

* `CodePoint`, `Text`, `Bytes`: the three sequences every other module speaks about.
* `CodePoint.isSurrogate`, `Text.isWellFormed`: which texts have a UTF-8 form.
* `Text.splitFirst`, `Text.splitAll`, `Text.joinWith`: cutting at one character and joining again.
-/

namespace Courier

/-- A Unicode code point, surrogates included. -/
abbrev CodePoint := Fin 0x110000

/-- There are code points, so that a number denotes one. -/
instance codePoints_ne_zero : @NeZero Nat Zero.ofOfNat0 0x110000 := ⟨Nat.succ_ne_zero 0x10FFFF⟩

/-- A sequence of code points, in which lone surrogates may stand. -/
abbrev Text := List CodePoint

/-- A sequence of octets. -/
abbrev Bytes := List UInt8

namespace CodePoint

/-- The code point of a character. -/
def ofChar (c : Char) : CodePoint :=
  ⟨c.toNat, by
    have h := c.valid
    simp only [UInt32.isValidChar, Nat.isValidChar] at h
    simp only [Char.toNat]
    omega⟩

/-- The code point of a number; numbers beyond the last code point give U+FFFD. -/
def ofNat (n : Nat) : CodePoint :=
  if h : n < 0x110000 then ⟨n, h⟩ else 0xFFFD

/-- The character that stands where octets could not be read. -/
def replacement : CodePoint := 0xFFFD

/-- A code point of the range that UTF-16 uses in pairs. -/
def isSurrogate (c : CodePoint) : Bool := 0xD800 ≤ c.val && c.val ≤ 0xDFFF

/-- A surrogate that may begin a pair. -/
def isHighSurrogate (c : CodePoint) : Bool := 0xD800 ≤ c.val && c.val ≤ 0xDBFF

/-- A surrogate that may end a pair. -/
def isLowSurrogate (c : CodePoint) : Bool := 0xDC00 ≤ c.val && c.val ≤ 0xDFFF

/-- One of the 128 characters of ASCII. -/
def isAscii (c : CodePoint) : Bool := c.val < 0x80

/-- One of the digits `0` to `9`. -/
def isAsciiDigit (c : CodePoint) : Bool := 0x30 ≤ c.val && c.val ≤ 0x39

/-- An unaccented letter. -/
def isAsciiLetter (c : CodePoint) : Bool :=
  (0x41 ≤ c.val && c.val ≤ 0x5A) || (0x61 ≤ c.val && c.val ≤ 0x7A)

/-- The small letter of a capital one of ASCII; all else is kept. -/
def lowerAscii (c : CodePoint) : CodePoint :=
  if 0x41 ≤ c.val && c.val ≤ 0x5A then ofNat (c.val + 0x20) else c

/-- The value of a hexadecimal digit in either case. -/
def hexValue? (c : CodePoint) : Option Nat :=
  if 0x30 ≤ c.val && c.val ≤ 0x39 then some (c.val - 0x30)
  else if 0x41 ≤ c.val && c.val ≤ 0x46 then some (c.val - 0x41 + 10)
  else if 0x61 ≤ c.val && c.val ≤ 0x66 then some (c.val - 0x61 + 10)
  else none

/-- The hexadecimal digit of a number below 16 with capital letters. -/
def upperHexDigit (n : Nat) : CodePoint := if n < 10 then ofNat (0x30 + n) else ofNat (0x37 + n)

/-- The hexadecimal digit of a number below 16 with small letters. -/
def lowerHexDigit (n : Nat) : CodePoint := if n < 10 then ofNat (0x30 + n) else ofNat (0x57 + n)

end CodePoint

namespace Text

/-- The text of a string. -/
def ofString (s : String) : Text := s.toList.map CodePoint.ofChar

/-- The string of a text; a lone surrogate becomes U+FFFD, since no string holds one. -/
def toString (t : Text) : String :=
  String.ofList (t.map fun c => if c.isSurrogate then Char.ofNat 0xFFFD else Char.ofNat c.val)

/-- No surrogate stands in the text, so that it has a UTF-8 form. -/
def isWellFormed (t : Text) : Bool := t.all fun c => !c.isSurrogate

/-- The decimal digits of a natural number. -/
def ofNat (n : Nat) : Text := (Nat.toDigits 10 n).map CodePoint.ofChar

/-- The decimal digits of an integer after its sign, if that is minus. -/
def ofInt : Int → Text
  | .ofNat n => ofNat n
  | .negSucc n => CodePoint.ofChar '-' :: ofNat (n + 1)

/-- The digits of a number in base 16, with zeros in front to make `width` of them. -/
def lowerHex (width n : Nat) : Text :=
  let digits := (Nat.toDigits 16 n).map CodePoint.ofChar
  List.replicate (width - digits.length) (CodePoint.ofChar '0') ++ digits

/-- The same digits with capital letters. -/
def upperHex (width n : Nat) : Text :=
  (lowerHex width n).map fun c => if c.isAsciiLetter then CodePoint.ofNat (c.val - 0x20) else c

/-- The parts before and after the first occurrence of a character. -/
def splitFirst (sep : CodePoint) : Text → Option (Text × Text)
  | [] => none
  | c :: rest =>
    if c = sep then some ([], rest)
    else (splitFirst sep rest).map fun (before, after) => (c :: before, after)

/-- The parts between all occurrences of a character, the empty ones too. -/
def splitAll (sep : CodePoint) : Text → List Text
  | [] => [[]]
  | c :: rest =>
    if c = sep then [] :: splitAll sep rest
    else match splitAll sep rest with
      | [] => [[c]]
      | part :: parts => (c :: part) :: parts

/-- The parts in order, with a separator between each two. -/
def joinWith (sep : Text) : List Text → Text
  | [] => []
  | [part] => part
  | part :: parts => part ++ sep ++ joinWith sep parts

/-- The text without the leading characters that satisfy a test. -/
def dropLeading (p : CodePoint → Bool) (t : Text) : Text := t.dropWhile p

/-- The text without the trailing characters that satisfy a test. -/
def dropTrailing (p : CodePoint → Bool) (t : Text) : Text := (t.reverse.dropWhile p).reverse

/-- The text without the characters at both ends that satisfy a test. -/
def trim (p : CodePoint → Bool) (t : Text) : Text := dropTrailing p (dropLeading p t)

/-- The text with the capital letters of ASCII made small. -/
def lowerAscii (t : Text) : Text := t.map CodePoint.lowerAscii

/-- The text begins with another one. -/
def startsWith (t start : Text) : Bool := start.isPrefixOf t

/-- The text ends with another one. -/
def endsWith (t tail : Text) : Bool := tail.isSuffixOf t

end Text

namespace Bytes

/-- Two small hexadecimal digits for each octet. -/
def hex (bs : Bytes) : Text :=
  bs.flatMap fun b =>
    [CodePoint.lowerHexDigit (b.toNat / 16), CodePoint.lowerHexDigit (b.toNat % 16)]

/-- The octets that pairs of hexadecimal digits stand for. -/
def ofHex? : Text → Option Bytes
  | [] => some []
  | [_] => none
  | h :: l :: rest => do
    let high ← h.hexValue?
    let low ← l.hexValue?
    let bs ← ofHex? rest
    pure ((16 * high + low).toUInt8 :: bs)

end Bytes

end Courier
