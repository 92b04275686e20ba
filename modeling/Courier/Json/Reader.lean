import Courier.Json.Value

/-!
# Reading JSON

A reader for JSON texts that says where and why a text is none. Beyond the standard it takes the
words `NaN`, `Infinity` and `-Infinity`, and escapes of single surrogates. Positions count code
points, and the first fault from the left is the one reported.

* `parse?`: the value of a text, or its fault.
* `Fault.message`: the words for a fault.
-/

namespace Courier.Json

/-- Why a text is not JSON. -/
inductive Cause where
  | expectedValue
  | expectedName
  | expectedColon
  | expectedComma
  | extraData
  | unterminatedString
  | controlCharacter
  | invalidEscape
  | invalidUnicodeEscape
  deriving DecidableEq, Repr

/-- The words for a cause. -/
def Cause.message : Cause → String
  | .expectedValue => "Expecting value"
  | .expectedName => "Expecting property name enclosed in double quotes"
  | .expectedColon => "Expecting ':' delimiter"
  | .expectedComma => "Expecting ',' delimiter"
  | .extraData => "Extra data"
  | .unterminatedString => "Unterminated string starting at"
  | .controlCharacter => "Invalid control character at"
  | .invalidEscape => "Invalid \\escape"
  | .invalidUnicodeEscape => "Invalid \\uXXXX escape"

/-- What stops the reading of a text: a fault at a position, values nested too deep, or an integer
with too many digits. -/
inductive Fault where
  | malformed (cause : Cause) (position : Nat)
  | tooDeep
  | tooManyDigits
  deriving DecidableEq, Repr

/-- How much a reader takes: levels of nesting, and digits of an integer. -/
structure Limits where
  depth : Nat
  digits : Nat

/-- What is left to read, and how much was read before it. -/
structure Cursor where
  position : Nat
  rest : Text

namespace Cursor

/-- The cursor a number of characters further on. -/
def advance (s : Cursor) (n : Nat) : Cursor := ⟨s.position + n, s.rest.drop n⟩

/-- A character that may stand between the parts of a text. -/
def isBlank (c : CodePoint) : Bool :=
  c.val = 0x20 || c.val = 0x09 || c.val = 0x0A || c.val = 0x0D

/-- The cursor after the blanks it stands before. -/
def skipBlanks (s : Cursor) : Cursor := s.advance (s.rest.takeWhile isBlank).length

/-- The cursor stands before a character. -/
def isAt (s : Cursor) (c : Char) : Bool := s.rest.head? = some (CodePoint.ofChar c)

/-- A fault at the cursor. -/
def fault (s : Cursor) (cause : Cause) : Except Fault α := .error (.malformed cause s.position)

end Cursor

/-! ## Strings -/

/-- The character that a letter stands for after a backslash. -/
def shortEscape? (c : CodePoint) : Option CodePoint :=
  if c = CodePoint.ofChar '"' || c = CodePoint.ofChar '\\' || c = CodePoint.ofChar '/' then some c
  else if c = CodePoint.ofChar 'b' then some 0x08
  else if c = CodePoint.ofChar 'f' then some 0x0C
  else if c = CodePoint.ofChar 'n' then some 0x0A
  else if c = CodePoint.ofChar 'r' then some 0x0D
  else if c = CodePoint.ofChar 't' then some 0x09
  else none

/-- The number of exactly four hexadecimal digits. -/
def fourHex? : Text → Option Nat
  | [a, b, c, d] => do
    pure ((((← a.hexValue?) * 16 + (← b.hexValue?)) * 16 + (← c.hexValue?)) * 16 + (← d.hexValue?))
  | _ => none

/-- The code point of an escape whose four digits the text begins with, and how many characters it
takes; a pair of escaped surrogates is one code point. Some character must follow the digits. The
fault is given by its distance from the first digit. -/
def unicodeEscape (t : Text) : Except Nat (CodePoint × Nat) :=
  match fourHex? (t.take 4) with
  | none => .error 0
  | some high =>
    if (t.drop 4).isEmpty then .error 0
    else
      let single := (CodePoint.ofNat high, 4)
      if (CodePoint.ofNat high).isHighSurrogate && !(t.drop 10).isEmpty
          && Text.startsWith (t.drop 4) (Text.ofString "\\u") then
        match fourHex? ((t.drop 6).take 4) with
        | none => .error 6
        | some low =>
          if (CodePoint.ofNat low).isLowSurrogate then
            .ok (CodePoint.ofNat (0x10000 + (high - 0xD800) * 0x400 + (low - 0xDC00)), 10)
          else .ok single
      else .ok single

/-- The characters of a string from the cursor up to its closing quote, after those read before, in
reverse. `start` is where the string began. -/
def stringFrom (start : Nat) : Nat → Text → Cursor → Except Fault (Text × Cursor)
  | 0, _, _ => .error (.malformed .unterminatedString start)
  | fuel + 1, read, s =>
    match s.rest with
    | [] => .error (.malformed .unterminatedString start)
    | c :: rest =>
      if c = CodePoint.ofChar '"' then .ok (read.reverse, s.advance 1)
      else if c = CodePoint.ofChar '\\' then
        match rest with
        | [] => .error (.malformed .unterminatedString start)
        | e :: digits =>
          if e = CodePoint.ofChar 'u' then
            match unicodeEscape digits with
            | .error distance =>
              .error (.malformed .invalidUnicodeEscape (s.position + 1 + distance))
            | .ok (decoded, width) =>
              stringFrom start fuel (decoded :: read) (s.advance (2 + width))
          else match shortEscape? e with
            | some decoded => stringFrom start fuel (decoded :: read) (s.advance 2)
            | none => s.fault .invalidEscape
      else if c.val < 0x20 then s.fault .controlCharacter
      else stringFrom start fuel (c :: read) (s.advance 1)

/-- The string whose opening quote the cursor stands before. -/
def stringAt (s : Cursor) : Except Fault (Text × Cursor) :=
  stringFrom s.position s.rest.length [] (s.advance 1)

/-! ## Numbers -/

/-- The digits at the front of a text. -/
def leadingDigits (t : Text) : Text := t.takeWhile CodePoint.isAsciiDigit

/-- The value of digits. -/
def natOfDigits (t : Text) : Nat := t.foldl (fun n c => 10 * n + (c.val - 0x30)) 0

/-- The length of the whole part of a number: one zero, or digits that begin with another one. -/
def wholeLength (t : Text) : Nat :=
  if t.head? = some (CodePoint.ofChar '0') then 1 else (leadingDigits t).length

/-- The length of a fraction: a point and at least one digit, or nothing. -/
def fractionLength : Text → Nat
  | [] => 0
  | c :: rest =>
    let n := (leadingDigits rest).length
    if c = CodePoint.ofChar '.' && 0 < n then n + 1 else 0

/-- The length of an exponent and its value: a letter, an optional sign and at least one digit, or
nothing. -/
def exponentPart : Text → Nat × Int
  | [] => (0, 0)
  | c :: rest =>
    if c.lowerAscii = CodePoint.ofChar 'e' then
      let negative := rest.head? = some (CodePoint.ofChar '-')
      let signed := negative || rest.head? = some (CodePoint.ofChar '+')
      let digits := leadingDigits (if signed then rest.drop 1 else rest)
      if digits.length = 0 then (0, 0)
      else
        let n : Int := natOfDigits digits
        (1 + (if signed then 1 else 0) + digits.length, if negative then -n else n)
    else (0, 0)

/-- The number that the cursor stands before: a real number if it has a fraction or an exponent. -/
def numberAt (limits : Limits) (s : Cursor) : Except Fault (Value × Cursor) :=
  let negative := s.isAt '-'
  let t := if negative then s.rest.drop 1 else s.rest
  let whole := t.take (wholeLength t)
  if whole.isEmpty then s.fault .expectedValue
  else
    let fraction := (t.drop whole.length).take (fractionLength (t.drop whole.length))
    let (width, e) := exponentPart (t.drop (whole.length + fraction.length))
    let next := s.advance ((if negative then 1 else 0) + whole.length + fraction.length + width)
    if fraction.isEmpty && width = 0 then
      if limits.digits < whole.length then .error .tooManyDigits
      else
        let n : Int := natOfDigits whole
        .ok (.int (if negative then -n else n), next)
    else
      let digits := whole ++ fraction.drop 1
      let places : Int := (fraction.length - 1 : Nat)
      .ok (.real (Binary64.ofDecimal negative (natOfDigits digits) (e - places)), next)

/-! ## Values -/

/-- The words that are values. -/
def words : List (Text × Value) :=
  [("null", Value.null), ("true", .bool true), ("false", .bool false),
    ("NaN", .real Binary64.nan), ("Infinity", .real (Binary64.infinity false)),
    ("-Infinity", .real (Binary64.infinity true))].map fun (w, v) => (Text.ofString w, v)

/-- The value of a word, a string or a number, or none if a bracket stands at the cursor. -/
def scalarAt (limits : Limits) (s : Cursor) : Except Fault (Value × Cursor) :=
  if s.isAt '"' then (stringAt s).map fun (t, next) => (.text t, next)
  else match words.find? fun (w, _) => Text.startsWith s.rest w with
    | some (w, v) => .ok (v, s.advance w.length)
    | none => numberAt limits s

/-- What the reader is about to read: a value, the items of a list after the ones read, or the
members of an object after the ones read. The ones read are in reverse. -/
inductive Goal where
  | value
  | items (read : List Value)
  | members (read : List (Text × Value))

/-- Read towards a goal at a level of nesting. The items and members end with the bracket that
closes them. Every step reads at least one character, so as many steps as there are characters left,
and one more, suffice. -/
def read (limits : Limits) : Nat → Nat → Goal → Cursor → Except Fault (Value × Cursor)
  | 0, _, _, s => s.fault .expectedValue
  | fuel + 1, depth, .value, s =>
    if s.isAt '[' then
      if limits.depth ≤ depth then .error .tooDeep
      else
        let s := (s.advance 1).skipBlanks
        if s.isAt ']' then .ok (.list [], s.advance 1)
        else read limits fuel (depth + 1) (.items []) s
    else if s.isAt '\x7b' then
      if limits.depth ≤ depth then .error .tooDeep
      else
        let s := (s.advance 1).skipBlanks
        if s.isAt '\x7d' then .ok (.object [], s.advance 1)
        else read limits fuel (depth + 1) (.members []) s
    else scalarAt limits s
  | fuel + 1, depth, .items done, s => do
    let (v, s) ← read limits fuel depth .value s
    let s := s.skipBlanks
    if s.isAt ']' then .ok (.list (v :: done).reverse, s.advance 1)
    else if s.isAt ',' then read limits fuel depth (.items (v :: done)) (s.advance 1).skipBlanks
    else s.fault .expectedComma
  | fuel + 1, depth, .members done, s => do
    if s.isAt '"' then
      let (name, s) ← stringAt s
      let s := s.skipBlanks
      if s.isAt ':' then
        let (v, s) ← read limits fuel depth .value (s.advance 1).skipBlanks
        let s := s.skipBlanks
        if s.isAt '\x7d' then
          .ok (.object (Members.ofPairs ((name, v) :: done).reverse), s.advance 1)
        else if s.isAt ',' then
          read limits fuel depth (.members ((name, v) :: done)) (s.advance 1).skipBlanks
        else s.fault .expectedComma
      else s.fault .expectedColon
    else s.fault .expectedName

/-- The value of a JSON text, which blanks may surround. -/
def parse? (limits : Limits) (t : Text) : Except Fault Value := do
  let (v, s) ← read limits (2 * t.length + 2) 0 .value (Cursor.mk 0 t).skipBlanks
  let s := s.skipBlanks
  if s.rest.isEmpty then .ok v else s.fault .extraData

end Courier.Json
