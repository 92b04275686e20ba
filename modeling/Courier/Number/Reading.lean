import Courier.Number.Binary64
import Courier.Text.Blank
import Courier.Text.Digit

/-!
# Reading numbers from text

Three places take numbers as text, and each has its own rule for what may stand around and between
the digits. They share one grammar of real numbers,

    sign? ( "inf" | "infinity" | "nan" | digits ("." digits?)? exponent? | "." digits exponent? )

* `real?`: that grammar and nothing else.
* `setting?`, `settingInteger?`: a number in an environment variable or an address. Digits may be
  of any script, with single underscores between them.
* `fieldReal?`, `fieldInteger`: a number in the field of a request or of the settings.
-/

namespace Courier.Reading

/-! ## The grammar of real numbers -/

/-- A natural number after the digits read so far, the count of all its digits, and the rest. -/
def digitsFrom (value count : Nat) : Text → Nat × Nat × Text
  | [] => (value, count, [])
  | c :: rest =>
    if c.isAsciiDigit then digitsFrom (10 * value + (c.val - 0x30)) (count + 1) rest
    else (value, count, c :: rest)

/-- The text after an optional sign, and whether the sign is minus. -/
def sign : Text → Bool × Text
  | [] => (false, [])
  | c :: rest =>
    if c = CodePoint.ofChar '-' then (true, rest)
    else if c = CodePoint.ofChar '+' then (false, rest)
    else (false, c :: rest)

/-- The exponent that makes up a whole text, where no text is exponent zero. -/
def exponent? : Text → Option Int
  | [] => some 0
  | c :: rest =>
    if c.lowerAscii = CodePoint.ofChar 'e' then
      let (negative, rest) := sign rest
      match digitsFrom 0 0 rest with
      | (_, 0, _) => none
      | (n, _, []) => some (if negative then -(n : Int) else n)
      | _ => none
    else none

/-- A number without sign that makes up a whole text. -/
def magnitude? (negative : Bool) (t : Text) : Option Binary64 :=
  let word := (t.map CodePoint.lowerAscii)
  if word = Text.ofString "inf" || word = Text.ofString "infinity" then
    some (Binary64.infinity negative)
  else if word = Text.ofString "nan" then some Binary64.nan
  else
    let (whole, wholeCount, rest) := digitsFrom 0 0 t
    let (value, count, rest) := match rest with
      | c :: rest' => if c = CodePoint.ofChar '.' then digitsFrom whole wholeCount rest'
        else (whole, wholeCount, rest)
      | [] => (whole, wholeCount, [])
    if count = 0 then none
    else (exponent? rest).map fun e =>
      Binary64.ofDecimal negative value (e - ((count - wholeCount : Nat) : Int))

/-- The number nearest to a real number in the common grammar. -/
def real? (t : Text) : Option Binary64 :=
  let (negative, rest) := sign t
  magnitude? negative rest

/-- The greatest number of digits of an integer that is read. -/
def maxIntegerDigits : Nat := 4300

/-! ## Numbers in environment variables -/

/-- A character of a number in a setting as the ASCII character it counts as; where the whole text
is ASCII it is left alone. -/
def asciiForm? (c : CodePoint) : Option CodePoint :=
  if c.isAscii then some c
  else if Blank.isWhiteSpace c then some (CodePoint.ofChar ' ')
  else (Digit.value? c).map fun d => CodePoint.ofNat (0x30 + d)

/-- The text without its underscores, if each stands between two digits. -/
def joinDigits? (afterDigit : Bool) : Text → Option Text
  | [] => some []
  | c :: rest =>
    if c = CodePoint.ofChar '_' then
      if afterDigit && rest.head?.any CodePoint.isAsciiDigit then joinDigits? false rest else none
    else (joinDigits? c.isAsciiDigit rest).map (c :: ·)

/-- The number that an environment variable holds. -/
def setting? (t : Text) : Option Binary64 := do
  let ascii ← t.mapM asciiForm?
  let bare ← joinDigits? false (Text.trim Blank.isAsciiSpace ascii)
  real? bare

/-- The integer that a text holds by the same rules, with at most `maxIntegerDigits` digits. -/
def settingInteger? (t : Text) : Option Int := do
  let ascii ← t.mapM asciiForm?
  let (negative, rest) := sign (Text.trim Blank.isAsciiSpace ascii)
  match digitsFrom 0 0 (← joinDigits? false rest) with
  | (n, count, []) =>
    if count = 0 || maxIntegerDigits < count then none
    else some (if negative then -(n : Int) else n)
  | _ => none

/-! ## Numbers in fields -/

/-- The text without its underscores, if none is first, last, or next to another. -/
def dropUnderscores? (t : Text) : Option Text :=
  let underscore := CodePoint.ofChar '_'
  let doubled := (t.zip (t.drop 1)).any fun (c, d) => c = underscore && d = underscore
  if t.head? = some underscore || t.getLast? = some underscore || doubled then none
  else some (t.filter (· != underscore))

/-- The real number in a field: with white space around it, or else with single underscores within
it. -/
def fieldReal? (t : Text) : Option Binary64 :=
  match real? (Blank.trimWhiteSpace t) with
  | some x => some x
  | none => dropUnderscores? t >>= real?

/-- What reading an integer from text can come to. -/
inductive IntegerReading where
  | value (n : Int)
  | malformed
  | tooLong
  deriving DecidableEq, Repr

/-- The text after a minus, and whether there is one. -/
def takeMinus (t : Text) : Bool × Text :=
  if t.head? = some (CodePoint.ofChar '-') then (true, t.drop 1) else (false, t)

/-- The integer that makes up a whole text without anything to spare: a minus or nothing, then zero
or digits that begin with another one. Text that goes on after too many digits is too long as
well. -/
def plainInteger (t : Text) : IntegerReading :=
  let (negative, magnitude) := takeMinus t
  match digitsFrom 0 0 magnitude with
  | (_, 0, _) => .malformed
  | (n, count, rest) =>
    if magnitude.head? = some (CodePoint.ofChar '0') && 1 < count then .malformed
    else if maxIntegerDigits < count then .tooLong
    else if rest.isEmpty then .value (if negative then -(n : Int) else n)
    else .malformed

/-- What the digits of an integer may go on with after zeros: another digit, or a minus. -/
def endsZeros (c : CodePoint) : Bool := c.isAsciiDigit || c = CodePoint.ofChar '-'

/-- What is left after zeros and underscores, the last of which was `last`: it goes on with another
digit or a minus, or with `last` and a point, or was `last` alone. -/
def afterZeros (last : CodePoint) : Text → Option Text
  | [] => some [last]
  | c :: rest =>
    if c = CodePoint.ofChar '0' || c = CodePoint.ofChar '_' then afterZeros c rest
    else if endsZeros c then some (c :: rest)
    else if c = CodePoint.ofChar '.' then some (last :: c :: rest)
    else none

/-- A text that begins with a digit or a minus, without the zeros in front of it. -/
def dropLeadingZeros? : Text → Option Text
  | [] => none
  | c :: rest =>
    if c = CodePoint.ofChar '0' then afterZeros c rest
    else if endsZeros c then some (c :: rest)
    else none

/-- The text before a point that zeros follow, at least one of them and nothing else. -/
def dropZeroFraction (t : Text) : Text :=
  match t.splitFirst (CodePoint.ofChar '.') with
  | some (whole, fraction) =>
    if !fraction.isEmpty && fraction.all (· = CodePoint.ofChar '0') then whole else t
  | none => t

/-- The text after a plus, which no other sign may follow. -/
def dropPlus (t : Text) : Text :=
  if t.head? = some (CodePoint.ofChar '+') && (t.drop 1).head? != some (CodePoint.ofChar '-') then
    t.drop 1
  else t

/-- A text that may hold an integer, with all taken off that a field allows besides: white space
around it, a plus, zeros in front of other digits, a point and zeros, and single underscores. -/
def tidyInteger? (t : Text) : Option Text := do
  let (negative, digits) := takeMinus (dropPlus (Blank.trimWhiteSpace t))
  let bare ← dropUnderscores? (dropZeroFraction (← dropLeadingZeros? digits))
  pure (if negative then CodePoint.ofChar '-' :: bare else bare)

/-- The integer in a field, as it is or tidied up. Only a text that is too long as it is counts as
too long. -/
def fieldInteger (t : Text) : IntegerReading :=
  match plainInteger t with
  | .malformed => match (tidyInteger? t).map plainInteger with
    | some (.value n) => .value n
    | _ => .malformed
  | reading => reading

end Courier.Reading
