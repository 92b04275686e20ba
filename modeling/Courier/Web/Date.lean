import Courier.Calendar
import Courier.Number.Reading
import Courier.Text.Blank

/-!
# Dates in headers

A date in a header is written with the day of the week or without, with hyphens or blanks between
day, month and year, with a time of day or without, and with a zone or in UTC. A year of fewer than
four digits is one near the present.

* `Date.read`: the moment that a date means.
-/

namespace Courier.Date

/-- What a date means: a moment, as a second counted from 1970, or nothing; a date may also be such
that it cannot be looked at. -/
inductive Meaning where
  | moment (second : Int)
  | nothing
  | broken
  deriving DecidableEq, Repr

/-- The names of the days of a week. -/
def weekdays : List Text := ["sun", "mon", "tue", "wed", "thu", "fri", "sat"].map Text.ofString

/-- The names of the months. -/
def months : List Text :=
  ["jan", "feb", "mar", "apr", "may", "jun", "jul", "aug", "sep", "oct", "nov", "dec"].map
    Text.ofString

/-- The names of the zone without offset. -/
def zones : List Text := ["GMT", "UTC", "UT", "Z"].map Text.ofString

/-- The number of a month by its name. -/
def monthOfName? (name : Text) : Option Nat := (months.idxOf? name.lowerAscii).map (· + 1)

/-- The number of digits. -/
def number (digits : Text) : Nat := digits.foldl (fun n c => 10 * n + (c.val - 0x30)) 0

/-- The second of a date and a time of day, from 1970 on. -/
def second? (year : Int) (month day hour minute second : Nat) : Option Int :=
  if 1970 ≤ year && 1 ≤ month && month ≤ 12 && 1 ≤ day && day ≤ 31 && hour ≤ 24 && minute ≤ 59
      && second ≤ 61 then
    some (Calendar.dayOfDate year month day * Calendar.secondsOfDay
      + ((hour * 60 + minute) * 60 + second : Nat))
  else none

/-! ## The usual form -/

/-- The classes of the characters of a date in its usual form, which is the only one that is read by
places: `Thu, 01 Jan 1970 00:00:00 GMT`. -/
def usualForm : List (CodePoint → Bool) :=
  let oneOf (s : String) (c : CodePoint) : Bool := (Text.ofString s).contains c
  let exactly (s : String) : List (CodePoint → Bool) := (Text.ofString s).map fun c d => d = c
  let small (c : CodePoint) : Bool := c.isAsciiLetter && c.lowerAscii = c
  let digits (n : Nat) : List (CodePoint → Bool) := List.replicate n CodePoint.isAsciiDigit
  [oneOf "SMTWF", small, small] ++ exactly ", " ++ digits 2 ++ exactly " "
    ++ [oneOf "JFMASOND", small, small] ++ exactly " " ++ digits 4 ++ exactly " "
    ++ digits 2 ++ exactly ":" ++ digits 2 ++ exactly ":" ++ digits 2 ++ exactly " GMT"

/-- The text has the usual form. -/
def isUsual (t : Text) : Bool :=
  t.length = usualForm.length && (usualForm.zip t).all fun (p, c) => p c

/-- What a date in its usual form means. One with a month of another name cannot be looked at. -/
def readUsual (t : Text) : Meaning :=
  let part (start length : Nat) : Text := (t.drop start).take length
  match monthOfName? (part 8 3) with
  | none => .broken
  | some month =>
    match second? (number (part 12 4)) month (number (part 5 2)) (number (part 17 2))
        (number (part 20 2)) (number (part 23 2)) with
    | some s => .moment s
    | none => .nothing

/-! ## Other forms -/

/-- Reads a part from the front of a text. -/
abbrev Scan := StateT Text Option

/-- At least `least` characters of a class, as many as there are. -/
def span (p : CodePoint → Bool) (least : Nat) : Scan Text := fun t =>
  let found := t.takeWhile p
  if least ≤ found.length then some (found, t.drop found.length) else none

/-- At least `least` and at most `most` digits. -/
def digits (least most : Nat) : Scan Text := fun t =>
  let found := (t.takeWhile CodePoint.isAsciiDigit).take most
  if least ≤ found.length then some (found, t.drop found.length) else none

/-- One of some characters. -/
def oneOf (s : String) : Scan Text := fun t =>
  match t with
  | c :: rest => if (Text.ofString s).contains c then some ([c], rest) else none
  | [] => none

/-- A part that may be missing. -/
def perhaps (part : Scan α) : Scan (Option α) := fun t =>
  match part t with
  | some (a, rest) => some (some a, rest)
  | none => some (none, t)

/-- Blanks, if there are any. -/
def blanks : Scan Text := span Blank.isAsciiSpace 0

/-- Blanks, or one of some characters. -/
def gap (s : String) : Scan Text := fun t =>
  match span Blank.isAsciiSpace 1 t with
  | some found => some found
  | none => oneOf s t

/-- A character of a word. -/
def isWordChar (c : CodePoint) : Bool :=
  c.isAsciiLetter || c.isAsciiDigit || c = CodePoint.ofChar '_'

/-- A time of day. -/
def clock : Scan (Text × Text × Text) := do
  let _ ← gap ":"
  let hour ← digits 1 2
  let _ ← oneOf ":"
  let minute ← digits 2 2
  let second ← perhaps do
    let _ ← oneOf ":"
    digits 2 2
  pure (hour, minute, second.getD [])

/-- A zone by its offset. -/
def offset : Scan Text := do
  let sign ← perhaps (oneOf "+-")
  let n ← digits 2 4
  pure (sign.getD [] ++ n)

/-- A zone by its name, which is not one of the halves of a day. -/
def zoneName : Scan Text := do
  let name ← span CodePoint.isAsciiLetter 1
  if ["am", "pm"].any fun half => name.lowerAscii = Text.ofString half then failure
  pure name

/-- A zone, and blanks after it. -/
def zone : Scan Text := do
  let z ← offset <|> zoneName
  let _ ← blanks
  pure z

/-- A remark in parentheses, and blanks after it. -/
def remark : Scan Unit := do
  let _ ← oneOf "("
  let _ ← span isWordChar 1
  let _ ← oneOf ")"
  let _ ← blanks

/-- The parts of a date as they are written. -/
structure Parts where
  day : Text
  month : Text
  year : Text
  clock : Text × Text × Text
  zone : Option Text

/-- All parts of a date, with nothing after them. -/
def parts : Scan Parts := do
  let day ← digits 1 2
  let _ ← gap "-/"
  let month ← span isWordChar 1
  let _ ← gap "-/"
  let year ← span CodePoint.isAsciiDigit 1
  let time ← perhaps clock
  let _ ← blanks
  let zone ← perhaps zone
  let _ ← perhaps remark
  if !(← get).isEmpty then failure
  pure ⟨day, month, year, time.getD ([], [], []), zone⟩

/-- The text without the day of the week in front of it. -/
def dropWeekday (t : Text) : Text :=
  if weekdays.contains (Text.lowerAscii (t.take 3)) then
    let rest := (t.drop 3).dropWhile CodePoint.isAsciiLetter
    let rest := if rest.head? = some (CodePoint.ofChar ',') then rest.drop 1 else rest
    rest.dropWhile Blank.isAsciiSpace
  else t

/-- A year below 1000 counts from the century of the present, and is then moved by a century if it
was more than 50 years away. -/
def nearYear (now year : Int) : Int :=
  if 1000 ≤ year then year
  else
    let present := Calendar.yearOfSecond now
    let distance := present % 100 - year
    let near := present - present % 100 + year
    if 50 < distance then near + 100
    else if distance < -50 then near - 100
    else near

/-- The number of a month by its name or in digits. -/
def month? (t : Text) : Option Nat :=
  match monthOfName? t with
  | some n => some n
  | none => match Reading.settingInteger? t with
    | some n => if 1 ≤ n && n ≤ 12 then some n.toNat else none
    | none => none

/-- The seconds by which a zone is ahead of UTC. Three digits are one of hours and two of
minutes. -/
def ahead? (zone : Text) : Option Int :=
  if zones.contains (zone.map fun c => if c.isAsciiLetter && c.lowerAscii = c
      then CodePoint.ofNat (c.val - 0x20) else c) then some 0
  else
    let digits := zone.filter CodePoint.isAsciiDigit
    if digits.isEmpty then none
    else
      let hours := if digits.length = 3 then digits.take 1 else digits.take 2
      let minutes := digits.drop hours.length
      let total : Int := 3600 * number hours + 60 * number minutes
      some (if zone.head? = some (CodePoint.ofChar '-') then -total else total)

/-- What the parts of a date mean. A year of too many digits cannot be looked at. -/
def Parts.read (now : Int) (p : Parts) : Meaning :=
  if Reading.maxIntegerDigits < p.year.length then .broken
  else
    let year : Int := number p.year
    let (hour, minute, second) := p.clock
    let moment? : Option Int := do
      if 9999 < year then failure
      let month ← month? p.month
      let s ← second? (nearYear now year) month (number p.day) (number hour) (number minute)
        (number second)
      let ahead ← match p.zone with
        | some zone => ahead? zone
        | none => some 0
      pure (s - ahead)
    match moment? with
    | some s => .moment s
    | none => .nothing

/-- What a date means at present. -/
def read (now : Int) (t : Text) : Meaning :=
  let line := if t.getLast? = some 0x0A then t.dropLast else t
  if isUsual line then readUsual line
  else match parts.run (dropWeekday (t.dropWhile Blank.isBlank)) with
    | some (p, _) => p.read now
    | none => .nothing

end Courier.Date
