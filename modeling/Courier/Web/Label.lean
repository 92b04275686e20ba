import Courier.Text.Composed
import Courier.Text.Quoted
import Courier.Web.Label.Direction
import Courier.Web.Label.Joining
import Courier.Web.Label.Letter
import Courier.Web.Label.Script
import Courier.Web.Punycode

/-!
# Labels of domain names

A domain name is made of labels with dots between them. A label is a composed text of letters,
digits, marks and inner hyphens; a few signs may stand in it where their neighbours call for them,
and letters of both directions of writing may not be mixed at will. A label beyond ASCII is called
by its form in ASCII, which begins with `xn--`.

* `Label.check`: a text is a label, or why not.
* `Label.ascii?`: the form of a label in ASCII.
* `Label.unicode?`: the label of a form in ASCII.
-/

namespace Courier.Label

/-- Why a text is no label, or several of them are no domain name. -/
inductive Fault where
  | emptyDomain
  | domainTooLong
  | empty
  | tooLong
  | notComposed
  | innerHyphens
  | outerHyphen
  | leadingMark
  | character (c : CodePoint) (position : Nat) (label : Text)
  | joiner (c : CodePoint) (position : Nat) (label : Text)
  | joinerAfterNameless (c : CodePoint) (position : Nat) (label : Text)
  | sign (c : CodePoint) (position : Nat) (label : Text)
  | unlistedDirection (label : Text) (position : Nat)
  | firstDirection (label : Text)
  | direction (position : Nat) (rightToLeft : Bool)
  | mixedDigits
  | lastDirection
  | nothingEncoded
  | encodedHyphen
  | notEncoded
  | notCanonical
  deriving DecidableEq, Repr

/-- A character by its number. -/
def byNumber (c : CodePoint) : Text := Text.ofString "U+" ++ Text.upperHex 4 c.val

/-- A place within a label. -/
def placed (position : Nat) (word : String) (label : Text) : Text :=
  Text.ofString " at position " ++ Text.ofNat position ++ Text.ofString (" " ++ word ++ " ")
    ++ Quoted.quote label

/-- The words for a fault. -/
def Fault.message : Fault → Text
  | .emptyDomain => Text.ofString "Empty domain"
  | .domainTooLong => Text.ofString "Domain too long"
  | .empty => Text.ofString "Empty Label"
  | .tooLong => Text.ofString "Label too long"
  | .notComposed => Text.ofString "Label must be in Normalization Form C"
  | .innerHyphens => Text.ofString "Label has disallowed hyphens in 3rd and 4th position"
  | .outerHyphen => Text.ofString "Label must not start or end with a hyphen"
  | .leadingMark => Text.ofString "Label begins with an illegal combining character"
  | .character c position label => Text.ofString "Codepoint " ++ byNumber c
      ++ placed position "of" label ++ Text.ofString " not allowed"
  | .joiner c position label => Text.ofString "Joiner " ++ byNumber c
      ++ Text.ofString " not allowed" ++ placed position "in" label
  | .joinerAfterNameless c position label =>
    Text.ofString "Unknown codepoint adjacent to joiner " ++ byNumber c
      ++ placed position "in" label
  | .sign c position label => Text.ofString "Codepoint " ++ byNumber c
      ++ Text.ofString " not allowed" ++ placed position "in" label
  | .unlistedDirection label position => Text.ofString "Unknown directionality in label "
      ++ Quoted.quote label ++ Text.ofString " at position " ++ Text.ofNat position
  | .firstDirection label => Text.ofString "First codepoint in label " ++ Quoted.quote label
      ++ Text.ofString " must be directionality L, R or AL"
  | .direction position rightToLeft =>
    Text.ofString "Invalid direction for codepoint at position " ++ Text.ofNat position
      ++ Text.ofString " in a "
      ++ Text.ofString (if rightToLeft then "right-to-left" else "left-to-right")
      ++ Text.ofString " label"
  | .mixedDigits => Text.ofString "Can not mix numeral types in a right-to-left label"
  | .lastDirection => Text.ofString "Label ends with illegal codepoint directionality"
  | .nothingEncoded =>
    Text.ofString "Malformed A-label, no Punycode eligible content found"
  | .encodedHyphen => Text.ofString "A-label must not end with a hyphen"
  | .notEncoded => Text.ofString "Invalid A-label"
  | .notCanonical =>
    Text.ofString "A-label is not the canonical Punycode encoding of its U-label"

/-! ## Characters -/

private def hyphen : CodePoint := CodePoint.ofChar '-'

/-- What a character of a label is, by itself. -/
inductive Kind where
  | letter
  | joiner
  | sign
  | other
  deriving DecidableEq, Repr

/-- The joiner of no width that keeps letters apart. -/
def apart : CodePoint := 0x200C

/-- The joiner of no width that puts letters together. -/
def together : CodePoint := 0x200D

/-- The dot that stands between two letters l. -/
def middleDot : CodePoint := 0xB7

/-- The sign that marks the next letter of Greek as a number. -/
def numeralSign : CodePoint := 0x375

/-- The dot between words in the scripts of Japan. -/
def wordDot : CodePoint := 0x30FB

/-- The signs after a letter of Hebrew that mark a number or an abbreviation. -/
def isGeresh (c : CodePoint) : Bool := c = 0x5F3 || c = 0x5F4

/-- A digit of Arabic. -/
def isArabicDigit (c : CodePoint) : Bool := 0x660 ≤ c.val && c.val ≤ 0x669

/-- A digit of Arabic as it is written in Persian or Urdu. -/
def isExtendedArabicDigit (c : CodePoint) : Bool := 0x6F0 ≤ c.val && c.val ≤ 0x6F9

/-- The kind of a character. -/
def Kind.of (c : CodePoint) : Kind :=
  if isLetter c then .letter
  else if c = apart || c = together then .joiner
  else if c = middleDot || c = numeralSign || isGeresh c || c = wordDot || isArabicDigit c
      || isExtendedArabicDigit c then .sign
  else .other

/-- What is wrong with a joiner: one may follow a virama, and letters may be kept apart that would
join otherwise. Of a character without a name it is not known whether it is a virama. Here `before`
is what stands before the joiner, in reverse. -/
def joinerFault? (c : CodePoint) (position : Nat) (before after label : Text) : Option Fault :=
  if before.head?.any fun d => Mark.combiningClass d = Mark.virama then none
  else if before.head?.any nameless.has then some (.joinerAfterNameless c position label)
  else if c = apart && (firstOpaque? before).any joinsOnward
      && (firstOpaque? after).any joinsBackward then none
  else some (.joiner c position label)

/-- A sign may stand in a label by its neighbours or by the other characters of the label. -/
def signFits (c : CodePoint) (before after label : Text) : Bool :=
  if c = middleDot then
    before.head? = some (CodePoint.ofChar 'l') && after.head? = some (CodePoint.ofChar 'l')
  else if c = numeralSign then after.head?.any Script.greek.has
  else if isGeresh c then before.head?.any Script.hebrew.has
  else if c = wordDot then label.any fun d =>
    d != wordDot && (Script.hiragana.has d || Script.katakana.has d || Script.han.has d)
  else if isArabicDigit c then !label.any isExtendedArabicDigit
  else !label.any isArabicDigit

/-- Check each character of a label from a position on, after those before it in reverse. -/
def checkCharacters (label : Text) (position : Nat) (before : Text) : Text → Except Fault Unit
  | [] => .ok ()
  | c :: rest =>
    let fault? : Option Fault := match Kind.of c with
      | .letter => none
      | .joiner => joinerFault? c position before rest label
      | .sign => if signFits c before rest label then none else some (.sign c position label)
      | .other => some (.character c position label)
    match fault? with
    | some fault => .error fault
    | none => checkCharacters label (position + 1) (c :: before) rest

/-! ## Directions -/

/-- Letters and digits that are written from right to left. -/
def Direction.isRightToLeft : Direction → Bool
  | .right | .arabic | .arabicDigit => true
  | _ => false

/-- What may stand in a label of either direction. -/
def Direction.isShared : Direction → Bool
  | .digit | .sign | .joiner | .mark | .neutral => true
  | _ => false

/-- What may stand in a label of a direction. -/
def Direction.fits (rightToLeft : Bool) (d : Direction) : Bool :=
  d.isShared || (if rightToLeft then d.isRightToLeft else d = .left)

/-- What may stand at the end of a label of a direction, marks aside. -/
def Direction.ends (rightToLeft : Bool) (d : Direction) : Bool :=
  d = .digit || (if rightToLeft then d.isRightToLeft else d = .left)

/-- Check the directions from a position on. In a label from right to left, the digits seen so far
are of one kind. -/
def checkDirections (rightToLeft : Bool) (position : Nat) (digits : Option Direction) :
    List Direction → Except Fault Unit
  | [] => .ok ()
  | d :: rest =>
    if !d.fits rightToLeft then .error (.direction position rightToLeft)
    else if rightToLeft && (d = .digit || d = .arabicDigit) then
      if digits.any (· != d) then .error .mixedDigits
      else checkDirections rightToLeft (position + 1) (some d) rest
    else checkDirections rightToLeft (position + 1) digits rest

/-- A label in which something is written from right to left begins with a letter, holds what fits
the direction of that letter, and ends with a letter or a digit of it. -/
def checkOrder (label : Text) : Except Fault Unit := do
  let directions := label.map Direction.of
  if let some i := directions.idxOf? .unlisted then throw (.unlistedDirection label (i + 1))
  if directions.any Direction.isRightToLeft then
    let rightToLeft ← match directions.head? with
      | some .right | some .arabic => pure true
      | some .left => pure false
      | _ => throw (.firstDirection label)
    checkDirections rightToLeft 1 none directions
    match directions.reverse.find? (· != .mark) with
    | some d => if !d.ends rightToLeft then throw .lastDirection
    | none => throw .lastDirection

/-! ## Labels -/

/-- The greatest number of characters of a label that is looked at. -/
def maxCharacters : Nat := 254

/-- The text is a label. -/
def check (label : Text) : Except Fault Unit := do
  if label.isEmpty then throw .empty
  if maxCharacters < label.length then throw .tooLong
  if !Composed.isComposed label then throw .notComposed
  if (label.drop 2).take 2 = [hyphen, hyphen] then throw .innerHyphens
  if label.head? = some hyphen || label.getLast? = some hyphen then throw .outerHyphen
  if label.head?.any Mark.isMark then throw .leadingMark
  checkCharacters label 1 [] label
  checkOrder label

/-- What the form of a label in ASCII begins with. -/
def formStart : Text := Text.ofString "xn--"

/-- The label of a form in ASCII, which has to be the one form of that label; or the label
itself. -/
def unicode? (label : Text) : Except Fault Text := do
  let small := if label.all CodePoint.isAscii then label.lowerAscii else label
  if label.all CodePoint.isAscii && Text.startsWith small formStart then
    let form := small.drop formStart.length
    if form.isEmpty then throw .nothingEncoded
    if form.getLast? = some hyphen then throw .encodedHyphen
    match Punycode.decode? form with
    | none => throw .notEncoded
    | some t =>
      if Punycode.encode t != form then throw .notCanonical
      check t
      pure t
  else
    check small
    pure small

/-- The greatest number of characters of a label in ASCII. -/
def maxLength : Nat := 63

/-- The form of a label in ASCII. A label that is in ASCII keeps its form. -/
def ascii? (label : Text) : Except Fault Text := do
  let form ←
    if label.all CodePoint.isAscii then do
      let _ ← unicode? label
      pure label
    else do
      check label
      pure (formStart ++ Punycode.encode label)
  if maxLength < form.length then throw .tooLong
  pure form

end Courier.Label
