import Courier.Text.Basic

/-!
# Options and how they are shown

What a program takes on its command line, and the two texts that describe it: the usage lines, which
are shown with every mistake, and the help.
-/

namespace Courier.CommandLine

/-- An option: its short and long names, the word that stands for its value if it takes one, whether
it must be given, and what it is for. The options of a program are told apart by their keys. -/
structure Switch (κ : Type) where
  key : κ
  short : String
  long : String
  valueName : Option String
  required : Bool
  help : String

/-- A program by name, with its purpose and its options. -/
structure Program (κ : Type) where
  name : String
  purpose : String
  switches : List (Switch κ)

namespace Switch

/-- The names of an option, the short one first. -/
def names (s : Switch κ) : List Text := [Text.ofString s.short, Text.ofString s.long]

/-- The option takes a value. -/
def takesValue (s : Switch κ) : Bool := s.valueName.isSome

/-- An option in a message. -/
def title (s : Switch κ) : Text := Text.joinWith (Text.ofString "/") s.names

/-- A name with the word for the value after it. -/
def withValue (s : Switch κ) (name : Text) : Text :=
  match s.valueName with
  | some word => name ++ Text.ofString " " ++ Text.ofString word
  | none => name

/-- The option in the usage lines: its short name, in brackets unless it must be given. -/
def usage (s : Switch κ) : Text :=
  let form := s.withValue (Text.ofString s.short)
  if s.required then form else Text.ofString "[" ++ form ++ Text.ofString "]"

/-- The option in the help: all its names. -/
def invocation (s : Switch κ) : Text :=
  Text.joinWith (Text.ofString ", ") (s.names.map s.withValue)

end Switch

/-! ## Filling lines -/

/-- Words put on lines of at most `width` characters, each word whole; `used` characters stand
before the words of the first line already, and `indent` before those of the others. -/
def fillFrom (width indent used : Nat) (line : List Text) : List Text → List Text
  | [] => [Text.joinWith (Text.ofString " ") line.reverse]
  | word :: rest =>
    let blank := if line.isEmpty then 0 else 1
    if width < used + blank + word.length && !line.isEmpty then
      Text.joinWith (Text.ofString " ") line.reverse
        :: fillFrom width indent (indent + word.length) [word] rest
    else fillFrom width indent (used + blank + word.length) (word :: line) rest

/-- The words of a text on lines of at most `width` characters. -/
def fill (width : Nat) (t : Text) : List Text :=
  fillFrom width 0 0 [] (Text.splitAll (CodePoint.ofChar ' ') t)

/-- Blanks. -/
def blanks (n : Nat) : Text := List.replicate n (CodePoint.ofChar ' ')

/-- The end of a line. -/
def newline : Text := [0x0A]

/-! ## Usage and help -/

/-- Two columns of a terminal stay free. -/
def usableWidth (columns : Nat) : Nat := columns - 2

/-- The column where the explanations of options stand. -/
def helpColumn : Nat := 24

namespace Program

/-- The usage lines on a terminal of a width. -/
def usage (p : Program κ) (columns : Nat) : Text :=
  let start := Text.ofString "usage: "
  let name := Text.ofString p.name
  let indent := start.length + name.length + 1
  let lines := fillFrom (usableWidth columns) indent start.length []
    (name :: p.switches.map Switch.usage)
  start ++ Text.joinWith (newline ++ blanks indent) lines ++ newline

/-- The lines of the help about an option: a name that leaves no room for the explanation stands on
a line of its own. -/
def helpAbout (columns : Nat) (s : Switch κ) : Text :=
  let room := helpColumn - 4
  let header := blanks 2 ++ s.invocation
  let explanation := Text.joinWith (newline ++ blanks helpColumn)
    (fill (usableWidth columns - helpColumn) (Text.ofString s.help))
  if s.invocation.length ≤ room then
    header ++ blanks (room - s.invocation.length + 2) ++ explanation ++ newline
  else header ++ newline ++ blanks helpColumn ++ explanation ++ newline

/-- The help on a terminal of a width. -/
def help (p : Program κ) (columns : Nat) : Text :=
  p.usage columns ++ newline
    ++ Text.joinWith newline (fill (usableWidth columns) (Text.ofString p.purpose)) ++ newline
    ++ newline ++ Text.ofString "options:" ++ newline
    ++ p.switches.flatMap (helpAbout columns)

end Program

end Courier.CommandLine
