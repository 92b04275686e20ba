import Courier.CommandLine.Switch
import Courier.Text.Digit
import Courier.Text.Quoted

/-!
# Reading a command line

Every argument is first looked at alone: it is a word, an option, or the mark `--` after which all
are words. Then options take their values. A long name may be cut short as long as only one option
begins with it, and short options may be joined, the last of them with its value.

* `Program.parse?`: the options given and their values in order, or what is wrong.
-/

namespace Courier.CommandLine

/-- What is wrong with a command line. -/
inductive UsageError where
  | ambiguous (argument : Text) (matching : List Text)
  | valueExpected (option : Text)
  | valueIgnored (option value : Text)
  | optionsRequired (options : List Text)
  | unrecognized (arguments : List Text)
  | valuesMissing (options : List Text)
  deriving DecidableEq, Repr

/-- The words for a mistake. -/
def UsageError.message : UsageError → Text
  | .ambiguous argument matching =>
    Text.ofString "ambiguous option: " ++ argument ++ Text.ofString " could match "
      ++ Text.joinWith (Text.ofString ", ") matching
  | .valueExpected option =>
    Text.ofString "argument " ++ option ++ Text.ofString ": expected one argument"
  | .valueIgnored option value =>
    Text.ofString "argument " ++ option ++ Text.ofString ": ignored explicit argument "
      ++ Quoted.quote value
  | .optionsRequired options =>
    Text.ofString "the following arguments are required: "
      ++ Text.joinWith (Text.ofString ", ") options
  | .unrecognized arguments =>
    Text.ofString "unrecognized arguments: " ++ Text.joinWith (Text.ofString " ") arguments
  | .valuesMissing options =>
    Text.ofString "missing required value(s): " ++ Text.joinWith (Text.ofString ", ") options

/-! ## Arguments by themselves -/

/-- What an argument is. An option comes with the name it was found under and the value joined to
it, if there is one. -/
inductive Token (κ : Type) where
  | word
  | terminator
  | option (switch : Switch κ) (name : Text) (joined : Option Text)
  | unknown

private def dash : CodePoint := CodePoint.ofChar '-'

/-- The text looks like a negative number: a minus, digits of any script, and a point among them. -/
def isNegativeNumber (t : Text) : Bool :=
  let t := if t.getLast? = some 0x0A then t.dropLast else t
  let isDigits (ds : Text) : Bool := !ds.isEmpty && ds.all fun c => (Digit.value? c).isSome
  match t with
  | [] => false
  | c :: rest => c = dash && (isDigits rest ||
      match Text.splitFirst (CodePoint.ofChar '.') rest with
      | some (whole, fraction) => (whole.isEmpty || isDigits whole) && isDigits fraction
      | none => false)

/-- A text cut at the first `=`, where the part after it is a joined value. -/
def cutJoined (t : Text) : Text × Option Text :=
  match Text.splitFirst (CodePoint.ofChar '=') t with
  | some (name, value) => (name, some value)
  | none => (t, none)

namespace Program

/-- Every name of an option with the option. -/
def table (p : Program κ) : List (Text × Switch κ) :=
  p.switches.flatMap fun s => s.names.map fun name => (name, s)

/-- The option of exactly this name. -/
def named? (p : Program κ) (name : Text) : Option (Switch κ) :=
  (p.table.find? fun (n, _) => n = name).map (·.2)

/-- The options that an argument of no exact name may stand for: with two dashes those whose name
begins with it, with one dash the short option that its first letter names, the rest as value. -/
def candidates (p : Program κ) (argument : Text) : List (Text × Switch κ × Option Text) :=
  if (argument.drop 1).head? = some dash then
    let (start, joined) := cutJoined argument
    p.table.filterMap fun (name, s) =>
      if Text.startsWith name start then some (name, s, joined) else none
  else
    p.table.filterMap fun (name, s) =>
      if name = argument.take 2 then some (name, s, some (argument.drop 2)) else none

/-- What an argument is, taken by itself. -/
def classify (p : Program κ) (argument : Text) : Except UsageError (Token κ) :=
  if argument.head? != some dash then .ok .word
  else match p.named? argument with
    | some s => .ok (.option s argument none)
    | none =>
      if argument.length = 1 then .ok .word
      else
        let (name, joined) := cutJoined argument
        match joined, p.named? name with
        | some value, some s => .ok (.option s name (some value))
        | _, _ => match p.candidates argument with
          | [(name, s, joined)] => .ok (.option s name joined)
          | [] =>
            if isNegativeNumber argument || argument.contains (CodePoint.ofChar ' ') then .ok .word
            else .ok .unknown
          | several => .error (.ambiguous argument (several.map (·.1)))

/-- Every argument with what it is; after `--` all are words. -/
def tokens (p : Program κ) : List Text → Except UsageError (List (Text × Token κ))
  | [] => .ok []
  | argument :: rest =>
    if argument = [dash, dash] then
      .ok ((argument, .terminator) :: rest.map fun word => (word, .word))
    else do
      let token ← p.classify argument
      let others ← p.tokens rest
      pure ((argument, token) :: others)

end Program

/-! ## Options and their values -/

/-- The value that an option has: the text given, except that the text `--` alone gives none. -/
inductive Argument where
  | text (t : Text)
  | nothing
  deriving DecidableEq, Repr

/-- The value for a text given. -/
def Argument.ofText (t : Text) : Argument := if t = [dash, dash] then .nothing else .text t

/-- An option that was given, with its value if it takes one. -/
structure Occurrence (κ : Type) where
  switch : Switch κ
  value : Option Argument

/-- The options that joined letters give: the first option, and those of the letters after it, of
which the last may have its value with it. The flag says that the last one still needs its value. -/
def Program.spread (p : Program κ) (s : Switch κ) (joined : Text) :
    Except UsageError (List (Occurrence κ) × Bool) :=
  if s.takesValue then .ok ([⟨s, some (.ofText joined)⟩], false)
  else match joined with
    | [] => .error (.valueIgnored s.title [])
    | c :: rest =>
      match p.named? [dash, c] with
      | none => .error (.valueIgnored s.title (c :: rest))
      | some next =>
        if rest.isEmpty then .ok ([⟨s, none⟩, ⟨next, none⟩], next.takesValue)
        else (p.spread next rest).map fun (others, open?) => (⟨s, none⟩ :: others, open?)
termination_by structural joined

/-- The options that one argument gives, found under a name and with the text joined to it. Only
short names can have others joined to them. -/
def Program.unfold (p : Program κ) (s : Switch κ) (name : Text) (joined : Option Text) :
    Except UsageError (List (Occurrence κ) × Bool) :=
  match joined with
  | none => .ok ([⟨s, none⟩], s.takesValue)
  | some joined =>
    if (name.drop 1).head? = some dash && !s.takesValue then .error (.valueIgnored s.title joined)
    else p.spread s joined

/-- A value for the last of several options. -/
def withLastValue (value : Argument) : List (Occurrence κ) → List (Occurrence κ)
  | [] => []
  | [o] => [{ o with value := some value }]
  | o :: rest => o :: withLastValue value rest

/-- The options given and the arguments left over, up to the first option that ends the program. -/
structure Reading (κ : Type) where
  occurrences : List (Occurrence κ)
  leftOver : List Text
  ended : Bool

/-- Options in front of what is read after them, unless one of them ends the program. -/
def Reading.after (ends : Switch κ → Bool) (found : List (Occurrence κ))
    (rest : Except UsageError (Reading κ)) : Except UsageError (Reading κ) :=
  if found.any fun o => ends o.switch then .ok ⟨found, [], true⟩
  else rest.map fun r => { r with occurrences := found ++ r.occurrences }

/-- Give options their values, from left to right. What follows an option with `ends` is not looked
at. -/
def Program.gather (p : Program κ) (ends : Switch κ → Bool) :
    List (Text × Token κ) → Except UsageError (Reading κ)
  | [] => .ok ⟨[], [], false⟩
  | (_, .option s name joined) :: rest =>
    match p.unfold s name joined with
    | .error e => .error e
    | .ok (found, false) => Reading.after ends found (p.gather ends rest)
    | .ok (found, true) => match rest with
      | (word, .word) :: rest =>
        Reading.after ends (withLastValue (.ofText word) found) (p.gather ends rest)
      | _ => .error (.valueExpected ((found.getLast?.map fun o => o.switch.title).getD []))
  | (argument, _) :: rest =>
    (p.gather ends rest).map fun r => { r with leftOver := argument :: r.leftOver }

/-- The options given and their values in order. Nothing more is asked of a command line with an
option that ends the program; any other must have all that is required and nothing left over. -/
def Program.parse? (p : Program κ) (ends : Switch κ → Bool) (arguments : List Text) :
    Except UsageError (Reading κ) := do
  let r ← p.gather ends (← p.tokens arguments)
  if r.ended then pure r
  else
    let given (s : Switch κ) : Bool := r.occurrences.any fun o => o.switch.long = s.long
    let absent := p.switches.filter fun s => s.required && !given s
    if !absent.isEmpty then .error (.optionsRequired (absent.map Switch.title))
    else if !r.leftOver.isEmpty then .error (.unrecognized r.leftOver)
    else pure r

end Courier.CommandLine
