import Courier.Settings.Environment
import Courier.Text.Capital

/-!
# Log records and where they go

* `Log.Entry`: one record as the library writes it.
* `Log.Setup`: the state of the log of a process, which `Log.Setup.configure` prepares once
  (`configure_logging`).
-/

namespace Courier.Log

/-- The weights at which the library writes. -/
inductive Level where
  | debug
  | info
  | warning
  | error
  deriving DecidableEq, Repr

/-- The name of a level. -/
def Level.name : Level → String
  | .debug => "DEBUG"
  | .info => "INFO"
  | .warning => "WARNING"
  | .error => "ERROR"

/-- The number of a level. -/
def Level.weight : Level → Int
  | .debug => 10
  | .info => 20
  | .warning => 30
  | .error => 40

/-- A record: its weight, the part of the library that wrote it, and its text. -/
structure Entry where
  level : Level
  logger : String
  message : Text
  deriving DecidableEq, Repr

/-! ## Levels by name -/

/-- The numbers of the levels by name. -/
def namedLevels : List (String × Int) :=
  [("NOTSET", 0), ("DEBUG", 10), ("INFO", 20), ("WARN", 30), ("WARNING", 30), ("ERROR", 40),
    ("CRITICAL", 50), ("FATAL", 50)]

/-- The name that a number is shown with; a number without a name is shown as itself. -/
def levelName (n : Int) : Text :=
  if n = 0 then Text.ofString "NOTSET"
  else if n = 10 then Text.ofString "DEBUG"
  else if n = 20 then Text.ofString "INFO"
  else if n = 30 then Text.ofString "WARNING"
  else if n = 40 then Text.ofString "ERROR"
  else if n = 50 then Text.ofString "CRITICAL"
  else Text.ofString "Level " ++ Text.ofInt n

/-- What a name of a level stands for. Two names are taken by other settings of the log. -/
inductive NamedLevel where
  | weight (n : Int)
  | recordFormat
  | formatStyles
  deriving DecidableEq, Repr

/-- The level that a text names in any case; a text that names nothing stands for INFO. -/
def levelOf (t : Text) : NamedLevel :=
  let name := Capital.ofText t
  match namedLevels.find? fun (n, _) => Text.ofString n = name with
  | some (_, n) => .weight n
  | none =>
    if name = Text.ofString "BASIC_FORMAT" then .recordFormat
    else if name = Text.ofString "_STYLES" then .formatStyles
    else .weight 20

/-- A level that is no weight. -/
inductive Fault where
  | recordFormat
  | formatStyles
  deriving DecidableEq, Repr

/-- The words for a level that is no weight: the setting it names is shown. -/
def Fault.message : Fault → Text
  | .recordFormat => Text.ofString
      "Unknown level: '%(levelname)s:%(name)s:%(message)s'"
  | .formatStyles => Text.ofString <|
      "Level not an integer or a valid string: "
      ++ "\x7b'%': (<class 'logging.PercentStyle'>, '%(levelname)s:%(name)s:%(message)s'), "
      ++ "'\x7b': (<class 'logging.StrFormatStyle'>, "
      ++ "'\x7blevelname\x7d:\x7bname\x7d:\x7bmessage\x7d'), "
      ++ "'$': (<class 'logging.StringTemplateStyle'>, "
      ++ "'$\x7blevelname\x7d:$\x7bname\x7d:$\x7bmessage\x7d')\x7d"

/-! ## The log of a process -/

/-- The level of the log, how many places it is written to, and the levels of two noisy parts. -/
structure Setup where
  root : Int
  handlers : Nat
  quiet : Int × Int
  deriving DecidableEq, Repr

namespace Setup

/-- The log before anything is configured. -/
def initial : Setup := ⟨30, 0, (0, 0)⟩

/-- The log of a program that has set it up itself. -/
def hosted : Setup := { initial with handlers := 1 }

/-- The log without the places it is written to. -/
def clear (s : Setup) : Setup := { s with handlers := 0 }

/-- The text that names the level: the one given, or that of the environment, or INFO. -/
def effectiveLevel (env : Environment) (level : Option Text) : Text :=
  match level.filter fun t => !t.isEmpty with
  | some t => t
  | none => env.getD "LOG_LEVEL" "INFO"

/-- Prepare the log, unless it is written somewhere already (`configure_logging`). The place is
added before the level is set, so it stays when the level is no weight. -/
def configure (s : Setup) (env : Environment) (level : Option Text) : Setup × Option Fault :=
  if 0 < s.handlers then (s, none)
  else
    let added := { s with handlers := s.handlers + 1 }
    match levelOf (effectiveLevel env level) with
    | .weight n => ({ added with root := n, quiet := (30, 30) }, none)
    | .recordFormat => (added, some .recordFormat)
    | .formatStyles => (added, some .formatStyles)

end Setup

end Courier.Log
