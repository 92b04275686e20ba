import Courier.Settings.Environment
import Courier.Text.Blank

/-!
# The settings file

A file of lines `NAME=value` that adds variables to the environment. Blank lines, lines that begin
with `#` and lines without `=` are skipped. White space around names and values does not count, nor
do quotes around values. A variable that exists keeps its value, so of several lines for one name
the first counts.

* `EnvFile.entry?`: the variable that a line sets.
* `EnvFile.load`: the environment after a file is read (`_load_env_file`).
-/

namespace Courier.EnvFile

/-- A quote of either kind. -/
def isQuote (c : CodePoint) : Bool := c = CodePoint.ofChar '\'' || c = CodePoint.ofChar '"'

/-- The name and the value that a line gives, neither of them empty. -/
def entry? (line : Text) : Option (Text × Text) :=
  let stripped := Blank.strip line
  if stripped.head? = some (CodePoint.ofChar '#') then none
  else match Text.splitFirst (CodePoint.ofChar '=') stripped with
    | none => none
    | some (name, value) =>
      let name := Blank.strip name
      let value := Text.trim isQuote (Blank.strip value)
      if name.isEmpty || value.isEmpty then none else some (name, value)

/-- The lines of the text of a file. -/
def linesOf (t : Text) : List Text := Blank.lines (Blank.normalizeNewlines t)

/-- Why a file was not read to its end. -/
inductive Fault where
  | undecodable (fault : Utf8.Undecodable)
  | nulCharacter
  deriving DecidableEq, Repr

/-- The words for a fault. -/
def Fault.message : Fault → Text
  | .undecodable fault => fault.message
  | .nulCharacter => Environment.Refusal.nulCharacter.message

/-- The environment after entries, up to the first that cannot be set for a NUL in name or value. -/
def loadEntries (env : Environment) : List (Text × Text) → Environment × Option Fault
  | [] => (env, none)
  | (name, value) :: rest =>
    if env.contains name then loadEntries env rest
    else if name.contains 0 || value.contains 0 then (env, some .nulCharacter)
    else loadEntries (env.set name value) rest

/-- What stands in the place of the file. -/
inductive Place where
  | absent
  | directory
  | file (octets : Bytes)

/-- The environment after the file is read, if there is one, and the fault that stopped it
(`_load_env_file`). -/
def load (env : Environment) : Place → Environment × Option Fault
  | .absent | .directory => (env, none)
  | .file octets => match Utf8.decode? octets with
    | .error fault => (env, some (.undecodable fault))
    | .ok t => loadEntries env ((linesOf t).filterMap entry?)

end Courier.EnvFile
