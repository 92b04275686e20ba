import Courier.Text.Utf8

/-!
# The environment

Named texts that settings are read from. Names are unique, and the order of first assignment is
kept. The environment stores octets: a text that was assigned comes back as those octets are read,
so escapes that together form a character come back as that character.
-/

namespace Courier

/-- The variables of a process. -/
structure Environment where
  entries : List (Text × Text)
  deriving DecidableEq, Repr

namespace Environment

/-- No variables. -/
def empty : Environment := ⟨[]⟩

/-- The value of a variable. -/
def get? (env : Environment) (name : Text) : Option Text :=
  (env.entries.find? fun (n, _) => n = name).map (·.2)

/-- The value of a variable named by a string, or a default. -/
def getD (env : Environment) (name : String) (default : String) : Text :=
  (env.get? (Text.ofString name)).getD (Text.ofString default)

/-- A variable of this name exists, even with an empty value. -/
def contains (env : Environment) (name : Text) : Bool := (env.get? name).isSome

/-- The environment after a variable has a value. -/
def set (env : Environment) (name value : Text) : Environment :=
  if env.contains name then
    ⟨env.entries.map fun (n, v) => if n = name then (n, value) else (n, v)⟩
  else ⟨env.entries ++ [(name, value)]⟩

/-- The environment without a variable. -/
def erase (env : Environment) (name : Text) : Environment :=
  ⟨env.entries.filter fun (n, _) => n != name⟩

/-- Why a variable cannot be assigned. -/
inductive Refusal where
  | nulCharacter
  | illegalName
  | emptyName
  | unencodable (run : Utf8.Unencodable)
  deriving DecidableEq, Repr

/-- The words for a refused assignment. -/
def Refusal.message : Refusal → Text
  | .nulCharacter => Text.ofString "embedded null byte"
  | .illegalName => Text.ofString "illegal environment variable name"
  | .emptyName => Text.ofString "[Errno 22] Invalid argument"
  | .unencodable run => run.message

/-- The octets that a text is stored as. -/
def octets? (t : Text) : Except Refusal Bytes := (Utf8.encodeEscaped? t).mapError .unencodable

/-- Assign a variable from outside. -/
def assign? (env : Environment) (name value : Text) : Except Refusal Environment := do
  let name ← octets? name
  let value ← octets? value
  if name.contains 0 || value.contains 0 then .error .nulCharacter
  else if name.contains 0x3D then .error .illegalName
  else if name.isEmpty then .error .emptyName
  else .ok (env.set (Utf8.decodeEscaped name) (Utf8.decodeEscaped value))

/-- Remove a variable from outside. -/
def remove? (env : Environment) (name : Text) : Except Refusal Environment :=
  (octets? name).map fun name => env.erase (Utf8.decodeEscaped name)

end Environment

end Courier
