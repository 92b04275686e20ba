import Courier.Schema.Issue

/-!
# Assigning to a field

The fields of a record can be given other values afterwards, and those are not checked. A record may
be frozen, and its derived properties cannot be assigned to. Names that begin with an underscore are
no fields; some of them are reserved.

* `assign`: what an assignment does, or why it is refused.
-/

namespace Courier.Schema

/-- How a record takes assignments: not at all if `frozen`, and never to a derived property. -/
structure Access where
  record : Record
  frozen : Bool
  derived : List String

/-- The properties that every record has besides its own. -/
def commonProperties : List String := ["model_extra", "model_fields_set"]

/-- A reserved name: the kind of a record, all its fields together, the references to it, the names
of the fields that were given, and what is said of the fields. -/
inductive Reserved where
  | kind
  | fields
  | references
  | given
  | described
  deriving DecidableEq, Repr

/-- A reserved name as it is written. -/
def Reserved.name : Reserved → String
  | .kind => "__class__"
  | .fields => "__dict__"
  | .references => "__weakref__"
  | .given => "__fields_set__"
  | .described => "__fields__"

/-- The reserved name that a text is. -/
def Reserved.ofName? (name : Text) : Option Reserved :=
  [Reserved.kind, .fields, .references, .given, .described].find? fun r =>
    Text.ofString r.name = name

/-- The word for the kind of a value. -/
def kindWord : Value → String
  | .null => "NoneType"
  | .bool _ => "bool"
  | .int _ => "int"
  | .real _ => "float"
  | .text _ => "str"
  | .bytes _ => "bytes"
  | .list _ => "list"
  | .object _ => "dict"

/-- Why an assignment is refused. -/
inductive Refusal where
  | frozen (r : Record) (name : Text)
  | derived (r : Record) (name : Text)
  | unknown (r : Record) (name : Text)
  | notClass (kind : String)
  | notFields (kind : String)
  | unwritable (r : Record) (name : Text)
  | absent (r : Record) (name : Text)
  deriving DecidableEq, Repr

/-- The sentence for a refusal. -/
def Refusal.message : Refusal → Text
  | .frozen _ _ => Cause.frozen.message
  | .derived r name => Text.ofString "property '" ++ name ++ Text.ofString "' of '"
      ++ Text.ofString r.title ++ Text.ofString "' object has no setter"
  | .unknown r name => Text.ofString "\"" ++ Text.ofString r.title
      ++ Text.ofString "\" object has no field \"" ++ name ++ Text.ofString "\""
  | .notClass kind => Text.ofString "__class__ must be set to a class, not '"
      ++ Text.ofString kind ++ Text.ofString "' object"
  | .notFields kind => Text.ofString "__dict__ must be set to a dictionary, not a '"
      ++ Text.ofString kind ++ Text.ofString "'"
  | .unwritable r name => Text.ofString "attribute '" ++ name ++ Text.ofString "' of '"
      ++ Text.ofString r.title ++ Text.ofString "' objects is not writable"
  | .absent r name => Text.ofString "'" ++ Text.ofString r.title
      ++ Text.ofString "' object has no attribute '" ++ name ++ Text.ofString "'"

/-- What an assignment does to the fields: nothing, or they are those given. -/
inductive Effect where
  | none
  | fields (ms : Members)

/-- Put members in the place of all fields, each of which has to be among them. -/
def replaceFields (r : Record) (fields members : Members) : Except Refusal Members :=
  fields.mapM fun (name, _) => match members.get? name with
    | some v => .ok (name, v)
    | none => .error (.absent r name)

/-- What an assignment to a reserved name does. -/
def assignReserved (r : Record) (fields : Members) (value : Value) :
    Reserved → Except Refusal Effect
  | .kind => .error (.notClass (kindWord value))
  | .references => .error (.unwritable r (Text.ofString Reserved.references.name))
  | .given => .error (.derived r (Text.ofString Reserved.given.name))
  | .described => .error (.derived r (Text.ofString Reserved.described.name))
  | .fields => match value with
    | .object members => .fields <$> replaceFields r fields members
    | v => .error (.notFields (kindWord v))

/-- What an assignment does. A name that begins with an underscore and is not reserved may be
assigned, also to a frozen record, without effect on the fields. -/
def assign (access : Access) (fields : Members) (name : Text) (value : Value) :
    Except Refusal Effect :=
  if name.head? = some (CodePoint.ofChar '_') then
    match Reserved.ofName? name with
    | some r => assignReserved access.record fields value r
    | none => .ok .none
  else if access.frozen then .error (.frozen access.record name)
  else if (access.derived ++ commonProperties).any (Text.ofString · = name) then
    .error (.derived access.record name)
  else if (fields.get? name).isSome then .ok (.fields (fields.put name value))
  else .error (.unknown access.record name)

end Courier.Schema
