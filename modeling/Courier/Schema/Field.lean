import Courier.Number.Reading
import Courier.Schema.Issue
import Courier.Text.Utf8

/-!
# Fields of records

What a field of each kind takes. A field is generous: text may come as UTF-8 octets, truth values
and numbers as text. A field that is not there has its default value or is reported as missing.
-/

namespace Courier.Schema

/-! ## Kinds of values -/

/-- Text, or octets that are UTF-8. -/
def text (v : Value) : Checked Text :=
  match v with
  | .text t => .valid t
  | .bytes bs => match Utf8.decode? bs with
    | .ok t => .valid t
    | .error _ => .fault .textNotUtf8 v
  | _ => .fault .textExpected v

/-- A value of text or octets as text that is free of surrogates, where the value is one of them. -/
def readable? (unreadable : Cause) (v : Value) : Option (Checked Text) :=
  match v with
  | .text t => some (if t.isWellFormed then .valid t else .fault .textNotUtf8 v)
  | .bytes bs => some (match Utf8.decode? bs with
    | .ok t => .valid t
    | .error _ => .fault unreadable v)
  | _ => none

/-- The words for truth and falsehood, in any case. -/
def truthWords : List (String × Bool) :=
  [("0", false), ("off", false), ("f", false), ("false", false), ("n", false), ("no", false),
    ("1", true), ("on", true), ("t", true), ("true", true), ("y", true), ("yes", true)]

/-- The truth value that a word stands for. -/
def truthOfWord? (t : Text) : Option Bool :=
  (truthWords.find? fun (w, _) => Text.ofString w = t.lowerAscii).map (·.2)

/-- An integer of at most 64 bits with its sign. -/
def isWordSized (n : Int) : Bool := -0x8000000000000000 ≤ n && n < 0x8000000000000000

/-- An integer that a real number equals, strictly within the range of 64 bits. -/
def smallIntegerOf? (x : Binary64) : Option Int :=
  x.toInt?.filter fun n => -0x8000000000000000 < n && n < 0x8000000000000000

/-- Zero and one are truth values, and no other number is. -/
def truthOfInt (v : Value) (n : Int) : Checked Bool :=
  if n = 0 then .valid false else if n = 1 then .valid true else .fault .boolUnreadable v

/-- A truth value, also as a number or a word. -/
def truth (v : Value) : Checked Bool :=
  match v with
  | .bool b => .valid b
  | .int n => if isWordSized n then truthOfInt v n else .fault .boolExpected v
  | .real x => match smallIntegerOf? x with
    | some n => truthOfInt v n
    | none => .fault .boolExpected v
  | _ => match readable? .boolUnreadable v with
    | none => .fault .boolExpected v
    | some (.invalid is) => .invalid is
    | some (.valid t) => match truthOfWord? t with
      | some b => .valid b
      | none => .fault .boolUnreadable v

/-- An integer, also as a truth value, as a real number without a fraction, or as text. -/
def integer (v : Value) : Checked Int :=
  match v with
  | .int n => .valid n
  | .bool b => .valid (if b then 1 else 0)
  | .real x =>
    if !x.isFinite then .fault .numberNotFinite v
    else match x.toInt? with
      | none => .fault .integerHasFraction v
      | some _ => match smallIntegerOf? x with
        | some n => .valid n
        | none => .fault .integerTooLong v
  | _ => match readable? .integerUnreadable v with
    | none => .fault .integerExpected v
    | some (.invalid is) => .invalid is
    | some (.valid t) => match Reading.fieldInteger t with
      | .value n => .valid n
      | .malformed => .fault .integerUnreadable v
      | .tooLong => .fault .integerTooLong v

/-- A real number, also as an integer in its range, as a truth value, or as text. -/
def real (v : Value) : Checked Binary64 :=
  match v with
  | .real x => .valid x
  | .int n =>
    let x := Binary64.ofInt n
    if x.isFinite then .valid x else .fault .numberExpected v
  | .bool b => .valid (Binary64.ofInt (if b then 1 else 0))
  | _ => match readable? .numberUnreadable v with
    | none => .fault .numberExpected v
    | some (.invalid is) => .invalid is
    | some (.valid t) => match Reading.fieldReal? t with
      | some x => .valid x
      | none => .fault .numberUnreadable v

/-- One of several words. -/
def choice (choices : List (Text × α)) (v : Value) : Checked α :=
  let unknown : Cause := .choiceExpected (choices.map (·.1))
  match readable? unknown v with
  | none => .fault unknown v
  | some (.invalid is) => .invalid is
  | some (.valid t) => match choices.find? fun (w, _) => w = t with
    | some (_, a) => .valid a
    | none => .fault unknown v

/-- Null, or a value of a kind. -/
def nullable (kind : Value → Checked α) : Value → Checked (Option α)
  | .null => .valid none
  | v => some <$> kind v

/-! ## Fields -/

/-- The value of the first of several names that an object has, with that name. -/
def lookup? (names : List Text) (members : Members) : Option (Text × Value) :=
  names.findSome? fun name => (members.get? name).map fun v => (name, v)

/-- A field under one of several names, or else its default. -/
def optional (names : List String) (kind : Value → Checked α) (default : α) (members : Members) :
    Checked α :=
  match lookup? (names.map Text.ofString) members with
  | some (name, v) => (kind v).within name
  | none => .valid default

/-- A field under one of several names; if none is there, the first is reported as missing from the
object. -/
def required (names : List String) (kind : Value → Checked α) (members : Members) : Checked α :=
  match lookup? (names.map Text.ofString) members with
  | some (name, v) => (kind v).within name
  | none => .invalid
      [⟨names.head?.toList.map fun name => .name (Text.ofString name), .missing, .object members⟩]

/-- The members of an object; anything else is reported with a cause. -/
def object (cause : Cause) (fields : Members → Checked α) : Value → Checked α
  | .object members => fields members
  | v => .fault cause v

end Courier.Schema
