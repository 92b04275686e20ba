import Courier.Json.Value

/-!
# What is wrong with a value

Checking a record reports every fault it finds, in the order of the fields. An `Issue` says where
the fault is, what it is, and which value it was found in; `Checked` collects them.
-/

namespace Courier.Schema

/-- The records of this library, by the name under which their faults are reported. -/
inductive Record where
  | credentials
  | message
  | outcome
  | submission
  | receipt
  | clientSettings
  | gatewaySettings
  deriving DecidableEq, Repr

/-- The name of a record in reports. -/
def Record.title : Record → String
  | .credentials => "Credentials"
  | .message => "MessageRequest"
  | .outcome => "SendResult"
  | .submission => "SendMessageRequest"
  | .receipt => "SendMessageResponse"
  | .clientSettings => "ClientSettings"
  | .gatewaySettings => "Settings"

/-- A step on the way from a whole value to a part of it. -/
inductive Key where
  | name (t : Text)
  | index (n : Nat)
  deriving DecidableEq, Repr

/-- A kind of fault. -/
inductive Cause where
  | missing
  | textExpected
  | textNotUtf8
  | octetsExpected
  | boolExpected
  | boolUnreadable
  | integerExpected
  | integerUnreadable
  | integerHasFraction
  | integerTooLong
  | numberNotFinite
  | numberExpected
  | numberUnreadable
  | choiceExpected (choices : List Text)
  | recordExpected (r : Record)
  | objectExpected
  | frozen
  | notJson (reason : Text)
  deriving DecidableEq, Repr

/-- The word for a kind of fault. -/
def Cause.kind : Cause → String
  | .missing => "missing"
  | .textExpected => "string_type"
  | .textNotUtf8 => "string_unicode"
  | .octetsExpected => "bytes_type"
  | .boolExpected => "bool_type"
  | .boolUnreadable => "bool_parsing"
  | .integerExpected => "int_type"
  | .integerUnreadable => "int_parsing"
  | .integerHasFraction => "int_from_float"
  | .integerTooLong => "int_parsing_size"
  | .numberNotFinite => "finite_number"
  | .numberExpected => "float_type"
  | .numberUnreadable => "float_parsing"
  | .choiceExpected _ => "enum"
  | .recordExpected _ => "model_type"
  | .objectExpected => "model_attributes_type"
  | .frozen => "frozen_instance"
  | .notJson _ => "json_invalid"

/-- Quoted choices with commas between them and "or" before the last. -/
def enumeration : List Text → Text
  | [] => []
  | [c] => quoted c
  | [c, d] => quoted c ++ Text.ofString " or " ++ quoted d
  | c :: rest => quoted c ++ Text.ofString ", " ++ enumeration rest
where
  /-- A choice in single quotes. -/
  quoted (t : Text) : Text := Text.ofString "'" ++ t ++ Text.ofString "'"

/-- The sentence for a kind of fault. -/
def Cause.message : Cause → Text
  | .missing => Text.ofString "Field required"
  | .textExpected => Text.ofString "Input should be a valid string"
  | .textNotUtf8 =>
    Text.ofString "Input should be a valid string, unable to parse raw data as a unicode string"
  | .octetsExpected => Text.ofString "Input should be a valid bytes"
  | .boolExpected => Text.ofString "Input should be a valid boolean"
  | .boolUnreadable => Text.ofString "Input should be a valid boolean, unable to interpret input"
  | .integerExpected => Text.ofString "Input should be a valid integer"
  | .integerUnreadable =>
    Text.ofString "Input should be a valid integer, unable to parse string as an integer"
  | .integerHasFraction =>
    Text.ofString "Input should be a valid integer, got a number with a fractional part"
  | .integerTooLong =>
    Text.ofString "Unable to parse input string as an integer, exceeded maximum size"
  | .numberNotFinite => Text.ofString "Input should be a finite number"
  | .numberExpected => Text.ofString "Input should be a valid number"
  | .numberUnreadable =>
    Text.ofString "Input should be a valid number, unable to parse string as a number"
  | .choiceExpected choices => Text.ofString "Input should be " ++ enumeration choices
  | .recordExpected r =>
    Text.ofString "Input should be a valid dictionary or instance of " ++ Text.ofString r.title
  | .objectExpected =>
    Text.ofString "Input should be a valid dictionary or object to extract fields from"
  | .frozen => Text.ofString "Instance is frozen"
  | .notJson _ => Text.ofString "JSON decode error"

/-- A fault at a place, with the value it was found in. -/
structure Issue where
  place : List Key
  cause : Cause
  input : Value

/-- The issue seen from a value that holds the faulty one under a name. -/
def Issue.within (name : Text) (i : Issue) : Issue := { i with place := .name name :: i.place }

/-- A value that passed its checks, or the issues found in it. -/
inductive Checked (α : Type) where
  | valid (a : α)
  | invalid (issues : List Issue)

namespace Checked

/-- A single fault of a value, at the value itself. -/
def fault (cause : Cause) (input : Value) : Checked α := .invalid [⟨[], cause, input⟩]

/-- The issues of two parts are joined in order. -/
def both (f : Checked (α → β)) (a : Checked α) : Checked β :=
  match f, a with
  | .valid f, .valid a => .valid (f a)
  | .valid _, .invalid is => .invalid is
  | .invalid is, .valid _ => .invalid is
  | .invalid is, .invalid js => .invalid (is ++ js)

instance : Applicative Checked where
  pure := .valid
  seq f a := both f (a ())

/-- The value with its issues placed under a name. -/
def within (name : Text) : Checked α → Checked α
  | .valid a => .valid a
  | .invalid is => .invalid (is.map (Issue.within name))

end Checked

end Courier.Schema
