import Courier.Number.Binary64
import Courier.Text.Basic

/-!
# Values of requests and answers

What a caller hands over before it is checked, and what an answer is made of: the values of JSON,
and octets beside text. The members of an object keep the order in which they were first written,
and the last value written for a name counts.
-/

namespace Courier

/-- A value whose kind is known only by looking at it. -/
inductive Value where
  | null
  | bool (b : Bool)
  | int (n : Int)
  | real (x : Binary64)
  | text (t : Text)
  | bytes (bs : Bytes)
  | list (items : List Value)
  | object (members : List (Text × Value))
  deriving Inhabited, Repr

namespace Value

/-- A text given as a string. -/
def string (s : String) : Value := .text (Text.ofString s)

/-- An object whose names are given as strings. -/
def ofFields (fields : List (String × Value)) : Value :=
  .object (fields.map fun (name, v) => (Text.ofString name, v))

/-- A value or null. -/
def ofOption (f : α → Value) : Option α → Value
  | none => .null
  | some a => f a

end Value

/-- The members of an object in the order of their first writing. -/
abbrev Members := List (Text × Value)

namespace Members

/-- The value under a name. -/
def get? (name : Text) : Members → Option Value
  | [] => none
  | (n, v) :: rest => if n = name then some v else get? name rest

/-- The members after a value is written under a name: in place of the old one, or at the end. -/
def put (name : Text) (value : Value) : Members → Members
  | [] => [(name, value)]
  | (n, v) :: rest => if n = name then (n, value) :: rest else (n, v) :: put name value rest

/-- The members that pairs, written one after another, come to. -/
def ofPairs (pairs : List (Text × Value)) : Members :=
  pairs.foldl (fun ms (name, v) => ms.put name v) []

end Members

end Courier
