import Courier.Json.Value
import Courier.Number.Shortest

/-!
# Writing JSON

A value is written in one of two styles. An answer of the gateway is compact, keeps every character
that needs no escape, and takes finite numbers only. The details of an error are written with blanks
after commas and colons, in the characters from U+0020 to U+007E alone. In both, lists and objects
are followed to a limited depth only.

* `write?`: the text of a value in a style, or the reason it has none.
-/

namespace Courier.Json

/-- How a value is written: what stands between two items and after a name, whether characters
outside U+0020 to U+007E are escaped, and whether infinities and NaN are written as words. -/
structure Style where
  itemSeparator : String
  nameSeparator : String
  asciiOnly : Bool
  allowNonFinite : Bool

/-- The style of the answers of the gateway. -/
def compact : Style := ⟨",", ":", false, false⟩

/-- The style of the details of an error. -/
def spaced : Style := ⟨", ", ": ", true, true⟩

/-- Why a value cannot be written. -/
inductive Unwritable where
  | octets
  | nonFinite
  | tooDeep
  deriving DecidableEq, Repr

/-- The words for a value that cannot be written. -/
def Unwritable.message : Unwritable → Text
  | .octets => Text.ofString "Object of type bytes is not JSON serializable"
  | .nonFinite => Text.ofString "Out of range float values are not JSON compliant"
  | .tooDeep => Text.ofString "maximum recursion depth exceeded while encoding a JSON object"

/-- The escape of a UTF-16 unit. -/
def escapeUnit (n : Nat) : Text := Text.ofString "\\u" ++ Text.lowerHex 4 n

/-- One character of a string. -/
def escape (asciiOnly : Bool) (c : CodePoint) : Text :=
  let n := c.val
  if n = 0x22 then Text.ofString "\\\""
  else if n = 0x5C then Text.ofString "\\\\"
  else if n = 0x0A then Text.ofString "\\n"
  else if n = 0x0D then Text.ofString "\\r"
  else if n = 0x09 then Text.ofString "\\t"
  else if n = 0x0C then Text.ofString "\\f"
  else if n = 0x08 then Text.ofString "\\b"
  else if n < 0x20 then escapeUnit n
  else if asciiOnly && 0x7E < n then
    if n < 0x10000 then escapeUnit n
    else escapeUnit (0xD800 + (n - 0x10000) / 0x400) ++ escapeUnit (0xDC00 + (n - 0x10000) % 0x400)
  else [c]

/-- A string in its quotes. -/
def writeString (asciiOnly : Bool) (t : Text) : Text :=
  CodePoint.ofChar '"' :: t.flatMap (escape asciiOnly) ++ [CodePoint.ofChar '"']

/-- A real number: its shortest digits, or a word. -/
def writeReal? (allowNonFinite : Bool) (x : Binary64) : Except Unwritable Text :=
  if x.isFinite then .ok (Shortest.text x)
  else if !allowNonFinite then .error .nonFinite
  else if x.isNaN then .ok (Text.ofString "NaN")
  else .ok (Text.ofString (if x.isNegative then "-Infinity" else "Infinity"))

mutual

/-- The text of a value, where lists and objects are followed to a depth: 0 takes none of them, 1
takes those that hold no others. -/
def write? (style : Style) (depth : Nat) : Value → Except Unwritable Text
  | .null => .ok (Text.ofString "null")
  | .bool b => .ok (Text.ofString (if b then "true" else "false"))
  | .int n => .ok (Text.ofInt n)
  | .real x => writeReal? style.allowNonFinite x
  | .text t => .ok (writeString style.asciiOnly t)
  | .bytes _ => .error .octets
  | .list items => match depth with
    | 0 => .error .tooDeep
    | depth + 1 => do
      let parts ← writeItems? style depth items
      .ok (Text.ofString "[" ++ Text.joinWith (Text.ofString style.itemSeparator) parts
        ++ Text.ofString "]")
  | .object members => match depth with
    | 0 => .error .tooDeep
    | depth + 1 => do
      let parts ← writeMembers? style depth members
      .ok (Text.ofString "\x7b" ++ Text.joinWith (Text.ofString style.itemSeparator) parts
        ++ Text.ofString "\x7d")

/-- The texts of the items of a list. -/
def writeItems? (style : Style) (depth : Nat) : List Value → Except Unwritable (List Text)
  | [] => .ok []
  | v :: rest => do
    let part ← write? style depth v
    let parts ← writeItems? style depth rest
    .ok (part :: parts)

/-- The texts of the members of an object, each with its name. -/
def writeMembers? (style : Style) (depth : Nat) :
    List (Text × Value) → Except Unwritable (List Text)
  | [] => .ok []
  | (name, v) :: rest => do
    let part ← write? style depth v
    let parts ← writeMembers? style depth rest
    .ok ((writeString style.asciiOnly name ++ Text.ofString style.nameSeparator ++ part) :: parts)

end

end Courier.Json
