import Courier.Web.Label

/-!
# Domain names

Names of hosts beyond ASCII, as they are written and as they are called.

* `DomainName.ascii?`: the name as it is called, all in ASCII.
* `DomainName.unicode?`: the name that is called so.
-/

namespace Courier.DomainName

/-- The characters that count as dots between labels: that of ASCII, and those of the scripts of
China and Japan. -/
def isDot (c : CodePoint) : Bool := c = 0x2E || c = 0x3002 || c = 0xFF0E || c = 0xFF61

/-- The parts between dots, the empty ones too. -/
def split (t : Text) : List Text :=
  Text.splitAll (CodePoint.ofChar '.')
    (t.map fun c => if isDot c then CodePoint.ofChar '.' else c)

/-- The greatest number of characters of a name, without a dot at its end. -/
def maxLength : Nat := 253

/-- The labels of a name, and whether a dot ends it. -/
def labels? (t : Text) : Except Label.Fault (List Text × Bool) :=
  let parts := split t
  if maxLength + 1 < t.length then .error .domainTooLong
  else if parts = [[]] then .error .emptyDomain
  else if parts.getLast? = some [] then .ok (parts.dropLast, true)
  else .ok (parts, false)

/-- The name of labels. -/
def join (labels : List Text) (dotted : Bool) : Text :=
  Text.joinWith (Text.ofString ".") (if dotted then labels ++ [[]] else labels)

/-- The name as it is called. -/
def ascii? (t : Text) : Except Label.Fault Text := do
  let (labels, dotted) ← labels? t
  let name := join (← labels.mapM Label.ascii?) dotted
  if maxLength + (if dotted then 1 else 0) < name.length then throw .domainTooLong
  pure name

/-- The name that is called so. -/
def unicode? (t : Text) : Except Label.Fault Text := do
  let (labels, dotted) ← labels? t
  pure (join (← labels.mapM Label.unicode?) dotted)

end Courier.DomainName
