import Courier.Text.Basic

/-!
# Punycode

A text written in ASCII: its own characters of ASCII, a hyphen, and then, in the order of their
numbers, where the others go. Each of them is told by its distance from the one before, in places
times characters, as a number with digits of growing weight. How fast the weights grow (`threshold`)
is adapted to the distances met so far (`adapt`).

* `encode`: the form of a text.
* `decode?`: the text of a form.
-/

namespace Courier.Punycode

/-! ## Digits and weights -/

/-- There are so many digits: the letters, and the digits after them. -/
def base : Nat := 36

/-- The digit of a value below `base`. -/
def digit (n : Nat) : CodePoint := CodePoint.ofNat (if n < 26 then 0x61 + n else 0x16 + n)

/-- The value of a digit; letters of either case count. -/
def value? (c : CodePoint) : Option Nat :=
  if 0x61 ≤ c.val && c.val ≤ 0x7A then some (c.val - 0x61)
  else if 0x41 ≤ c.val && c.val ≤ 0x5A then some (c.val - 0x41)
  else if c.isAsciiDigit then some (c.val - 0x16)
  else none

/-- The least digit after which a number goes on, by its place and the bias of the number. -/
def threshold (bias place : Nat) : Nat := max 1 (min 26 (base * (place + 1) - bias))

/-- There is always a digit that ends a number. -/
theorem one_le_threshold (bias place : Nat) : 1 ≤ threshold bias place := Nat.le_max_left ..

/-- Divide by 35 until at most 455 is left, and count the divisions. -/
def shrink (divisions delta : Nat) : Nat × Nat :=
  if 455 < delta then shrink (divisions + 1) (delta / 35) else (divisions, delta)
termination_by delta
decreasing_by exact Nat.div_lt_self (by omega) (by omega)

/-- The bias after a distance, by whether it was the first and by the number of characters then in
place. -/
def adapt (delta : Nat) (first : Bool) (count : Nat) : Nat :=
  let delta := if first then delta / 700 else delta / 2
  let (divisions, delta) := shrink 0 (delta + delta / count)
  base * divisions + base * delta / (delta + 38)

/-- The bias of the first distance. -/
def firstBias : Nat := 72

/-- The first character outside ASCII. -/
def firstCode : Nat := 0x80

/-! ## Writing -/

/-- The digits of a number from a place on. -/
def digits (bias place n : Nat) : Text :=
  let t := threshold bias place
  if n < t then [digit n]
  else digit (t + (n - t) % (base - t)) :: digits bias (place + 1) ((n - t) / (base - t))
termination_by n
decreasing_by
  have h := one_le_threshold bias place
  exact Nat.lt_of_le_of_lt (Nat.div_le_self _ _) (by omega)

/-- How far a text is written: the distance from the last character written, the bias, how many
characters are placed, whether none is written yet, and what is written. -/
structure Writing where
  delta : Nat
  bias : Nat
  placed : Nat
  first : Bool
  written : Text

/-- Pass one character of the text while the characters with a number are written. -/
def Writing.pass (code : Nat) (w : Writing) (c : CodePoint) : Writing :=
  if c.val < code then { w with delta := w.delta + 1 }
  else if c.val = code then
    { delta := 0, bias := adapt w.delta w.first (w.placed + 1), placed := w.placed + 1
      first := false, written := w.written ++ digits w.bias 0 w.delta }
  else w

/-- Write the characters of each number in turn, where those below `least` are written. -/
def Writing.run (t : Text) (w : Writing) (least : Nat) : List Nat → Writing
  | [] => w
  | code :: codes =>
    let w := t.foldl (pass code) { w with delta := w.delta + (code - least) * (w.placed + 1) }
    run t { w with delta := w.delta + 1 } (code + 1) codes

/-- The form of a text. -/
def encode (t : Text) : Text :=
  let plain := t.filter CodePoint.isAscii
  let codes := ((t.filter fun c => !c.isAscii).map Fin.val).mergeSort.eraseDups
  let start : Writing := ⟨0, firstBias, plain.length, true, []⟩
  (if plain.isEmpty then [] else plain ++ [CodePoint.ofChar '-'])
    ++ (start.run t firstCode codes).written

/-! ## Reading -/

/-- How far a form is read: the text so far, the number and the place that the next distance counts
from, the bias, and of the distance being read its value, the weight of the next digit and the
number of its digits. -/
structure Reading where
  text : Text
  code : Nat
  place : Nat
  bias : Nat
  first : Bool
  delta : Nat
  weight : Nat
  digits : Nat

/-- Nothing is read of the distances yet. -/
def Reading.start (plain : Text) : Reading := ⟨plain, firstCode, 0, firstBias, true, 0, 1, 0⟩

/-- The reading after the distance is complete, unless it leads beyond the last character. -/
def Reading.insert? (r : Reading) : Option Reading :=
  let count := r.text.length + 1
  let code := r.code + (r.place + r.delta) / count
  let place := (r.place + r.delta) % count
  if h : code < 0x110000 then
    some { text := r.text.take place ++ ⟨code, h⟩ :: r.text.drop place, code := code
           place := place + 1, bias := adapt r.delta r.first count, first := false
           delta := 0, weight := 1, digits := 0 }
  else none

/-- The reading after one more digit. -/
def Reading.next? (r : Reading) (c : CodePoint) : Option Reading := do
  let n ← value? c
  let t := threshold r.bias r.digits
  let r := { r with delta := r.delta + n * r.weight }
  if n < t then r.insert?
  else some { r with weight := r.weight * (base - t), digits := r.digits + 1 }

/-- The parts before and after the last hyphen; without one all is after it. -/
def splitPlain (form : Text) : Text × Text :=
  let after := (form.reverse.takeWhile (· != CodePoint.ofChar '-')).reverse
  ((form.take (form.length - after.length)).dropLast, after)

/-- The text of a form, if it is one. -/
def decode? (form : Text) : Option Text := do
  let (plain, rest) := splitPlain form
  let r ← rest.foldlM Reading.next? (Reading.start plain)
  if r.digits = 0 then some r.text else none

end Courier.Punycode
