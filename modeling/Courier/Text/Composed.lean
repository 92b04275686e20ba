import Courier.Text.Decomposition
import Courier.Text.Mark

/-!
# Composed texts

One text may have several forms: a letter with a mark can be one character or two, and marks in
different places may stand in any order. The composed form of a text is the one with the fewest
characters and the marks in order: the Unicode Normalization Form C.

* `Composed.ofText`: the composed form of a text.
* `Composed.isComposed`: the text is in this form.
-/

namespace Courier.Composed

/-! ## Taking apart -/

/-- No character has to be taken apart more often than this, one part after another. -/
def maxDepth : Nat := 4

/-- What a character stands for, taken apart up to the given number of times. -/
def partsOf : Nat → CodePoint → Text
  | 0, c => [c]
  | depth + 1, c => match Decomposition.parts? c with
    | some parts => parts.flatMap (partsOf depth)
    | none => [c]

/-- One more character after those done, which are in reverse: a mark goes before the marks of
greater classes. -/
def placeMark (c : CodePoint) : Text → Text
  | [] => [c]
  | d :: rest =>
    if Mark.combiningClass c != 0 && Mark.combiningClass c < Mark.combiningClass d then
      d :: placeMark c rest
    else c :: d :: rest

/-- The text with every character taken apart and the marks in order. -/
def decompose (t : Text) : Text :=
  ((t.flatMap (partsOf maxDepth)).foldl (fun done c => placeMark c done) []).reverse

/-! ## Putting together -/

/-- How far a text is put together: what is done, in reverse; the last character that marks can be
added to; and the characters after it that could not be, in reverse. -/
structure Progress where
  done : Text
  base : Option CodePoint
  pending : Text

/-- All that was read, in reverse. -/
def Progress.all (p : Progress) : Text := p.pending ++ p.base.toList ++ p.done

/-- A character reaches the base if no character stands between them with the same class or a
greater one. -/
def Progress.reaches (p : Progress) (c : CodePoint) : Bool :=
  match p.pending with
  | [] => true
  | d :: _ => Mark.combiningClass d < Mark.combiningClass c

/-- The progress after one more character. -/
def Progress.step (p : Progress) (c : CodePoint) : Progress :=
  match p.base.bind fun b => if p.reaches c then Decomposition.whole? b c else none with
  | some whole => { p with base := some whole }
  | none =>
    if Mark.combiningClass c = 0 then ⟨p.all, some c, []⟩
    else { p with pending := c :: p.pending }

/-- The text with each character put together with the marks that reach it. -/
def compose (t : Text) : Text := (t.foldl Progress.step ⟨[], none, []⟩).all.reverse

/-- The composed form of a text. -/
def ofText (t : Text) : Text := compose (decompose t)

/-- The text is its own composed form. -/
def isComposed (t : Text) : Bool := ofText t = t

end Courier.Composed
