import Courier.Text.Basic

/-!
# White space and lines

Two classes of blank characters are in use: the Unicode property White_Space, which numbers in
messages may have around them, and the wider class of the characters that `strip` removes from the
lines of a settings file, which adds the four information separators of ASCII.

* `lines`: a text cut at its line boundaries, without an empty last line.
* `normalizeNewlines`: carriage returns, alone or before a line feed, become line feeds.
-/

namespace Courier.Blank

/-- The Unicode property White_Space. -/
def isWhiteSpace (c : CodePoint) : Bool :=
  let n := c.val
  (0x09 ≤ n && n ≤ 0x0D) || n = 0x20 || n = 0x85 || n = 0xA0 || n = 0x1680
    || (0x2000 ≤ n && n ≤ 0x200A) || n = 0x2028 || n = 0x2029 || n = 0x202F || n = 0x205F
    || n = 0x3000

/-- White space or one of the separators U+001C to U+001F. -/
def isBlank (c : CodePoint) : Bool := isWhiteSpace c || (0x1C ≤ c.val && c.val ≤ 0x1F)

/-- The white space of ASCII. -/
def isAsciiSpace (c : CodePoint) : Bool := (0x09 ≤ c.val && c.val ≤ 0x0D) || c.val = 0x20

/-- The text without blank characters at its ends. -/
def strip (t : Text) : Text := t.trim isBlank

/-- The text without white space at its ends. -/
def trimWhiteSpace (t : Text) : Text := t.trim isWhiteSpace

/-- A character at which a line ends. -/
def isLineBoundary (c : CodePoint) : Bool :=
  let n := c.val
  (0x0A ≤ n && n ≤ 0x0D) || (0x1C ≤ n && n ≤ 0x1E) || n = 0x85 || n = 0x2028 || n = 0x2029

/-- The text with each carriage return, and the line feed after it, made one line feed. -/
def normalizeNewlines : Text → Text
  | [] => []
  | [c] => if c = 0x0D then [0x0A] else [c]
  | c :: d :: rest =>
    if c = 0x0D then
      if d = 0x0A then 0x0A :: normalizeNewlines rest else 0x0A :: normalizeNewlines (d :: rest)
    else c :: normalizeNewlines (d :: rest)

/-- The pieces between line boundaries, each of one character; a text that ends with a boundary has
no piece after it. -/
def lines : Text → List Text
  | [] => []
  | c :: rest =>
    if isLineBoundary c then [] :: lines rest
    else match lines rest with
      | [] => [[c]]
      | line :: more => (c :: line) :: more

end Courier.Blank
