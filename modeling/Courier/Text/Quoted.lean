import Courier.Text.Printable

/-!
# Quoted text

A text as it is shown inside another one: in single quotes, or in double quotes where it holds a
single one and no double one, with escapes for the quote, the backslash and whatever is not
printable.
-/

namespace Courier.Quoted

private def backslash : CodePoint := CodePoint.ofChar '\\'

/-- The quote that a text is put in. -/
def delimiter (t : Text) : CodePoint :=
  if t.contains (CodePoint.ofChar '\'') && !t.contains (CodePoint.ofChar '"') then
    CodePoint.ofChar '"'
  else CodePoint.ofChar '\''

/-- One character within the given quotes. -/
def escape (quote c : CodePoint) : Text :=
  let n := c.val
  if c = quote || c = backslash then [backslash, c]
  else if n = 0x09 then Text.ofString "\\t"
  else if n = 0x0A then Text.ofString "\\n"
  else if n = 0x0D then Text.ofString "\\r"
  else if Printable.isPrintable c then [c]
  else if n < 0x100 then Text.ofString "\\x" ++ Text.lowerHex 2 n
  else if n < 0x10000 then Text.ofString "\\u" ++ Text.lowerHex 4 n
  else Text.ofString "\\U" ++ Text.lowerHex 8 n

/-- The text in quotes. -/
def quote (t : Text) : Text :=
  let q := delimiter t
  q :: t.flatMap (escape q) ++ [q]

end Courier.Quoted
