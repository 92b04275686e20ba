import Courier.Text.Utf8

/-!
# Texts in ASCII

Headers and the names of hosts are sent in ASCII. What has other characters cannot be sent, and the
first run of these is reported.
-/

namespace Courier.Ascii

/-- The first run of characters outside ASCII. -/
def firstRun? (t : Text) : Option Utf8.Unencodable :=
  match t.dropWhile CodePoint.isAscii with
  | [] => none
  | c :: rest => some
      ⟨(t.takeWhile CodePoint.isAscii).length,
        1 + (rest.takeWhile fun c => !c.isAscii).length, c⟩

/-- A text without such a run, or the run. -/
def check (t : Text) : Except Utf8.Unencodable Unit :=
  match firstRun? t with
  | some run => .error run
  | none => .ok ()

/-- A character as it is named in a report. -/
def escape (c : CodePoint) : Text :=
  let n := c.val
  if n < 0x100 then Text.ofString "\\x" ++ Text.lowerHex 2 n
  else if n < 0x10000 then Text.ofString "\\u" ++ Text.lowerHex 4 n
  else Text.ofString "\\U" ++ Text.lowerHex 8 n

/-- The sentence that reports a run. -/
def message (run : Utf8.Unencodable) : Text :=
  let place :=
    if run.length = 1 then
      Text.ofString "character '" ++ escape run.first ++ Text.ofString "' in position "
        ++ Text.ofNat run.start
    else
      Text.ofString "characters in position " ++ Text.ofNat run.start ++ Text.ofString "-"
        ++ Text.ofNat (run.start + run.length - 1)
  Text.ofString "'ascii' codec can't encode " ++ place
    ++ Text.ofString ": ordinal not in range(128)"

end Courier.Ascii
