import Courier.Installation

/-!
# Internet addresses as host names

A host that looks like an internet address has to be one: four numbers up to 255 with points between
them, or up to eight groups of four hexadecimal digits, where one run of zeros may be left out. How
much looks like the former depends on the installation: of a library that takes any character for a
point, `1234567` looks like four numbers.
-/

namespace Courier.Host

/-! ## Addresses of four numbers -/

section

variable [Installation]

/-- The text is a number, and after it as many more as given, each behind a character that may stand
between two. Of the first number some digits were read before if it has `begun`. -/
def isNumbers : Nat → Bool → Text → Bool
  | more, begun, [] => begun && more = 0
  | more, begun, c :: rest => c.isAsciiDigit && isNumbers more true rest
      || begun && 0 < more && Installation.isPoint c && isNumbers (more - 1) false rest

/-- The text is taken for an address of four numbers, of any size. -/
def looksNumeric (t : Text) : Bool := isNumbers 3 false t

end

/-- One of the four numbers: up to 255 and without leading zeros. -/
def isOctet (t : Text) : Bool :=
  !t.isEmpty && t.length ≤ 3 && t.all CodePoint.isAsciiDigit
    && (t.length = 1 || t.head? != some (CodePoint.ofChar '0'))
    && t.foldl (fun n c => 10 * n + (c.val - 0x30)) 0 ≤ 255

/-- An address of four numbers. -/
def isIpv4 (t : Text) : Bool :=
  let parts := Text.splitAll (CodePoint.ofChar '.') t
  parts.length = 4 && parts.all isOctet

/-! ## Addresses of eight groups -/

/-- One of the eight groups. -/
def isGroup (t : Text) : Bool :=
  !t.isEmpty && t.length ≤ 4 && t.all fun c => c.hexValue?.isSome

/-- The groups of an address, where four numbers at the end count as two groups. -/
def groups? (t : Text) : Option (List Text) :=
  let parts := Text.splitAll (CodePoint.ofChar ':') t
  if parts.length < 3 then none
  else
    let last := parts.getLast?.getD []
    if last.contains (CodePoint.ofChar '.') then
      if isIpv4 last then some (parts.dropLast ++ [Text.ofString "0", Text.ofString "0"]) else none
    else some parts

/-- The groups before and after a run that is left out, or all groups: the right number of them, and
each well formed. An empty group may stand at an end only beside the run. -/
def areGroups (parts : List Text) : Bool :=
  let inner := (parts.drop 1).dropLast
  if (inner.filter List.isEmpty).length = 0 then parts.length = 8 && parts.all isGroup
  else if (inner.filter List.isEmpty).length = 1 then
    let before := parts.take (1 + (inner.takeWhile fun p => !p.isEmpty).length)
    let after := parts.drop (before.length + 1)
    let before := if before = [[]] then [] else before
    let after := if after = [[]] then [] else after
    before.length + after.length ≤ 7 && before.all isGroup && after.all isGroup
  else false

/-- An address of eight groups, with a zone after `%` if there is one. -/
def isIpv6 (t : Text) : Bool :=
  let percent := CodePoint.ofChar '%'
  let (address, zoneOk) := match Text.splitFirst percent t with
    | none => (t, true)
    | some (address, zone) => (address, !zone.isEmpty && !zone.contains percent)
  zoneOk && match groups? address with
    | none => false
    | some parts => parts.length ≤ 9 && areGroups parts

end Courier.Host
