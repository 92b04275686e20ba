import Courier.Text.Basic

/-!
# The UTF-8 form of text

Decoding reads one octet at a time. Between two characters the next octet either is a character,
begins a sequence, or can do neither (`Lead.ofOctet`); within a sequence it continues it or not
(`Pending.next`). A sequence knows the range its next octet must lie in, so overlong forms,
surrogates and numbers beyond U+10FFFF are refused at the octet that shows them.

* `encode?`: the octets of a text without surrogates, or the first run of surrogates.
* `encodeEscaped?`: the same, where U+DC80 to U+DCFF stand for the octets 80 to FF.
* `decode?`: the text of octets, or the place and kind of the first fault.
* `decodeLossy`: the text of octets, with U+FFFD for each maximal part that is no character.
* `decodeEscaped`: the text of octets, with U+DC80 to U+DCFF for each octet that is no character.
-/

namespace Courier.Utf8

/-! ## Encoding -/

/-- The octets of one code point, one to four by its size. -/
def encodeOne (c : CodePoint) : Bytes :=
  let n := c.val
  if n < 0x80 then [n.toUInt8]
  else if n < 0x800 then [(0xC0 + n / 0x40).toUInt8, (0x80 + n % 0x40).toUInt8]
  else if n < 0x10000 then
    [(0xE0 + n / 0x1000).toUInt8, (0x80 + n / 0x40 % 0x40).toUInt8, (0x80 + n % 0x40).toUInt8]
  else
    [(0xF0 + n / 0x40000).toUInt8, (0x80 + n / 0x1000 % 0x40).toUInt8,
      (0x80 + n / 0x40 % 0x40).toUInt8, (0x80 + n % 0x40).toUInt8]

/-- The octets of every code point in turn. -/
def encodeAll (t : Text) : Bytes := t.flatMap encodeOne

/-- A run of code points that have no UTF-8 form: where it starts, how long it is, and its first. -/
structure Unencodable where
  start : Nat
  length : Nat
  first : CodePoint
  deriving DecidableEq, Repr

/-- The run of surrogates that starts at the first code point failing a test. -/
def firstRun (ok : CodePoint → Bool) (t : Text) : Option Unencodable :=
  match t.dropWhile ok with
  | [] => none
  | c :: rest => some
      { start := (t.takeWhile ok).length
        length := 1 + (rest.takeWhile CodePoint.isSurrogate).length
        first := c }

/-- The UTF-8 form of a text, or its first run of surrogates. -/
def encode? (t : Text) : Except Unencodable Bytes :=
  match firstRun (fun c => !c.isSurrogate) t with
  | none => .ok (encodeAll t)
  | some run => .error run

/-- A surrogate that stands for one octet from 80 to FF. -/
def isEscape (c : CodePoint) : Bool := 0xDC80 ≤ c.val && c.val ≤ 0xDCFF

/-- The octets of one code point, where an escape is the octet it stands for. -/
def encodeEscapedOne (c : CodePoint) : Bytes :=
  if isEscape c then [(c.val - 0xDC00).toUInt8] else encodeOne c

/-- The octets of a text in which escapes stand for single octets, or its first run of surrogates
counted from the first that is no escape. -/
def encodeEscaped? (t : Text) : Except Unencodable Bytes :=
  match firstRun (fun c => !c.isSurrogate || isEscape c) t with
  | none => .ok (t.flatMap encodeEscapedOne)
  | some run => .error run

/-- The sentence that reports a run without a UTF-8 form. -/
def Unencodable.message (run : Unencodable) : Text :=
  let place :=
    if run.length = 1 then
      Text.ofString "character '\\u" ++ Text.lowerHex 4 run.first.val
        ++ Text.ofString "' in position " ++ Text.ofNat run.start
    else
      Text.ofString "characters in position " ++ Text.ofNat run.start ++ Text.ofString "-"
        ++ Text.ofNat (run.start + run.length - 1)
  Text.ofString "'utf-8' codec can't encode " ++ place
    ++ Text.ofString ": surrogates not allowed"

/-! ## Sequences -/

/-- A sequence that is begun and not complete: how many octets it still needs, the range of the next
one, the value read so far, and how many octets that took. -/
structure Pending where
  owed : Nat
  low : Nat
  high : Nat
  value : Nat
  taken : Nat
  deriving DecidableEq, Repr

/-- What a first octet is. -/
inductive Lead where
  | character (c : CodePoint)
  | sequence (p : Pending)
  | none
  deriving DecidableEq, Repr

/-- A first octet by its value. With `surrogates` the sequence that starts with ED may go on to a
surrogate. -/
def Lead.ofOctet (surrogates : Bool) (b : UInt8) : Lead :=
  let n := b.toNat
  if n < 0x80 then .character (CodePoint.ofNat n)
  else if n < 0xC2 then .none
  else if n < 0xE0 then .sequence ⟨1, 0x80, 0xBF, n - 0xC0, 1⟩
  else if n = 0xE0 then .sequence ⟨2, 0xA0, 0xBF, n - 0xE0, 1⟩
  else if n = 0xED && !surrogates then .sequence ⟨2, 0x80, 0x9F, n - 0xE0, 1⟩
  else if n < 0xF0 then .sequence ⟨2, 0x80, 0xBF, n - 0xE0, 1⟩
  else if n = 0xF0 then .sequence ⟨3, 0x90, 0xBF, n - 0xF0, 1⟩
  else if n < 0xF4 then .sequence ⟨3, 0x80, 0xBF, n - 0xF0, 1⟩
  else if n = 0xF4 then .sequence ⟨3, 0x80, 0x8F, n - 0xF0, 1⟩
  else .none

/-- The sequence after one more octet: complete, still pending, or broken by it. -/
def Pending.next (p : Pending) (b : UInt8) : Lead :=
  if p.low ≤ b.toNat && b.toNat ≤ p.high then
    let value := p.value * 0x40 + b.toNat % 0x40
    if p.owed ≤ 1 then .character (CodePoint.ofNat value)
    else .sequence ⟨p.owed - 1, 0x80, 0xBF, value, p.taken + 1⟩
  else .none

/-! ## Strict decoding -/

/-- Why octets are not UTF-8. -/
inductive Reason where
  | invalidStart
  | invalidContinuation
  | unexpectedEnd
  deriving DecidableEq, Repr

/-- The words for a reason. -/
def Reason.message : Reason → String
  | .invalidStart => "invalid start byte"
  | .invalidContinuation => "invalid continuation byte"
  | .unexpectedEnd => "unexpected end of data"

/-- The first fault of octets that are not UTF-8: where the bad sequence starts, how many octets it
has, the first of them, and what is wrong. -/
structure Undecodable where
  start : Nat
  length : Nat
  first : UInt8
  reason : Reason
  deriving DecidableEq, Repr

/-- The sentence that reports octets without a reading. -/
def Undecodable.message (fault : Undecodable) : Text :=
  let place :=
    if fault.length = 1 then
      Text.ofString "byte 0x" ++ Bytes.hex [fault.first] ++ Text.ofString " in position "
        ++ Text.ofNat fault.start
    else
      Text.ofString "bytes in position " ++ Text.ofNat fault.start ++ Text.ofString "-"
        ++ Text.ofNat (fault.start + fault.length - 1)
  Text.ofString "'utf-8' codec can't decode " ++ place ++ Text.ofString ": "
    ++ Text.ofString fault.reason.message

/-- A sequence in progress and its first octet. -/
abbrev Progress := Option (UInt8 × Pending)

/-- Read on from an octet position, within a sequence or between two, with the characters read so
far in reverse. -/
def decodeFrom (surrogates : Bool) (pos : Nat) (read : Text) :
    Progress → Bytes → Except Undecodable Text
  | none, [] => .ok read.reverse
  | some (first, p), [] => .error ⟨pos - p.taken, p.taken, first, .unexpectedEnd⟩
  | none, b :: rest =>
    match Lead.ofOctet surrogates b with
    | .character c => decodeFrom surrogates (pos + 1) (c :: read) none rest
    | .sequence p => decodeFrom surrogates (pos + 1) read (some (b, p)) rest
    | .none => .error ⟨pos, 1, b, .invalidStart⟩
  | some (first, p), b :: rest =>
    match p.next b with
    | .character c => decodeFrom surrogates (pos + 1) (c :: read) none rest
    | .sequence p' => decodeFrom surrogates (pos + 1) read (some (first, p')) rest
    | .none => .error ⟨pos - p.taken, p.taken, first, .invalidContinuation⟩

/-- The text of octets in UTF-8, or their first fault. -/
def decode? (bs : Bytes) : Except Undecodable Text := decodeFrom false 0 [] none bs

/-- The text of octets in UTF-8 extended by three-octet forms of the surrogates. -/
def decodeWithSurrogates? (bs : Bytes) : Except Undecodable Text := decodeFrom true 0 [] none bs

/-! ## Decoding that never fails -/

/-- Read on where each broken part, given by its octets, is written by `patch`. -/
def decodePatching (patch : Bytes → Text) (read : Text) :
    Option (Bytes × Pending) → Bytes → Text
  | none, [] => read.reverse
  | some (part, _), [] => ((patch part).reverse ++ read).reverse
  | none, b :: rest =>
    match Lead.ofOctet false b with
    | .character c => decodePatching patch (c :: read) none rest
    | .sequence p => decodePatching patch read (some ([b], p)) rest
    | .none => decodePatching patch ((patch [b]).reverse ++ read) none rest
  | some (part, p), b :: rest =>
    match p.next b with
    | .character c => decodePatching patch (c :: read) none rest
    | .sequence p' => decodePatching patch read (some (part ++ [b], p')) rest
    | .none =>
      let read := (patch part).reverse ++ read
      match Lead.ofOctet false b with
      | .character c => decodePatching patch (c :: read) none rest
      | .sequence p' => decodePatching patch read (some ([b], p')) rest
      | .none => decodePatching patch ((patch [b]).reverse ++ read) none rest

/-- The text of octets, with one U+FFFD for each maximal part that is no character. -/
def decodeLossy (bs : Bytes) : Text := decodePatching (fun _ => [CodePoint.replacement]) [] none bs

/-- The text of octets, with the escape of each octet that is part of no character. -/
def decodeEscaped (bs : Bytes) : Text :=
  decodePatching (fun part => part.map fun b => CodePoint.ofNat (0xDC00 + b.toNat)) [] none bs

end Courier.Utf8
