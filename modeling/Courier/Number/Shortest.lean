import Courier.Number.Binary64
import Courier.Text.Basic

/-!
# The shortest decimal that reads back

A finite number `m · 2^q` is the nearest one to every real of an interval around it. Among the
decimals in the interval, those with the fewest digits are the shortest ones, and of these the one
nearest to the number is written.

* `Shortest.digits`: those digits and the place of the decimal point.
* `Shortest.text`: how they are laid out, positional between `1e-4` and `1e16`.
-/

namespace Courier.Shortest

/-- A positive decimal `0.d₁d₂… · 10^point` with `d₁ ≠ 0`, the digits given as one number. -/
structure Decimal where
  digits : Nat
  count : Nat
  point : Int
  deriving DecidableEq, Repr

/-- The greatest `e` with `10^e ≤ num / den`. -/
def floorLog10 (num den : Nat) : Int :=
  -- log10 2 lies between 0.30102 and 0.30103, and the difference of the logarithms is off by one at
  -- most
  let bits := (num.log2 : Int) - den.log2
  let estimate := (bits - 1) * 30103 / 100000 - 1
  let reaches (e : Int) : Bool :=
    if 0 ≤ e then den * Nat.pow 10 e.toNat ≤ num else den ≤ num * Nat.pow 10 (-e).toNat
  if reaches (estimate + 3) then estimate + 3
  else if reaches (estimate + 2) then estimate + 2
  else if reaches (estimate + 1) then estimate + 1
  else estimate

/-- A number with its interval over one denominator: every real from `low / den` to `high / den`
rounds to `value / den`, the ends too if `closed`. -/
structure Interval where
  low : Nat
  value : Nat
  high : Nat
  den : Nat
  closed : Bool

/-- The interval of a positive finite number. -/
def Interval.ofBinary64 (x : Binary64) : Interval :=
  let m := x.mantissa
  let q := x.exponent
  -- at a power of two the neighbour below is only half as far, except at the least exponent
  let narrow := x.fraction = 0 && 1 < x.biasedExponent
  let low := if narrow then 4 * m - 1 else 4 * m - 2
  let scale := if 0 ≤ q then Nat.pow 2 q.toNat else 1
  let den := if 0 ≤ q then 4 else 4 * Nat.pow 2 (-q).toNat
  ⟨low * scale, 4 * m * scale, (4 * m + 2) * scale, den, m % 2 = 0⟩

/-- The decimal `n · 10^e` lies in the interval. -/
def Interval.contains (i : Interval) (n : Nat) (e : Int) : Bool :=
  let num := if 0 ≤ e then n * Nat.pow 10 e.toNat * i.den else n * i.den
  let unit := if 0 ≤ e then 1 else Nat.pow 10 (-e).toNat
  if i.closed then i.low * unit ≤ num && num ≤ i.high * unit
  else i.low * unit < num && num < i.high * unit

/-- Of the two multiples of `10^e` around the value, the one in the interval; of two such, the
nearer, and of two equally near the even one. -/
def Interval.onGrid (i : Interval) (e : Int) : Option Nat :=
  let num := if 0 ≤ e then i.value else i.value * Nat.pow 10 (-e).toNat
  let den := if 0 ≤ e then i.den * Nat.pow 10 e.toNat else i.den
  let below := num / den
  let nearest := Binary64.divideToEven num den
  let other := if nearest = below then below + 1 else below
  if i.contains nearest e then some nearest
  else if i.contains other e then some other
  else none

/-- The first grid with a hit, from `count` digits on, for a value whose first digit has the weight
`10^top`. -/
def search (i : Interval) (top : Int) : Nat → Nat → Option (Nat × Int)
  | 0, _ => none
  | fuel + 1, count =>
    let e := top + 1 - count
    match i.onGrid e with
    | some n => some (n, e)
    | none => search i top fuel (count + 1)

/-- A number without its trailing zeros, and how many there were. -/
def stripZeros : Nat → Nat → Nat → Nat × Nat
  | 0, n, zeros => (n, zeros)
  | fuel + 1, n, zeros => if n % 10 = 0 then stripZeros fuel (n / 10) (zeros + 1) else (n, zeros)

/-- The digits of a positive finite number. Seventeen always suffice. -/
def digits (x : Binary64) : Decimal :=
  let i := Interval.ofBinary64 x
  match search i (floorLog10 i.value i.den) 17 1 with
  | none => ⟨0, 1, 1⟩
  | some (n, e) =>
    let (n, zeros) := stripZeros 20 n 0
    let count := (Nat.toDigits 10 n).length
    ⟨n, count, e + zeros + count⟩

/-- How a decimal is laid out: the least and greatest place of the point that is written without an
exponent, the mark of the exponent, and the least number of its digits. -/
structure Layout where
  leastPoint : Int
  greatestPoint : Int
  mark : String
  exponentDigits : Nat

/-- Numbers from `1e-4` up to but not including `1e16` are positional with at least one place after
the point; an exponent has a sign and two digits. -/
def layout : Layout := ⟨-3, 16, "e", 2⟩

/-- The text of a decimal. -/
def Decimal.text (l : Layout) (d : Decimal) : Text :=
  let ds := Text.ofNat d.digits
  let zeros (n : Nat) : Text := List.replicate n (CodePoint.ofChar '0')
  let dot : Text := Text.ofString "."
  if l.leastPoint ≤ d.point && d.point ≤ l.greatestPoint then
    if d.point ≤ 0 then zeros 1 ++ dot ++ zeros (-d.point).toNat ++ ds
    else
      let whole := d.point.toNat
      if d.count ≤ whole then ds ++ zeros (whole - d.count) ++ dot ++ zeros 1
      else ds.take whole ++ dot ++ ds.drop whole
  else
    let e := d.point - 1
    let magnitude := Text.ofNat e.natAbs
    ds.take 1 ++ (if d.count = 1 then [] else dot ++ ds.drop 1) ++ Text.ofString l.mark
      ++ Text.ofString (if e < 0 then "-" else "+")
      ++ zeros (l.exponentDigits - magnitude.length) ++ magnitude

/-- The text of a number: its sign and shortest digits, `inf` or `nan`. -/
def text (x : Binary64) : Text :=
  if x.isNaN then Text.ofString "nan"
  else
    let sign := Text.ofString (if x.isNegative then "-" else "")
    if !x.isFinite then sign ++ Text.ofString "inf"
    else if x.isZero then sign ++ Text.ofString "0.0"
    else sign ++ (digits x).text layout

end Courier.Shortest
