/-!
# Binary64 numbers

A number of the IEEE 754 format with 64 bits, given by its bits. A finite one is `±m · 2^q` with
`m < 2^53` and `-1074 ≤ q`; everything here is computed from `m` and `q` in exact arithmetic.

* `Binary64.mantissa`, `Binary64.exponent`: the `m` and `q` of the bits.
* `Binary64.ofRatio`: the number nearest to a quotient, a tie going to the even mantissa.
* `Binary64.ofDecimal`: the number nearest to `digits · 10^exponent`.
-/

namespace Courier

/-- The 64 bits of a number: a sign, 11 bits of exponent, 52 bits of fraction. -/
structure Binary64 where
  bits : UInt64
  deriving DecidableEq, Repr

namespace Binary64

/-- The sign bit is set. -/
def isNegative (x : Binary64) : Bool := 0x8000000000000000 ≤ x.bits.toNat

/-- The eleven bits after the sign. -/
def biasedExponent (x : Binary64) : Nat := x.bits.toNat / 0x10000000000000 % 0x800

/-- The last 52 bits. -/
def fraction (x : Binary64) : Nat := x.bits.toNat % 0x10000000000000

/-- Neither an infinity nor a NaN. -/
def isFinite (x : Binary64) : Bool := x.biasedExponent != 0x7FF

/-- Not a number at all. -/
def isNaN (x : Binary64) : Bool := x.biasedExponent = 0x7FF && x.fraction != 0

/-- The `m` of `m · 2^q`, for a finite number. -/
def mantissa (x : Binary64) : Nat :=
  if x.biasedExponent = 0 then x.fraction else 0x10000000000000 + x.fraction

/-- The `q` of `m · 2^q`, for a finite number. -/
def exponent (x : Binary64) : Int :=
  if x.biasedExponent = 0 then -1074 else (x.biasedExponent : Int) - 1075

/-- Zero of either sign. -/
def isZero (x : Binary64) : Bool := x.biasedExponent = 0 && x.fraction = 0

/-- The sign bit of a number. -/
def signBit (negative : Bool) : Nat := if negative then 0x8000000000000000 else 0

/-- The number with a sign and the bits below it. -/
def ofMagnitude (negative : Bool) (magnitude : Nat) : Binary64 :=
  ⟨(signBit negative + magnitude).toUInt64⟩

/-- Zero with a sign. -/
def zero (negative : Bool) : Binary64 := ofMagnitude negative 0

/-- Infinity with a sign. -/
def infinity (negative : Bool) : Binary64 := ofMagnitude negative 0x7FF0000000000000

/-- The quiet NaN with no payload. -/
def nan : Binary64 := ofMagnitude false 0x7FF8000000000000

/-- A quotient rounded to the nearest natural number, a half going to the even one. -/
def divideToEven (num den : Nat) : Nat :=
  let q := num / den
  let r := num % den
  if 2 * r < den then q
  else if den < 2 * r then q + 1
  else if q % 2 = 0 then q else q + 1

/-- The exponent of the greatest power of two that is at most `num / den`. -/
def floorLog2 (num den : Nat) : Int :=
  let estimate := (num.log2 : Int) - den.log2
  let atLeast := if 0 ≤ estimate then den * Nat.pow 2 estimate.toNat ≤ num
    else den ≤ num * Nat.pow 2 (-estimate).toNat
  if atLeast then estimate else estimate - 1

/-- The number nearest to `num / den`, a tie going to the even mantissa; beyond the greatest finite
number it is infinity. -/
def ofRatio (negative : Bool) (num den : Nat) : Binary64 :=
  if num = 0 then zero negative
  else
    let q := max (floorLog2 num den - 52) (-1074)
    if 971 < q then infinity negative
    else
      let m := if 0 ≤ q then divideToEven num (den * Nat.pow 2 q.toNat)
        else divideToEven (num * Nat.pow 2 (-q).toNat) den
      -- a mantissa below 2^52 has the least exponent, and 2^53 carries into the exponent
      let magnitude := (q + 1074).toNat * 0x10000000000000 + m
      if magnitude < 0x7FF0000000000000 then ofMagnitude negative magnitude else infinity negative

/-- The number nearest to `digits · 10^exponent`. -/
def ofDecimal (negative : Bool) (digits : Nat) (exponent : Int) : Binary64 :=
  if digits = 0 then zero negative
  else
    -- `digits` lies between 2^log2 and 2^(log2 + 1), and 10^309 and 10^(-325) round to the ends
    if 310 < exponent then infinity negative
    else if exponent < 0 && (digits.log2 : Int) < (-exponent - 330) * 3 then zero negative
    else if 0 ≤ exponent then ofRatio negative (digits * Nat.pow 10 exponent.toNat) 1
    else ofRatio negative digits (Nat.pow 10 (-exponent).toNat)

/-- The number nearest to an integer. -/
def ofInt (n : Int) : Binary64 := ofRatio (n < 0) n.natAbs 1

/-- The integer that a finite number without a fractional part equals. -/
def toInt? (x : Binary64) : Option Int :=
  if !x.isFinite then none
  else
    let magnitude :=
      if 0 ≤ x.exponent then some (x.mantissa * Nat.pow 2 x.exponent.toNat)
      else
        let unit := Nat.pow 2 (-x.exponent).toNat
        if x.mantissa % unit = 0 then some (x.mantissa / unit) else none
    magnitude.map fun m => if x.isNegative then -(m : Int) else m

/-- The greatest integer that is at most a finite number. -/
def floor (x : Binary64) : Int :=
  let signed : Int := if x.isNegative then -(x.mantissa : Int) else x.mantissa
  if 0 ≤ x.exponent then signed * Nat.pow 2 x.exponent.toNat
  else signed.fdiv (Nat.pow 2 (-x.exponent).toNat)

end Binary64

end Courier
