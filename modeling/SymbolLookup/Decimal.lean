/-!
# Decimal fractions

Numbers written with a point or an exponent, and the nearest number that a binary floating point
format of double precision holds.

## Main definitions

* `Decimal`: a signed whole number times a power of ten.
* `Decimal.rounded`: the magnitude as double precision holds it.
* `Decimal.isZero`, `Decimal.truncate?`: whether it is held as zero, and its whole part.

## Design notes

Rounding is to the nearest and to the even one of two equally near. Exponents far beyond the
format are settled first, so that no power of ten with a huge exponent is ever computed.
-/

namespace SymbolLookup

/-- A power of two. -/
def powerOfTwo (exponent : Nat) : Nat := Nat.pow 2 exponent

/-- A power of ten. -/
def powerOfTen (exponent : Nat) : Nat := Nat.pow 10 exponent

/-- The number `± digits * 10 ^ exponent`. -/
structure Decimal where
  /-- Whether the number has a minus sign. -/
  negative : Bool := false
  /-- The digits without the point. -/
  digits : Nat
  /-- The power of ten by which they are multiplied. -/
  exponent : Int := 0
  deriving DecidableEq, Repr

/-- A magnitude in double precision. -/
inductive Binary where
  /-- The number `significand * 2 ^ exponent`. -/
  | finite (significand : Nat) (exponent : Int)
  /-- A magnitude beyond the greatest finite one. -/
  | infinite
  deriving DecidableEq, Repr

namespace Binary

/-- The binary digits of a significand. -/
def precision : Nat := 53

/-- The exponent of the least magnitude above zero. -/
def leastExponent : Int := -1074

/-- All finite magnitudes are below two to this power. -/
def bound : Nat := 1024

/-- The whole number nearest to a fraction, the even one of two. -/
def roundDiv (num den : Nat) : Nat :=
  let quotient := num / den
  let twice := 2 * (num % den)
  if twice < den ∨ (twice = den ∧ quotient % 2 = 0) then quotient else quotient + 1

/-- The exponent `e` with `2 ^ e ≤ num / den < 2 ^ (e + 1)`. -/
def floorLog2 (num den : Nat) : Int :=
  let guess : Int := (Nat.log2 num : Int) - Nat.log2 den
  if den * powerOfTwo guess.toNat ≤ num * powerOfTwo (-guess).toNat then guess else guess - 1

/-- The fraction `num / den` in double precision. -/
def ofFraction (num den : Nat) : Binary :=
  if num = 0 then .finite 0 0
  else
    let exponent := max (floorLog2 num den - (precision - 1)) leastExponent
    let significand :=
      roundDiv (num * powerOfTwo (-exponent).toNat) (den * powerOfTwo exponent.toNat)
    if powerOfTwo (bound - exponent.toNat) ≤ significand ∧ 0 ≤ exponent then .infinite
    else .finite significand exponent

end Binary

namespace Decimal

/-- Powers of ten beyond this one take every number other than zero out of the format. -/
def farExponent : Int := 400

/-- The magnitude in double precision. -/
def rounded (d : Decimal) : Binary :=
  if d.digits = 0 then .finite 0 0
  else if farExponent < d.exponent then .infinite
  else if d.exponent < -(farExponent + Nat.log2 d.digits) then .finite 0 0
  else Binary.ofFraction (d.digits * powerOfTen d.exponent.toNat) (powerOfTen (-d.exponent).toNat)

/-- Whether the number is held as zero. -/
def isZero (d : Decimal) : Bool :=
  match d.rounded with
  | .finite significand _ => significand == 0
  | .infinite => false

/-- The whole part of the number as double precision holds it, if it is finite. -/
def truncate? (d : Decimal) : Option Int :=
  match d.rounded with
  | .infinite => none
  | .finite significand exponent =>
    let whole := significand * powerOfTwo exponent.toNat / powerOfTwo (-exponent).toNat
    some (if d.negative then -whole else whole)

end Decimal

end SymbolLookup
