/-!
# Sixty-four-bit floating-point numbers

A number is kept by its sign and its magnitude, the magnitude being the
exponent field followed by the fraction field of the binary64 format. Magnitudes
are ordered as the numbers they stand for, so comparing numbers is comparing
naturals, and every rounding below is exact natural-number arithmetic: nothing
rests on the hardware's floating-point unit.
-/
namespace FormLogic

/-- A binary64 number by sign and magnitude. A magnitude beyond that of infinity is no number. -/
structure Binary64 where
  negative : Bool
  magnitude : Nat
deriving DecidableEq, Repr, Inhabited

namespace Binary64

/-- Values of the fraction field: the step from one exponent field to the next. -/
def fractions : Nat := 0x10000000000000

/-- The magnitude of infinity: every exponent bit set, no fraction bit. -/
def infinityMagnitude : Nat := 2047 * fractions

def notANumber : Binary64 := ⟨false, infinityMagnitude + fractions / 2⟩

def isNotANumber (x : Binary64) : Bool := infinityMagnitude < x.magnitude
def isFinite (x : Binary64) : Bool := x.magnitude < infinityMagnitude
def isZero (x : Binary64) : Bool := x.magnitude == 0

/-- The place of a number among all numbers. Both zeros have place `0`. -/
def rank (x : Binary64) : Int := if x.negative then -(x.magnitude : Int) else x.magnitude

/-- Numeric equality: the two zeros are equal, and what is not a number equals nothing. -/
def numEq (x y : Binary64) : Bool :=
  !x.isNotANumber && !y.isNotANumber && x.rank == y.rank

/-- Numeric order: false as soon as one side is not a number. -/
def numLt (x y : Binary64) : Bool :=
  !x.isNotANumber && !y.isNotANumber && decide (x.rank < y.rank)

/-- The quotient rounded to the nearest natural, a half going to the even neighbour. -/
def roundQuotient (num den : Nat) : Nat :=
  let floor := num / den
  let rest := 2 * (num % den)
  if rest < den then floor
  else if den < rest then floor + 1
  else floor + floor % 2

/-- The exponent of the leading bit of `num / den`, both positive. -/
def leadingExponent (num den : Nat) : Int :=
  let guess : Int := (num.log2 : Int) - den.log2
  let reached : Bool :=
    if 0 ≤ guess then den * Nat.pow 2 guess.toNat ≤ num else den ≤ num * Nat.pow 2 (-guess).toNat
  if reached then guess else guess - 1

/-- The magnitude nearest to `num / den`, ties to the even one and overflow to infinity. -/
def roundRatio (num den : Nat) : Nat :=
  if num = 0 then 0
  else
    let unit : Int := max (leadingExponent num den - 52) (-1074)
    let units :=
      if 0 ≤ unit then roundQuotient num (den * Nat.pow 2 unit.toNat)
      else roundQuotient (num * Nat.pow 2 (-unit).toNat) den
    min infinityMagnitude ((unit + 1074).toNat * fractions + units)

/-- A finite magnitude as `m * 2 ^ q`: significand and exponent. -/
def significand (x : Binary64) : Nat × Int :=
  let field := x.magnitude / fractions
  let fraction := x.magnitude % fractions
  if field = 0 then (fraction, -1074) else (fractions + fraction, (field : Int) - 1075)

/-- A finite magnitude as numerator and denominator. -/
def ratio (x : Binary64) : Nat × Nat :=
  let (m, q) := x.significand
  if 0 ≤ q then (m * Nat.pow 2 q.toNat, 1) else (m, Nat.pow 2 (-q).toNat)

def ofNat (n : Nat) : Binary64 := ⟨false, roundRatio n 1⟩

def ofInt (n : Int) : Binary64 := ⟨decide (n < 0), roundRatio n.natAbs 1⟩

/-- Product of finite numbers, rounded once. -/
def mul (x y : Binary64) : Binary64 :=
  let (a, b) := x.ratio
  let (c, d) := y.ratio
  ⟨x.negative != y.negative, roundRatio (a * c) (b * d)⟩

/-- Quotient of finite numbers, `y` not zero, rounded once. -/
def div (x y : Binary64) : Binary64 :=
  let (a, b) := x.ratio
  let (c, d) := y.ratio
  ⟨x.negative != y.negative, roundRatio (a * d) (b * c)⟩

/-- Decimal digits of a natural, at least one. -/
def digitCount (n : Nat) : Nat := (Nat.toDigits 10 n).length

/-- The number nearest to `digits * 10 ^ exponent`. Far out of range the power is not formed. -/
def ofDecimal (negative : Bool) (digits : Nat) (exponent : Int) : Binary64 :=
  let top := exponent + digitCount digits
  let magnitude :=
    if digits = 0 ∨ top < -400 then 0
    else if 400 < top then infinityMagnitude
    else if 0 ≤ exponent then roundRatio (digits * Nat.pow 10 exponent.toNat) 1
    else roundRatio digits (Nat.pow 10 (-exponent).toNat)
  ⟨negative, magnitude⟩

/-- The largest power of ten below infinity. -/
def maxPower : Nat := 308

/-- `x * 10 ^ exponent` in at most `steps` roundings, for `x` at least zero; `none` on overflow. A
power of ten is itself rounded, and a factor beyond the range is applied in parts. -/
def scale : Nat → Binary64 → Int → Option Binary64
  | 0, x, _ => some x
  | steps + 1, x, exponent =>
    if exponent.natAbs ≤ maxPower then
      let power := ofNat (Nat.pow 10 exponent.natAbs)
      if 0 ≤ exponent then
        let y := x.mul power
        if y.isFinite then some y else none
      else some (x.div power)
    else if x.isZero then some x
    else if 0 < exponent then none
    else scale steps (x.div (ofNat (Nat.pow 10 maxPower))) (exponent + maxPower)

/-- The number a significand and a power of ten stand for in a document: the significand is rounded
first and then scaled. Four steps exhaust any significand below `2 ^ 64`. -/
def scaled? (negative : Bool) (significand : Nat) (exponent : Int) : Option Binary64 :=
  (scale 4 (ofNat significand) exponent).map fun x => ⟨negative, x.magnitude⟩

end Binary64
end FormLogic
