import FormLogic.Number.Binary64

/-!
# Shortest decimal text

Of all decimals that read back as the same number, the text of a number has the
fewest digits, and among those it is the nearest. How the digits are laid out is
a `FloatLayout`, a value of the format that writes them.
-/
namespace FormLogic

/-- The decimal `digits * 10 ^ exponent`. -/
structure Decimal where
  digits : Nat
  exponent : Int
deriving DecidableEq, Repr

namespace Decimal

/-- Drop the zeros that end the digits, `fuel` of them at most. -/
def trim : Nat → Decimal → Decimal
  | 0, d => d
  | fuel + 1, d =>
    if d.digits ≠ 0 ∧ d.digits % 10 = 0 then trim fuel ⟨d.digits / 10, d.exponent + 1⟩ else d

end Decimal

/-- Which of two equally near decimals is written. -/
inductive Tie where
  | even
  | up
deriving DecidableEq, Repr

namespace Binary64

/-- The exponent of the leading decimal digit of `num / den`, searched downward through `fuel`
places. -/
def leadingPlace (num den : Nat) : Nat → Int → Int
  | 0, place => place
  | fuel + 1, place =>
    let reached : Bool :=
      if 0 ≤ place then den * Nat.pow 10 place.toNat ≤ num
      else den ≤ num * Nat.pow 10 (-place).toNat
    if reached then place else leadingPlace num den fuel (place - 1)

/-- A place at least that of the leading digit, from the exponent of the leading bit. -/
def placeBound (num den : Nat) : Int := (leadingExponent num den + 1) * 30103 / 100000 + 1

/-- Compare `c * 10 ^ k` with `x * 2 ^ p` exactly. -/
def comparePoint (c : Nat) (k : Int) (x : Nat) (p : Int) : Ordering :=
  compare (c * Nat.pow 10 k.toNat * Nat.pow 2 (-p).toNat)
    (x * Nat.pow 2 p.toNat * Nat.pow 10 (-k).toNat)

/-- The decimal with `n` digits, for `n` from `count` on, that first reads back as `x`. -/
def searchShortest (tie : Tie) (x : Binary64) (place : Int) : Nat → Nat → Decimal
  | 0, count => ⟨0, count⟩
  | fuel + 1, count =>
    let (m, q) := x.significand
    let k := place - count + 1
    let p := q - 2
    let center := 4 * m
    let low :=
      if x.magnitude % fractions = 0 ∧ fractions < x.magnitude then center - 1 else center - 2
    let high := center + 2
    let closed := m % 2 = 0
    let reads (c : Nat) : Bool :=
      let above := comparePoint c k low p
      let below := comparePoint c k high p
      (above == .gt || (closed && above == .eq)) && (below == .lt || (closed && below == .eq))
    let floor :=
      (center * Nat.pow 2 p.toNat * Nat.pow 10 (-k).toNat)
        / (Nat.pow 10 k.toNat * Nat.pow 2 (-p).toNat)
    let chosen : Option Nat :=
      match reads floor, reads (floor + 1) with
      | true, true =>
        match comparePoint (2 * floor + 1) k (2 * center) p with
        | .gt => some floor
        | .lt => some (floor + 1)
        | .eq =>
          match tie with
          | .up => some (floor + 1)
          | .even => some (floor + floor % 2)
      | true, false => some floor
      | false, true => some (floor + 1)
      | false, false => none
    match chosen with
    | some c => Decimal.trim 20 ⟨c, k⟩
    | none => searchShortest tie x place fuel (count + 1)

/-- The shortest decimal that reads back as a finite magnitude. Seventeen digits always suffice. -/
def shortest (tie : Tie) (x : Binary64) : Decimal :=
  if x.isZero then ⟨0, 0⟩
  else
    let (num, den) := x.ratio
    searchShortest tie x (leadingPlace num den 8 (placeBound num den)) 17 1

end Binary64

/-- How a format lays out the digits of a number. -/
structure FloatLayout where
  /-- Leading places written without an exponent, if the format has exponents at all. -/
  positional : Option (Int × Int)
  /-- A whole number ends in `.0`. -/
  pointZero : Bool
  /-- A positive exponent carries its sign. -/
  exponentPlus : Bool
  tie : Tie
  infinity : String
  notANumber : String

namespace FloatLayout

def zeros (n : Nat) : String := String.ofList (List.replicate n '0')

/-- Digits written without an exponent. -/
def plain (layout : FloatLayout) (d : Decimal) : String :=
  let digits := toString d.digits
  let point : Int := digits.length + d.exponent
  if 0 ≤ d.exponent then
    digits ++ zeros d.exponent.toNat ++ (if layout.pointZero then ".0" else "")
  else if 0 < point then
    String.ofList (digits.toList.take point.toNat) ++ "."
      ++ String.ofList (digits.toList.drop point.toNat)
  else "0." ++ zeros (-point).toNat ++ digits

/-- Digits written with an exponent, one digit before the point. -/
def scientific (layout : FloatLayout) (d : Decimal) : String :=
  let digits := (toString d.digits).toList
  let place : Int := digits.length - 1 + d.exponent
  let sign := if place < 0 then "-" else if layout.exponentPlus then "+" else ""
  String.ofList (digits.take 1)
    ++ (if 1 < digits.length then "." ++ String.ofList (digits.drop 1) else "")
    ++ "e" ++ sign ++ toString place.natAbs

/-- The text of a number. A zero keeps its sign. -/
def render (layout : FloatLayout) (x : Binary64) : String :=
  if x.isNotANumber then layout.notANumber
  else
    let sign := if x.negative then "-" else ""
    if !x.isFinite then sign ++ layout.infinity
    else
      let d := x.shortest layout.tie
      let place : Int := (toString d.digits).length - 1 + d.exponent
      let positional :=
        match layout.positional with
        | none => true
        | some (low, high) => decide (low ≤ place ∧ place < high)
      sign ++ (if positional then layout.plain d else layout.scientific d)

/-- Numbers inside messages never have an exponent, and a whole number has no point. -/
def prose : FloatLayout := ⟨none, false, false, .up, "inf", "NaN"⟩

end FloatLayout
end FormLogic
