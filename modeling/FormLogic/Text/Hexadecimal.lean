/-!
# Hexadecimal digits

The value of a digit in bases up to sixteen, and characters given by the digits of
their code point.
-/
namespace FormLogic.Hexadecimal

/-- The value of a digit, in either case. -/
def digit? (c : Char) : Option Nat :=
  if c.isDigit then some (c.toNat - '0'.toNat)
  else if 'a' ≤ c ∧ c ≤ 'f' then some (c.toNat - 'a'.toNat + 10)
  else if 'A' ≤ c ∧ c ≤ 'F' then some (c.toNat - 'A'.toNat + 10)
  else none

/-- The value of a run of digits in a base up to sixteen, which must not be empty. -/
def number? (base : Nat) (cs : List Char) : Option Nat :=
  let append (n : Nat) (c : Char) : Option Nat :=
    ((digit? c).filter (· < base)).map (base * n + ·)
  if cs.isEmpty then none else cs.foldlM append 0

/-- The character that the first `count` digits name, and what follows them. Surrogates are no
characters. -/
def char? (count : Nat) (cs : List Char) : Option (Char × List Char) := do
  let digits := cs.take count
  let n ← number? 16 digits
  if digits.length = count ∧ (n < 0xD800 ∨ (0xDFFF < n ∧ n < 0x110000)) then
    some (Char.ofNat n, cs.drop count)
  else none

end FormLogic.Hexadecimal
