import FormLogic.Number.Binary64
import FormLogic.Text.Blank

/-!
# Numbers written as text

Reading whole numbers and binary64 numbers out of attribute texts. A fractional
number may have a sign, a point with digits on either side, an exponent, or be
one of the words for infinity and for what is not a number, in any case.
-/
namespace FormLogic.Literal

/-- The value of a run of digits, read left to right after `acc`. -/
def digitsValue (acc : Nat) (cs : List Char) : Nat :=
  cs.foldl (fun n c => 10 * n + (c.toNat - '0'.toNat)) acc

def digits? (cs : List Char) : Option Nat :=
  if cs ≠ [] ∧ cs.all Char.isDigit then some (digitsValue 0 cs) else none

/-- The largest natural that fits a machine word. -/
def wordMax : Nat := 0xFFFFFFFFFFFFFFFF

/-- The magnitude of the least number that fits a word with a sign. -/
def signedBound : Nat := 0x8000000000000000

/-- A natural that fits a word, written in digits after an optional plus sign. -/
def wordOfChars? (cs : List Char) : Option Nat :=
  let body :=
    match cs with
    | '+' :: rest => rest
    | _ => cs
  (digits? body).filter (· ≤ wordMax)

def word? (s : String) : Option Nat := wordOfChars? s.toList

/-- Split a sign off the front; `true` for minus. -/
def splitSign : List Char → Bool × List Char
  | '-' :: rest => (true, rest)
  | '+' :: rest => (false, rest)
  | cs => (false, cs)

/-- An exponent after its letter: an optional sign and at least one digit. -/
def exponent? (cs : List Char) : Option Int :=
  let (negative, body) := splitSign cs
  (digits? body).map fun n => if negative then -(n : Int) else n

/-- The number written in `cs`, without sign: digits, an optional point, an optional exponent. -/
def magnitude? (negative : Bool) (cs : List Char) : Option Binary64 := do
  let whole := cs.takeWhile Char.isDigit
  let afterWhole := cs.dropWhile Char.isDigit
  let (fraction, afterFraction) :=
    match afterWhole with
    | '.' :: rest => (rest.takeWhile Char.isDigit, rest.dropWhile Char.isDigit)
    | _ => ([], afterWhole)
  if whole = [] ∧ fraction = [] then none
  else
    let exponent ← match afterFraction with
      | [] => some 0
      | c :: rest => if c = 'e' ∨ c = 'E' then exponent? rest else none
    some (.ofDecimal negative (digitsValue 0 (whole ++ fraction)) (exponent - fraction.length))

/-- A binary64 number written as text, rounded to nearest. -/
def float? (s : String) : Option Binary64 :=
  let (negative, body) := splitSign s.toList
  match String.ofList (body.map Char.toLower) with
  | "inf" | "infinity" => some ⟨negative, Binary64.infinityMagnitude⟩
  | "nan" => some Binary64.notANumber
  | _ => magnitude? negative body

end FormLogic.Literal
