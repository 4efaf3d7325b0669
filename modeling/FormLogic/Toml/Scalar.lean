import FormLogic.Number.Literal
import FormLogic.Toml.Text

/-!
# Numbers and dates of TOML

Each reader takes what it can from the front and gives what follows.
-/
namespace FormLogic.Toml

/-- Digits, with underscores between digits only; without the underscores. -/
def digitRun? (isDigit : Char → Bool) (cs : List Char) : Option (List Char × List Char) :=
  let run := cs.takeWhile fun c => isDigit c || c == '_'
  let rec isWellPlaced (afterDigit : Bool) : List Char → Bool
    | [] => afterDigit
    | '_' :: rest => afterDigit && isWellPlaced false rest
    | _ :: rest => isWellPlaced true rest
  if isWellPlaced false run then some (run.filter (· != '_'), cs.drop run.length) else none

/-- A decimal number without leading zeros. -/
def decimal? (cs : List Char) : Option (List Char × List Char) :=
  match cs with
  | '0' :: rest => some (['0'], rest)
  | _ => digitRun? Char.isDigit cs

/-- A whole number that fits 64 bits. -/
def int? (cs : List Char) : Option (Int × List Char) := do
  let inBase (base : Nat) (rest : List Char) : Option (Int × List Char) := do
    let isDigit (c : Char) : Bool := ((Hexadecimal.digit? c).filter (· < base)).isSome
    let (digits, rest) ← digitRun? isDigit rest
    (Hexadecimal.number? base digits).map fun n => (Int.ofNat n, rest)
  let (n, rest) ← match cs with
    | '0' :: 'x' :: rest => inBase 16 rest
    | '0' :: 'o' :: rest => inBase 8 rest
    | '0' :: 'b' :: rest => inBase 2 rest
    | _ => do
      let (negative, body) := Literal.splitSign cs
      let (digits, rest) ← decimal? body
      let n : Int := Literal.digitsValue 0 digits
      some (if negative then -n else n, rest)
  if -(Literal.signedBound : Int) ≤ n ∧ n < Literal.signedBound then some (n, rest) else none

/-- What follows an exponent, and its value. -/
def exponent? : List Char → Option (Int × List Char)
  | [] => none
  | c :: rest =>
    if c == 'e' || c == 'E' then do
      let (negative, body) := Literal.splitSign rest
      let (digits, rest) ← digitRun? Char.isDigit body
      let n : Int := Literal.digitsValue 0 digits
      some (if negative then -n else n, rest)
    else none

/-- What follows a fractional number: a whole part, and a fraction, an exponent or both. It may be
too small for a number, but not too large. -/
def afterFloat? (cs : List Char) : Option (List Char) := do
  let (negative, body) := Literal.splitSign cs
  if body.take 3 = ['i', 'n', 'f'] ∨ body.take 3 = ['n', 'a', 'n'] then some (body.drop 3)
  else
    let (whole, rest) ← decimal? body
    let (fraction, exponent, rest) ← match rest with
      | '.' :: rest => do
        let (fraction, rest) ← digitRun? Char.isDigit rest
        if (rest.head?.map fun c => c == 'e' || c == 'E').getD false then
          let (exponent, rest) ← exponent? rest
          some (fraction, exponent, rest)
        else some (fraction, 0, rest)
      | _ => do
        let (exponent, rest) ← exponent? rest
        some ([], exponent, rest)
    let digits := Literal.digitsValue 0 (whole ++ fraction)
    let x := Binary64.ofDecimal negative digits (exponent - fraction.length)
    if x.isFinite || negative then some rest else none

/-- A number of `count` digits between two bounds. -/
def bounded? (count low high : Nat) (cs : List Char) : Option (Nat × List Char) :=
  let digits := cs.take count
  if digits.length = count ∧ digits.all Char.isDigit then
    let n := Literal.digitsValue 0 digits
    if low ≤ n ∧ n ≤ high then some (n, cs.drop count) else none
  else none

/-- What follows a character. -/
def after? (c : Char) : List Char → Option (List Char)
  | d :: rest => if c = d then some rest else none
  | [] => none

def daysOf (year month : Nat) : Nat :=
  if month = 2 then
    if year % 4 = 0 ∧ (year % 100 ≠ 0 ∨ year % 400 = 0) then 29 else 28
  else if [4, 6, 9, 11].contains month then 30 else 31

def afterDate? (cs : List Char) : Option (List Char) := do
  let (year, rest) ← bounded? 4 0 9999 cs
  let (month, rest) ← bounded? 2 1 12 (← after? '-' rest)
  let (day, rest) ← bounded? 2 1 31 (← after? '-' rest)
  if day ≤ daysOf year month then some rest else none

/-- What follows hours and minutes. -/
def afterMinute? (cs : List Char) : Option (List Char) := do
  let (_, rest) ← bounded? 2 0 23 cs
  let (_, rest) ← bounded? 2 0 59 (← after? ':' rest)
  some rest

/-- What follows a time to the second or to a fraction of it. There may be a leap second. -/
def afterTime? (cs : List Char) : Option (List Char) := do
  let (_, rest) ← bounded? 2 0 60 (← after? ':' (← afterMinute? cs))
  match rest with
  | '.' :: fraction =>
    if (fraction.head?.map Char.isDigit).getD false then some (fraction.dropWhile Char.isDigit)
    else some rest
  | _ => some rest

/-- What follows the distance of a time from that at the zero meridian, if it is given. -/
def afterOffset (cs : List Char) : List Char :=
  match cs with
  | 'Z' :: rest | 'z' :: rest => rest
  | '+' :: rest | '-' :: rest => (afterMinute? rest).getD cs
  | _ => cs

/-- What follows a date, a time, or both. -/
def afterDateTime? (cs : List Char) : Option (List Char) :=
  match afterDate? cs with
  | none => afterTime? cs
  | some rest =>
    match rest with
    | c :: time =>
      if c == 'T' || c == 't' || c == ' ' then some (((afterTime? time).map afterOffset).getD rest)
      else some rest
    | [] => some rest

end FormLogic.Toml
