import FormLogic.Number.Literal
import FormLogic.Text.Hexadecimal

/-!
# YAML scalars

What an unquoted YAML text stands for. Null, the booleans, whole numbers in four
bases and fractional numbers have their spellings; every other text is a text, and
so is a number with a leading zero. Whole numbers fit 128 bits.
-/
namespace FormLogic.Yaml

/-- What an unquoted text stands for. -/
inductive Scalar where
  | null
  | bool (b : Bool)
  | int (n : Int)
  | float
  | text
deriving DecidableEq, Repr, Inhabited

/-- Digits with a leading zero are no number. -/
def hasLeadingZero (cs : List Char) : Bool :=
  let body :=
    match cs with
    | '-' :: rest => rest
    | '+' :: rest => rest
    | _ => cs
  1 < body.length && body.head? == some '0' && body.all Char.isDigit

def maxWhole : Nat := 0xFFFFFFFFFFFFFFFFFFFFFFFFFFFFFFFF

def minWholeMagnitude : Nat := 0x80000000000000000000000000000000

/-- Digits after a mark for their base, decimal without one. -/
def unsigned? : List Char → Option Nat
  | '0' :: 'x' :: rest => Hexadecimal.number? 16 rest
  | '0' :: 'o' :: rest => Hexadecimal.number? 8 rest
  | '0' :: 'b' :: rest => Hexadecimal.number? 2 rest
  | cs => Hexadecimal.number? 10 cs

/-- A whole number. -/
def int? (cs : List Char) : Option Int :=
  let positive (cs : List Char) : Option Int :=
    ((unsigned? cs).filter (· ≤ maxWhole)).map Int.ofNat
  if hasLeadingZero cs then none
  else
    match cs with
    | '-' :: rest => ((unsigned? rest).filter (· ≤ minWholeMagnitude)).map fun n => -(n : Int)
    | '+' :: rest => positive rest
    | _ => positive cs

/-- The spellings of infinity and of what is no number, and finite numbers. -/
def isFloat (s : String) : Bool :=
  let cs := s.toList
  let unsigned := match cs with
    | '+' :: rest => rest
    | _ => cs
  [".inf", ".Inf", ".INF"].contains (String.ofList unsigned)
    || ["-.inf", "-.Inf", "-.INF", ".nan", ".NaN", ".NAN"].contains s
    || (!(cs.head? == some '+' && (unsigned.head? == some '+' || unsigned.head? == some '-'))
      && ((Literal.float? (String.ofList unsigned)).map Binary64.isFinite).getD false)

def Scalar.ofText (s : String) : Scalar :=
  if ["", "~", "null", "Null", "NULL"].contains s then .null
  else if ["true", "True", "TRUE"].contains s then .bool true
  else if ["false", "False", "FALSE"].contains s then .bool false
  else
    match int? s.toList with
    | some n => .int n
    | none => if !hasLeadingZero s.toList && isFloat s then .float else .text

end FormLogic.Yaml
