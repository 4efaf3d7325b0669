import FormLogic.Number.Literal
import FormLogic.Value.Basic

/-!
# Values from JSON text

`Value.parse?` reads one document. A repeated key keeps its last value, nesting
is limited, and a number whose magnitude is out of range is refused, as is half a
surrogate pair.
-/
namespace FormLogic.Value

/-- Blanks between tokens. -/
def skipBlank : List Char → List Char
  | c :: rest => if c = ' ' ∨ c = '\n' ∨ c = '\t' ∨ c = '\r' then skipBlank rest else c :: rest
  | [] => []

/-- What is left after a literal word. -/
def afterWord? : List Char → List Char → Option (List Char)
  | [], cs => some cs
  | _ :: _, [] => none
  | w :: ws, c :: cs => if w = c then afterWord? ws cs else none

def hexValue? (c : Char) : Option Nat :=
  if c.isDigit then some (c.toNat - '0'.toNat)
  else if 'a' ≤ c ∧ c ≤ 'f' then some (c.toNat - 'a'.toNat + 10)
  else if 'A' ≤ c ∧ c ≤ 'F' then some (c.toNat - 'A'.toNat + 10)
  else none

/-- Four hexadecimal digits. -/
def unit? : List Char → Option (Nat × List Char)
  | a :: b :: c :: d :: rest => do
    let a ← hexValue? a
    let b ← hexValue? b
    let c ← hexValue? c
    let d ← hexValue? d
    some (((a * 16 + b) * 16 + c) * 16 + d, rest)
  | _ => none

/-- The character written by one or two escaped units. A surrogate must be paired. -/
def unicodeEscape? (cs : List Char) : Option (Char × List Char) := do
  let (high, rest) ← unit? cs
  if 0xD800 ≤ high ∧ high < 0xDC00 then
    match rest with
    | '\\' :: 'u' :: rest =>
      let (low, rest) ← unit? rest
      if 0xDC00 ≤ low ∧ low < 0xE000 then
        some (Char.ofNat (0x10000 + (high - 0xD800) * 0x400 + (low - 0xDC00)), rest)
      else none
    | _ => none
  else if 0xDC00 ≤ high ∧ high < 0xE000 then none
  else some (Char.ofNat high, rest)

/-- The rest of a quoted text after its opening quote, read in `fuel` characters at most. -/
def quotedBody? : Nat → List Char → List Char → Option (String × List Char)
  | 0, _, _ => none
  | fuel + 1, acc, cs =>
    match cs with
    | [] => none
    | '"' :: rest => some (String.ofList acc.reverse, rest)
    | '\\' :: 'u' :: rest =>
      match unicodeEscape? rest with
      | some (c, rest) => quotedBody? fuel (c :: acc) rest
      | none => none
    | '\\' :: c :: rest =>
      match c with
      | '"' => quotedBody? fuel ('"' :: acc) rest
      | '\\' => quotedBody? fuel ('\\' :: acc) rest
      | '/' => quotedBody? fuel ('/' :: acc) rest
      | 'b' => quotedBody? fuel (Char.ofNat 8 :: acc) rest
      | 'f' => quotedBody? fuel (Char.ofNat 12 :: acc) rest
      | 'n' => quotedBody? fuel ('\n' :: acc) rest
      | 'r' => quotedBody? fuel ('\r' :: acc) rest
      | 't' => quotedBody? fuel ('\t' :: acc) rest
      | _ => none
    | c :: rest => if c.toNat < 32 then none else quotedBody? fuel (c :: acc) rest

def quoted? (cs : List Char) : Option (String × List Char) := quotedBody? (cs.length + 1) [] cs

/-- The digits that still fit a word after `acc`, how many there were, and the rest. -/
def takeFitting (acc count : Nat) : List Char → Nat × Nat × List Char
  | [] => (acc, count, [])
  | c :: rest =>
    if c.isDigit ∧ 10 * acc + (c.toNat - '0'.toNat) ≤ Literal.wordMax then
      takeFitting (10 * acc + (c.toNat - '0'.toNat)) (count + 1) rest
    else (acc, count, c :: rest)

/-- The largest exponent that is read; a larger one only decides between zero and out of range. -/
def exponentMax : Nat := 0x7FFFFFFF

/-- The exponent part of a number, at its letter or absent, applied to what was read before it. -/
def exponentPart? (negative : Bool) (significand : Nat) (exponent : Int) (cs : List Char) :
    Option (Binary64 × List Char) :=
  match cs with
  | c :: rest =>
    if c = 'e' ∨ c = 'E' then
      let (down, body) := Literal.splitSign rest
      let digits := body.takeWhile Char.isDigit
      let rest := body.dropWhile Char.isDigit
      if digits = [] then none
      else
        let n := Literal.digitsValue 0 digits
        if exponentMax < n then
          if significand ≠ 0 ∧ !down then none else some (⟨negative, 0⟩, rest)
        else
          (Binary64.scaled? negative significand (if down then exponent - n else exponent + n)).map
            (·, rest)
    else (Binary64.scaled? negative significand exponent).map (·, cs)
  | [] => (Binary64.scaled? negative significand exponent).map (·, [])

/-- The fraction and exponent of a number whose whole part gave `significand * 10 ^ exponent`.
Digits that no longer fit a word are dropped. -/
def fractionPart? (negative : Bool) (significand : Nat) (exponent : Int) (cs : List Char) :
    Option (Binary64 × List Char) :=
  match cs with
  | '.' :: rest =>
    let (kept, count, beyond) := takeFitting significand 0 rest
    match rest with
    | [] => none
    | c :: _ =>
      if c.isDigit then
        exponentPart? negative kept (exponent - count) (beyond.dropWhile Char.isDigit)
      else none
  | _ => exponentPart? negative significand exponent cs

/-- A number after its sign. Without point and exponent it is whole if it is in range; minus zero is
binary64. -/
def unsigned? (negative : Bool) (cs : List Char) : Option (Number × List Char) :=
  let digits := cs.takeWhile Char.isDigit
  let rest := cs.dropWhile Char.isDigit
  let fractional : Bool :=
    match rest with
    | c :: _ => c = '.' ∨ c = 'e' ∨ c = 'E'
    | [] => false
  if digits = [] ∨ (1 < digits.length ∧ digits.head? = some '0') then none
  else
    let n := Literal.digitsValue 0 digits
    let signed : Int := if negative then -(n : Int) else n
    if !fractional ∧ Number.intMin ≤ signed ∧ signed ≤ Number.intMax ∧ !(negative ∧ n = 0) then
      some (.int signed, rest)
    else
      let (kept, _, beyond) := takeFitting 0 0 digits
      if !fractional ∧ beyond = [] then some (.float ⟨negative, (Binary64.ofNat n).magnitude⟩, rest)
      else
        (fractionPart? negative kept beyond.length rest).map fun (x, rest) => (.float x, rest)

def number? : List Char → Option (Number × List Char)
  | '-' :: rest => unsigned? true rest
  | cs => unsigned? false cs

/-- The items of a list after its opening bracket, each read by `item`, `fuel` of them at most. -/
def listItems? (item : List Char → Option (Value × List Char)) :
    Nat → List Value → List Char → Option (List Value × List Char)
  | 0, _, _ => none
  | fuel + 1, acc, cs => do
    let (v, rest) ← item cs
    match skipBlank rest with
    | ',' :: rest => listItems? item fuel (v :: acc) rest
    | ']' :: rest => some ((v :: acc).reverse, rest)
    | _ => none

/-- The entries of an object after its opening brace, each value read by `item`. -/
def entries? (item : List Char → Option (Value × List Char)) :
    Nat → Fields → List Char → Option (Fields × List Char)
  | 0, _, _ => none
  | fuel + 1, acc, cs =>
    match skipBlank cs with
    | '"' :: rest => do
      let (key, rest) ← quoted? rest
      match skipBlank rest with
      | ':' :: rest =>
        let (v, rest) ← item rest
        match skipBlank rest with
        | ',' :: rest => entries? item fuel (Fields.put key v acc) rest
        | '\x7d' :: rest => some (Fields.put key v acc, rest)
        | _ => none
      | _ => none
    | _ => none

/-- One value, with `depth` levels of nesting left. -/
def read? : Nat → List Char → Option (Value × List Char)
  | depth, cs =>
    match skipBlank cs with
    | 'n' :: rest => (afterWord? ['u', 'l', 'l'] rest).map (.null, ·)
    | 't' :: rest => (afterWord? ['r', 'u', 'e'] rest).map (.bool true, ·)
    | 'f' :: rest => (afterWord? ['a', 'l', 's', 'e'] rest).map (.bool false, ·)
    | '"' :: rest => (quoted? rest).map fun (s, rest) => (.str s, rest)
    | '[' :: rest =>
      match depth with
      | 0 => none
      | depth + 1 =>
        match skipBlank rest with
        | ']' :: rest => some (.arr [], rest)
        | _ =>
          (listItems? (read? depth) (rest.length + 1) [] rest).map fun (vs, rest) => (.arr vs, rest)
    | '\x7b' :: rest =>
      match depth with
      | 0 => none
      | depth + 1 =>
        match skipBlank rest with
        | '\x7d' :: rest => some (.obj [], rest)
        | _ =>
          (entries? (read? depth) (rest.length + 1) [] rest).map fun (fs, rest) => (.obj fs, rest)
    | rest => (number? rest).map fun (n, rest) => (.num n, rest)

def maxDepth : Nat := 127

/-- Read one document nested at most `depth` levels, with nothing but blanks around it. -/
def parseWithin? (depth : Nat) (text : String) : Option Value :=
  match read? depth text.toList with
  | some (v, rest) => if skipBlank rest = [] then some v else none
  | none => none

def parse? (text : String) : Option Value := parseWithin? maxDepth text

end FormLogic.Value
