import FormLogic.Text.Hexadecimal

/-!
# Sets of characters

A set is a list of ranges of code points in ascending order that neither overlap nor
touch, so equal sets have equal lists. Surrogates are no characters: where an operation
ends a range just before or begins it just after another one, it steps over them.
-/
namespace FormLogic

/-- The code points from `low` to `high`. -/
structure CharRange where
  low : Nat
  high : Nat
deriving DecidableEq, Repr, Inhabited

namespace CharRange

def contains (r : CharRange) (n : Nat) : Bool := r.low ≤ n && n ≤ r.high

/-- The code points of both ranges. -/
def meet? (r s : CharRange) : Option CharRange :=
  let low := max r.low s.low
  let high := min r.high s.high
  if low ≤ high then some ⟨low, high⟩ else none

/-- The range between two ends given in either order. -/
def between (a b : Nat) : CharRange := ⟨min a b, max a b⟩

end CharRange

/-- The code point of the character before the one with code point `n`. -/
def charPred (n : Nat) : Nat := if n = 0xE000 then 0xD7FF else n - 1

/-- The code point of the character after the one with code point `n`. -/
def charSucc (n : Nat) : Nat := if n = 0xD7FF then 0xE000 else n + 1

/-- A set of characters. -/
structure CharSet where
  ranges : List CharRange
deriving DecidableEq, Repr, Inhabited

namespace CharSet

/-- The last code point there is. -/
def last : Nat := 0x10FFFF

def empty : CharSet := ⟨[]⟩

/-- The code points from `low` to `high`, ends included. -/
def range (low high : Nat) : CharSet := ⟨[⟨low, high⟩]⟩

def full : CharSet := range 0 last

def single (c : Char) : CharSet := range c.toNat c.toNat

def contains (s : CharSet) (n : Nat) : Bool := s.ranges.any fun r => r.contains n

/-- Unite each range with the next ones as long as they overlap or touch. The ranges are in the
order of their low ends. -/
def coalesce : List CharRange → List CharRange
  | [] => []
  | r :: rest => go r rest
where
  go (r : CharRange) : List CharRange → List CharRange
  | [] => [r]
  | s :: rest =>
    if s.low ≤ r.high + 1 then go ⟨r.low, max r.high s.high⟩ rest else r :: go s rest

/-- The set of any ranges. -/
def ofRanges (ranges : List CharRange) : CharSet :=
  ⟨coalesce (ranges.mergeSort fun r s => r.low ≤ s.low)⟩

def union (s t : CharSet) : CharSet :=
  ⟨coalesce (List.merge s.ranges t.ranges fun r s => r.low ≤ s.low)⟩

def unions (sets : List CharSet) : CharSet := ofRanges (sets.flatMap ranges)

def intersection (s t : CharSet) : CharSet :=
  ⟨s.ranges.flatMap fun r => t.ranges.filterMap r.meet?⟩

/-- What is left of a range without the given ranges. -/
def remove (low high : Nat) : List CharRange → List CharRange
  | [] => [⟨low, high⟩]
  | r :: rest =>
    if r.high < low then remove low high rest
    else if high < r.low then [⟨low, high⟩]
    else
      (if low < r.low then [⟨low, charPred r.low⟩] else []) ++
        if r.high < high then remove (charSucc r.high) high rest else []

def difference (s t : CharSet) : CharSet :=
  ⟨s.ranges.flatMap fun r => remove r.low r.high t.ranges⟩

def symmetricDifference (s t : CharSet) : CharSet := (s.union t).difference (s.intersection t)

/-- The gaps after a code point. Ranges between which there are only surrogates leave the two
characters beside them as their gap. -/
def gapsAfter (n : Nat) : List CharRange → List CharRange
  | [] => if n < last then [⟨charSucc n, last⟩] else []
  | r :: rest => .between (charSucc n) (charPred r.low) :: gapsAfter r.high rest

def complement (s : CharSet) : CharSet :=
  match s.ranges with
  | [] => full
  | r :: rest =>
    ⟨(if 0 < r.low then [⟨0, charPred r.low⟩] else []) ++ gapsAfter r.high rest⟩

/-- The only character of a set that has just one. -/
def only? (s : CharSet) : Option Char :=
  match s.ranges with
  | [r] => if r.low = r.high then some (Char.ofNat r.low) else none
  | _ => none

def isAscii (s : CharSet) : Bool := s.ranges.all fun r => r.high < 128

/-- The ranges of an entry `low-high`, where `low-high/2` holds every second code point, as where
capital and small letters alternate. -/
def entryRanges (entry : List Char) : List CharRange :=
  let number (cs : List Char) : Nat := (Hexadecimal.number? 16 cs).getD 0
  let ends := entry.takeWhile fun c => c != '/'
  let low := number (ends.takeWhile fun c => c != '-')
  let high := ((Hexadecimal.number? 16 ((ends.dropWhile fun c => c != '-').drop 1)).getD low)
  if entry.contains '/' then
    (List.range ((high - low) / 2 + 1)).map fun i => ⟨low + 2 * i, low + 2 * i⟩
  else [⟨low, high⟩]

/-- The entries of a table, which blanks and line ends set apart. -/
def entries (table : String) : List (List Char) :=
  ((table.toList.splitBy fun a b => !a.isWhitespace && !b.isWhitespace).filter fun entry =>
    !(entry.any Char.isWhitespace))

/-- The set that a table of entries in ascending order lists. -/
def ofText (table : String) : CharSet := ⟨coalesce ((entries table).flatMap entryRanges)⟩

end CharSet

/-- A set with the names it goes by, in lower case and without separators. -/
structure NamedCharSet where
  names : List String
  set : Thunk CharSet

namespace CharSet

def named (names : List String) (set : Thunk CharSet) : NamedCharSet := ⟨names, set⟩

/-- The set with a name. -/
def find? (sets : List NamedCharSet) (name : String) : Option CharSet :=
  (sets.find? fun entry => entry.names.contains name).map fun entry => entry.set.get

end CharSet
end FormLogic
