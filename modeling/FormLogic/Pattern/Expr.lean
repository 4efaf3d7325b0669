import FormLogic.Pattern.Anchor

/-!
# Patterns as expressions

An expression is a pattern whose flags have been resolved. It is built by functions that
keep it simple: neighbouring literals are one, a concatenation holds no concatenation and
an alternation no alternation, branches that begin alike share their beginning, and what
can only match the empty text is repeated at most once.
-/
namespace FormLogic.Pattern

/-- A pattern that says what it matches. -/
inductive Expr where
  | empty
  /-- These characters in turn, at least one. -/
  | literal (chars : List Char)
  /-- One character of a set. -/
  | set (s : CharSet)
  | anchor (a : Anchor)
  | repetition (body : Expr) (least : Nat) (most : Option Nat) (greedy : Bool)
  /-- A counted group. -/
  | capture (index : Nat) (body : Expr)
  | concat (items : List Expr)
  | alternation (branches : List Expr)
deriving Inhabited

namespace Expr

mutual
/-- Whether two expressions are the same. -/
def same : Expr → Expr → Bool
  | empty, empty => true
  | literal cs, literal ds => cs == ds
  | set s, set t => s == t
  | anchor a, anchor b => a == b
  | repetition e least most greedy, repetition f least' most' greedy' =>
    least == least' && most == most' && greedy == greedy' && same e f
  | capture i e, capture j f => i == j && same e f
  | concat es, concat fs => sameAll es fs
  | alternation es, alternation fs => sameAll es fs
  | _, _ => false
def sameAll : List Expr → List Expr → Bool
  | [], [] => true
  | e :: es, f :: fs => same e f && sameAll es fs
  | _, _ => false
end

mutual
/-- Whether the expression can match the empty text only. -/
def isWidthless : Expr → Bool
  | empty | anchor _ => true
  | literal _ | set _ => false
  | repetition body _ most _ => most.isSome && body.isWidthless
  | capture _ body => body.isWidthless
  | concat items => allWidthless items
  | alternation branches => allWidthless branches
def allWidthless : List Expr → Bool
  | [] => true
  | e :: rest => e.isWidthless && allWidthless rest
end

mutual
/-- Whether the expression has a part that matches nothing at all. -/
def isBarred : Expr → Bool
  | set s => s.ranges.isEmpty
  | repetition body _ _ _ => body.isBarred
  | capture _ body => body.isBarred
  | concat items => anyBarred items
  | alternation branches => anyBarred branches
  | _ => false
def anyBarred : List Expr → Bool
  | [] => false
  | e :: rest => e.isBarred || anyBarred rest
end

mutual
/-- Whether every match takes at least one character. -/
def isConsuming : Expr → Bool
  | literal _ => true
  | set s => !s.ranges.isEmpty
  | repetition body least _ _ => 0 < least && body.isConsuming
  | capture _ body => body.isConsuming
  | concat items => !anyBarred items && anyConsuming items
  | alternation branches => allConsuming branches
  | _ => false
def anyConsuming : List Expr → Bool
  | [] => false
  | e :: rest => e.isConsuming || anyConsuming rest
def allConsuming : List Expr → Bool
  | [] => true
  | e :: rest => e.isConsuming && allConsuming rest
end

mutual
/-- Whether an anchor stands before all that takes a character. -/
def startsWith (a : Anchor) : Expr → Bool
  | anchor b => a == b
  | repetition body least _ _ => 0 < least && body.startsWith a
  | capture _ body => body.startsWith a
  | concat items => anyStarts a items
  | alternation branches => allStart a branches
  | _ => false
def anyStarts (a : Anchor) : List Expr → Bool
  | [] => false
  | e :: rest => e.startsWith a || (e.isWidthless && anyStarts a rest)
def allStart (a : Anchor) : List Expr → Bool
  | [] => true
  | e :: rest => e.startsWith a && allStart a rest
end

mutual
/-- Whether an anchor stands after all that takes a character. -/
def endsWith (a : Anchor) : Expr → Bool
  | anchor b => a == b
  | repetition body least _ _ => 0 < least && body.endsWith a
  | capture _ body => body.endsWith a
  | concat items => anyEnds a items
  | alternation branches => allEnd a branches
  | _ => false
def anyEnds (a : Anchor) : List Expr → Bool
  | [] => false
  | e :: rest => anyEnds a rest || (allWidthless rest && e.endsWith a)
def allEnd (a : Anchor) : List Expr → Bool
  | [] => true
  | e :: rest => e.endsWith a && allEnd a rest
end

def ofSet (s : CharSet) : Expr :=
  match s.only? with
  | some c => literal [c]
  | none => set s

def ofChars (chars : List Char) : Expr :=
  ofSet (.ofRanges (chars.map fun c => ⟨c.toNat, c.toNat⟩))

/-- A body in a row, some number of times. -/
def repeated (body : Expr) (least : Nat) (most : Option Nat) (greedy : Bool) : Expr :=
  let (least, most) : Nat × Option Nat :=
    if body.isWidthless then (min least 1, some (min (most.getD 1) 1)) else (least, most)
  match least, most with
  | 0, some 0 => empty
  | 1, some 1 => body
  | _, _ => repetition body least most greedy

/-- The expressions that match in turn where this one matches. -/
def items : Expr → List Expr
  | empty => []
  | concat items => items
  | e => [e]

/-- Neighbouring literals as one. -/
def joinLiterals : List Expr → List Expr
  | [] => []
  | literal cs :: rest =>
    match joinLiterals rest with
    | literal ds :: rest => literal (cs ++ ds) :: rest
    | rest => literal cs :: rest
  | e :: rest => e :: joinLiterals rest

/-- One expression after the other. -/
def concatOf (es : List Expr) : Expr :=
  match joinLiterals (es.flatMap items) with
  | [] => empty
  | [e] => e
  | items => concat items

/-- The expressions of which one matches where this one matches. -/
def branches : Expr → List Expr
  | alternation branches => branches
  | e => [e]

/-- The character of a literal that has just one. -/
def onlyChar? : Expr → Option Char
  | literal [c] => some c
  | _ => none

def set? : Expr → Option CharSet
  | set s => some s
  | _ => none

def concat? : Expr → Option (List Expr)
  | concat items => some items
  | _ => none

/-- One of several branches that do not begin alike. Single characters and sets unite in a set. -/
def choice (branches : List Expr) : Expr :=
  match branches with
  | [] => set .empty
  | [e] => e
  | _ =>
    match branches.mapM onlyChar?, branches.mapM set? with
    | some chars, _ => ofChars chars
    | _, some sets => ofSet (.unions sets)
    | _, _ => alternation branches

/-- How many items two lists have in common at their beginnings. -/
def commonLength : List Expr → List Expr → Nat
  | e :: es, f :: fs => if same e f then commonLength es fs + 1 else 0
  | _, _ => 0

/-- One expression or another. Items that all branches begin with stand before the alternation. -/
def alternationOf (es : List Expr) : Expr :=
  let all := es.flatMap branches
  match all.mapM concat? with
  | some (first :: second :: rest) =>
    let shared := (second :: rest).foldl (fun n items => min n (commonLength first items))
      first.length
    if shared = 0 then choice all
    else
      let ends := (first :: second :: rest).map fun items => concatOf (items.drop shared)
      concatOf (first.take shared ++ [choice (ends.flatMap branches)])
  | _ => choice all

end Expr
end FormLogic.Pattern
