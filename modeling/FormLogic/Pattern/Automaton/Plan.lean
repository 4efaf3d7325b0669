import FormLogic.Pattern.Automaton.Rows
import FormLogic.Pattern.Automaton.Words
import FormLogic.Pattern.Expr

/-!
# How large a pattern is

A pattern has two automata, one for each direction of reading, and neither may be too large.
Only a set with characters beyond ASCII shares states in a way that depends on what was made
before; the size of every other part is known at once, and a repetition multiplies it.
-/
namespace FormLogic.Pattern

/-- How an automaton is made. -/
inductive Plan where
  | fixed (t : Tally)
  /-- A set with characters beyond ASCII. -/
  | wide (rows : List (List ByteRange))
  | both (first second : Plan)
  | times (n : Nat) (body : Plan)
deriving Inhabited

namespace Plan

def andThen : Plan → Plan → Plan
  | fixed t, fixed u => fixed (t + u)
  | p, q => both p q

def all (plans : List Plan) : Plan := plans.foldr andThen (fixed ⟨0, 0⟩)

/-- A part made `n` times. -/
def copies (n : Nat) : Plan → Plan
  | fixed t => fixed (t.times n)
  | p => times n p

/-- A body repeated. -/
def repeated (body : Expr) (plan : Plan) (least : Nat) (most : Option Nat) : Plan :=
  match most with
  | none =>
    if 0 < least then all [copies least plan, fixed (.fork 2)]
    else if body.isConsuming then all [fixed (.fork 2), plan]
    else all [plan, fixed (.fork 2 + .fork 2 + .plain 1)]
  | some most =>
    if least = 0 ∧ most = 1 then all [fixed (.fork 2), plan, fixed (.plain 1)]
    else
      let first := if least = 0 then fixed (.plain 1) else copies least plan
      if least = most then first
      else all [first, fixed (.plain 1), copies (most - least) (all [fixed (.fork 2), plan])]

/-- The bytes of a word, in the order of reading. -/
def wordBytes (backward : Bool) (chars : List Char) : List UInt8 :=
  let bytes := chars.flatMap fun c => CharRange.encode c.toNat
  if backward then bytes.reverse else bytes

def word? : Expr → Option (List Char)
  | .literal chars => some chars
  | _ => none

mutual
/-- The plan of an expression for a direction of reading. Groups take states only when reading
forwards. -/
def ofExpr (backward : Bool) : Expr → Plan
  | .empty | .anchor _ => fixed (.plain 1)
  | .literal chars => fixed (.plain (wordBytes backward chars).length)
  | .set s =>
    if s.isAscii then fixed (.plain 1 + .arcs s.ranges.length) else wide s.byteRows
  | .repetition body least most _ => repeated body (ofExpr backward body) least most
  | .capture _ body =>
    if backward then ofExpr backward body
    else all [fixed (.plain 1), ofExpr backward body, fixed (.plain 1)]
  | .concat items =>
    let plans := ofAll backward items
    all (if backward then plans.reverse else plans)
  | .alternation branches =>
    match branches.mapM word?, ofAll backward branches with
    | some words, _ => fixed (WordTree.tally (words.map (wordBytes backward)))
    | none, first :: second :: rest =>
      all (first :: second :: fixed (.fork branches.length + .plain 1) :: rest)
    | none, plans => all plans
def ofAll (backward : Bool) : List Expr → List Plan
  | [] => []
  | e :: rest => ofExpr backward e :: ofAll backward rest
end

/-- The plan of a whole automaton. A match may begin anywhere unless an anchor forbids it. -/
def whole (backward : Bool) (e : Expr) : Plan :=
  let anchored := if backward then e.endsWith .textEnd else e.startsWith .textStart
  let start : Tally := if anchored then .plain 1 else .fork 2 + .plain 1 + .arcs 1
  all [fixed start, ofExpr backward (.capture 0 e), fixed (.plain 1)]

/-- Do something `n` times unless it fails. -/
def doTimes (act : Tally → Option Tally) : Nat → Tally → Option Tally
  | 0, tally => some tally
  | n + 1, tally =>
    match act tally with
    | some tally => doTimes act n tally
    | none => none

/-- Carry out a plan after what is there already, as long as it is not too large. -/
def carryOut? (backward : Bool) : Plan → Tally → Option Tally
  | fixed t, tally => (tally + t).checked?
  | wide rows, tally =>
    (if backward then RowChain.grow rows tally else RowTree.grow rows tally).checked?
  | both first second, tally => (first.carryOut? backward tally).bind (second.carryOut? backward)
  | times n body, tally => doTimes (body.carryOut? backward) n tally

end Plan

/-- Whether the automata of an expression are small enough. -/
def Expr.isSmall (e : Expr) : Bool :=
  [false, true].all fun backward => ((Plan.whole backward e).carryOut? backward ⟨0, 0⟩).isSome

end FormLogic.Pattern
