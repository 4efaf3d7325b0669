import FormLogic.Pattern.Automaton.Tally

/-!
# The states of an alternation of words

Words that begin alike share states as long as they agree. Earlier words win, so a word that
ends keeps the words after it apart from those before it.
-/
namespace FormLogic.Pattern

namespace WordTree

/-- Words in the runs between empty ones. -/
def runs : List (List UInt8) → List (List (List UInt8))
  | [] => [[]]
  | [] :: rest => [] :: runs rest
  | word :: rest =>
    match runs rest with
    | run :: more => (word :: run) :: more
    | [] => [[word]]

/-- What is left of the words that begin with a byte. -/
def after (byte : UInt8) (words : List (List UInt8)) : List (List UInt8) :=
  words.filterMap fun
    | b :: rest => if b = byte then some rest else none
    | [] => none

/-- The states for what is left of words that began alike, up to a depth. -/
def states : Nat → List (List UInt8) → Tally
  | 0, _ => ⟨0, 0⟩
  | depth + 1, words =>
    let rest := words.dropWhile List.isEmpty
    let runs := runs (if rest.length < words.length then [] :: rest else rest)
    let full := runs.filter fun run => !run.isEmpty
    let run (words : List (List UInt8)) : Tally :=
      let firsts := (words.filterMap List.head?).eraseDups
      let deeper := (firsts.map fun byte => after byte words).filter fun words =>
        words.any fun word => !word.isEmpty
      (if firsts.length = 1 then .plain 1 else .arcs firsts.length) +
        .sum (deeper.map (states depth))
    .sum (full.map run) + .fork (full.length + (runs.length - 1))

/-- The states for an alternation of words. -/
def tally (words : List (List UInt8)) : Tally :=
  .plain 1 + states (words.foldl (fun n word => max n word.length) 0) words

end WordTree

end FormLogic.Pattern
