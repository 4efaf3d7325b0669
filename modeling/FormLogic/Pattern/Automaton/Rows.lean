import FormLogic.Pattern.Automaton.Tally
import FormLogic.Text.ByteRange
import Std.Data.HashMap

/-!
# The states of a character set

The rows of byte ranges of a set share states: an automaton that reads forwards shares those
from which the rows go on alike, and one that reads backwards those up to which they began
alike. Known states are kept in a fixed number of slots, each of which holds the latest state
that falls into it, so some states exist twice. Which ones do depends on the numbers of the
states, and so on all that was made before.
-/
namespace FormLogic.Pattern

namespace Shared

def seed : UInt64 := 14695981039346656037

def mix (hash : UInt64) (n : UInt64) : UInt64 := (hash ^^^ n) * 1099511628211

end Shared

/-- States that may be used again, each in the one slot that its content falls into; a later state
with the same slot takes its place. -/
structure Shared (α : Type) where
  tally : Tally
  slots : Std.HashMap Nat (α × Nat)

namespace Shared

/-- The number of a state with some content: an earlier one of the same content, if its slot still
holds it, or a new one. -/
def intern {α : Type} [DecidableEq α] (s : Shared α) (slot : Nat) (content : α) (size : Tally) :
    Nat × Shared α :=
  let fresh := (s.tally.states, ⟨s.tally + size, s.slots.insert slot (content, s.tally.states)⟩)
  match s.slots[slot]? with
  | some (known, id) => if known = content then (id, s) else fresh
  | none => fresh

end Shared

/-- An arc of an automaton. -/
structure Arc where
  bytes : ByteRange
  next : Nat
deriving DecidableEq, Repr, Inhabited

/-- A state whose arcs are still being collected, the latest first. The last one leads to the next
state on the path. -/
structure OpenState where
  arcs : List Arc
  last : Option ByteRange
deriving Inhabited

namespace OpenState

/-- All arcs in order, once it is known where the last one leads. -/
def close (s : OpenState) (next : Nat) : List Arc :=
  match s.last with
  | some bytes => ⟨bytes, next⟩ :: s.arcs
  | none => s.arcs

end OpenState

/-- The states of a set, while its rows are added to the automaton in ascending order. The states on
the path of the latest row are open. -/
structure RowTree where
  path : List OpenState
  shared : Shared (List Arc)

namespace RowTree

def arcSlot (arcs : List Arc) : Nat :=
  let hash := arcs.foldl (fun hash arc =>
    Shared.mix (Shared.mix (Shared.mix hash arc.bytes.low.toUInt64) arc.bytes.high.toUInt64)
      arc.next.toUInt64) Shared.seed
  (hash % 10000).toNat

/-- Close a path from its end and give the number of its first state. -/
def closePath (target : Nat) : List OpenState → Shared (List Arc) → Nat × Shared (List Arc)
  | [], shared => (target, shared)
  | s :: deeper, shared =>
    let (next, shared) := closePath target deeper shared
    let arcs := (s.close next).reverse
    shared.intern (arcSlot arcs) arcs (.arcs arcs.length)

/-- Follow a row along the open path as far as they agree, close the rest of the path, and open one
for the rest of the row. -/
def addRow (target : Nat) :
    List OpenState → List ByteRange → Shared (List Arc) → List OpenState × Shared (List Arc)
  | s :: deeper, bytes :: row, shared =>
    if s.last = some bytes then
      let (deeper, shared) := addRow target deeper row shared
      (s :: deeper, shared)
    else
      let (next, shared) := closePath target deeper shared
      (⟨s.close next, some bytes⟩ :: row.map fun bytes => ⟨[], some bytes⟩, shared)
  | path, _, shared => (path, shared)

/-- Add a set to an automaton that reads forwards. -/
def grow (rows : List (List ByteRange)) (tally : Tally) : Tally :=
  let target := tally.states
  let start : RowTree := ⟨[⟨[], none⟩], ⟨tally + .plain 1, ∅⟩⟩
  let tree := rows.foldl (fun (tree : RowTree) row =>
    let (path, shared) := addRow target tree.path row tree.shared
    ⟨path, shared⟩) start
  (closePath target tree.path tree.shared).2.tally

end RowTree

namespace RowChain

def slot (next : Nat) (bytes : ByteRange) : Nat :=
  let hash := Shared.mix Shared.seed next.toUInt64
  (Shared.mix (Shared.mix hash bytes.low.toUInt64) bytes.high.toUInt64 % 1000).toNat

/-- Add a set to an automaton that reads backwards: rows share states as long as they begin
alike. -/
def grow (rows : List (List ByteRange)) (tally : Tally) : Tally :=
  let target := tally.states + 1
  let start : Shared (Nat × ByteRange) := ⟨tally + .fork rows.length + .plain 1, ∅⟩
  let shared := rows.foldl (fun (shared : Shared (Nat × ByteRange)) row =>
    (row.foldl (fun (next, shared) bytes =>
      shared.intern (slot next bytes) (next, bytes) (.plain 1)) (target, shared)).2) start
  shared.tally

end RowChain

end FormLogic.Pattern
