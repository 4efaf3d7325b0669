/-!
# The size of an automaton

A pattern is compiled to automata over bytes. A state takes the same room whatever it
does; arcs for ranges of bytes, and alternatives that need no byte, take more.
-/
namespace FormLogic.Pattern

/-- The size of a part of an automaton. -/
structure Tally where
  states : Nat
  /-- What the arcs and the alternatives of the states take beyond the states themselves. -/
  extra : Nat
deriving DecidableEq, Repr, Inhabited

namespace Tally

def maxBytes : Nat := 10 * 0x100000

def bytes (t : Tally) : Nat := 32 * t.states + t.extra

/-- States that go on in one way. -/
def plain (n : Nat) : Tally := ⟨n, 0⟩

/-- A state that goes on in `n` ways without reading a byte. -/
def fork (n : Nat) : Tally := ⟨1, 4 * n⟩

/-- A state with `n` arcs for ranges of bytes. -/
def arcs (n : Nat) : Tally := ⟨1, 8 * n⟩

instance : Add Tally := ⟨fun t u => ⟨t.states + u.states, t.extra + u.extra⟩⟩

def times (n : Nat) (t : Tally) : Tally := ⟨n * t.states, n * t.extra⟩

def sum (ts : List Tally) : Tally := ts.foldl (· + ·) ⟨0, 0⟩

/-- A size that is not too large. -/
def checked? (t : Tally) : Option Tally := if t.bytes ≤ maxBytes then some t else none

end Tally

end FormLogic.Pattern
