import FormLogic.Validation.Validator

/-!
# Validations under way

A validation may end after its value has been edited. The tracker gives a ticket
to each validation that begins, and accepts a result only with the newest ticket
of its path and while the value is still the one it was begun for.
-/
namespace FormLogic

/-- A validation that has begun. -/
structure Ticket where
  path : String
  generation : Nat
  /-- The value as it was when the validation began. -/
  value : Value
deriving Inhabited

/-- The newest generation of each path, and the results accepted so far. -/
structure Tracker where
  generation : Nat := 0
  latest : List (String × Nat) := []
  results : List (String × ValidationResult) := []
deriving Inhabited

namespace Tracker

/-- Set what is kept under a path. -/
def assign {α : Type} (path : String) (a : α) (entries : List (String × α)) : List (String × α) :=
  (path, a) :: entries.filter fun entry => entry.1 != path

def start (t : Tracker) (path : String) (value : Value) : Ticket × Tracker :=
  let generation := t.generation + 1
  (⟨path, generation, value⟩, { t with generation, latest := assign path generation t.latest })

/-- Whether a result for the ticket would be accepted now. -/
def isCurrent (t : Tracker) (ticket : Ticket) (current : Option Value) : Bool :=
  t.latest.lookup ticket.path == some ticket.generation
    && (current.map fun v => v == ticket.value).getD false

/-- Offer a result; says whether it was accepted. -/
def finish (t : Tracker) (ticket : Ticket) (result : ValidationResult) (current : Option Value) :
    Bool × Tracker :=
  if t.isCurrent ticket current then
    (true, { t with results := assign ticket.path result t.results })
  else (false, t)

/-- The newest result accepted for a path. -/
def result? (t : Tracker) (path : String) : Option ValidationResult := t.results.lookup path

/-- Drop a path with its tickets and its result. -/
def forget (t : Tracker) (path : String) : Tracker :=
  { t with
    latest := t.latest.filter fun entry => entry.1 != path
    results := t.results.filter fun entry => entry.1 != path }

end Tracker
end FormLogic
