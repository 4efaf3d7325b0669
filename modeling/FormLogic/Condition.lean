import FormLogic.Schema.Node
import FormLogic.Value.Access

/-!
# Conditions

Whether a node hides itself is asked of a condition evaluator, which sees the
values as they were before the pass and, inside a repeater, the row at hand. The
declarative evaluator knows the flag `hidden` and the conditional attribute.
-/
namespace FormLogic

/-- What a condition may look at. -/
structure Scope where
  data : Value
  /-- The row at hand, inside a repeater. -/
  row : Option Value := none
  /-- The path the node resolves to. -/
  path : String := ""
deriving Inhabited

/-- The value at a path, sought in the row first. -/
def Scope.lookup (scope : Scope) (path : String) : Option Value :=
  (scope.row.bind fun row => row.get? path) <|> scope.data.get? path

/-- Decides whether a node hides itself. -/
abbrev Conditions := Node → Scope → Bool

namespace Conditional

/-- Whether a stored value is the expected one. A list matches by one of its items, an object by the
option of that name being `true`, and an absent value as null does. -/
def isMet (actual : Option Value) (expected : Value) : Bool :=
  match actual with
  | some (.arr items) => items.any fun item => item.looseEq expected
  | some (.obj fields) => ((fields.lookup expected.text).map Value.isTrue).getD false
  | some v => v.looseEq expected
  | none => Value.null.looseEq expected

/-- Whether the node shows. A conditional without a usable flag or path always lets it show. -/
def shows (c : Conditional) (scope : Scope) : Bool :=
  match c.shown?, c.source? with
  | some shown, some source => isMet (scope.lookup source) (c.expected.getD .null) == shown
  | _, _ => true

end Conditional

/-- A node hides itself by its flag or by a conditional that does not let it show. -/
def Conditions.declarative : Conditions := fun node scope =>
  node.hidden || (node.conditional.map fun c => !c.shows scope).getD false

end FormLogic
