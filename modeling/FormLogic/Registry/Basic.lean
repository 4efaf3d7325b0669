import FormLogic.Condition
import FormLogic.Diagnostics
import FormLogic.Schema.Node
import FormLogic.Validation.Validator

/-!
# Node types and their registry

What a node does is looked up by its type tag. A node type has a role in the tree
and capabilities, each of which may be absent: then there is nothing particular to
do, and the walks go on through the node. Tags that nothing is registered for are
unknown.
-/
namespace FormLogic

/-- How a node stands after its conditions and those of its ancestors were read. -/
structure HideState where
  hidden : Bool := false
  /-- The node is hidden and its value is to be reset. -/
  clear : Bool := false
deriving DecidableEq, Repr, Inhabited

/-- What a type tag stands for. -/
structure NodeType where
  kind : Kind
  /-- The value of a node in a fresh form. -/
  default : Option (Node → Value) := none
  /-- Whether a stored value counts as not filled in. -/
  isEmpty : Option (Node → Option Value → Bool) := none
  /-- The value that replaces the stored one, if any does. -/
  applyVisibility : Option (Node → HideState → Option Value → Option Value) := none
  /-- The validator of a node, given the collaborator for plugin checks. -/
  validator : Option (Node → Option Collaborator → Noted Validator) := none
  /-- A renderer is attached. It is kept and never used here. -/
  hasRenderer : Bool := false

instance : Inhabited NodeType := ⟨{ kind := .leaf }⟩

namespace NodeType

/-- The value that replaces the stored one. Without the capability it is kept. -/
def replacement? (t : NodeType) (node : Node) (state : HideState) (current : Option Value) :
    Option Value :=
  t.applyVisibility.bind fun apply => apply node state current

/-- Whether a stored value counts as not filled in. Without the capability a blank one does. -/
def deemsEmpty (t : NodeType) (node : Node) (value : Option Value) : Bool :=
  (t.isEmpty.map fun isEmpty => isEmpty node value).getD (Value.isBlank value)

/-- Add the type's notion of empty to a validator that warns of empty values. -/
def withEmptiness (t : NodeType) (node : Node) (v : Validator) : Validator :=
  match t.isEmpty with
  | some isEmpty =>
    if v.isSoftRequired then { v with emptyWhen := some fun x => isEmpty node (some x) } else v
  | none => v

end NodeType

/-- Node types by tag. -/
structure Registry where
  entries : List (String × NodeType) := []
deriving Inhabited

namespace Registry

def empty : Registry := {}

def lookup (r : Registry) (tag : String) : Option NodeType := r.entries.lookup tag

def kind? (r : Registry) (tag : String) : Option Kind := (r.lookup tag).map (·.kind)

/-- Give a tag its type; the type it had before, if any, is replaced. -/
def register (r : Registry) (tag : String) (t : NodeType) : Registry :=
  ⟨(tag, t) :: r.entries.filter fun entry => entry.1 != tag⟩

def registerAll (r : Registry) (entries : List (String × NodeType)) : Registry :=
  entries.foldl (fun r entry => r.register entry.1 entry.2) r

def size (r : Registry) : Nat := r.entries.length

def tags (r : Registry) : List String := (r.entries.map (·.1)).mergeSort (fun a b => a ≤ b)

end Registry

/-- What every resolver works with: the node types, the condition evaluator, and the collaborator
for plugin checks, if there is one. -/
structure Context where
  registry : Registry
  conditions : Conditions
  collaborator : Option Collaborator := none

namespace Context

def typeOf (ctx : Context) (node : Node) : Option NodeType := ctx.registry.lookup node.type

end Context
end FormLogic
