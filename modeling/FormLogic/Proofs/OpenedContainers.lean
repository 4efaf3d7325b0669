import FormLogic.Proofs.IndependentWrites
import FormLogic.Proofs.NodesAlike
import FormLogic.Proofs.Replacements

/-!
# Containers that give way to their children

A group, a layout or a node of unknown type that is never hidden by itself and clears
nothing by itself is transparent. Opening it puts its children in its place, at the top, in
the template of a repeater, or anywhere below. All nodes around it keep their attributes.
So the keys of every scope, their initial values and the faults of templates stay what they
were, as long as no type of a value around the container can tell that it is gone.
-/
namespace FormLogic

/-- A container that neither hides nor clears by itself. -/
structure Context.Transparent (ctx : Context) (n : Node) : Prop where
  container : (ctx.kindOf n).map Kind.ownsPath ≠ some true
  shown : n.hidden = false
  unconditional : n.conditional = none
  keeps : n.clearOnHide = false

/-- One transparent container, in the list or at any depth below it, gives way to its children. -/
inductive Opened (ctx : Context) : List Node → List Node → Prop
  | here (before after : List Node) {n : Node} (h : ctx.Transparent n) :
      Opened ctx (before ++ n :: after) (before ++ (n.children ++ after))
  | inComponents (before after : List Node) (a : Attributes) {components opened : List Node}
      (columns : List Column) (h : Opened ctx components opened) :
      Opened ctx (before ++ ⟨a, components, columns⟩ :: after)
        (before ++ ⟨a, opened, columns⟩ :: after)
  | inColumn (before after : List Node) (a : Attributes) (components : List Node)
      (left right : List Column) (extra : Fields) {nodes opened : List Node}
      (h : Opened ctx nodes opened) :
      Opened ctx (before ++ ⟨a, components, left ++ ⟨nodes, extra⟩ :: right⟩ :: after)
        (before ++ ⟨a, components, left ++ ⟨opened, extra⟩ :: right⟩ :: after)

namespace Opened

variable {ctx : Context} {xs ys : List Node}

end Opened

section Overlooks

variable {ctx : Context} {xs ys xs' ys' : List Node}

end Overlooks

section Opened

variable {ctx : Context} {xs ys : List Node}

end Opened

namespace Visibility

variable {ctx : Context} {n : Node}

theorem templateFault?_eq (ctx : Context) (n : Node) (path : String) :
    templateFault? ctx n path =
      ((if ctx.owns n && (ctx.typeOf n).any (·.applyVisibility.isNone) then
        some (.missingCapability n.type (n.pathBelow path (ctx.kindOf n) none) .applyVisibility)
      else none) <|>
        n.children.findSome? fun c =>
          templateFault? ctx c (n.pathBelow path (ctx.kindOf n) none)) := by
  have hkind : ctx.kindOf n = (ctx.typeOf n).map (·.kind) := rfl
  have howns : ctx.owns n = n.ownsSegment (ctx.kindOf n) := rfl
  rw [templateFault?.eq_1, Node.recurse_eq, ← templateFault?.eq_1]
  simp only [← hkind, ← howns, List.findSome?_map]
  cases ht : ctx.typeOf n with
  | none => simp [Function.comp_def]
  | some t =>
    dsimp only
    rw [Option.any_some]
    split
    · rfl
    · rfl

end Visibility

end FormLogic
