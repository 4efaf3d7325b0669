import FormLogic.Proofs.InitialValues
import FormLogic.Proofs.StandardTypes
import FormLogic.Resolve.Validators

/-!
# Nodes that types treat alike

A type is given the node that it is asked about, with all that is below it. What it says may
still be the same of two nodes. The standard types read the attributes of a node and nothing
below it, and so they treat nodes with the same attributes alike.
-/
namespace FormLogic

/-- The capabilities of a type do not tell two nodes apart. -/
structure NodeType.TreatsAlike (t : NodeType) (n m : Node) : Prop where
  default : ∀ f, t.default = some f → f n = f m
  isEmpty : ∀ f, t.isEmpty = some f → f n = f m
  applyVisibility : ∀ f, t.applyVisibility = some f → f n = f m
  validator : ∀ f, t.validator = some f → ∀ collaborator,
    (f n collaborator).outcome = (f m collaborator).outcome

section TreatsAlike

variable {ctx : Context} {n m : Node} {t : NodeType}

theorem emptyValue_congr (ha : m.toAttributes = n.toAttributes) :
    Standard.emptyValue m = Standard.emptyValue n := by
  simp only [Standard.emptyValue, Standard.declaredOr, ha]

namespace NodeType

theorem TreatsAlike.initial_eq (h : t.TreatsAlike n m) (ha : m.toAttributes = n.toAttributes) :
    t.initial m = t.initial n := by
  rw [initial, initial, emptyValue_congr ha]
  cases hd : t.default with
  | none => rfl
  | some f => rw [Option.map_some, Option.map_some, h.default f hd]

theorem TreatsAlike.replacement?_eq (h : t.TreatsAlike n m) (state : HideState)
    (current : Option Value) : t.replacement? m state current = t.replacement? n state current := by
  rw [replacement?, replacement?]
  cases hf : t.applyVisibility with
  | none => rfl
  | some f => rw [Option.bind_some, Option.bind_some, h.applyVisibility f hf]

theorem TreatsAlike.deemsEmpty_eq (h : t.TreatsAlike n m) (value : Option Value) :
    t.deemsEmpty m value = t.deemsEmpty n value := by
  rw [deemsEmpty, deemsEmpty]
  cases hf : t.isEmpty with
  | none => rfl
  | some f => rw [Option.map_some, Option.map_some, h.isEmpty f hf]

end NodeType

theorem Context.typeOf_eq (ctx : Context) (ha : m.toAttributes = n.toAttributes) :
    ctx.typeOf m = ctx.typeOf n := by
  rw [typeOf, typeOf, ha]

theorem Context.kindOf_eq (ctx : Context) (ha : m.toAttributes = n.toAttributes) :
    ctx.kindOf m = ctx.kindOf n := by
  rw [kindOf, kindOf, ctx.typeOf_eq ha]

theorem Context.owns_eq (ctx : Context) (ha : m.toAttributes = n.toAttributes) :
    ctx.owns m = ctx.owns n := by
  rw [owns, owns, ctx.kindOf_eq ha, ha]

theorem Visibility.Place.pathOf_congr (place : Visibility.Place)
    (ha : m.toAttributes = n.toAttributes) : place.pathOf ctx m = place.pathOf ctx n := by
  rw [Place.pathOf, Place.pathOf, ctx.kindOf_eq ha, ha]

theorem Context.initialOf_congr (h : ∀ t, ctx.typeOf n = some t → t.TreatsAlike n m)
    (ha : m.toAttributes = n.toAttributes) : ctx.initialOf m = ctx.initialOf n := by
  rw [initialOf, initialOf, ctx.typeOf_eq ha]
  cases ht : ctx.typeOf n with
  | none => exact emptyValue_congr ha
  | some t => simp only [(h t ht).initial_eq ha]

end TreatsAlike

namespace Registry

/-- The standard types read attributes alone. -/
theorem treatsAlike_of_standard {tag : String} {t : NodeType}
    (ht : standard.lookup tag = some t) {n m : Node} (ha : m.toAttributes = n.toAttributes) :
    t.TreatsAlike n m := by
  obtain ⟨a, components, columns⟩ := n
  obtain ⟨b, components', columns'⟩ := m
  obtain rfl : b = a := ha
  rcases standard_cases ht with rfl | rfl | rfl | rfl | rfl | rfl | rfl | rfl | rfl | rfl | rfl
  all_goals
    constructor
    all_goals
      intro f hf
      cases hf <;> intros <;> rfl

end Registry

theorem Context.treatsAlike_of_standard {ctx : Context} (hs : ctx.registry = Registry.standard)
    {n m : Node} (ha : m.toAttributes = n.toAttributes) :
    ∀ t, ctx.typeOf n = some t → t.TreatsAlike n m := fun t ht => by
  rw [typeOf, hs] at ht
  exact Registry.treatsAlike_of_standard ht ha

end FormLogic
