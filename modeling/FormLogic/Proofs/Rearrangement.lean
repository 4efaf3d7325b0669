import FormLogic.Proofs.IndependentWrites
import FormLogic.Proofs.NodesAlike
import Mathlib.Data.List.Forall2

/-!
# Schemas with their lists in another order

The top level, the components of a node and those of a column list their nodes in some
order. A schema is rearranged by putting any of these lists, at any depth, into another
order. The nodes of a scope are then the same up to their order and to what is below them,
and so a clean schema stays clean.
-/
namespace FormLogic

mutual
/-- The same node, up to the order of the lists below it. -/
inductive Node.Rearranged : Node → Node → Prop
  | mk (a : Attributes) {components between components' : List Node}
      {columns columns' : List Column} (hp : components.Perm between)
      (hc : List.Forall₂ Node.Rearranged between components')
      (hcolumns : List.Forall₂ Column.Rearranged columns columns') :
      Node.Rearranged ⟨a, components, columns⟩ ⟨a, components', columns'⟩
/-- The same column, up to the order of the lists below it. -/
inductive Column.Rearranged : Column → Column → Prop
  | mk (extra : Fields) {components between components' : List Node}
      (hp : components.Perm between) (hc : List.Forall₂ Node.Rearranged between components') :
      Column.Rearranged ⟨components, extra⟩ ⟨components', extra⟩
end

/-- The same nodes in another order, each up to the order of the lists below it. -/
def Rearrangement (nodes nodes' : List Node) : Prop :=
  ∃ between, nodes.Perm between ∧ List.Forall₂ Node.Rearranged between nodes'

section Rearrangement

variable {xs ys xs' ys' : List Node} {n m : Node}

namespace Rearrangement

theorem nil : Rearrangement [] [] := ⟨[], .nil, .nil⟩

theorem append (h : Rearrangement xs ys) (h' : Rearrangement xs' ys') :
    Rearrangement (xs ++ xs') (ys ++ ys') := by
  obtain ⟨zs, hp, hz⟩ := h
  obtain ⟨zs', hp', hz'⟩ := h'
  exact ⟨zs ++ zs', hp.append hp', List.rel_append hz hz'⟩

/-- Columns keep their places. -/
theorem of_columns {columns columns' : List Column}
    (h : List.Forall₂ Column.Rearranged columns columns') :
    Rearrangement (columns.flatMap (·.components)) (columns'.flatMap (·.components)) := by
  induction h with
  | nil => exact .nil
  | cons hcolumn _ ih =>
    rw [List.flatMap_cons, List.flatMap_cons]
    cases hcolumn with
    | mk extra hp hc => exact append ⟨_, hp, hc⟩ ih

theorem exists_of_mem (h : Rearrangement xs ys) (hm : m ∈ ys) : ∃ n ∈ xs, n.Rearranged m := by
  obtain ⟨zs, hp, hz⟩ := h
  suffices h : ∃ n ∈ zs, n.Rearranged m by
    obtain ⟨n, hn, hnm⟩ := h
    exact ⟨n, hp.mem_iff.2 hn, hnm⟩
  clear hp
  induction hz with
  | nil => cases hm
  | cons hnm _ ih =>
    rcases List.mem_cons.1 hm with rfl | hm
    · exact ⟨_, List.mem_cons_self, hnm⟩
    · obtain ⟨n, hn, hnm⟩ := ih hm
      exact ⟨n, List.mem_cons_of_mem _ hn, hnm⟩

/-- What nodes contribute, the rearranged nodes contribute in another order. -/
theorem perm_flatMap {β : Type} {f g : Node → List β} (h : Rearrangement xs ys)
    (hfg : ∀ n ∈ xs, ∀ m ∈ ys, n.Rearranged m → (f n).Perm (g m)) :
    (xs.flatMap f).Perm (ys.flatMap g) := by
  obtain ⟨zs, hp, hz⟩ := h
  refine (hp.flatMap_right f).trans ?_
  replace hfg : ∀ n ∈ zs, ∀ m ∈ ys, n.Rearranged m → (f n).Perm (g m) :=
    fun n hn => hfg n (hp.mem_iff.2 hn)
  clear hp
  induction hz with
  | nil => exact .nil
  | @cons n m zs ys hnm _ ih =>
    rw [List.flatMap_cons, List.flatMap_cons]
    refine (hfg n List.mem_cons_self m List.mem_cons_self hnm).append (ih fun k hk k' hk' => ?_)
    exact hfg k (List.mem_cons_of_mem n hk) k' (List.mem_cons_of_mem m hk')

end Rearrangement

/-- Other orders of the components and of those of the columns make the node rearranged. -/
theorem Node.Rearranged.of_components (a : Attributes) {columns columns' : List Column}
    (h : Rearrangement xs ys) (hcolumns : List.Forall₂ Column.Rearranged columns columns') :
    Node.Rearranged ⟨a, xs, columns⟩ ⟨a, ys, columns'⟩ := by
  obtain ⟨_, hp, hz⟩ := h
  exact .mk a hp hz hcolumns

theorem Column.Rearranged.of_components (extra : Fields) (h : Rearrangement xs ys) :
    Column.Rearranged ⟨xs, extra⟩ ⟨ys, extra⟩ := by
  obtain ⟨_, hp, hz⟩ := h
  exact .mk extra hp hz

namespace Node.Rearranged

theorem refl (n : Node) : n.Rearranged n := by
  induction n using Node.induction with
  | step n ih =>
    obtain ⟨a, components, columns⟩ := n
    have hcomponents : ∀ c ∈ components, c.Rearranged c :=
      fun c hc => ih c (List.mem_append_left _ hc)
    have hcolumns : ∀ column ∈ columns, column.Rearranged column := fun column hcol => by
      obtain ⟨below, extra⟩ := column
      refine .mk extra (.refl _) (List.forall₂_same.2 fun c hc => ih c ?_)
      exact List.mem_append_right _ (List.mem_flatMap.2 ⟨_, hcol, hc⟩)
    exact .mk a (.refl _) (List.forall₂_same.2 hcomponents) (List.forall₂_same.2 hcolumns)

theorem attributes (h : n.Rearranged m) : m.toAttributes = n.toAttributes := by
  cases h
  rfl

theorem children (h : n.Rearranged m) : Rearrangement n.children m.children := by
  cases h with
  | mk a hp hc hcolumns => exact Rearrangement.append ⟨_, hp, hc⟩ (.of_columns hcolumns)

end Node.Rearranged

/-- Another order of a list is a rearrangement. -/
theorem Rearrangement.of_perm (h : xs.Perm ys) : Rearrangement xs ys :=
  ⟨ys, h, List.forall₂_same.2 fun n _ => .refl n⟩

section Scope

variable {ctx : Context} {β : Type} {f : Node → β}

/-- Two nodes in each other's place own the same up to order, as far as attributes tell. -/
theorem Node.Rearranged.owners_perm
    (hf : ∀ {n m : Node}, m.toAttributes = n.toAttributes → f m = f n)
    (n : Node) :
    ∀ m, n.Rearranged m → ((ctx.owners n).map f).Perm ((ctx.owners m).map f) := by
  induction n using Node.induction with
  | step n ih =>
    intro m h
    have ha := h.attributes
    by_cases hk : (ctx.kindOf n).map Kind.ownsPath = some true
    · cases ho : ctx.owns n with
      | true =>
        rw [Context.owners_of_owns ho, Context.owners_of_owns ((ctx.owns_eq ha).trans ho)]
        simp [hf ha]
      | false =>
        obtain ⟨k, hk, hp⟩ := Option.map_eq_some_iff.1 hk
        rw [Context.owners_of_keyless hk hp ho,
          Context.owners_of_keyless ((ctx.kindOf_eq ha).trans hk) hp ((ctx.owns_eq ha).trans ho)]
    · rw [Context.owners_of_container hk, Context.owners_of_container (ctx.kindOf_eq ha ▸ hk),
        Context.scope, Context.scope, List.map_flatMap, List.map_flatMap]
      exact h.children.perm_flatMap fun c hc c' _ => ih c hc c'

theorem Rearrangement.scope_perm (h : Rearrangement xs ys)
    (hf : ∀ {n m : Node}, m.toAttributes = n.toAttributes → f m = f n) :
    ((ctx.scope xs).map f).Perm ((ctx.scope ys).map f) := by
  rw [Context.scope, Context.scope, List.map_flatMap, List.map_flatMap]
  exact h.perm_flatMap fun n _ m _ => Node.Rearranged.owners_perm hf n m

/-- The initial values of a rearranged schema are the same. -/
theorem Rearrangement.initials_perm (hs : ctx.registry = Registry.standard)
    (h : Rearrangement xs ys) : (ctx.initials xs).Perm (ctx.initials ys) :=
  h.scope_perm fun {n m} ha => by
    rw [Context.initialOf_congr (Context.treatsAlike_of_standard hs ha) ha, Node.ownKey,
      Node.ownKey, ha]

theorem segments_congr (ha : m.toAttributes = n.toAttributes) : m.segments = n.segments := by
  rw [Node.segments, Node.segments, ha]

theorem Rearrangement.cleanScope (h : Rearrangement xs ys) (hc : CleanScope ctx xs) :
    CleanScope ctx ys := by
  have hp : ((ctx.scope xs).map Node.segments).Perm ((ctx.scope ys).map Node.segments) :=
    h.scope_perm segments_congr
  constructor
  · intro o ho s hs
    obtain ⟨o', ho', he⟩ := List.mem_map.1 (hp.mem_iff.2 (List.mem_map_of_mem ho))
    exact hc.named o' ho' s (he ▸ hs)
  · have hd : ((ctx.scope xs).map Node.segments).Pairwise fun p q => ¬ p <+: q ∧ ¬ q <+: p :=
      List.pairwise_map.2 hc.disjoint
    exact List.pairwise_map.1 ((hp.pairwise_iff fun h => ⟨h.2, h.1⟩).1 hd)

theorem Node.Rearranged.cleanTemplates (n : Node) :
    ∀ m, n.Rearranged m → cleanTemplates ctx n = true → cleanTemplates ctx m = true := by
  induction n using Node.induction with
  | step n ih =>
    intro m h hn
    rw [cleanTemplates_eq, Bool.and_eq_true, Bool.or_eq_true, List.all_eq_true] at hn ⊢
    rw [ctx.kindOf_eq h.attributes, decide_eq_true_eq] at *
    refine ⟨hn.1.imp id h.children.cleanScope, fun c hc => ?_⟩
    obtain ⟨c', hc', hcc⟩ := h.children.exists_of_mem hc
    exact ih c' hc' c hcc (hn.2 c' hc')

/-- A clean schema may be rearranged. -/
theorem Rearrangement.clean (h : Rearrangement xs ys) (hc : Clean ctx xs) : Clean ctx ys where
  scope := h.cleanScope hc.scope
  templates m hm := by
    obtain ⟨n, hn, hnm⟩ := h.exists_of_mem hm
    exact Node.Rearranged.cleanTemplates n m hnm (hc.templates n hn)

end Scope

end Rearrangement

end FormLogic
