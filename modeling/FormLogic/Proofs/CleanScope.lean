import FormLogic.Proofs.Addressing
import FormLogic.Registry.Basic

/-!
# Clean schemas

A scope is what is reached from the top level, or from the template of one repeater,
through groups, layouts and nodes of unknown type only. In a clean schema no segment
of a key of a scope is a row number, and no key is another one or leads to it. A key
without segments leads to every other one and so stands alone. Then the paths below
two nodes of a scope are apart.
-/
namespace FormLogic

open FormLogic.Path (Apart index?)

/-- The segments that a node with a key adds to the path of its parent. -/
def Node.segments (n : Node) : List String := Path.segments (n.key?.getD "")

namespace Context

/-- The role of a node, as far as its tag is known. -/
def kindOf (ctx : Context) (n : Node) : Option Kind := (ctx.typeOf n).map (·.kind)

/-- Whether a node owns a segment and a stored value. -/
def owns (ctx : Context) (n : Node) : Bool := n.ownsSegment (ctx.kindOf n)

/-- The nodes with a stored value that a node brings into its scope: itself, or what is reached
through it. -/
def owners (ctx : Context) : Node → List Node :=
  Node.recurse fun n below =>
    match ctx.kindOf n with
    | some .leaf | some .repeater => if ctx.owns n then [n] else []
    | some .group | some .layout | none => below.flatten

/-- The nodes with a stored value in the scope of some nodes, in document order. -/
def scope (ctx : Context) (nodes : List Node) : List Node := nodes.flatMap ctx.owners

end Context

/-- The keys of a scope name different places, none within another and none a row. -/
structure CleanScope (ctx : Context) (nodes : List Node) : Prop where
  named : ∀ o ∈ ctx.scope nodes, ∀ s ∈ o.segments, index? s = none
  disjoint : (ctx.scope nodes).Pairwise fun a b =>
    ¬ a.segments <+: b.segments ∧ ¬ b.segments <+: a.segments

theorem cleanScope_iff (ctx : Context) (nodes : List Node) :
    CleanScope ctx nodes ↔ (∀ o ∈ ctx.scope nodes, ∀ s ∈ o.segments, index? s = none) ∧
      (ctx.scope nodes).Pairwise fun a b =>
        ¬ a.segments <+: b.segments ∧ ¬ b.segments <+: a.segments :=
  ⟨fun h => ⟨h.named, h.disjoint⟩, fun h => ⟨h.1, h.2⟩⟩

instance (ctx : Context) (nodes : List Node) : Decidable (CleanScope ctx nodes) :=
  decidable_of_iff _ (cleanScope_iff ctx nodes).symm

/-- The template of every repeater at or below a node is a clean scope. -/
def cleanTemplates (ctx : Context) : Node → Bool :=
  Node.recurse fun n below =>
    (ctx.kindOf n != some .repeater || decide (CleanScope ctx n.children)) && below.all id

/-- A schema whose top-level scope and templates are clean. -/
structure Clean (ctx : Context) (nodes : List Node) : Prop where
  scope : CleanScope ctx nodes
  templates : ∀ n ∈ nodes, cleanTemplates ctx n = true

theorem clean_iff (ctx : Context) (nodes : List Node) :
    Clean ctx nodes ↔ CleanScope ctx nodes ∧ ∀ n ∈ nodes, cleanTemplates ctx n = true :=
  ⟨fun h => ⟨h.scope, h.templates⟩, fun h => ⟨h.1, h.2⟩⟩

instance (ctx : Context) (nodes : List Node) : Decidable (Clean ctx nodes) :=
  decidable_of_iff _ (clean_iff ctx nodes).symm

namespace Context

variable {ctx : Context} {n : Node}

theorem owners_of_owns (h : ctx.owns n = true) : ctx.owners n = [n] := by
  have hk : (ctx.kindOf n).map Kind.ownsPath = some true := by
    simp only [owns, Attributes.ownsSegment, Bool.and_eq_true] at h
    cases hk : ctx.kindOf n with
    | none => simp [hk] at h
    | some k => simpa [hk] using h.1
  rw [owners, Node.recurse_eq]
  cases hk' : ctx.kindOf n with
  | none => simp [hk'] at hk
  | some k => cases k <;> simp_all [Kind.ownsPath]

theorem owners_of_container (h : (ctx.kindOf n).map Kind.ownsPath ≠ some true) :
    ctx.owners n = ctx.scope n.children := by
  rw [owners, Node.recurse_eq, ← owners]
  cases hk : ctx.kindOf n with
  | none => simp [scope, List.flatMap]
  | some k => cases k <;> simp_all [Kind.ownsPath, scope, List.flatMap]

theorem owners_of_keyless {k : Kind} (hk : ctx.kindOf n = some k) (hp : k.ownsPath = true)
    (ho : ctx.owns n = false) : ctx.owners n = [] := by
  rw [owners, Node.recurse_eq, hk]
  cases k with
  | leaf | repeater => simp [ho]
  | group | layout => cases hp

/-- A node brings itself, or what its children bring. -/
theorem mem_owners {o : Node} (h : o ∈ ctx.owners n) :
    (o = n ∧ ctx.owns n = true) ∨
      ((ctx.kindOf n).map Kind.ownsPath ≠ some true ∧ ∃ c ∈ n.children, o ∈ ctx.owners c) := by
  by_cases hk : (ctx.kindOf n).map Kind.ownsPath = some true
  · left
    obtain ⟨k, hk, hp⟩ := Option.map_eq_some_iff.1 hk
    cases ho : ctx.owns n with
    | true =>
      rw [owners_of_owns ho] at h
      exact ⟨List.mem_singleton.1 h, rfl⟩
    | false =>
      rw [owners_of_keyless hk hp ho] at h
      cases h
  · rw [owners_of_container hk] at h
    exact Or.inr ⟨hk, List.mem_flatMap.1 h⟩

theorem owns_of_mem_owners {o : Node} (h : o ∈ ctx.owners n) : ctx.owns o = true := by
  induction n using Node.induction with
  | step n ih =>
    rcases mem_owners h with ⟨rfl, ho⟩ | ⟨-, c, hc, h⟩
    · exact ho
    · exact ih c hc h

theorem kindOf_of_typeOf {t : NodeType} (ht : ctx.typeOf n = some t) :
    ctx.kindOf n = some t.kind := by
  rw [kindOf, ht]
  rfl

theorem exists_typeOf_of_owns (h : ctx.owns n = true) :
    ∃ t, ctx.typeOf n = some t ∧ t.kind.ownsPath = true := by
  rw [owns, Attributes.ownsSegment, kindOf, Bool.and_eq_true] at h
  cases ht : ctx.typeOf n with
  | none => simp [ht] at h
  | some t => exact ⟨t, rfl, by simpa [ht] using h.1⟩

theorem exists_typeOf_of_mem_scope {nodes : List Node} {o : Node} (h : o ∈ ctx.scope nodes) :
    ∃ t, ctx.typeOf o = some t ∧ t.kind.ownsPath = true := by
  obtain ⟨n, -, h⟩ := List.mem_flatMap.1 h
  exact exists_typeOf_of_owns (owns_of_mem_owners h)

theorem scope_singleton (n : Node) : ctx.scope [n] = ctx.owners n := by
  simp [scope]

theorem scope_append (xs ys : List Node) : ctx.scope (xs ++ ys) = ctx.scope xs ++ ctx.scope ys :=
  List.flatMap_append

theorem mem_scope_of_mem {nodes : List Node} (h : n ∈ nodes) {o : Node} (ho : o ∈ ctx.owners n) :
    o ∈ ctx.scope nodes :=
  List.mem_flatMap.2 ⟨n, h, ho⟩

end Context

variable {ctx : Context} {nodes : List Node} {n : Node}

theorem cleanTemplates_eq (ctx : Context) (n : Node) :
    cleanTemplates ctx n = ((ctx.kindOf n != some .repeater ||
      decide (CleanScope ctx n.children)) && n.children.all (cleanTemplates ctx)) := by
  rw [cleanTemplates, Node.recurse_eq, ← cleanTemplates, List.all_map]
  rfl

theorem CleanScope.of_sublist {left : List Node} (h : CleanScope ctx nodes)
    (hs : (ctx.scope left).Sublist (ctx.scope nodes)) : CleanScope ctx left where
  named o ho := h.named o (hs.subset ho)
  disjoint := h.disjoint.sublist hs

theorem CleanScope.append_left {left right : List Node} (h : CleanScope ctx (left ++ right)) :
    CleanScope ctx left :=
  h.of_sublist (by rw [Context.scope_append]; exact List.sublist_append_left _ _)

theorem CleanScope.append_right {left right : List Node} (h : CleanScope ctx (left ++ right)) :
    CleanScope ctx right :=
  h.of_sublist (by rw [Context.scope_append]; exact List.sublist_append_right _ _)

theorem Clean.of_mem (h : Clean ctx nodes) (hn : n ∈ nodes) : Clean ctx [n] := by
  refine ⟨?_, fun m hm => h.templates m (List.mem_singleton.1 hm ▸ hn)⟩
  obtain ⟨before, after, rfl⟩ := List.append_of_mem hn
  have hs : CleanScope ctx ([n] ++ after) := h.scope.append_right
  exact hs.append_left

theorem Clean.templates_children (h : Clean ctx [n]) :
    ∀ c ∈ n.children, cleanTemplates ctx c = true := by
  have ht := h.templates n List.mem_cons_self
  rw [cleanTemplates_eq, Bool.and_eq_true, List.all_eq_true] at ht
  exact ht.2

/-- The children of a container stand in its scope. -/
theorem Clean.children_of_container (h : Clean ctx [n])
    (hk : (ctx.kindOf n).map Kind.ownsPath ≠ some true) : Clean ctx n.children := by
  have hs := h.scope
  refine ⟨?_, h.templates_children⟩
  rw [cleanScope_iff] at hs ⊢
  rwa [Context.scope_singleton, Context.owners_of_container hk] at hs

/-- The children of a repeater make a scope of their own. -/
theorem Clean.children_of_repeater (h : Clean ctx [n]) (hk : ctx.kindOf n = some .repeater) :
    Clean ctx n.children := by
  refine ⟨?_, h.templates_children⟩
  have ht := h.templates n List.mem_cons_self
  rw [cleanTemplates_eq, Bool.and_eq_true] at ht
  simpa [hk] using ht.1

/-- A place at or below what some nodes own, seen from `base`. -/
def Beneath (ctx : Context) (nodes : List Node) (base place : List String) : Prop :=
  ∃ o ∈ ctx.scope nodes, base ++ o.segments <+: place

theorem Beneath.of_mem {base place : List String} (hn : n ∈ nodes)
    (h : Beneath ctx [n] base place) : Beneath ctx nodes base place := by
  obtain ⟨o, ho, hp⟩ := h
  rw [Context.scope_singleton] at ho
  exact ⟨o, Context.mem_scope_of_mem hn ho, hp⟩

/-- A container brings what its children own into its own scope. -/
theorem Beneath.of_container {base place : List String}
    (hk : (ctx.kindOf n).map Kind.ownsPath ≠ some true) (h : Beneath ctx n.children base place) :
    Beneath ctx [n] base place := by
  obtain ⟨o, ho, hp⟩ := h
  exact ⟨o, by rwa [Context.scope_singleton, Context.owners_of_container hk], hp⟩

/-- What is beneath a row is beneath its list. -/
theorem Beneath.prefix_of_row {path : String} {index : Nat} {place : List String}
    (h : Beneath ctx nodes (Path.segments (Path.row path index)) place) :
    Path.segments path <+: place := by
  obtain ⟨o, -, hp⟩ := h
  rw [Path.segments_row, List.append_assoc] at hp
  exact (List.prefix_append _ _).trans hp

theorem CleanScope.apart {left right : List Node} (h : CleanScope ctx (left ++ right))
    {base p q : List String} (hp : Beneath ctx left base p) (hq : Beneath ctx right base q) :
    Apart p q := by
  obtain ⟨a, ha, hap⟩ := hp
  obtain ⟨b, hb, hbq⟩ := hq
  have hd := h.disjoint
  rw [Context.scope_append, List.pairwise_append] at hd
  obtain ⟨hab, hba⟩ := hd.2.2 a ha b hb
  have hn : ∀ s ∈ a.segments, index? s = none :=
    h.named a (by rw [Context.scope_append]; exact List.mem_append_left _ ha)
  have hseg := Path.apart_of_not_isPrefix hn hab hba
  exact ((Path.apart_append_iff base _ _).2 hseg).of_isPrefix hap hbq

end FormLogic
