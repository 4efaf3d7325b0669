import FormLogic.Proofs.DecidableTrees
import FormLogic.Proofs.HiddenFlags
import FormLogic.Proofs.InitialValues

/-!
# The keys of a fresh form and the paths of its tree

Initial values are entered by a walk of its own, which reads nothing and knows no rows. It
meets the same nodes with values as a pass does outside the rows of repeaters, and gives
them the same paths. This holds of every registry and of passes over any values. The first
pass over a fresh form has no rows either, unless a type puts rows into an empty list.
-/
namespace FormLogic

open FormLogic.Path (segments)
open Visibility

/-- No type of a repeater puts rows into an empty list. -/
def Context.KeepsEmptyLists (ctx : Context) : Prop :=
  ∀ {n : Node} {t : NodeType}, ctx.typeOf n = some t → t.kind = .repeater →
    ∀ {state : HideState} {items : List Value},
      t.replacement? n state (some (.arr [])) = some (.arr items) → items = []

theorem Context.keepsEmptyLists_of_standard {ctx : Context}
    (hs : ctx.registry = Registry.standard) : ctx.KeepsEmptyLists := by
  intro n t ht hk state items hnew
  obtain ⟨default, hd⟩ := Context.resets_of_typeOf hs ht (by rw [hk]; rfl)
  rw [hd.replacement?_eq, hd.of_repeater hk] at hnew
  split at hnew
  · exact (Value.arr.inj (Option.some.inj hnew)).symm
  · cases hnew

namespace Visibility

section Outside

variable {ctx : Context} {nodes : List Node} {before : Value} {outcome : Outcome} {l : Location}

/-- An instance outside rows stands in the top-level scope and below no path. -/
theorem in_scope_of_outside (h : (run ctx nodes before).outcome = .ok outcome)
    (hl : l.In outcome.tree) (hr : l.rowPath? = none) :
    (∀ o ∈ ctx.owners l.self.node, o ∈ ctx.scope nodes) ∧ (l.place before).base = "" := by
  induction hl with
  | top hi =>
    have hn := (sweep_of_run h).node_mem hi
    exact ⟨fun o ho => Context.mem_scope_of_mem hn ho, rfl⟩
  | @child above i ha hi ih =>
    obtain ⟨hscope, hbase⟩ := ih hr
    obtain ⟨_, _, _, -, hv⟩ := exists_visited h ha
    obtain ⟨hk, hchildren⟩ := hv.sweep_children hi
    refine ⟨fun o ho => hscope o ?_, ?_⟩
    · rw [Context.owners_of_container hk]
      exact Context.mem_scope_of_mem (hchildren.node_mem hi) ho
    · rw [Location.place, hv.path_eq, Place.base_inside _ (owns_of_container hk), hbase]
  | inRow => cases hr

theorem owner_of_outside (h : (run ctx nodes before).outcome = .ok outcome)
    (hl : l.In outcome.tree) (hr : l.rowPath? = none) (ho : l.self.ownsValue = true) :
    l.self.node ∈ ctx.scope nodes ∧ l.self.node.key? = some l.self.path := by
  obtain ⟨hscope, hbase⟩ := in_scope_of_outside h hl hr
  obtain ⟨_, _, _, -, hv⟩ := exists_visited h hl
  rw [hv.ownsValue_eq] at ho
  obtain ⟨key, hkey, -, hpath⟩ := (l.place before).exists_key ho
  rw [hbase, Path.join, if_pos rfl] at hpath
  refine ⟨hscope _ ?_, by rw [hkey, hv.path_eq, hpath]⟩
  rw [Context.owners_of_owns ho]
  exact List.mem_cons_self

/-- What a node owns is found at or below its instance, on the way through containers. -/
theorem exists_below_of_owner (h : (run ctx nodes before).outcome = .ok outcome) (n : Node) :
    ∀ {l : Location}, l.In outcome.tree → l.self.node = n → ∀ o ∈ ctx.owners n,
      ∃ l' : Location, l'.In outcome.tree ∧ l'.self.node = o ∧ l'.self.ownsValue = true ∧
        l'.rowPath? = l.rowPath? := by
  induction n using Node.induction with
  | step n ih =>
    intro l hl hn o ho
    obtain ⟨_, _, _, -, hv⟩ := exists_visited h hl
    rw [hn] at hv
    -- The node owns its value itself, or is a container and has the instances of all children.
    rcases Context.mem_owners ho with ⟨rfl, howns⟩ | ⟨hk, c, hc, ho⟩
    · exact ⟨l, hl, hn, hv.ownsValue_eq.trans howns, rfl⟩
    · obtain ⟨i, hi, hic⟩ := (hv.sweep_of_container hk).exists_instance hc
      exact ih c hc (.child hl hi) hic o ho

/-- Every node with a value in the top-level scope has an instance outside rows. -/
theorem exists_outside_of_owner (h : (run ctx nodes before).outcome = .ok outcome) {o : Node}
    (ho : o ∈ ctx.scope nodes) :
    ∃ l : Location, l.In outcome.tree ∧ l.self.node = o ∧ l.self.ownsValue = true ∧
      l.rowPath? = none := by
  obtain ⟨n, hn, ho⟩ := List.mem_flatMap.1 ho
  obtain ⟨i, hi, hin⟩ := (sweep_of_run h).exists_instance hn
  exact exists_below_of_owner h n (.top hi) hin o ho

/-- So the keys of the scope are the paths of the values outside rows. -/
theorem mem_keys_iff (h : (run ctx nodes before).outcome = .ok outcome) {p : String} :
    (∃ o ∈ ctx.scope nodes, o.key? = some p) ↔
      ∃ l : Location, l.In outcome.tree ∧ l.self.ownsValue = true ∧ l.rowPath? = none ∧
        l.self.path = p := by
  constructor
  · rintro ⟨o, ho, hkey⟩
    obtain ⟨l, hl, rfl, howns, hr⟩ := exists_outside_of_owner h ho
    have hpath := (owner_of_outside h hl hr howns).2
    exact ⟨l, hl, howns, hr, Option.some.inj (hpath.symm.trans hkey)⟩
  · rintro ⟨l, hl, howns, hr, rfl⟩
    exact ⟨l.self.node, owner_of_outside h hl hr howns⟩

end Outside

section Rows

variable {ctx : Context} {nodes : List Node} {before : Value} {outcome : Outcome} {l : Location}

theorem rowCount_of_get? {values : Value} {path : String} {v : Value}
    (h : values.get? path = some v) : rowCount values path = (v.items?.map List.length).getD 0 := by
  rw [rowCount, h, Option.bind_some]

/-- A list without rows that is not given any has none. -/
theorem Applied.rowCount_eq_zero (hkeeps : ctx.KeepsEmptyLists) {n : Node} {t : NodeType}
    (ht : ctx.typeOf n = some t) (hk : t.kind = .repeater) {path : String} {state : HideState}
    {s m : Progress} (h : Applied t n path state s m)
    (he : s.values.get? path = some (.arr [])) : rowCount m.values path = 0 := by
  cases h with
  | kept => exact rowCount_of_get? he
  | @wrote new w hnew _ hw =>
    rw [rowCount_of_get? (Value.follow_write_self hw)]
    rw [he] at hnew
    cases new with
    | arr items =>
      rw [hkeeps ht hk hnew]
      rfl
    | null | bool _ | num _ | str _ | obj _ => rfl

/-- Outside rows an instance comes from one visit, whatever the types do. -/
theorem exists_visitAt_of_outside (hc : Clean ctx nodes)
    (h : (run ctx nodes before).outcome = .ok outcome) (hl : l.In outcome.tree)
    (hr : l.rowPath? = none) : ∃ s s', VisitAt ctx before outcome l s s' := by
  induction hl with
  | top hi => exact VisitAt.top hc h hi
  | child _ hi ih =>
    obtain ⟨s, s', va⟩ := ih hr
    exact va.child hi
  | inRow => cases hr

/-- A pass over values whose lists have no rows meets no rows. -/
theorem outside_of_empty_lists (hc : Clean ctx nodes) (hkeeps : ctx.KeepsEmptyLists)
    (he : ∀ o ∈ ctx.scope nodes, ∀ key, o.key? = some key → ctx.kindOf o = some .repeater →
      before.get? key = some (.arr []))
    (h : (run ctx nodes before).outcome = .ok outcome) (hl : l.In outcome.tree) :
    l.rowPath? = none := by
  induction hl with
  | top => rfl
  | child _ _ ih => exact ih
  | @inRow above index row i ha hrow hi ih =>
    -- The list around the row is outside rows, and so the pass found it empty.
    exfalso
    obtain ⟨s, s', va⟩ := exists_visitAt_of_outside hc h ha ih
    obtain ⟨t, m, ht, hk, ho, happly, hrows⟩ := va.visited.sweep_rows hrow
    have howns := va.ownsValue_eq.trans ho
    obtain ⟨hmem, hkey⟩ := owner_of_outside h ha ih howns
    have hempty : s.values.get? above.self.path = some (.arr []) :=
      (va.before_eq howns).trans (he _ hmem _ hkey hk)
    have hcount : rowCount m.values above.self.path = 0 := by
      split at happly
      · exact happly.rowCount_eq_zero hkeeps ht (Context.kind_of_typeOf ht hk) hempty
      · rw [happly, rowCount_of_get? hempty]
        rfl
    have hlen := hrows.length_eq
    rw [hcount, List.range_zero, List.length_nil] at hlen
    rw [List.eq_nil_of_length_eq_zero hlen] at hrow
    cases hrow

end Rows

section Fresh

variable {ctx : Context} {nodes : List Node}

/-- The walk that enters initial values succeeds on a clean schema. It puts the default of its type
at the key of every leaf of the top-level scope and the empty list at that of every repeater,
objects on the way to a key, and nothing anywhere else. The keys so filled are the paths of the
values that a pass over the result meets outside rows, and the pass meets no rows unless a type puts
some into an empty list. -/
theorem initialValues_addressable (hc : Clean ctx nodes) :
    ∃ store, (initialValues ctx nodes).outcome = .ok store ∧
      (∀ o ∈ ctx.scope nodes, ∃ t, ctx.typeOf o = some t ∧
        (t.kind = .leaf ∧ store.get? o.ownKey = some (t.initial o) ∨
          t.kind = .repeater ∧ store.get? o.ownKey = some (.arr []))) ∧
      (∀ o ∈ ctx.scope nodes, ∀ q, segments q <+: o.segments → segments q ≠ o.segments →
        ∃ fields, store.get? q = some (.obj fields)) ∧
      (∀ q, segments q ≠ [] → ∀ v, store.get? q = some v → ∃ o ∈ ctx.scope nodes,
        (segments q <+: o.segments ∧ segments q ≠ o.segments) ∨
          ∃ rest, segments q = o.segments ++ rest ∧ (ctx.initialOf o).follow rest = some v) ∧
      ∀ outcome, (run ctx nodes store).outcome = .ok outcome →
        (∀ p, (∃ o ∈ ctx.scope nodes, o.key? = some p ∧ (store.get? p).isSome = true) ↔
          ∃ l : Location, l.In outcome.tree ∧ l.self.ownsValue = true ∧ l.rowPath? = none ∧
            l.self.path = p) ∧
        (ctx.KeepsEmptyLists → ∀ l : Location, l.In outcome.tree → l.rowPath? = none) := by
  obtain ⟨store, hstore, hholds⟩ := exists_initialValues hc.scope
  refine ⟨store, hstore, fun o ho => ?_, fun o ho q hq hne => ?_, fun q hq v hv => ?_,
    fun outcome h => ⟨fun p => ?_, fun hkeeps l => ?_⟩⟩
  · obtain ⟨t, ht, hp⟩ := Context.exists_typeOf_of_mem_scope ho
    refine ⟨t, ht, ?_⟩
    rw [hholds.get?_ownKey ho]
    cases hk : t.kind with
    | leaf => exact Or.inl ⟨rfl, by rw [Context.initialOf_of_leaf ht hk]⟩
    | repeater => exact Or.inr ⟨rfl, by rw [Context.initialOf_of_repeater ht hk]⟩
    | group | layout => rw [hk] at hp; cases hp
  · exact hholds.above _ (List.mem_map_of_mem ho) _ hq hne
  · obtain ⟨e, he, hcases⟩ := hholds.exists_of_follow hq hv
    obtain ⟨o, ho, rfl⟩ := List.mem_map.1 he
    exact ⟨o, ho, hcases⟩
  · rw [← mem_keys_iff h]
    refine exists_congr fun o => and_congr_right fun ho => and_iff_left_of_imp fun hkey => ?_
    rw [← Node.ownKey_eq hkey, hholds.get?_ownKey ho]
    rfl
  · refine outside_of_empty_lists hc hkeeps (fun o ho key hkey hk => ?_) h
    obtain ⟨t, ht, hk⟩ := Option.map_eq_some_iff.1 hk
    rw [← Node.ownKey_eq hkey, hholds.get?_ownKey ho, Context.initialOf_of_repeater ht hk]

end Fresh

namespace PetShop

def context : Context := ⟨Registry.standard, Conditions.declarative, none⟩

def owner : Node :=
  { type := "textfield", key := some "owner.name", defaultValue := some (.str "Ann") }

def member : Node := { type := "checkbox", key := some "owner.member" }

/-- Of a type that nothing is registered for. -/
def card : Node := { type := "card", key := some "card", components := [owner, member] }

def toy : Node := { type := "textfield", key := some "toy" }

/-- A list with a declared default, which is not used. -/
def pets : Node :=
  { type := "datagrid", key := some "pets", defaultValue := some (.arr [.empty])
    components := [toy] }

def store : Value := .obj [
  ("owner", .obj [("member", .bool false), ("name", .str "Ann")]), ("pets", .arr [])]

theorem initialValues_eq : (initialValues context [card, pets]).outcome = .ok store := by
  decide +kernel

def cardInstance : Instance :=
  { node := card, kind := none, path := "", hidden := false, children := [
    { node := owner, kind := some .leaf, path := "owner.name", hidden := false },
    { node := member, kind := some .leaf, path := "owner.member", hidden := false }] }

def outcome : Outcome where
  values := store
  tree := [cardInstance, { node := pets, kind := some .repeater, path := "pets", hidden := false }]
  cleared := []

theorem run_eq : (run context [card, pets] store).outcome = .ok outcome := by decide +kernel

end PetShop

open PetShop in
/-- Two keys below an object of their own, and a list that stays empty. -/
theorem initialValues_addressable_petShop : Clean context [card, pets] ∧
    (∃ fields, store.get? "owner" = some (.obj fields)) ∧
      (∃ l : Location, l.In outcome.tree ∧ l.self.ownsValue = true ∧ l.rowPath? = none ∧
        l.self.path = "owner.member") ∧ ∀ l : Location, l.In outcome.tree → l.rowPath? = none := by
  have hc : Clean context [card, pets] := by decide
  obtain ⟨s, hs, -, habove, helse, htree⟩ := initialValues_addressable hc
  obtain rfl := Except.ok.inj (hs.symm.trans initialValues_eq)
  obtain ⟨hpaths, hrows⟩ := htree outcome run_eq
  have hscope : context.scope [card, pets] = [owner, member, pets] := by rfl
  rw [hscope] at habove hpaths
  exact ⟨hc, habove owner List.mem_cons_self "owner" (by decide) (by decide),
    (hpaths "owner.member").1 ⟨member, List.mem_cons_of_mem _ List.mem_cons_self, rfl, rfl⟩,
    hrows (Context.keepsEmptyLists_of_standard rfl)⟩

namespace FirstRow

/-- A list that is shown has a row. -/
def list : NodeType where
  kind := .repeater
  applyVisibility := some fun _ state _ => if state.hidden then none else some (.arr [.empty])

def context : Context :=
  ⟨Registry.standard.register "list" list, Conditions.declarative, none⟩

def toy : Node := { type := "textfield", key := some "toy" }

def toys : Node := { type := "list", key := some "toys", components := [toy] }

def store : Value := .obj [("toys", .arr [])]

theorem initialValues_eq : (initialValues context [toys]).outcome = .ok store := by decide +kernel

def toyInstance : Instance :=
  { node := toy, kind := some .leaf, path := "toys.0.toy", hidden := false }

def toysInstance : Instance :=
  { node := toys, kind := some .repeater, path := "toys", hidden := false, rows := [[toyInstance]] }

def outcome : Outcome where
  values := .obj [("toys", .arr [.empty])]
  tree := [toysInstance]
  cleared := ["toys"]

theorem run_eq : (run context [toys] store).outcome = .ok outcome := by decide +kernel

end FirstRow

open FirstRow in
/-- A pass over a fresh form can meet values that the form has no key for. -/
theorem values_without_key :
    ¬ ∀ (ctx : Context) (nodes : List Node) (store : Value) (outcome : Outcome), Clean ctx nodes →
      (initialValues ctx nodes).outcome = .ok store → (run ctx nodes store).outcome = .ok outcome →
      ∀ p, (∃ o ∈ ctx.scope nodes, o.key? = some p ∧ (store.get? p).isSome = true) ↔
        ∃ l : Location, l.In outcome.tree ∧ l.self.ownsValue = true ∧ l.self.path = p := by
  intro hall
  have htoy : Location.In outcome.tree (.inRow (.top toysInstance) 0 toyInstance) :=
    .inRow (.top List.mem_cons_self) rfl List.mem_cons_self
  obtain ⟨o, ho, hkey, -⟩ := (hall context [toys] store outcome (by decide) initialValues_eq run_eq
    "toys.0.toy").2 ⟨_, htoy, rfl, rfl⟩
  have hscope : context.scope [toys] = [toys] := by rfl
  rw [hscope, List.mem_singleton] at ho
  rw [ho] at hkey
  exact absurd (Option.some.inj hkey) (by decide)

end Visibility
end FormLogic
