import FormLogic.Proofs.DistinctPaths
import FormLogic.Proofs.PlannedPass
import FormLogic.Proofs.Rearrangement

/-!
# A pass over a rearranged schema

What a pass is going to do at a node is told by the values before the pass, and so it does
not matter which nodes are visited before. A rearranged schema has the same writes planned,
in another order, and shows and hides the same values. As the writes are independent, they
go through in both orders or in neither. This takes an evaluator to which the order is all
the same: it is given a node with all that is below it, and could tell.
-/
namespace FormLogic

open Visibility

namespace Instance

/-- The paths of the values in a tree, each with whether it is hidden. -/
def flags (is : List Instance) : List (String × Bool) :=
  ((flattenAll is).filter ownsValue).map fun i => (i.path, i.hidden)

theorem flags_append (is js : List Instance) : flags (is ++ js) = flags is ++ flags js := by
  simp only [flags, flattenAll_append, List.filter_append, List.map_append]

theorem flags_eq_flatMap (is : List Instance) : flags is = is.flatMap fun i => flags [i] := by
  induction is with
  | nil => rfl
  | cons i rest ih => rw [← List.singleton_append, flags_append, ih]; rfl

/-- The flags of an instance: its own, those of its children, those of its rows. -/
theorem flags_singleton (i : Instance) :
    flags [i] = (if i.ownsValue then [(i.path, i.hidden)] else []) ++
      (flags i.children ++ i.rows.flatMap flags) := by
  rw [flags, filter_flattenAll_singleton, List.map_append, List.map_append, List.map_flatMap]
  split <;> rfl

/-- Where paths are distinct, looking up a path is looking up its flag. -/
theorem map_hidden_findIn?_eq_some_iff {is : List Instance} (hd : (ownedPaths is).Nodup)
    {p : String} {b : Bool} : (findIn? p is).map (·.hidden) = some b ↔ (p, b) ∈ flags is := by
  rw [Option.map_eq_some_iff, flags, List.mem_map]
  constructor
  · rintro ⟨i, hi, rfl⟩
    rw [findIn?_eq] at hi
    have hp := List.find?_some hi
    rw [Bool.and_eq_true, beq_iff_eq] at hp
    exact ⟨i, List.mem_filter.2 ⟨List.mem_of_find?_eq_some hi, hp.1⟩, by rw [hp.2]⟩
  · rintro ⟨i, hi, he⟩
    obtain ⟨rfl, rfl⟩ := Prod.mk.inj he
    obtain ⟨hm, ho⟩ := List.mem_filter.1 hi
    exact ⟨i, findIn?_of_mem hd hm ho, rfl⟩

theorem map_hidden_findIn?_of_perm {is js : List Instance} (hp : (flags is).Perm (flags js))
    (hi : (ownedPaths is).Nodup) (hj : (ownedPaths js).Nodup) (p : String) :
    (findIn? p is).map (·.hidden) = (findIn? p js).map (·.hidden) :=
  Option.ext fun b => by
    rw [map_hidden_findIn?_eq_some_iff hi, map_hidden_findIn?_eq_some_iff hj, hp.mem_iff]

end Instance

/-- An evaluator judges each node of a schema as it judges the node rearranged. It is given the node
with all that is below it, and so it could read the order. -/
def Conditions.IgnoresOrder (conditions : Conditions) (nodes nodes' : List Node) : Prop :=
  ∀ n m, Node.Within nodes n → Node.Within nodes' m → n.Rearranged m → conditions m = conditions n

/-- The declarative evaluator reads attributes alone. -/
theorem Conditions.declarative_ignoresOrder (nodes nodes' : List Node) :
    Conditions.declarative.IgnoresOrder nodes nodes' := fun n m _ _ h => by
  funext scope
  rw [declarative, declarative, h.attributes]

namespace Visibility

/-- Two plans have the same writes and the same flags, in some order. -/
structure Plan.Permuted {α : Type} (flags : α → List (String × Bool)) (p q : Plan α) : Prop where
  writes : p.writes.Perm q.writes
  flags : (flags p.result).Perm (flags q.result)

namespace Plan.Permuted

theorem refl {α : Type} {flags : α → List (String × Bool)} (p : Plan α) : Permuted flags p p :=
  ⟨.refl _, .refl _⟩

/-- Plans that are permuted each are permuted one after the other. -/
theorem all {α β : Type} {flags : β → List (String × Bool)} {f g : α → Plan β} {xs : List α}
    (h : ∀ x ∈ xs, Permuted flags (f x) (g x)) :
    Permuted (List.flatMap flags) (.all (xs.map f)) (.all (xs.map g)) where
  writes := by
    simp only [Plan.all, List.flatMap_map]
    exact .flatMap_left xs fun x hx => (h x hx).writes
  flags := by
    simp only [Plan.all, List.flatMap_map]
    exact .flatMap_left xs fun x hx => (h x hx).flags

end Plan.Permuted

section Plans

variable {ctx : Context} {before : Value} {n m : Node} {xs ys : List Node} {place : Place}
  {inherited : HideState}

open Instance (flags)

theorem planAll_permuted (h : Rearrangement xs ys)
    (hn : ∀ n ∈ xs, ∀ m ∈ ys, n.Rearranged m → Plan.Permuted (fun i => flags [i])
      (planOf ctx before n place inherited) (planOf ctx before m place inherited)) :
    Plan.Permuted flags (place.planAll ctx before xs inherited)
      (place.planAll ctx before ys inherited) := by
  have hwrites : ∀ nodes, (place.planAll ctx before nodes inherited).writes =
      nodes.flatMap fun n => (planOf ctx before n place inherited).writes :=
    fun nodes => List.flatMap_map ..
  have hflags : ∀ nodes, flags (place.planAll ctx before nodes inherited).result =
      nodes.flatMap fun n => flags [(planOf ctx before n place inherited).result] := fun nodes => by
    rw [Instance.flags_eq_flatMap]
    simp only [Place.planAll, Plan.all, List.map_map, List.flatMap_map, Function.comp_apply]
  constructor
  · rw [hwrites, hwrites]
    exact h.perm_flatMap fun n hx m hy hnm => (hn n hx m hy hnm).writes
  · rw [hflags, hflags]
    exact h.perm_flatMap fun n hx m hy hnm => (hn n hx m hy hnm).flags

theorem due_congr (hs : ctx.registry = Registry.standard) (ha : m.toAttributes = n.toAttributes)
    (hstate : place.stateOf ctx before m inherited = place.stateOf ctx before n inherited) :
    place.due ctx before m inherited = place.due ctx before n inherited := by
  simp only [Place.due, ctx.typeOf_eq ha, ctx.owns_eq ha, hstate, place.pathOf_congr ha]
  cases ht : ctx.typeOf n with
  | none => rfl
  | some t => simp only [NodeType.due, (Context.treatsAlike_of_standard hs ha t ht).replacement?_eq]

/-- A rearranged node has the same writes and flags planned. -/
theorem planOf_permuted (hs : ctx.registry = Registry.standard) (n : Node) :
    ∀ m, n.Rearranged m → ctx.conditions.IgnoresOrder [n] [m] →
      ∀ {place : Place} {inherited : HideState}, Plan.Permuted (fun i => flags [i])
        (planOf ctx before n place inherited) (planOf ctx before m place inherited) := by
  induction n using Node.induction with
  | step n ih =>
    intro m h hcond place inherited
    have ha := h.attributes
    have hpath : place.pathOf ctx m = place.pathOf ctx n := place.pathOf_congr ha
    have hstate : place.stateOf ctx before m inherited = place.stateOf ctx before n inherited := by
      have hconditions : ctx.conditions m = ctx.conditions n :=
        hcond n m (.top List.mem_cons_self) (.top List.mem_cons_self) h
      simp only [Place.stateOf, stateOf, hconditions, hpath, ha]
    have hdue : place.due ctx before m inherited = place.due ctx before n inherited :=
      due_congr hs ha hstate
    have hleft : place.rowsLeft ctx before m inherited = place.rowsLeft ctx before n inherited := by
      simp only [Place.rowsLeft, ctx.kindOf_eq ha, ctx.owns_eq ha, hdue, hpath]
    have hbelow : ∀ place state, ∀ c ∈ n.children, ∀ c' ∈ m.children, c.Rearranged c' →
        Plan.Permuted (fun i => flags [i]) (planOf ctx before c place state)
          (planOf ctx before c' place state) := fun place state c hc c' hc' hcc =>
      ih c hc c' hcc fun k k' hk hk' => hcond k k' (.of_child hc hk) (.of_child hc' hk')
    have hcontents : Plan.Permuted flags (place.planContents ctx before n inherited)
        (place.planContents ctx before m inherited) := by
      by_cases hk : (ctx.kindOf n).map Kind.ownsPath = some true
      · rw [Place.planContents_of_ownsPath hk,
          Place.planContents_of_ownsPath (ctx.kindOf_eq ha ▸ hk)]
        exact .refl _
      · rw [Place.planContents, Place.planContents, Context.contents_of_container hk,
          Context.contents_of_container (ctx.kindOf_eq ha ▸ hk), hpath, hstate]
        exact planAll_permuted h.children (hbelow _ _)
    have hrows : Plan.Permuted (List.flatMap flags) (place.planRows ctx before n inherited)
        (place.planRows ctx before m inherited) := by
      rw [Place.planRows, Place.planRows, hleft]
      refine .all fun index _ => ?_
      rw [Place.planRow, Place.planRow, hpath, hstate]
      exact planAll_permuted h.children (hbelow _ _)
    rw [planOf_eq, planOf_eq, hdue]
    refine ⟨(List.Perm.refl _).append (hcontents.writes.append hrows.writes), ?_⟩
    have howns : n.ownsSegment (ctx.kindOf n) = m.ownsSegment (ctx.kindOf m) := by
      rw [ctx.kindOf_eq ha, ha]
    simp only [Instance.flags_singleton, Instance.ownsValue, Place.instanceOf, howns, hpath, hstate]
    exact (List.Perm.refl _).append (hcontents.flags.append hrows.flags)

end Plans

section Pass

variable {ctx : Context} {nodes nodes' : List Node}

/-- With an evaluator that ignores the order, a pass over a rearranged schema succeeds when the pass
over the schema does, and then it leaves the same values, resets the same paths in some order, and
shows and hides the same values. A fresh form has the same values. -/
theorem pass_of_rearrangement (hs : ctx.registry = Registry.standard) (hc : Clean ctx nodes)
    (hk : ctx.Keyed nodes) (hi : ctx.conditions.IgnoresOrder nodes nodes')
    (h : Rearrangement nodes nodes') (values : Value) :
    ((∃ o, (run ctx nodes values).outcome = .ok o) ↔
      ∃ o, (run ctx nodes' values).outcome = .ok o) ∧
    (∀ o o', (run ctx nodes values).outcome = .ok o → (run ctx nodes' values).outcome = .ok o' →
      o'.values = o.values ∧ o'.cleared.Perm o.cleared ∧
      ∀ path, (Instance.findIn? path o'.tree).map (·.hidden) =
        (Instance.findIn? path o.tree).map (·.hidden)) ∧
    ∃ store, (initialValues ctx nodes).outcome = .ok store ∧
      (initialValues ctx nodes').outcome = .ok store := by
  have hc' := h.clean hc
  have hplan : Plan.Permuted Instance.flags (passPlan ctx values nodes)
      (passPlan ctx values nodes') :=
    planAll_permuted h fun n hn m hm hnm =>
      planOf_permuted hs n m hnm fun k k' hk hk' => hi k k' (.of_mem hn hk) (.of_mem hm hk')
  have hind : Independent (passPlan ctx values nodes).writes := independent_passPlan hc hk
  have hwrites : ∀ v, Value.writeAll (passPlan ctx values nodes).writes values = .ok v ↔
      Value.writeAll (passPlan ctx values nodes').writes values = .ok v := fun v =>
    ⟨Value.writeAll_perm hplan.writes hind,
      Value.writeAll_perm hplan.writes.symm (hind.perm hplan.writes)⟩
  refine ⟨?_, fun o o' ho ho' => ?_, ?_⟩
  · rw [exists_run_eq_ok_iff hs hc, exists_run_eq_ok_iff hs hc']
    exact exists_congr hwrites
  · have hnodup := nodup_ownedPaths hc ho
    have hnodup' := nodup_ownedPaths hc' ho'
    obtain ⟨hvalues, htree, hcleared⟩ := (run_eq_ok_iff hs hc).1 ho
    obtain ⟨hvalues', htree', hcleared'⟩ := (run_eq_ok_iff hs hc').1 ho'
    refine ⟨Except.ok.inj (hvalues'.symm.trans ((hwrites _).1 hvalues)), ?_, fun path => ?_⟩
    · rw [hcleared, hcleared']
      exact (hplan.writes.map _).symm
    · refine Instance.map_hidden_findIn?_of_perm ?_ hnodup' hnodup path
      rw [htree, htree']
      exact hplan.flags.symm
  · obtain ⟨store, hstore, -⟩ := exists_initialValues hc.scope
    refine ⟨store, hstore, ?_⟩
    rw [outcome_initialValues_eq_writeAll] at hstore ⊢
    exact Value.writeAll_perm (h.initials_perm hs)
      (independent_initials hc.scope fun o ho => hk.of_mem_scope ho) hstore

end Pass

namespace Booking

def context : Context := ⟨Registry.standard, Conditions.declarative, none⟩

def breakfast : Node := { type := "checkbox", key := some "breakfast" }

def arrival : Node := { type := "textfield", key := some "stay.arrival" }

def departure : Node := { type := "textfield", key := some "stay.departure" }

def stay (days : List Node) : Node := { type := "columns", columns := [{ components := days }] }

def name : Node := { type := "textfield", key := some "name" }

/-- Asked with breakfast only. -/
def diet : Node :=
  ({ type := "textfield", key := some "diet" } : Node).withConditional true "breakfast" (.bool true)

/-- Asked with breakfast only. -/
def allergies : Node :=
  ({ type := "textfield", key := some "allergies" } : Node).withConditional true "breakfast"
    (.bool true)

def guests (template : List Node) : Node :=
  { type := "editgrid", key := some "guests", components := template }

def form : List Node := [breakfast, stay [arrival, departure], guests [name, diet, allergies]]

/-- The same form with all its lists backwards. -/
def backwards : List Node :=
  [guests [allergies, diet, name], stay [departure, arrival], breakfast]

theorem rearrangement : Rearrangement form backwards := by
  have hstay : (stay [arrival, departure]).Rearranged (stay [departure, arrival]) :=
    .of_components _ (.of_perm .nil) (.cons (.of_components _ (.of_perm (.swap _ _ _))) .nil)
  have hguests : (guests [name, diet, allergies]).Rearranged (guests [allergies, diet, name]) :=
    .of_components _ (.of_perm (List.reverse_perm _).symm) .nil
  exact ⟨_, (List.reverse_perm form).symm, .cons hguests (.cons hstay (.cons (.refl _) .nil))⟩

/-- Nobody has breakfast. -/
def values : Value := .obj [("breakfast", .bool false),
  ("guests", .arr [
    .obj [("allergies", .str "nuts"), ("diet", .str "vegan"), ("name", .str "Ada")]]),
  ("stay", .obj [("arrival", .str "Monday"), ("departure", .str "Friday")])]

theorem exists_outcome : ∃ o, (run context form values).outcome = .ok o ∧
    (o.cleared, (Instance.findIn? "guests.0.diet" o.tree).map (·.hidden)) =
      (["guests.0.diet", "guests.0.allergies"], some true) :=
  Noted.exists_of_toOption (run context form values)
    (fun o => (o.cleared, (Instance.findIn? "guests.0.diet" o.tree).map (·.hidden)))
    (by decide +kernel)

end Booking

open Booking in
/-- Backwards, the pass clears the two answers in the other order and leaves the same values. -/
theorem pass_of_rearrangement_booking : ∃ o o', (run context form values).outcome = .ok o ∧
    (run context backwards values).outcome = .ok o' ∧ o'.values = o.values ∧
    o'.cleared.Perm ["guests.0.diet", "guests.0.allergies"] ∧
    (Instance.findIn? "guests.0.diet" o'.tree).map (·.hidden) = some true := by
  obtain ⟨hiff, hsame, -⟩ := @pass_of_rearrangement context form backwards rfl (by decide)
    (by decide) (Conditions.declarative_ignoresOrder form backwards) rearrangement values
  obtain ⟨o, ho, hview⟩ := exists_outcome
  obtain ⟨o', ho'⟩ := hiff.1 ⟨o, ho⟩
  obtain ⟨hvalues, hcleared, hhidden⟩ := hsame o o' ho ho'
  obtain ⟨hc, hh⟩ := Prod.mk.inj hview
  exact ⟨o, o', ho, ho', hvalues, hc ▸ hcleared, (hhidden _).trans hh⟩

namespace Booking

def panel (days : List Node) : Node := { type := "panel", components := days }

/-- Hides what begins with a departure. -/
def orderly : Context where
  registry := Registry.standard
  conditions n _ := (n.components.head?.bind (·.key?)) == some "stay.departure"

theorem panel_rearranged :
    Rearrangement [panel [arrival, departure]] [panel [departure, arrival]] :=
  ⟨_, .refl _, .cons (.of_components _ (.of_perm (.swap _ _ _)) .nil) .nil⟩

theorem exists_shown : ∃ o, (run orderly [panel [arrival, departure]] values).outcome = .ok o ∧
    (Instance.findIn? "stay.arrival" o.tree).map (·.hidden) = some false :=
  Noted.exists_of_toOption (run orderly [panel [arrival, departure]] values)
    (fun o => (Instance.findIn? "stay.arrival" o.tree).map (·.hidden)) (by decide +kernel)

theorem exists_hidden : ∃ o, (run orderly [panel [departure, arrival]] values).outcome = .ok o ∧
    (Instance.findIn? "stay.arrival" o.tree).map (·.hidden) = some true :=
  Noted.exists_of_toOption (run orderly [panel [departure, arrival]] values)
    (fun o => (Instance.findIn? "stay.arrival" o.tree).map (·.hidden)) (by decide +kernel)

end Booking

open Booking in
/-- An evaluator can tell the order of the nodes below the one it is asked about, and then a pass
depends on that order. -/
theorem hidden_by_order :
    ¬ ∀ (ctx : Context) (nodes nodes' : List Node) (values : Value) (o o' : Outcome),
      ctx.registry = Registry.standard → Clean ctx nodes → ctx.Keyed nodes →
      Rearrangement nodes nodes' → (run ctx nodes values).outcome = .ok o →
      (run ctx nodes' values).outcome = .ok o' →
      ∀ path, (Instance.findIn? path o'.tree).map (·.hidden) =
        (Instance.findIn? path o.tree).map (·.hidden) := by
  intro hall
  obtain ⟨o, ho, hshown⟩ := exists_shown
  obtain ⟨o', ho', hhidden⟩ := exists_hidden
  have hsame := hall orderly _ _ values o o' rfl (by decide) (by decide) panel_rearranged ho ho'
    "stay.arrival"
  rw [hshown, hhidden] at hsame
  cases hsame

end Visibility
end FormLogic
