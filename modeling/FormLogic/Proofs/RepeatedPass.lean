import FormLogic.Proofs.PlannedPass

/-!
# A pass over the values that a pass left

What a pass has reset stays at its default, and the rows that it left are the rows that the next
pass meets. So if every condition gives the same answer after the pass as before it, the next
pass meets the same instances in the same states and finds nothing to do. That the answers are
the same is asked only where the pass met an instance, at the path and in the row of that one.
-/
namespace FormLogic.Visibility

theorem Plan.all_results {α : Type} (as : List α) :
    Plan.all (as.map fun a => { result := a }) = { result := as } := by
  induction as with
  | nil => rfl
  | cons a rest ih =>
    rw [List.map_cons, Plan.all_cons, ih]
    rfl

section Plans

variable {ctx : Context} {v : Value} {place : Place} {inherited : HideState}

/-- Where each instance is all that is planned for its node, they are all that is planned. -/
theorem Place.planAll_of_forall {is : List Instance}
    (h : ∀ i ∈ is, planOf ctx v i.node place inherited = { result := i }) :
    place.planAll ctx v (is.map (·.node)) inherited = { result := is } := by
  have hplans : (is.map (·.node)).map (fun n => planOf ctx v n place inherited) =
      is.map fun i => { result := i } := by
    rw [List.map_map]
    exact List.map_congr_left h
  rw [Place.planAll, hplans, Plan.all_results]

/-- So it is with rows, each planned by its number. -/
theorem Place.planRows_of_forall {n : Node} {rows : List (List Instance)}
    (hcount : place.rowsLeft ctx v n inherited = rows.length)
    (h : ∀ index row, rows[index]? = some row →
      place.planRow ctx v n inherited index = { result := row }) :
    place.planRows ctx v n inherited = { result := rows } := by
  have hplans : (List.range rows.length).map (place.planRow ctx v n inherited) =
      rows.map fun row => { result := row } := by
    refine List.ext_getElem (by simp) fun index hi hj => ?_
    rw [List.getElem_map, List.getElem_map, List.getElem_range]
    exact h index _ (List.getElem?_eq_getElem _)
  rw [Place.planRows, hcount, hplans, Plan.all_results]

end Plans

section Next

variable {ctx : Context} {nodes : List Node} {before v : Value} {outcome : Outcome} {l : Location}
  {s s' : Progress}

namespace VisitAt

theorem place_pathOf (va : VisitAt ctx before outcome l s s') (v : Value) :
    (l.place v).pathOf ctx l.self.node = l.self.path := by
  rw [va.visited.path_eq]
  cases l <;> rfl

/-- A condition that answers as before leaves the instance in its state. -/
theorem place_stateOf (va : VisitAt ctx before outcome l s s')
    (h : l.hidesItself ctx v = l.hidesItself ctx before) :
    (l.place v).stateOf ctx v l.self.node l.inherited = l.state := by
  unfold Location.hidesItself at h
  rw [← va.stateOf_eq, Place.stateOf, Place.stateOf, va.place_pathOf, va.place_pathOf, h]

/-- What the pass has reset is at its default now, and what it had no reason to reset it has none
to reset now. -/
theorem due_eq_nil (hs : ctx.registry = Registry.standard)
    (va : VisitAt ctx before outcome l s s') (hf : l.self.node.finiteDefaults = true)
    (h : l.hidesItself ctx outcome.values = l.hidesItself ctx before) :
    (l.place outcome.values).due ctx outcome.values l.self.node l.inherited = [] := by
  by_cases hwrites : l.self.ownsValue = true ∧ l.inKeptRows = false ∧ l.clears = true
  · obtain ⟨ho, hkept, hclears⟩ := hwrites
    obtain ⟨t, ht, htk⟩ := va.exists_typeOf ho
    obtain ⟨default, hd⟩ := Context.resets_of_typeOf hs ht htk
    have hdefault := (va.reset hs ho hf hclears hkept).1
    rw [Instance.isAtDefault_eq ht hd] at hdefault
    rw [Place.due_of_resets ht hd, va.place_pathOf, hdefault]
    simp
  · cases ho : ctx.owns l.self.node with
    | false => exact Place.due_of_not_owns ho
    | true =>
      obtain ⟨t, ht, htk⟩ := Context.exists_typeOf_of_owns ho
      obtain ⟨default, hd⟩ := Context.resets_of_typeOf hs ht htk
      rw [Place.due_of_resets ht hd, va.place_stateOf h, l.place_keep]
      refine if_neg fun hw => hwrites ?_
      simp only [Bool.and_eq_true, Bool.not_eq_true'] at hw
      exact ⟨va.ownsValue_eq.trans ho, hw.1.1.2, hw.1.2⟩

/-- A repeater is left with the rows that it has in the tree. -/
theorem rowsLeft_eq (va : VisitAt ctx before outcome l s s')
    (hdue : (l.place outcome.values).due ctx outcome.values l.self.node l.inherited = []) :
    (l.place outcome.values).rowsLeft ctx outcome.values l.self.node l.inherited =
      l.self.rows.length := by
  rw [Place.rowsLeft, ← va.kind_eq, ← va.ownsValue_eq, va.place_pathOf]
  by_cases hrep : l.self.kind = some .repeater ∧ l.self.ownsValue = true
  · rw [if_pos ⟨hrep.1, hrep.2, hdue⟩, va.rows_length_eq hrep.2 hrep.1]
  · rw [if_neg fun h => hrep ⟨h.1, h.2.1⟩]
    cases va.visited.shaped with
    | container _ _ _ hr | leaf _ _ hr | keyless _ _ _ hr => rw [hr, List.length_nil]
    | repeater hk ho => exact absurd ⟨hk, ho⟩ hrep

/-- The instance that is planned next is the one that is there, given what is below it. -/
theorem planOf_eq_self (va : VisitAt ctx before outcome l s s')
    (h : l.hidesItself ctx outcome.values = l.hidesItself ctx before)
    (hdue : (l.place outcome.values).due ctx outcome.values l.self.node l.inherited = [])
    (hcontents : (l.place outcome.values).planContents ctx outcome.values l.self.node l.inherited =
      { result := l.self.children })
    (hrows : (l.place outcome.values).planRows ctx outcome.values l.self.node l.inherited =
      { result := l.self.rows }) :
    planOf ctx outcome.values l.self.node (l.place outcome.values) l.inherited =
      { result := l.self } := by
  have hself : (l.place outcome.values).instanceOf ctx outcome.values l.self.node l.inherited =
      { node := l.self.node, kind := l.self.kind, path := l.self.path
        hidden := l.self.hidden } := by
    rw [Place.instanceOf, va.place_pathOf, va.place_stateOf h, va.kind_eq]
    rfl
  rw [planOf_eq, hdue, hcontents, hrows, hself]
  cases l.self
  rfl

end VisitAt

/-- Wherever the pass met an instance, the next pass is going to meet the same one and to write
nothing. -/
theorem planOf_of_in (hs : ctx.registry = Registry.standard) (hc : Clean ctx nodes)
    (hd : ∀ n ∈ nodes, n.finiteDefaults = true)
    (h : (run ctx nodes before).outcome = .ok outcome)
    (hflags : ∀ l : Location, l.In outcome.tree →
      l.hidesItself ctx outcome.values = l.hidesItself ctx before)
    (hl : l.In outcome.tree) :
    planOf ctx outcome.values l.self.node (l.place outcome.values) l.inherited =
      { result := l.self } := by
  generalize hi : l.self = i
  induction i using Instance.induction generalizing l with
  | step i ihChildren ihRows =>
    subst hi
    obtain ⟨s, s', va⟩ := exists_visitAt hs hc h hl
    have hstate := va.place_stateOf (hflags l hl)
    have hdue := va.due_eq_nil hs (finiteDefaults_of_in hs hc hd h hl) (hflags l hl)
    refine va.planOf_eq_self (hflags l hl) hdue ?_ ?_
    · rw [Place.planContents, va.place_pathOf, hstate]
      have hnodes : ctx.contents l.self.node = l.self.children.map (·.node) := by
        cases va.visited.shaped with
        | container hk _ hcn =>
          rw [Context.contents_of_container (va.kind_eq ▸ hk), hcn]
        | leaf hk hcn | keyless hk _ hcn | repeater hk _ hcn =>
          rw [Context.contents_of_ownsPath (by rw [← va.kind_eq, hk]; rfl), hcn, List.map_nil]
      rw [hnodes]
      exact Place.planAll_of_forall fun c hcm => ihChildren c hcm (.child hl hcm) rfl
    · refine Place.planRows_of_forall (va.rowsLeft_eq hdue) fun index row hr => ?_
      have hnodes : l.self.node.children = row.map (·.node) := by
        cases va.visited.shaped with
        | container _ _ _ hnil | leaf _ _ hnil | keyless _ _ _ hnil => simp [hnil] at hr
        | repeater _ _ _ hrow => exact (hrow row (List.mem_of_getElem? hr)).symm
      rw [Place.planRow, va.place_pathOf, hstate, hnodes]
      exact Place.planAll_of_forall fun c hcm =>
        ihRows row (List.mem_of_getElem? hr) c hcm (.inRow hl hr hcm) rfl

/-- A pass over the values that a pass left changes nothing if the conditions answer after that
pass as before it, for each instance that it met: the next pass goes through, with the same
values, the same tree and nothing to clear. -/
theorem run_of_settled_flags (hs : ctx.registry = Registry.standard) (hc : Clean ctx nodes)
    (hd : ∀ n ∈ nodes, n.finiteDefaults = true)
    (h : (run ctx nodes before).outcome = .ok outcome)
    (hflags : ∀ l : Location, l.In outcome.tree →
      l.hidesItself ctx outcome.values = l.hidesItself ctx before) :
    (run ctx nodes outcome.values).outcome = .ok ⟨outcome.values, outcome.tree, []⟩ := by
  have hplan : passPlan ctx outcome.values nodes = { result := outcome.tree } := by
    rw [passPlan, ← (sweep_of_run h).map_node]
    exact Place.planAll_of_forall fun i hi => planOf_of_in hs hc hd h hflags (.top hi)
  rw [outcome_run hs hc, hplan]
  rfl

end Next

namespace Journey

/-- The plan that is stored in some values. -/
def planIn (values : Value) : Option String := (values.get? "plan").bind Value.str?

/-- A node hides itself by its flag, or when it is meant for another plan than the stored one. -/
def context : Context where
  registry := Registry.standard
  conditions node scope := node.hidden ||
    ((node.extra.lookup "only").bind Value.str?).any fun plan => planIn scope.data != some plan

def onlyForParties : Fields := [("only", .str "party")]

def guests : Node :=
  { type := "datagrid", key := some "guests", extra := onlyForParties
    components := [{ type := "textfield", key := some "name" }] }

/-- Hidden, below an object that is not there yet. -/
def street : Node := { type := "textfield", key := some "address.street", hidden := true }

/-- Hidden, with rows that are kept. -/
def rooms : Node :=
  { type := "editgrid", key := some "rooms", hidden := true, clearOnHide := false
    components := [{ type := "textfield", key := some "note", extra := onlyForParties }] }

def bookings : Node :=
  { type := "editgrid", key := some "bookings"
    components := [{ type := "textfield", key := some "gift", extra := onlyForParties
                     defaultValue := some (.str "none") }] }

def nodes : List Node := [guests, street, rooms, bookings]

def values : Value := .obj [
  ("bookings", .arr [.obj [("gift", .str "wine")]]),
  ("guests", .arr [.obj [("name", .str "Ada")], .obj [("name", .str "Bob")]]),
  ("plan", .str "business"),
  ("rooms", .arr [.obj [("note", .str "quiet")]])]

theorem exists_outcome : ∃ o, (run context nodes values).outcome = .ok o ∧
    (o.cleared, planIn o.values) =
      (["guests", "address.street", "bookings.0.gift"], some "business") :=
  Noted.exists_of_toOption (run context nodes values)
    (fun o => (o.cleared, planIn o.values)) (by decide +kernel)

end Journey

open Journey in
/-- The first pass drops two rows, makes an object and resets a text in a row. The second one does
nothing. -/
theorem run_of_settled_flags_journey : ∃ o, (run context nodes values).outcome = .ok o ∧
    o.cleared = ["guests", "address.street", "bookings.0.gift"] ∧
    (run context nodes o.values).outcome = .ok ⟨o.values, o.tree, []⟩ := by
  obtain ⟨o, ho, hfacts⟩ := exists_outcome
  obtain ⟨hcleared, hplan⟩ := Prod.mk.inj hfacts
  have hc : Clean context nodes := by decide
  have hd : ∀ n ∈ nodes, n.finiteDefaults = true := by decide
  refine ⟨o, ho, hcleared, run_of_settled_flags rfl hc hd ho fun l _ => ?_⟩
  -- The plan is all that the conditions read.
  have hsame : planIn o.values = planIn values := hplan
  simp only [Location.hidesItself, context, hsame]

end FormLogic.Visibility
