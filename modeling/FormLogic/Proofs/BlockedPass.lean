import FormLogic.Proofs.BlockedWrites
import FormLogic.Proofs.DecidableTrees
import FormLogic.Proofs.LocatedVisit
import FormLogic.Proofs.PlannedPass

/-!
# Passes that fail

The instances that a form has are told by the values before the pass: rows are those of each
repeater that is not cleared itself. In a clean schema of standard types a pass fails just
when something is in the way of a value that it is to clear, as the values were before it.
What is shown is not written and cannot make a pass fail.
-/
namespace FormLogic

open FormLogic.Path (segments)
open Visibility

namespace Visibility

section Materialize

variable (ctx : Context) (before : Value)

/-- A node is given its default where it clears, unless the values are kept. -/
def Place.clearsAt (place : Place) (n : Node) (inherited : HideState) : Bool :=
  (place.stateOf ctx before n inherited).clear && !place.keep

/-- The rows that a repeater has, unless it is to be cleared itself. -/
def Place.rowsMet (place : Place) (n : Node) (inherited : HideState) : Nat :=
  if ctx.kindOf n = some .repeater ∧ ctx.owns n = true ∧
      place.clearsAt ctx before n inherited = false then
    rowCount before (place.pathOf ctx n)
  else 0

/-- The instance of a node at a place: below a container its children, and below a repeater
those of each row. -/
def materialize : Node → Place → HideState → Instance :=
  Node.recurse fun n below place inherited =>
    let path := place.pathOf ctx n
    let state := place.stateOf ctx before n inherited
    let contents := if (ctx.kindOf n).map Kind.ownsPath = some true then [] else below
    { place.instanceOf ctx before n inherited with
      children := contents.map fun make => make (place.inside path) state
      rows := (List.range (place.rowsMet ctx before n inherited)).map fun index =>
        below.map fun make => make (place.inRow before path state.hidden index) state }

/-- The instances of a form. -/
def materializeAll (nodes : List Node) : List Instance :=
  nodes.map fun n => materialize ctx before n {} {}

theorem materialize_eq (n : Node) (place : Place) (inherited : HideState) :
    materialize ctx before n place inherited =
      { place.instanceOf ctx before n inherited with
        children := (ctx.contents n).map fun c => materialize ctx before c
          (place.inside (place.pathOf ctx n)) (place.stateOf ctx before n inherited)
        rows := (List.range (place.rowsMet ctx before n inherited)).map fun index =>
          n.children.map fun c => materialize ctx before c
            (place.inRow before (place.pathOf ctx n)
              (place.stateOf ctx before n inherited).hidden index)
            (place.stateOf ctx before n inherited) } := by
  have hcontents : (if (ctx.kindOf n).map Kind.ownsPath = some true then []
      else n.children.map (materialize ctx before)) =
        (ctx.contents n).map (materialize ctx before) := by
    unfold Context.contents
    split <;> rfl
  rw [materialize.eq_1, Node.recurse_eq, ← materialize.eq_1]
  simp only [hcontents, List.map_map]
  rfl

end Materialize

section Planned

variable {ctx : Context} {before : Value} {nodes : List Node} {n : Node} {place : Place}
  {inherited : HideState}

/-- Where a repeater clears, it is either due a write or an empty list already. -/
theorem Place.rowsLeft_eq (hs : ctx.registry = Registry.standard) (place : Place) (n : Node)
    (inherited : HideState) :
    place.rowsLeft ctx before n inherited = place.rowsMet ctx before n inherited := by
  unfold Place.rowsLeft Place.rowsMet
  by_cases hk : ctx.kindOf n = some .repeater ∧ ctx.owns n = true
  · obtain ⟨hk, ho⟩ := hk
    obtain ⟨t, ht, htk⟩ := Option.map_eq_some_iff.1 hk
    obtain ⟨default, hd⟩ := Context.resets_of_typeOf hs ht (by rw [htk]; rfl)
    have hdue : place.due ctx before n inherited =
        if place.clearsAt ctx before n inherited &&
          !(before.get? (place.pathOf ctx n) == some (.arr [])) then
            [(place.pathOf ctx n, default n)] else [] := by
      rw [Place.due_of_resets ht hd, Place.clearsAt, ho, hd.of_repeater htk, Bool.true_and,
        Bool.and_comm (!place.keep)]
    cases hclears : place.clearsAt ctx before n inherited with
    | false => simp [hdue, hclears]
    | true =>
      cases hnil : before.get? (place.pathOf ctx n) == some (.arr []) with
      | false => simp [hdue, hclears, hnil]
      | true => simp [rowCount_of_nil (get?_eq_nil_of_beq hnil)]
  · rw [if_neg fun h => hk ⟨h.1, h.2.1⟩, if_neg fun h => hk ⟨h.1, h.2.1⟩]

/-- The instances that are planned for are those that the form has before the pass. -/
theorem result_planOf (hs : ctx.registry = Registry.standard) (n : Node) :
    ∀ {place : Place} {inherited : HideState},
      (planOf ctx before n place inherited).result = materialize ctx before n place inherited := by
  induction n using Node.induction with
  | step n ih =>
    intro place inherited
    have hcontents : ∀ c ∈ ctx.contents n, ∀ {place : Place} {inherited : HideState},
        (planOf ctx before c place inherited).result = materialize ctx before c place inherited :=
      fun c hc => ih c (Context.mem_contents hc).2
    have hchildren : (place.planContents ctx before n inherited).result =
        (ctx.contents n).map fun c => materialize ctx before c
          (place.inside (place.pathOf ctx n)) (place.stateOf ctx before n inherited) := by
      simp only [Place.planContents, Place.planAll, Plan.all, List.map_map]
      exact List.map_congr_left fun c hc => hcontents c hc
    have hrow : ∀ index, (place.planRow ctx before n inherited index).result =
        n.children.map fun c => materialize ctx before c
          (place.inRow before (place.pathOf ctx n)
            (place.stateOf ctx before n inherited).hidden index)
          (place.stateOf ctx before n inherited) := by
      intro index
      simp only [Place.planRow, Place.planAll, Plan.all, List.map_map]
      exact List.map_congr_left fun c hc => ih c hc
    rw [planOf_eq, materialize_eq, hchildren, Place.planRows, Place.rowsLeft_eq hs]
    simp only [Plan.all, List.map_map]
    congr 1
    exact List.map_congr_left fun index _ => hrow index

theorem result_passPlan (hs : ctx.registry = Registry.standard) (before : Value)
    (nodes : List Node) : (passPlan ctx before nodes).result = materializeAll ctx before nodes := by
  simp only [passPlan, Place.planAll, Plan.all, List.map_map, materializeAll]
  exact List.map_congr_left fun n _ => result_planOf hs n

end Planned

/-- An instance is what is planned for its node where it is met, and the writes of that plan are
made by the pass. -/
structure PlannedAt (ctx : Context) (before : Value) (nodes : List Node) (l : Location) : Prop where
  self_eq : l.self = (planOf ctx before l.self.node (l.place before) l.inherited).result
  writes : ∀ w ∈ (planOf ctx before l.self.node (l.place before) l.inherited).writes,
    w ∈ (passPlan ctx before nodes).writes
  handed : ∀ a ∈ l.lineage.tail, a.hidden = true → l.inherited.hidden = true

section PlannedAt

variable {ctx : Context} {before : Value} {nodes : List Node} {l : Location}

theorem planOf_node (n : Node) (place : Place) (inherited : HideState) :
    (planOf ctx before n place inherited).result.node = n := by
  rw [planOf_eq]
  rfl

namespace PlannedAt

theorem path_eq (h : PlannedAt ctx before nodes l) :
    l.self.path = (l.place before).pathOf ctx l.self.node := by
  have hself := congrArg Instance.path h.self_eq
  rwa [planOf_eq] at hself

theorem ownsValue_eq (h : PlannedAt ctx before nodes l) :
    l.self.ownsValue = ctx.owns l.self.node := by
  have hkind := congrArg Instance.kind h.self_eq
  rw [planOf_eq] at hkind
  rw [Instance.ownsValue, hkind]
  rfl

/-- What is planned for an instance is planned for how it stands. -/
theorem state_eq (h : PlannedAt ctx before nodes l) :
    (l.place before).stateOf ctx before l.self.node l.inherited = l.state := by
  have hhidden := congrArg Instance.hidden h.self_eq
  rw [planOf_eq] at hhidden
  have hclear : l.clears = ((l.place before).stateOf ctx before l.self.node l.inherited).clear := by
    rw [l.clears_eq h.handed, hhidden]
    rfl
  rw [Location.state, hclear, hhidden]
  rfl

/-- What is hidden hides all that lies in it. -/
theorem hidden_of_inherited (h : PlannedAt ctx before nodes l)
    (hi : l.inherited.hidden = true) : l.self.hidden = true := by
  have hstate := congrArg HideState.hidden h.state_eq
  change (_ || l.inherited.hidden) = l.self.hidden at hstate
  rw [← hstate, hi, Bool.or_true]

/-- Whatever lies in an instance is handed down what the instance is. -/
theorem handed_below (h : PlannedAt ctx before nodes l) :
    ∀ a ∈ l.lineage, a.hidden = true → l.self.hidden = true := by
  intro a ha hhidden
  cases l with
  | top i => exact List.mem_singleton.1 ha ▸ hhidden
  | child above i | inRow above _ i =>
    rcases List.mem_cons.1 ha with rfl | ha
    · exact hhidden
    · exact h.hidden_of_inherited (h.handed a ha hhidden)

end PlannedAt

/-- What an instance holds besides rows is planned for the scope of its node. -/
theorem PlannedAt.children_eq (h : PlannedAt ctx before nodes l) :
    l.self.children = (ctx.contents l.self.node).map fun c =>
      (planOf ctx before c ((l.place before).inside l.self.path) l.state).result := by
  have hchildren := congrArg Instance.children h.self_eq
  rw [planOf_eq] at hchildren
  rw [hchildren]
  simp only [Place.planContents, Place.planAll, Plan.all, List.map_map, h.state_eq, ← h.path_eq]
  rfl

/-- The rows of an instance are planned for the children of its node. -/
theorem PlannedAt.rows_eq (h : PlannedAt ctx before nodes l) :
    l.self.rows = (List.range ((l.place before).rowsLeft ctx before l.self.node l.inherited)).map
      fun index => l.self.node.children.map fun c => (planOf ctx before c
        ((l.place before).inRow before l.self.path l.self.hidden index) l.state).result := by
  have hrows := congrArg Instance.rows h.self_eq
  rw [planOf_eq] at hrows
  have hrow : ∀ index,
      ((l.place before).planRow ctx before l.self.node l.inherited index).result =
        l.self.node.children.map fun c => (planOf ctx before c
          ((l.place before).inRow before l.self.path l.self.hidden index) l.state).result := by
    intro index
    simp only [Place.planRow, Place.planAll, Plan.all, List.map_map, h.state_eq, ← h.path_eq]
    rfl
  rw [hrows, Place.planRows]
  simp only [Plan.all, List.map_map]
  exact List.map_congr_left fun index _ => hrow index

/-- What lies in an instance is planned too. -/
theorem PlannedAt.child (h : PlannedAt ctx before nodes l) {c : Node}
    (hc : c ∈ ctx.contents l.self.node) : PlannedAt ctx before nodes (.child l
      (planOf ctx before c ((l.place before).inside l.self.path) l.state).result) where
  self_eq := by
    change _ = (planOf ctx before (planOf ctx before c _ _).result.node _ _).result
    rw [planOf_node]
    rfl
  writes w hw := by
    change w ∈ (planOf ctx before (planOf ctx before c _ _).result.node _ _).writes at hw
    rw [planOf_node] at hw
    refine h.writes w ?_
    rw [planOf_eq]
    refine List.mem_append_right _ (List.mem_append_left _ ?_)
    rw [Place.planContents, ← h.path_eq, h.state_eq]
    exact Plan.mem_writes_all.2 ⟨_, List.mem_map_of_mem hc, hw⟩
  handed := h.handed_below

theorem PlannedAt.inRow (h : PlannedAt ctx before nodes l) {index : Nat}
    (hindex : index < (l.place before).rowsLeft ctx before l.self.node l.inherited) {c : Node}
    (hc : c ∈ l.self.node.children) : PlannedAt ctx before nodes (.inRow l index
      (planOf ctx before c ((l.place before).inRow before l.self.path l.self.hidden index)
        l.state).result) where
  self_eq := by
    change _ = (planOf ctx before (planOf ctx before c _ _).result.node _ _).result
    rw [planOf_node]
    rfl
  writes w hw := by
    change w ∈ (planOf ctx before (planOf ctx before c _ _).result.node _ _).writes at hw
    rw [planOf_node] at hw
    refine h.writes w ?_
    rw [planOf_eq]
    refine List.mem_append_right _ (List.mem_append_right _ ?_)
    refine Plan.mem_writes_all.2 ⟨_, List.mem_map_of_mem (List.mem_range.2 hindex), ?_⟩
    rw [Place.planRow, ← h.path_eq, h.state_eq]
    exact Plan.mem_writes_all.2 ⟨_, List.mem_map_of_mem hc, hw⟩
  handed := h.handed_below

theorem PlannedAt.top {n : Node} (hn : n ∈ nodes) :
    PlannedAt ctx before nodes (.top (planOf ctx before n {} {}).result) where
  self_eq := by
    change _ = (planOf ctx before (planOf ctx before n {} {}).result.node _ _).result
    rw [planOf_node]
    rfl
  writes w hw := by
    change w ∈ (planOf ctx before (planOf ctx before n {} {}).result.node {} {}).writes at hw
    rw [planOf_node] at hw
    exact Plan.mem_writes_all.2 ⟨_, List.mem_map_of_mem hn, hw⟩
  handed := nofun

/-- Whatever is located in the tree of a plan is planned there. -/
theorem plannedAt_of_in (hl : l.In (passPlan ctx before nodes).result) :
    PlannedAt ctx before nodes l := by
  induction hl with
  | top hi =>
    obtain ⟨plan, hplan, rfl⟩ := List.mem_map.1 hi
    obtain ⟨n, hn, rfl⟩ := List.mem_map.1 hplan
    exact .top hn
  | child ha hi ih =>
    rw [ih.children_eq] at hi
    obtain ⟨c, hc, rfl⟩ := List.mem_map.1 hi
    exact ih.child hc
  | @inRow above index row i ha hr hi ih =>
    rw [ih.rows_eq, List.getElem?_map, Option.map_eq_some_iff] at hr
    obtain ⟨k, hk, rfl⟩ := hr
    obtain ⟨hlt, hk⟩ := List.getElem?_eq_some_iff.1 hk
    rw [List.getElem_range] at hk
    obtain ⟨c, hc, rfl⟩ := List.mem_map.1 hi
    exact hk ▸ ih.inRow (by simpa using hlt) hc

/-- Every planned write is the one that a node is due where its instance is located. -/
theorem exists_due_of_mem_writes (n : Node) : ∀ {l : Location},
    l.In (passPlan ctx before nodes).result → l.self.node = n → ∀ {w : String × Value},
      w ∈ (planOf ctx before n (l.place before) l.inherited).writes →
      ∃ l' : Location, l'.In (passPlan ctx before nodes).result ∧
        w ∈ (l'.place before).due ctx before l'.self.node l'.inherited := by
  induction n using Node.induction with
  | step n ih =>
    rintro l hl rfl w hw
    have hp := plannedAt_of_in hl
    rcases mem_writes_planOf hw with hw | hw | hw
    · exact ⟨l, hl, hw⟩
    · rw [Place.planContents, ← hp.path_eq, hp.state_eq] at hw
      obtain ⟨c, hc, hw⟩ := Place.mem_writes_planAll hw
      have hi := List.mem_map_of_mem (f := fun c =>
        (planOf ctx before c ((l.place before).inside l.self.path) l.state).result) hc
      rw [← hp.children_eq] at hi
      exact ih c (Context.mem_contents hc).2 (.child hl hi) (planOf_node _ _ _) hw
    · obtain ⟨index, hindex, hw⟩ := Place.mem_writes_planRows hw
      rw [Place.planRow, ← hp.path_eq, hp.state_eq] at hw
      obtain ⟨c, hc, hw⟩ := Place.mem_writes_planAll hw
      have hr : l.self.rows[index]? = some (l.self.node.children.map fun c =>
          (planOf ctx before c ((l.place before).inRow before l.self.path l.self.hidden index)
            l.state).result) := by
        rw [hp.rows_eq, List.getElem?_map, List.getElem?_range hindex, Option.map_some]
      exact ih c hc (.inRow hl hr (List.mem_map_of_mem hc)) (planOf_node _ _ _) hw

end PlannedAt

/-- An instance whose value is to be cleared, and something is in the way of it. -/
structure Blocked (before : Value) (l : Location) : Prop where
  ownsValue : l.self.ownsValue = true
  clears : l.clears = true
  notKept : l.inKeptRows = false
  fault : (before.fault? l.self.path).isSome = true

section Blocked

variable {ctx : Context} {before : Value} {nodes : List Node} {l : Location}

/-- What an instance is due where it is planned: its default, unless it has it. -/
theorem PlannedAt.due_eq (h : PlannedAt ctx before nodes l) {t : NodeType}
    (ht : ctx.typeOf l.self.node = some t) {default : Node → Value} (hd : Resets t default) :
    (l.place before).due ctx before l.self.node l.inherited =
      if l.self.ownsValue && !l.inKeptRows && l.clears &&
          !(before.get? l.self.path == some (default l.self.node)) then
        [(l.self.path, default l.self.node)] else [] := by
  rw [Place.due_of_resets ht hd, h.state_eq, ← h.path_eq, ← h.ownsValue_eq, l.place_keep]
  rfl

theorem PlannedAt.exists_resets (hs : ctx.registry = Registry.standard)
    (h : PlannedAt ctx before nodes l) (ho : l.self.ownsValue = true) :
    ∃ t default, ctx.typeOf l.self.node = some t ∧ Resets t default := by
  rw [h.ownsValue_eq] at ho
  obtain ⟨t, ht, hkt⟩ := Context.exists_typeOf_of_owns ho
  obtain ⟨default, hd⟩ := Context.resets_of_typeOf hs ht hkt
  exact ⟨t, default, ht, hd⟩

/-- Whatever is written on purpose clears an instance that owns a value outside kept rows. -/
theorem PlannedAt.of_mem_due (hs : ctx.registry = Registry.standard)
    (h : PlannedAt ctx before nodes l) {w : String × Value}
    (hw : w ∈ (l.place before).due ctx before l.self.node l.inherited) :
    w.1 = l.self.path ∧ l.self.ownsValue = true ∧ l.clears = true ∧ l.inKeptRows = false := by
  obtain ⟨ho, hpath⟩ := Place.eq_of_mem_due hw
  rw [← h.ownsValue_eq] at ho
  obtain ⟨t, default, ht, hd⟩ := h.exists_resets hs ho
  rw [h.due_eq ht hd] at hw
  split at hw
  · next hcond =>
    simp only [Bool.and_eq_true, Bool.not_eq_true'] at hcond
    exact ⟨h.path_eq ▸ hpath, ho, hcond.1.2, hcond.1.1.2⟩
  · cases hw

/-- What is in the way of a value is in the way of a write, since a value that is there already
would not be blocked. -/
theorem Blocked.exists_write (hs : ctx.registry = Registry.standard) (hb : Blocked before l)
    (h : PlannedAt ctx before nodes l) :
    ∃ w ∈ (passPlan ctx before nodes).writes, w.1 = l.self.path := by
  obtain ⟨t, default, ht, hd⟩ := h.exists_resets hs hb.ownsValue
  have hother : (before.get? l.self.path == some (default l.self.node)) = false := by
    cases hget : before.get? l.self.path with
    | none => rfl
    | some z =>
      have hfree := Value.fault?_of_get? (hget ▸ rfl : (before.get? l.self.path).isSome = true)
      have hfault := hb.fault
      rw [hfree] at hfault
      cases hfault
  have hdue : (l.self.path, default l.self.node) ∈
      (l.place before).due ctx before l.self.node l.inherited := by
    rw [h.due_eq ht hd, hb.ownsValue, hb.clears, hb.notKept, hother]
    exact List.mem_cons_self
  refine ⟨(l.self.path, default l.self.node), h.writes _ ?_, rfl⟩
  rw [planOf_eq]
  exact List.mem_append_left _ hdue

/-- Each planned write clears an instance. -/
theorem exists_location_of_mem_writes (hs : ctx.registry = Registry.standard)
    {w : String × Value} (hw : w ∈ (passPlan ctx before nodes).writes) :
    ∃ l : Location, l.In (passPlan ctx before nodes).result ∧ w.1 = l.self.path ∧
      l.self.ownsValue = true ∧ l.clears = true ∧ l.inKeptRows = false := by
  obtain ⟨n, hn, hw⟩ := Place.mem_writes_planAll hw
  have htop : Location.In (passPlan ctx before nodes).result
      (.top (planOf ctx before n {} {}).result) :=
    .top (List.mem_map_of_mem (List.mem_map_of_mem hn))
  obtain ⟨l, hl, hdue⟩ := exists_due_of_mem_writes n htop (planOf_node n {} {}) hw
  exact ⟨l, hl, (plannedAt_of_in hl).of_mem_due hs hdue⟩

end Blocked

/-- A pass fails just when something is in the way of a value that it is to clear, in the values as
they were, and it fails with the path of such a value and what is in the way. A pass that goes
through has the instances that the form had before it. -/
theorem run_fails_iff_blocked {ctx : Context} {nodes : List Node}
    (hs : ctx.registry = Registry.standard) (hc : Clean ctx nodes) (hk : ctx.Keyed nodes)
    (before : Value) :
    ((∃ e, (run ctx nodes before).outcome = .error e) ↔
      ∃ l : Location, l.In (materializeAll ctx before nodes) ∧ Blocked before l) ∧
    (∀ e, (run ctx nodes before).outcome = .error e →
      ∃ l : Location, l.In (materializeAll ctx before nodes) ∧ Blocked before l ∧
        ∃ fault, before.fault? l.self.path = some fault ∧ e = .invalidPath l.self.path fault) ∧
    ∀ outcome, (run ctx nodes before).outcome = .ok outcome →
      outcome.tree = materializeAll ctx before nodes := by
  have hindep : Independent (passPlan ctx before nodes).writes := independent_passPlan hc hk
  have hfails : ∀ e, (run ctx nodes before).outcome = .error e →
      ∃ l : Location, l.In (materializeAll ctx before nodes) ∧ Blocked before l ∧
        ∃ fault, before.fault? l.self.path = some fault ∧ e = .invalidPath l.self.path fault := by
    intro e he
    rw [outcome_run hs hc] at he
    cases hw : Value.writeAll (passPlan ctx before nodes).writes before with
    | ok v =>
      rw [hw] at he
      cases he
    | error e' =>
      rw [hw] at he
      obtain rfl : e' = e := Except.error.inj he
      obtain ⟨w, hmem, fault, hfault, rfl⟩ := Value.exists_fault?_of_writeAll hindep hw
      obtain ⟨l, hl, hpath, ho, hclears, hkept⟩ := exists_location_of_mem_writes hs hmem
      rw [hpath] at hfault ⊢
      rw [result_passPlan hs] at hl
      exact ⟨l, hl, ⟨ho, hclears, hkept, hfault ▸ rfl⟩, fault, hfault, rfl⟩
  refine ⟨⟨fun ⟨e, he⟩ => ?_, fun ⟨l, hl, hb⟩ => ?_⟩, hfails, fun outcome h => ?_⟩
  · obtain ⟨l, hl, hb, -⟩ := hfails e he
    exact ⟨l, hl, hb⟩
  · cases ho : (run ctx nodes before).outcome with
    | error e => exact ⟨e, rfl⟩
    | ok outcome =>
      have hw := ((run_eq_ok_iff hs hc).1 ho).1
      rw [← result_passPlan hs] at hl
      obtain ⟨w, hmem, hpath⟩ := hb.exists_write hs (plannedAt_of_in hl)
      have hfault := hb.fault
      rw [← hpath, Value.fault?_of_writeAll hindep hw hmem] at hfault
      cases hfault
  · rw [((run_eq_ok_iff hs hc).1 h).2.1, result_passPlan hs]

namespace PricedOrders

def context : Context := ⟨Registry.standard, Conditions.declarative, none⟩

/-- Below the price, and cleared when the whole is hidden. -/
def net : Node := { type := "number", key := some "price.net", hidden := true }

def note : Node := { type := "textfield", key := some "note.text" }

def orders : Node := { type := "editgrid", key := some "orders", components := [net, note] }

/-- One order, with a note that is no object. -/
def values (price : Value) : Value :=
  .obj [("orders", .arr [.obj [("note", .bool true), ("price", price)]])]

/-- The total of an order. -/
def total : Value := .obj [("net", .str "five")]

def netInstance : Instance :=
  { node := net, kind := some .leaf, path := "orders.0.price.net", hidden := true }

def noteInstance : Instance :=
  { node := note, kind := some .leaf, path := "orders.0.note.text", hidden := false }

def ordersInstance : Instance :=
  { node := orders, kind := some .repeater, path := "orders", hidden := false
    rows := [[netInstance, noteInstance]] }

theorem materializeAll_eq :
    materializeAll context (values (.str "five")) [orders] = [ordersInstance] ∧
      materializeAll context (values total) [orders] = [ordersInstance] := by
  decide +kernel

theorem net_blocked :
    Blocked (values (.str "five")) (.inRow (.top ordersInstance) 0 netInstance) where
  ownsValue := rfl
  clears := rfl
  notKept := rfl
  fault := by decide +kernel

/-- Nothing is in the way of a price that is an object, and nothing else is to be cleared. -/
theorem not_blocked {l : Location} (hl : l.In [ordersInstance]) : ¬ Blocked (values total) l := by
  intro hb
  have hmem : l.self ∈ [ordersInstance, netInstance, noteInstance] := hl.mem_flattenAll
  have hhidden : l.self.hidden = true := (Bool.and_eq_true_iff.1 hb.clears).1
  have hfault := hb.fault
  rcases List.mem_cons.1 hmem with hself | hmem
  · rw [hself] at hhidden
    cases hhidden
  rcases List.mem_cons.1 hmem with hself | hmem
  · have hfree : (values total).fault? netInstance.path = none := by decide +kernel
    rw [hself, hfree] at hfault
    cases hfault
  · rw [List.mem_singleton.1 hmem] at hhidden
    cases hhidden

end PricedOrders

open PricedOrders in
/-- A price that is a text is in the way of the net price below it. The note is a truth value where
an object should be, but it is shown. -/
theorem run_fails_iff_blocked_pricedOrders :
    (∃ e, (run context [orders] (values (.str "five"))).outcome = .error e) ∧
    ∀ e, (run context [orders] (values total)).outcome ≠ .error e := by
  have hc : Clean context [orders] := by decide
  have hk : context.Keyed [orders] := by decide
  have hnet : Location.In [ordersInstance] (.inRow (.top ordersInstance) 0 netInstance) :=
    .inRow (.top List.mem_cons_self) rfl List.mem_cons_self
  constructor
  · refine (run_fails_iff_blocked rfl hc hk _).1.2 ⟨_, ?_, net_blocked⟩
    rw [materializeAll_eq.1]
    exact hnet
  · intro e he
    obtain ⟨l, hl, hb⟩ := (run_fails_iff_blocked rfl hc hk _).1.1 ⟨e, he⟩
    rw [materializeAll_eq.2] at hl
    exact not_blocked hl hb

end Visibility
end FormLogic
