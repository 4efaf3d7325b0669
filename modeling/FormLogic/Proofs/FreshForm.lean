import FormLogic.Proofs.DecidableTrees
import FormLogic.Proofs.Fixpoint
import FormLogic.Proofs.InitialValues

/-!
# A fresh form is resolved

The initial value of a node with a standard type is what the type puts in place of a value
that is cleared. So a pass over the values of a fresh form finds nothing to change in it,
whatever the conditions hide, and a resolution is done after that pass.
-/
namespace FormLogic

open Visibility

section Initial

variable {ctx : Context} {nodes : List Node} {n o : Node}

theorem Context.initialOf_eq {t : NodeType} {default : Node → Value} (ht : ctx.typeOf n = some t)
    (hd : Resets t default) : ctx.initialOf n = default n := by
  by_cases hk : t.kind = .repeater
  · rw [initialOf_of_repeater ht hk, hd.of_repeater hk]
  · simp [initialOf, ht, hk, NodeType.initial, hd.default_eq]

theorem Context.within_of_mem_owners (hn : Node.Within nodes n) (h : o ∈ ctx.owners n) :
    Node.Within nodes o := by
  induction n using Node.induction with
  | step n ih =>
    rcases mem_owners h with ⟨rfl, -⟩ | ⟨-, c, hc, h⟩
    · exact hn
    · exact ih c hc (hn.child hc) h

theorem Context.everywhere_initialOf (hs : ctx.registry = Registry.standard) {p : Value → Bool}
    (hp : Value.TestsNumbers p) (hd : ∀ n ∈ nodes, n.defaultsPass p = true)
    (ho : o ∈ ctx.scope nodes) : (ctx.initialOf o).everywhere p = true := by
  obtain ⟨t, ht, hk⟩ := exists_typeOf_of_mem_scope ho
  obtain ⟨default, hdef⟩ := Context.resets_of_typeOf hs ht hk
  obtain ⟨n, hn, ho⟩ := List.mem_flatMap.1 ho
  rw [initialOf_eq ht hdef]
  exact hdef.everywhere hp o fun v hv =>
    (within_of_mem_owners (.top hn) ho).everywhere_default hd hv

/-- What holds of all initial values holds of the store that they are written to. -/
theorem everywhere_of_seedAll {p : Value → Bool} (hp : Value.TestsNumbers p) {left : List Node}
    (hleft : ∀ o ∈ left, (ctx.initialOf o).everywhere p = true) {store w : Value}
    (h : left.foldlM (ctx.seedOwn "") store = .ok w) (hstore : store.everywhere p = true) :
    w.everywhere p = true := by
  induction left generalizing store with
  | nil => exact Except.ok.inj h ▸ hstore
  | cons o rest ih =>
    rw [List.foldlM_cons] at h
    cases hm : ctx.seedOwn "" store o with
    | error e => rw [hm] at h; cases h
    | ok m =>
      rw [hm] at h
      have hw := Value.setOrError_eq_ok_iff.1 hm
      refine ih (fun n hn => hleft n (List.mem_cons_of_mem o hn)) h ?_
      exact Value.everywhere_write hp (hleft o List.mem_cons_self) hw hstore

end Initial

namespace Visibility

/-- A step succeeds and leaves the progress as it is. -/
def Stays {α : Type} (m : Pass α) (s : Progress) : Prop := ∃ a, Yields m s a s

section Stays

variable {α β : Type} {s : Progress}

theorem Stays.pure (a : α) : Stays (Pure.pure a) s := ⟨a, yields_pure_iff.2 ⟨rfl, rfl⟩⟩

theorem Stays.bind {m : Pass α} {f : α → Pass β} (hm : Stays m s) (hf : ∀ a, Stays (f a) s) :
    Stays (m >>= f) s := by
  obtain ⟨a, ha⟩ := hm
  obtain ⟨b, hb⟩ := hf a
  exact ⟨b, yields_bind_iff.2 ⟨a, s, ha, hb⟩⟩

theorem Stays.get_bind {f : Progress → Pass β} (hf : Stays (f s) s) : Stays (get >>= f) s := by
  obtain ⟨b, hb⟩ := hf
  exact ⟨b, yields_bind_iff.2 ⟨s, s, yields_get_iff.2 ⟨rfl, rfl⟩, hb⟩⟩

theorem Stays.note (d : Diagnostic) : Stays (StateT.lift (Noted.note d)) s := ⟨(), rfl⟩

theorem Stays.mapM {f : α → Pass β} {xs : List α} (h : ∀ x ∈ xs, Stays (f x) s) :
    Stays (xs.mapM f) s := by
  induction xs with
  | nil =>
    rw [List.mapM_nil]
    exact .pure []
  | cons x rest ih =>
    rw [List.mapM_cons]
    refine (h x List.mem_cons_self).bind fun y => ?_
    exact (ih fun z hz => h z (List.mem_cons_of_mem x hz)).bind fun ys => .pure (y :: ys)

end Stays

section Standing

variable {ctx : Context} {before : Value} {s : Progress}

theorem Stays.apply {t : NodeType} {default : Node → Value} (hd : Resets t default) {n : Node}
    {path : String} {state : HideState}
    (he : (s.values.get? path == some (default n)) = true) :
    Stays (Visibility.apply t n path state) s := by
  refine .get_bind ?_
  -- Only the default is ever written, and it is there already.
  simp only [hd.replacement?_eq]
  cases state.clear with
  | true => simpa only [if_true, he] using Stays.pure ()
  | false => exact .pure ()

theorem templateFault?_eq_none (hs : ctx.registry = Registry.standard) (n : Node) (path : String) :
    templateFault? ctx n path = none := by
  induction n using Node.induction generalizing path with
  | step n ih =>
    have hbelow : ∀ path, (n.children.map (templateFault? ctx)).findSome? (fun fault => fault path)
        = none := fun path => by
      rw [List.findSome?_map]
      exact List.findSome?_eq_none_iff.2 fun c hc => ih c hc path
    have howns : ctx.owns n = n.ownsSegment ((ctx.typeOf n).map (·.kind)) := rfl
    rw [templateFault?.eq_1, Node.recurse_eq, ← templateFault?.eq_1]
    simp only [← howns]
    cases ht : ctx.typeOf n with
    | none => exact hbelow _
    | some t =>
      dsimp only
      split
      · next hc =>
        rw [Bool.and_eq_true] at hc
        obtain ⟨t', ht', hk⟩ := Context.exists_typeOf_of_owns hc.1
        obtain rfl := Option.some.inj (ht.symm.trans ht')
        obtain ⟨default, hd⟩ := Context.resets_of_typeOf hs ht hk
        rw [hd.apply_eq] at hc
        cases hc.2
      · exact hbelow _

theorem Stays.checkTemplate (hs : ctx.registry = Registry.standard) (n : Node) (path : String) :
    Stays (Visibility.checkTemplate ctx n path) s := by
  have hf : (n.children.findSome? fun c => templateFault? ctx c path) = none :=
    List.findSome?_eq_none_iff.2 fun c _ => templateFault?_eq_none hs c path
  rw [Visibility.checkTemplate, hf]
  exact .pure ()

theorem Stays.rows {f : Nat → Pass (List Instance)} {path : String}
    {mk : List (List Instance) → Instance} (h : rowCount s.values path = 0) :
    Stays (do
      let progress ← get
      let rows ← (List.range (rowCount progress.values path)).mapM f
      return mk rows) s := by
  have hrange : ∀ j ∈ List.range (rowCount s.values path), Stays (f j) s := by
    rw [h]
    nofun
  exact .get_bind ((Stays.mapM hrange).bind fun rows => .pure (mk rows))

/-- All that a node brings into its scope has its initial value, seen from a path. -/
def AtInitial (ctx : Context) (values : Value) (base : String) (n : Node) : Prop :=
  ∀ o ∈ ctx.owners n, (values.get? (Path.join base o.ownKey) == some (ctx.initialOf o)) = true

section AtInitial

variable {n : Node} {values : Value} {place : Place}

theorem AtInitial.own (h : AtInitial ctx values place.base n) (ho : ctx.owns n = true) :
    (values.get? (place.pathOf ctx n) == some (ctx.initialOf n)) = true := by
  obtain ⟨key, hkey, -, hpath⟩ := place.exists_key ho
  have hn := h n (by rw [Context.owners_of_owns ho]; exact List.mem_cons_self)
  rwa [Node.ownKey_eq hkey, ← hpath] at hn

/-- The children of a container start from the path that the container starts from. -/
theorem AtInitial.child (h : AtInitial ctx values place.base n)
    (hk : (ctx.kindOf n).map Kind.ownsPath ≠ some true) {c : Node} (hc : c ∈ n.children) :
    AtInitial ctx values (place.inside (place.pathOf ctx n)).base c := by
  intro o ho
  rw [place.base_inside (owns_of_container hk)]
  refine h o ?_
  rw [Context.owners_of_container hk]
  exact Context.mem_scope_of_mem hc ho

end AtInitial

/-- A visit changes nothing where all that the node owns has its initial value. -/
theorem Stays.visit (hs : ctx.registry = Registry.standard) (n : Node) :
    ∀ {place : Place} {inherited : HideState}, AtInitial ctx s.values place.base n →
      Stays (Visibility.visit ctx before n place inherited) s := by
  induction n using Node.induction with
  | step n ih =>
    intro place inherited h
    have hkind : ctx.kindOf n = (ctx.typeOf n).map (·.kind) := rfl
    have howns : ctx.owns n = n.ownsSegment (ctx.kindOf n) := rfl
    have hpath : place.pathOf ctx n = n.pathBelow place.parent (ctx.kindOf n) place.index := rfl
    have hchildren : (ctx.kindOf n).map Kind.ownsPath ≠ some true → ∀ state,
        Stays (n.children.mapM fun c =>
          Visibility.visit ctx before c (place.inside (place.pathOf ctx n)) state) s :=
      fun hk state => .mapM fun c hc => ih c hc (h.child hk hc)
    rw [visit.eq_1, Node.recurse_eq, ← visit.eq_1]
    simp only [List.mapM_map, ← hkind, ← howns, ← hpath]
    cases ht : ctx.typeOf n with
    | none =>
      have hk : (ctx.kindOf n).map Kind.ownsPath ≠ some true := by simp [hkind, ht]
      exact (Stays.note _).bind fun _ => (hchildren hk _).bind fun _ => .pure _
    | some t =>
      have hkt := Context.kindOf_of_typeOf ht
      cases htk : t.kind with
      | leaf =>
        obtain ⟨default, hd⟩ := Context.resets_of_typeOf hs ht (by rw [htk]; rfl)
        simp only [htk]
        split
        · next hc =>
          rw [Bool.and_eq_true] at hc
          have hinitial := h.own hc.1
          rw [Context.initialOf_eq ht hd] at hinitial
          exact (Stays.apply hd hinitial).bind fun _ => .pure _
        · exact .pure _
      | repeater =>
        obtain ⟨default, hd⟩ := Context.resets_of_typeOf hs ht (by rw [htk]; rfl)
        simp only [htk]
        split
        · next ho =>
          have hinitial := h.own ho
          -- The list is empty, and so there are no rows to visit.
          have hrows : rowCount s.values (place.pathOf ctx n) = 0 := by
            rw [Context.initialOf_of_repeater ht htk] at hinitial
            exact rowCount_of_nil (get?_eq_nil_of_beq hinitial)
          rw [Context.initialOf_eq ht hd] at hinitial
          refine (Stays.checkTemplate hs n _).bind fun _ => ?_
          split
          · exact (Stays.apply hd hinitial).bind fun _ => .rows hrows
          · exact .rows hrows
        · exact .pure _
      | group | layout =>
        have hk : (ctx.kindOf n).map Kind.ownsPath ≠ some true := by simp [hkt, htk, Kind.ownsPath]
        simp only [htk]
        exact (hchildren hk _).bind fun _ => .pure _

end Standing

/-- A pass over values that have the initial value of every node of the top-level scope leaves them
as they are. -/
theorem run_of_initial {ctx : Context} (hs : ctx.registry = Registry.standard) {nodes : List Node}
    {values : Value}
    (h : ∀ o ∈ ctx.scope nodes, (values.get? o.ownKey == some (ctx.initialOf o)) = true) :
    ∃ tree, (run ctx nodes values).outcome = .ok ⟨values, tree, []⟩ := by
  have hvisits : Stays (nodes.mapM fun n => visit ctx values n {} {}) ⟨values, []⟩ :=
    .mapM fun n hn => .visit hs n fun o ho => h o (Context.mem_scope_of_mem hn ho)
  obtain ⟨tree, htree⟩ := hvisits
  exact ⟨tree, Noted.outcome_bind_eq_ok.2 ⟨(tree, ⟨values, []⟩), htree, rfl⟩⟩

end Visibility

namespace Engine

/-- The initial values of a form of standard types are resolved: a pass leaves them as they are and
clears nothing, whatever is hidden, and a resolution ends with that pass. -/
theorem resolve_fresh {engine : Engine} (hs : engine.context.registry = Registry.standard)
    (hc : CleanScope engine.context engine.schema.components)
    (hd : ∀ n ∈ engine.schema.components, n.finiteDefaults = true) :
    ∃ store tree, engine.initialValues.outcome = .ok store ∧
      (engine.resolveOnce store).outcome = .ok ⟨store, tree, []⟩ ∧
      ∀ validators, (validatorsOf engine.context tree).outcome = .ok validators →
        (engine.resolve store).outcome = .ok
          { values := store, tree, cleared := [], passes := 1, converged := true, validators
            missing := missingFields engine.context tree store } := by
  obtain ⟨store, hstore, hholds⟩ := exists_initialValues hc
  have hfinite : ∀ o ∈ engine.context.scope engine.schema.components,
      (engine.context.initialOf o).isFinite = true := fun o ho =>
    Context.everywhere_initialOf hs Value.testsNumbers_finiteNumber hd ho
  obtain ⟨tree, hrun⟩ := run_of_initial hs fun o ho => by
    rw [hholds.get?_ownKey ho]
    exact Value.beq_self_of_isFinite (hfinite o ho)
  refine ⟨store, tree, hstore, hrun, fun validators hvalidators => ?_⟩
  have hsame : (store == store) = true := by
    rw [outcome_initialValues] at hstore
    refine Value.beq_self_of_isFinite ?_
    exact everywhere_of_seedAll Value.testsNumbers_finiteNumber hfinite hstore (by decide)
  exact resolve_of_beq hrun hsame hvalidators

namespace Invitation

def coming : Node := { type := "checkbox", key := some "coming" }

def meal : Node :=
  { type := "textfield", key := some "stay.meal", defaultValue := some (.str "any") }

/-- A list with a declared default, which is not used. -/
def guests : Node :=
  { type := "datagrid", key := some "stay.guests", defaultValue := some (.arr [.empty]) }

/-- Hidden as long as nobody is coming. -/
def stay : Node :=
  ({ type := "panel", components := [meal, guests] } : Node).withConditional true "coming"
    (.bool true)

def engine : Engine where
  schema := ⟨[coming, stay]⟩
  context := ⟨Registry.standard, Conditions.declarative, none⟩
  maxPasses := 2
  maxPasses_pos := Nat.two_pos

def store : Value :=
  .obj [("coming", .bool false), ("stay", .obj [("guests", .arr []), ("meal", .str "any")])]

def mealInstance : Instance :=
  { node := meal, kind := some .leaf, path := "stay.meal", hidden := true }

def guestsInstance : Instance :=
  { node := guests, kind := some .repeater, path := "stay.guests", hidden := true }

def tree : List Instance := [
  { node := coming, kind := some .leaf, path := "coming", hidden := false },
  { node := stay, kind := some .group, path := "", hidden := true
    children := [mealInstance, guestsInstance] }]

theorem initialValues_eq : engine.initialValues.outcome = .ok store := by decide +kernel

theorem resolveOnce_eq : (engine.resolveOnce store).outcome = .ok ⟨store, tree, []⟩ := by
  decide +kernel

theorem exists_validators : ∃ validators,
    (validatorsOf engine.context tree).outcome = .ok validators ∧
      validators.map (·.1) = ["coming"] :=
  Noted.exists_of_toOption (validatorsOf engine.context tree) (fun v => v.map (·.1))
    (by decide +kernel)

end Invitation

open Invitation in
/-- Two answers are hidden and keep their defaults, a text and a list without rows. -/
theorem resolve_fresh_invitation : ∃ r, (engine.resolve store).outcome = .ok r ∧
    r.values = store ∧ r.cleared = [] ∧ r.passes = 1 ∧ r.converged = true := by
  obtain ⟨s, t, hs, hrun, hresolve⟩ := @resolve_fresh engine rfl (by decide) (by decide)
  obtain rfl := Except.ok.inj (hs.symm.trans initialValues_eq)
  obtain rfl := (Outcome.mk.inj (Except.ok.inj (hrun.symm.trans resolveOnce_eq))).2.1
  obtain ⟨validators, hvalidators, -⟩ := exists_validators
  exact ⟨_, hresolve validators hvalidators, rfl, rfl, rfl, rfl⟩

end Engine
end FormLogic
