import FormLogic.Proofs.AddressablePaths
import FormLogic.Proofs.DecidableTrees
import FormLogic.Proofs.UndeclaredDefaults
import FormLogic.Proofs.UnrefinedValidators

/-!
# What a validation of a fresh form finds

A fresh form in which no default is declared holds what its types start with, and has no
rows. The first pass leaves it so, and every shown value is then judged at the default of
its type: it is flagged when it is required, and warned of when it is only asked for.
-/
namespace FormLogic

open FormLogic.Path (segments)
open Visibility

/-- No default is declared at or below a node. -/
def Node.declaresNone : Node → Bool :=
  Node.recurse fun n below => n.defaultValue.isNone && below.all id

theorem Node.declaresNone_iff (n : Node) : n.declaresNone = true ↔
    n.defaultValue = none ∧ ∀ c ∈ n.children, c.declaresNone = true := by
  rw [declaresNone, Node.recurse_eq, ← declaresNone, List.all_map]
  simp

theorem Node.Within.defaultValue_eq_none {nodes : List Node}
    (hd : ∀ n ∈ nodes, n.declaresNone = true) {n : Node} (h : Within nodes n) :
    n.defaultValue = none :=
  ((declaresNone_iff n).1 (h.of_forall hd fun m hm => ((declaresNone_iff m).1 hm).2)).1

theorem Node.defaultsPass_of_declaresNone (p : Value → Bool) {n : Node}
    (h : n.declaresNone = true) : n.defaultsPass p = true := by
  induction n using Node.induction with
  | step n ih =>
    obtain ⟨hn, hc⟩ := (declaresNone_iff n).1 h
    rw [defaultsPass_eq, hn, Bool.and_eq_true]
    exact ⟨rfl, List.all_eq_true.2 fun c hm => ih c hm (hc c hm)⟩

namespace Visibility

section Fresh

variable {ctx : Context} {nodes : List Node} {store : Value} {outcome : Outcome} {l : Location}

/-- Every value that a pass over a fresh form meets is the initial value of its node. -/
theorem get?_of_fresh (hs : ctx.registry = Registry.standard) (hc : Clean ctx nodes)
    (hholds : Holds ((ctx.scope nodes).map ctx.entryOf) store)
    (h : (run ctx nodes store).outcome = .ok outcome) (hl : l.In outcome.tree)
    (ho : l.self.ownsValue = true) :
    store.get? l.self.path = some (ctx.initialOf l.self.node) := by
  have houtside : l.rowPath? = none := by
    refine outside_of_empty_lists hc (Context.keepsEmptyLists_of_standard hs) ?_ h hl
    intro o ho key hkey hk
    obtain ⟨t, ht, hk⟩ := Option.map_eq_some_iff.1 hk
    rw [← Node.ownKey_eq hkey, hholds.get?_ownKey ho, Context.initialOf_of_repeater ht hk]
  obtain ⟨hmem, hkey⟩ := owner_of_outside h hl houtside ho
  rw [← Node.ownKey_eq hkey]
  exact hholds.get?_ownKey hmem

theorem rows_fit_of_fresh (hs : ctx.registry = Registry.standard) (hc : Clean ctx nodes)
    (hholds : Holds ((ctx.scope nodes).map ctx.entryOf) store)
    (h : (run ctx nodes store).outcome = .ok outcome) (hl : l.In outcome.tree) :
    l.self.rows.length ≤ Literal.wordMax := by
  refine rows_fit hs hc h (fun l hl ho hk => ?_) hl
  obtain ⟨_, _, va⟩ := exists_visitAt hs hc h hl
  rw [va.kind_eq] at hk
  obtain ⟨t, ht, htk⟩ := Option.map_eq_some_iff.1 hk
  have hnil := get?_of_fresh hs hc hholds h hl ho
  rw [Context.initialOf_of_repeater ht htk] at hnil
  rw [rowCount_of_nil hnil]
  exact Nat.zero_le _

/-- The validator of every shown instance of a fresh form flags it. -/
theorem flags_of_fresh (hs : ctx.registry = Registry.standard) (hc : Clean ctx nodes)
    (hd : ∀ n ∈ nodes, n.declaresNone = true)
    (hholds : Holds ((ctx.scope nodes).map ctx.entryOf) store)
    (h : (run ctx nodes store).outcome = .ok outcome) {o : Instance}
    (ho : o ∈ shownOwners outcome.tree) {v : Validator}
    (hv : (Instance.ownValidator ctx o.node).outcome = .ok (some v)) :
    Flags o.node.validate o.path (o.ownIssues ctx store) := by
  obtain ⟨hmem, hshown⟩ := List.mem_filter.1 ho
  obtain ⟨howns, -⟩ := Bool.and_eq_true_iff.1 hshown
  obtain ⟨l, hl, rfl⟩ := Location.mem_flattenAll_iff.1 hmem
  obtain ⟨_, _, va⟩ := exists_visitAt hs hc h hl
  have hwithin : Node.Within nodes l.self.node :=
    node_of_in hs hc h (fun _ hn => .top hn) (fun _ hn _ hc => hn.child hc) hl
  rw [Instance.ownIssues_eq hv, get?_of_fresh hs hc hholds h hl howns]
  exact flags_initialOf hs (va.owns_node howns)
    (hwithin.defaultValue_eq_none hd) hv l.self.path

end Fresh

end Visibility

namespace Engine

section Fresh

variable {engine : Engine}

/-- The first pass over a fresh form leaves its values as they are, and so it is the last. -/
theorem exists_fresh_pass (hs : engine.context.registry = Registry.standard)
    (hc : CleanScope engine.context engine.schema.components)
    (hd : ∀ n ∈ engine.schema.components, n.declaresNone = true) {store : Value}
    (hi : engine.initialValues.outcome = .ok store) :
    Holds ((engine.context.scope engine.schema.components).map engine.context.entryOf) store ∧
      (store == store) = true ∧
      ∃ tree, (engine.resolveOnce store).outcome = .ok ⟨store, tree, []⟩ := by
  obtain ⟨w, hw, hholds⟩ := exists_initialValues hc
  obtain rfl := Except.ok.inj (hw.symm.trans hi)
  have hfinite : ∀ o ∈ engine.context.scope engine.schema.components,
      (engine.context.initialOf o).isFinite = true := fun o ho =>
    Context.everywhere_initialOf hs Value.testsNumbers_finiteNumber
      (fun n hn => Node.defaultsPass_of_declaresNone _ (hd n hn)) ho
  refine ⟨hholds, ?_, run_of_initial hs fun o ho => ?_⟩
  · rw [outcome_initialValues] at hw
    refine Value.beq_self_of_isFinite ?_
    exact everywhere_of_seedAll Value.testsNumbers_finiteNumber hfinite hw (by decide)
  · rw [hholds.get?_ownKey ho]
    exact Value.beq_self_of_isFinite (hfinite o ho)

/-- A validation of a fresh form in which no default is declared finds an error at exactly the paths
of the shown values that are required, and a warning at exactly those that are asked for and not
required. For every node with a value, shown or not, its validator finds so much in the initial
value and in what clearing puts in place of another. -/
theorem validate_fresh (hs : engine.context.registry = Registry.standard)
    (hn : engine.context.collaborator = none)
    (hc : Clean engine.context engine.schema.components)
    (hd : ∀ n ∈ engine.schema.components, n.declaresNone = true) {store : Value}
    (hi : engine.initialValues.outcome = .ok store) {r : Resolution} {report : ValidationReport}
    (h : (engine.validate store).outcome = .ok (r, report)) :
    (∀ p, (∃ i ∈ report.issues, i.path = p ∧ i.isError = true) ↔
      ∃ o ∈ shownOwners r.tree, o.path = p ∧ o.node.validate.required = true) ∧
    (∀ p, (∃ i ∈ report.issues, i.path = p ∧ i.isError = false) ↔
      ∃ o ∈ shownOwners r.tree, o.path = p ∧ o.node.validate.required = false ∧
        o.node.validate.softRequired = true) ∧
    ∀ n t v, Node.Within engine.schema.components n → engine.context.owns n = true →
      engine.context.typeOf n = some t →
      (Instance.ownValidator engine.context n).outcome = .ok (some v) →
      ∀ x, (x = t.initial n ∨ ∃ state current, t.replacement? n state current = some x) →
        ∀ path, Flags n.validate path (v.check path (some x)) := by
  obtain ⟨r', hr, h⟩ := Noted.outcome_bind_eq_ok.1 h
  obtain ⟨rfl, rfl⟩ := Prod.mk.inj (Noted.outcome_pure_eq_ok.1 h)
  obtain ⟨settled, hsettled, hr⟩ := Noted.outcome_bind_eq_ok.1 hr
  obtain ⟨m, hm, hr⟩ := Noted.outcome_bind_eq_ok.1 hr
  obtain rfl := Noted.outcome_pure_eq_ok.1 hr
  obtain ⟨hholds, hsame, tree, hrun⟩ := exists_fresh_pass hs hc.scope hd hi
  obtain rfl := Except.ok.inj ((settleFrom_of_beq hrun hsame).symm.trans hsettled)
  -- Without plugin checks the issues are those of the shown owners.
  have hcovers := covers_of_pass hs hc hrun (fun l hl => rows_fit_of_fresh hs hc hholds hrun hl) hm
  have hissues : (m.validate store).issues =
      (shownOwners tree).flatMap (Instance.ownIssues engine.context store) :=
    (ValidatorMap.issues_eq_checkAll (unrefined_validatorsOf hs hn hm) store).trans
      hcovers.issues_eq
  have hflags : ∀ o ∈ shownOwners tree,
      Flags o.node.validate o.path (o.ownIssues engine.context store) := fun o ho => by
    obtain ⟨v, hv, -⟩ := hcovers.built o ho
    exact flags_of_fresh hs hc hd hholds hrun ho hv
  refine ⟨fun p => ?_, fun p => ?_, fun n t v hwithin ho ht hv x hx path => ?_⟩
  · rw [hissues]
    exact (Flags.flatMap hflags p).1
  · rw [hissues]
    exact (Flags.flatMap hflags p).2
  · have hinitial : x = engine.context.initialOf n := by
      obtain ⟨t', ht', hk⟩ := Context.exists_typeOf_of_owns ho
      obtain rfl := Option.some.inj (ht.symm.trans ht')
      rcases hx with rfl | ⟨state, current, hx⟩
      · exact (Context.initialOf_eq_initial hs ht hk).symm
      · exact replacement?_eq_initialOf hs ho ht hx
    rw [hinitial]
    exact flags_initialOf hs ho (hwithin.defaultValue_eq_none hd) hv path

end Fresh

namespace Excursion

def consent : Node :=
  { type := "checkbox", key := some "consent", validate := { required := true } }

/-- Two days, neither chosen at first. -/
def days : Node :=
  { type := "selectboxes", key := some "days", validate := { softRequired := true }
    extra := [("values", .arr [.obj [("value", .str "friday")], .obj [("value", .str "monday")]])] }

/-- Required, and hidden without a consent. -/
def meal : Node :=
  ({ type := "textfield", key := some "meal", validate := { required := true } }
    : Node).withConditional true "consent" (.bool true)

def engine : Engine where
  schema := ⟨[consent, days, meal]⟩
  context := ⟨Registry.standard, Conditions.declarative, none⟩
  maxPasses := 1
  maxPasses_pos := Nat.one_pos

def store : Value := .obj [("consent", .bool false),
  ("days", .obj [("friday", .bool false), ("monday", .bool false)]), ("meal", .str "")]

theorem initialValues_eq : engine.initialValues.outcome = .ok store := by decide +kernel

/-- The path of an instance, with what its node asks for. -/
def demanded (o : Instance) : String × Bool × Bool :=
  (o.path, o.node.validate.required, o.node.validate.softRequired)

theorem exists_validation : ∃ r report, (engine.validate store).outcome = .ok (r, report) ∧
    (shownOwners r.tree).map demanded = [("consent", true, false), ("days", false, true)] := by
  obtain ⟨p, hp, hshown⟩ := Noted.exists_of_toOption (engine.validate store)
    (fun p => (shownOwners p.1.tree).map demanded)
    (b := [("consent", true, false), ("days", false, true)]) (by decide)
  exact ⟨p.1, p.2, hp, hshown⟩

end Excursion

open Excursion in
/-- The consent is an error and the days are a warning, though neither is blank; the meal, which is
hidden, is neither. -/
theorem validate_fresh_excursion :
    ∃ r report, (engine.validate store).outcome = .ok (r, report) ∧
      (∃ i ∈ report.issues, i.path = "consent" ∧ i.isError = true) ∧
      (∃ i ∈ report.issues, i.path = "days" ∧ i.isError = false) ∧
      ¬ ∃ i ∈ report.issues, i.path = "meal" ∧ i.isError = true := by
  obtain ⟨r, report, h, hshown⟩ := exists_validation
  obtain ⟨herror, hwarning, -⟩ :=
    validate_fresh rfl rfl (by decide) (by decide) initialValues_eq h
  have hmem : ∀ {e}, e ∈ (shownOwners r.tree).map demanded ↔
      e ∈ [("consent", true, false), ("days", false, true)] := by
    rw [hshown]
  refine ⟨r, report, h, (herror "consent").2 ?_, (hwarning "days").2 ?_,
    fun hmeal => ?_⟩
  · obtain ⟨o, ho, he⟩ := List.mem_map.1 (hmem.2 List.mem_cons_self)
    obtain ⟨hp, hr, -⟩ := And.imp_right Prod.mk.inj (Prod.mk.inj he)
    exact ⟨o, ho, hp, hr⟩
  · obtain ⟨o, ho, he⟩ := List.mem_map.1 (hmem.2 (List.mem_cons_of_mem _ List.mem_cons_self))
    obtain ⟨hp, hr, hs⟩ := And.imp_right Prod.mk.inj (Prod.mk.inj he)
    exact ⟨o, ho, hp, hr, hs⟩
  · obtain ⟨o, ho, hp, -⟩ := (herror "meal").1 hmeal
    have hlisted := hmem.1 (List.mem_map_of_mem ho)
    simp [demanded, hp] at hlisted

end Engine
end FormLogic
