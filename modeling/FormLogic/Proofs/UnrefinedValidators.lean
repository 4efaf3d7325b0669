import FormLogic.Proofs.FlatValidation
import Mathlib.Data.List.Basic

/-!
# Validators without refinements

The only refinements of standard types are plugin checks, which a collaborator runs.
Without one the validators of a tree have no refinements, in no row of a repeater, and
validating comes to checking.
-/
namespace FormLogic

namespace Validator

/-- No refinement of a validator or of one in its rows is ever due. -/
def Unrefined (v : Validator) : Prop := ∀ path value, v.due path value = []

theorem due_eq (v : Validator) (path : String) (value : Option Value) :
    v.due path value = match Value.filled? value with
      | none => []
      | some x => if (v.ownErrors path x).isEmpty then
          (v.refinement.map fun refinement => Due.mk path x refinement).toList
            ++ dueOfRules path x v.rules
        else [] := by
  obtain ⟨label, isOptional, isSoftRequired, rules, refinement, message, emptyWhen⟩ := v
  unfold due
  rfl

theorem unrefined_of_rules {v : Validator} (hn : v.refinement = none)
    (h : ∀ path x, dueOfRules path x v.rules = []) : v.Unrefined := by
  intro path value
  rw [due_eq]
  cases Value.filled? value with
  | none => rfl
  | some x =>
    simp only [hn, h]
    split <;> rfl

theorem dueOfRules_append {rules : List Rule} (h : FlatRules rules) (path : String) (x : Value)
    (more : List Rule) : dueOfRules path x (rules ++ more) = dueOfRules path x more :=
  h.walk_append (fun hr => by rw [dueOfRules]; exact hr) more

theorem dueOfRow_eq_nil {m : ValidatorMap} (h : ∀ e ∈ m, e.2.Unrefined) (base : String)
    (row : Value) : dueOfRow base row m = [] := by
  induction m with
  | nil => rfl
  | cons e rest ih =>
    obtain ⟨rel, v⟩ := e
    rw [dueOfRow, ih fun e he => h e (List.mem_cons_of_mem _ he), List.append_nil]
    exact h (rel, v) List.mem_cons_self _ _

theorem dueOfRows_eq_nil {maps : List ValidatorMap} (h : ∀ m ∈ maps, ∀ e ∈ m, e.2.Unrefined)
    (path : String) (index : Nat) (items : List Value) : dueOfRows path index items maps = [] := by
  induction maps generalizing index items with
  | nil => rw [dueOfRows]
  | cons m rest ih =>
    cases items with
    | nil => rw [dueOfRows]
    | cons row items =>
      rw [dueOfRows, dueOfRow_eq_nil (h m List.mem_cons_self),
        ih (fun m hm => h m (List.mem_cons_of_mem _ hm))]
      rfl

theorem Unrefined.of_flat {v : Validator} (hn : v.refinement = none) (hf : FlatRules v.rules) :
    v.Unrefined := by
  refine unrefined_of_rules hn fun path x => ?_
  rw [← List.append_nil v.rules, dueOfRules_append hf, dueOfRules]

theorem Unrefined.and_rows {v : Validator} (hn : v.refinement = none) (hf : FlatRules v.rules)
    {maps : List ValidatorMap} (h : ∀ m ∈ maps, ∀ e ∈ m, e.2.Unrefined) :
    (v.and (.rows maps)).Unrefined := by
  refine unrefined_of_rules hn fun path x => ?_
  change dueOfRules path x (v.rules ++ [.rows maps]) = []
  rw [dueOfRules_append hf]
  cases x with
  | arr items => exact dueOfRows_eq_nil h path 0 items
  | null | bool _ | num _ | str _ | obj _ => rfl

end Validator

/-- Without refinements a map of validators only checks. -/
theorem ValidatorMap.issues_eq_checkAll {m : ValidatorMap} (h : ∀ e ∈ m, e.2.Unrefined)
    (values : Value) : (m.validate values).issues = m.checkAll values := by
  have hresult : ∀ e ∈ m, (e.2.validate e.1 (values.get? e.1)).issues =
      e.2.check e.1 (values.get? e.1) := fun e he => by
    rw [Validator.validate, h e he, List.filterMap_nil, List.append_nil]
  rw [validate, ValidationReport.issues, checkAll, List.flatMap_map]
  exact List.flatMap_congr hresult

theorem ValidatorMap.mem_insert {path : String} {v : Validator} {m : ValidatorMap}
    {e : String × Validator} (h : e ∈ m.insert path v) : e = (path, v) ∨ e ∈ m := by
  induction m with
  | nil => exact Or.inl (List.mem_singleton.1 h)
  | cons entry rest ih =>
    obtain ⟨p, w⟩ := entry
    rw [insert] at h
    split at h
    · next hp =>
      rcases List.mem_cons.1 h with rfl | h
      · exact Or.inl (by rw [hp])
      · exact Or.inr (List.mem_cons_of_mem _ h)
    · rcases List.mem_cons.1 h with rfl | h
      · exact Or.inr List.mem_cons_self
      · exact (ih h).imp_right (List.mem_cons_of_mem _)

namespace Instance

section Unrefined

variable {ctx : Context} {base : String} {entered m : ValidatorMap}

theorem unrefined_ownValidator (hs : ctx.registry = Registry.standard)
    (hn : ctx.collaborator = none) {n : Node} {v : Validator}
    (h : (ownValidator ctx n).outcome = .ok (some v)) :
    v.refinement = none ∧ FlatRules v.rules := by
  cases ht : ctx.typeOf n with
  | none =>
    rw [ownValidator, ht] at h
    cases h
  | some t =>
    cases hk : t.kind.ownsPath with
    | false =>
      -- Groups and layouts have no validators.
      have hnone : t.validator = none := by
        rw [Context.typeOf, hs] at ht
        rcases standard_cases ht with
          rfl | rfl | rfl | rfl | rfl | rfl | rfl | rfl | rfl | rfl | rfl <;> first | rfl | cases hk
      simp only [ownValidator, ht, hnone] at h
      cases h
    | true =>
      obtain ⟨isEmpty, rules, hj⟩ := Context.judges_of_typeOf hs ht hk
      obtain ⟨w, hw, hvalid⟩ := exists_validator ht hj h
      obtain rfl := Option.some.inj hw
      refine ⟨?_, hj.flat hvalid.rules⟩
      simp only [ownValidator, ht, hj.validator_eq, hn] at h
      obtain ⟨u, hu, h⟩ := Noted.outcome_bind_eq_ok.1 h
      obtain ⟨emptyWhen, he⟩ := t.exists_withEmptiness n u
      rw [← Option.some.inj (Noted.outcome_pure_eq_ok.1 h), he]
      change u.refinement = none
      obtain ⟨base, hbase, hu⟩ := Noted.outcome_bind_eq_ok.1 hu
      obtain ⟨rs, -, hu⟩ := Noted.outcome_bind_eq_ok.1 hu
      obtain rfl := Noted.outcome_pure_eq_ok.1 hu
      obtain ⟨refinement, hrefinement, hbase⟩ := Noted.outcome_bind_eq_ok.1 hbase
      obtain rfl := Noted.outcome_pure_eq_ok.1 hbase
      simp only [Standard.pluginRefinement] at hrefinement
      split at hrefinement
      · exact (Noted.outcome_pure_eq_ok.1 hrefinement).symm
      · obtain ⟨-, -, hrefinement⟩ := Noted.outcome_bind_eq_ok.1 hrefinement
        exact (Noted.outcome_pure_eq_ok.1 hrefinement).symm

/-- Entering an instance keeps a map free of refinements. -/
def EntersUnrefined (ctx : Context) (i : Instance) : Prop :=
  ∀ {base : String} {entered m : ValidatorMap}, (i.enter ctx base entered).outcome = .ok m →
    (∀ e ∈ entered, e.2.Unrefined) → ∀ e ∈ m, e.2.Unrefined

theorem unrefined_enterAll {is : List Instance} (h : ∀ i ∈ is, EntersUnrefined ctx i)
    (hm : (enterAll ctx base is entered).outcome = .ok m) (he : ∀ e ∈ entered, e.2.Unrefined) :
    ∀ e ∈ m, e.2.Unrefined := by
  induction is generalizing entered with
  | nil =>
    rw [enterAll] at hm
    exact Noted.outcome_pure_eq_ok.1 hm ▸ he
  | cons i rest ih =>
    rw [enterAll] at hm
    obtain ⟨m', hm', hm⟩ := Noted.outcome_bind_eq_ok.1 hm
    exact ih (fun j hj => h j (List.mem_cons_of_mem i hj)) hm (h i List.mem_cons_self hm' he)

theorem unrefined_enterRows {rows : List (List Instance)}
    (h : ∀ row ∈ rows, ∀ i ∈ row, EntersUnrefined ctx i) {path : String} {index : Nat}
    {maps : List ValidatorMap} (hm : (enterRows ctx path index rows).outcome = .ok maps) :
    ∀ m ∈ maps, ∀ e ∈ m, e.2.Unrefined := by
  induction rows generalizing index maps with
  | nil =>
    rw [enterRows] at hm
    obtain rfl := Noted.outcome_pure_eq_ok.1 hm
    exact List.forall_mem_nil _
  | cons row rest ih =>
    rw [enterRows] at hm
    obtain ⟨first, hfirst, hm⟩ := Noted.outcome_bind_eq_ok.1 hm
    obtain ⟨more, hmore, hm⟩ := Noted.outcome_bind_eq_ok.1 hm
    obtain rfl := Noted.outcome_pure_eq_ok.1 hm
    refine List.forall_mem_cons.2 ⟨?_, ih (fun r hr => h r (List.mem_cons_of_mem row hr)) hmore⟩
    exact unrefined_enterAll (h row List.mem_cons_self) hfirst (by simp)

theorem entersUnrefined (hs : ctx.registry = Registry.standard) (hn : ctx.collaborator = none)
    (i : Instance) : EntersUnrefined ctx i := by
  induction i using Instance.induction with
  | step i ihChildren ihRows =>
    intro base entered m hm he
    have hinsert : ∀ {path : String} {v : Validator}, v.Unrefined →
        ∀ e ∈ entered.insert path v, e.2.Unrefined := fun hv e hmem => by
      rcases ValidatorMap.mem_insert hmem with rfl | hmem
      · exact hv
      · exact he e hmem
    rcases i.cases_shown with hh | ⟨hh, hk | hk | hk⟩
    · rw [enter_of_hidden hh] at hm
      exact Noted.outcome_pure_eq_ok.1 hm ▸ he
    · rw [enter_of_leaf hh hk] at hm
      split at hm
      · obtain ⟨v?, hv, hm⟩ := Noted.outcome_bind_eq_ok.1 hm
        cases v? with
        | none => exact Noted.outcome_pure_eq_ok.1 hm ▸ he
        | some v =>
          obtain ⟨href, hflat⟩ := unrefined_ownValidator hs hn hv
          exact Noted.outcome_pure_eq_ok.1 hm ▸ hinsert (.of_flat href hflat)
      · exact Noted.outcome_pure_eq_ok.1 hm ▸ he
    · rw [enter_of_repeater hh hk] at hm
      split at hm
      · obtain ⟨v?, hv, hm⟩ := Noted.outcome_bind_eq_ok.1 hm
        obtain ⟨maps, hmaps, hm⟩ := Noted.outcome_bind_eq_ok.1 hm
        have hrows := unrefined_enterRows ihRows hmaps
        rw [← Noted.outcome_pure_eq_ok.1 hm]
        cases v? with
        | none => exact hinsert (.and_rows rfl FlatRules.nil hrows)
        | some v =>
          obtain ⟨href, hflat⟩ := unrefined_ownValidator hs hn hv
          exact hinsert (.and_rows href hflat hrows)
      · exact Noted.outcome_pure_eq_ok.1 hm ▸ he
    · rw [enter_of_container hh hk] at hm
      exact unrefined_enterAll ihChildren hm he

end Unrefined

end Instance

/-- Without a collaborator the validators of a tree of standard types have no refinements. -/
theorem unrefined_validatorsOf {ctx : Context} (hs : ctx.registry = Registry.standard)
    (hn : ctx.collaborator = none) {tree : List Instance} {m : ValidatorMap}
    (h : (validatorsOf ctx tree).outcome = .ok m) : ∀ e ∈ m, e.2.Unrefined :=
  Instance.unrefined_enterAll (fun i _ => Instance.entersUnrefined hs hn i) h (by simp)

end FormLogic
