import FormLogic.Proofs.ComposedChecks
import FormLogic.Proofs.FreshForm
import FormLogic.Proofs.SortedFields

/-!
# Defaults that are not declared

A default that is not declared counts as not filled in, whatever the type: most are blank,
and the flags of checkboxes and options are not set. So the validator of a type finds an
error in such a default when a value is required, a warning when one is only asked for, and
nothing otherwise. This is the value of a fresh form and what clearing leaves behind.
-/
namespace FormLogic

open Visibility

/-- An object of options starts with none of them checked. -/
theorem anyChecked_options (n : Node) : (Standard.options n).anyChecked = false := by
  -- The entries put so far are not set, and another one is put that is not.
  suffices h : ∀ (names : List String) (fields : Fields), (∀ e ∈ fields, e.2.isTrue = false) →
      ∀ e ∈ names.foldl (fun fields name => Fields.put name (.bool false) fields) fields,
        e.2.isTrue = false by
    rw [Standard.options, Fields.ofEntries, List.foldl_map]
    simpa [Value.anyChecked] using h _ [] (by simp)
  intro names
  induction names with
  | nil => exact fun _ h => h
  | cons name rest ih =>
    refine fun fields h => ih _ fun e he => ?_
    rcases Fields.mem_put he with rfl | he
    · rfl
    · exact h e he

section Undeclared

variable {tag : String} {t : NodeType} {n : Node}

theorem declaredOr_of_none (hd : n.defaultValue = none) (otherwise : Node → Value) :
    Standard.declaredOr otherwise n = otherwise n := by
  rw [Standard.declaredOr, hd]
  rfl

theorem initial_checkbox (hd : n.defaultValue = none) :
    Standard.checkbox.initial n = .bool false :=
  declaredOr_of_none hd fun _ => .bool false

theorem initial_selectBoxes (hd : n.defaultValue = none) :
    Standard.selectBoxes.initial n = Standard.options n :=
  declaredOr_of_none hd Standard.options

/-- A default that is not declared is blank, unless it is a flag or an object of flags. -/
theorem initial_cases (h : Registry.standard.lookup tag = some t) (hk : t.kind.ownsPath = true)
    (hd : n.defaultValue = none) : Value.isBlank (some (t.initial n)) = true ∨
      t = Standard.checkbox ∨ t = Standard.selectBoxes := by
  have hempty : Value.isBlank (some (Standard.emptyValue n)) = true := by
    rw [Standard.emptyValue, declaredOr_of_none hd]
    cases n.multiple <;> rfl
  rcases standard_cases h with rfl | rfl | rfl | rfl | rfl | rfl | rfl | rfl | rfl | rfl | rfl
  -- Texts, numbers and selections share their default.
  · exact Or.inl hempty
  · exact Or.inl hempty
  · exact Or.inl hempty
  · exact Or.inl hempty
  · exact Or.inr (Or.inl rfl)
  · exact Or.inr (Or.inr rfl)
  · have hfile : Standard.file.initial n = .arr [] := declaredOr_of_none hd fun _ => .arr []
    exact Or.inl (by rw [hfile]; rfl)
  · have haddress : Standard.address.initial n = .empty := declaredOr_of_none hd fun _ => .empty
    exact Or.inl (by rw [haddress]; rfl)
  · cases hk
  · cases hk
  · exact Or.inl rfl

/-- It counts as not filled in. -/
theorem deemsEmpty_initial (h : Registry.standard.lookup tag = some t)
    (hk : t.kind.ownsPath = true) (hd : n.defaultValue = none) :
    t.deemsEmpty n (some (t.initial n)) = true := by
  obtain ⟨isEmpty, rules, hj⟩ := exists_judges h hk
  have hdeems : ∀ value, t.deemsEmpty n value = isEmpty value := fun value => by
    rw [NodeType.deemsEmpty, hj.isEmpty_eq]
    rfl
  rcases initial_cases h hk hd with hb | rfl | rfl
  · rw [hdeems, hj.blank _ hb]
  · rw [initial_checkbox hd]
    rfl
  · change (!(Standard.selectBoxes.initial n).anyChecked) = true
    rw [initial_selectBoxes hd, anyChecked_options]
    rfl

theorem rules_of_validatorWith {rules : Node → Except FormError (List Rule)}
    {collaborator : Option Collaborator} {v : Validator}
    (h : (Standard.validatorWith rules n collaborator).outcome = .ok v) :
    rules n = .ok v.rules := by
  obtain ⟨base, -, h⟩ := Noted.outcome_bind_eq_ok.1 h
  obtain ⟨rs, hrs, h⟩ := Noted.outcome_bind_eq_ok.1 h
  obtain rfl := Noted.outcome_pure_eq_ok.1 h
  exact hrs

/-- And where no value is required it passes all rules, if it is not blank. -/
theorem accepts_initial (h : Registry.standard.lookup tag = some t) (hk : t.kind.ownsPath = true)
    (hd : n.defaultValue = none) (hr : n.validate.required = false)
    {build : Node → Option Collaborator → Noted Validator} (hb : t.validator = some build)
    {collaborator : Option Collaborator} {v : Validator}
    (hv : (build n collaborator).outcome = .ok v)
    (hfilled : Value.isBlank (some (t.initial n)) = false) :
    ∀ r ∈ v.rules, r.accepts (t.initial n) = true := by
  rcases initial_cases h hk hd with hblank | rfl | rfl
  · rw [hblank] at hfilled
    cases hfilled
  · obtain rfl := Option.some.inj hb
    have hrules := Except.ok.inj (rules_of_validatorWith hv)
    rw [initial_checkbox hd, ← hrules, hr]
    simp [Rule.accepts, Shape.fits]
  · obtain rfl := Option.some.inj hb
    have hrules := Except.ok.inj (rules_of_validatorWith hv)
    rw [initial_selectBoxes hd, ← hrules, hr]
    simp [Rule.accepts, Shape.fits, Standard.options]

end Undeclared

/-- Issues at a path: an error exactly when a value is required, and a warning exactly when one is
asked for and not required. -/
structure Flags (demands : Demands) (path : String) (issues : List Issue) : Prop where
  path_eq : ∀ i ∈ issues, i.path = path
  error : (∃ i ∈ issues, i.isError = true) ↔ demands.required = true
  warning : (∃ i ∈ issues, i.isError = false) ↔
    demands.required = false ∧ demands.softRequired = true

namespace Flags

variable {demands : Demands} {path : String} {issues : List Issue}

theorem of_required (hr : demands.required = true) (hne : issues ≠ [])
    (h : ∀ i ∈ issues, i.isError = true ∧ i.path = path) : Flags demands path issues := by
  obtain ⟨i, hi⟩ := List.exists_mem_of_ne_nil issues hne
  refine ⟨fun i hi => (h i hi).2, iff_of_true ⟨i, hi, (h i hi).1⟩ hr, iff_of_false ?_ ?_⟩
  · rintro ⟨i, hi, hw⟩
    rw [(h i hi).1] at hw
    cases hw
  · simp [hr]

theorem of_soft {i : Issue} (hr : demands.required = false) (hs : demands.softRequired = true)
    (hp : i.path = path) (hw : i.isError = false) : Flags demands path [i] := by
  constructor <;> simp [hr, hs, hp, hw]

theorem nil (hr : demands.required = false) (hs : demands.softRequired = false) :
    Flags demands path [] := by
  constructor <;> simp [hr, hs]

/-- The issues of owners that are flagged each at its path. -/
theorem flatMap {owners : List Instance} {f : Instance → List Issue}
    (h : ∀ o ∈ owners, Flags o.node.validate o.path (f o)) (p : String) :
    ((∃ i ∈ owners.flatMap f, i.path = p ∧ i.isError = true) ↔
        ∃ o ∈ owners, o.path = p ∧ o.node.validate.required = true) ∧
      ((∃ i ∈ owners.flatMap f, i.path = p ∧ i.isError = false) ↔
        ∃ o ∈ owners, o.path = p ∧ o.node.validate.required = false ∧
          o.node.validate.softRequired = true) := by
  constructor <;> constructor
  · rintro ⟨i, hi, rfl, he⟩
    obtain ⟨o, ho, hi⟩ := List.mem_flatMap.1 hi
    exact ⟨o, ho, ((h o ho).path_eq i hi).symm, (h o ho).error.1 ⟨i, hi, he⟩⟩
  · rintro ⟨o, ho, rfl, hr⟩
    obtain ⟨i, hi, he⟩ := (h o ho).error.2 hr
    exact ⟨i, List.mem_flatMap.2 ⟨o, ho, hi⟩, (h o ho).path_eq i hi, he⟩
  · rintro ⟨i, hi, rfl, hw⟩
    obtain ⟨o, ho, hi⟩ := List.mem_flatMap.1 hi
    exact ⟨o, ho, ((h o ho).path_eq i hi).symm, (h o ho).warning.1 ⟨i, hi, hw⟩⟩
  · rintro ⟨o, ho, rfl, hs⟩
    obtain ⟨i, hi, hw⟩ := (h o ho).warning.2 hs
    exact ⟨i, List.mem_flatMap.2 ⟨o, ho, hi⟩, (h o ho).path_eq i hi, hw⟩

end Flags

/-- A validator flags a value that counts as not filled in, if its rules accept it where it is not
required. -/
theorem Validator.flags_check {n : Node} {isEmpty : Option Value → Bool}
    {rules : Node → Except FormError (List Rule)} {t : NodeType} {v : Validator}
    (hj : Judges t isEmpty rules) (hv : IsValidatorOf n isEmpty rules v) {x : Value}
    (he : isEmpty (some x) = true)
    (hacc : n.validate.required = false → Value.isBlank (some x) = false →
      ∀ r ∈ v.rules, r.accepts x = true) (path : String) :
    Flags n.validate path (v.check path (some x)) := by
  have hopt := hv.optional
  rw [check_of_flat (hj.flat hv.rules)]
  cases hr : n.validate.required with
  | true =>
    have hd : v.deemsEmpty x = false := by rw [deemsEmpty, hopt, hr]; rfl
    rcases filled?_cases (some x) with ⟨-, hf⟩ | ⟨y, hy, hb, hf⟩
    · simp only [selfIssues, hf, blankIssues, hopt, hr]
      exact .of_required hr (by simp) (by simp [errorAt, Issue.isError])
    · obtain rfl := Option.some.inj hy
      simp only [selfIssues, hf, hd, Bool.false_eq_true, if_false]
      -- What is empty and not blank fails a rule, since it is required.
      obtain ⟨r, hrm, ha⟩ := hj.rejects hv.rules hr he hb
      obtain ⟨i, hi, -⟩ := exists_ownError hrm ha path
      exact .of_required hr (List.ne_nil_of_mem hi) fun i hi => isError_of_mem_ownErrors hi
  | false =>
    rcases filled?_cases (some x) with ⟨-, hf⟩ | ⟨y, hy, hb, hf⟩
    · simp only [selfIssues, hf, blankIssues, hopt, hr, hv.soft]
      cases hs : n.validate.softRequired with
      | true => exact .of_soft hr hs rfl rfl
      | false => exact .nil hr hs
    · obtain rfl := Option.some.inj hy
      have hnone : v.ownErrors path x = [] := by
        rw [ownErrors, List.map_eq_nil_iff, List.filterMap_eq_nil_iff]
        intro r hrm
        rw [Rule.check, if_pos (hacc hr hb r hrm)]
      simp only [selfIssues, hf, hnone, deemsEmpty_eq hv, hr, he]
      cases hs : n.validate.softRequired with
      | true => exact .of_soft hr hs rfl rfl
      | false => exact .nil hr hs

section Default

variable {ctx : Context} {n : Node} {v : Validator}

theorem Context.initialOf_eq_initial (hs : ctx.registry = Registry.standard) {t : NodeType}
    (ht : ctx.typeOf n = some t) (hk : t.kind.ownsPath = true) :
    ctx.initialOf n = t.initial n := by
  obtain ⟨default, hd⟩ := Context.resets_of_typeOf hs ht hk
  rw [Context.initialOf_eq ht hd, NodeType.initial, hd.default_eq]
  rfl

/-- The validator of a node flags its default, if that is not declared. -/
theorem flags_initialOf (hs : ctx.registry = Registry.standard) (ho : ctx.owns n = true)
    (hd : n.defaultValue = none) (hv : (Instance.ownValidator ctx n).outcome = .ok (some v))
    (path : String) : Flags n.validate path (v.check path (some (ctx.initialOf n))) := by
  obtain ⟨t, ht, hk⟩ := Context.exists_typeOf_of_owns ho
  have hlookup : Registry.standard.lookup n.type = some t := by
    rw [← hs]
    exact ht
  obtain ⟨isEmpty, rules, hj⟩ := exists_judges hlookup hk
  obtain ⟨w, hw, hvalid⟩ := exists_validator ht hj hv
  obtain rfl := Option.some.inj hw
  rw [Context.initialOf_eq_initial hs ht hk]
  refine Validator.flags_check hj hvalid ?_ (fun hr hb => ?_) path
  · have he := deemsEmpty_initial hlookup hk hd
    rwa [NodeType.deemsEmpty, hj.isEmpty_eq] at he
  · unfold Instance.ownValidator at hv
    simp only [ht, hj.validator_eq] at hv
    obtain ⟨u, hu, hv⟩ := Noted.outcome_bind_eq_ok.1 hv
    obtain ⟨emptyWhen, he⟩ := t.exists_withEmptiness n u
    rw [← Option.some.inj (Noted.outcome_pure_eq_ok.1 hv), he]
    change ∀ r ∈ u.rules, r.accepts (t.initial n) = true
    exact accepts_initial hlookup hk hd hr hj.validator_eq hu hb

/-- What clearing leaves behind is the initial value. -/
theorem replacement?_eq_initialOf (hs : ctx.registry = Registry.standard) (ho : ctx.owns n = true)
    {t : NodeType} (ht : ctx.typeOf n = some t) {state : HideState} {current : Option Value}
    {new : Value} (h : t.replacement? n state current = some new) : new = ctx.initialOf n := by
  obtain ⟨t', ht', hk⟩ := Context.exists_typeOf_of_owns ho
  obtain rfl := Option.some.inj (ht.symm.trans ht')
  obtain ⟨default, hd⟩ := Context.resets_of_typeOf hs ht hk
  rw [hd.replacement?_eq] at h
  split at h
  · rw [Context.initialOf_eq ht hd]
    exact (Option.some.inj h).symm
  · cases h

end Default

end FormLogic
