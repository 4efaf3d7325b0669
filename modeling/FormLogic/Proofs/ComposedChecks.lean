import FormLogic.Proofs.PassEffect
import FormLogic.Proofs.StandardValidators
import FormLogic.Proofs.Unfilled

/-!
# Composed validators and unfilled values

The validators of a tree, checked with the values that the tree was made with, warn of
exactly the unfilled values that are not required, in the order of the tree, and find
an error at every unfilled value that is required.
-/
namespace FormLogic

open FormLogic.Path (segments)
open Visibility

/-- Issues that warn of the owners that are not required, in order, and that hold an error at each
one that is required. -/
structure Agrees (issues : List Issue) (owners : List Instance) : Prop where
  warned : (issues.filter fun i => !i.isError).map (·.path) =
    (owners.filter fun o => !o.node.validate.required).map (·.path)
  failed : ∀ o ∈ owners, o.node.validate.required = true →
    ∃ i ∈ issues, i.path = o.path ∧ i.isError = true

namespace Agrees

theorem nil : Agrees [] [] := ⟨rfl, nofun⟩

theorem append {issues more : List Issue} {owners others : List Instance}
    (h : Agrees issues owners) (hm : Agrees more others) :
    Agrees (issues ++ more) (owners ++ others) := by
  constructor
  · simp only [List.filter_append, List.map_append, h.warned, hm.warned]
  · intro o ho hr
    rcases List.mem_append.1 ho with ho | ho
    · obtain ⟨i, hi, hp⟩ := h.failed o ho hr
      exact ⟨i, List.mem_append_left _ hi, hp⟩
    · obtain ⟨i, hi, hp⟩ := hm.failed o ho hr
      exact ⟨i, List.mem_append_right _ hi, hp⟩

/-- Errors alone agree with no owners. -/
theorem of_errors {issues : List Issue} (he : ∀ i ∈ issues, i.isError = true) :
    Agrees issues [] := by
  refine ⟨?_, nofun⟩
  rw [List.filter_eq_nil_iff.2 fun i hi => by simp [he i hi]]
  rfl

/-- Errors alone agree with one owner that is required, if one is at its path. -/
theorem of_required {issues : List Issue} {owner : Instance} {c : Bool}
    (hr : owner.node.validate.required = true) (he : ∀ i ∈ issues, i.isError = true)
    (hf : c = true → ∃ i ∈ issues, i.path = owner.path) :
    Agrees issues (if c then [owner] else []) := by
  cases c with
  | false => exact of_errors he
  | true =>
    constructor
    · simpa [hr] using (of_errors he).warned
    · intro o ho _
      obtain ⟨i, hi, hp⟩ := hf rfl
      exact ⟨i, hi, by rw [hp, List.mem_singleton.1 ho], he i hi⟩

/-- One warning agrees with one owner that is not required. -/
theorem of_warning {issue : Issue} {owner : Instance} (hi : issue.isError = false)
    (hp : issue.path = owner.path) (hr : owner.node.validate.required = false) :
    Agrees [issue] [owner] := by
  constructor
  · simp [hi, hr, hp]
  · intro o ho hreq
    rw [List.mem_singleton.1 ho, hr] at hreq
    cases hreq

/-- More errors among the issues do not matter. -/
theorem mono {issues more : List Issue} {owners : List Instance} (h : Agrees issues owners)
    (hw : more.filter (fun i => !i.isError) = issues.filter fun i => !i.isError)
    (hm : ∀ i ∈ issues, i ∈ more) : Agrees more owners := by
  refine ⟨by rw [hw, h.warned], fun o ho hr => ?_⟩
  obtain ⟨i, hi, hp⟩ := h.failed o ho hr
  exact ⟨i, hm i hi, hp⟩

/-- Issues found one owner after the other agree with those owners that they concern. -/
theorem flatMap {owners : List Instance} {f : Instance → List Issue} {p : Instance → Bool}
    (h : ∀ o ∈ owners, Agrees (f o) (if p o then [o] else [])) :
    Agrees (owners.flatMap f) (owners.filter p) := by
  induction owners with
  | nil => exact Agrees.nil
  | cons o rest ih =>
    have hrest := ih fun o' ho' => h o' (List.mem_cons_of_mem o ho')
    have hall := (h o List.mem_cons_self).append hrest
    rw [List.flatMap_cons, List.filter_cons]
    split
    · next hp => rwa [if_pos hp] at hall
    · next hp => rwa [if_neg hp] at hall

end Agrees

namespace Validator

theorem isError_of_mem_ownErrors {v : Validator} {path : String} {x : Value} {i : Issue}
    (h : i ∈ v.ownErrors path x) : i.isError = true ∧ i.path = path := by
  obtain ⟨message, -, rfl⟩ := List.mem_map.1 h
  exact ⟨rfl, rfl⟩

/-- The issues of a value, those of its rows apart. -/
def selfIssues (v : Validator) (path : String) (value : Option Value) : List Issue :=
  match Value.filled? value with
  | none => v.blankIssues path
  | some x => if v.deemsEmpty x then [v.recommendedAt path] else v.ownErrors path x

theorem filled?_cases (value : Option Value) :
    (Value.isBlank value = true ∧ Value.filled? value = none) ∨
      ∃ x, value = some x ∧ Value.isBlank (some x) = false ∧ Value.filled? value = some x := by
  cases value with
  | none => exact Or.inl ⟨rfl, rfl⟩
  | some x =>
    cases hb : Value.isBlank (some x) with
    | true => exact Or.inl ⟨rfl, by simp [Value.filled?, Option.filter, hb]⟩
    | false => exact Or.inr ⟨x, rfl, hb, by simp [Value.filled?, Option.filter, hb]⟩

theorem exists_ownError {v : Validator} {r : Rule} {x : Value} (hr : r ∈ v.rules)
    (ha : r.accepts x = false) (path : String) : ∃ i ∈ v.ownErrors path x, i.path = path := by
  refine ⟨v.errorAt path (r.complaint v.label), List.mem_map_of_mem ?_, rfl⟩
  exact List.mem_filterMap.2 ⟨r, hr, by rw [Rule.check, ha]; rfl⟩

theorem ownErrors_eq_nil_iff {v : Validator} {path : String} {x : Value} :
    v.ownErrors path x = [] ↔ ∀ r ∈ v.rules, r.accepts x = true := by
  simp [ownErrors, Rule.check]

theorem deemsEmpty_eq {n : Node} {isEmpty : Option Value → Bool}
    {rules : Node → Except FormError (List Rule)} {v : Validator}
    (hv : IsValidatorOf n isEmpty rules v) (x : Value) : v.deemsEmpty x =
      (!n.validate.required && (n.validate.softRequired && isEmpty (some x))) := by
  rw [deemsEmpty, hv.optional, hv.soft, hv.emptyWhen]
  cases n.validate.required <;> cases n.validate.softRequired <;> simp

/-- A validator judges its own value as its type does. -/
theorem agrees_selfIssues {t : NodeType} {isEmpty : Option Value → Bool}
    {rules : Node → Except FormError (List Rule)} (hj : Judges t isEmpty rules) {i : Instance}
    {v : Validator} (hv : IsValidatorOf i.node isEmpty rules v) (value : Option Value) :
    Agrees (v.selfIssues i.path value)
      (if i.node.validate.softRequired && isEmpty value then [i] else []) := by
  cases hr : i.node.validate.required with
  | true =>
    have hopt : v.isOptional = false := by rw [hv.optional, hr]; rfl
    rcases filled?_cases value with ⟨-, hf⟩ | ⟨x, rfl, hb, hf⟩
    · simp only [selfIssues, hf, blankIssues, hopt]
      refine Agrees.of_required hr (fun j hj => ?_) fun _ => ⟨_, List.mem_singleton_self _, rfl⟩
      rw [List.mem_singleton.1 hj]
      rfl
    · have hd : v.deemsEmpty x = false := by rw [deemsEmpty, hopt]; rfl
      simp only [selfIssues, hf, hd, Bool.false_eq_true, if_false]
      refine Agrees.of_required hr (fun j hj => (isError_of_mem_ownErrors hj).1) fun hc => ?_
      -- What is empty and not blank fails a rule, since it is required.
      rw [Bool.and_eq_true] at hc
      obtain ⟨r, hrm, ha⟩ := hj.rejects hv.rules hr hc.2 hb
      exact exists_ownError hrm ha i.path
  | false =>
    have hopt : v.isOptional = true := by rw [hv.optional, hr]; rfl
    rcases filled?_cases value with ⟨hb, hf⟩ | ⟨x, rfl, hb, hf⟩
    · simp only [selfIssues, hf, blankIssues, hopt, hv.soft, hj.blank value hb, Bool.and_true]
      cases i.node.validate.softRequired with
      | true => exact Agrees.of_warning rfl rfl hr
      | false => exact Agrees.nil
    · simp only [selfIssues, hf, deemsEmpty_eq hv, hr, Bool.not_false, Bool.true_and]
      cases i.node.validate.softRequired && isEmpty (some x) with
      | true => exact Agrees.of_warning rfl rfl hr
      | false => exact Agrees.of_errors fun j hj => (isError_of_mem_ownErrors hj).1

theorem check_eq (v : Validator) (path : String) (value : Option Value) :
    v.check path value = match Value.filled? value with
      | none => v.blankIssues path
      | some x => if v.deemsEmpty x then [v.recommendedAt path]
        else v.ownErrors path x ++ checkRules path x v.rules := by
  obtain ⟨label, isOptional, isSoftRequired, rules, refinement, message, emptyWhen⟩ := v
  unfold check
  rfl

theorem checkRules_append {rules : List Rule} (h : FlatRules rules) (path : String) (x : Value)
    (more : List Rule) : checkRules path x (rules ++ more) = checkRules path x more :=
  h.walk_append (fun hr => by rw [checkRules]; exact hr) more

/-- Without row maps a check is one of the value alone. -/
theorem check_of_flat {v : Validator} (h : FlatRules v.rules) (path : String)
    (value : Option Value) : v.check path value = v.selfIssues path value := by
  have hrules : ∀ x, checkRules path x v.rules = [] := fun x => by
    rw [← List.append_nil v.rules, checkRules_append h, checkRules]
  simp only [check_eq, selfIssues, hrules, List.append_nil]

theorem ownErrors_and_rows (v : Validator) (maps : List ValidatorMap) (path : String) (x : Value) :
    (v.and (.rows maps)).ownErrors path x = v.ownErrors path x := by
  have hrows : (Rule.rows maps).check v.label x = none := by
    simp [Rule.check, Rule.accepts]
  change ((v.rules ++ [Rule.rows maps]).filterMap fun r : Rule => r.check v.label x).map _ = _
  rw [List.filterMap_append, List.filterMap_cons, hrows, List.filterMap_nil, List.append_nil]
  rfl

/-- A repeater is checked as a value, and then its rows are. -/
theorem check_and_rows {v : Validator} (h : FlatRules v.rules) (maps : List ValidatorMap)
    (path : String) {x : Value} (hx : Value.isBlank (some x) = false)
    (hd : v.deemsEmpty x = false) :
    (v.and (.rows maps)).check path (some x) =
      v.selfIssues path (some x) ++ checkRules path x [.rows maps] := by
  have hf : Value.filled? (some x) = some x := by simp [Value.filled?, Option.filter, hx]
  have hd' : (v.and (.rows maps)).deemsEmpty x = false := hd
  have hrules : checkRules path x (v.and (.rows maps)).rules = checkRules path x [.rows maps] :=
    checkRules_append h path x _
  simp only [check_eq, selfIssues, hf, hd, hd', Bool.false_eq_true, if_false, ownErrors_and_rows,
    hrules]

theorem check_of_blank (v : Validator) (r : Rule) (path : String) {value : Option Value}
    (hb : Value.isBlank value = true) : (v.and r).check path value = v.selfIssues path value := by
  rcases filled?_cases value with ⟨-, hf⟩ | ⟨x, rfl, hx, -⟩
  · simp only [check_eq, selfIssues, hf]
    rfl
  · rw [hb] at hx
    cases hx

theorem checkRow_append (base : String) (row : Value) (m more : ValidatorMap) :
    checkRow base row (m ++ more) = checkRow base row m ++ checkRow base row more := by
  induction m with
  | nil => rfl
  | cons e rest ih =>
    obtain ⟨rel, v⟩ := e
    rw [List.cons_append, checkRow, checkRow, ih, List.append_assoc]

theorem checkRow_singleton (base : String) (row : Value) (rel : String) (v : Validator) :
    checkRow base row [(rel, v)] = v.check (Path.join base rel) (row.get? rel) := by
  rw [checkRow, checkRow, List.append_nil]

end Validator

theorem ValidatorMap.insert_of_fresh {m : ValidatorMap} {path : String}
    (h : ∀ e ∈ m, e.1 ≠ path) (v : Validator) : m.insert path v = m ++ [(path, v)] := by
  induction m with
  | nil => rfl
  | cons e rest ih =>
    obtain ⟨p, w⟩ := e
    rw [insert, if_neg (h (p, w) List.mem_cons_self),
      ih fun e he => h e (List.mem_cons_of_mem _ he)]
    rfl

end FormLogic
