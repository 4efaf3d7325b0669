import FormLogic.Proofs.FlatValidation

/-!
# Warnings and the report of missing values

The validators of a tree find what the validators of its shown owners find in their
values, and a validator judges what is not filled in as the type of its node does. So the
warnings of a validation name what the report of missing values names and does not
require.
-/
namespace FormLogic

open Visibility

section Unfilled

variable {ctx : Context} {values : Value} {i : Instance}

theorem isUnfilled_eq {t : NodeType} {isEmpty : Option Value → Bool}
    {rules : Node → Except FormError (List Rule)} (ht : ctx.typeOf i.node = some t)
    (hj : Judges t isEmpty rules) (hh : i.hidden = false) (ho : i.ownsValue = true) :
    i.isUnfilled ctx values = (i.node.validate.softRequired && isEmpty (values.get? i.path)) := by
  have hm : Missing.isMissing ctx values i = isEmpty (values.get? i.path) := by
    simp only [Missing.isMissing, ht, NodeType.deemsEmpty, hj.isEmpty_eq, Option.map_some,
      Option.getD_some]
  rw [isUnfilled_of_owns hh ho, hm]

/-- What is unfilled is shown and owned. -/
theorem unfilled_eq_filter (is : List Instance) :
    unfilled ctx values is = (shownOwners is).filter (Instance.isUnfilled ctx values) := by
  rw [unfilled, shownOwners, List.filter_filter]
  refine List.filter_congr fun i _ => ?_
  rw [Instance.isUnfilled]
  cases i.hidden <;> cases i.ownsValue <;> simp

end Unfilled

theorem isError_of_due {d : Validator.Due} {i : Issue} (h : d.issue? = some i) :
    i.isError = true := by
  unfold Validator.Due.issue? at h
  split at h
  · cases h
  · obtain rfl := Option.some.inj h
    rfl
  · obtain rfl := Option.some.inj h
    rfl

/-- Plugin checks add errors to the checks of a map of validators, and no warnings. -/
theorem issues_of_validate (m : ValidatorMap) (values : Value) :
    ((m.validate values).issues.filter fun i => !i.isError) =
        (m.checkAll values).filter (fun i => !i.isError) ∧
      ∀ i ∈ m.checkAll values, i ∈ (m.validate values).issues := by
  induction m with
  | nil => exact ⟨rfl, nofun⟩
  | cons e rest ih =>
    obtain ⟨path, v⟩ := e
    have hhead : (ValidatorMap.validate ((path, v) :: rest) values).issues =
        (v.check path (values.get? path) ++
          (v.due path (values.get? path)).filterMap Validator.Due.issue?) ++
          (ValidatorMap.validate rest values).issues := rfl
    have hcheck : ValidatorMap.checkAll ((path, v) :: rest) values =
        v.check path (values.get? path) ++ ValidatorMap.checkAll rest values := rfl
    have herrors : ((v.due path (values.get? path)).filterMap Validator.Due.issue?).filter
        (fun i => !i.isError) = [] := by
      rw [List.filter_eq_nil_iff]
      intro i hi
      obtain ⟨d, -, hd⟩ := List.mem_filterMap.1 hi
      simp [isError_of_due hd]
    rw [hhead, hcheck]
    constructor
    · rw [List.filter_append, List.filter_append, List.filter_append, herrors, ih.1,
        List.append_nil]
    · intro i hi
      rcases List.mem_append.1 hi with hi | hi
      · exact List.mem_append_left _ (List.mem_append_left _ hi)
      · exact List.mem_append_right _ (ih.2 i hi)

section Pass

variable {ctx : Context} {nodes : List Node} {before : Value} {outcome : Outcome}

/-- The issues of one shown owner agree with its being unfilled. -/
theorem agrees_ownIssues (hs : ctx.registry = Registry.standard) (hc : Clean ctx nodes)
    (h : (run ctx nodes before).outcome = .ok outcome) {values : Value} {i : Instance}
    (hi : i ∈ shownOwners outcome.tree) {v : Validator}
    (hv : (Instance.ownValidator ctx i.node).outcome = .ok (some v)) :
    Agrees (i.ownIssues ctx values) (if i.isUnfilled ctx values then [i] else []) := by
  obtain ⟨hi, hshown⟩ := List.mem_filter.1 hi
  obtain ⟨ho, hh⟩ := Bool.and_eq_true_iff.1 hshown
  rw [Bool.not_eq_true'] at hh
  obtain ⟨l, hl, rfl⟩ := Location.mem_flattenAll_iff.1 hi
  obtain ⟨s, s', va⟩ := exists_visitAt hs hc h hl
  obtain ⟨t, isEmpty, rules, ht, hj, -⟩ := va.exists_judges hs ho
  obtain ⟨w, hw, hvalid⟩ := exists_validator ht hj hv
  obtain rfl := Option.some.inj hw
  rw [Instance.ownIssues_eq hv, Validator.check_of_flat (hj.flat hvalid.rules),
    isUnfilled_eq ht hj hh ho]
  exact Validator.agrees_selfIssues hj hvalid _

/-- The issues of the values that a pass leaves agree with what is unfilled in its tree. -/
theorem agrees_of_pass (hs : ctx.registry = Registry.standard) (hc : Clean ctx nodes)
    (h : (run ctx nodes before).outcome = .ok outcome)
    (hfit : ∀ l : Location, l.In outcome.tree → l.self.rows.length ≤ Literal.wordMax)
    {m : ValidatorMap} (hm : (validatorsOf ctx outcome.tree).outcome = .ok m) :
    Agrees (m.validate outcome.values).issues (unfilled ctx outcome.values outcome.tree) := by
  have hcovers := covers_of_pass hs hc h hfit hm
  have hagrees : Agrees (m.checkAll outcome.values)
      (unfilled ctx outcome.values outcome.tree) := by
    rw [hcovers.issues_eq, unfilled_eq_filter]
    refine Agrees.flatMap fun i hi => ?_
    obtain ⟨v, hv, -⟩ := hcovers.built i hi
    exact agrees_ownIssues hs hc h hi hv
  obtain ⟨hwarned, hmem⟩ := issues_of_validate m outcome.values
  exact hagrees.mono hwarned hmem

end Pass

end FormLogic
