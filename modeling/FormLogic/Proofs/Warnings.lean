import FormLogic.Proofs.ReportAgreement

/-!
# Warnings of a validation and the report of missing values

A validation of a clean form warns, in order, of the missing values that are not
required, and finds an error at each one that is. A validation without issues has no
missing values.
-/
namespace FormLogic

open Visibility

/-- Whether the instance that owns the value at a path requires one. -/
def requiredAt (tree : List Instance) (path : String) : Bool :=
  (Instance.findIn? path tree).any fun i => i.node.validate.required

section Found

variable {tree owners : List Instance} {issues : List Issue}

theorem requiredAt_of_found {i : Instance} (h : Instance.findIn? i.path tree = some i) :
    requiredAt tree i.path = i.node.validate.required := by
  rw [requiredAt, h]
  rfl

/-- Warnings name the owners that are found not to be required. -/
theorem Agrees.warned_paths (h : Agrees issues owners)
    (hf : ∀ i ∈ owners, Instance.findIn? i.path tree = some i) :
    (issues.filter fun i => !i.isError).map (·.path) =
      (owners.map (·.path)).filter fun p => !requiredAt tree p := by
  rw [h.warned, List.filter_map]
  refine congrArg _ (List.filter_congr fun i hi => ?_)
  rw [Function.comp_apply, requiredAt_of_found (hf i hi)]

theorem Agrees.failed_path (h : Agrees issues owners)
    (hf : ∀ i ∈ owners, Instance.findIn? i.path tree = some i) {p : String}
    (hp : p ∈ owners.map (·.path)) (hr : requiredAt tree p = true) :
    ∃ i ∈ issues, i.path = p ∧ i.isError = true := by
  obtain ⟨i, hi, rfl⟩ := List.mem_map.1 hp
  exact h.failed i hi ((requiredAt_of_found (hf i hi)).symm.trans hr)

/-- Without issues there are no owners: one that is not required has a warning, another an error. -/
theorem Agrees.eq_nil (h : Agrees [] owners) : owners = [] := by
  refine List.eq_nil_iff_forall_not_mem.2 fun i hi => ?_
  have hnone : (owners.filter fun i => !i.node.validate.required) = [] :=
    List.map_eq_nil_iff.1 h.warned.symm
  have hr : i.node.validate.required = true := by
    simpa using List.filter_eq_nil_iff.1 hnone i hi
  obtain ⟨j, hj, -⟩ := h.failed i hi hr
  cases hj

end Found

namespace Engine

section Validation

variable {engine : Engine}

/-- A validation warns, in order, of the missing values that are not required, and has an error at
each one that is. -/
theorem warnings_eq_missing (hs : engine.context.registry = Registry.standard)
    (hc : Clean engine.context engine.schema.components) {values : Value}
    (hfit : values.listsFit = true) {r : Resolution} {report : ValidationReport}
    (h : (engine.validate values).outcome = .ok (r, report)) :
    (∀ m ∈ r.missing, (Instance.findIn? m.path r.tree).isSome = true) ∧
    (report.issues.filter fun i => !i.isError).map (·.path) =
      (r.missing.filter fun m => !requiredAt r.tree m.path).map (·.path) ∧
    (∀ m ∈ r.missing, requiredAt r.tree m.path = true →
      ∃ i ∈ report.issues, i.path = m.path ∧ i.isError = true) ∧
    (report.issues = [] → r.missing = []) := by
  obtain ⟨r', hr, h⟩ := Noted.outcome_bind_eq_ok.1 h
  obtain ⟨rfl, rfl⟩ := Prod.mk.inj (Noted.outcome_pure_eq_ok.1 h)
  obtain ⟨before, o, ho, hrows, hvalues, htree, hvalidators, hmissing⟩ :=
    exists_pass_of_resolve hs hc hfit hr
  have hagrees := agrees_of_pass hs hc ho hrows hvalidators
  have hpaths := map_path_missingFields ho o.values
  rw [← hmissing] at hpaths
  rw [hvalues, htree]
  -- The unfilled instances are found by their paths.
  have hfound : ∀ i ∈ unfilled engine.context o.values o.tree,
      Instance.findIn? i.path o.tree = some i := by
    intro i hi
    obtain ⟨hi, hu⟩ := List.mem_filter.1 hi
    refine Instance.findIn?_of_mem (nodup_ownedPaths hc ho) hi ?_
    simp only [Instance.isUnfilled, Bool.and_eq_true] at hu
    exact hu.1.1.2
  have hnamed : ∀ m ∈ r'.missing,
      m.path ∈ (unfilled engine.context o.values o.tree).map (·.path) :=
    fun m hm => hpaths ▸ List.mem_map_of_mem hm
  refine ⟨fun m hm => ?_, ?_, fun m hm hreq => hagrees.failed_path hfound (hnamed m hm) hreq,
    fun hnone => ?_⟩
  · obtain ⟨i, hi, hp⟩ := List.mem_map.1 (hnamed m hm)
    rw [← hp, hfound i hi]
    rfl
  · rw [hagrees.warned_paths hfound, ← hpaths, List.filter_map]
    rfl
  · rw [hnone] at hagrees
    rw [hagrees.eq_nil, List.map_nil, List.map_eq_nil_iff] at hpaths
    exact hpaths

end Validation

namespace UnnamedPet

def name : Node :=
  { type := "textfield", key := some "name", validate := { softRequired := true } }

def consent : Node :=
  { type := "checkbox", key := some "consent"
    validate := { required := true, softRequired := true } }

def pets : Node := { type := "editgrid", key := some "pets", components := [name] }

def engine : Engine where
  schema := ⟨[consent, pets]⟩
  context := ⟨Registry.standard, Conditions.declarative, none⟩
  maxPasses := 1
  maxPasses_pos := by decide

def values : Value := .obj [("pets", .arr [.obj [("name", .str "")]])]

/-- The paths of the missing values that are not required. -/
def softMissing (r : Resolution) : List String :=
  (r.missing.filter fun m => !requiredAt r.tree m.path).map (·.path)

theorem exists_validation : ∃ r report, (engine.validate values).outcome = .ok (r, report) ∧
    softMissing r = ["pets.0.name"] := by
  obtain ⟨p, hp, hpaths⟩ := Noted.exists_of_toOption (engine.validate values)
    (fun p => softMissing p.1) (b := ["pets.0.name"]) (by decide)
  exact ⟨p.1, p.2, hp, hpaths⟩

end UnnamedPet

open UnnamedPet in
/-- Only the name is warned of: the consent is an error. -/
theorem warnings_eq_missing_unnamedPet :
    ∃ r report, (engine.validate values).outcome = .ok (r, report) ∧
      (report.issues.filter fun i => !i.isError).map (·.path) = ["pets.0.name"] := by
  obtain ⟨r, report, h, hpaths⟩ := exists_validation
  have hc : Clean engine.context engine.schema.components := by decide
  have hw := (warnings_eq_missing rfl hc (by decide) h).2.1
  exact ⟨r, report, h, hw.trans hpaths⟩

end Engine
end FormLogic
