import FormLogic.CommandLine.Run

/-!
# Exit codes

A command that repeats passes computes a resolution from its files, and it fails just if
there is none. The code 0 is to say that the values came to a standstill and that nothing is
reported. Of these commands only the one that reports the resolution itself looks at the
standstill, and so a code tells all unless another command finds nothing in a resolution
that was cut short.
-/
namespace FormLogic.CommandLine

/-- The schema and the values of a command that repeats passes. -/
def Command.settling? : Command → Option (String × String)
  | .resolve schema values false _ | .missing schema values | .validate schema values =>
    some (schema, values)
  | .initial _ | .resolve _ _ true _ => none

/-- The command reports nothing of a resolution: its validators find no issue in its values for a
validation, and no value is missing for the others. -/
def Command.findsNothing : Command → Resolution → Bool
  | .validate _ _, r => (r.validators.validate r.values).issues.isEmpty
  | _, r => r.missing.isEmpty

/-- The command looks at whether the values came to a standstill. -/
def Command.seesStandstill : Command → Bool
  | .resolve _ _ _ _ => true
  | _ => false

/-- The resolution that a command computes from a schema and values in files. -/
def resolved (around : Surroundings) (config : Option String) (schema file : String) :
    Except Failure Resolution := do
  let settings ← settings around config
  let engine ← engine around settings schema
  let values ← values around file
  outcome (engine.resolve values)

/-- The code of a command tells what became of its resolution: 0 says that there is one, that it
came to a standstill and that nothing of it is reported, and one that was cut short gives 1. -/
def CodeTellsAll (around : Surroundings) (arguments : Arguments) (schema file : String) : Prop :=
  ((run around arguments).code = exitClean →
    ∃ r, resolved around arguments.config schema file = .ok r ∧ r.converged = true ∧
      arguments.command.findsNothing r = true) ∧
  ∀ r, resolved around arguments.config schema file = .ok r → r.converged = false →
    (run around arguments).code = exitReported

theorem outcome_map {α β : Type} (f : α → β) (x : Noted α) :
    outcome (f <$> x) = f <$> outcome x := by
  obtain ⟨notes, outcome⟩ := x
  cases outcome with
  | ok a => rfl
  | error e => rfl

/-- A command fails with the code 2, and else its code says whether its report is clean. -/
theorem code_eq (around : Surroundings) (arguments : Arguments) :
    (run around arguments).code = match Report.clean <$> carryOut around arguments with
      | .ok clean => if clean then exitClean else exitReported
      | .error _ => exitFailed := by
  rw [run]
  cases carryOut around arguments with
  | ok report => rfl
  | error failure => rfl

section Code

variable {around : Surroundings} {arguments : Arguments} {schema file : String}

/-- A command that repeats passes fails as its resolution does, and else it counts as clean if it
finds nothing and, where it looks, sees a standstill. -/
theorem clean_eq (h : arguments.command.settling? = some (schema, file)) :
    Report.clean <$> carryOut around arguments =
      (fun r => (r.converged || !arguments.command.seesStandstill) &&
        arguments.command.findsNothing r) <$> resolved around arguments.config schema file := by
  obtain ⟨command, format, config⟩ := arguments
  cases command with
  | initial _ => cases h
  | resolve _ _ once tree =>
    cases once with
    | true => cases h
    | false =>
      cases h
      simp [carryOut, resolved, Command.seesStandstill, Command.findsNothing]
  | missing _ _ =>
    cases h
    simp [carryOut, resolved, Command.seesStandstill, Command.findsNothing]
  | validate _ _ =>
    cases h
    simp [carryOut, resolved, Command.seesStandstill, Command.findsNothing, Engine.validate,
      outcome_map]

theorem code_of_resolved (h : arguments.command.settling? = some (schema, file)) {r : Resolution}
    (hr : resolved around arguments.config schema file = .ok r) :
    (run around arguments).code =
      if (r.converged || !arguments.command.seesStandstill) && arguments.command.findsNothing r
      then exitClean else exitReported := by
  rw [code_eq, clean_eq h, hr]
  rfl

theorem code_of_failed (h : arguments.command.settling? = some (schema, file)) {e : Failure}
    (he : resolved around arguments.config schema file = .error e) :
    (run around arguments).code = exitFailed := by
  rw [code_eq, clean_eq h, he]
  rfl

theorem code_eq_failed_iff (h : arguments.command.settling? = some (schema, file)) :
    (run around arguments).code = exitFailed ↔
      ∃ e, resolved around arguments.config schema file = .error e := by
  cases hr : resolved around arguments.config schema file with
  | error e => simp [code_of_failed h hr]
  | ok r =>
    rw [code_of_resolved h hr]
    split <;> simp [exitFailed, exitClean, exitReported]

theorem code_eq_clean_iff (h : arguments.command.settling? = some (schema, file)) :
    (run around arguments).code = exitClean ↔
      ∃ r, resolved around arguments.config schema file = .ok r ∧
        (r.converged = true ∨ arguments.command.seesStandstill = false) ∧
        arguments.command.findsNothing r = true := by
  cases hr : resolved around arguments.config schema file with
  | error e => simp [code_of_failed h hr, exitFailed, exitClean]
  | ok r =>
    rw [code_of_resolved h hr]
    simp [exitClean, exitReported]

/-- The code of a command that repeats passes tells all, unless the command does not look at the
standstill and finds nothing in a resolution that was cut short. Whether it looks or not, the code 0
says that there is a resolution and that nothing of it is reported, and the code 2 that there is
none. -/
theorem codeTellsAll_iff (h : arguments.command.settling? = some (schema, file)) :
    (CodeTellsAll around arguments schema file ↔
      ¬ ∃ r, resolved around arguments.config schema file = .ok r ∧ r.converged = false ∧
        arguments.command.findsNothing r = true ∧ arguments.command.seesStandstill = false) ∧
    ((run around arguments).code = exitClean →
      ∃ r, resolved around arguments.config schema file = .ok r ∧
        arguments.command.findsNothing r = true) ∧
    ((run around arguments).code = exitFailed ↔
      ∃ e, resolved around arguments.config schema file = .error e) := by
  refine ⟨⟨?_, ?_⟩, fun hclean => ?_, code_eq_failed_iff h⟩
  · rintro ⟨htells, -⟩ ⟨r, hr, hcut, hnothing, hblind⟩
    obtain ⟨r', hr', hconv, -⟩ :=
      htells ((code_eq_clean_iff h).2 ⟨r, hr, Or.inr hblind, hnothing⟩)
    rw [hr] at hr'
    cases hr'
    rw [hcut] at hconv
    cases hconv
  · intro hno
    constructor
    · intro hclean
      obtain ⟨r, hr, hlook, hnothing⟩ := (code_eq_clean_iff h).1 hclean
      refine ⟨r, hr, ?_, hnothing⟩
      rcases hlook with hconv | hblind
      · exact hconv
      · exact eq_true_of_ne_false fun hcut => hno ⟨r, hr, hcut, hnothing, hblind⟩
    · intro r hr hcut
      rw [code_of_resolved h hr, if_neg]
      rw [hcut, Bool.false_or, Bool.and_eq_true, Bool.not_eq_true']
      exact fun ⟨hblind, hnothing⟩ => hno ⟨r, hr, hcut, hnothing, hblind⟩
  · obtain ⟨r, hr, -, hnothing⟩ := (code_eq_clean_iff h).1 hclean
    exact ⟨r, hr, hnothing⟩

end Code

namespace OnePass

/-- One pass may be run, and it clears the value of a hidden field. -/
def around : Surroundings where
  read
    | "form.json" => some "[\x7b\"type\": \"textfield\", \"key\": \"a\", \"hidden\": true\x7d]"
    | "values.json" => some "\x7b\"a\": \"x\"\x7d"
    | "formwork.json" => some "\x7b\"max_passes\": 1\x7d"
    | _ => none

def arguments (command : Command) : Arguments := ⟨command, .json, none⟩

/-- Nothing is missing from the resolution, and the field has no validator to find an issue. -/
theorem exists_resolved : ∃ r, resolved around none "form.json" "values.json" = .ok r ∧
    (r.converged, r.missing.isEmpty, (r.validators.validate r.values).issues.isEmpty) =
      (false, true, true) := by
  have h : (resolved around none "form.json" "values.json").toOption.map (fun r =>
      (r.converged, r.missing.isEmpty, (r.validators.validate r.values).issues.isEmpty)) =
        some (false, true, true) := by decide +kernel
  cases hr : resolved around none "form.json" "values.json" with
  | error e =>
    rw [hr] at h
    cases h
  | ok r =>
    rw [hr] at h
    exact ⟨r, rfl, Option.some.inj h⟩

end OnePass

open OnePass in
/-- Here a validation finds nothing in a resolution that was cut short, and its code does not
tell. -/
theorem codeTellsAll_iff_onePass :
    ¬ CodeTellsAll around (arguments (.validate "form.json" "values.json"))
      "form.json" "values.json" := by
  obtain ⟨r, hr, hfacts⟩ := exists_resolved
  simp only [Prod.mk.injEq] at hfacts
  obtain ⟨hcut, -, hissues⟩ := hfacts
  have h := @codeTellsAll_iff around (arguments (.validate "form.json" "values.json")) _ _ rfl
  exact fun htells => h.1.1 htells ⟨r, hr, hcut, hissues, rfl⟩

/-- The code 0 does not say that the values came to a standstill. -/
theorem clean_without_standstill :
    ¬ ∀ (around : Surroundings) (arguments : Arguments) (schema file : String) (r : Resolution),
      arguments.command.settling? = some (schema, file) →
      resolved around arguments.config schema file = .ok r →
      (run around arguments).code = exitClean → r.converged = true := by
  intro hall
  obtain ⟨r, hr, hfacts⟩ := OnePass.exists_resolved
  simp only [Prod.mk.injEq] at hfacts
  obtain ⟨hcut, hmissing, -⟩ := hfacts
  have hc := hall OnePass.around (OnePass.arguments (.missing "form.json" "values.json")) _ _ r rfl
    hr ((code_eq_clean_iff rfl).2 ⟨r, hr, Or.inr rfl, hmissing⟩)
  rw [hcut] at hc
  cases hc

end FormLogic.CommandLine
