import FormLogic.Proofs.PassInversion
import FormLogic.Resolve.Engine

/-!
# Inverting repeated passes

Passes are repeated on the values that the pass before left, and what a resolution comes
to is told by the passes that were run: the values and the tree are those of the last, the
cleared paths those of all. What holds of the first pass and of every pass that follows
one of which it holds, holds of each.
-/
namespace FormLogic.Engine

open Visibility

/-- The ways in which repeated passes end, or go on after the first of them. -/
inductive SettledFrom (engine : Engine) (left done : Nat) (cleared : List String) (values : Value)
    (o : Outcome) : Settled → Prop
  | atRest (h : (o.values == values) = true) :
      SettledFrom engine left done cleared values o
        { values := o.values, tree := o.tree, cleared := addPaths cleared o.cleared
          passes := done + 1, converged := true }
  | exhausted (h : (o.values == values) = false) (hl : left = 0) :
      SettledFrom engine left done cleared values o
        { values := o.values, tree := o.tree, cleared := addPaths cleared o.cleared
          passes := done + 1, converged := false }
  | goesOn {rest : Nat} {r : Settled} (h : (o.values == values) = false) (hl : left = rest + 1)
      (hr : (engine.settleFrom rest (done + 1) (addPaths cleared o.cleared) o.values).outcome
        = .ok r) : SettledFrom engine left done cleared values o r

theorem settledFrom_of_outcome {engine : Engine} {left done : Nat} {cleared : List String}
    {values : Value} {r : Settled}
    (h : (engine.settleFrom left done cleared values).outcome = .ok r) :
    ∃ o, (engine.resolveOnce values).outcome = .ok o ∧
      SettledFrom engine left done cleared values o r := by
  unfold settleFrom at h
  obtain ⟨o, ho, h⟩ := Noted.outcome_bind_eq_ok.1 h
  refine ⟨o, ho, ?_⟩
  cases he : o.values == values with
  | true =>
    simp only [he, if_true] at h
    obtain rfl := Noted.outcome_pure_eq_ok.1 h
    exact .atRest he
  | false =>
    simp only [he, Bool.false_eq_true, if_false] at h
    cases left with
    | zero =>
      obtain rfl := Noted.outcome_pure_eq_ok.1 h
      exact .exhausted he rfl
    | succ rest => exact .goesOn he rfl h

variable {engine : Engine}

/-- A pass that leaves the values as they are is the last. -/
theorem settleFrom_of_beq {left done : Nat} {cleared : List String} {values : Value} {o : Outcome}
    (ho : (engine.resolveOnce values).outcome = .ok o) (he : (o.values == values) = true) :
    (engine.settleFrom left done cleared values).outcome = .ok
      { values := o.values, tree := o.tree, cleared := addPaths cleared o.cleared
        passes := done + 1, converged := true } := by
  unfold settleFrom
  refine Noted.outcome_bind_eq_ok.2 ⟨o, ho, ?_⟩
  simp only [he, if_true]
  rfl

section Paths

variable {known paths : List String}

theorem mem_addPaths {p : String} : p ∈ addPaths known paths ↔ p ∈ known ∨ p ∈ paths := by
  unfold addPaths
  induction paths generalizing known with
  | nil => simp
  | cons path rest ih =>
    rw [List.foldl_cons, ih, List.mem_cons]
    split
    · next hk =>
      have hmem : path ∈ known := List.contains_iff_mem.1 hk
      constructor
      · rintro (h | h)
        · exact Or.inl h
        · exact Or.inr (Or.inr h)
      · rintro (h | rfl | h)
        · exact Or.inl h
        · exact Or.inl hmem
        · exact Or.inr h
    · rw [List.mem_append, List.mem_singleton, or_assoc]

theorem nodup_addPaths (h : known.Nodup) : (addPaths known paths).Nodup := by
  unfold addPaths
  induction paths generalizing known with
  | nil => exact h
  | cons path rest ih =>
    rw [List.foldl_cons]
    split
    · exact ih h
    · next hk =>
      have hnew : path ∉ known := fun hm => hk (List.contains_iff_mem.2 hm)
      refine ih (List.nodup_append.2 ⟨h, by simp, fun p hp q hq => ?_⟩)
      rintro rfl
      exact hnew (List.mem_singleton.1 hq ▸ hp)

theorem addPaths_append (more : List String) :
    addPaths known (paths ++ more) = addPaths (addPaths known paths) more :=
  List.foldl_append

end Paths

/-- A pass, with the values that it began from. -/
structure Round where
  before : Value
  outcome : Outcome

/-- Passes run one after the other, the first on these values. -/
inductive Rounds (engine : Engine) : Value → List Round → Prop
  | nil {values : Value} : Rounds engine values []
  | cons {values : Value} {o : Outcome} {rounds : List Round}
      (first : (engine.resolveOnce values).outcome = .ok o)
      (rest : Rounds engine o.values rounds) : Rounds engine values (⟨values, o⟩ :: rounds)

namespace Rounds

variable {values : Value} {rounds : List Round} {last : Round}

theorem outcome_of_mem (h : Rounds engine values rounds) :
    ∀ round ∈ rounds, (engine.resolveOnce round.before).outcome = .ok round.outcome := by
  induction h with
  | nil => exact nofun
  | cons first rest ih =>
    intro round hr
    rcases List.mem_cons.1 hr with rfl | hr
    · exact first
    · exact ih round hr

/-- Passes on the same values are the same as far as they go. -/
theorem eq_of_length (h : Rounds engine values rounds) {more : List Round}
    (h' : Rounds engine values more) (hl : rounds.length = more.length) : rounds = more := by
  induction h generalizing more with
  | nil => exact (List.length_eq_zero_iff.1 hl.symm).symm
  | cons first rest ih =>
    cases h' with
    | nil => cases hl
    | cons first' rest' =>
      obtain rfl := Except.ok.inj (first.symm.trans first')
      exact congrArg _ (ih rest' (Nat.succ.inj hl))

/-- What holds of the first pass, and of each pass that follows one of which it holds, holds of
all. -/
theorem forall_of_step {J : Value → Outcome → Prop}
    (hJ : ∀ {before : Value} {o next : Outcome}, (engine.resolveOnce before).outcome = .ok o →
      J before o → (engine.resolveOnce o.values).outcome = .ok next → J o.values next)
    (h : Rounds engine values rounds)
    (hfirst : ∀ o, (engine.resolveOnce values).outcome = .ok o → J values o) :
    ∀ round ∈ rounds, J round.before round.outcome := by
  induction h with
  | nil => exact nofun
  | cons first rest ih =>
    intro round hr
    rcases List.mem_cons.1 hr with rfl | hr
    · exact hfirst _ first
    · exact ih (fun next hnext => hJ first (hfirst _ first) hnext) round hr

/-- What no pass changes is at the end as it was before any of them. -/
theorem unchanged {α : Type} {f : Value → α} (h : Rounds engine values (rounds ++ [last]))
    (hf : ∀ round ∈ rounds ++ [last], f round.outcome.values = f round.before) :
    f last.outcome.values = f values ∧
      ∀ round ∈ rounds ++ [last], f last.outcome.values = f round.before := by
  induction rounds generalizing values with
  | nil =>
    have hlast := hf last List.mem_cons_self
    cases h with
    | cons first rest =>
      exact ⟨hlast, fun round hr => List.mem_singleton.1 hr ▸ hlast⟩
  | cons round rounds ih =>
    have hfirst := hf round List.mem_cons_self
    cases h with
    | cons first rest =>
      obtain ⟨hend, hall⟩ := ih rest fun r hr => hf r (List.mem_cons_of_mem _ hr)
      refine ⟨hend.trans hfirst, fun r hr => ?_⟩
      rcases List.mem_cons.1 hr with rfl | hr
      · exact hend.trans hfirst
      · exact hall r hr

end Rounds

/-- What the repetition leaves is what the passes that were run come to. -/
structure HistoryFrom (engine : Engine) (left done : Nat) (cleared : List String) (values : Value)
    (rounds : List Round) (last : Round) (r : Settled) : Prop where
  ran : Rounds engine values (rounds ++ [last])
  values_eq : r.values = last.outcome.values
  tree_eq : r.tree = last.outcome.tree
  cleared_eq : r.cleared = addPaths cleared ((rounds ++ [last]).flatMap (·.outcome.cleared))
  passes_eq : r.passes = done + rounds.length + 1
  converged_eq : r.converged = (last.outcome.values == last.before)
  length_le : rounds.length ≤ left
  exhausted : r.converged = false → rounds.length = left

theorem exists_historyFrom (left : Nat) : ∀ {done : Nat} {cleared : List String} {values : Value}
    {r : Settled}, (engine.settleFrom left done cleared values).outcome = .ok r →
    ∃ rounds last, HistoryFrom engine left done cleared values rounds last r := by
  induction left with
  | zero =>
    intro done cleared values r h
    obtain ⟨o, ho, hcases⟩ := settledFrom_of_outcome h
    cases hcases with
    | atRest he => exact ⟨[], ⟨values, o⟩, .cons ho .nil, rfl, rfl, by simp, rfl, he.symm,
        Nat.le_refl 0, nofun⟩
    | exhausted he => exact ⟨[], ⟨values, o⟩, .cons ho .nil, rfl, rfl, by simp, rfl, he.symm,
        Nat.le_refl 0, fun _ => rfl⟩
    | goesOn _ hl => cases hl
  | succ left ih =>
    intro done cleared values r h
    obtain ⟨o, ho, hcases⟩ := settledFrom_of_outcome h
    cases hcases with
    | atRest he => exact ⟨[], ⟨values, o⟩, .cons ho .nil, rfl, rfl, by simp, rfl, he.symm,
        Nat.zero_le _, nofun⟩
    | exhausted _ hl => cases hl
    | goesOn _ hl hr =>
      obtain rfl := Nat.succ.inj hl
      obtain ⟨rounds, last, hist⟩ := ih hr
      refine ⟨⟨values, o⟩ :: rounds, last, .cons ho hist.ran, hist.values_eq, hist.tree_eq, ?_,
        ?_, hist.converged_eq, Nat.succ_le_succ hist.length_le,
        fun hc => congrArg Nat.succ (hist.exhausted hc)⟩
      · rw [hist.cleared_eq, List.cons_append, List.flatMap_cons, addPaths_append]
      · rw [hist.passes_eq, List.length_cons]
        omega

/-- The history of a resolution: the passes before the last one, and the last one. -/
abbrev History (engine : Engine) (values : Value) (rounds : List Round) (last : Round)
    (r : Settled) : Prop :=
  HistoryFrom engine (engine.maxPasses - 1) 0 [] values rounds last r

theorem exists_history {values : Value} {r : Resolution}
    (h : (engine.resolve values).outcome = .ok r) :
    (∃ rounds last, History engine values rounds last r.toSettled) ∧
      (validatorsOf engine.context r.tree).outcome = .ok r.validators ∧
      r.missing = missingFields engine.context r.tree r.values := by
  obtain ⟨settled, hsettled, h⟩ := Noted.outcome_bind_eq_ok.1 h
  obtain ⟨validators, hvalidators, h⟩ := Noted.outcome_bind_eq_ok.1 h
  obtain rfl := Noted.outcome_pure_eq_ok.1 h
  exact ⟨exists_historyFrom _ hsettled, hvalidators, rfl⟩

theorem HistoryFrom.mem_cleared {values : Value} {rounds : List Round} {last : Round} {r : Settled}
    (h : History engine values rounds last r) {p : String} :
    p ∈ r.cleared ↔ ∃ round ∈ rounds ++ [last], p ∈ round.outcome.cleared := by
  rw [h.cleared_eq, mem_addPaths, List.mem_flatMap]
  simp

end FormLogic.Engine
