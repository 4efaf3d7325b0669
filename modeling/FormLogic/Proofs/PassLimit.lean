import FormLogic.Proofs.Settling

/-!
# Runs under different limits

A limit says when to give up, and nothing else. Up to the smaller of two limits the passes are
the same ones: a run that comes to rest under it does not see the larger one, and a run that
it cuts short is the beginning of the run under the larger one.
-/
namespace FormLogic

/-- What follows a result depends on that result alone. -/
theorem Noted.bind_congr_of_ok {α β : Type} {x : Noted α} {f g : α → Noted β} {a : α}
    (hx : x.outcome = .ok a) (h : f a = g a) : x >>= f = x >>= g := by
  obtain ⟨notes, outcome⟩ := x
  obtain rfl : outcome = .ok a := hx
  change Noted.andThen _ f = Noted.andThen _ g
  rw [Noted.andThen_ok, Noted.andThen_ok, h]

namespace Engine

open Visibility

section Limits

/-- The same engine with another limit. -/
def limitedTo (engine : Engine) (limit : Nat) (h : 0 < limit) : Engine :=
  { engine with maxPasses := limit, maxPasses_pos := h }

variable {engine : Engine} {left more done : Nat} {cleared : List String} {values : Value}

theorem settleFrom_limitedTo {limit : Nat} (h : 0 < limit) :
    (engine.limitedTo limit h).settleFrom left done cleared values =
      engine.settleFrom left done cleared values := by
  induction left generalizing done cleared values with
  | zero => rfl
  | succ left ih =>
    rw [settleFrom, settleFrom]
    simp only [ih]
    rfl

/-- A run that comes to rest has passes to spare, and more of them make no difference. -/
theorem settleFrom_of_converged (hle : left ≤ more) {r : Settled}
    (h : (engine.settleFrom left done cleared values).outcome = .ok r) (hc : r.converged = true) :
    engine.settleFrom more done cleared values = engine.settleFrom left done cleared values := by
  induction left generalizing more done cleared values with
  | zero =>
    obtain ⟨o, ho, hcases⟩ := settledFrom_of_outcome h
    cases hcases with
    | atRest he =>
      rw [settleFrom, settleFrom]
      refine Noted.bind_congr_of_ok ho ?_
      simp only [he, if_true]
    | exhausted => cases hc
    | goesOn _ hl => cases hl
  | succ left ih =>
    obtain ⟨more, rfl⟩ : ∃ k, more = k + 1 := ⟨more - 1, by omega⟩
    obtain ⟨o, ho, hcases⟩ := settledFrom_of_outcome h
    rw [settleFrom, settleFrom]
    refine Noted.bind_congr_of_ok ho ?_
    cases hcases with
    | atRest he => simp only [he, if_true]
    | exhausted => cases hc
    | goesOn he hl hr =>
      obtain rfl := Nat.succ.inj hl
      simp only [he, Bool.false_eq_true, if_false]
      exact ih (Nat.le_of_succ_le_succ hle) hr

theorem prefix_addPaths (known paths : List String) : known <+: addPaths known paths := by
  unfold addPaths
  induction paths generalizing known with
  | nil => exact List.prefix_rfl
  | cons path rest ih =>
    rw [List.foldl_cons]
    refine List.IsPrefix.trans ?_ (ih _)
    split
    · exact List.prefix_rfl
    · exact List.prefix_append known [path]

/-- Passes log on, after all that was logged before, and they are counted on. -/
theorem grows_of_settleFrom {r : Settled}
    (h : (engine.settleFrom left done cleared values).outcome = .ok r) :
    cleared <+: r.cleared ∧ done < r.passes := by
  obtain ⟨rounds, last, hist⟩ := exists_historyFrom left h
  rw [hist.cleared_eq, hist.passes_eq]
  exact ⟨prefix_addPaths _ _, by omega⟩

/-- With more passes left, a run that was cut short goes on from where it stood. -/
theorem settleFrom_of_cut (hle : left ≤ more) {r r' : Settled}
    (h : (engine.settleFrom left done cleared values).outcome = .ok r) (hc : r.converged = false)
    (h' : (engine.settleFrom more done cleared values).outcome = .ok r') :
    r.cleared <+: r'.cleared ∧ (r.passes < r'.passes ∨ r.passes = r'.passes ∧ left = more) := by
  induction left generalizing more done cleared values with
  | zero =>
    cases more with
    | zero =>
      obtain rfl := Except.ok.inj (h.symm.trans h')
      exact ⟨List.prefix_rfl, Or.inr ⟨rfl, rfl⟩⟩
    | succ more =>
      obtain ⟨o, ho, hcases⟩ := settledFrom_of_outcome h
      obtain ⟨o', ho', hcases'⟩ := settledFrom_of_outcome h'
      obtain rfl := Except.ok.inj (ho.symm.trans ho')
      cases hcases with
      | atRest => cases hc
      | goesOn _ hl => cases hl
      | exhausted he =>
        cases hcases' with
        | atRest he' => rw [he] at he'; cases he'
        | exhausted _ hl => cases hl
        | goesOn _ _ hr =>
          obtain ⟨hcleared, hpasses⟩ := grows_of_settleFrom hr
          exact ⟨hcleared, Or.inl hpasses⟩
  | succ left ih =>
    obtain ⟨more, rfl⟩ : ∃ k, more = k + 1 := ⟨more - 1, by omega⟩
    obtain ⟨o, ho, hcases⟩ := settledFrom_of_outcome h
    obtain ⟨o', ho', hcases'⟩ := settledFrom_of_outcome h'
    obtain rfl := Except.ok.inj (ho.symm.trans ho')
    cases hcases with
    | atRest => cases hc
    | exhausted _ hl => cases hl
    | goesOn he hl hr =>
      obtain rfl := Nat.succ.inj hl
      cases hcases' with
      | atRest he' => rw [he] at he'; cases he'
      | exhausted _ hl => cases hl
      | goesOn _ hl' hr' =>
        obtain rfl := Nat.succ.inj hl'
        obtain ⟨hcleared, hpasses⟩ := ih (Nat.le_of_succ_le_succ hle) hr hr'
        exact ⟨hcleared, hpasses.imp_right fun hp => ⟨hp.1, congrArg (· + 1) hp.2⟩⟩

/-- A larger limit only continues a resolution. If it comes to rest under the smaller limit, the
larger one changes nothing of it. If the smaller limit cuts it short, what it logged is where the
log under the larger one begins, and under that it runs more passes, or as many when the limits are
the same. -/
theorem resolve_limitedTo {limit : Nat} (hpos : 0 < limit) (hle : engine.maxPasses ≤ limit)
    {r : Resolution} (h : (engine.resolve values).outcome = .ok r) :
    (r.converged = true →
      (engine.limitedTo limit hpos).resolve values = engine.resolve values) ∧
    (r.converged = false → ∀ r',
      ((engine.limitedTo limit hpos).resolve values).outcome = .ok r' →
      r.cleared <+: r'.cleared ∧
        (r.passes < r'.passes ∨ r.passes = r'.passes ∧ engine.maxPasses = limit)) := by
  have hsettle : (engine.limitedTo limit hpos).settle values =
      engine.settleFrom (limit - 1) 0 [] values := settleFrom_limitedTo hpos
  obtain ⟨settled, hsettled, hrest⟩ := Noted.outcome_bind_eq_ok.1 h
  obtain ⟨validators, hvalidators, hrest⟩ := Noted.outcome_bind_eq_ok.1 hrest
  obtain rfl := Noted.outcome_pure_eq_ok.1 hrest
  have hleft : engine.maxPasses - 1 ≤ limit - 1 := Nat.sub_le_sub_right hle 1
  constructor
  · intro hc
    rw [resolve, resolve, hsettle, settleFrom_of_converged hleft hsettled hc]
    rfl
  · intro hc r' h'
    obtain ⟨settled', hsettled', hrest'⟩ := Noted.outcome_bind_eq_ok.1 h'
    obtain ⟨validators', -, hrest'⟩ := Noted.outcome_bind_eq_ok.1 hrest'
    obtain rfl := Noted.outcome_pure_eq_ok.1 hrest'
    rw [hsettle] at hsettled'
    obtain ⟨hcleared, hpasses⟩ := settleFrom_of_cut hleft hsettled hc hsettled'
    refine ⟨hcleared, hpasses.imp_right fun hp => ⟨hp.1, ?_⟩⟩
    have := engine.maxPasses_pos
    have := hp.2
    omega

end Limits

namespace Chain

/-- Hidden when the answer under another key is `yes`, and reset to `yes` then. -/
def answer (key source : String) : Node :=
  ({ type := "textfield", key := some key, defaultValue := some (.str "yes") }
    : Node).withConditional false source (.str "yes")

def first : Node :=
  { type := "textfield", key := some "a", hidden := true, defaultValue := some (.str "yes") }

def engine : Engine where
  schema := ⟨[first, answer "b" "a", answer "c" "b"]⟩
  context := ⟨Registry.standard, Conditions.declarative, none⟩
  maxPasses := 2
  maxPasses_pos := Nat.two_pos

def values : Value := .obj [("a", .str "no"), ("b", .str "no"), ("c", .str "no")]

theorem exists_cut : ∃ r, (engine.resolve values).outcome = .ok r ∧ r.converged = false :=
  Noted.exists_of_toOption (engine.resolve values) (fun r => r.converged) (by decide)

theorem exists_rest : ∃ r, ((engine.limitedTo 4 (by decide)).resolve values).outcome = .ok r ∧
    r.converged = true :=
  Noted.exists_of_toOption ((engine.limitedTo 4 (by decide)).resolve values) (fun r => r.converged)
    (by decide)

end Chain

open Chain in
/-- Two passes do not reach the last answer. Four do, and then it does not matter how many more may
be run. -/
theorem resolve_limitedTo_chain : ∃ r r', (engine.resolve values).outcome = .ok r ∧
    ((engine.limitedTo 4 (by decide)).resolve values).outcome = .ok r' ∧
    r.cleared <+: r'.cleared ∧ r.passes < r'.passes ∧
    ((engine.limitedTo 9 (by decide)).resolve values).outcome = .ok r' := by
  obtain ⟨r, hr, hcut⟩ := exists_cut
  obtain ⟨r', hr', hrest⟩ := exists_rest
  obtain ⟨hcleared, hpasses⟩ := (resolve_limitedTo (by decide) (by decide) hr).2 hcut r' hr'
  have hsame := (resolve_limitedTo (by decide : 0 < 9) (by decide) hr').1 hrest
  refine ⟨r, r', hr, hr', hcleared, hpasses.resolve_right fun he => ?_, ?_⟩
  · exact absurd he.2 (by decide)
  · rw [← hr', ← hsame]
    rfl

end Engine
end FormLogic
