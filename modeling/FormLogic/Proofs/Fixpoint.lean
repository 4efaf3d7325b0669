import FormLogic.Proofs.HiddenFlags
import FormLogic.Proofs.Replacements
import FormLogic.Proofs.Settling
import FormLogic.Proofs.ValueEquality

/-!
# What a resolution that converged is a fixpoint of

The tree of a resolution is that of its last pass, and validators and missing values are
derived from it, but its values are those after that pass. When the pass left the values
as they are the two belong together: another pass, and another resolution, finds the same.
The stop test compares with an equality that takes the two floating zeros for one, so this
asks that no negative zero is stored or put in place of a value.
-/
namespace FormLogic.Engine

open Visibility

section Fixpoint

variable {engine : Engine} {values : Value} {rounds : List Round} {last : Round}

/-- What a pass keeps true of the values is true wherever a pass of the history begins or ends. -/
theorem Rounds.invariant {I : Value → Prop} (hI : ∀ {before : Value} {o : Outcome},
      (engine.resolveOnce before).outcome = .ok o → I before → I o.values)
    (h : Rounds engine values rounds) (hv : I values) :
    ∀ round ∈ rounds, I round.before ∧ I round.outcome.values :=
  h.forall_of_step (J := fun before o => I before ∧ I o.values)
    (fun _ hb hnext => ⟨hb.2, hI hnext hb.2⟩) fun _ ho => ⟨hv, hI ho hv⟩

/-- A history that ends with values that stand still ends where its last pass began. -/
theorem HistoryFrom.last_eq {r : Settled}
    (hz : engine.context.Replaces engine.schema.components Value.unsignedZero)
    (hv : values.zerosUnsigned = true) (h : History engine values rounds last r)
    (hc : r.converged = true) : last.outcome.values = last.before := by
  obtain ⟨hbefore, hafter⟩ := h.ran.invariant (I := fun v => v.zerosUnsigned = true)
    (fun ho hb => everywhere_of_run Value.testsNumbers_unsignedZero hz ho hb) hv last
    (List.mem_append_right _ List.mem_cons_self)
  rw [h.converged_eq] at hc
  exact Value.eq_of_beq_of_zerosUnsigned hc hafter hbefore

/-- A form whose first pass leaves the values as they are is resolved by that pass. -/
theorem resolve_of_beq {o : Outcome} {validators : ValidatorMap}
    (ho : (engine.resolveOnce values).outcome = .ok o) (he : (o.values == values) = true)
    (hv : (validatorsOf engine.context o.tree).outcome = .ok validators) :
    (engine.resolve values).outcome = .ok
      { values := o.values, tree := o.tree, cleared := addPaths [] o.cleared, passes := 1
        converged := true, validators
        missing := missingFields engine.context o.tree o.values } :=
  Noted.outcome_bind_eq_ok.2 ⟨_, settleFrom_of_beq ho he, Noted.outcome_bind_eq_ok.2 ⟨_, hv, rfl⟩⟩

/-- A resolution runs at least one pass and no more than it may. When it converges, its values and
its tree are a fixpoint: another pass over the values finds the same values and the same tree, whose
flags are those that the conditions give on these values, and resolving them again takes one pass
and comes to the same. When it does not, it has run all passes, and the last of them changed the
values. -/
theorem resolve_fixpoint
    (hz : engine.context.Replaces engine.schema.components Value.unsignedZero)
    (hv : values.zerosUnsigned = true) {r : Resolution}
    (h : (engine.resolve values).outcome = .ok r) :
    1 ≤ r.passes ∧ r.passes ≤ engine.maxPasses ∧
      (r.converged = true →
        (∃ o, (engine.resolveOnce r.values).outcome = .ok o ∧ o.values = r.values ∧
          o.tree = r.tree) ∧
        (∀ l : Location, l.In r.tree → (l.self.hidden = true ↔
          ∃ a ∈ l :: l.enclosing, a.hidesItself engine.context r.values = true)) ∧
        ∃ again, (engine.resolve r.values).outcome = .ok again ∧ again.passes = 1 ∧
          again.converged = true ∧ again.values = r.values ∧ again.tree = r.tree ∧
          again.validators = r.validators ∧ again.missing = r.missing) ∧
      (r.converged = false → r.passes = engine.maxPasses ∧
        ∃ rounds last, History engine values rounds last r.toSettled ∧
          (last.outcome.values == last.before) = false) := by
  obtain ⟨⟨rounds, last, hist⟩, hvalidators, hmissing⟩ := exists_history h
  have hlast := hist.ran.outcome_of_mem last (List.mem_append_right _ List.mem_cons_self)
  have hpasses := hist.passes_eq
  have hle := hist.length_le
  have hpos := engine.maxPasses_pos
  refine ⟨by omega, by omega, fun hc => ?_, fun hc => ?_⟩
  · -- The last pass began with the values that it left, and so it is the pass over them.
    have hrest : (last.outcome.values == last.before) = true := hist.converged_eq ▸ hc
    have hend := hist.last_eq hz hv hc
    have hvalues := hist.values_eq
    have htree := hist.tree_eq
    rw [hend] at hvalues
    rw [← hvalues] at hlast hrest
    rw [htree] at hvalidators
    refine ⟨⟨last.outcome, hlast, hist.values_eq.symm, htree.symm⟩, fun l hl => ?_, _,
      resolve_of_beq hlast hrest hvalidators, rfl, rfl, hist.values_eq.symm, htree.symm, rfl, ?_⟩
    · rw [htree] at hl
      exact hidden_iff hlast hl
    · rw [hmissing, htree, hist.values_eq]
  · have hall := hist.exhausted hc
    exact ⟨by omega, rounds, last, hist, hist.converged_eq ▸ hc⟩

end Fixpoint

namespace SecondOrder

/-- Hidden and reset to `yes`. -/
def newsletter : Node :=
  { type := "textfield", key := some "a", hidden := true, defaultValue := some (.str "yes") }

/-- Shown with the answer `no`. -/
def reason : Node :=
  ({ type := "textfield", key := some "b" } : Node).withConditional true "a" (.str "no")

def engine : Engine where
  schema := ⟨[newsletter, reason]⟩
  context := ⟨Registry.standard, Conditions.declarative, none⟩
  maxPasses := 4
  maxPasses_pos := by decide

def values : Value := .obj [("a", .str "no"), ("b", .str "too many mails")]

theorem exists_resolution : ∃ r, (engine.resolve values).outcome = .ok r ∧
    (r.converged, r.passes) = (true, 3) :=
  Noted.exists_of_toOption (engine.resolve values) (fun r => (r.converged, r.passes)) (by decide)

theorem replaces : engine.context.Replaces engine.schema.components Value.unsignedZero :=
  Context.replaces_of_standard rfl Value.testsNumbers_unsignedZero (by decide)

end SecondOrder

open SecondOrder in
/-- The first pass resets one answer, the second the other, and the third finds nothing to do: what
they leave is resolved by a single pass. -/
theorem resolve_fixpoint_secondOrder : ∃ r, (engine.resolve values).outcome = .ok r ∧
    r.passes = 3 ∧ ∃ again, (engine.resolve r.values).outcome = .ok again ∧ again.passes = 1 ∧
      again.tree = r.tree := by
  obtain ⟨r, hr, hcp⟩ := exists_resolution
  obtain ⟨hc, hp⟩ := Prod.mk.inj hcp
  obtain ⟨-, -, again, hagain, hone, -, -, htree, -⟩ :=
    (resolve_fixpoint replaces (by decide) hr).2.2.1 hc
  exact ⟨r, hr, hp, again, hagain, hone, htree⟩

end FormLogic.Engine
