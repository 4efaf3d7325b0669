import FormLogic.Proofs.NextPass
import FormLogic.Proofs.Settling

/-!
# Rows whose numbers fit a word

Lists fit a word in memory, and passes add no rows. So every row of a tree has a number
that its path gives back.
-/
namespace FormLogic

open Visibility

namespace Value

/-- The length of a list fits a word; other values pass. -/
def fittingList : Value → Bool
  | .arr items => decide (items.length ≤ Literal.wordMax)
  | _ => true

/-- The length of every list in a value fits a word, as in memory. -/
def listsFit (v : Value) : Bool := v.everywhere fittingList

theorem rowCount_le_of_listsFit {v : Value} (h : v.listsFit = true) (path : String) :
    rowCount v path ≤ Literal.wordMax := by
  unfold rowCount
  cases hv : v.get? path with
  | none => simp
  | some x =>
    cases x with
    | arr items =>
      have hx := (everywhere_arr.1 (everywhere_of_follow h hv)).1
      rw [fittingList, decide_eq_true_eq] at hx
      simpa [items?] using hx
    | null | bool _ | num _ | str _ | obj _ => simp [items?]

end Value

namespace Visibility

variable {ctx : Context} {nodes : List Node} {before : Value} {outcome next : Outcome}

/-- Rows are as few as the lists were before the pass. -/
theorem rows_fit (hs : ctx.registry = Registry.standard) (hc : Clean ctx nodes)
    (h : (run ctx nodes before).outcome = .ok outcome) {bound : Nat}
    (hb : ∀ l : Location, l.In outcome.tree → l.self.ownsValue = true →
      l.self.kind = some .repeater → rowCount before l.self.path ≤ bound) {l : Location}
    (hl : l.In outcome.tree) : l.self.rows.length ≤ bound := by
  obtain ⟨s, s', va⟩ := exists_visitAt hs hc h hl
  cases va.visited.shaped with
  | container _ _ _ hr | leaf _ _ hr | keyless _ _ _ hr => simp [hr]
  | repeater hk ho => exact Nat.le_trans (va.rows_length_le hs ho hk) (hb l hl ho hk)

/-- The rows of the next pass are no more than those of the pass before it. -/
theorem rows_fit_next (hs : ctx.registry = Registry.standard) (hc : Clean ctx nodes)
    (h : (run ctx nodes before).outcome = .ok outcome)
    (hnext : (run ctx nodes outcome.values).outcome = .ok next) {bound : Nat}
    (hb : ∀ l : Location, l.In outcome.tree → l.self.rows.length ≤ bound) {l : Location}
    (hl : l.In next.tree) : l.self.rows.length ≤ bound := by
  refine rows_fit hs hc hnext (fun l hl ho hk => ?_) hl
  obtain ⟨l', hl', hm⟩ := exists_counterpart hs hc h hnext hl
  obtain ⟨t, t', vb⟩ := exists_visitAt hs hc h hl'
  have ho' := (ownsValue_eq_of_matches hs hc hnext h hl hl' hm).trans ho
  have hk' := (kind_eq_of_matches hs hc hnext h hl hl' hm).trans hk
  rw [← hm.path_eq, ← vb.rows_length_eq ho' hk']
  exact hb l' hl'

end Visibility

namespace Engine

variable {engine : Engine}

/-- The tree of a resolution is that of a pass whose rows have numbers that fit a word. -/
theorem exists_pass_of_resolve (hs : engine.context.registry = Registry.standard)
    (hc : Clean engine.context engine.schema.components) {values : Value}
    (hfit : values.listsFit = true) {r : Resolution}
    (h : (engine.resolve values).outcome = .ok r) :
    ∃ before o, (engine.resolveOnce before).outcome = .ok o ∧
      (∀ l : Location, l.In o.tree → l.self.rows.length ≤ Literal.wordMax) ∧
      r.values = o.values ∧ r.tree = o.tree ∧
      (validatorsOf engine.context o.tree).outcome = .ok r.validators ∧
      r.missing = missingFields engine.context o.tree o.values := by
  obtain ⟨⟨rounds, last, hist⟩, hvalidators, hmissing⟩ := exists_history h
  have hrows := hist.ran.forall_of_step
    (J := fun _ o => ∀ l : Location, l.In o.tree → l.self.rows.length ≤ Literal.wordMax)
    (fun ho hb hnext l hl => rows_fit_next hs hc ho hnext hb hl)
    (fun o ho l hl => rows_fit hs hc ho
      (fun l _ _ _ => Value.rowCount_le_of_listsFit hfit l.self.path) hl)
  have hlast : last ∈ rounds ++ [last] := List.mem_append_right _ List.mem_cons_self
  rw [hist.tree_eq] at hvalidators
  rw [hist.tree_eq, hist.values_eq] at hmissing
  exact ⟨last.before, last.outcome, hist.ran.outcome_of_mem last hlast, hrows last hlast,
    hist.values_eq, hist.tree_eq, hvalidators, hmissing⟩

end Engine
end FormLogic
