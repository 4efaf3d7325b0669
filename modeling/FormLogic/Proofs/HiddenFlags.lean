import FormLogic.Proofs.ClearingPolicy

/-!
# Which instances a pass hides

An instance is hidden when its own condition or that of something it lies in hides it, on
the values that the pass began from. This holds of every registry and every schema. What
a declarative condition says depends on two values at most: the one at the path that it
names in the row around the instance, and the one at that path in the whole.
-/
namespace FormLogic

open FormLogic.Path (segments)

/-- A conditional looks at nothing but its source. -/
theorem Conditional.shows_congr {c : Conditional} {s t : Scope}
    (h : ∀ source, c.source? = some source → s.lookup source = t.lookup source) :
    c.shows s = c.shows t := by
  unfold shows
  cases hsource : c.source? with
  | none => cases c.shown? <;> rfl
  | some source =>
    cases c.shown? with
    | none => rfl
    | some shown => simp only [h source hsource]

theorem Conditions.declarative_congr {node : Node} {s t : Scope}
    (h : ∀ source, node.conditional.bind Conditional.source? = some source →
      s.lookup source = t.lookup source) : declarative node s = declarative node t := by
  unfold declarative
  cases hc : node.conditional with
  | none => rfl
  | some c =>
    rw [hc] at h
    simp only [Option.map_some, Conditional.shows_congr h]

namespace Location

/-- The path of the innermost row around the instance. -/
def rowPath? : Location → Option String
  | top _ => none
  | child above _ => above.rowPath?
  | inRow above index _ => some (Path.row above.self.path index)

theorem row_place (before : Value) (l : Location) :
    (l.place before).row = l.rowPath?.bind before.get? := by
  induction l with
  | top => rfl
  | child above i ih => exact ih
  | inRow above index i => rfl

/-- Where the conditional of the instance looks for the value it depends on. -/
def readPaths (l : Location) : List (List String) :=
  match l.self.node.conditional.bind Conditional.source? with
  | none => []
  | some source =>
    segments source :: (l.rowPath?.map fun row => segments row ++ segments source).toList

/-- Values that agree there hide the instance alike. -/
theorem hidesItself_congr {ctx : Context} (hd : ctx.conditions = Conditions.declarative)
    {l : Location} {v w : Value} (h : ∀ q ∈ l.readPaths, v.follow q = w.follow q) :
    l.hidesItself ctx v = l.hidesItself ctx w := by
  unfold hidesItself
  rw [hd]
  refine Conditions.declarative_congr fun source hsource => ?_
  rw [readPaths, hsource] at h
  have hwhole : v.get? source = w.get? source := h _ List.mem_cons_self
  -- Below the row it is the path of the row followed by that of the source.
  have hrow : ((l.place v).row.bind fun row => row.get? source) =
      (l.place w).row.bind fun row => row.get? source := by
    rw [row_place, row_place]
    cases hr : l.rowPath? with
    | none => rfl
    | some row =>
      have hbelow := h (segments row ++ segments source) (by simp [hr])
      rwa [Value.follow_append, Value.follow_append] at hbelow
  simp only [Scope.lookup, hwhole, hrow]

end Location

namespace Visibility

section Flags

variable {ctx : Context} {nodes : List Node} {before : Value} {outcome : Outcome} {l : Location}

/-- The flag of an instance is what its condition says, or what is handed down to it. -/
theorem hidden_eq (h : (run ctx nodes before).outcome = .ok outcome) (hl : l.In outcome.tree) :
    l.self.hidden = (l.hidesItself ctx before || l.inherited.hidden) := by
  obtain ⟨inherited, s, s', hin, hv⟩ := exists_visited h hl
  rw [hv.hidden_eq, ← hin, Location.hidesItself, hv.path_eq]
  rfl

/-- So an instance is hidden when it or something that it lies in hides itself. -/
theorem hidden_iff (h : (run ctx nodes before).outcome = .ok outcome) (hl : l.In outcome.tree) :
    l.self.hidden = true ↔ ∃ a ∈ l :: l.enclosing, a.hidesItself ctx before = true := by
  induction hl with
  | @top i hi =>
    rw [hidden_eq h (.top hi)]
    simp [Location.enclosing, Location.inherited]
  | @child above i ha hi ih =>
    rw [hidden_eq h (.child ha hi), Bool.or_eq_true]
    change _ ∨ above.self.hidden = true ↔ _
    simp only [ih, Location.enclosing, List.mem_cons, exists_eq_or_imp]
  | @inRow above index row i ha hr hi ih =>
    rw [hidden_eq h (.inRow ha hr hi), Bool.or_eq_true]
    change _ ∨ above.self.hidden = true ↔ _
    simp only [ih, Location.enclosing, List.mem_cons, exists_eq_or_imp]

end Flags

end Visibility
end FormLogic
