import FormLogic.Proofs.ClearedPaths
import FormLogic.Proofs.DistinctPaths
import FormLogic.Proofs.HiddenFlags
import FormLogic.Proofs.NextPass
import FormLogic.Proofs.ValueEquality

/-!
# Values that were wiped and show again

A pass reads conditions on the values before it and resets on that ground, and what it
resets stays reset. So a value can be wiped by an early pass and show in the end. This
happens only where a condition depends on a value that was reset as well: then the
condition hid the instance, and hides it no longer.
-/
namespace FormLogic

open FormLogic.Path (Apart segments)
open Visibility

namespace Location.Matches

variable {a b : Location}

theorem rowPath?_eq (h : b.Matches a) : b.rowPath? = a.rowPath? := by
  induction h with
  | top => rfl
  | child _ _ _ ih => exact ih
  | inRow ha => simp only [rowPath?, ha.path_eq]

theorem hidesItself_eq (h : b.Matches a) (ctx : Context) (v : Value) :
    b.hidesItself ctx v = a.hidesItself ctx v := by
  simp only [hidesItself, row_place, h.node_eq, h.path_eq, h.rowPath?_eq]

/-- What the one lies in matches what the other lies in. -/
theorem exists_of_mem (h : b.Matches a) : ∀ x ∈ b :: b.enclosing,
    ∃ y ∈ a :: a.enclosing, x.Matches y := by
  induction h with
  | top hn hp =>
    intro x hx
    obtain rfl := List.mem_singleton.1 hx
    exact ⟨_, List.mem_cons_self, .top hn hp⟩
  | child ha hn hp ih =>
    intro x hx
    rcases List.mem_cons.1 hx with rfl | hx
    · exact ⟨_, List.mem_cons_self, .child ha hn hp⟩
    · obtain ⟨y, hy, hm⟩ := ih x hx
      exact ⟨y, List.mem_cons_of_mem _ hy, hm⟩
  | inRow ha hn hp ih =>
    intro x hx
    rcases List.mem_cons.1 hx with rfl | hx
    · exact ⟨_, List.mem_cons_self, .inRow ha hn hp⟩
    · obtain ⟨y, hy, hm⟩ := ih x hx
      exact ⟨y, List.mem_cons_of_mem _ hy, hm⟩

end Location.Matches

namespace Visibility

section Pass

variable {ctx : Context} {nodes : List Node} {before : Value} {outcome : Outcome} {l : Location}

/-- What is reset and was not the default before does not read as before. -/
theorem not_beq_of_mem_cleared (hs : ctx.registry = Registry.standard) (hc : Clean ctx nodes)
    (h : (run ctx nodes before).outcome = .ok outcome) (hl : l.In outcome.tree)
    (ho : l.self.ownsValue = true) (hlog : l.self.path ∈ outcome.cleared) :
    (outcome.values == before) = false := by
  obtain ⟨s, s', va⟩ := exists_visitAt hs hc h hl
  obtain ⟨hcl, hk, hb⟩ := (va.mem_cleared_iff hs ho).1 hlog
  obtain ⟨t, ht, htk⟩ := va.exists_typeOf ho
  obtain ⟨default, hd⟩ := Context.resets_of_typeOf hs ht htk
  rw [Instance.isAtDefault_eq ht hd] at hb
  refine eq_false_of_ne_true fun he => ?_
  have hread := Value.beq_get? (Value.beq_symm he) l.self.path
  rcases va.cases_of_clears ho hcl hk ht hd with ⟨hb', -⟩ | ⟨-, hnew⟩
  · rw [hb] at hb'
    cases hb'
  · rw [hnew, hb] at hread
    cases hread

/-- A pass over a clean schema that leaves equal values leaves the values themselves. -/
theorem eq_of_beq_of_run (hs : ctx.registry = Registry.standard) (hc : Clean ctx nodes)
    (h : (run ctx nodes before).outcome = .ok outcome) (he : (outcome.values == before) = true) :
    outcome.values = before := by
  refine eq_of_cleared_nil h (Classical.byContradiction fun hlog => ?_)
  obtain ⟨p, hp⟩ := List.exists_mem_of_ne_nil _ hlog
  obtain ⟨l, hl, ho, rfl⟩ := exists_owner_of_mem_cleared h hp
  rw [not_beq_of_mem_cleared hs hc h hl ho hp] at he
  cases he

/-- A repeater that is not logged keeps its rows. -/
theorem unlogged_repeater (hs : ctx.registry = Registry.standard) (hc : Clean ctx nodes)
    (h : (run ctx nodes before).outcome = .ok outcome) (hl : l.In outcome.tree)
    (ho : l.self.ownsValue = true) (hk : l.self.kind = some .repeater)
    (hlog : l.self.path ∉ outcome.cleared) :
    rowCount outcome.values l.self.path = rowCount before l.self.path := by
  obtain ⟨s, s', va⟩ := exists_visitAt hs hc h hl
  have hrows := sameRows_of_rows (va.sweep_of_unlogged ho hk hlog)
  rw [rowCount_congr (va.after_eq ho), ← rowCount_congr (va.before_eq ho)]
  exact (rowCount_of_sameRows hrows).symm

end Pass

end Visibility

namespace Engine

section History

variable {engine : Engine} {values : Value} {rounds : List Round} {last : Round} {l : Location}

/-- Every instance of the last tree was there in all passes. -/
theorem Rounds.exists_matching (hs : engine.context.registry = Registry.standard)
    (hc : Clean engine.context engine.schema.components)
    (h : Rounds engine values (rounds ++ [last])) (hl : l.In last.outcome.tree) :
    ∀ round ∈ rounds ++ [last], ∃ l', Location.In round.outcome.tree l' ∧ l'.Matches l := by
  induction rounds generalizing values with
  | nil =>
    intro round hr
    obtain rfl := List.mem_singleton.1 hr
    exact ⟨l, hl, .refl l⟩
  | cons first rounds ih =>
    rw [List.cons_append] at h
    cases h with
    | @cons _ o _ hfirst hrest =>
    intro round hr
    rcases List.mem_cons.1 hr with rfl | hr
    · -- The pass after the first begins where the first ended.
      obtain ⟨next, more, hnext⟩ : ∃ next more, rounds ++ [last] = next :: more :=
        List.exists_cons_of_ne_nil (by simp)
      obtain ⟨l', hl', hm⟩ := ih hrest next (by simp [hnext])
      rw [hnext] at hrest
      cases hrest with
      | cons hran _ =>
        obtain ⟨l'', hl'', hm'⟩ := exists_counterpart hs hc hfirst hran hl'
        exact ⟨l'', hl'', hm'.trans hm⟩
    · exact ih hrest round hr

/-- An instance of the last tree whose path no pass logged has the value that was given: a leaf has
it unchanged, a repeater has its rows. -/
theorem HistoryFrom.kept_of_not_mem_cleared (hs : engine.context.registry = Registry.standard)
    (hc : Clean engine.context engine.schema.components) {r : Settled}
    (h : History engine values rounds last r) (hl : l.In r.tree) (ho : l.self.ownsValue = true)
    (hp : l.self.path ∉ r.cleared) :
    (l.self.kind = some .leaf → r.values.get? l.self.path = values.get? l.self.path) ∧
      (l.self.kind = some .repeater →
        rowCount r.values l.self.path = rowCount values l.self.path) := by
  rw [h.tree_eq] at hl
  rw [h.values_eq]
  have hlast := h.ran.outcome_of_mem last (List.mem_append_right _ List.mem_cons_self)
  have hround : ∀ round ∈ rounds ++ [last], ∃ l', Location.In round.outcome.tree l' ∧
      l'.self.ownsValue = true ∧ l'.self.kind = l.self.kind ∧ l'.self.path = l.self.path ∧
      l'.self.path ∉ round.outcome.cleared := by
    intro round hr
    obtain ⟨l', hl', hm⟩ := h.ran.exists_matching hs hc hl round hr
    have hran := h.ran.outcome_of_mem round hr
    refine ⟨l', hl', (ownsValue_eq_of_matches hs hc hlast hran hl hl' hm).trans ho,
      kind_eq_of_matches hs hc hlast hran hl hl' hm, hm.path_eq, fun hlog => hp ?_⟩
    exact h.mem_cleared.2 ⟨round, hr, hm.path_eq ▸ hlog⟩
  constructor
  · intro hk
    refine (h.ran.unchanged (f := fun v => v.get? l.self.path) fun round hr => ?_).1
    obtain ⟨l', hl', ho', hk', hpath, hlog⟩ := hround round hr
    obtain ⟨s, s', va⟩ := exists_visitAt hs hc (h.ran.outcome_of_mem round hr) hl'
    rw [← hpath]
    exact va.unlogged_leaf ho' (hk'.trans hk) hlog
  · intro hk
    refine (h.ran.unchanged (f := fun v => rowCount v l.self.path) fun round hr => ?_).1
    obtain ⟨l', hl', ho', hk', hpath, hlog⟩ := hround round hr
    rw [← hpath]
    exact unlogged_repeater hs hc (h.ran.outcome_of_mem round hr) hl' ho' (hk'.trans hk) hlog

/-- A value that was wiped and shows in the end was hidden, in a pass that reset it, by a condition
that hides no longer and that depends on a value which was reset itself. -/
theorem HistoryFrom.reads_cleared (hs : engine.context.registry = Registry.standard)
    (hd : engine.context.conditions = Conditions.declarative)
    (hc : Clean engine.context engine.schema.components) {r : Settled}
    (h : History engine values rounds last r) (hconv : r.converged = true) (hl : l.In r.tree)
    (ho : l.self.ownsValue = true) (hshown : l.self.hidden = false)
    (hp : l.self.path ∈ r.cleared) :
    ∃ round ∈ rounds, l.self.path ∈ round.outcome.cleared ∧ ∃ a ∈ l :: l.enclosing,
      a.hidesItself engine.context round.before = true ∧
      a.hidesItself engine.context r.values = false ∧
      ∃ q ∈ a.readPaths, ∃ p ∈ r.cleared, ¬ Apart (segments p) q := by
  have hlast := h.ran.outcome_of_mem last (List.mem_append_right _ List.mem_cons_self)
  have hend : r.values = last.before :=
    h.values_eq.trans (eq_of_beq_of_run hs hc hlast (h.converged_eq ▸ hconv))
  rw [h.tree_eq] at hl
  -- Nothing around the instance hides itself in the end.
  have hnone : ∀ a ∈ l :: l.enclosing, a.hidesItself engine.context r.values = false := by
    intro a ha
    refine eq_false_of_ne_true fun hself => ?_
    rw [hend] at hself
    rw [(hidden_iff hlast hl).2 ⟨a, ha, hself⟩] at hshown
    cases hshown
  -- In the pass that reset it, something did.
  obtain ⟨round, hr, hlog⟩ := h.mem_cleared.1 hp
  have hran := h.ran.outcome_of_mem round hr
  obtain ⟨l', hl', hm⟩ := h.ran.exists_matching hs hc hl round hr
  obtain ⟨s, s', va⟩ := exists_visitAt hs hc hran hl'
  have ho' := (ownsValue_eq_of_matches hs hc hlast hran hl hl' hm).trans ho
  obtain ⟨hcl, -, -⟩ := (va.mem_cleared_iff hs ho').1 (hm.path_eq ▸ hlog)
  rw [Location.clears, Bool.and_eq_true] at hcl
  obtain ⟨b, hb, hself⟩ := (hidden_iff hran hl').1 hcl.1
  obtain ⟨a, ha, hma⟩ := hm.exists_of_mem b hb
  rw [hma.hidesItself_eq] at hself
  have hmem : round ∈ rounds := by
    rcases List.mem_append.1 hr with hr | hr
    · exact hr
    · obtain rfl := List.mem_singleton.1 hr
      rw [← hend, hnone a ha] at hself
      cases hself
  refine ⟨round, hmem, hlog, a, ha, hself, hnone a ha, Classical.byContradiction fun hapart => ?_⟩
  -- Otherwise it would read the same in the end as in that pass.
  have hsame : a.hidesItself engine.context r.values =
      a.hidesItself engine.context round.before := by
    refine Location.hidesItself_congr hd fun q hq => (h.follow_eq fun p hp => ?_).2 round hr
    exact Classical.byContradiction fun hnot => hapart ⟨q, hq, p, hp, hnot⟩
  rw [hself, hnone a ha] at hsame
  cases hsame

/-- An instance of the tree that a resolution settles on, whose path was cleared, is hidden, unless
a condition that hid it depends on a value that was cleared; and one whose path was not cleared has
the value that was given. -/
theorem cleared_hidden_or_reads_cleared (hs : engine.context.registry = Registry.standard)
    (hd : engine.context.conditions = Conditions.declarative)
    (hc : Clean engine.context engine.schema.components) {r : Resolution}
    (h : (engine.resolve values).outcome = .ok r) (hconv : r.converged = true) :
    ∃ rounds last, History engine values rounds last r.toSettled ∧
      ∀ l : Location, l.In r.tree → l.self.ownsValue = true →
        (l.self.path ∈ r.cleared → l.self.hidden = true ∨
          ∃ round ∈ rounds, l.self.path ∈ round.outcome.cleared ∧ ∃ a ∈ l :: l.enclosing,
            a.hidesItself engine.context round.before = true ∧
            a.hidesItself engine.context r.values = false ∧
            ∃ q ∈ a.readPaths, ∃ p ∈ r.cleared, ¬ Apart (segments p) q) ∧
        (l.self.path ∉ r.cleared →
          (l.self.kind = some .leaf → r.values.get? l.self.path = values.get? l.self.path) ∧
          (l.self.kind = some .repeater →
            rowCount r.values l.self.path = rowCount values l.self.path)) := by
  obtain ⟨⟨rounds, last, hist⟩, -, -⟩ := exists_history h
  refine ⟨rounds, last, hist, fun l hl ho => ⟨fun hp => ?_, fun hp => ?_⟩⟩
  · cases hhidden : l.self.hidden with
    | true => exact Or.inl rfl
    | false => exact Or.inr (hist.reads_cleared hs hd hc hconv hl ho hhidden hp)
  · exact hist.kept_of_not_mem_cleared hs hc hl ho hp

end History

namespace Reopened

/-- Hidden and reset to `yes`. -/
def consent : Node :=
  { type := "textfield", key := some "a", hidden := true, defaultValue := some (.str "yes") }

/-- Shown with the answer `yes`. -/
def details : Node :=
  ({ type := "textfield", key := some "b" } : Node).withConditional true "a" (.str "yes")

theorem passes_pos : 0 < 4 := by decide

def engine : Engine where
  schema := ⟨[consent, details]⟩
  context := ⟨Registry.standard, Conditions.declarative, none⟩
  maxPasses := 4
  maxPasses_pos := passes_pos

def values : Value := .obj [("a", .str "no"), ("b", .str "kept")]

/-- The paths of a tree, with what is owned and hidden there. -/
def flags (tree : List Instance) : List (String × Bool × Bool) :=
  (Instance.flattenAll tree).map fun i => (i.path, i.ownsValue, i.hidden)

theorem exists_resolution : ∃ r, (engine.resolve values).outcome = .ok r ∧
    (r.converged, r.cleared, flags r.tree) =
      (true, ["a", "b"], [("a", true, true), ("b", true, false)]) :=
  Noted.exists_of_toOption (engine.resolve values)
    (fun r => (r.converged, r.cleared, flags r.tree)) (by decide)

/-- The details show in the end, and were cleared. -/
theorem exists_shown : ∃ r, (engine.resolve values).outcome = .ok r ∧ r.converged = true ∧
    r.cleared = ["a", "b"] ∧ ∃ l : Location, l.In r.tree ∧ l.self.path = "b" ∧
      l.self.ownsValue = true ∧ l.self.hidden = false := by
  obtain ⟨r, hr, hall⟩ := exists_resolution
  obtain ⟨hconv, hrest⟩ := Prod.mk.inj hall
  obtain ⟨hcleared, hflags⟩ := Prod.mk.inj hrest
  have hmem : ("b", true, false) ∈ flags r.tree := by
    rw [hflags]
    exact List.mem_cons_of_mem _ List.mem_cons_self
  obtain ⟨i, hi, he⟩ := List.mem_map.1 hmem
  obtain ⟨l, hl, rfl⟩ := Location.mem_flattenAll_iff.1 hi
  obtain ⟨hpath, hrest⟩ := Prod.mk.inj he
  obtain ⟨howns, hhidden⟩ := Prod.mk.inj hrest
  exact ⟨r, hr, hconv, hcleared, l, hl, hpath, howns, hhidden⟩

end Reopened

open Reopened in
/-- The details show in the end without what was entered: their condition hid them before the
consent, which it depends on, was reset. -/
theorem cleared_hidden_or_reads_cleared_reopened : ∃ r, (engine.resolve values).outcome = .ok r ∧
    ∃ l : Location, l.In r.tree ∧ l.self.path = "b" ∧ l.self.hidden = false ∧
      ∃ a ∈ l :: l.enclosing, ∃ q ∈ a.readPaths, ∃ p ∈ r.cleared, ¬ Apart (segments p) q := by
  obtain ⟨r, hr, hconv, hcleared, l, hl, hpath, ho, hshown⟩ := exists_shown
  have hc : Clean engine.context engine.schema.components := by decide
  obtain ⟨rounds, last, -, hall⟩ := cleared_hidden_or_reads_cleared rfl rfl hc hr hconv
  have hp : l.self.path ∈ r.cleared := by
    rw [hcleared, hpath]
    decide
  refine ⟨r, hr, l, hl, hpath, hshown, ?_⟩
  rcases (hall l hl ho).1 hp with hhidden | ⟨round, -, -, a, ha, -, -, hreads⟩
  · rw [hshown] at hhidden
    cases hhidden
  · exact ⟨a, ha, hreads⟩

/-- A value whose path was cleared can show in the end. -/
theorem shown_and_cleared : ¬ ∀ (engine : Engine) (values : Value) (r : Resolution),
    engine.context.registry = Registry.standard →
    engine.context.conditions = Conditions.declarative →
    Clean engine.context engine.schema.components → (engine.resolve values).outcome = .ok r →
    r.converged = true → ∀ l : Location, l.In r.tree → l.self.ownsValue = true →
      l.self.path ∈ r.cleared → l.self.hidden = true := by
  intro hall
  obtain ⟨r, hr, hconv, hcleared, l, hl, hpath, ho, hshown⟩ := Reopened.exists_shown
  have hp : l.self.path ∈ r.cleared := by
    rw [hcleared, hpath]
    decide
  have hhidden := hall Reopened.engine Reopened.values r rfl rfl (by decide) hr hconv l hl ho hp
  rw [hshown] at hhidden
  cases hhidden

end Engine
end FormLogic
