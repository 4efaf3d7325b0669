import FormLogic.Proofs.ClearedPaths
import FormLogic.Proofs.DistinctPaths
import FormLogic.Proofs.NextPass
import FormLogic.Proofs.Replacements
import Mathlib.Data.List.Perm.Subperm

/-!
# Repeated passes come to rest

The measure of a pass is the number of instances whose value is not the default. A
value at its default stays there, a pass that writes brings one more to it, and the
next pass meets no new instances. So passes come to rest, whatever the conditions say
and however they refer to each other.
-/
namespace FormLogic

open FormLogic.Path (segments)
open Visibility

namespace Visibility

variable {ctx : Context} {nodes : List Node} {before : Value} {outcome next : Outcome}

/-- A pass keeps numbers finite. -/
theorem isFinite_of_run (hs : ctx.registry = Registry.standard)
    (hd : ∀ n ∈ nodes, n.finiteDefaults = true)
    (h : (run ctx nodes before).outcome = .ok outcome) (hb : before.isFinite = true) :
    outcome.values.isFinite = true := by
  have hp := Value.testsNumbers_finiteNumber
  exact everywhere_of_run hp (Context.replaces_of_standard hs hp hd) h hb

/-- The number of instances in a tree whose value is not the default. -/
def pending (ctx : Context) (values : Value) (tree : List Instance) : Nat :=
  (Instance.flattenAll tree).countP fun i => i.ownsValue && !i.isAtDefault ctx values

theorem isAtDefault_congr {i j : Instance} {v w : Value} (hn : i.node = j.node)
    (hv : v.get? i.path = w.get? j.path) : i.isAtDefault ctx v = j.isAtDefault ctx w := by
  simp only [Instance.isAtDefault, hn, hv]

/-- A pass brings no value away from its default. -/
theorem isAtDefault_of_run (hs : ctx.registry = Registry.standard) (hc : Clean ctx nodes)
    (hd : ∀ n ∈ nodes, n.finiteDefaults = true)
    (h : (run ctx nodes before).outcome = .ok outcome) {l : Location} (hl : l.In outcome.tree)
    (ho : l.self.ownsValue = true) (hb : l.self.isAtDefault ctx before = true) :
    l.self.isAtDefault ctx outcome.values = true := by
  obtain ⟨s, s', va⟩ := exists_visitAt hs hc h hl
  have hf := finiteDefaults_of_in hs hc hd h hl
  by_cases hr : l.clears = true → l.inKeptRows = true
  · cases va.owned ho with
    | leaf _ _ hkind =>
      rw [← hb]
      exact isAtDefault_congr rfl (va.kept_leaf hs ho hr hkind)
    | @repeater t m ht htk hkind =>
      -- A list without rows is kept without rows.
      obtain ⟨default, hdef⟩ := Context.resets_of_typeOf hs ht (by rw [htk]; rfl)
      rw [Instance.isAtDefault_eq ht hdef, hdef.of_repeater htk] at hb ⊢
      have hnil := get?_eq_nil_of_beq hb
      rcases (va.kept_repeater hs ho hr hkind).2.1 with he | ⟨xs, ys, hx, hy, hlen⟩
      · rw [← he]
        exact hb
      · rw [hnil] at hx
        obtain rfl := Value.arr.inj (Option.some.inj hx)
        rw [hy, List.eq_nil_of_length_eq_zero hlen.symm]
        rfl
  · have hcl : l.clears = true := Classical.byContradiction fun hcl => hr fun h => absurd h hcl
    have hk : l.inKeptRows = false := eq_false_of_ne_true fun hk => hr fun _ => hk
    exact (va.reset hs ho hf hcl hk).1

theorem countP_lt {α : Type} {p q : α → Bool} {xs : List α} (h : ∀ x ∈ xs, p x = true → q x = true)
    {x : α} (hx : x ∈ xs) (hp : p x = false) (hq : q x = true) : xs.countP p < xs.countP q := by
  obtain ⟨left, right, rfl⟩ := List.append_of_mem hx
  have hl := List.countP_mono_left fun y hy => h y (List.mem_append_left _ hy)
  have hr := List.countP_mono_left fun y hy =>
    h y (List.mem_append_right _ (List.mem_cons_of_mem x hy))
  simp only [List.countP_append, List.countP_cons, hp, hq]
  simp
  omega

/-- A pass that writes brings a value to its default. -/
theorem pending_lt (hs : ctx.registry = Registry.standard) (hc : Clean ctx nodes)
    (hd : ∀ n ∈ nodes, n.finiteDefaults = true)
    (h : (run ctx nodes before).outcome = .ok outcome) (hlog : outcome.cleared ≠ []) :
    pending ctx outcome.values outcome.tree < pending ctx before outcome.tree := by
  obtain ⟨p, hp⟩ := List.exists_mem_of_ne_nil _ hlog
  obtain ⟨l, hl, ho, rfl⟩ := exists_owner_of_mem_cleared h hp
  obtain ⟨s, s', va⟩ := exists_visitAt hs hc h hl
  obtain ⟨hcl, hk, hb⟩ := (va.mem_cleared_iff hs ho).1 hp
  have ha := (va.reset hs ho (finiteDefaults_of_in hs hc hd h hl) hcl hk).1
  refine countP_lt (fun i hi hpend => ?_) hl.mem_flattenAll (by simp [ha]) (by simp [ho, hb])
  obtain ⟨l', hl', rfl⟩ := Location.mem_flattenAll_iff.1 hi
  simp only [Bool.and_eq_true, Bool.not_eq_true'] at hpend ⊢
  refine ⟨hpend.1, eq_false_of_ne_true fun hb => ?_⟩
  rw [isAtDefault_of_run hs hc hd h hl' hpend.1 hb] at hpend
  cases hpend.2

theorem pending_lt_of_changed (hs : ctx.registry = Registry.standard) (hc : Clean ctx nodes)
    (hd : ∀ n ∈ nodes, n.finiteDefaults = true)
    (h : (run ctx nodes before).outcome = .ok outcome) (hf : before.isFinite = true)
    (hne : (outcome.values == before) = false) :
    pending ctx outcome.values outcome.tree < pending ctx before outcome.tree := by
  refine pending_lt hs hc hd h fun hlog => ?_
  rw [eq_of_cleared_nil h hlog, Value.beq_self_of_isFinite hf] at hne
  cases hne

/-- The next pass meets no instances that are new. -/
theorem pending_next (hs : ctx.registry = Registry.standard) (hc : Clean ctx nodes)
    (h : (run ctx nodes before).outcome = .ok outcome)
    (hnext : (run ctx nodes outcome.values).outcome = .ok next) (values : Value) :
    pending ctx values next.tree ≤ pending ctx values outcome.tree := by
  -- The paths of the next tree are distinct and all occur in the tree before it.
  let isPending : Instance → Bool := fun i => i.ownsValue && !i.isAtDefault ctx values
  have hpending : ∀ tree, pending ctx values tree =
      (((Instance.flattenAll tree).filter isPending).map (·.path)).length := fun tree => by
    rw [pending, List.countP_eq_length_filter, List.length_map]
  have hnodup : (((Instance.flattenAll next.tree).filter isPending).map (·.path)).Nodup := by
    refine (nodup_ownedPaths hc hnext).sublist (List.Sublist.map _ ?_)
    have hfilter : (Instance.flattenAll next.tree).filter isPending =
        ((Instance.flattenAll next.tree).filter Instance.ownsValue).filter
          fun i => !i.isAtDefault ctx values := by
      rw [List.filter_filter]
      exact List.filter_congr fun i _ => Bool.and_comm _ _
    rw [hfilter]
    exact List.filter_sublist
  rw [hpending, hpending]
  refine (hnodup.subperm fun p hp => ?_).length_le
  obtain ⟨i, hi, rfl⟩ := List.mem_map.1 hp
  obtain ⟨hi, hpend⟩ := List.mem_filter.1 hi
  obtain ⟨l, hl, rfl⟩ := Location.mem_flattenAll_iff.1 hi
  obtain ⟨l', hl', hm⟩ := exists_counterpart hs hc h hnext hl
  have howns := ownsValue_eq_of_matches hs hc hnext h hl hl' hm
  have hdefault : l'.self.isAtDefault ctx values = l.self.isAtDefault ctx values :=
    isAtDefault_congr hm.node_eq (by rw [hm.path_eq])
  refine List.mem_map.2 ⟨l'.self, List.mem_filter.2 ⟨hl'.mem_flattenAll, ?_⟩, hm.path_eq⟩
  simp only [isPending, howns, hdefault]
  exact hpend

end Visibility

namespace Engine

section Rest

variable {engine : Engine}

/-- As many passes as there are values away from their default bring the values to rest, and one
more shows it. -/
theorem settleFrom_converged (hs : engine.context.registry = Registry.standard)
    (hc : Clean engine.context engine.schema.components)
    (hd : ∀ n ∈ engine.schema.components, n.finiteDefaults = true) (left : Nat) :
    ∀ {done : Nat} {cleared : List String} {values : Value} {r : Settled},
      values.isFinite = true → (engine.settleFrom left done cleared values).outcome = .ok r →
      ∃ first, (engine.resolveOnce values).outcome = .ok first ∧
        (pending engine.context values first.tree ≤ left → r.converged = true ∧
          r.passes ≤ done + 1 + pending engine.context values first.tree) := by
  -- A pass that changes the values uses up one of those left and one of the pending values.
  induction left with
  | zero =>
    intro done cleared values r hf h
    obtain ⟨o, ho, hcases⟩ := settledFrom_of_outcome h
    refine ⟨o, ho, fun hp => ?_⟩
    cases hcases with
    | atRest => exact ⟨rfl, Nat.le_add_right _ _⟩
    | exhausted hne =>
      have := pending_lt_of_changed hs hc hd ho hf hne
      omega
    | goesOn _ hl => cases hl
  | succ left ih =>
    intro done cleared values r hf h
    obtain ⟨o, ho, hcases⟩ := settledFrom_of_outcome h
    refine ⟨o, ho, fun hp => ?_⟩
    cases hcases with
    | atRest => exact ⟨rfl, Nat.le_add_right _ _⟩
    | exhausted _ hl => cases hl
    | @goesOn rest r hne hl hr =>
      obtain rfl := Nat.succ.inj hl
      obtain ⟨next, hnext, hrest⟩ := ih (isFinite_of_run hs hd ho hf) hr
      have hlt := pending_lt_of_changed hs hc hd ho hf hne
      have hle := pending_next hs hc ho hnext o.values
      obtain ⟨hconv, hpasses⟩ := hrest (by omega)
      exact ⟨hconv, by omega⟩

/-- A form comes to rest when it may run one pass more than the first tree has values, and it takes
no more passes than that. -/
theorem resolve_converged (hs : engine.context.registry = Registry.standard)
    (hc : Clean engine.context engine.schema.components)
    (hd : ∀ n ∈ engine.schema.components, n.finiteDefaults = true) {values : Value}
    (hf : values.isFinite = true) {r : Resolution}
    (h : (engine.resolve values).outcome = .ok r) :
    ∃ first, (engine.resolveOnce values).outcome = .ok first ∧
      ((Instance.flattenAll first.tree).countP Instance.ownsValue + 1 ≤ engine.maxPasses →
        r.converged = true ∧
          r.passes ≤ (Instance.flattenAll first.tree).countP Instance.ownsValue + 1) := by
  obtain ⟨settled, hsettled, h⟩ := Noted.outcome_bind_eq_ok.1 h
  obtain ⟨validators, -, h⟩ := Noted.outcome_bind_eq_ok.1 h
  obtain rfl := Noted.outcome_pure_eq_ok.1 h
  obtain ⟨first, hfirst, hconv⟩ := settleFrom_converged hs hc hd _ hf hsettled
  refine ⟨first, hfirst, fun hmax => ?_⟩
  have hle : pending engine.context values first.tree ≤
      (Instance.flattenAll first.tree).countP Instance.ownsValue :=
    List.countP_mono_left fun i _ hi => (Bool.and_eq_true_iff.1 hi).1
  obtain ⟨hrest, hpasses⟩ := hconv (by omega)
  refine ⟨hrest, ?_⟩
  change settled.passes ≤ _
  omega

end Rest

namespace SelfHiding

/-- Hidden as long as it reads `x`. -/
def text : Node :=
  ({ type := "textfield", key := some "a" } : Node).withConditional false "a" (.str "x")

def engine : Engine where
  schema := ⟨[text]⟩
  context := ⟨Registry.standard, Conditions.declarative, none⟩
  maxPasses := 2
  maxPasses_pos := by decide

def values : Value := .obj [("a", .str "x")]

def first : Outcome where
  values := .obj [("a", .str "")]
  tree := [{ node := text, kind := some .leaf, path := "a", hidden := true }]
  cleared := ["a"]

theorem resolveOnce_eq : (engine.resolveOnce values).outcome = .ok first := by rfl

theorem exists_resolution : ∃ r, (engine.resolve values).outcome = .ok r ∧ r.cleared = ["a"] :=
  Noted.exists_of_toOption (engine.resolve values) (fun r => r.cleared) (by decide)

end SelfHiding

open SelfHiding in
/-- The text is cleared, shows again, and stays. -/
theorem resolve_converged_selfHiding :
    ∃ r, (engine.resolve values).outcome = .ok r ∧ r.converged = true ∧ r.passes ≤ 2 := by
  obtain ⟨r, hr, -⟩ := exists_resolution
  have hc : Clean engine.context engine.schema.components := by decide
  have hd : ∀ n ∈ engine.schema.components, n.finiteDefaults = true := by decide
  obtain ⟨o, ho, hconv⟩ := resolve_converged rfl hc hd (by decide) hr
  obtain rfl := Except.ok.inj (ho.symm.trans resolveOnce_eq)
  exact ⟨r, hr, hconv (by decide)⟩

end Engine
end FormLogic
