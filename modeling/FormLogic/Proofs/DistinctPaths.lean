import FormLogic.Proofs.LocatedVisit
import Mathlib.Data.List.Nodup

/-!
# Paths of the values in a tree

In the tree of a pass over a clean schema no two instances own the value at one path,
and every path that the pass logs is the path of one of them.
-/
namespace FormLogic

open FormLogic.Path (Apart segments)
open Visibility

namespace Instance

/-- The paths of the values that the instances of a tree own. -/
def ownedPaths (is : List Instance) : List String :=
  ((flattenAll is).filter ownsValue).map (·.path)

theorem ownedPaths_nil : ownedPaths [] = [] := rfl

theorem ownedPaths_append (is js : List Instance) :
    ownedPaths (is ++ js) = ownedPaths is ++ ownedPaths js := by
  simp only [ownedPaths, flattenAll_append, List.filter_append, List.map_append]

theorem ownedPaths_cons (i : Instance) (is : List Instance) :
    ownedPaths (i :: is) = ownedPaths [i] ++ ownedPaths is :=
  ownedPaths_append [i] is

theorem mem_ownedPaths {is : List Instance} {p : String} :
    p ∈ ownedPaths is ↔ ∃ j ∈ flattenAll is, j.ownsValue = true ∧ j.path = p := by
  simp only [ownedPaths, List.mem_map, List.mem_filter, and_assoc]

/-- The paths of an instance: its own one, those of its children, those of its rows. -/
theorem ownedPaths_singleton (i : Instance) :
    ownedPaths [i] = (if i.ownsValue then [i.path] else []) ++
      (ownedPaths i.children ++ i.rows.flatMap ownedPaths) := by
  rw [ownedPaths, filter_flattenAll_singleton, List.map_append, List.map_append, List.map_flatMap]
  split <;> rfl

/-- Searching is reading the flattened tree up to the first match. -/
theorem findIn?_eq_of_forall {path : String} {is : List Instance}
    (h : ∀ i ∈ is, i.find? path = i.flatten.find? fun j => j.ownsValue && j.path == path) :
    findIn? path is = (flattenAll is).find? fun j => j.ownsValue && j.path == path := by
  induction is with
  | nil => rfl
  | cons i rest ih =>
    rw [findIn?, flattenAll, List.find?_append, ← h i List.mem_cons_self,
      ← ih fun j hj => h j (List.mem_cons_of_mem i hj)]
    cases i.find? path <;> rfl

theorem find?_eq (path : String) (i : Instance) :
    i.find? path = i.flatten.find? fun j => j.ownsValue && j.path == path := by
  induction i using induction with
  | step i ihChildren ihRows =>
    have hrows : ∀ rows : List (List Instance), (∀ row ∈ rows, row ∈ i.rows) →
        findInRows? path rows =
          (flattenRows rows).find? fun j => j.ownsValue && j.path == path := by
      intro rows hmem
      induction rows with
      | nil => rfl
      | cons row rest ih =>
        rw [findInRows?, flattenRows, List.find?_append,
          ← findIn?_eq_of_forall (ihRows row (hmem row List.mem_cons_self)),
          ← ih fun r hr => hmem r (List.mem_cons_of_mem row hr)]
        cases findIn? path row <;> rfl
    have hchildren := findIn?_eq_of_forall ihChildren
    have hrows := hrows i.rows fun row hrow => hrow
    obtain ⟨node, kind, own, hidden, children, rows⟩ := i
    rw [find?, flatten, List.find?_cons, List.find?_append, ← hchildren, ← hrows]
    simp only [ownsValue]
    cases node.ownsSegment kind && own == path with
    | true => rfl
    | false => simp only [Bool.false_eq_true, if_false]; cases findIn? path children <;> rfl

theorem findIn?_eq (path : String) (is : List Instance) :
    findIn? path is = (flattenAll is).find? fun j => j.ownsValue && j.path == path :=
  findIn?_eq_of_forall fun i _ => find?_eq path i

/-- Where paths are distinct, an instance is found by its path. -/
theorem findIn?_of_mem {is : List Instance} (hd : (ownedPaths is).Nodup) {i : Instance}
    (hi : i ∈ flattenAll is) (ho : i.ownsValue = true) : findIn? i.path is = some i := by
  rw [findIn?_eq]
  cases hf : (flattenAll is).find? fun j => j.ownsValue && j.path == i.path with
  | none =>
    have := List.find?_eq_none.1 hf i hi
    simp [ho] at this
  | some j =>
    have hj := List.mem_of_find?_eq_some hf
    have hp := List.find?_some hf
    rw [Bool.and_eq_true, beq_iff_eq] at hp
    rw [List.inj_on_of_nodup_map hd (List.mem_filter.2 ⟨hj, hp.1⟩)
      (List.mem_filter.2 ⟨hi, ho⟩) hp.2]

end Instance

namespace Visibility

open Instance (ownedPaths)

variable {ctx : Context} {before : Value}

/-- Paths that differ from each other and are all beneath some nodes. -/
structure Distinct (ctx : Context) (nodes : List Node) (base : List String) (paths : List String) :
    Prop where
  nodup : paths.Nodup
  beneath : ∀ p ∈ paths, Beneath ctx nodes base (segments p)

theorem not_mem_of_apart {ps qs : List String}
    (h : ∀ p ∈ ps, ∀ q ∈ qs, Apart (segments p) (segments q)) : ∀ p ∈ ps, ∀ q ∈ qs, p ≠ q := by
  rintro p hp q hq rfl
  exact Path.not_apart_of_isPrefix List.prefix_rfl (h p hp p hq)

/-- Distinct below each node of a clean scope is distinct below all. -/
theorem distinct_of_sweep {nodes : List Node} {place : Place} {inherited : HideState}
    (hc : Clean ctx nodes) {s s' : Progress} {is : List Instance}
    (h : Sweep (fun n => visit ctx before n place inherited) nodes s is s')
    (hn : ∀ n ∈ nodes, Clean ctx [n] → ∀ {s i s'},
      Yields (visit ctx before n place inherited) s i s' →
      Distinct ctx [n] (segments place.base) (ownedPaths [i])) :
    Distinct ctx nodes (segments place.base) (ownedPaths is) := by
  induction h with
  | nil => exact ⟨List.nodup_nil, by simp [Instance.ownedPaths_nil]⟩
  | @cons n i ns is s m s' first rest ih =>
    have hs : CleanScope ctx ([n] ++ ns) := hc.scope
    have hfirst := hn n List.mem_cons_self (hc.of_mem List.mem_cons_self) first
    have hrest := ih ⟨hs.append_right, fun c hcn => hc.templates c (List.mem_cons_of_mem n hcn)⟩
      fun c hcn => hn c (List.mem_cons_of_mem n hcn)
    rw [Instance.ownedPaths_cons]
    constructor
    · rw [List.nodup_append]
      refine ⟨hfirst.nodup, hrest.nodup, not_mem_of_apart fun p hp q hq => ?_⟩
      exact hs.apart (hfirst.beneath p hp) (hrest.beneath q hq)
    · intro p hp
      rcases List.mem_append.1 hp with hp | hp
      · exact (hfirst.beneath p hp).of_mem List.mem_cons_self
      · obtain ⟨o, ho, hpre⟩ := hrest.beneath p hp
        exact ⟨o, by rw [← List.singleton_append, Context.scope_append]; simp [ho], hpre⟩

/-- Rows have distinct paths, each within one of the rows. -/
theorem distinct_of_rows {nodes : List Node} {place : Place} {path : String} {hidden : Bool}
    {state : HideState} (hc : Clean ctx nodes) {indices : List Nat} (hd : indices.Nodup)
    {s s' : Progress} {iss : List (List Instance)}
    (h : Sweep (fun j => nodes.mapM fun c =>
      visit ctx before c (place.inRow before path hidden j) state) indices s iss s')
    (hn : ∀ n ∈ nodes, Clean ctx [n] → ∀ {place : Place} {s i s'},
      Yields (visit ctx before n place state) s i s' →
      Distinct ctx [n] (segments place.base) (ownedPaths [i])) :
    (iss.flatMap ownedPaths).Nodup ∧ ∀ p ∈ iss.flatMap ownedPaths,
      ∃ j ∈ indices, Beneath ctx nodes (segments (Path.row path j)) (segments p) := by
  induction h with
  | nil => exact ⟨List.nodup_nil, by simp⟩
  | @cons j is js iss s m s' first rest ih =>
    rw [List.nodup_cons] at hd
    have hfirst := distinct_of_sweep hc (sweep_of_mapM first)
      fun n hm hcn {_ _ _} hy => hn n hm hcn hy
    obtain ⟨hnodup, hbeneath⟩ := ih hd.2
    rw [List.flatMap_cons]
    constructor
    · rw [List.nodup_append]
      refine ⟨hfirst.nodup, hnodup, not_mem_of_apart fun p hp q hq => ?_⟩
      obtain ⟨k, hk, hq⟩ := hbeneath q hq
      exact apart_of_rows (fun he : j = k => hd.1 (he ▸ hk)) (hfirst.beneath p hp) hq
    · intro p hp
      rcases List.mem_append.1 hp with hp | hp
      · exact ⟨j, List.mem_cons_self, hfirst.beneath p hp⟩
      · obtain ⟨k, hk, hb⟩ := hbeneath p hp
        exact ⟨k, List.mem_cons_of_mem j hk, hb⟩

/-- The path of a list and the paths in its rows, which are longer. -/
theorem distinct_of_list {n : Node} {place : Place} (ho : ctx.owns n = true)
    {paths : List String} (hd : paths.Nodup) {indices : List Nat} (hb : ∀ p ∈ paths, ∃ j ∈ indices,
      Beneath ctx n.children (segments (Path.row (place.pathOf ctx n) j)) (segments p)) :
    Distinct ctx [n] (segments place.base) (place.pathOf ctx n :: paths) := by
  constructor
  · rw [List.nodup_cons]
    refine ⟨fun hp => ?_, hd⟩
    obtain ⟨j, -, o, -, hpre⟩ := hb _ hp
    have hlen := hpre.length_le
    rw [Path.segments_row] at hlen
    simp only [List.length_append, List.length_cons] at hlen
    omega
  · intro p hp
    rcases List.mem_cons.1 hp with rfl | hp
    · exact place.beneath_of_owns ho List.prefix_rfl
    · obtain ⟨j, -, hp⟩ := hb p hp
      exact place.beneath_of_owns ho hp.prefix_of_row

/-- What a visit yields has distinct paths, all beneath the node. -/
theorem distinct_of_yields (ctx : Context) (before : Value) (n : Node) :
    Clean ctx [n] → ∀ {place : Place} {inherited : HideState} {s : Progress} {i : Instance}
      {s' : Progress}, Yields (visit ctx before n place inherited) s i s' →
      Distinct ctx [n] (segments place.base) (ownedPaths [i]) := by
  induction n using Node.induction with
  | step n ih =>
    intro hc place inherited s i s' h
    have hv := visited_of_yields h
    rw [Instance.ownedPaths_singleton, hv.ownsValue_eq, hv.path_eq]
    cases hv with
    | container hk hcs =>
      have ho := owns_of_container hk
      have hd := distinct_of_sweep (hc.children_of_container hk) hcs
        fun c hcn hcc {_ _ _} hy => ih c hcn hcc hy
      rw [Place.base_inside _ ho] at hd
      rw [ho]
      refine ⟨by simpa using hd.nodup, fun p hp => ?_⟩
      exact (hd.beneath p (by simpa using hp)).of_container hk
    | leaf | keyless =>
      refine ⟨?_, fun p hp => ?_⟩
      · cases ctx.owns n <;> simp [Instance.ownedPaths_nil]
      · cases ho : ctx.owns n with
        | false => simp [ho, Instance.ownedPaths_nil] at hp
        | true =>
          obtain rfl : p = place.pathOf ctx n := by simpa [ho, Instance.ownedPaths_nil] using hp
          exact place.beneath_of_owns ho List.prefix_rfl
    | @repeater t rows m s' ht hk ho hf ha hr =>
      obtain ⟨hnodup, hbeneath⟩ := distinct_of_rows (hc.children_of_repeater hk) List.nodup_range hr
        fun c hcn hcc {_ _ _ _} hy => ih c hcn hcc hy
      rw [ho, if_pos rfl, Instance.ownedPaths_nil, List.nil_append, List.singleton_append]
      exact distinct_of_list ho hnodup hbeneath

theorem Sweep.mem_cleared {α β : Type} {f : α → Pass β} {xs : List α} {ys : List β}
    {s s' : Progress} (h : Sweep f xs s ys s') {Q : β → String → Prop}
    (hf : ∀ x ∈ xs, ∀ {s y s'}, Yields (f x) s y s' →
      ∀ p ∈ s'.cleared, p ∈ s.cleared ∨ Q y p) :
    ∀ p ∈ s'.cleared, p ∈ s.cleared ∨ ∃ y ∈ ys, Q y p := by
  induction h with
  | nil => exact fun p hp => Or.inl hp
  | @cons x y xs ys s m s' first rest ih =>
    intro p hp
    rcases ih (fun x' hx' => hf x' (List.mem_cons_of_mem x hx')) p hp with hp | ⟨z, hz, hq⟩
    · rcases hf x List.mem_cons_self first p hp with hp | hq
      · exact Or.inl hp
      · exact Or.inr ⟨y, List.mem_cons_self, hq⟩
    · exact Or.inr ⟨z, List.mem_cons_of_mem y hz, hq⟩

theorem Applied.mem_cleared {t : NodeType} {n : Node} {path : String} {state : HideState}
    {s s' : Progress} (h : Applied t n path state s s') {p : String} (hp : p ∈ s'.cleared) :
    p ∈ s.cleared ∨ p = path := by
  cases h with
  | kept => exact Or.inl hp
  | wrote =>
    rcases List.mem_append.1 hp with hp | hp
    · exact Or.inl hp
    · exact Or.inr (List.mem_singleton.1 hp)

theorem mem_ownedPaths_of_mem {is : List Instance} {i : Instance} (hi : i ∈ is) {p : String}
    (hp : p ∈ ownedPaths [i]) : p ∈ ownedPaths is := by
  obtain ⟨left, right, rfl⟩ := List.append_of_mem hi
  rw [Instance.ownedPaths_append, Instance.ownedPaths_cons]
  simp [hp]

/-- A visit logs paths of instances that it yields. -/
theorem mem_cleared_of_yields (ctx : Context) (before : Value) (n : Node) :
    ∀ {place : Place} {inherited : HideState} {s : Progress} {i : Instance} {s' : Progress},
      Yields (visit ctx before n place inherited) s i s' →
      ∀ p ∈ s'.cleared, p ∈ s.cleared ∨ p ∈ ownedPaths [i] := by
  induction n using Node.induction with
  | step n ih =>
    intro place inherited s i s' h p hp
    have hv := visited_of_yields h
    rw [Instance.ownedPaths_singleton, hv.ownsValue_eq, hv.path_eq]
    cases hv with
    | container hk hcs =>
      rcases hcs.mem_cleared (fun c hcn {_ _ _} hy => ih c hcn hy) p hp with hp | ⟨c, hc, hpc⟩
      · exact Or.inl hp
      · exact Or.inr (by simp [mem_ownedPaths_of_mem hc hpc])
    | leaf _ _ ha =>
      split at ha
      · next hc =>
        have ho : ctx.owns n = true := by simp_all
        rcases ha.mem_cleared hp with hp | rfl
        · exact Or.inl hp
        · exact Or.inr (by simp [ho])
      · exact Or.inl (ha ▸ hp)
    | keyless => exact Or.inl hp
    | @repeater t rows m s' _ _ ho _ ha hr =>
      have hrow := hr.mem_cleared (fun j _ {_ _ _} hy =>
        (sweep_of_mapM hy).mem_cleared fun c hcn {_ _ _} hy => ih c hcn hy) p hp
      rcases hrow with hp | ⟨row, hrow, c, hc, hpc⟩
      · split at ha
        · rcases ha.mem_cleared hp with hp | rfl
          · exact Or.inl hp
          · exact Or.inr (by simp [ho])
        · exact Or.inl (ha ▸ hp)
      · refine Or.inr (List.mem_append_right _ (List.mem_append_right _ ?_))
        exact List.mem_flatMap.2 ⟨row, hrow, mem_ownedPaths_of_mem hc hpc⟩

section Pass

variable {nodes : List Node} {outcome : Outcome}

/-- No two instances of a tree own the value at one path. -/
theorem nodup_ownedPaths (hc : Clean ctx nodes)
    (h : (run ctx nodes before).outcome = .ok outcome) : (ownedPaths outcome.tree).Nodup :=
  (distinct_of_sweep hc (sweep_of_run h) fun n _ hn {_ _ _} hy =>
    distinct_of_yields ctx before n hn hy).nodup

/-- Every logged path is that of an instance with a value. -/
theorem exists_owner_of_mem_cleared (h : (run ctx nodes before).outcome = .ok outcome) {p : String}
    (hp : p ∈ outcome.cleared) :
    ∃ l : Location, l.In outcome.tree ∧ l.self.ownsValue = true ∧ l.self.path = p := by
  have hsweep := (sweep_of_run h).mem_cleared
    (fun n _ {_ _ _} hy => mem_cleared_of_yields ctx before n hy) p hp
  rcases hsweep with hnil | ⟨i, hi, hpi⟩
  · cases hnil
  · obtain ⟨j, hj, ho, hpath⟩ := Instance.mem_ownedPaths.1 (mem_ownedPaths_of_mem hi hpi)
    obtain ⟨l, hl, rfl⟩ := Location.mem_flattenAll_iff.1 hj
    exact ⟨l, hl, ho, hpath⟩

end Pass

end Visibility
end FormLogic
