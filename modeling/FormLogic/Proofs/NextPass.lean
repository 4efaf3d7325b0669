import FormLogic.Proofs.PassEffect

/-!
# A pass and the next one

Nodes do not change from one pass to the next, and rows only disappear. So each
instance of the next pass has a counterpart in the tree of the one before it, with the
same node and the same path, at the end of the same way down.
-/
namespace FormLogic

/-- Two locations end in instances of one node with one path, and so do the ways down to them. -/
inductive Location.Matches : Location → Location → Prop
  | top {i j : Instance} (hn : j.node = i.node) (hp : j.path = i.path) : Matches (.top j) (.top i)
  | child {a b : Location} {i j : Instance} (ha : b.Matches a) (hn : j.node = i.node)
      (hp : j.path = i.path) : Matches (.child b j) (.child a i)
  | inRow {a b : Location} {index : Nat} {i j : Instance} (ha : b.Matches a)
      (hn : j.node = i.node) (hp : j.path = i.path) : Matches (.inRow b index j) (.inRow a index i)

namespace Location.Matches

variable {a b c : Location}

theorem node_eq (h : b.Matches a) : b.self.node = a.self.node := by
  cases h with
  | top hn | child _ hn | inRow _ hn => exact hn

theorem path_eq (h : b.Matches a) : b.self.path = a.self.path := by
  cases h with
  | top _ hp | child _ _ hp | inRow _ _ hp => exact hp

theorem refl (a : Location) : a.Matches a := by
  induction a with
  | top => exact .top rfl rfl
  | child _ _ ih => exact .child ih rfl rfl
  | inRow _ _ _ ih => exact .inRow ih rfl rfl

theorem trans (h : c.Matches b) (h' : b.Matches a) : c.Matches a := by
  induction h' generalizing c with
  | top hn hp =>
    cases h with
    | top hn' hp' => exact .top (hn'.trans hn) (hp'.trans hp)
  | child _ hn hp ih =>
    cases h with
    | child ha hn' hp' => exact .child (ih ha) (hn'.trans hn) (hp'.trans hp)
  | inRow _ hn hp ih =>
    cases h with
    | inRow ha hn' hp' => exact .inRow (ih ha) (hn'.trans hn) (hp'.trans hp)

end Location.Matches

namespace Visibility

variable {ctx : Context} {nodes : List Node} {before : Value} {outcome next : Outcome}

theorem path_of_child (hs : ctx.registry = Registry.standard) (hc : Clean ctx nodes)
    (h : (run ctx nodes before).outcome = .ok outcome) {above : Location} {i : Instance}
    (hl : Location.In outcome.tree (.child above i)) :
    i.path = i.node.pathBelow above.self.path (ctx.kindOf i.node) none := by
  obtain ⟨s, s', va⟩ := exists_visitAt hs hc h hl
  exact va.visited.path_eq

theorem path_of_inRow (hs : ctx.registry = Registry.standard) (hc : Clean ctx nodes)
    (h : (run ctx nodes before).outcome = .ok outcome) {above : Location} {index : Nat}
    {i : Instance} (hl : Location.In outcome.tree (.inRow above index i)) :
    i.path = i.node.pathBelow above.self.path (ctx.kindOf i.node) (some index) := by
  obtain ⟨s, s', va⟩ := exists_visitAt hs hc h hl
  exact va.visited.path_eq

section Below

variable {above above' : Location} {i : Instance}

/-- Children of one container have counterparts. -/
theorem exists_counterpart_child (hs : ctx.registry = Registry.standard) (hc : Clean ctx nodes)
    (h : (run ctx nodes before).outcome = .ok outcome)
    (hnext : (run ctx nodes outcome.values).outcome = .ok next) (hl : above.In next.tree)
    (hi : i ∈ above.self.children) (hl' : above'.In outcome.tree) (hm : above'.Matches above) :
    ∃ l', Location.In outcome.tree l' ∧ l'.Matches (.child above i) := by
  obtain ⟨s, s', va⟩ := exists_visitAt hs hc hnext hl
  obtain ⟨t, t', vb⟩ := exists_visitAt hs hc h hl'
  obtain ⟨hk, hsweep⟩ := va.visited.sweep_children hi
  have hmem := hsweep.node_mem hi
  rw [← hm.node_eq] at hk hmem
  obtain ⟨j, hj, hjn⟩ := (vb.visited.sweep_of_container hk).exists_instance hmem
  refine ⟨.child above' j, .child hl' hj, .child hm hjn ?_⟩
  rw [path_of_child hs hc h (.child hl' hj), hjn, hm.path_eq,
    ← path_of_child hs hc hnext (.child hl hi)]

/-- So have the instances of a row, which the pass before left in its place. -/
theorem exists_counterpart_inRow (hs : ctx.registry = Registry.standard) (hc : Clean ctx nodes)
    (h : (run ctx nodes before).outcome = .ok outcome)
    (hnext : (run ctx nodes outcome.values).outcome = .ok next) (hl : above.In next.tree)
    {index : Nat} {row : List Instance} (hr : above.self.rows[index]? = some row) (hi : i ∈ row)
    (hl' : above'.In outcome.tree) (hm : above'.Matches above) :
    ∃ l', Location.In outcome.tree l' ∧ l'.Matches (.inRow above index i) := by
  obtain ⟨s, s', va⟩ := exists_visitAt hs hc hnext hl
  obtain ⟨t, t', vb⟩ := exists_visitAt hs hc h hl'
  obtain ⟨hk, ho, -⟩ := va.sweep_rows hs hr
  have hlt : index < above'.self.rows.length := by
    have hindex := (List.getElem?_eq_some_iff.1 hr).1
    have hle := va.rows_length_le hs ho (va.kind_eq.trans hk)
    have heq := vb.rows_length_eq (by rw [vb.ownsValue_eq, hm.node_eq, ← va.ownsValue_eq, ho])
      (by rw [vb.kind_eq, hm.node_eq, hk])
    rw [hm.path_eq] at heq
    omega
  have hr' := List.getElem?_eq_getElem hlt
  obtain ⟨-, -, hrows'⟩ := vb.sweep_rows hs hr'
  obtain ⟨m, m', hrow', -⟩ := row_of_sweep hrows' hr'
  have hmem := node_mem_of_inRow hs hc hnext (.inRow hl hr hi)
  rw [← hm.node_eq] at hmem
  obtain ⟨j, hj, hjn⟩ := hrow'.exists_instance hmem
  refine ⟨.inRow above' index j, .inRow hl' hr' hj, .inRow hm hjn ?_⟩
  rw [path_of_inRow hs hc h (.inRow hl' hr' hj), hjn, hm.path_eq,
    ← path_of_inRow hs hc hnext (.inRow hl hr hi)]

end Below

/-- Every instance of the next pass was there before. -/
theorem exists_counterpart (hs : ctx.registry = Registry.standard) (hc : Clean ctx nodes)
    (h : (run ctx nodes before).outcome = .ok outcome)
    (hnext : (run ctx nodes outcome.values).outcome = .ok next) {l : Location}
    (hl : l.In next.tree) : ∃ l', Location.In outcome.tree l' ∧ l'.Matches l := by
  induction hl with
  | @top i hi =>
    obtain ⟨j, hj, hn⟩ := (sweep_of_run h).exists_instance ((sweep_of_run hnext).node_mem hi)
    obtain ⟨s, s', va⟩ := exists_visitAt hs hc hnext (.top hi)
    obtain ⟨t, t', vb⟩ := exists_visitAt hs hc h (.top hj)
    refine ⟨.top j, .top hj, .top hn ?_⟩
    have hi' := va.visited.path_eq
    have hj' := vb.visited.path_eq
    rw [Location.self_top] at hi' hj'
    rw [hi', hj', hn]
    rfl
  | child hl hi ih =>
    obtain ⟨above', hl', hm⟩ := ih
    exact exists_counterpart_child hs hc h hnext hl hi hl' hm
  | inRow hl hr hi ih =>
    obtain ⟨above', hl', hm⟩ := ih
    exact exists_counterpart_inRow hs hc h hnext hl hr hi hl' hm

section Same

variable {l l' : Location}

theorem ownsValue_eq_of_matches (hs : ctx.registry = Registry.standard) (hc : Clean ctx nodes)
    (h : (run ctx nodes before).outcome = .ok outcome) {before' : Value} {outcome' : Outcome}
    (h' : (run ctx nodes before').outcome = .ok outcome') (hl : l.In outcome.tree)
    (hl' : l'.In outcome'.tree) (hm : l'.Matches l) : l'.self.ownsValue = l.self.ownsValue := by
  obtain ⟨s, s', va⟩ := exists_visitAt hs hc h hl
  obtain ⟨t, t', vb⟩ := exists_visitAt hs hc h' hl'
  rw [va.ownsValue_eq, vb.ownsValue_eq, hm.node_eq]

theorem kind_eq_of_matches (hs : ctx.registry = Registry.standard) (hc : Clean ctx nodes)
    (h : (run ctx nodes before).outcome = .ok outcome) {before' : Value} {outcome' : Outcome}
    (h' : (run ctx nodes before').outcome = .ok outcome') (hl : l.In outcome.tree)
    (hl' : l'.In outcome'.tree) (hm : l'.Matches l) : l'.self.kind = l.self.kind := by
  obtain ⟨s, s', va⟩ := exists_visitAt hs hc h hl
  obtain ⟨t, t', vb⟩ := exists_visitAt hs hc h' hl'
  rw [va.kind_eq, vb.kind_eq, hm.node_eq]

end Same

end Visibility
end FormLogic
