import FormLogic.Proofs.Location
import FormLogic.Proofs.PassInversion
import FormLogic.Proofs.StandardTypes

/-!
# The visit behind a location

Every instance of a pass comes from one visit. In a clean schema of standard types what
the pass wrote before and after that visit is apart from all that the visit reads and
writes. So what happened to the value of an instance can be told from that one visit.
-/
namespace FormLogic

open FormLogic.Path (Apart segments)
open Visibility

namespace Location

/-- The place at which the pass met the instance. -/
def place (before : Value) : Location → Place
  | top _ => {}
  | child above _ => (above.place before).inside above.self.path
  | inRow above index _ => (above.place before).inRow before above.self.path above.self.hidden index

/-- How the instance stands. -/
def state (l : Location) : HideState := ⟨l.self.hidden, l.clears⟩

/-- How the instance around it stands. -/
def inherited : Location → HideState
  | top _ => {}
  | child above _ | inRow above _ _ => above.state

theorem place_keep (before : Value) (l : Location) : (l.place before).keep = l.inKeptRows := by
  induction l with
  | top i => rfl
  | child above i ih => exact ih
  | inRow above index i ih => simp only [place, Place.inRow, inKeptRows, ih]

/-- Whether an instance clears, from how the instance around it stands. -/
theorem clears_eq (l : Location)
    (h : ∀ a ∈ l.lineage.tail, a.hidden = true → l.inherited.hidden = true) :
    l.clears = (l.self.hidden && (l.self.node.clearOnHide || l.inherited.clear)) := by
  cases l with
  | top i => cases hi : i.hidden <;> simp [clears, lineage, self, inherited, hi]
  | child above i | inRow above index i =>
    have ha : above.self.hidden = false →
        (above.lineage.any fun a => a.hidden && a.node.clearOnHide) = false := by
      intro hv
      rw [List.any_eq_false]
      intro a hm
      have hn : ¬ a.hidden = true := fun hh => by
        have := h a hm hh
        simp [inherited, state, hv] at this
      simp [hn]
    simp only [clears, lineage, self_child, self_inRow, inherited, state, List.any_cons]
    cases hi : i.hidden with
    | false => rfl
    | true =>
      cases hv : above.self.hidden with
      | false => simp [ha hv]
      | true => simp

end Location

namespace Visibility

/-- Only places apart from all that some nodes own below `base` are written. -/
def WroteApart (ctx : Context) (nodes : List Node) (base : List String) (s s' : Progress) : Prop :=
  ∃ ws, Wrote s ws s' ∧ ∀ w ∈ ws, ∀ q, Beneath ctx nodes base q → Apart (segments w.1) q

namespace WroteApart

variable {ctx : Context} {nodes nodes' : List Node} {base base' : List String}
  {s m s' : Progress}

theorem trans (h : WroteApart ctx nodes base s m) (h' : WroteApart ctx nodes base m s') :
    WroteApart ctx nodes base s s' := by
  obtain ⟨ws, hws, hw⟩ := h
  obtain ⟨vs, hvs, hv⟩ := h'
  refine ⟨ws ++ vs, hws.trans hvs, fun w hm => ?_⟩
  rcases List.mem_append.1 hm with hm | hm
  · exact hw w hm
  · exact hv w hm

theorem mono (h : WroteApart ctx nodes base s s')
    (hb : ∀ q, Beneath ctx nodes' base' q → Beneath ctx nodes base q) :
    WroteApart ctx nodes' base' s s' := by
  obtain ⟨ws, hws, hw⟩ := h
  exact ⟨ws, hws, fun w hm q hq => hw w hm q (hb q hq)⟩

theorem follow_eq (h : WroteApart ctx nodes base s s') {q : List String}
    (hq : Beneath ctx nodes base q) : s'.values.follow q = s.values.follow q := by
  obtain ⟨ws, hws, hw⟩ := h
  exact hws.follow_of_apart fun w hm => hw w hm q hq

theorem mem_cleared_iff (h : WroteApart ctx nodes base s s') {p : String}
    (hp : Beneath ctx nodes base (segments p)) : p ∈ s'.cleared ↔ p ∈ s.cleared := by
  obtain ⟨ws, hws, hw⟩ := h
  rw [hws.cleared_eq, List.mem_append, or_iff_left_iff_imp, List.mem_map]
  rintro ⟨w, hm, rfl⟩
  exact absurd (hw w hm _ hp) (Path.not_apart_of_isPrefix List.prefix_rfl)

end WroteApart

section Siblings

variable {ctx : Context} {before : Value} {place : Place} {inherited : HideState}

/-- The instances are those of the nodes, in order. -/
theorem Sweep.map_node {nodes : List Node} {s s' : Progress} {is : List Instance}
    (h : Sweep (fun n => visit ctx before n place inherited) nodes s is s') :
    is.map (·.node) = nodes := by
  induction h with
  | nil => rfl
  | cons first rest ih => rw [List.map_cons, ih, (visited_of_yields first).node_eq]

theorem Sweep.node_mem {nodes : List Node} {s s' : Progress} {is : List Instance}
    (h : Sweep (fun n => visit ctx before n place inherited) nodes s is s') {i : Instance}
    (hi : i ∈ is) : i.node ∈ nodes :=
  h.map_node ▸ List.mem_map_of_mem hi

theorem Sweep.exists_instance {nodes : List Node} {s s' : Progress} {is : List Instance}
    (h : Sweep (fun n => visit ctx before n place inherited) nodes s is s') {n : Node}
    (hn : n ∈ nodes) : ∃ i ∈ is, i.node = n :=
  List.mem_map.1 (h.map_node ▸ hn)

/-- Nodes of a clean scope are visited without regard to each other. -/
theorem visit_of_mem {nodes : List Node} (hc : Clean ctx nodes) {s s' : Progress}
    {is : List Instance} (h : Sweep (fun n => visit ctx before n place inherited) nodes s is s')
    {i : Instance} (hi : i ∈ is) :
    ∃ m m', Visited ctx before i.node place inherited m i m' ∧
      WroteApart ctx [i.node] (segments place.base) s m ∧
      WroteApart ctx [i.node] (segments place.base) m' s' := by
  obtain ⟨k, hk⟩ := List.mem_iff_getElem?.1 hi
  obtain ⟨left, n, right, done, more, m, m', rfl, -, hl, hn, hr⟩ := h.split_at hk
  have hv := visited_of_yields hn
  obtain rfl := hv.node_eq
  have hs : CleanScope ctx (left ++ ([i.node] ++ right)) := by simpa using hc.scope
  refine ⟨m, m', hv, ?_, ?_⟩
  · obtain ⟨ws, hws, hw⟩ := wrote_of_sweep hl
    have hleft : CleanScope ctx (left ++ [i.node]) := by
      rw [← List.append_assoc] at hs
      exact hs.append_left
    exact ⟨ws, hws, fun w hm q hq => hleft.apart (hw w hm) hq⟩
  · obtain ⟨ws, hws, hw⟩ := wrote_of_sweep hr
    exact ⟨ws, hws, fun w hm q hq => (hs.append_right.apart hq (hw w hm)).symm⟩

/-- Whatever is owned below a row is apart from other rows of the list. -/
theorem apart_of_rows {nodes nodes' : List Node} {path : String} {j k : Nat} (h : j ≠ k)
    {p q : List String} (hp : Beneath ctx nodes (segments (Path.row path j)) p)
    (hq : Beneath ctx nodes' (segments (Path.row path k)) q) : Apart p q := by
  obtain ⟨a, -, ha⟩ := hp
  obtain ⟨b, -, hb⟩ := hq
  rw [Path.segments_row] at ha hb
  exact (((Path.apart_append_iff _ _ _).2 (Path.apart_rows h)).append _ _).of_isPrefix ha hb

/-- Rows are visited without regard to each other. -/
theorem wroteApart_of_rows {nodes nodes' : List Node} {path : String} {hidden : Bool}
    {state : HideState} {rows : List Nat} {index : Nat} (hne : ∀ j ∈ rows, j ≠ index)
    {s s' : Progress} {iss : List (List Instance)}
    (h : Sweep (fun j => nodes.mapM fun c =>
      visit ctx before c (place.inRow before path hidden j) state) rows s iss s') :
    WroteApart ctx nodes' (segments (Path.row path index)) s s' := by
  obtain ⟨ws, hws, hw⟩ := h.wrote fun j _ {_ _ _} hy => wrote_of_sweep (sweep_of_mapM hy)
  refine ⟨ws, hws, fun w hm q hq => ?_⟩
  obtain ⟨j, hj, hb⟩ := hw w hm
  exact apart_of_rows (hne j hj) hb hq

/-- The sweep of one row among those of a repeater. -/
theorem row_of_sweep {nodes : List Node} {path : String} {hidden : Bool} {state : HideState}
    {count index : Nat} {s s' : Progress} {rows : List (List Instance)} {row : List Instance}
    (h : Sweep (fun j => nodes.mapM fun c =>
      visit ctx before c (place.inRow before path hidden j) state) (List.range count) s rows s')
    (hr : rows[index]? = some row) :
    ∃ m m', Sweep (fun c => visit ctx before c (place.inRow before path hidden index) state)
        nodes m row m' ∧
      WroteApart ctx nodes (segments (Path.row path index)) s m ∧
      WroteApart ctx nodes (segments (Path.row path index)) m' s' := by
  obtain ⟨left, j, right, done, more, m, m', hrange, hlen, hl, hj, hr⟩ := h.split_at hr
  have hget : (List.range count)[index]? = some j := by rw [hrange, ← hlen]; simp
  obtain rfl : index = j := by
    rw [List.getElem?_range (by
      have := congrArg List.length hrange
      simp at this
      omega)] at hget
    exact Option.some.inj hget
  have hnodup : (left ++ index :: right).Nodup := hrange ▸ List.nodup_range
  rw [List.nodup_append, List.nodup_cons] at hnodup
  refine ⟨m, m', sweep_of_mapM hj, wroteApart_of_rows (fun k hk => ?_) hl,
    wroteApart_of_rows (fun k hk => ?_) hr⟩
  · exact hnodup.2.2 k hk index List.mem_cons_self
  · exact fun he => hnodup.2.1.1 (he ▸ hk)

end Siblings

theorem sweep_of_run {ctx : Context} {nodes : List Node} {before : Value} {outcome : Outcome}
    (h : (run ctx nodes before).outcome = .ok outcome) :
    Sweep (fun n => visit ctx before n {} {}) nodes ⟨before, []⟩ outcome.tree
      ⟨outcome.values, outcome.cleared⟩ := by
  obtain ⟨p, hp, ho⟩ := Noted.outcome_bind_eq_ok.1 h
  obtain rfl := Noted.outcome_pure_eq_ok.1 ho
  exact sweep_of_mapM hp

section Visited

variable {ctx : Context} {nodes : List Node} {before : Value} {outcome : Outcome} {l : Location}

/-- The visit that gave an instance, whatever the rest of the pass did. -/
theorem exists_visited (h : (run ctx nodes before).outcome = .ok outcome)
    (hl : l.In outcome.tree) : ∃ inherited s s', inherited.hidden = l.inherited.hidden ∧
      Visited ctx before l.self.node (l.place before) inherited s l.self s' := by
  induction hl with
  | top hi =>
    obtain ⟨n, m, m', hy⟩ := (sweep_of_run h).exists_step hi
    have hv := visited_of_yields hy
    obtain rfl := hv.node_eq
    exact ⟨_, m, m', rfl, hv⟩
  | @child above i ha hi ih =>
    obtain ⟨inherited, s, s', -, hv⟩ := ih
    obtain ⟨n, m, m', hy⟩ := (hv.sweep_children hi).2.exists_step hi
    have hc := visited_of_yields hy
    obtain rfl := hc.node_eq
    exact ⟨_, m, m', hv.hidden_eq.symm, hc⟩
  | @inRow above index row i ha hr hi ih =>
    obtain ⟨inherited, s, s', -, hv⟩ := ih
    obtain ⟨t, m, -, -, -, -, hrows⟩ := hv.sweep_rows hr
    obtain ⟨m₁, m₂, hrow, -, -⟩ := row_of_sweep hrows hr
    obtain ⟨n, m₃, m₄, hy⟩ := hrow.exists_step hi
    have hc := visited_of_yields hy
    obtain rfl := hc.node_eq
    exact ⟨_, m₃, m₄, hv.hidden_eq.symm, hc⟩

/-- The instances below an instance come from the children of its node. -/
theorem nodes_below (h : (run ctx nodes before).outcome = .ok outcome)
    (hl : l.In outcome.tree) : (∀ c ∈ l.self.children, c.node ∈ l.self.node.children) ∧
      ∀ row ∈ l.self.rows, ∀ c ∈ row, c.node ∈ l.self.node.children := by
  obtain ⟨_, _, _, -, hv⟩ := exists_visited h hl
  constructor
  · exact fun c hc => (hv.sweep_children hc).2.node_mem hc
  · intro row hrow c hc
    obtain ⟨index, hindex⟩ := List.mem_iff_getElem?.1 hrow
    obtain ⟨t, m, -, -, -, -, hrows⟩ := hv.sweep_rows hindex
    obtain ⟨m₁, m₂, hsweep, -, -⟩ := row_of_sweep hrows hindex
    exact hsweep.node_mem hc

/-- The path of an instance goes on from that of its container, -/
theorem path_prefix_child (h : (run ctx nodes before).outcome = .ok outcome) {above : Location}
    (ha : above.In outcome.tree) {i : Instance} (hi : i ∈ above.self.children) :
    segments above.self.path <+: segments i.path := by
  obtain ⟨_, _, _, -, hv⟩ := exists_visited h (.child ha hi)
  have hpath := hv.segments_path
  rw [Location.place, Place.base_of_inside] at hpath
  exact hpath ▸ List.prefix_append _ _

/-- or from that of its row. -/
theorem path_prefix_inRow (h : (run ctx nodes before).outcome = .ok outcome) {above : Location}
    (ha : above.In outcome.tree) {index : Nat} {row : List Instance}
    (hr : above.self.rows[index]? = some row) {i : Instance} (hi : i ∈ row) :
    segments (Path.row above.self.path index) <+: segments i.path := by
  obtain ⟨_, _, _, -, hv⟩ := exists_visited h (.inRow ha hr hi)
  have hpath := hv.segments_path
  rw [Location.place, Place.base_inRow] at hpath
  exact hpath ▸ List.prefix_append _ _

/-- The paths at and below an instance begin with its own. -/
theorem path_prefix_of_mem_flatten (h : (run ctx nodes before).outcome = .ok outcome)
    (hl : l.In outcome.tree) {j : Instance} (hj : j ∈ l.self.flatten) :
    segments l.self.path <+: segments j.path := by
  generalize hi : l.self = i at hj ⊢
  induction i using Instance.induction generalizing l with
  | step i ihChildren ihRows =>
    subst hi
    rcases Instance.mem_flatten.1 hj with rfl | ⟨c, hc, hj⟩ | ⟨row, hrow, c, hc, hj⟩
    · exact List.prefix_rfl
    · exact (path_prefix_child h hl hc).trans (ihChildren c hc (.child hl hc) rfl hj)
    · obtain ⟨index, hr⟩ := List.mem_iff_getElem?.1 hrow
      have hpath := path_prefix_inRow h hl hr hc
      rw [Path.segments_row] at hpath
      exact ((List.prefix_append _ _).trans hpath).trans
        (ihRows row hrow c hc (.inRow hl hr hc) rfl hj)

/-- What lies in something hidden is hidden. -/
theorem hidden_of_inherited (h : (run ctx nodes before).outcome = .ok outcome)
    (hl : l.In outcome.tree) (hi : l.inherited.hidden = true) : l.self.hidden = true := by
  obtain ⟨inherited, _, _, hin, hv⟩ := exists_visited h hl
  rw [hv.hidden_eq]
  simp [Place.stateOf, Visibility.stateOf, hin, hi]

/-- Below a hidden instance all are hidden. -/
theorem filter_eq_nil_of_hidden (h : (run ctx nodes before).outcome = .ok outcome)
    {p : Instance → Bool} (hp : ∀ i : Instance, i.hidden = true → p i = false)
    (hl : l.In outcome.tree) (hh : l.self.hidden = true) :
    (Instance.flattenAll [l.self]).filter p = [] :=
  hl.filter_eq_nil (Q := fun l => l.self.hidden = true) (fun _ _ hh => hp _ hh)
    (fun _ _ hl hh => hidden_of_inherited h hl hh)
    (fun _ _ _ hl hh => hidden_of_inherited h hl hh) hh

theorem hidden_of_mem_flatten (h : (run ctx nodes before).outcome = .ok outcome)
    (hl : l.In outcome.tree) (hh : l.self.hidden = true) {j : Instance}
    (hj : j ∈ l.self.flatten) : j.hidden = true := by
  have hshown : (Instance.flattenAll [l.self]).filter (fun i => !i.hidden) = [] :=
    filter_eq_nil_of_hidden h (fun i hi => by rw [hi]; rfl) hl hh
  have hmem : j ∈ Instance.flattenAll [l.self] :=
    Instance.mem_flattenAll.2 ⟨l.self, List.mem_singleton_self _, hj⟩
  simpa using List.filter_eq_nil_iff.1 hshown j hmem

end Visited

/-- The visit that gave an instance, and that the pass wrote elsewhere otherwise. -/
structure VisitAt (ctx : Context) (before : Value) (outcome : Outcome) (l : Location)
    (s s' : Progress) : Prop where
  clean : Clean ctx [l.self.node]
  visited : Visited ctx before l.self.node (l.place before) l.inherited s l.self s'
  above : ∀ a ∈ l.lineage.tail, a.hidden = true → l.inherited.hidden = true
  earlier : WroteApart ctx [l.self.node] (segments (l.place before).base) ⟨before, []⟩ s
  later : WroteApart ctx [l.self.node] (segments (l.place before).base) s'
    ⟨outcome.values, outcome.cleared⟩

namespace VisitAt

variable {ctx : Context} {before : Value} {outcome : Outcome} {l : Location} {s s' : Progress}

theorem kind_eq (h : VisitAt ctx before outcome l s s') :
    l.self.kind = ctx.kindOf l.self.node := h.visited.kind_eq

theorem ownsValue_eq (h : VisitAt ctx before outcome l s s') :
    l.self.ownsValue = ctx.owns l.self.node := h.visited.ownsValue_eq

theorem owns_node (h : VisitAt ctx before outcome l s s') (ho : l.self.ownsValue = true) :
    ctx.owns l.self.node = true := h.ownsValue_eq ▸ ho

theorem exists_key (h : VisitAt ctx before outcome l s s') (ho : l.self.ownsValue = true) :
    ∃ key, l.self.node.key? = some key ∧ key ≠ "" ∧
      l.self.path = Path.join (l.place before).base key :=
  h.visited.path_eq ▸ (l.place before).exists_key (h.owns_node ho)

theorem hidden_of_mem (h : VisitAt ctx before outcome l s s') {a : Instance} (ha : a ∈ l.lineage)
    (hh : a.hidden = true) : l.self.hidden = true := by
  have hin : l.inherited.hidden = true → l.self.hidden = true := fun hi => by
    rw [h.visited.hidden_eq]
    simp [Place.stateOf, Visibility.stateOf, hi]
  have hab := h.above
  cases l with
  | top i => exact List.mem_singleton.1 ha ▸ hh
  | child above i | inRow above index i =>
    rcases List.mem_cons.1 ha with rfl | ha
    · exact hh
    · exact hin (hab a ha hh)

/-- The state in which the node was visited is the one that the tree shows. -/
theorem stateOf_eq (h : VisitAt ctx before outcome l s s') :
    (l.place before).stateOf ctx before l.self.node l.inherited = l.state := by
  have hh := h.visited.hidden_eq
  rw [Location.state, Location.clears_eq l h.above, hh]
  rfl

/-- All that the node owns is beneath it. -/
theorem beneath (h : VisitAt ctx before outcome l s s') (ho : l.self.ownsValue = true)
    {q : List String} (hq : segments l.self.path <+: q) :
    Beneath ctx [l.self.node] (segments (l.place before).base) q := by
  rw [h.ownsValue_eq] at ho
  rw [h.visited.path_eq] at hq
  exact Place.beneath_of_owns _ ho hq

end VisitAt

/-- What an instance of a pass holds below it: a container its children, a repeater with a value its
rows, anything else nothing. -/
inductive Shaped (ctx : Context) (i : Instance) : Prop
  | container (hk : i.kind.map Kind.ownsPath ≠ some true) (ho : i.ownsValue = false)
      (hc : i.children.map (·.node) = i.node.children) (hr : i.rows = [])
  | leaf (hk : i.kind = some .leaf) (hc : i.children = []) (hr : i.rows = [])
  | keyless (hk : i.kind = some .repeater) (ho : i.ownsValue = false) (hc : i.children = [])
      (hr : i.rows = [])
  | repeater (hk : i.kind = some .repeater) (ho : i.ownsValue = true) (hc : i.children = [])
      (hr : ∀ row ∈ i.rows, row.map (·.node) = i.node.children)

theorem Visited.shaped {ctx : Context} {before : Value} {n : Node} {place : Place}
    {inherited : HideState} {s s' : Progress} {i : Instance}
    (h : Visited ctx before n place inherited s i s') : Shaped ctx i := by
  cases h with
  | container hk hc => exact .container hk (owns_of_container hk) hc.map_node rfl
  | leaf _ hk => exact .leaf hk rfl rfl
  | keyless hk ho => exact .keyless hk ho rfl rfl
  | repeater _ hk ho _ _ hr =>
    refine .repeater hk ho rfl fun row hrow => ?_
    obtain ⟨index, hindex⟩ := List.mem_iff_getElem?.1 hrow
    obtain ⟨m, m', hsweep, -⟩ := row_of_sweep hr hindex
    exact hsweep.map_node

/-- Clearing a repeater leaves it without rows. -/
theorem Applied.eq_of_rows {t : NodeType} {default : Node → Value} (hd : Resets t default)
    (hk : t.kind = .repeater) {n : Node} {path : String} {state : HideState} {s m : Progress}
    (h : Applied t n path state s m) (hr : rowCount m.values path ≠ 0) : m = s := by
  cases h with
  | kept => rfl
  | @wrote new w hn hne hw =>
    exfalso
    rw [hd.replacement?_eq, hd.of_repeater hk] at hn
    split at hn
    · obtain rfl := Option.some.inj hn
      have hnew : w.get? path = some (.arr []) := Value.follow_write_self hw
      exact hr (by simp [rowCount, hnew, Value.items?])
    · cases hn

section Clean

variable {ctx : Context} {nodes : List Node} {before : Value} {outcome : Outcome}

theorem Context.resets_of_typeOf (hs : ctx.registry = Registry.standard) {n : Node} {t : NodeType}
    (ht : ctx.typeOf n = some t) (hk : t.kind.ownsPath = true) : ∃ default, Resets t default := by
  rw [Context.typeOf, hs] at ht
  exact exists_resets ht hk

section Below

variable {above : Location} {i : Instance} {s s' : Progress}

/-- The visit of a child is a part of the visit of its container. -/
theorem VisitAt.child (va : VisitAt ctx before outcome above s s')
    (hi : i ∈ above.self.children) : ∃ m m', VisitAt ctx before outcome (.child above i) m m' := by
  obtain ⟨hk, hcs⟩ := va.visited.sweep_children hi
  have hcc := va.clean.children_of_container hk
  have hn := hcs.node_mem hi
  obtain ⟨m, m', hv, hb, ha⟩ := visit_of_mem hcc hcs hi
  rw [va.stateOf_eq] at hv
  have hbase : ((above.place before).inside above.self.path).base = (above.place before).base := by
    rw [va.visited.path_eq]
    exact Place.base_inside _ (owns_of_container hk)
  -- What the child owns is owned through the container.
  have hmono : ∀ q, Beneath ctx [i.node]
      (segments ((above.place before).inside above.self.path).base) q →
      Beneath ctx [above.self.node] (segments (above.place before).base) q := by
    intro q hq
    rw [hbase] at hq
    exact (hq.of_mem hn).of_container hk
  exact ⟨m, m', hcc.of_mem hn, hv, fun a => va.hidden_of_mem, (va.earlier.mono hmono).trans hb,
    ha.trans (va.later.mono hmono)⟩

/-- A repeater with rows was not cleared, and so its rows were visited as they were found. -/
theorem VisitAt.sweep_rows (hs : ctx.registry = Registry.standard)
    (va : VisitAt ctx before outcome above s s') {index : Nat} {row : List Instance}
    (hr : above.self.rows[index]? = some row) :
    ctx.kindOf above.self.node = some .repeater ∧ above.self.ownsValue = true ∧
      Sweep (fun j => above.self.node.children.mapM fun c => visit ctx before c
        ((above.place before).inRow before above.self.path above.self.hidden j) above.state)
        (List.range (rowCount s.values above.self.path)) s above.self.rows s' := by
  obtain ⟨t, m, ht, hk, ho, ha, hrows⟩ := va.visited.sweep_rows hr
  have htk := Context.kind_of_typeOf ht hk
  obtain ⟨default, hd⟩ := Context.resets_of_typeOf hs ht (by rw [htk]; rfl)
  have hcount : rowCount m.values above.self.path ≠ 0 := by
    intro h0
    have hlen := hrows.length_eq
    rw [h0, List.range_zero, List.length_nil] at hlen
    rw [List.eq_nil_of_length_eq_zero hlen] at hr
    cases hr
  obtain rfl : m = s := by
    split at ha
    · exact ha.eq_of_rows hd htk hcount
    · exact ha
  rw [va.stateOf_eq] at hrows
  exact ⟨hk, va.ownsValue_eq.trans ho, hrows⟩

/-- The visit of an instance in a row is a part of the visit of its repeater, when the rows were
visited as they were found. -/
theorem VisitAt.inRow_of_sweep (va : VisitAt ctx before outcome above s s')
    (hk : ctx.kindOf above.self.node = some .repeater) (ho : above.self.ownsValue = true)
    (hrows : Sweep (fun j => above.self.node.children.mapM fun c => visit ctx before c
      ((above.place before).inRow before above.self.path above.self.hidden j) above.state)
      (List.range (rowCount s.values above.self.path)) s above.self.rows s')
    {index : Nat} {row : List Instance} (hr : above.self.rows[index]? = some row) (hi : i ∈ row) :
    ∃ m m', VisitAt ctx before outcome (.inRow above index i) m m' := by
  have hcc := va.clean.children_of_repeater hk
  obtain ⟨m₁, m₂, hrow, hb₁, ha₁⟩ := row_of_sweep hrows hr
  have hn := hrow.node_mem hi
  obtain ⟨m₃, m₄, hv, hb₂, ha₂⟩ := visit_of_mem hcc hrow hi
  have hrowmono : ∀ q, Beneath ctx [i.node] (segments (Path.row above.self.path index)) q →
      Beneath ctx above.self.node.children (segments (Path.row above.self.path index)) q :=
    fun q hq => hq.of_mem hn
  have hmono : ∀ q, Beneath ctx [i.node] (segments (Path.row above.self.path index)) q →
      Beneath ctx [above.self.node] (segments (above.place before).base) q :=
    fun q hq => va.beneath ho hq.prefix_of_row
  exact ⟨m₃, m₄, hcc.of_mem hn, hv, fun a => va.hidden_of_mem,
    ((va.earlier.mono hmono).trans (hb₁.mono hrowmono)).trans hb₂,
    (ha₂.trans (ha₁.mono hrowmono)).trans (va.later.mono hmono)⟩

theorem VisitAt.inRow (hs : ctx.registry = Registry.standard)
    (va : VisitAt ctx before outcome above s s') {index : Nat} {row : List Instance}
    (hr : above.self.rows[index]? = some row) (hi : i ∈ row) :
    ∃ m m', VisitAt ctx before outcome (.inRow above index i) m m' := by
  obtain ⟨hk, ho, hrows⟩ := va.sweep_rows hs hr
  exact va.inRow_of_sweep hk ho hrows hr hi

end Below

theorem VisitAt.top (hc : Clean ctx nodes) (h : (run ctx nodes before).outcome = .ok outcome)
    {i : Instance} (hi : i ∈ outcome.tree) : ∃ m m', VisitAt ctx before outcome (.top i) m m' := by
  have hsweep := sweep_of_run h
  obtain ⟨m, m', hv, hb, ha⟩ := visit_of_mem hc hsweep hi
  exact ⟨m, m', hc.of_mem (hsweep.node_mem hi), hv, by simp [Location.lineage], hb, ha⟩

/-- Every instance of a pass comes from a visit, and the rest of the pass was elsewhere. -/
theorem exists_visitAt (hs : ctx.registry = Registry.standard) (hc : Clean ctx nodes)
    (h : (run ctx nodes before).outcome = .ok outcome) {l : Location} (hl : l.In outcome.tree) :
    ∃ s s', VisitAt ctx before outcome l s s' := by
  induction hl with
  | top hi => exact VisitAt.top hc h hi
  | child hl hi ih =>
    obtain ⟨s, s', va⟩ := ih
    exact va.child hi
  | inRow hl hr hi ih =>
    obtain ⟨s, s', va⟩ := ih
    exact va.inRow hs hr hi

theorem node_mem_of_child (hs : ctx.registry = Registry.standard) (hc : Clean ctx nodes)
    (h : (run ctx nodes before).outcome = .ok outcome) {above : Location} {i : Instance}
    (hl : Location.In outcome.tree (.child above i)) : i.node ∈ above.self.node.children := by
  cases hl with
  | child ha hi =>
    obtain ⟨s, s', va⟩ := exists_visitAt hs hc h ha
    exact (va.visited.sweep_children hi).2.node_mem hi

theorem node_mem_of_inRow (hs : ctx.registry = Registry.standard) (hc : Clean ctx nodes)
    (h : (run ctx nodes before).outcome = .ok outcome) {above : Location} {index : Nat}
    {i : Instance} (hl : Location.In outcome.tree (.inRow above index i)) :
    i.node ∈ above.self.node.children := by
  cases hl with
  | inRow ha hr hi =>
    obtain ⟨s, s', va⟩ := exists_visitAt hs hc h ha
    obtain ⟨-, -, hrows⟩ := va.sweep_rows hs hr
    obtain ⟨m₁, m₂, hrow, -⟩ := row_of_sweep hrows hr
    exact hrow.node_mem hi

/-- What holds of the nodes of a schema and passes to children holds of every instance's node. -/
theorem node_of_in (hs : ctx.registry = Registry.standard) (hc : Clean ctx nodes)
    (h : (run ctx nodes before).outcome = .ok outcome) {P : Node → Prop}
    (hn : ∀ n ∈ nodes, P n) (hP : ∀ n, P n → ∀ c ∈ n.children, P c) {l : Location}
    (hl : l.In outcome.tree) : P l.self.node := by
  induction hl with
  | @top i hi => exact hn _ ((sweep_of_run h).node_mem hi)
  | child hl hi ih => exact hP _ ih _ (node_mem_of_child hs hc h (.child hl hi))
  | inRow hl hr hi ih => exact hP _ ih _ (node_mem_of_inRow hs hc h (.inRow hl hr hi))

end Clean

end Visibility
end FormLogic
