import FormLogic.Proofs.PassPlan

/-!
# A pass follows its plan

In a clean schema of standard types nothing that a pass has written is in the way of what it
still reads. So every visit does what was planned for its node by the values before the
pass, and the pass goes through just when the planned writes do.
-/
namespace FormLogic

open FormLogic.Path (Apart segments)

namespace Visibility

/-- From some progress a step goes through just when the planned writes do, and then it comes to
what was planned. -/
def Follows {α : Type} (m : Pass α) (plan : Plan α) (s : Progress) : Prop :=
  (m.run s).outcome = (Value.writeAll plan.writes s.values).map fun v =>
    (plan.result, ⟨v, s.cleared ++ plan.writes.map (·.1)⟩)

section Follows

variable {α β : Type} {s : Progress}

theorem Follows.pure (a : α) : Follows (Pure.pure a) ⟨a, []⟩ s := by
  change Except.ok (a, s) = Except.ok (a, _)
  simp

theorem Follows.bind {m : Pass α} {k : α → Pass β} {p : Plan α} {q : Plan β} (h : Follows m p s)
    (hk : ∀ v, Value.writeAll p.writes s.values = .ok v →
      Follows (k p.result) q ⟨v, s.cleared ++ p.writes.map (·.1)⟩) :
    Follows (m >>= k) ⟨q.result, p.writes ++ q.writes⟩ s := by
  have hrun : ((m >>= k).run s).outcome =
      (m.run s).outcome >>= fun r => ((k r.1).run r.2).outcome := Noted.outcome_bind _ _
  rw [Follows, hrun, h, Value.writeAll_append]
  cases hw : Value.writeAll p.writes s.values with
  | error e => rfl
  | ok v =>
    have hstep := hk v hw
    change ((k p.result).run _).outcome = (Value.writeAll q.writes v).map _
    rw [hstep]
    simp

theorem Follows.get_bind {f : Progress → Pass α} {p : Plan α} (h : Follows (f s) p s) :
    Follows (get >>= f) p s := h

/-- Results may be made into others. -/
theorem Follows.map {m : Pass α} {p : Plan α} (f : α → β) (h : Follows m p s) :
    Follows (m >>= fun a => Pure.pure (f a)) ⟨f p.result, p.writes⟩ s := by
  have hbind := h.bind (k := fun a => Pure.pure (f a)) fun _ _ => .pure (f p.result)
  rwa [List.append_nil] at hbind

/-- Steps follow their plans one after the other, if no one's writes touch what the next ones ask
of the values. -/
theorem Follows.mapM {f : α → Pass β} {plan : α → Plan β} {Asks : α → Value → Prop} {xs : List α}
    (hf : ∀ x ∈ xs, ∀ s : Progress, Asks x s.values → Follows (f x) (plan x) s)
    (hw : xs.Pairwise fun x y => ∀ v w, Value.writeAll (plan x).writes v = .ok w →
      Asks y v → Asks y w)
    (hs : ∀ x ∈ xs, Asks x s.values) : Follows (xs.mapM f) (.all (xs.map plan)) s := by
  induction xs generalizing s with
  | nil =>
    rw [List.mapM_nil]
    exact .pure []
  | cons x rest ih =>
    rw [List.pairwise_cons] at hw
    rw [List.mapM_cons, List.map_cons, Plan.all_cons]
    refine (hf x List.mem_cons_self s (hs x List.mem_cons_self)).bind
      (q := ⟨(plan x).result :: (Plan.all (rest.map plan)).result, _⟩) fun v hv => ?_
    refine (ih (fun y hy => hf y (List.mem_cons_of_mem x hy)) hw.2 fun y hy => ?_).map _
    exact hw.1 y hy _ v hv (hs y (List.mem_cons_of_mem x hy))

theorem Follows.noteUnknown {ctx : Context} {n : Node} {path : String} {m : Pass α} {p : Plan α}
    (h : Follows m p s) : Follows (Visibility.noteUnknown ctx n path >>= fun _ => m) p s := by
  rw [Visibility.noteUnknown]
  cases (ctx.typeOf n).isNone with
  | false => exact h
  | true => exact h

theorem follows_reset (path : String) (new : Value) :
    Follows (reset path new) ⟨(), [(path, new)]⟩ s := by
  change (reset path new s).outcome = _
  rw [reset, Value.writeAll, List.foldlM_cons]
  cases s.values.setOrError path new <;> rfl

theorem follows_apply (t : NodeType) (n : Node) (path : String) (state : HideState) :
    Follows (apply t n path state) ⟨(), t.due n path state (s.values.get? path)⟩ s := by
  unfold apply
  refine Follows.get_bind ?_
  dsimp only
  rw [NodeType.due]
  cases t.replacement? n state (s.values.get? path) with
  | none => exact .pure ()
  | some new =>
    dsimp only
    cases s.values.get? path == some new with
    | true => exact .pure ()
    | false => exact follows_reset path new

/-- A node is given what it is due, if its value is as before. -/
theorem follows_applyTo {ctx : Context} {before : Value} {n : Node} {t : NodeType} {place : Place}
    (inherited : HideState) (ht : ctx.typeOf n = some t)
    (hs : ctx.owns n = true →
      s.values.get? (place.pathOf ctx n) = before.get? (place.pathOf ctx n)) :
    Follows (place.applyTo ctx before t n inherited)
      ⟨(), place.due ctx before n inherited⟩ s := by
  simp only [Place.applyTo, Place.due, ht]
  cases ho : ctx.owns n && !place.keep with
  | false => exact .pure ()
  | true =>
    rw [if_pos rfl, if_pos rfl, ← hs (Bool.and_eq_true_iff.1 ho).1]
    exact follows_apply t n _ _

end Follows

section Visit

variable {ctx : Context} {before : Value} {nodes : List Node} {n : Node} {place : Place}
  {inherited : HideState} {s : Progress}

/-- The values are as before the pass in all that some nodes own below `base`. -/
def Untouched (ctx : Context) (before : Value) (nodes : List Node) (base : List String)
    (v : Value) : Prop :=
  ∀ q, Beneath ctx nodes base q → v.follow q = before.follow q

theorem Untouched.mono {base base' : List String} {nodes' : List Node} {v : Value}
    (h : Untouched ctx before nodes base v)
    (hb : ∀ q, Beneath ctx nodes' base' q → Beneath ctx nodes base q) :
    Untouched ctx before nodes' base' v := fun q hq => h q (hb q hq)

/-- Writes elsewhere leave untouched what is. -/
theorem Untouched.writeAll {base : List String} {v w : Value} {ws : List (String × Value)}
    (h : Untouched ctx before nodes base v) (hw : Value.writeAll ws v = .ok w)
    (hapart : ∀ e ∈ ws, ∀ q, Beneath ctx nodes base q → Apart (segments e.1) q) :
    Untouched ctx before nodes base w := fun q hq =>
  (Value.follow_writeAll_of_apart hw fun e he => hapart e he q hq).trans (h q hq)

/-- Nodes of a clean scope follow their plans if each one does by itself. -/
theorem follows_planAll (hc : Clean ctx nodes)
    (hn : ∀ n ∈ nodes, Clean ctx [n] → ∀ s : Progress,
      Untouched ctx before [n] (segments place.base) s.values →
      Follows (visit ctx before n place inherited) (planOf ctx before n place inherited) s)
    (hs : Untouched ctx before nodes (segments place.base) s.values) :
    Follows (nodes.mapM fun n => visit ctx before n place inherited)
      (place.planAll ctx before nodes inherited) s := by
  refine Follows.mapM (fun n hm => hn n hm (hc.of_mem hm)) ?_
    fun n hm => hs.mono fun q hq => hq.of_mem hm
  refine (hc.scope.pairwise_apart (segments place.base)).imp fun {a b} hab v w hw hb => ?_
  exact hb.writeAll hw fun e he q hq => hab (beneath_of_planOf ctx before a he) hq

/-- A repeater that is due a write is left without rows, and one that is not keeps what it has. -/
theorem rowCount_of_due (hs : ctx.registry = Registry.standard) (hk : ctx.kindOf n = some .repeater)
    (ho : ctx.owns n = true)
    (hread : s.values.get? (place.pathOf ctx n) = before.get? (place.pathOf ctx n)) {v : Value}
    (hv : Value.writeAll (place.due ctx before n inherited) s.values = .ok v) :
    rowCount v (place.pathOf ctx n) = place.rowsLeft ctx before n inherited ∧
      (place.due ctx before n inherited = [] → v = s.values) := by
  obtain ⟨t, ht, hkt⟩ := Context.exists_typeOf_of_owns ho
  obtain ⟨default, hd⟩ := Context.resets_of_typeOf hs ht hkt
  have htk := Context.kind_of_typeOf ht hk
  by_cases hdue : place.due ctx before n inherited = []
  · rw [hdue] at hv
    obtain rfl : s.values = v := Except.ok.inj hv
    exact ⟨by rw [rowCount_congr hread, Place.rowsLeft, if_pos ⟨hk, ho, hdue⟩], fun _ => rfl⟩
  · have hwrite : place.due ctx before n inherited = if _ then _ else _ :=
      Place.due_of_resets ht hd
    split at hwrite
    · rw [hwrite] at hv
      obtain ⟨m, hm, hv⟩ := Value.writeAll_cons_eq_ok.1 hv
      obtain rfl : m = v := Except.ok.inj hv
      have hnil : m.get? (place.pathOf ctx n) = some (.arr []) := by
        rw [hd.of_repeater htk] at hm
        exact Value.follow_write_self hm
      refine ⟨?_, fun h => absurd h hdue⟩
      rw [rowCount_of_nil hnil, Place.rowsLeft, if_neg fun h => hdue h.2.2]
    · exact absurd hwrite hdue

/-- Rows follow their plans if each node of the template does. -/
theorem follows_rows {make : List (List Instance) → Instance}
    (hcount : rowCount s.values (place.pathOf ctx n) = place.rowsLeft ctx before n inherited)
    (hc : Clean ctx n.children)
    (hn : ∀ c ∈ n.children, Clean ctx [c] → ∀ {place : Place} {state : HideState} {s : Progress},
      Untouched ctx before [c] (segments place.base) s.values →
      Follows (visit ctx before c place state) (planOf ctx before c place state) s)
    (hs : ∀ index < place.rowsLeft ctx before n inherited, Untouched ctx before n.children
      (segments (Path.row (place.pathOf ctx n) index)) s.values) :
    Follows (do
      let progress ← get
      let rows ← (List.range (rowCount progress.values (place.pathOf ctx n))).mapM fun index =>
        n.children.mapM fun c => visit ctx before c
          (place.inRow before (place.pathOf ctx n)
            (place.stateOf ctx before n inherited).hidden index)
          (place.stateOf ctx before n inherited)
      pure (make rows)) ⟨make (place.planRows ctx before n inherited).result,
        (place.planRows ctx before n inherited).writes⟩ s := by
  refine Follows.get_bind ?_
  rw [hcount]
  -- Each row asks for what is beneath it, and no other row writes there.
  have hrow : ∀ (index : Nat) (s : Progress),
      Untouched ctx before n.children (segments (Path.row (place.pathOf ctx n) index)) s.values →
      Follows (n.children.mapM fun c => visit ctx before c
        (place.inRow before (place.pathOf ctx n)
          (place.stateOf ctx before n inherited).hidden index)
        (place.stateOf ctx before n inherited)) (place.planRow ctx before n inherited index) s :=
    fun index s hu => follows_planAll hc (fun c hcn hcc s hu => hn c hcn hcc hu) hu
  refine Follows.map make (Follows.mapM (fun index _ => hrow index) ?_
    fun index hindex => hs index (List.mem_range.1 hindex))
  refine List.nodup_range.imp fun {i j} hij v w hw hu => hu.writeAll hw fun e he q hq => ?_
  exact apart_of_rows hij (beneath_of_planRow he) hq

/-- Where all that a node owns is untouched, a visit follows its plan. -/
theorem follows_visit (hs : ctx.registry = Registry.standard) (n : Node) :
    Clean ctx [n] → ∀ {place : Place} {inherited : HideState} {s : Progress},
      Untouched ctx before [n] (segments place.base) s.values →
      Follows (visit ctx before n place inherited) (planOf ctx before n place inherited) s := by
  induction n using Node.induction with
  | step n ih =>
    intro hc place inherited s hu
    have hread : ctx.owns n = true →
        s.values.get? (place.pathOf ctx n) = before.get? (place.pathOf ctx n) :=
      fun ho => hu _ (place.beneath_of_owns ho List.prefix_rfl)
    have hplan : ∀ {t}, ctx.typeOf n = some t → t.kind.ownsPath = true →
        (ctx.kindOf n).map Kind.ownsPath = some true := fun ht hk => by
      rw [Context.kindOf_of_typeOf ht, Option.map_some, hk]
    cases way ctx n with
    | leaf ht hk =>
      rw [planOf_of_ownsPath (hplan ht (hk ▸ rfl)), visit_of_leaf _ _ ht hk,
        Place.planRows_of_rowsLeft (Place.rowsLeft_of_leaf (hk ▸ Context.kindOf_of_typeOf ht)),
        List.append_nil]
      exact (follows_applyTo inherited ht hread).map _
    | keyless ht hk ho =>
      rw [planOf_of_ownsPath (hplan ht (hk ▸ rfl)), visit_of_keyless _ _ ht hk ho,
        Place.due_of_not_owns ho, Place.planRows_of_rowsLeft (Place.rowsLeft_of_not_owns ho)]
      exact .pure _
    | repeater ht hk ho =>
      have hcheck : checkTemplate ctx n (place.pathOf ctx n) = pure () := by
        have hf : (n.children.findSome? fun c =>
            templateFault? ctx c (place.pathOf ctx n)) = none :=
          List.findSome?_eq_none_iff.2 fun c _ => templateFault?_eq_none hs c _
        rw [checkTemplate, hf]
      have hkind : ctx.kindOf n = some .repeater := hk ▸ Context.kindOf_of_typeOf ht
      rw [planOf_of_ownsPath (hplan ht (hk ▸ rfl)), visit_of_repeater _ _ ht hk ho, hcheck,
        pure_bind]
      refine (follows_applyTo inherited ht hread).bind
        (q := ⟨{ place.instanceOf ctx before n inherited with
          rows := (place.planRows ctx before n inherited).result }, _⟩) fun v hv => ?_
      obtain ⟨hcount, hkept⟩ := rowCount_of_due hs hkind ho (hread ho) hv
      refine follows_rows hcount (hc.children_of_repeater hkind)
        (fun c hcn hcc {_ _ _} hu => ih c hcn hcc hu) fun index hindex => ?_
      rw [hkept (Place.rowsLeft_pos hindex).2.2.1]
      exact hu.mono fun q hq => place.beneath_of_owns ho hq.prefix_of_row
    | container hk =>
      rw [visit_of_container _ _ hk, planOf_of_container hk, Place.planContents_of_container hk]
      refine .noteUnknown (Follows.map _ ?_)
      refine follows_planAll (hc.children_of_container hk)
        (fun c hcn hcc s hs => ih c hcn hcc hs) ?_
      rw [place.base_inside (owns_of_container hk)]
      exact hu.mono fun q hq => hq.of_container hk

end Visit

section Pass

variable {ctx : Context} {nodes : List Node} {before : Value}

/-- A pass goes through just when its planned writes do, and then it made them and nothing else. -/
theorem outcome_run (hs : ctx.registry = Registry.standard) (hc : Clean ctx nodes) :
    (run ctx nodes before).outcome =
      (Value.writeAll (passPlan ctx before nodes).writes before).map fun v =>
        ⟨v, (passPlan ctx before nodes).result, (passPlan ctx before nodes).writes.map (·.1)⟩ := by
  have hvisits : Follows (nodes.mapM fun n => visit ctx before n {} {}) (passPlan ctx before nodes)
      ⟨before, []⟩ :=
    follows_planAll hc (fun n _ hn s hu => follows_visit hs n hn hu) fun _ _ => rfl
  rw [run, Noted.outcome_bind, hvisits]
  cases Value.writeAll (passPlan ctx before nodes).writes before <;> rfl

theorem run_eq_ok_iff (hs : ctx.registry = Registry.standard) (hc : Clean ctx nodes)
    {outcome : Outcome} : (run ctx nodes before).outcome = .ok outcome ↔
      Value.writeAll (passPlan ctx before nodes).writes before = .ok outcome.values ∧
        outcome.tree = (passPlan ctx before nodes).result ∧
        outcome.cleared = (passPlan ctx before nodes).writes.map (·.1) := by
  rw [outcome_run hs hc]
  obtain ⟨values, tree, cleared⟩ := outcome
  cases Value.writeAll (passPlan ctx before nodes).writes before with
  | error e => simp [Except.map]
  | ok v => simp [Except.map, eq_comm]

theorem exists_run_eq_ok_iff (hs : ctx.registry = Registry.standard) (hc : Clean ctx nodes) :
    (∃ o, (run ctx nodes before).outcome = .ok o) ↔
      ∃ v, Value.writeAll (passPlan ctx before nodes).writes before = .ok v := by
  constructor
  · rintro ⟨o, ho⟩
    exact ⟨o.values, ((run_eq_ok_iff hs hc).1 ho).1⟩
  · rintro ⟨v, hv⟩
    exact ⟨⟨v, _, _⟩, (run_eq_ok_iff hs hc).2 ⟨hv, rfl, rfl⟩⟩

theorem independent_passPlan (hc : Clean ctx nodes) (hk : ctx.Keyed nodes) :
    Independent (passPlan ctx before nodes).writes :=
  independent_planAll hc.scope fun n hn =>
    independent_planOf ctx before n (hc.of_mem hn) fun m hm => hk m (.of_mem hn hm)

end Pass

end Visibility
end FormLogic
