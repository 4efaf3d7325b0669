import FormLogic.Proofs.CleanScope
import FormLogic.Resolve.Visibility

/-!
# Inverting a visibility pass

What a step of a pass that succeeds must have done. `Visited` lists the ways in which
a node is visited, each with the visits of its children as a `Sweep`, and `Wrote` says
that the values changed by writes alone, which are logged in order. Nothing is assumed
of the registered types.
-/
namespace FormLogic

theorem Noted.outcome_bind {α β : Type} (x : Noted α) (f : α → Noted β) :
    (x >>= f).outcome = x.outcome >>= fun a => (f a).outcome := by
  obtain ⟨notes, outcome⟩ := x
  cases outcome <;> rfl

/-- A sequence succeeds when both parts do. -/
theorem Noted.outcome_bind_eq_ok {α β : Type} {x : Noted α} {f : α → Noted β} {b : β} :
    (x >>= f).outcome = .ok b ↔ ∃ a, x.outcome = .ok a ∧ (f a).outcome = .ok b := by
  change (x.andThen f).outcome = .ok b ↔ _
  unfold Noted.andThen
  constructor
  · intro h
    cases hx : x.outcome with
    | error e => rw [hx] at h; cases h
    | ok a =>
      rw [hx] at h
      exact ⟨a, rfl, h⟩
  · rintro ⟨a, hx, hf⟩
    rw [hx]
    exact hf

theorem Noted.outcome_pure_eq_ok {α : Type} {a b : α} :
    (pure a : Noted α).outcome = .ok b ↔ a = b :=
  ⟨fun h => Except.ok.inj h, fun h => congrArg Except.ok h⟩

/-- What is computed of a result tells that there is one. -/
theorem Noted.exists_of_toOption {α β : Type} (x : Noted α) (f : α → β) {b : β}
    (h : x.outcome.toOption.map f = some b) : ∃ a, x.outcome = .ok a ∧ f a = b := by
  cases hx : x.outcome with
  | error e => rw [hx] at h; cases h
  | ok a =>
    rw [hx] at h
    exact ⟨a, rfl, Option.some.inj h⟩

namespace Visibility

open FormLogic.Path (Apart segments)

/-- A step succeeds with a result and takes the pass from one progress to another. -/
def Yields {α : Type} (m : Pass α) (s : Progress) (a : α) (s' : Progress) : Prop :=
  (m.run s).outcome = .ok (a, s')

section Steps

variable {α β : Type} {s s' s'' : Progress}

theorem yields_pure_iff {a b : α} : Yields (pure a) s b s' ↔ a = b ∧ s = s' := by
  constructor
  · intro h
    obtain ⟨ha, hs⟩ := Prod.mk.inj (Except.ok.inj h)
    exact ⟨ha, hs⟩
  · rintro ⟨rfl, rfl⟩
    rfl

theorem yields_bind_iff {m : Pass α} {f : α → Pass β} {b : β} :
    Yields (m >>= f) s b s'' ↔ ∃ a s', Yields m s a s' ∧ Yields (f a) s' b s'' := by
  change (m.run s >>= fun p => (f p.1).run p.2).outcome = .ok (b, s'') ↔ _
  rw [Noted.outcome_bind_eq_ok]
  constructor
  · rintro ⟨p, hm, hf⟩
    exact ⟨p.1, p.2, hm, hf⟩
  · rintro ⟨a, s', hm, hf⟩
    exact ⟨(a, s'), hm, hf⟩

theorem yields_get_iff {a : Progress} : Yields (get : Pass Progress) s a s' ↔ s = a ∧ s = s' :=
  yields_pure_iff (a := s)

theorem yields_note {d : Diagnostic} {u : Unit} (h : Yields (StateT.lift (.note d)) s u s') :
    s = s' :=
  (Prod.mk.inj (Except.ok.inj h)).2

theorem not_yields_fail {e : FormError} {a : α} : ¬ Yields (StateT.lift (.fail e)) s a s' :=
  nofun

/-- Steps made one after the other, each with its result. -/
inductive Sweep (f : α → Pass β) : List α → Progress → List β → Progress → Prop
  | nil {s : Progress} : Sweep f [] s [] s
  | cons {x : α} {y : β} {xs : List α} {ys : List β} {s m s' : Progress}
      (first : Yields (f x) s y m) (rest : Sweep f xs m ys s') : Sweep f (x :: xs) s (y :: ys) s'

theorem sweep_of_mapM {f : α → Pass β} {xs : List α} {ys : List β}
    (h : Yields (xs.mapM f) s ys s') : Sweep f xs s ys s' := by
  induction xs generalizing s ys with
  | nil =>
    rw [List.mapM_nil, yields_pure_iff] at h
    obtain ⟨rfl, rfl⟩ := h
    exact .nil
  | cons x rest ih =>
    rw [List.mapM_cons, yields_bind_iff] at h
    obtain ⟨y, m, hy, h⟩ := h
    obtain ⟨more, m', hmore, h⟩ := yields_bind_iff.1 h
    obtain ⟨rfl, rfl⟩ := yields_pure_iff.1 h
    exact .cons hy (ih hmore)

/-- The step behind one result, with the steps before and after it. -/
theorem Sweep.split_at {f : α → Pass β} {xs : List α} {ys : List β} (h : Sweep f xs s ys s')
    {k : Nat} {y : β} (hy : ys[k]? = some y) :
    ∃ before x after done more m m', xs = before ++ x :: after ∧ before.length = k ∧
      Sweep f before s done m ∧ Yields (f x) m y m' ∧ Sweep f after m' more s' := by
  induction h generalizing k with
  | nil => simp at hy
  | @cons x y' xs ys s m s' first rest ih =>
    cases k with
    | zero =>
      obtain rfl : y' = y := by simpa using hy
      exact ⟨[], x, xs, [], ys, s, m, rfl, rfl, .nil, first, rest⟩
    | succ k =>
      obtain ⟨before, x', after, done, more, m₁, m₂, hxs, hk, hb, hx, ha⟩ := ih (by simpa using hy)
      exact ⟨x :: before, x', after, y' :: done, more, m₁, m₂, by rw [hxs]; rfl, by simp [hk],
        .cons first hb, hx, ha⟩

/-- Every result of a sweep comes from a step, and every step gives one. -/
theorem Sweep.exists_step {f : α → Pass β} {xs : List α} {ys : List β} (h : Sweep f xs s ys s')
    {y : β} (hy : y ∈ ys) : ∃ x m m', Yields (f x) m y m' := by
  obtain ⟨k, hk⟩ := List.mem_iff_getElem?.1 hy
  obtain ⟨_, x, _, _, _, m, m', _, _, _, hx, _⟩ := h.split_at hk
  exact ⟨x, m, m', hx⟩

theorem Sweep.exists_result {f : α → Pass β} {xs : List α} {ys : List β} (h : Sweep f xs s ys s')
    {x : α} (hx : x ∈ xs) : ∃ m y m', Yields (f x) m y m' := by
  induction h with
  | nil => cases hx
  | cons first rest ih =>
    rcases List.mem_cons.1 hx with rfl | hx
    · exact ⟨_, _, _, first⟩
    · exact ih hx

theorem Sweep.length_eq {f : α → Pass β} {xs : List α} {ys : List β} (h : Sweep f xs s ys s') :
    ys.length = xs.length := by
  induction h with
  | nil => rfl
  | cons first rest ih => simp [ih]

/-- What every step preserves, the sweep preserves. -/
theorem Sweep.invariant {f : α → Pass β} {xs : List α} {ys : List β} (h : Sweep f xs s ys s')
    {I : Progress → Prop} (hf : ∀ x ∈ xs, ∀ {s y s'}, Yields (f x) s y s' → I s → I s')
    (hs : I s) : I s' := by
  induction h with
  | nil => exact hs
  | @cons x y xs ys s m s' first rest ih =>
    exact ih (fun x' hx' => hf x' (List.mem_cons_of_mem x hx')) (hf x List.mem_cons_self first hs)

theorem Sweep.eq_of_forall {f : α → Pass β} {xs : List α} {ys : List β} (h : Sweep f xs s ys s')
    (hf : ∀ x ∈ xs, ∀ {s y s'}, Yields (f x) s y s' → s' = s) : s' = s :=
  h.invariant (I := fun m => m = s) (fun x hx {_ _ _} hy hs => (hf x hx hy).trans hs) rfl

end Steps

/-- The values changed by these writes in order, and by nothing else; each is logged. -/
inductive Wrote : Progress → List (String × Value) → Progress → Prop
  | nil {s : Progress} : Wrote s [] s
  | cons {s s' : Progress} {path : String} {new w : Value} {ws : List (String × Value)}
      (first : Value.write new (segments path) s.values = (w, none))
      (rest : Wrote ⟨w, s.cleared ++ [path]⟩ ws s') : Wrote s ((path, new) :: ws) s'

section Writes

variable {s m s' : Progress} {ws vs : List (String × Value)}

theorem Wrote.trans (h : Wrote s ws m) (h' : Wrote m vs s') : Wrote s (ws ++ vs) s' := by
  induction h with
  | nil => exact h'
  | cons first rest ih => exact .cons first (ih h')

theorem Wrote.cleared_eq (h : Wrote s ws s') : s'.cleared = s.cleared ++ ws.map (·.1) := by
  induction h with
  | nil => simp
  | cons first rest ih => simp [ih]

/-- Reads apart from every write are as they were. -/
theorem Wrote.follow_of_apart (h : Wrote s ws s') {q : List String}
    (hq : ∀ w ∈ ws, Apart (segments w.1) q) : s'.values.follow q = s.values.follow q := by
  induction h with
  | nil => rfl
  | cons first rest ih =>
    rw [ih fun w hw => hq w (List.mem_cons_of_mem _ hw)]
    exact Value.follow_write_of_apart (hq _ List.mem_cons_self) first

/-- Writes within the rows of a list keep it a list of its length. -/
theorem Wrote.rows_kept (h : Wrote s ws s') {place : List String} {count : Nat}
    (hp : ∀ w ∈ ws, ∃ row rest, segments w.1 = place ++ toString row :: rest ∧ row < count)
    {items : List Value} (hi : s.values.follow place = some (.arr items))
    (hc : items.length = count) :
    ∃ items', s'.values.follow place = some (.arr items') ∧ items'.length = count := by
  induction h generalizing items with
  | nil => exact ⟨items, hi, hc⟩
  | @cons s s' path new w ws first rest ih =>
    obtain ⟨row, more, hseg, hrow⟩ := hp (path, new) List.mem_cons_self
    dsimp only at hseg
    rw [hseg] at first
    obtain ⟨y, hy, hw⟩ := Value.follow_write_above first (by simp) hi
    obtain ⟨items', rfl, hlen⟩ := Value.write_below_row hw (by omega)
    exact ih (fun w hw => hp w (List.mem_cons_of_mem _ hw)) hy (hlen.trans hc)

theorem Sweep.wrote {α β : Type} {f : α → Pass β} {xs : List α} {ys : List β}
    (h : Sweep f xs s ys s') {R : α → String × Value → Prop}
    (hf : ∀ x ∈ xs, ∀ {s y s'}, Yields (f x) s y s' → ∃ ws, Wrote s ws s' ∧ ∀ w ∈ ws, R x w) :
    ∃ ws, Wrote s ws s' ∧ ∀ w ∈ ws, ∃ x ∈ xs, R x w := by
  induction h with
  | nil => exact ⟨[], .nil, by simp⟩
  | @cons x y xs ys s m s' first rest ih =>
    obtain ⟨ws, hws, hx⟩ := hf x List.mem_cons_self first
    obtain ⟨vs, hvs, hr⟩ := ih fun x' hx' => hf x' (List.mem_cons_of_mem x hx')
    refine ⟨ws ++ vs, hws.trans hvs, fun w hw => ?_⟩
    rcases List.mem_append.1 hw with hw | hw
    · exact ⟨x, List.mem_cons_self, hx w hw⟩
    · obtain ⟨x', hx', hR⟩ := hr w hw
      exact ⟨x', List.mem_cons_of_mem x hx', hR⟩

end Writes

/-- What a type makes of a stored value: it is kept, or another one is written. -/
inductive Applied (t : NodeType) (n : Node) (path : String) (state : HideState) (s : Progress) :
    Progress → Prop
  | kept (h : ∀ new, t.replacement? n state (s.values.get? path) = some new →
      (s.values.get? path == some new) = true) : Applied t n path state s s
  | wrote {new w : Value} (hn : t.replacement? n state (s.values.get? path) = some new)
      (hne : (s.values.get? path == some new) = false)
      (hw : Value.write new (segments path) s.values = (w, none)) :
      Applied t n path state s ⟨w, s.cleared ++ [path]⟩

theorem applied_of_yields {t : NodeType} {n : Node} {path : String} {state : HideState}
    {s s' : Progress} {u : Unit} (h : Yields (apply t n path state) s u s') :
    Applied t n path state s s' := by
  unfold apply at h
  obtain ⟨a, m, hg, h⟩ := yields_bind_iff.1 h
  obtain ⟨rfl, rfl⟩ := yields_get_iff.1 hg
  cases hr : t.replacement? n state (s.values.get? path) with
  | none =>
    simp only [hr] at h
    obtain ⟨_, rfl⟩ := yields_pure_iff.1 h
    exact .kept fun new hn => by rw [hr] at hn; cases hn
  | some new =>
    simp only [hr] at h
    cases he : s.values.get? path == some new with
    | true =>
      simp only [he, if_true] at h
      obtain ⟨_, rfl⟩ := yields_pure_iff.1 h
      refine .kept fun new' hn => ?_
      rw [hr] at hn
      exact Option.some.inj hn ▸ he
    | false =>
      simp only [he, Bool.false_eq_true, if_false] at h
      unfold reset Value.setOrError Value.set at h
      cases hw : Value.write new (segments path) s.values with
      | mk w fault =>
        cases fault with
        | none =>
          simp only [Yields, StateT.run, hw] at h
          obtain ⟨_, rfl⟩ := Prod.mk.inj (Except.ok.inj h)
          exact .wrote hr he hw
        | some fault =>
          simp only [Yields, StateT.run, hw] at h
          cases h

theorem Applied.wrote_all {t : NodeType} {n : Node} {path : String} {state : HideState}
    {s s' : Progress} (h : Applied t n path state s s') :
    ∃ ws, Wrote s ws s' ∧ ∀ w ∈ ws, w.1 = path := by
  cases h with
  | kept => exact ⟨[], .nil, by simp⟩
  | @wrote new w hn hne hw => exact ⟨[(path, new)], .cons hw .nil, by simp⟩

/-- The path that a node has at a place. -/
def Place.pathOf (place : Place) (ctx : Context) (n : Node) : String :=
  n.pathBelow place.parent (ctx.kindOf n) place.index

/-- The path below which the keys met at a place are put. -/
def Place.base (place : Place) : String :=
  match place.index with
  | some index => Path.row place.parent index
  | none => place.parent

/-- How a node stands at a place. -/
def Place.stateOf (place : Place) (ctx : Context) (before : Value) (n : Node)
    (inherited : HideState) : HideState :=
  Visibility.stateOf n (ctx.conditions n ⟨before, place.row, place.pathOf ctx n⟩) inherited

/-- The place of the children of a node that is no repeater. -/
def Place.inside (place : Place) (path : String) : Place :=
  { place with parent := path, index := none }

/-- The place of the children of a repeater in one row. -/
def Place.inRow (place : Place) (before : Value) (path : String) (hidden : Bool) (index : Nat) :
    Place :=
  { parent := path, index := some index, row := before.get? (Path.row path index)
    keep := place.keep || hidden }

/-- The ways to visit a node. -/
inductive Visited (ctx : Context) (before : Value) (n : Node) (place : Place)
    (inherited : HideState) (s : Progress) : Instance → Progress → Prop
  | container {children : List Instance} {s' : Progress}
      (hk : (ctx.kindOf n).map Kind.ownsPath ≠ some true)
      (hc : Sweep (fun c => visit ctx before c (place.inside (place.pathOf ctx n))
        (place.stateOf ctx before n inherited)) n.children s children s') :
      Visited ctx before n place inherited s
        { node := n, kind := ctx.kindOf n, path := place.pathOf ctx n
          hidden := (place.stateOf ctx before n inherited).hidden, children } s'
  | leaf {t : NodeType} {s' : Progress} (ht : ctx.typeOf n = some t)
      (hk : ctx.kindOf n = some .leaf)
      (ha : if ctx.owns n && !place.keep then
        Applied t n (place.pathOf ctx n) (place.stateOf ctx before n inherited) s s' else s' = s) :
      Visited ctx before n place inherited s
        { node := n, kind := ctx.kindOf n, path := place.pathOf ctx n
          hidden := (place.stateOf ctx before n inherited).hidden } s'
  | keyless (hk : ctx.kindOf n = some .repeater) (ho : ctx.owns n = false) :
      Visited ctx before n place inherited s
        { node := n, kind := ctx.kindOf n, path := place.pathOf ctx n
          hidden := (place.stateOf ctx before n inherited).hidden } s
  | repeater {t : NodeType} {rows : List (List Instance)} {m s' : Progress}
      (ht : ctx.typeOf n = some t) (hk : ctx.kindOf n = some .repeater) (ho : ctx.owns n = true)
      (hf : (n.children.findSome? fun c => templateFault? ctx c (place.pathOf ctx n)) = none)
      (ha : if !place.keep then
        Applied t n (place.pathOf ctx n) (place.stateOf ctx before n inherited) s m else m = s)
      (hr : Sweep (fun index => n.children.mapM fun c => visit ctx before c
          (place.inRow before (place.pathOf ctx n)
            (place.stateOf ctx before n inherited).hidden index)
          (place.stateOf ctx before n inherited))
        (List.range (rowCount m.values (place.pathOf ctx n))) m rows s') :
      Visited ctx before n place inherited s
        { node := n, kind := ctx.kindOf n, path := place.pathOf ctx n
          hidden := (place.stateOf ctx before n inherited).hidden, rows } s'

theorem template_of_yields {ctx : Context} {n : Node} {path : String} {s s' : Progress} {u : Unit}
    (h : Yields (checkTemplate ctx n path) s u s') :
    (n.children.findSome? fun c => templateFault? ctx c path) = none ∧ s = s' := by
  unfold checkTemplate at h
  split at h
  · exact absurd h not_yields_fail
  · next hf => exact ⟨hf, (yields_pure_iff.1 h).2⟩

/-- Rows are visited as many as there are when it comes to them. -/
theorem rows_of_yields {f : Nat → Pass (List Instance)} {path : String}
    {mk : List (List Instance) → Instance} {s s' : Progress} {i : Instance}
    (h : Yields (do
      let progress ← get
      let rows ← (List.range (rowCount progress.values path)).mapM f
      pure (mk rows)) s i s') :
    ∃ rows, Sweep f (List.range (rowCount s.values path)) s rows s' ∧ mk rows = i := by
  obtain ⟨_, m, hg, h⟩ := yields_bind_iff.1 h
  obtain ⟨rfl, rfl⟩ := yields_get_iff.1 hg
  obtain ⟨rows, m', hr, h⟩ := yields_bind_iff.1 h
  obtain ⟨hi, rfl⟩ := yields_pure_iff.1 h
  exact ⟨rows, sweep_of_mapM hr, hi⟩

theorem Context.kind_of_typeOf {ctx : Context} {n : Node} {t : NodeType} {k : Kind}
    (ht : ctx.typeOf n = some t) (hk : ctx.kindOf n = some k) : t.kind = k := by
  simpa [Context.kindOf, ht] using hk

/-- A visit that succeeds went one of these ways. -/
theorem visited_of_yields {ctx : Context} {before : Value} {n : Node} {place : Place}
    {inherited : HideState} {s s' : Progress} {i : Instance}
    (h : Yields (visit ctx before n place inherited) s i s') :
    Visited ctx before n place inherited s i s' := by
  have hkind : ctx.kindOf n = (ctx.typeOf n).map (·.kind) := rfl
  have howns : ctx.owns n = n.ownsSegment (ctx.kindOf n) := rfl
  rw [visit.eq_1, Node.recurse_eq, ← visit.eq_1] at h
  simp only [List.mapM_map, ← hkind, ← howns] at h
  cases ht : ctx.typeOf n with
  | none =>
    have hk : (ctx.kindOf n).map Kind.ownsPath ≠ some true := by simp [hkind, ht]
    simp only [ht] at h
    obtain ⟨_, m, hnote, h⟩ := yields_bind_iff.1 h
    obtain rfl := yields_note hnote
    obtain ⟨children, m', hc, h⟩ := yields_bind_iff.1 h
    obtain ⟨rfl, rfl⟩ := yields_pure_iff.1 h
    exact .container hk (sweep_of_mapM hc)
  | some t =>
    have hkt := Context.kindOf_of_typeOf ht
    simp only [ht] at h
    cases htk : t.kind with
    | leaf =>
      have hk : ctx.kindOf n = some .leaf := by rw [hkt, htk]
      simp only [htk] at h
      split at h
      · next hc =>
        obtain ⟨_, m, ha, h⟩ := yields_bind_iff.1 h
        obtain ⟨rfl, rfl⟩ := yields_pure_iff.1 h
        exact .leaf ht hk (by rw [if_pos hc]; exact applied_of_yields ha)
      · next hc =>
        obtain ⟨rfl, rfl⟩ := yields_pure_iff.1 h
        exact .leaf ht hk (by rw [if_neg hc])
    | repeater =>
      have hk : ctx.kindOf n = some .repeater := by rw [hkt, htk]
      simp only [htk] at h
      split at h
      · next ho =>
        obtain ⟨_, m₀, hcheck, h⟩ := yields_bind_iff.1 h
        obtain ⟨hf, rfl⟩ := template_of_yields hcheck
        split at h
        · next hkeep =>
          obtain ⟨_, m, ha, h⟩ := yields_bind_iff.1 h
          obtain ⟨rows, hr, rfl⟩ := rows_of_yields h
          exact .repeater ht hk ho hf (by rw [if_pos hkeep]; exact applied_of_yields ha) hr
        · next hkeep =>
          obtain ⟨rows, hr, rfl⟩ := rows_of_yields h
          exact .repeater ht hk ho hf (by rw [if_neg hkeep]) hr
      · next ho =>
        obtain ⟨rfl, rfl⟩ := yields_pure_iff.1 h
        exact .keyless hk (by simpa using ho)
    | group | layout =>
      have hk : (ctx.kindOf n).map Kind.ownsPath ≠ some true := by simp [hkt, htk, Kind.ownsPath]
      simp only [htk] at h
      obtain ⟨children, m', hc, h⟩ := yields_bind_iff.1 h
      obtain ⟨rfl, rfl⟩ := yields_pure_iff.1 h
      exact .container hk (sweep_of_mapM hc)

theorem owns_of_container {ctx : Context} {n : Node}
    (h : (ctx.kindOf n).map Kind.ownsPath ≠ some true) : ctx.owns n = false := by
  cases hk : ctx.kindOf n with
  | none => simp [Context.owns, Attributes.ownsSegment, hk]
  | some k =>
    rw [hk] at h
    have hp : k.ownsPath = false := by simpa using h
    simp [Context.owns, Attributes.ownsSegment, hk, hp]

section Inversion

variable {ctx : Context} {before : Value} {n : Node} {place : Place} {inherited : HideState}
  {s s' : Progress} {i : Instance}

theorem Visited.node_eq (h : Visited ctx before n place inherited s i s') : i.node = n := by
  cases h <;> rfl

theorem Visited.kind_eq (h : Visited ctx before n place inherited s i s') :
    i.kind = ctx.kindOf n := by
  cases h <;> rfl

theorem Visited.path_eq (h : Visited ctx before n place inherited s i s') :
    i.path = place.pathOf ctx n := by
  cases h <;> rfl

theorem Visited.hidden_eq (h : Visited ctx before n place inherited s i s') :
    i.hidden = (place.stateOf ctx before n inherited).hidden := by
  cases h <;> rfl

theorem Visited.ownsValue_eq (h : Visited ctx before n place inherited s i s') :
    i.ownsValue = ctx.owns n := by
  rw [Instance.ownsValue, h.node_eq, h.kind_eq]
  rfl

/-- Only a container has children. -/
theorem Visited.sweep_children (h : Visited ctx before n place inherited s i s') {c : Instance}
    (hc : c ∈ i.children) : (ctx.kindOf n).map Kind.ownsPath ≠ some true ∧
      Sweep (fun c => visit ctx before c (place.inside i.path)
        (place.stateOf ctx before n inherited)) n.children s i.children s' := by
  cases h with
  | container hk hs => exact ⟨hk, hs⟩
  | leaf | keyless | repeater => cases hc

/-- A container has the instances of all its children. -/
theorem Visited.sweep_of_container (h : Visited ctx before n place inherited s i s')
    (hk : (ctx.kindOf n).map Kind.ownsPath ≠ some true) :
    Sweep (fun c => visit ctx before c (place.inside i.path) (place.stateOf ctx before n inherited))
      n.children s i.children s' := by
  cases h with
  | container _ hs => exact hs
  | leaf _ hl | keyless hl | repeater _ hl => exact absurd (by rw [hl]; rfl) hk

/-- Only a repeater has rows. -/
theorem Visited.sweep_rows (h : Visited ctx before n place inherited s i s') {index : Nat}
    {row : List Instance} (hr : i.rows[index]? = some row) :
    ∃ t m, ctx.typeOf n = some t ∧ ctx.kindOf n = some .repeater ∧ ctx.owns n = true ∧
      (if !place.keep then Applied t n i.path (place.stateOf ctx before n inherited) s m
        else m = s) ∧
      Sweep (fun index => n.children.mapM fun c => visit ctx before c
        (place.inRow before i.path i.hidden index) (place.stateOf ctx before n inherited))
        (List.range (rowCount m.values i.path)) m i.rows s' := by
  cases h with
  | repeater ht hk ho hf ha hrows => exact ⟨_, _, ht, hk, ho, ha, hrows⟩
  | container | leaf | keyless => simp at hr

/-- How an instance with a value of its own was visited: its type was applied unless it lay in kept
rows, and then, if it is a repeater, its rows were visited. -/
inductive Owned (ctx : Context) (before : Value) (n : Node) (place : Place) (state : HideState)
    (i : Instance) (s s' : Progress) : Prop
  | leaf {t : NodeType} (ht : ctx.typeOf n = some t) (htk : t.kind = .leaf)
      (hk : i.kind = some .leaf) (hr : i.rows = [])
      (ha : if place.keep then s' = s else Applied t n i.path state s s')
  | repeater {t : NodeType} {m : Progress} (ht : ctx.typeOf n = some t) (htk : t.kind = .repeater)
      (hk : i.kind = some .repeater)
      (ha : if place.keep then m = s else Applied t n i.path state s m)
      (hr : Sweep (fun index => n.children.mapM fun c => visit ctx before c
        (place.inRow before i.path i.hidden index) state)
        (List.range (rowCount m.values i.path)) m i.rows s')

theorem Visited.owned (h : Visited ctx before n place inherited s i s') (ho : ctx.owns n = true) :
    Owned ctx before n place (place.stateOf ctx before n inherited) i s s' := by
  cases h with
  | container hk => rw [owns_of_container hk] at ho; cases ho
  | keyless _ hno => rw [hno] at ho; cases ho
  | leaf ht hk ha =>
    refine .leaf ht (Context.kind_of_typeOf ht hk) hk rfl ?_
    cases hp : place.keep <;> simpa [ho, hp] using ha
  | repeater ht hk _ _ ha hr =>
    refine .repeater ht (Context.kind_of_typeOf ht hk) hk ?_ hr
    cases hp : place.keep <;> simpa [hp] using ha

end Inversion

/-- A node with a value adds its key to the path that it starts from. -/
theorem Place.exists_key {ctx : Context} {n : Node} (place : Place) (h : ctx.owns n = true) :
    ∃ key, n.key? = some key ∧ key ≠ "" ∧ place.pathOf ctx n = Path.join place.base key := by
  have ho : n.ownsSegment (ctx.kindOf n) = true := h
  have hkey : n.key?.isSome = true := by
    simp only [Attributes.ownsSegment, Bool.and_eq_true] at ho
    exact ho.2
  obtain ⟨key, hkey⟩ := Option.isSome_iff_exists.1 hkey
  refine ⟨key, hkey, ?_, ?_⟩
  · have hfilter := hkey
    rw [Attributes.key?, nonempty?, Option.filter_eq_some_iff] at hfilter
    simpa using hfilter.2
  · cases hi : place.index <;>
      simp only [Place.pathOf, Place.base, Attributes.pathBelow, hi, hkey, ho, if_true]

theorem Place.segments_pathOf_of_owns {ctx : Context} {n : Node} (place : Place)
    (h : ctx.owns n = true) :
    segments (place.pathOf ctx n) = segments place.base ++ n.segments := by
  obtain ⟨key, hkey, -, hpath⟩ := place.exists_key h
  rw [hpath, Path.segments_join, Node.segments, hkey, Option.getD_some]

/-- What begins with the path of a node is beneath the node. -/
theorem Place.beneath_of_owns {ctx : Context} {n : Node} (place : Place) (h : ctx.owns n = true)
    {q : List String} (hq : segments (place.pathOf ctx n) <+: q) :
    Beneath ctx [n] (segments place.base) q := by
  rw [place.segments_pathOf_of_owns h] at hq
  refine ⟨n, ?_, hq⟩
  rw [Context.scope_singleton, Context.owners_of_owns h]
  exact List.mem_cons_self

theorem Place.pathOf_of_not_owns {ctx : Context} {n : Node} (place : Place)
    (h : ctx.owns n = false) : place.pathOf ctx n = place.base := by
  have ho : n.ownsSegment (ctx.kindOf n) = false := h
  cases hi : place.index <;>
    simp only [Place.pathOf, Place.base, Attributes.pathBelow, hi, ho, Bool.false_eq_true,
      if_false] <;>
    split <;> rfl

theorem Place.base_inside {ctx : Context} {n : Node} (place : Place) (h : ctx.owns n = false) :
    (place.inside (place.pathOf ctx n)).base = place.base := by
  change place.pathOf ctx n = place.base
  exact place.pathOf_of_not_owns h

theorem Place.base_of_inside (place : Place) (path : String) :
    (place.inside path).base = path := rfl

theorem Place.base_inRow (before : Value) (place : Place) (path : String) (hidden : Bool)
    (index : Nat) : (place.inRow before path hidden index).base = Path.row path index := rfl

/-- The path of an instance goes on from where it was met by the key of a value. -/
theorem Visited.segments_path {ctx : Context} {before : Value} {n : Node} {place : Place}
    {inherited : HideState} {s s' : Progress} {i : Instance}
    (h : Visited ctx before n place inherited s i s') :
    segments i.path = segments place.base ++ if ctx.owns n then n.segments else [] := by
  rw [h.path_eq]
  cases ho : ctx.owns n with
  | false => rw [place.pathOf_of_not_owns ho, if_neg Bool.false_ne_true, List.append_nil]
  | true => rw [place.segments_pathOf_of_owns ho, if_pos rfl]

/-- A visit changes values by writes beneath what the node owns, and in no other way. -/
theorem wrote_of_yields (ctx : Context) (before : Value) (n : Node) :
    ∀ {place : Place} {inherited : HideState} {s : Progress} {i : Instance} {s' : Progress},
      Yields (visit ctx before n place inherited) s i s' →
      ∃ ws, Wrote s ws s' ∧ ∀ w ∈ ws, Beneath ctx [n] (segments place.base) (segments w.1) := by
  -- The children of a container write below its own base, those of a row below the row.
  induction n using Node.induction with
  | step n ih =>
    intro place inherited s i s' h
    cases visited_of_yields h with
    | container hk hc =>
      have ho := owns_of_container hk
      obtain ⟨ws, hws, hw⟩ := hc.wrote fun c hcn {_ _ _} hy => ih c hcn hy
      refine ⟨ws, hws, fun w hw' => ?_⟩
      obtain ⟨c, hcn, hb⟩ := hw w hw'
      rw [place.base_inside ho] at hb
      exact (hb.of_mem hcn).of_container hk
    | @leaf t s' ht hk ha =>
      split at ha
      · next hc =>
        have ho : ctx.owns n = true := by simp_all
        obtain ⟨ws, hws, hw⟩ := ha.wrote_all
        refine ⟨ws, hws, fun w hw' => place.beneath_of_owns ho ?_⟩
        simp [hw w hw']
      · subst ha
        exact ⟨[], .nil, by simp⟩
    | keyless hk ho => exact ⟨[], .nil, by simp⟩
    | @repeater t rows m s' ht hk ho hf ha hr =>
      obtain ⟨ws, hws, hw⟩ : ∃ ws, Wrote s ws m ∧ ∀ w ∈ ws, w.1 = place.pathOf ctx n := by
        split at ha
        · exact ha.wrote_all
        · subst ha
          exact ⟨[], .nil, by simp⟩
      have hrow : ∀ index ∈ List.range (rowCount m.values (place.pathOf ctx n)), ∀ {s y s'},
          Yields (n.children.mapM fun c => visit ctx before c
            (place.inRow before (place.pathOf ctx n) (place.stateOf ctx before n inherited).hidden
              index) (place.stateOf ctx before n inherited)) s y s' →
          ∃ ws, Wrote s ws s' ∧ ∀ w ∈ ws, segments (place.pathOf ctx n) <+: segments w.1 := by
        intro index _ s y s' hy
        obtain ⟨vs, hvs, hv⟩ := (sweep_of_mapM hy).wrote fun c hcn {_ _ _} hy => ih c hcn hy
        refine ⟨vs, hvs, fun w hw' => ?_⟩
        obtain ⟨c, hcn, hb⟩ := hv w hw'
        exact hb.prefix_of_row
      obtain ⟨vs, hvs, hv⟩ := hr.wrote hrow
      refine ⟨ws ++ vs, hws.trans hvs, fun w hw' => place.beneath_of_owns ho ?_⟩
      rcases List.mem_append.1 hw' with hw' | hw'
      · simp [hw w hw']
      · obtain ⟨_, _, hp⟩ := hv w hw'
        exact hp

/-- So do visits of some nodes at one place. -/
theorem wrote_of_sweep {ctx : Context} {before : Value} {nodes : List Node} {place : Place}
    {inherited : HideState} {s s' : Progress} {is : List Instance}
    (h : Sweep (fun c => visit ctx before c place inherited) nodes s is s') :
    ∃ ws, Wrote s ws s' ∧
      ∀ w ∈ ws, Beneath ctx nodes (segments place.base) (segments w.1) := by
  obtain ⟨ws, hws, hw⟩ := h.wrote fun c _ {_ _ _} hy => wrote_of_yields ctx before c hy
  refine ⟨ws, hws, fun w hw' => ?_⟩
  obtain ⟨c, hc, hb⟩ := hw w hw'
  exact hb.of_mem hc

/-- What applying the types of some nodes preserves, a visit of them preserves. -/
theorem invariant_of_yields {P : Node → Prop} (hP : ∀ n, P n → ∀ c ∈ n.children, P c)
    {I : Progress → Prop}
    (hI : ∀ {n t path state s s'}, P n → ctx.typeOf n = some t → t.kind.ownsPath = true →
      Applied t n path state s s' → I s → I s')
    (n : Node) : P n → ∀ {place : Place} {inherited : HideState} {s : Progress} {i : Instance}
      {s' : Progress}, Yields (visit ctx before n place inherited) s i s' → I s → I s' := by
  induction n using Node.induction with
  | step n ih =>
    intro hn place inherited s i s' h hs
    have hchild : ∀ c ∈ n.children, ∀ {place inherited s i s'},
        Yields (visit ctx before c place inherited) s i s' → I s → I s' :=
      fun c hc => ih c hc (hP n hn c hc)
    cases visited_of_yields h with
    | container _ hc => exact hc.invariant (fun c hcn {_ _ _} hy => hchild c hcn hy) hs
    | leaf ht hk ha =>
      split at ha
      · exact hI hn ht (by rw [Context.kind_of_typeOf ht hk]; rfl) ha hs
      · exact ha ▸ hs
    | keyless => exact hs
    | @repeater t rows m s' ht hk _ _ ha hr =>
      have hm : I m := by
        split at ha
        · exact hI hn ht (by rw [Context.kind_of_typeOf ht hk]; rfl) ha hs
        · exact ha ▸ hs
      exact hr.invariant (fun j _ {_ _ _} hy =>
        (sweep_of_mapM hy).invariant fun c hcn {_ _ _} hy => hchild c hcn hy) hm

end Visibility
end FormLogic
