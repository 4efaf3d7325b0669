import FormLogic.Proofs.FreshForm
import FormLogic.Proofs.IndependentWrites
import FormLogic.Proofs.VisitSteps

/-!
# The plan of a pass

What a pass is going to do can be planned node by node from the values before it: which
instances there will be, and which values will be reset. A node that is reset is due one
write, and a repeater that is reset is left without rows. Planned writes are beneath the
nodes that they are planned for, and so those of a clean schema are independent.
-/
namespace FormLogic

open FormLogic.Path (Apart index? segments)
open Visibility

section Within

variable {nodes : List Node} {n c m : Node}

theorem Node.Within.of_child (hc : c ∈ n.children) (h : Node.Within [c] m) :
    Node.Within [n] m := by
  refine h.of_forall (fun k hk => ?_) fun _ hk _ hc => hk.child hc
  exact List.mem_singleton.1 hk ▸ .child (.top List.mem_cons_self) hc

theorem Node.Within.of_mem (hn : n ∈ nodes) (h : Node.Within [n] m) : Node.Within nodes m :=
  h.of_forall (fun _ hk => .top (List.mem_singleton.1 hk ▸ hn)) fun _ hk _ hc => hk.child hc

/-- A node and all below it pass a test. -/
def Node.all (p : Node → Bool) : Node → Bool := Node.recurse fun n below => p n && below.all id

theorem Node.all_eq (p : Node → Bool) (n : Node) :
    n.all p = (p n && n.children.all (Node.all p)) := by
  rw [all, Node.recurse_eq, ← all, List.all_map]
  rfl

theorem Node.forall_within_iff {p : Node → Bool} :
    (∀ n ∈ nodes, n.all p = true) ↔ ∀ m, Node.Within nodes m → p m = true := by
  constructor
  · intro h m hm
    have hall : m.all p = true := hm.of_forall h fun k hk => by
      rw [Node.all_eq, Bool.and_eq_true, List.all_eq_true] at hk
      exact hk.2
    rw [Node.all_eq, Bool.and_eq_true] at hall
    exact hall.1
  · intro h n hn
    replace h : ∀ m, Node.Within [n] m → p m = true := fun m hm => h m (.of_mem hn hm)
    clear hn
    induction n using Node.induction with
    | step n ih =>
      rw [Node.all_eq, Bool.and_eq_true, List.all_eq_true]
      exact ⟨h n (.top List.mem_cons_self), fun c hc => ih c hc fun m hm => h m (.of_child hc hm)⟩

/-- Every key of a value in a schema has a segment. -/
def Context.Keyed (ctx : Context) (nodes : List Node) : Prop :=
  ∀ n, Node.Within nodes n → ctx.owns n = true → n.segments ≠ []

instance (ctx : Context) (nodes : List Node) : Decidable (ctx.Keyed nodes) :=
  decidable_of_iff (∀ n ∈ nodes, n.all (fun m => !ctx.owns m || !m.segments.isEmpty) = true) <| by
    rw [Node.forall_within_iff, Context.Keyed]
    refine forall_congr' fun m => imp_congr_right fun _ => ?_
    cases ctx.owns m <;> simp

theorem Context.Keyed.of_mem_scope {ctx : Context} (h : ctx.Keyed nodes)
    (hm : m ∈ ctx.scope nodes) : m.segments ≠ [] := by
  obtain ⟨n, hn, ho⟩ := List.mem_flatMap.1 hm
  exact h m (Context.within_of_mem_owners (.top hn) ho) (Context.owns_of_mem_owners ho)

end Within

/-- The children that stand in the scope of a node, which are those of a container. -/
def Context.contents (ctx : Context) (n : Node) : List Node :=
  if (ctx.kindOf n).map Kind.ownsPath = some true then [] else n.children

section Contents

variable {ctx : Context} {n : Node} {nodes : List Node}

theorem Context.contents_of_container (hk : (ctx.kindOf n).map Kind.ownsPath ≠ some true) :
    ctx.contents n = n.children := if_neg hk

theorem Context.contents_of_ownsPath (hk : (ctx.kindOf n).map Kind.ownsPath = some true) :
    ctx.contents n = [] := if_pos hk

theorem Context.mem_contents {c : Node} (hc : c ∈ ctx.contents n) :
    (ctx.kindOf n).map Kind.ownsPath ≠ some true ∧ c ∈ n.children := by
  rw [Context.contents] at hc
  split at hc
  · cases hc
  · next hk => exact ⟨hk, hc⟩

/-- The nodes of a clean scope own places apart from each other. -/
theorem CleanScope.pairwise_apart (hc : CleanScope ctx nodes) (base : List String) :
    nodes.Pairwise fun a b => ∀ {p q}, Beneath ctx [a] base p → Beneath ctx [b] base q →
      Apart p q := by
  induction nodes with
  | nil => exact .nil
  | cons n rest ih =>
    have hs : CleanScope ctx ([n] ++ rest) := hc
    exact .cons (fun b hb {_ _} hp hq => hs.apart hp (hq.of_mem hb)) (ih hs.append_right)

end Contents

/-- The write that a type asks for: what it puts in place of a value, if that is another one. -/
def NodeType.due (t : NodeType) (n : Node) (path : String) (state : HideState)
    (current : Option Value) : List (String × Value) :=
  match t.replacement? n state current with
  | none => []
  | some new => if current == some new then [] else [(path, new)]

namespace Visibility

/-- What becomes of a part of a pass: its result and the writes on the way to it. -/
structure Plan (α : Type) where
  result : α
  writes : List (String × Value) := []

/-- Plans carried out one after the other. -/
def Plan.all {α : Type} (plans : List (Plan α)) : Plan (List α) where
  result := plans.map (·.result)
  writes := plans.flatMap (·.writes)

section Planning

variable (place : Place) (ctx : Context) (before : Value)

/-- The write that a node is due at a place. -/
def Place.due (n : Node) (inherited : HideState) : List (String × Value) :=
  let path := place.pathOf ctx n
  match ctx.typeOf n with
  | none => []
  | some t =>
    if ctx.owns n && !place.keep then
      t.due n path (place.stateOf ctx before n inherited) (before.get? path)
    else []

/-- The number of rows of a repeater that is not due a write, which would leave it without rows. -/
def Place.rowsLeft (n : Node) (inherited : HideState) : Nat :=
  if ctx.kindOf n = some .repeater ∧ ctx.owns n = true ∧ place.due ctx before n inherited = [] then
    rowCount before (place.pathOf ctx n)
  else 0

/-- What a visit is going to do, by the values before the pass. -/
def planOf : Node → Place → HideState → Plan Instance :=
  Node.recurse fun n below place inherited =>
    let path := place.pathOf ctx n
    let state := place.stateOf ctx before n inherited
    let contents := if (ctx.kindOf n).map Kind.ownsPath = some true then [] else below
    let children := Plan.all (contents.map fun plan => plan (place.inside path) state)
    let rows := Plan.all ((List.range (place.rowsLeft ctx before n inherited)).map fun index =>
      Plan.all (below.map fun plan => plan (place.inRow before path state.hidden index) state))
    { result := { place.instanceOf ctx before n inherited with
        children := children.result, rows := rows.result }
      writes := place.due ctx before n inherited ++ (children.writes ++ rows.writes) }

/-- The plans of some nodes at one place. -/
def Place.planAll (nodes : List Node) (inherited : HideState) : Plan (List Instance) :=
  .all (nodes.map fun n => planOf ctx before n place inherited)

/-- The plans of what stands in the scope of a node. -/
def Place.planContents (n : Node) (inherited : HideState) : Plan (List Instance) :=
  (place.inside (place.pathOf ctx n)).planAll ctx before (ctx.contents n)
    (place.stateOf ctx before n inherited)

/-- The plan of one row. -/
def Place.planRow (n : Node) (inherited : HideState) (index : Nat) : Plan (List Instance) :=
  let state := place.stateOf ctx before n inherited
  (place.inRow before (place.pathOf ctx n) state.hidden index).planAll ctx before n.children state

def Place.planRows (n : Node) (inherited : HideState) : Plan (List (List Instance)) :=
  .all ((List.range (place.rowsLeft ctx before n inherited)).map
    (place.planRow ctx before n inherited))

theorem planOf_eq (n : Node) (inherited : HideState) : planOf ctx before n place inherited =
    { result := { place.instanceOf ctx before n inherited with
        children := (place.planContents ctx before n inherited).result
        rows := (place.planRows ctx before n inherited).result }
      writes := place.due ctx before n inherited ++
        ((place.planContents ctx before n inherited).writes ++
          (place.planRows ctx before n inherited).writes) } := by
  have hcontents : (if (ctx.kindOf n).map Kind.ownsPath = some true then []
      else n.children.map (planOf ctx before)) = (ctx.contents n).map (planOf ctx before) := by
    rw [Context.contents]
    split <;> rfl
  have hrows : (place.planRows ctx before n inherited) =
      .all ((List.range (place.rowsLeft ctx before n inherited)).map fun index =>
        .all (n.children.map fun c => planOf ctx before c (place.inRow before (place.pathOf ctx n)
          (place.stateOf ctx before n inherited).hidden index)
          (place.stateOf ctx before n inherited))) := rfl
  rw [planOf.eq_1, Node.recurse_eq, ← planOf.eq_1]
  simp only [hcontents, hrows, List.map_map]
  rfl

/-- What a pass over some nodes is going to do. -/
def passPlan (nodes : List Node) : Plan (List Instance) := Place.planAll {} ctx before nodes {}

end Planning

theorem Plan.all_cons {α : Type} (p : Plan α) (ps : List (Plan α)) :
    Plan.all (p :: ps) = ⟨p.result :: (Plan.all ps).result, p.writes ++ (Plan.all ps).writes⟩ := rfl

theorem Plan.mem_writes_all {α : Type} {ps : List (Plan α)} {w : String × Value} :
    w ∈ (Plan.all ps).writes ↔ ∃ p ∈ ps, w ∈ p.writes := List.mem_flatMap

section Due

variable {ctx : Context} {before : Value} {n : Node} {place : Place} {inherited : HideState}

/-- A node is due at most one write, to its own path. -/
theorem Place.due_eq (place : Place) (ctx : Context) (before : Value) (n : Node)
    (inherited : HideState) : place.due ctx before n inherited = [] ∨ ctx.owns n = true ∧
      ∃ new, place.due ctx before n inherited = [(place.pathOf ctx n, new)] := by
  rw [Place.due]
  cases ctx.typeOf n with
  | none => exact Or.inl rfl
  | some t =>
    dsimp only
    cases ho : ctx.owns n && !place.keep with
    | false => exact Or.inl rfl
    | true =>
      rw [if_pos rfl, NodeType.due]
      cases t.replacement? n _ _ with
      | none => exact Or.inl rfl
      | some new =>
        dsimp only
        split
        · exact Or.inl rfl
        · exact Or.inr ⟨(Bool.and_eq_true_iff.1 ho).1, new, rfl⟩

theorem Place.eq_of_mem_due {w : String × Value} (h : w ∈ place.due ctx before n inherited) :
    ctx.owns n = true ∧ w.1 = place.pathOf ctx n := by
  rcases place.due_eq ctx before n inherited with hd | ⟨ho, new, hd⟩
  · rw [hd] at h
    cases h
  · rw [hd] at h
    exact ⟨ho, by rw [List.mem_singleton.1 h]⟩

theorem Place.due_of_not_owns (ho : ctx.owns n = false) :
    place.due ctx before n inherited = [] := by
  rcases place.due_eq ctx before n inherited with hd | ⟨ho', -⟩
  · exact hd
  · rw [ho] at ho'
    cases ho'

theorem Place.rowsLeft_pos {index : Nat} (h : index < place.rowsLeft ctx before n inherited) :
    ctx.kindOf n = some .repeater ∧ ctx.owns n = true ∧ place.due ctx before n inherited = [] ∧
      index < rowCount before (place.pathOf ctx n) := by
  rw [Place.rowsLeft] at h
  split at h
  · next hc => exact ⟨hc.1, hc.2.1, hc.2.2, h⟩
  · cases h

/-- A standard type asks for its default where the node clears and has another value. -/
theorem Place.due_of_resets {t : NodeType} {default : Node → Value} (ht : ctx.typeOf n = some t)
    (hd : Resets t default) : place.due ctx before n inherited =
      if ctx.owns n && !place.keep && (place.stateOf ctx before n inherited).clear &&
          !(before.get? (place.pathOf ctx n) == some (default n)) then
        [(place.pathOf ctx n, default n)] else [] := by
  simp only [Place.due, ht, NodeType.due, hd.replacement?_eq]
  cases ctx.owns n && !place.keep with
  | false => simp
  | true =>
    cases (place.stateOf ctx before n inherited).clear with
    | false => simp
    | true => cases he : before.get? (place.pathOf ctx n) == some (default n) <;> simp [he]

end Due

section Shapes

variable {ctx : Context} {before : Value} {n : Node} {place : Place} {inherited : HideState}

theorem Place.rowsLeft_of_due {w : String × Value} {ws : List (String × Value)}
    (h : place.due ctx before n inherited = w :: ws) :
    place.rowsLeft ctx before n inherited = 0 := by
  rw [Place.rowsLeft, h, if_neg (by simp)]

theorem Place.rowsLeft_of_leaf (hk : ctx.kindOf n = some .leaf) :
    place.rowsLeft ctx before n inherited = 0 := by
  rw [Place.rowsLeft, hk, if_neg (by simp)]

theorem Place.rowsLeft_of_not_owns (ho : ctx.owns n = false) :
    place.rowsLeft ctx before n inherited = 0 := by
  rw [Place.rowsLeft, ho, if_neg (by simp)]

theorem Place.planContents_of_ownsPath (hk : (ctx.kindOf n).map Kind.ownsPath = some true) :
    place.planContents ctx before n inherited = ⟨[], []⟩ := by
  rw [Place.planContents, Context.contents_of_ownsPath hk]
  rfl

theorem Place.planContents_of_container (hk : (ctx.kindOf n).map Kind.ownsPath ≠ some true) :
    place.planContents ctx before n inherited =
      (place.inside (place.pathOf ctx n)).planAll ctx before n.children
        (place.stateOf ctx before n inherited) := by
  rw [Place.planContents, Context.contents_of_container hk]

theorem Place.planRows_of_rowsLeft (h : place.rowsLeft ctx before n inherited = 0) :
    place.planRows ctx before n inherited = ⟨[], []⟩ := by
  rw [Place.planRows, h]
  rfl

/-- A container is due nothing itself and has no rows. -/
theorem planOf_of_container (hk : (ctx.kindOf n).map Kind.ownsPath ≠ some true) :
    planOf ctx before n place inherited =
      { result := { place.instanceOf ctx before n inherited with
          children := (place.planContents ctx before n inherited).result }
        writes := (place.planContents ctx before n inherited).writes } := by
  have ho := owns_of_container hk
  rw [planOf_eq, Place.due_of_not_owns ho,
    Place.planRows_of_rowsLeft (Place.rowsLeft_of_not_owns ho), List.nil_append, List.append_nil]
  rfl

/-- A leaf or a repeater has nothing below it but rows. -/
theorem planOf_of_ownsPath (hk : (ctx.kindOf n).map Kind.ownsPath = some true) :
    planOf ctx before n place inherited =
      { result := { place.instanceOf ctx before n inherited with
          rows := (place.planRows ctx before n inherited).result }
        writes := place.due ctx before n inherited ++
          (place.planRows ctx before n inherited).writes } := by
  rw [planOf_eq, Place.planContents_of_ownsPath hk, List.nil_append]
  rfl

end Shapes

section Beneath

variable {ctx : Context} {before : Value} {n : Node} {nodes : List Node} {place : Place}
  {inherited : HideState}

/-- What is planned for some nodes at one place is planned for one of them. -/
theorem Place.mem_writes_planAll {w : String × Value}
    (h : w ∈ (place.planAll ctx before nodes inherited).writes) :
    ∃ n ∈ nodes, w ∈ (planOf ctx before n place inherited).writes := by
  obtain ⟨p, hp, hw⟩ := Plan.mem_writes_all.1 h
  obtain ⟨n, hn, rfl⟩ := List.mem_map.1 hp
  exact ⟨n, hn, hw⟩

theorem Place.mem_writes_planRows {w : String × Value}
    (h : w ∈ (place.planRows ctx before n inherited).writes) :
    ∃ index < place.rowsLeft ctx before n inherited,
      w ∈ (place.planRow ctx before n inherited index).writes := by
  obtain ⟨p, hp, hw⟩ := Plan.mem_writes_all.1 h
  obtain ⟨index, hindex, rfl⟩ := List.mem_map.1 hp
  exact ⟨index, List.mem_range.1 hindex, hw⟩

/-- A planned write is the one that the node is due, or planned for its scope or one of its rows. -/
theorem mem_writes_planOf {w : String × Value}
    (h : w ∈ (planOf ctx before n place inherited).writes) :
    w ∈ place.due ctx before n inherited ∨
      w ∈ (place.planContents ctx before n inherited).writes ∨
      w ∈ (place.planRows ctx before n inherited).writes := by
  rw [planOf_eq] at h
  rcases List.mem_append.1 h with h | h
  · exact Or.inl h
  · exact Or.inr (List.mem_append.1 h)

/-- Planned writes are beneath the node that they are planned for. -/
theorem beneath_of_planOf (ctx : Context) (before : Value) (n : Node) :
    ∀ {place : Place} {inherited : HideState} {w : String × Value},
      w ∈ (planOf ctx before n place inherited).writes →
      Beneath ctx [n] (segments place.base) (segments w.1) := by
  induction n using Node.induction with
  | step n ih =>
    intro place inherited w h
    rcases mem_writes_planOf h with h | h | h
    · obtain ⟨ho, hpath⟩ := Place.eq_of_mem_due h
      exact place.beneath_of_owns ho (hpath ▸ List.prefix_rfl)
    · obtain ⟨c, hc, hw⟩ := Place.mem_writes_planAll h
      obtain ⟨hk, hc⟩ := Context.mem_contents hc
      have hb := ih c hc hw
      rw [place.base_inside (owns_of_container hk)] at hb
      exact (hb.of_mem hc).of_container hk
    · obtain ⟨index, hindex, hw⟩ := Place.mem_writes_planRows h
      obtain ⟨c, hc, hw⟩ := Place.mem_writes_planAll hw
      exact place.beneath_of_owns (Place.rowsLeft_pos hindex).2.1 (ih c hc hw).prefix_of_row

theorem beneath_of_planAll {w : String × Value}
    (h : w ∈ (place.planAll ctx before nodes inherited).writes) :
    Beneath ctx nodes (segments place.base) (segments w.1) := by
  obtain ⟨n, hn, hw⟩ := Place.mem_writes_planAll h
  exact (beneath_of_planOf ctx before n hw).of_mem hn

/-- The writes of a row are beneath the row. -/
theorem beneath_of_planRow {index : Nat} {w : String × Value}
    (h : w ∈ (place.planRow ctx before n inherited index).writes) :
    Beneath ctx n.children (segments (Path.row (place.pathOf ctx n) index)) (segments w.1) := by
  have hb := beneath_of_planAll h
  rwa [Place.base_inRow] at hb

end Beneath

section Independent

variable {ctx : Context} {before : Value} {nodes : List Node} {n : Node} {place : Place}
  {inherited : HideState}

theorem independent_all {α : Type} {plans : List (Plan α)}
    (hp : plans.Pairwise fun p q => ∀ w ∈ p.writes, ∀ v ∈ q.writes,
      Apart (segments w.1) (segments v.1))
    (h : ∀ p ∈ plans, Independent p.writes) : Independent (Plan.all plans).writes := by
  induction plans with
  | nil => exact .nil
  | cons p rest ih =>
    rw [List.pairwise_cons] at hp
    rw [Plan.all_cons]
    refine (h p List.mem_cons_self).append
      (ih hp.2 fun q hq => h q (List.mem_cons_of_mem p hq)) fun w hw v hv => ?_
    obtain ⟨q, hq, hv⟩ := Plan.mem_writes_all.1 hv
    exact hp.1 q hq w hw v hv

theorem independent_planAll (hc : CleanScope ctx nodes)
    (h : ∀ n ∈ nodes, Independent (planOf ctx before n place inherited).writes) :
    Independent (place.planAll ctx before nodes inherited).writes := by
  refine independent_all (List.pairwise_map.2 ?_) fun p hp => ?_
  · refine (hc.pairwise_apart (segments place.base)).imp fun {a b} hab w hw v hv => ?_
    exact hab (beneath_of_planOf ctx before a hw) (beneath_of_planOf ctx before b hv)
  · obtain ⟨n, hn, rfl⟩ := List.mem_map.1 hp
    exact h n hn

/-- The planned writes of a clean schema whose keys have segments are independent. -/
theorem independent_planOf (ctx : Context) (before : Value) (n : Node) : Clean ctx [n] →
    ctx.Keyed [n] →
    ∀ {place : Place} {inherited : HideState},
      Independent (planOf ctx before n place inherited).writes := by
  induction n using Node.induction with
  | step n ih =>
    intro hc hkeyed place inherited
    have hbelow : ∀ c ∈ n.children, ctx.Keyed [c] := fun c hcn m hm => hkeyed m (.of_child hcn hm)
    by_cases hk : (ctx.kindOf n).map Kind.ownsPath = some true
    · rw [planOf_of_ownsPath hk]
      rcases place.due_eq ctx before n inherited with hd | ⟨ho, new, hd⟩
      · rw [hd, List.nil_append]
        refine independent_all (List.pairwise_map.2 ?_) fun p hp => ?_
        · refine List.nodup_range.imp fun {i j} hij w hw v hv => ?_
          exact apart_of_rows hij (beneath_of_planRow hw) (beneath_of_planRow hv)
        · obtain ⟨index, hindex, rfl⟩ := List.mem_map.1 hp
          have hcc := hc.children_of_repeater (Place.rowsLeft_pos (List.mem_range.1 hindex)).1
          exact independent_planAll hcc.scope fun c hcn => ih c hcn (hcc.of_mem hcn) (hbelow c hcn)
      · have hname : ∀ s ∈ n.segments, index? s = none := by
          refine hc.scope.named n ?_
          rw [Context.scope_singleton, Context.owners_of_owns ho]
          exact List.mem_cons_self
        rw [Place.planRows_of_rowsLeft (Place.rowsLeft_of_due hd), hd, List.append_nil]
        refine .singleton ?_
        rw [place.segments_pathOf_of_owns ho]
        exact (Path.EndsInName.of_forall (hkeyed n (.top List.mem_cons_self) ho) hname).append _
    · have hcc := hc.children_of_container hk
      rw [planOf_of_container hk, Place.planContents_of_container hk]
      exact independent_planAll hcc.scope fun c hcn => ih c hcn (hcc.of_mem hcn) (hbelow c hcn)

end Independent

end Visibility
end FormLogic
