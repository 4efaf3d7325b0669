import FormLogic.Proofs.HiddenFlags
import FormLogic.Proofs.PlannedPass
import FormLogic.Proofs.ReadsAfterWrites

/-!
# Rows do not reach beyond themselves

What is in one row of a list decides what becomes of that row. As long as no condition reads
the list, its rows or what it lies in, a pass does the same everywhere else: it shows and
hides the same, resets the same paths, and leaves the same values.
-/
namespace FormLogic

open FormLogic.Path (Apart index? segments)
open Visibility

theorem Path.index?_le {s : String} {i : Nat} (h : index? s = some i) : i ≤ Literal.wordMax := by
  have hword : ∀ {cs : List Char} {i : Nat}, Literal.wordOfChars? cs = some i →
      i ≤ Literal.wordMax := fun {cs i} h => by
    unfold Literal.wordOfChars? at h
    split at h <;> simpa using (Option.filter_eq_some_iff.1 h).2
  exact hword h

/-- What is apart from a place below another one lies below that one, or is apart from it too. -/
theorem Path.isPrefix_or_apart {p r q : List String} (h : Apart (p ++ r) q) :
    p <+: q ∨ Apart p q := by
  induction p generalizing q with
  | nil => exact Or.inl List.nil_prefix
  | cons a as ih =>
    cases q with
    | nil => exact h.elim
    | cons b bs =>
      by_cases he : a = b
      · subst he
        simp only [List.cons_append, Apart, if_true] at h ⊢
        exact (ih h).imp (fun hp => List.cons_prefix_cons.2 ⟨rfl, hp⟩) id
      · simpa only [List.cons_append, Apart, he, if_false] using Or.inr h

/-- Whether a path leads neither to a row nor into it. -/
def Path.outsideRow (path : String) (index : Nat) (other : String) : Bool :=
  !(segments (row path index)).isPrefixOf (segments other)

theorem Path.outsideRow_eq_true_iff {path other : String} {index : Nat} :
    outsideRow path index other = true ↔ ¬ segments (row path index) <+: segments other := by
  rw [outsideRow, Bool.not_eq_true', ← Bool.not_eq_true, List.isPrefixOf_iff_prefix]

/-- Two values with a list at a path that differ in one of its rows at most. -/
structure SameBesideRow (path : String) (index : Nat) (v w : Value) : Prop where
  apart : ∀ q, Apart (segments (Path.row path index)) q → w.follow q = v.follow q
  rows : rowCount w path = rowCount v path
  within : index < rowCount v path

theorem sameBesideRow_of_set {path : String} {index : Nat} {v w x : Value} {items : List Value}
    (hv : v.get? path = some (.arr items)) (hi : index < items.length)
    (hw : v.setOrError path (.arr (items.set index x)) = .ok w) :
    SameBesideRow path index v w := by
  have hwrite := Value.setOrError_eq_ok_iff.1 hw
  have hread : w.get? path = some (.arr (items.set index x)) := Value.follow_write_self hwrite
  refine ⟨fun q hq => ?_, by simp [rowCount, hv, hread, Value.items?],
    by simpa [rowCount, hv, Value.items?]⟩
  rw [Path.segments_row] at hq
  rcases Path.isPrefix_or_apart hq with ⟨t, rfl⟩ | hapart
  · rw [Path.apart_append_iff] at hq
    rw [Value.follow_append, Value.follow_append]
    change (w.get? path).bind _ = (v.get? path).bind _
    rw [hv, hread, Option.bind_some, Option.bind_some]
    cases t with
    | nil => exact hq.symm.elim
    | cons s more =>
      have hchild : (Value.arr (items.set index x)).child? s = (Value.arr items).child? s := by
        simp only [Value.child?]
        cases hs : index? s with
        | none => rfl
        | some k =>
          have hne : index ≠ k := by
            rintro rfl
            have hnum : index? (toString index) = some index := by
              rw [Path.index?_toString, if_pos (Path.index?_le hs)]
            by_cases hst : toString index = s
            · simp only [Apart, hst, if_true] at hq
            · simp only [Apart, hst, if_false] at hq
              exact hq index hnum hs
          simp [List.getElem?_set_ne hne]
      rw [Value.follow, Value.follow, hchild]
  · exact Value.follow_write_of_apart hapart hwrite

namespace Instance

mutual
/-- An instance with one row emptied of the repeater outside of rows that owns the value at a path.
-/
def withoutRow (path : String) (index : Nat) : Instance → Instance
  | ⟨node, kind, own, hidden, children, rows⟩ =>
    if node.ownsSegment kind && own == path then
      ⟨node, kind, own, hidden, children, rows.set index []⟩
    else ⟨node, kind, own, hidden, withoutRowIn path index children, rows⟩
def withoutRowIn (path : String) (index : Nat) : List Instance → List Instance
  | [] => []
  | i :: rest => withoutRow path index i :: withoutRowIn path index rest
end

theorem withoutRowIn_eq_map (path : String) (index : Nat) (is : List Instance) :
    withoutRowIn path index is = is.map (withoutRow path index) := by
  induction is with
  | nil => rfl
  | cons i rest ih => rw [withoutRowIn, ih, List.map_cons]

theorem withoutRow_of_own {path : String} (index : Nat) {i : Instance} (ho : i.ownsValue = true)
    (hp : i.path = path) :
    i.withoutRow path index = { i with rows := i.rows.set index [] } := by
  obtain ⟨node, kind, own, hidden, children, rows⟩ := i
  have hc : (node.ownsSegment kind && own == path) = true := by
    rw [Bool.and_eq_true, beq_iff_eq]
    exact ⟨ho, hp⟩
  rw [withoutRow, if_pos hc]

theorem withoutRow_of_container (path : String) (index : Nat) {i : Instance}
    (ho : i.ownsValue = false) :
    i.withoutRow path index = { i with children := i.children.map (withoutRow path index) } := by
  obtain ⟨node, kind, own, hidden, children, rows⟩ := i
  have hc : ¬ (node.ownsSegment kind && own == path) = true := by
    rw [Bool.and_eq_true]
    exact fun h => Bool.noConfusion (h.1.symm.trans ho)
  rw [withoutRow, if_neg hc, withoutRowIn_eq_map]

end Instance

namespace Visibility

/-- The conditions of some nodes read the same in two values outside of rows. -/
def ReadAlike (nodes : List Node) (v w : Value) : Prop :=
  ∀ n, Node.Within nodes n → ∀ source, n.conditional.bind Conditional.source? = some source →
    w.get? source = v.get? source

section Plans

variable {ctx : Context} {v w : Value} {n r : Node} {nodes : List Node} {place : Place}
  {inherited : HideState} {path : String} {index : Nat}

theorem ReadAlike.of_mem (h : ReadAlike nodes v w) (hn : n ∈ nodes) : ReadAlike [n] v w :=
  fun m hm => h m (.of_mem hn hm)

theorem ReadAlike.child (h : ReadAlike [n] v w) {c : Node} (hc : c ∈ n.children) :
    ReadAlike [c] v w :=
  fun m hm => h m (.of_child hc hm)

theorem stateOf_of_reads (hd : ctx.conditions = Conditions.declarative) (h : ReadAlike [n] v w) :
    place.stateOf ctx w n inherited = place.stateOf ctx v n inherited := by
  have hhides : Conditions.declarative n ⟨w, place.row, place.pathOf ctx n⟩ =
      Conditions.declarative n ⟨v, place.row, place.pathOf ctx n⟩ :=
    Conditions.declarative_congr fun source hs => by
      simp only [Scope.lookup, h n (.top List.mem_cons_self) source hs]
  rw [Place.stateOf, Place.stateOf, hd, hhides]

theorem planAll_congr (h : ∀ n ∈ nodes, planOf ctx w n place inherited =
    planOf ctx v n place inherited) :
    place.planAll ctx w nodes inherited = place.planAll ctx v nodes inherited :=
  congrArg Plan.all (List.map_congr_left h)

/-- A plan depends on what is beneath the node and on what its conditions read. -/
theorem planOf_congr (hd : ctx.conditions = Conditions.declarative) (n : Node) :
    ∀ {place : Place} {inherited : HideState}, Untouched ctx v [n] (segments place.base) w →
      ReadAlike [n] v w → planOf ctx w n place inherited = planOf ctx v n place inherited := by
  induction n using Node.induction with
  | step n ih =>
    intro place inherited hu hr
    have hstate : place.stateOf ctx w n inherited = place.stateOf ctx v n inherited :=
      stateOf_of_reads hd hr
    have hread : ctx.owns n = true →
        w.get? (place.pathOf ctx n) = v.get? (place.pathOf ctx n) :=
      fun ho => hu _ (place.beneath_of_owns ho List.prefix_rfl)
    have hdue : place.due ctx w n inherited = place.due ctx v n inherited := by
      cases ho : ctx.owns n with
      | false => rw [Place.due_of_not_owns ho, Place.due_of_not_owns ho]
      | true => simp only [Place.due, hstate, hread ho]
    have hleft : place.rowsLeft ctx w n inherited = place.rowsLeft ctx v n inherited := by
      cases ho : ctx.owns n with
      | false => simp [Place.rowsLeft, ho]
      | true => simp only [Place.rowsLeft, hdue, rowCount_congr (hread ho)]
    have hcontents : place.planContents ctx w n inherited =
        place.planContents ctx v n inherited := by
      rw [Place.planContents, Place.planContents, hstate]
      refine planAll_congr fun c hc => ?_
      obtain ⟨hk, hc⟩ := Context.mem_contents hc
      refine ih c hc ?_ (hr.child hc)
      rw [place.base_inside (owns_of_container hk)]
      exact hu.mono fun q hq => (hq.of_mem hc).of_container hk
    have hrows : place.planRows ctx w n inherited = place.planRows ctx v n inherited := by
      rw [Place.planRows, Place.planRows, hleft]
      refine congrArg Plan.all (List.map_congr_left fun index hindex => ?_)
      obtain ⟨-, ho, -, -⟩ := Place.rowsLeft_pos (List.mem_range.1 hindex)
      have hrow : w.get? (Path.row (place.pathOf ctx n) index) =
          v.get? (Path.row (place.pathOf ctx n) index) := by
        refine hu _ (place.beneath_of_owns ho ?_)
        rw [Path.segments_row]
        exact List.prefix_append _ _
      rw [Place.planRow, Place.planRow, hstate, Place.inRow, Place.inRow, hrow]
      refine planAll_congr fun c hc => ih c hc (hu.mono fun q hq => ?_) (hr.child hc)
      exact place.beneath_of_owns ho (hq.of_mem hc).prefix_of_row
    rw [planOf_eq, planOf_eq, hdue, hcontents, hrows, Place.instanceOf, Place.instanceOf, hstate]

/-- A row is planned by what is in it and by what its conditions read elsewhere. -/
theorem planRow_congr (hd : ctx.conditions = Conditions.declarative)
    (hstate : place.stateOf ctx w n inherited = place.stateOf ctx v n inherited) {i : Nat}
    (hu : ∀ q, segments (Path.row (place.pathOf ctx n) i) <+: q → w.follow q = v.follow q)
    (hr : ReadAlike [n] v w) :
    place.planRow ctx w n inherited i = place.planRow ctx v n inherited i := by
  have hrow : w.get? (Path.row (place.pathOf ctx n) i) = v.get? (Path.row (place.pathOf ctx n) i) :=
    hu _ List.prefix_rfl
  rw [Place.planRow, Place.planRow, hstate, Place.inRow, Place.inRow, hrow]
  refine planAll_congr fun c hc => planOf_congr hd c (fun q hq => hu q ?_) (hr.child hc)
  obtain ⟨o, -, hq⟩ := hq
  exact (List.prefix_append _ _).trans hq

/-- The rows that a repeater is planned to have, without one of them. -/
theorem withoutRow_of_owns (ho : ctx.owns n = true) (rows : List (List Instance)) :
    ({ place.instanceOf ctx v n inherited with rows } : Instance).withoutRow
        (place.pathOf ctx n) index =
      { place.instanceOf ctx v n inherited with rows := rows.set index [] } :=
  Instance.withoutRow_of_own index ho rfl

theorem withoutRow_of_not_owns (ho : ctx.owns n = false) (children : List Instance) :
    ({ place.instanceOf ctx v n inherited with children } : Instance).withoutRow path index =
      { place.instanceOf ctx v n inherited with
        children := children.map (Instance.withoutRow path index) } :=
  Instance.withoutRow_of_container path index ho

/-- A list with rows is due the same as any other list with rows. -/
theorem due_of_rows (hs : ctx.registry = Registry.standard) (hk : ctx.kindOf n = some .repeater)
    (hstate : place.stateOf ctx w n inherited = place.stateOf ctx v n inherited)
    (hw : 0 < rowCount w (place.pathOf ctx n)) (hv : 0 < rowCount v (place.pathOf ctx n)) :
    place.due ctx w n inherited = place.due ctx v n inherited := by
  obtain ⟨t, ht, htk⟩ := Option.map_eq_some_iff.1 hk
  obtain ⟨default, hd⟩ := Context.resets_of_typeOf hs ht (by rw [htk]; rfl)
  have hrows : ∀ {u : Value}, 0 < rowCount u (place.pathOf ctx n) →
      (u.get? (place.pathOf ctx n) == some (default n)) = false := fun {u} hu => by
    rw [hd.of_repeater htk, Bool.eq_false_iff]
    intro heq
    rw [rowCount_of_nil (get?_eq_nil_of_beq heq)] at hu
    exact Nat.lt_irrefl 0 hu
  rw [Place.due_of_resets ht hd, Place.due_of_resets ht hd, hstate, hrows hw, hrows hv]

/-- Two plans are the same but for one row of the list at a path. -/
structure SamePlan (path : String) (index : Nat) (p q : Plan Instance) : Prop where
  result : p.result.withoutRow path index = q.result.withoutRow path index
  writes : p.writes.filter (fun e => Path.outsideRow path index e.1) =
    q.writes.filter fun e => Path.outsideRow path index e.1

namespace SamePlan

theorem of_eq {p q : Plan Instance} (h : p = q) : SamePlan path index p q := h ▸ ⟨rfl, rfl⟩

/-- Plans of some nodes at one place. -/
theorem all (h : ∀ n ∈ nodes, SamePlan path index (planOf ctx w n place inherited)
      (planOf ctx v n place inherited)) :
    (place.planAll ctx w nodes inherited).result.map (Instance.withoutRow path index) =
        (place.planAll ctx v nodes inherited).result.map (Instance.withoutRow path index) ∧
      (place.planAll ctx w nodes inherited).writes.filter
          (fun e => Path.outsideRow path index e.1) =
        (place.planAll ctx v nodes inherited).writes.filter fun e =>
          Path.outsideRow path index e.1 := by
  simp only [Place.planAll, Plan.all, List.map_map, List.flatMap_map, List.filter_flatMap]
  exact ⟨List.map_congr_left fun n hn => (h n hn).result,
    List.flatMap_congr fun n hn => (h n hn).writes⟩

/-- Plans of rows that are the same but for one row, the writes of which do not count. -/
theorem rows_beside {p q : Nat → Plan (List Instance)} {counts : String × Value → Bool}
    (count : Nat) (h : ∀ i ≠ index, p i = q i) (hp : (p index).writes.filter counts = [])
    (hq : (q index).writes.filter counts = []) :
    (Plan.all ((List.range count).map p)).result.set index [] =
        (Plan.all ((List.range count).map q)).result.set index [] ∧
      (Plan.all ((List.range count).map p)).writes.filter counts =
        (Plan.all ((List.range count).map q)).writes.filter counts := by
  simp only [Plan.all, List.map_map, List.flatMap_map, List.filter_flatMap]
  constructor
  · refine List.ext_getElem? fun i => ?_
    simp only [List.getElem?_set, List.length_map, List.getElem?_map]
    split
    · rfl
    · next hi =>
      rcases Nat.lt_or_ge i count with hlt | hge
      · simp only [List.getElem?_range hlt, Option.map_some, Function.comp_apply, h i (Ne.symm hi)]
      · rw [List.getElem?_eq_none (by simpa using hge), Option.map_none, Option.map_none]
  · refine List.flatMap_congr fun i _ => ?_
    by_cases hi : i = index
    · rw [hi, hp, hq]
    · rw [h i hi]

/-- The list itself is treated alike, and so is each of its other rows. -/
theorem of_repeater (hs : ctx.registry = Registry.standard)
    (hd : ctx.conditions = Conditions.declarative) (hk : ctx.kindOf n = some .repeater)
    (ho : ctx.owns n = true) (hpath : place.pathOf ctx n = path) (h : SameBesideRow path index v w)
    (hr : ReadAlike [n] v w) : SamePlan path index (planOf ctx w n place inherited)
      (planOf ctx v n place inherited) := by
  subst hpath
  have hstate : place.stateOf ctx w n inherited = place.stateOf ctx v n inherited :=
    stateOf_of_reads hd hr
  have hdue : place.due ctx w n inherited = place.due ctx v n inherited :=
    due_of_rows hs hk hstate (h.rows ▸ Nat.zero_lt_of_lt h.within) (Nat.zero_lt_of_lt h.within)
  have hleft : place.rowsLeft ctx w n inherited = place.rowsLeft ctx v n inherited := by
    simp only [Place.rowsLeft, hdue, h.rows]
  have hrow : ∀ i ≠ index, place.planRow ctx w n inherited i =
      place.planRow ctx v n inherited i := fun i hi => by
    refine planRow_congr hd hstate (fun q hq => h.apart q ?_) hr
    rw [Path.segments_row] at hq ⊢
    refine Apart.of_isPrefix ?_ List.prefix_rfl hq
    exact (Path.apart_append_iff _ _ _).2 (Path.apart_rows hi.symm)
  have hinside : ∀ u, ((place.planRow ctx u n inherited index).writes.filter fun e =>
      Path.outsideRow (place.pathOf ctx n) index e.1) = [] := fun u => by
    rw [List.filter_eq_nil_iff]
    intro e he
    obtain ⟨o, -, hb⟩ := beneath_of_planRow he
    rw [Path.outsideRow_eq_true_iff, not_not]
    exact (List.prefix_append _ _).trans hb
  obtain ⟨hresult, hwrites⟩ := rows_beside (place.rowsLeft ctx v n inherited) hrow
    (hinside w) (hinside v)
  have hkind : (ctx.kindOf n).map Kind.ownsPath = some true := by rw [hk]; rfl
  have hinstance : place.instanceOf ctx w n inherited = place.instanceOf ctx v n inherited := by
    rw [Place.instanceOf, Place.instanceOf, hstate]
  rw [planOf_of_ownsPath hkind, planOf_of_ownsPath hkind, hinstance, hdue, Place.planRows,
    Place.planRows, hleft]
  constructor
  · rw [withoutRow_of_owns ho, withoutRow_of_owns ho, hresult]
  · rw [List.filter_append, List.filter_append, hwrites]

/-- A node that owns nothing in the list is not concerned. -/
theorem of_apart (hd : ctx.conditions = Conditions.declarative)
    (h : SameBesideRow r.ownKey index v w) (hr : ReadAlike [n] v w) (hbase : place.base = "")
    (hapart : ∀ o ∈ ctx.owners n, Apart r.segments o.segments) :
    SamePlan r.ownKey index (planOf ctx w n place inherited) (planOf ctx v n place inherited) := by
  refine .of_eq (planOf_congr hd n (fun q hq => h.apart q ?_) hr)
  obtain ⟨o, ho, hoq⟩ := hq
  rw [Context.scope_singleton] at ho
  rw [hbase, Path.segments_empty, List.nil_append] at hoq
  rw [Path.segments_row]
  exact (hapart o ho).of_isPrefix (List.prefix_append _ _) hoq

/-- Whatever stands in the scope of the list is treated alike. -/
theorem of_scope (hs : ctx.registry = Registry.standard)
    (hd : ctx.conditions = Conditions.declarative) (hk : ctx.kindOf r = some .repeater)
    (h : SameBesideRow r.ownKey index v w) (n : Node) :
    (∀ o ∈ ctx.owners n, o = r ∨ Apart r.segments o.segments) → ReadAlike [n] v w →
    ∀ {place : Place} {inherited : HideState}, place.base = "" →
      SamePlan r.ownKey index (planOf ctx w n place inherited)
        (planOf ctx v n place inherited) := by
  induction n using Node.induction with
  | step n ih =>
    intro hn hr place inherited hbase
    by_cases hkind : (ctx.kindOf n).map Kind.ownsPath = some true
    · cases ho : ctx.owns n with
      | false =>
        obtain ⟨k, hk', hp⟩ := Option.map_eq_some_iff.1 hkind
        refine .of_apart hd h hr hbase fun o hm => ?_
        rw [Context.owners_of_keyless hk' hp ho] at hm
        cases hm
      | true =>
        rw [Context.owners_of_owns ho] at hn
        rcases hn n List.mem_cons_self with rfl | hapart
        · obtain ⟨key, hkey, -, hpath⟩ := place.exists_key ho
          rw [hbase, Path.join, if_pos rfl, ← Node.ownKey_eq hkey] at hpath
          exact .of_repeater hs hd hk ho hpath h hr
        · refine .of_apart hd h hr hbase fun o hm => ?_
          rw [Context.owners_of_owns ho] at hm
          exact List.mem_singleton.1 hm ▸ hapart
    · have ho := owns_of_container hkind
      have hstate : place.stateOf ctx w n inherited = place.stateOf ctx v n inherited :=
        stateOf_of_reads hd hr
      rw [Context.owners_of_container hkind] at hn
      have hinside : (place.inside (place.pathOf ctx n)).base = "" := by
        rw [place.base_inside ho, hbase]
      have hchild : ∀ c ∈ n.children, SamePlan r.ownKey index
          (planOf ctx w c (place.inside (place.pathOf ctx n)) (place.stateOf ctx v n inherited))
          (planOf ctx v c (place.inside (place.pathOf ctx n)) (place.stateOf ctx v n inherited)) :=
        fun c hc =>
          ih c hc (fun o hm => hn o (Context.mem_scope_of_mem hc hm)) (hr.child hc) hinside
      obtain ⟨hresult, hwrites⟩ := SamePlan.all hchild
      have hinstance : place.instanceOf ctx w n inherited = place.instanceOf ctx v n inherited := by
        rw [Place.instanceOf, Place.instanceOf, hstate]
      rw [planOf_of_container hkind, planOf_of_container hkind,
        Place.planContents_of_container hkind, Place.planContents_of_container hkind, hstate,
        hinstance]
      refine ⟨?_, hwrites⟩
      rw [withoutRow_of_not_owns ho, withoutRow_of_not_owns ho, hresult]

end SamePlan

end Plans

end Visibility

end FormLogic
