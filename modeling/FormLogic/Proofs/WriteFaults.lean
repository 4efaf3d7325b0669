import FormLogic.Proofs.Addressing
import Mathlib.Data.List.Basic

/-!
# What stops a write

A write follows its segments through fields and rows that are there. It is stopped by a scalar
with segments left below it, and by a list that has no row of the name; only its last segment
may be the number one past the end. A missing field or a null is no obstacle, and neither is
anything that the write creates on its way. So a write that is stopped has changed nothing,
and what stops it depends on the value that it goes into and not on what is written.
-/
namespace FormLogic

open FormLogic.Path (Apart index? segments)

/-- A place whose last segment is no row number. -/
def Path.EndsInName (p : List String) : Prop := ∃ s, p.getLast? = some s ∧ index? s = none

theorem Path.EndsInName.of_cons {s : String} {rest : List String} (h : EndsInName (s :: rest))
    (hr : rest ≠ []) : EndsInName rest := by
  obtain ⟨last, hlast, hn⟩ := h
  refine ⟨last, ?_, hn⟩
  rwa [List.getLast?_cons_of_ne_nil hr] at hlast

theorem Path.EndsInName.of_forall {p : List String} (hp : p ≠ [])
    (hn : ∀ s ∈ p, index? s = none) : EndsInName p :=
  ⟨p.getLast hp, List.getLast?_eq_some_getLast hp, hn _ (List.getLast_mem hp)⟩

theorem Path.EndsInName.append {q : List String} (h : EndsInName q) (p : List String) :
    EndsInName (p ++ q) := by
  obtain ⟨last, hlast, hn⟩ := h
  have hq : q ≠ [] := fun he => by rw [he] at hlast; cases hlast
  exact ⟨last, (List.getLast?_append_of_ne_nil p hq).trans hlast, hn⟩

theorem Path.EndsInName.index?_eq {s : String} (h : EndsInName [s]) : index? s = none := by
  obtain ⟨last, hlast, hn⟩ := h
  obtain rfl : s = last := by simpa using hlast
  exact hn

namespace Value

open FormLogic.Path (EndsInName)

section Way

variable {x y v w : Value} {p q : List String}

/-- What a write meets below a field is what the field holds. -/
theorem fault_write_field {s : String} {rest : List String} {fields : Fields}
    (hv : v.orEmpty = .obj fields) :
    (write x (s :: rest) v).2 = (write x rest ((fields.lookup s).getD empty)).2 := by
  rw [write, hv]

/-- What a write meets in a list is that its row is not there, or what the row holds. -/
theorem fault_write_row (x : Value) (s : String) (rest : List String) (items : List Value) :
    (write x (s :: rest) (.arr items)).2 = match index? s with
      | none => some (.notAnIndex s)
      | some i =>
        match items[i]? with
        | some item => (write x rest item).2
        | none =>
          if rest.isEmpty then
            if i = items.length then none else some (.pastTheEnd i items.length)
          else some (.noSuchRow i items.length) := by
  simp only [write, orEmpty]
  cases index? s with
  | none => rfl
  | some i =>
    dsimp only
    cases items[i]? with
    | some item => rfl
    | none =>
      dsimp only
      split
      · split <;> rfl
      · rfl

/-- What stops a write does not depend on what is written. -/
theorem fault_write_congr (x y : Value) (p : List String) :
    ∀ v : Value, (write x p v).2 = (write y p v).2 := by
  induction p with
  | nil => exact fun _ => rfl
  | cons s rest ih =>
    intro v
    cases v with
    | obj fields | null =>
      rw [fault_write_field rfl, fault_write_field rfl]
      exact ih _
    | arr items =>
      rw [fault_write_row, fault_write_row]
      simp only [ih]
    | bool | num | str => rfl

/-- Nothing stops a write where nothing is. -/
theorem fault_write_empty (x : Value) (p : List String) : (write x p empty).2 = none := by
  induction p with
  | nil => rfl
  | cons s rest ih =>
    rw [fault_write_field rfl]
    exact ih

/-- A write that goes through meets nothing else that stops writes apart from it. -/
theorem fault_write_of_apart (hpq : Apart p q) (hp : EndsInName p)
    (h : write x p v = (w, none)) : (write y q w).2 = (write y q v).2 := by
  induction p generalizing q v w with
  | nil => exact hpq.elim
  | cons s rest ih =>
    cases q with
    | nil => exact hpq.elim
    | cons t more =>
      have hr : s = t → rest ≠ [] := fun hst hn => by
        rw [hst, hn, Apart, if_pos rfl] at hpq
        exact hpq.elim
      cases entered_of_write h with
      | appended hi he =>
        rw [(he ▸ hp : EndsInName [s]).index?_eq] at hi
        cases hi
      | @field _ below fields hv hw =>
        rw [fault_write_field hv, fault_write_field rfl, Fields.lookup_put]
        by_cases hst : t = s
        · subst hst
          simp only [Apart, if_true] at hpq
          rw [if_pos rfl]
          exact ih hpq (hp.of_cons (hr rfl)) hw
        · rw [if_neg hst]
      | @item items i item below hi hitem hw =>
        have hlt := (List.getElem?_eq_some_iff.1 hitem).1
        by_cases hst : s = t
        · subst hst
          simp only [Apart, if_true] at hpq
          simp only [fault_write_row, hi, hitem, List.getElem?_set_self hlt]
          exact ih hpq (hp.of_cons (hr rfl)) hw
        · -- The number of rows stays, and so does every other row.
          simp only [Apart, hst, if_false] at hpq
          have hother : ∀ j, index? t = some j → (items.set i below)[j]? = items[j]? := by
            intro j hj
            have hij : i ≠ j := fun hij => hpq i hi (hij ▸ hj)
            exact List.getElem?_set_ne hij
          rw [fault_write_row, fault_write_row, List.length_set]
          cases hj : index? t with
          | none => rfl
          | some j => simp only [hother j hj]

end Way

/-- A truth value, a number or a text. -/
def IsScalar : Value → Prop
  | .bool _ | .num _ | .str _ => True
  | .null | .arr _ | .obj _ => False

/-- A value stops a write that has some segments left below it: the next one is no row number of a
list, there is no such row, or the value is a scalar. A row may be added at the end of a list. -/
inductive Stops : Value → List String → PathFault → Prop
  | notAnIndex {items : List Value} {s : String} {rest : List String} (hi : index? s = none) :
      Stops (.arr items) (s :: rest) (.notAnIndex s)
  | noSuchRow {items : List Value} {s : String} {rest : List String} {i : Nat}
      (hi : index? s = some i) (hr : rest ≠ []) (hl : items.length ≤ i) :
      Stops (.arr items) (s :: rest) (.noSuchRow i items.length)
  | pastTheEnd {items : List Value} {s : String} {i : Nat} (hi : index? s = some i)
      (hl : items.length < i) : Stops (.arr items) [s] (.pastTheEnd i items.length)
  | throughScalar {v : Value} {s : String} {rest : List String} (hv : v.IsScalar)
      (hr : rest ≠ []) : Stops v (s :: rest) (.throughScalar s v)
  | belowScalar {v : Value} {s : String} (hv : v.IsScalar) : Stops v [s] (.belowScalar v)

section Stopped

variable {x v w below : Value} {s : String} {rest p : List String} {fault : PathFault}

theorem not_stops_fields {fields : Fields} (hv : v.orEmpty = .obj fields) {left : List String} :
    ¬ Stops v left fault := by
  intro h
  cases h with
  | notAnIndex | noSuchRow | pastTheEnd => cases hv
  | throughScalar hs | belowScalar hs =>
    cases v with
    | null | obj => exact hs
    | bool | num | str | arr => cases hv

theorem stops_list_iff {items : List Value} : Stops (.arr items) (s :: rest) fault ↔
    index? s = none ∧ fault = .notAnIndex s ∨
    ∃ i, index? s = some i ∧
      (rest ≠ [] ∧ items.length ≤ i ∧ fault = .noSuchRow i items.length ∨
        rest = [] ∧ items.length < i ∧ fault = .pastTheEnd i items.length) := by
  constructor
  · intro h
    cases h with
    | notAnIndex hi => exact Or.inl ⟨hi, rfl⟩
    | noSuchRow hi hr hl => exact Or.inr ⟨_, hi, Or.inl ⟨hr, hl, rfl⟩⟩
    | pastTheEnd hi hl => exact Or.inr ⟨_, hi, Or.inr ⟨rfl, hl, rfl⟩⟩
    | throughScalar hv | belowScalar hv => exact hv.elim
  · rintro (⟨hi, rfl⟩ | ⟨i, hi, ⟨hr, hl, rfl⟩ | ⟨rfl, hl, rfl⟩⟩)
    · exact .notAnIndex hi
    · exact .noSuchRow hi hr hl
    · exact .pastTheEnd hi hl

theorem stops_scalar_iff (hv : v.IsScalar) : Stops v (s :: rest) fault ↔
    fault = if rest.isEmpty then .belowScalar v else .throughScalar s v := by
  constructor
  · intro h
    cases h with
    | notAnIndex | noSuchRow | pastTheEnd => exact hv.elim
    | throughScalar _ hr => rw [if_neg (by simpa using hr)]
    | belowScalar => rfl
  · rintro rfl
    split
    · next hr => exact List.isEmpty_iff.1 hr ▸ .belowScalar hv
    · next hr => exact .throughScalar hv (by simpa using hr)

/-- A write goes on through what is there. -/
theorem fault_write_of_child (hc : v.child? s = some below) :
    (write x (s :: rest) v).2 = (write x rest below).2 := by
  cases v with
  | obj fields =>
    rw [child?] at hc
    rw [fault_write_field rfl, hc, Option.getD_some]
  | arr items =>
    obtain ⟨i, hi, hitem⟩ := Option.bind_eq_some_iff.1 hc
    simp only [fault_write_row, hi, hitem]
  | null | bool | num | str => cases hc

/-- What is there can be replaced. -/
theorem fault_write_of_follow (h : v.follow p = some w) : (write x p v).2 = none := by
  induction p generalizing v with
  | nil => rfl
  | cons s rest ih =>
    obtain ⟨below, hc, hbelow⟩ := Option.bind_eq_some_iff.1 h
    rw [fault_write_of_child hc]
    exact ih hbelow

/-- What is there lets a write through to what is below it. -/
theorem not_stops_of_child (hc : v.child? s = some below) : ¬ Stops v (s :: rest) fault := by
  cases v with
  | obj fields => exact not_stops_fields rfl
  | arr items =>
    obtain ⟨i, hi, hitem⟩ := Option.bind_eq_some_iff.1 hc
    have hlt := (List.getElem?_eq_some_iff.1 hitem).1
    rw [stops_list_iff, hi]
    rintro (⟨hn, -⟩ | ⟨j, hj, ⟨-, hl, -⟩ | ⟨-, hl, -⟩⟩)
    · cases hn
    · obtain rfl := Option.some.inj hj
      exact absurd hl (Nat.not_le_of_lt hlt)
    · obtain rfl := Option.some.inj hj
      exact absurd hlt (Nat.lt_asymm hl)
  | null | bool | num | str => cases hc

/-- Where nothing is, a write is stopped at once or creates what is missing. -/
theorem fault_write_of_no_child (hc : v.child? s = none) :
    (write x (s :: rest) v).2 = some fault ↔ Stops v (s :: rest) fault := by
  cases v with
  | obj fields =>
    rw [child?] at hc
    rw [fault_write_field rfl, hc, Option.getD_none, fault_write_empty]
    exact iff_of_false (Option.some_ne_none fault).symm (not_stops_fields rfl)
  | null =>
    rw [fault_write_field rfl, List.lookup_nil, Option.getD_none, fault_write_empty]
    exact iff_of_false (Option.some_ne_none fault).symm (not_stops_fields rfl)
  | arr items =>
    rw [fault_write_row, stops_list_iff]
    cases hi : index? s with
    | none => simp [eq_comm]
    | some i =>
      have hnone : items[i]? = none := by simpa [child?, hi] using hc
      have hle := List.getElem?_eq_none_iff.1 hnone
      have hne : items.length < i ↔ i ≠ items.length := by omega
      cases rest with
      | nil => by_cases hl : i = items.length <;> simp [hnone, hne, hl, eq_comm]
      | cons t more => simp [hle, eq_comm]
  | bool | num | str =>
    refine Iff.trans ?_ (stops_scalar_iff ?_).symm
    · exact ⟨fun h => (Option.some.inj h).symm, fun h => congrArg some h.symm⟩
    · trivial

/-- A write is stopped exactly by what it comes to on its way through what is there. -/
theorem fault_write_iff : (write x p v).2 = some fault ↔
    ∃ passed left w, p = passed ++ left ∧ v.follow passed = some w ∧ Stops w left fault := by
  induction p generalizing v with
  | nil =>
    refine iff_of_false nofun ?_
    rintro ⟨passed, left, w, hp, -, hstops⟩
    rw [(List.append_eq_nil_iff.1 hp.symm).2] at hstops
    cases hstops
  | cons s rest ih =>
    -- The write is stopped here if no segment is passed, and else below the first one.
    have hsplit : (∃ passed left w, s :: rest = passed ++ left ∧ v.follow passed = some w ∧
        Stops w left fault) ↔ Stops v (s :: rest) fault ∨ ∃ below, v.child? s = some below ∧
          ∃ passed left w, rest = passed ++ left ∧ below.follow passed = some w ∧
            Stops w left fault := by
      constructor
      · rintro ⟨passed, left, w, hp, hw, hstops⟩
        cases passed with
        | nil =>
          obtain rfl := Option.some.inj hw
          exact Or.inl (hp ▸ hstops)
        | cons t passed =>
          obtain ⟨rfl, rfl⟩ := List.cons.inj hp
          obtain ⟨below, hc, hw⟩ := Option.bind_eq_some_iff.1 hw
          exact Or.inr ⟨below, hc, passed, left, w, rfl, hw, hstops⟩
      · rintro (hstops | ⟨below, hc, passed, left, w, rfl, hw, hstops⟩)
        · exact ⟨[], s :: rest, v, rfl, rfl, hstops⟩
        · exact ⟨s :: passed, left, w, rfl, by rw [follow, hc, Option.bind_some, hw], hstops⟩
    rw [hsplit]
    cases hc : v.child? s with
    | none => simp [fault_write_of_no_child hc]
    | some below => simp [fault_write_of_child hc, not_stops_of_child hc, ih]

/-- Where a write is stopped at once nothing is changed. -/
theorem write_of_stops (h : Stops v (s :: rest) fault) : (write x (s :: rest) v).1 = v := by
  cases h with
  | notAnIndex hi => simp only [write, orEmpty, hi]
  | noSuchRow hi hr hl =>
    have hrest : rest.isEmpty = false := by simpa using hr
    simp [write, orEmpty, hi, List.getElem?_eq_none hl, hrest]
  | pastTheEnd hi hl =>
    simp [write, orEmpty, hi, List.getElem?_eq_none (Nat.le_of_lt hl), Nat.ne_of_gt hl]
  | throughScalar hv | belowScalar hv =>
    cases v with
    | bool | num | str => rfl
    | null | arr | obj => exact hv.elim

/-- A write that leaves what is there as it was leaves all as it was. -/
theorem write_of_child (hc : v.child? s = some below) (hb : (write x rest below).1 = below) :
    (write x (s :: rest) v).1 = v := by
  cases v with
  | obj fields =>
    rw [child?] at hc
    simp only [write, orEmpty, hc, Option.getD_some, hb, Fields.put_of_lookup hc]
  | arr items =>
    obtain ⟨i, hi, hitem⟩ := Option.bind_eq_some_iff.1 hc
    obtain ⟨hlt, hget⟩ := List.getElem?_eq_some_iff.1 hitem
    have hset : items.set i below = items := hget ▸ List.set_getElem_self hlt
    simp only [write, orEmpty, hi, hitem, hb, hset]
  | null | bool | num | str => cases hc

/-- A write that is stopped leaves the value as it was. -/
theorem write_of_fault (h : (write x p v).2 = some fault) : (write x p v).1 = v := by
  induction p generalizing v with
  | nil => cases h
  | cons s rest ih =>
    cases hc : v.child? s with
    | none => exact write_of_stops ((fault_write_of_no_child hc).1 h)
    | some below =>
      rw [fault_write_of_child hc] at h
      exact write_of_child hc (ih h)

end Stopped

/-- A write fails exactly when it comes to something that stops it on its way through what is there,
and says what that is; and then all is left as it was. -/
theorem set_fails_iff_stopped (v : Value) (path : String) (new : Value) :
    (∀ fault, (v.set path new).2 = some fault ↔ ∃ passed left w,
      segments path = passed ++ left ∧ v.follow passed = some w ∧ Stops w left fault) ∧
    ((v.set path new).2 ≠ none → (v.set path new).1 = v) := by
  refine ⟨fun fault => fault_write_iff, fun h => ?_⟩
  obtain ⟨fault, hfault⟩ := Option.ne_none_iff_exists'.1 h
  exact write_of_fault hfault

namespace Cages

def stored : Value :=
  .obj [("cages", .arr [.obj [("label", .null), ("pets", .str "none")]])]

def path : String := "cages..+00.pets.0.name"

end Cages

open Cages in
/-- The row is found under an odd numeral, and the text in it is in the way of a pet. -/
theorem set_fails_iff_stopped_cages :
    (stored.set path (.str "Rex")).2 = some (.throughScalar "0" (.str "none")) ∧
      (stored.set path (.str "Rex")).1 = stored := by
  obtain ⟨hstopped, hkept⟩ := set_fails_iff_stopped stored path (.str "Rex")
  have hfault : (stored.set path (.str "Rex")).2 = some (.throughScalar "0" (.str "none")) :=
    (hstopped _).2 ⟨["cages", "+00", "pets"], ["0", "name"], .str "none", by decide, by rfl,
      .throughScalar trivial (List.cons_ne_nil _ _)⟩
  exact ⟨hfault, hkept (by rw [hfault]; nofun)⟩

end Value
end FormLogic
