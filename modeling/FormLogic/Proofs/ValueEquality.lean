import FormLogic.Proofs.FiniteValues

/-!
# Equal values

Equality of values is symmetric, and equal values read equal at every path. It tells all
values apart but the two floating zeros: where no zero has a sign, equal values are one.
-/
namespace FormLogic

theorem Binary64.numEq_symm {x y : Binary64} (h : x.numEq y = true) : y.numEq x = true := by
  simp only [numEq, Bool.and_eq_true, beq_iff_eq] at h ⊢
  exact ⟨⟨h.1.2, h.1.1⟩, h.2.symm⟩

theorem Number.numEq_symm {m n : Number} (h : m.numEq n = true) : n.numEq m = true := by
  cases m <;> cases n <;> simp_all only [numEq, beq_iff_eq, Bool.false_eq_true]
  exact Binary64.numEq_symm h

namespace Value

mutual
theorem same_symm : ∀ {v w : Value}, v.same w = true → w.same v = true
  | .null, w, h => by cases w <;> simp_all [same]
  | .bool _, w, h => by cases w <;> simp_all [same]
  | .num _, w, h => by
    cases w <;> simp_all only [same, Bool.false_eq_true]
    exact Number.numEq_symm h
  | .str _, w, h => by cases w <;> simp_all [same]
  | .arr items, w, h => by
    cases w <;> simp_all only [same, Bool.false_eq_true]
    exact sameItems_symm h
  | .obj fields, w, h => by
    cases w <;> simp_all only [same, Bool.false_eq_true]
    exact sameFields_symm h
theorem sameItems_symm : ∀ {xs ys : List Value}, sameItems xs ys = true → sameItems ys xs = true
  | [], ys, h => by cases ys <;> simp_all [sameItems]
  | x :: xs, ys, h => by
    cases ys with
    | nil => cases h
    | cons y ys =>
      simp only [sameItems, Bool.and_eq_true] at h ⊢
      exact ⟨same_symm h.1, sameItems_symm h.2⟩
theorem sameFields_symm : ∀ {xs ys : List (String × Value)}, sameFields xs ys = true →
    sameFields ys xs = true
  | [], ys, h => by cases ys <;> simp_all [sameFields]
  | (k, x) :: xs, ys, h => by
    cases ys with
    | nil => cases h
    | cons e ys =>
      obtain ⟨l, y⟩ := e
      simp only [sameFields, Bool.and_eq_true, beq_iff_eq] at h ⊢
      exact ⟨⟨h.1.1.symm, same_symm h.1.2⟩, sameFields_symm h.2⟩
end

theorem beq_symm {v w : Value} (h : (v == w) = true) : (w == v) = true := same_symm h

theorem beq_lookup {xs ys : Fields} (h : sameFields xs ys = true) (key : String) :
    (xs.lookup key == ys.lookup key) = true := by
  induction xs generalizing ys with
  | nil => cases ys <;> first | rfl | cases h
  | cons e xs ih =>
    cases ys with
    | nil => cases h
    | cons e' ys =>
      obtain ⟨k, x⟩ := e
      obtain ⟨l, y⟩ := e'
      simp only [sameFields, Bool.and_eq_true, beq_iff_eq] at h
      obtain ⟨⟨rfl, hxy⟩, hrest⟩ := h
      rw [Fields.lookup_entry, Fields.lookup_entry]
      split
      · exact hxy
      · exact ih hrest

theorem beq_getElem? {xs ys : List Value} (h : sameItems xs ys = true) (i : Nat) :
    (xs[i]? == ys[i]?) = true := by
  induction xs generalizing ys i with
  | nil => cases ys <;> first | rfl | cases h
  | cons x xs ih =>
    cases ys with
    | nil => cases h
    | cons y ys =>
      simp only [sameItems, Bool.and_eq_true] at h
      cases i with
      | zero => exact h.1
      | succ i => exact ih h.2 i

theorem beq_child? {v w : Value} (h : (v == w) = true) (segment : String) :
    (v.child? segment == w.child? segment) = true := by
  change v.same w = true at h
  cases v <;> cases w <;> simp only [same, Bool.false_eq_true] at h <;> try rfl
  · next xs ys =>
    simp only [child?]
    cases Path.index? segment with
    | none => rfl
    | some i => exact beq_getElem? h i
  · exact beq_lookup h segment

/-- Equal values read equal. -/
theorem beq_follow {v w : Value} (h : (v == w) = true) (path : List String) :
    (v.follow path == w.follow path) = true := by
  induction path generalizing v w with
  | nil => exact h
  | cons s rest ih =>
    have hc := beq_child? h s
    simp only [follow]
    cases hv : v.child? s <;> cases hw : w.child? s <;> rw [hv, hw] at hc
    · rfl
    · cases hc
    · cases hc
    · exact ih hc

theorem beq_get? {v w : Value} (h : (v == w) = true) (path : String) :
    (v.get? path == w.get? path) = true :=
  beq_follow h (Path.segments path)

/-- A binary64 number is not the negative zero; other values pass. -/
def unsignedZero : Value → Bool
  | .num (.float x) => !(x.negative && x.isZero)
  | _ => true

theorem testsNumbers_unsignedZero : TestsNumbers unsignedZero := by
  intro v hv
  cases v with
  | num x => exact absurd rfl (hv x)
  | null | bool _ | str _ | arr _ | obj _ => rfl

/-- No number in a value is the negative zero. -/
def zerosUnsigned (v : Value) : Bool := v.everywhere unsignedZero

theorem eq_of_numEq {x y : Binary64} (h : x.numEq y = true)
    (hx : unsignedZero (.num (.float x)) = true) (hy : unsignedZero (.num (.float y)) = true) :
    x = y := by
  obtain ⟨nx, mx⟩ := x
  obtain ⟨ny, my⟩ := y
  simp only [Binary64.numEq, Bool.and_eq_true, beq_iff_eq] at h
  have hrank := h.2
  simp only [unsignedZero, Binary64.isZero, Bool.not_eq_true', Bool.and_eq_false_iff,
    beq_eq_false_iff_ne] at hx hy
  -- Equal ranks of one sign have equal magnitudes, and of two signs none.
  have heq : nx = ny ∧ mx = my := by
    cases nx <;> cases ny <;>
      simp only [Binary64.rank, Bool.false_eq_true, if_false, if_true] at hrank <;>
      simp at hx hy ⊢ <;> omega
  rw [heq.1, heq.2]

mutual
theorem eq_of_same : ∀ {v w : Value}, v.same w = true → v.zerosUnsigned = true →
    w.zerosUnsigned = true → v = w
  | .null, w, h, _, _ => by cases w <;> simp_all [same]
  | .bool _, w, h, _, _ => by cases w <;> simp_all [same]
  | .str _, w, h, _, _ => by cases w <;> simp_all [same]
  | .num m, w, h, hv, hw => by
    cases w <;> simp only [same, Bool.false_eq_true] at h
    next n =>
    cases m <;> cases n <;> simp only [Number.numEq, beq_iff_eq, Bool.false_eq_true] at h
    · rw [h]
    · rw [eq_of_numEq h hv hw]
  | .arr items, w, h, hv, hw => by
    cases w <;> simp only [same, Bool.false_eq_true] at h
    next others =>
    rw [eq_of_sameItems h (everywhere_arr.1 hv).2 (everywhere_arr.1 hw).2]
  | .obj fields, w, h, hv, hw => by
    cases w <;> simp only [same, Bool.false_eq_true] at h
    next others =>
    rw [eq_of_sameFields h (everywhere_obj.1 hv).2 (everywhere_obj.1 hw).2]
theorem eq_of_sameItems : ∀ {xs ys : List Value}, sameItems xs ys = true →
    (∀ v ∈ xs, v.zerosUnsigned = true) → (∀ v ∈ ys, v.zerosUnsigned = true) → xs = ys
  | [], ys, h, _, _ => by cases ys <;> simp_all [sameItems]
  | x :: xs, ys, h, hx, hy => by
    cases ys with
    | nil => cases h
    | cons y ys =>
      simp only [sameItems, Bool.and_eq_true] at h
      rw [eq_of_same h.1 (hx x List.mem_cons_self) (hy y List.mem_cons_self),
        eq_of_sameItems h.2 (fun v hv => hx v (List.mem_cons_of_mem x hv))
          fun v hv => hy v (List.mem_cons_of_mem y hv)]
theorem eq_of_sameFields : ∀ {xs ys : List (String × Value)}, sameFields xs ys = true →
    everyField unsignedZero xs = true → everyField unsignedZero ys = true → xs = ys
  | [], ys, h, _, _ => by cases ys <;> simp_all [sameFields]
  | (k, x) :: xs, ys, h, hx, hy => by
    cases ys with
    | nil => cases h
    | cons e ys =>
      obtain ⟨l, y⟩ := e
      simp only [sameFields, Bool.and_eq_true, beq_iff_eq] at h
      simp only [everyField, Bool.and_eq_true] at hx hy
      rw [h.1.1, eq_of_same h.1.2 hx.1 hy.1, eq_of_sameFields h.2 hx.2 hy.2]
end

/-- Equal values without a negative zero are one value. -/
theorem eq_of_beq_of_zerosUnsigned {v w : Value} (h : (v == w) = true)
    (hv : v.zerosUnsigned = true) (hw : w.zerosUnsigned = true) : v = w :=
  eq_of_same h hv hw

end Value
end FormLogic
