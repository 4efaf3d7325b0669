import FormLogic.Proofs.IndependentWrites

/-!
# Writes that are blocked

What is in the way of a path does not depend on what is written there. Nothing is in the way
of a place that is there, and a write that goes through elsewhere neither puts something in
the way nor clears it. So independent writes stop just when one of them would on the value as
it was.
-/
namespace FormLogic.Value

open FormLogic.Path (Apart segments)

/-- What is in the way of a write to a path, whatever is written. -/
def fault? (v : Value) (path : String) : Option PathFault := (v.set path .null).2

section Fault

variable {v w new : Value} {path : String} {e : FormError} {ws : List (String × Value)}

theorem fault_set (v : Value) (path : String) (new : Value) :
    (v.set path new).2 = v.fault? path := fault_write_congr new .null (segments path) v

/-- Nothing is in the way of what is there. -/
theorem fault?_of_get? (h : (v.get? path).isSome = true) : v.fault? path = none := by
  obtain ⟨z, hz⟩ := Option.isSome_iff_exists.1 h
  exact fault_write_of_follow hz

/-- A write goes through when nothing is in the way, and else it names its path and what is. -/
theorem setOrError_eq (v : Value) (path : String) (new : Value) :
    v.setOrError path new = match v.fault? path with
      | none => .ok (v.set path new).1
      | some fault => .error (.invalidPath path fault) := by
  rw [← fault_set v path new, setOrError]
  obtain ⟨w, fault⟩ := v.set path new
  cases fault <;> rfl

theorem setOrError_eq_error_iff : v.setOrError path new = .error e ↔
    ∃ fault, v.fault? path = some fault ∧ e = .invalidPath path fault := by
  rw [setOrError_eq]
  cases v.fault? path with
  | none => simp
  | some fault => simp [eq_comm]

theorem fault?_of_write (h : write new (segments path) v = (w, none)) : v.fault? path = none := by
  rw [← fault_set v path new, set, h]

/-- What is in the way of a path stays as it is when a place apart from it is written. -/
theorem fault?_of_apart {p : List String} (hp : Path.EndsInName p)
    (hpq : Apart p (segments path)) (h : write new p v = (w, none)) :
    w.fault? path = v.fault? path := fault_write_of_apart hpq hp h

/-- Independent writes that go through meet nothing in the value as it was. -/
theorem fault?_of_writeAll (hi : Independent ws) (h : writeAll ws v = .ok w) {e : String × Value}
    (he : e ∈ ws) : v.fault? e.1 = none := by
  induction ws generalizing v with
  | nil => cases he
  | cons first rest ih =>
    obtain ⟨m, hm, hrest⟩ := writeAll_cons_eq_ok.1 h
    rcases List.mem_cons.1 he with rfl | he
    · exact fault?_of_write hm
    · have hapart := (List.pairwise_cons.1 hi.apart).1 e he
      have hm' := ih hi.of_cons hrest he
      rwa [fault?_of_apart (hi.named first List.mem_cons_self) hapart hm] at hm'

/-- Independent writes that fail do so at what is in the way of one in the value as it was. -/
theorem exists_fault?_of_writeAll (hi : Independent ws) (h : writeAll ws v = .error e) :
    ∃ w ∈ ws, ∃ fault, v.fault? w.1 = some fault ∧ e = .invalidPath w.1 fault := by
  induction ws generalizing v with
  | nil => cases h
  | cons first rest ih =>
    rw [writeAll, List.foldlM_cons] at h
    cases ho : v.setOrError first.1 first.2 with
    | error e' =>
      rw [ho] at h
      obtain rfl : e' = e := Except.error.inj h
      exact ⟨first, List.mem_cons_self, setOrError_eq_error_iff.1 ho⟩
    | ok m =>
      rw [ho] at h
      have hm := setOrError_eq_ok_iff.1 ho
      obtain ⟨w, hw, fault, hfault, he⟩ := ih hi.of_cons h
      have hapart := (List.pairwise_cons.1 hi.apart).1 w hw
      rw [fault?_of_apart (hi.named first List.mem_cons_self) hapart hm] at hfault
      exact ⟨w, List.mem_cons_of_mem _ hw, fault, hfault, he⟩

end Fault

end FormLogic.Value
