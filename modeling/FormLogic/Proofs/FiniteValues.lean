import FormLogic.Proofs.Addressing

/-!
# Tests of every value in a value

What holds of a value and of all values in it holds of every value that is read from
it, and a test of its numbers passes to what a write makes of it. A document holds finite
numbers only: on such values equality is reflexive.
-/
namespace FormLogic.Value

mutual
/-- Whether a test holds of a value and of all values in it. -/
def everywhere (p : Value → Bool) : Value → Bool
  | .arr items => p (.arr items) && everyItem p items
  | .obj fields => p (.obj fields) && everyField p fields
  | .null => p .null
  | .bool b => p (.bool b)
  | .num x => p (.num x)
  | .str s => p (.str s)
def everyItem (p : Value → Bool) : List Value → Bool
  | [] => true
  | v :: rest => v.everywhere p && everyItem p rest
def everyField (p : Value → Bool) : List (String × Value) → Bool
  | [] => true
  | (_, v) :: rest => v.everywhere p && everyField p rest
end

section Everywhere

variable {p : Value → Bool}

theorem everyItem_iff {items : List Value} :
    everyItem p items = true ↔ ∀ v ∈ items, v.everywhere p = true := by
  induction items with
  | nil => simp [everyItem]
  | cons v rest ih => simp [everyItem, ih]

theorem everywhere_arr {items : List Value} : (arr items).everywhere p = true ↔
    p (.arr items) = true ∧ ∀ v ∈ items, v.everywhere p = true := by
  rw [everywhere, Bool.and_eq_true, everyItem_iff]

theorem everywhere_obj {fields : Fields} : (obj fields).everywhere p = true ↔
    p (.obj fields) = true ∧ everyField p fields = true := by
  rw [everywhere, Bool.and_eq_true]

theorem everywhere_of_lookup {fields : Fields} (h : everyField p fields = true) {key : String}
    {v : Value} (hv : fields.lookup key = some v) : v.everywhere p = true := by
  induction fields with
  | nil => cases hv
  | cons entry rest ih =>
    obtain ⟨k, a⟩ := entry
    rw [everyField, Bool.and_eq_true] at h
    rw [Fields.lookup_entry] at hv
    split at hv
    · exact Option.some.inj hv ▸ h.1
    · exact ih h.2 hv

theorem everywhere_of_child {v w : Value} {segment : String} (h : v.everywhere p = true)
    (hw : v.child? segment = some w) : w.everywhere p = true := by
  cases v with
  | obj fields => exact everywhere_of_lookup (everywhere_obj.1 h).2 hw
  | arr items =>
    obtain ⟨i, -, hi⟩ := Option.bind_eq_some_iff.1 hw
    exact (everywhere_arr.1 h).2 w (List.mem_of_getElem? hi)
  | null | bool _ | num _ | str _ => cases hw

theorem everywhere_of_follow {v w : Value} {path : List String} (h : v.everywhere p = true)
    (hw : v.follow path = some w) : w.everywhere p = true := by
  induction path generalizing v with
  | nil => exact Option.some.inj hw ▸ h
  | cons s rest ih =>
    obtain ⟨below, hb, hw⟩ := Option.bind_eq_some_iff.1 hw
    exact ih (everywhere_of_child h hb) hw

theorem everyField_replace {fields : Fields} (h : everyField p fields = true) (key : String)
    {v : Value} (hv : v.everywhere p = true) :
    everyField p (Fields.replace key v fields) = true := by
  induction fields with
  | nil => rfl
  | cons entry rest ih =>
    obtain ⟨k, a⟩ := entry
    rw [everyField, Bool.and_eq_true] at h
    rw [Fields.replace]
    split
    · simp only [everyField, hv, h.2, Bool.and_self]
    · simp only [everyField, h.1, ih h.2, Bool.and_self]

theorem everyField_add {fields : Fields} (h : everyField p fields = true) (key : String)
    {v : Value} (hv : v.everywhere p = true) : everyField p (Fields.add key v fields) = true := by
  induction fields with
  | nil => simp only [Fields.add, everyField, hv, Bool.and_self]
  | cons entry rest ih =>
    obtain ⟨k, a⟩ := entry
    rw [everyField, Bool.and_eq_true] at h
    rw [Fields.add]
    split
    · simp only [everyField, hv, h.1, h.2, Bool.and_self]
    · simp only [everyField, h.1, ih h.2, Bool.and_self]

theorem everyField_put {fields : Fields} (h : everyField p fields = true) (key : String)
    {v : Value} (hv : v.everywhere p = true) : everyField p (Fields.put key v fields) = true := by
  unfold Fields.put
  split
  · exact everyField_replace h key hv
  · exact everyField_add h key hv

/-- A test that only a number can fail. -/
def TestsNumbers (p : Value → Bool) : Prop := ∀ v : Value, (∀ x, v ≠ .num x) → p v = true

theorem everywhere_bool (hp : TestsNumbers p) (b : Bool) : (bool b).everywhere p = true :=
  hp _ nofun

theorem everywhere_nil (hp : TestsNumbers p) : (arr []).everywhere p = true :=
  everywhere_arr.2 ⟨hp _ nofun, nofun⟩

theorem everywhere_empty (hp : TestsNumbers p) : empty.everywhere p = true :=
  everywhere_obj.2 ⟨hp _ nofun, rfl⟩

theorem everywhere_orEmpty (hp : TestsNumbers p) {v : Value} (hv : v.everywhere p = true) :
    v.orEmpty.everywhere p = true := by
  cases v with
  | null => exact everywhere_empty hp
  | obj _ | bool _ | num _ | str _ | arr _ => exact hv

/-- A write of a value that passes into one that passes gives another. -/
theorem everywhere_write (hp : TestsNumbers p) {new : Value} (hn : new.everywhere p = true)
    {path : List String} {v w : Value} (h : write new path v = (w, none))
    (hv : v.everywhere p = true) : w.everywhere p = true := by
  induction path generalizing v w with
  | nil =>
    obtain ⟨rfl, _⟩ := Prod.mk.inj h
    exact hn
  | cons s rest ih =>
    cases entered_of_write h with
    | @field v below fields ho hw =>
      have hf := (everywhere_obj.1 (ho ▸ everywhere_orEmpty hp hv)).2
      have hold : ((fields.lookup s).getD empty).everywhere p = true := by
        cases hl : fields.lookup s with
        | none => exact everywhere_empty hp
        | some old => exact everywhere_of_lookup hf hl
      exact everywhere_obj.2 ⟨hp _ nofun, everyField_put hf s (ih hw hold)⟩
    | @item items i item below hi hitem hw =>
      have hitems := (everywhere_arr.1 hv).2
      have hb := ih hw (hitems item (List.mem_of_getElem? hitem))
      refine everywhere_arr.2 ⟨hp _ nofun, fun a ha => ?_⟩
      rcases List.mem_or_eq_of_mem_set ha with hold | rfl
      · exact hitems a hold
      · exact hb
    | @appended items hi hr =>
      refine everywhere_arr.2 ⟨hp _ nofun, fun a ha => ?_⟩
      rcases List.mem_append.1 ha with hold | hlast
      · exact (everywhere_arr.1 hv).2 a hold
      · exact List.mem_singleton.1 hlast ▸ hn

end Everywhere

/-- A binary64 number is finite; other values pass. -/
def finiteNumber : Value → Bool
  | .num (.float x) => x.isFinite
  | _ => true

theorem testsNumbers_finiteNumber : TestsNumbers finiteNumber := by
  intro v hv
  cases v with
  | num x => exact absurd rfl (hv x)
  | null | bool _ | str _ | arr _ | obj _ => rfl

/-- Every binary64 number in a value is finite, as in every document. -/
def isFinite (v : Value) : Bool := v.everywhere finiteNumber

theorem numEq_self_of_isFinite {x : Binary64} (h : x.isFinite = true) : x.numEq x = true := by
  simp only [Binary64.isFinite, decide_eq_true_eq] at h
  simp only [Binary64.numEq, Binary64.isNotANumber, beq_self_eq_true, Bool.and_true, Bool.and_self,
    Bool.not_eq_true', decide_eq_false_iff_not, Nat.not_lt]
  exact Nat.le_of_lt h

mutual
theorem same_self : ∀ v : Value, v.isFinite = true → v.same v = true
  | .null, _ | .bool _, _ | .num (.int _), _ | .str _, _ => by simp [same, Number.numEq]
  | .num (.float _), h => by simpa only [same, Number.numEq] using numEq_self_of_isFinite h
  | .arr items, h => by
    simpa only [same] using sameItems_self items (everywhere_arr.1 h).2
  | .obj fields, h => by
    simpa only [same] using sameFields_self fields (everywhere_obj.1 h).2
theorem sameItems_self : ∀ items : List Value, (∀ v ∈ items, v.isFinite = true) →
    sameItems items items = true
  | [], _ => rfl
  | v :: rest, h => by
    simp only [sameItems, Bool.and_eq_true]
    exact ⟨same_self v (h v List.mem_cons_self),
      sameItems_self rest fun w hw => h w (List.mem_cons_of_mem v hw)⟩
theorem sameFields_self : ∀ fields : List (String × Value), everyField finiteNumber fields = true →
    sameFields fields fields = true
  | [], _ => rfl
  | (k, v) :: rest, h => by
    simp only [everyField, Bool.and_eq_true] at h
    simp only [sameFields, beq_self_eq_true, Bool.true_and, Bool.and_eq_true]
    exact ⟨same_self v h.1, sameFields_self rest h.2⟩
end

/-- Equality is reflexive on what a document can hold. -/
theorem beq_self_of_isFinite {v : Value} (h : v.isFinite = true) : (v == v) = true := same_self v h

/-- Only the empty list equals the empty list. -/
theorem eq_nil_of_beq {v : Value} (h : (v == .arr []) = true) : v = .arr [] := by
  change v.same (.arr []) = true at h
  cases v with
  | arr items => cases items <;> simp_all [same, sameItems]
  | null | bool _ | num _ | str _ | obj _ => simp [same] at h

end FormLogic.Value
