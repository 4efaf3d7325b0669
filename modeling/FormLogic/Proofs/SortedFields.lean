import FormLogic.Proofs.IndependentWrites

/-!
# Objects in order

Entries put one after the other stand in the order of their keys, each key once, with the
value that came last under it. Such an object is told by what is found under its keys, and
putting its entries again gives it back.
-/
namespace FormLogic.Fields

/-- The keys stand in order, each once. -/
def Sorted (fields : Fields) : Prop := fields.Pairwise fun a b => a.1 < b.1

/-- The value that comes last under a key. -/
def last? (key : String) (entries : List (String × Value)) : Option Value :=
  entries.reverse.lookup key

section Last

variable (key : String) (entries more : List (String × Value))

@[simp] theorem last?_nil : last? key [] = none := rfl

@[simp] theorem last?_append :
    last? key (entries ++ more) = (last? key more).or (last? key entries) := by
  rw [last?, List.reverse_append, List.lookup_append]
  rfl

@[simp] theorem last?_singleton (k : String) (v : Value) :
    last? key [(k, v)] = if key = k then some v else none := by
  rw [last?, List.reverse_singleton, lookup_entry]
  rfl

theorem last?_cons (k : String) (v : Value) :
    last? key ((k, v) :: entries) = (last? key entries).or (if key = k then some v else none) := by
  rw [← List.singleton_append, last?_append, last?_singleton]

/-- Under each key is found what came last. -/
theorem lookup_ofEntries : (ofEntries entries).lookup key = last? key entries := by
  -- What was put before counts where nothing comes later.
  suffices h : ∀ fields : Fields,
      (entries.foldl (fun fields entry => put entry.1 entry.2 fields) fields).lookup key =
        (last? key entries).or (fields.lookup key) by
    rw [ofEntries, h, List.lookup_nil, Option.or_none]
  induction entries with
  | nil => exact fun fields => rfl
  | cons entry rest ih =>
    intro fields
    obtain ⟨k, v⟩ := entry
    rw [List.foldl_cons, ih, lookup_put, last?_cons, Option.or_assoc]
    congr 1
    split <;> rfl

end Last

theorem lookup_without (keys : List String) (key : String) (fields : Fields) :
    (without keys fields).lookup key = if key ∈ keys then none else fields.lookup key := by
  induction fields with
  | nil => simp [without]
  | cons entry rest ih =>
    obtain ⟨k, v⟩ := entry
    change (List.filter _ ((k, v) :: rest)).lookup key = _
    rw [List.filter_cons]
    change (if (!keys.contains k) = true then (k, v) :: without keys rest
      else without keys rest).lookup key = _
    by_cases hk : k ∈ keys
    · rw [if_neg (by simp [hk]), ih, lookup_entry]
      by_cases hkey : key = k
      · rw [hkey, if_pos hk, if_pos hk]
      · rw [if_neg hkey]
    · rw [if_pos (by simp [hk]), lookup_entry, lookup_entry, ih]
      by_cases hkey : key = k
      · rw [hkey, if_pos rfl, if_pos rfl, if_neg hk]
      · rw [if_neg hkey, if_neg hkey]

theorem last?_without (keys : List String) (key : String) (entries : List (String × Value)) :
    last? key (without keys entries) = if key ∈ keys then none else last? key entries := by
  rw [last?, last?, ← lookup_without, without, without, List.filter_reverse]

theorem mem_replace {key : String} {value : Value} {fields : Fields} {e : String × Value}
    (h : e ∈ replace key value fields) : e = (key, value) ∨ e ∈ fields := by
  induction fields with
  | nil => cases h
  | cons entry rest ih =>
    obtain ⟨k, v⟩ := entry
    rw [replace] at h
    split at h
    · next hk =>
      rcases List.mem_cons.1 h with rfl | h
      · exact Or.inl (by rw [hk])
      · exact Or.inr (List.mem_cons_of_mem _ h)
    · rcases List.mem_cons.1 h with rfl | h
      · exact Or.inr List.mem_cons_self
      · exact (ih h).imp_right (List.mem_cons_of_mem _)

theorem mem_add {key : String} {value : Value} {fields : Fields} {e : String × Value}
    (h : e ∈ add key value fields) : e = (key, value) ∨ e ∈ fields := by
  induction fields with
  | nil => exact Or.inl (List.mem_singleton.1 h)
  | cons entry rest ih =>
    obtain ⟨k, v⟩ := entry
    rw [add] at h
    split at h
    · exact List.mem_cons.1 h
    · rcases List.mem_cons.1 h with rfl | h
      · exact Or.inr List.mem_cons_self
      · exact (ih h).imp_right (List.mem_cons_of_mem _)

theorem mem_put {key : String} {value : Value} {fields : Fields} {e : String × Value}
    (h : e ∈ put key value fields) : e = (key, value) ∨ e ∈ fields := by
  rw [put] at h
  split at h
  · exact mem_replace h
  · exact mem_add h

theorem mem_of_lookup {key : String} {value : Value} {fields : Fields}
    (h : fields.lookup key = some value) : (key, value) ∈ fields := by
  induction fields with
  | nil => cases h
  | cons entry rest ih =>
    obtain ⟨k, v⟩ := entry
    rw [lookup_entry] at h
    split at h
    · next hk =>
      obtain rfl := Option.some.inj h
      rw [hk]
      exact List.mem_cons_self
    · exact List.mem_cons_of_mem _ (ih h)

theorem map_key_replace (key : String) (value : Value) (fields : Fields) :
    (replace key value fields).map (·.1) = fields.map (·.1) := by
  induction fields with
  | nil => rfl
  | cons entry rest ih =>
    obtain ⟨k, v⟩ := entry
    rw [replace]
    split
    · rfl
    · rw [List.map_cons, List.map_cons, ih]

theorem sorted_iff {fields : Fields} : Sorted fields ↔ (fields.map (·.1)).Pairwise (· < ·) :=
  List.pairwise_map.symm

namespace Sorted

variable {key : String} {fields more : Fields}

theorem nil : Sorted [] := List.Pairwise.nil

theorem filter (h : Sorted fields) (p : String × Value → Bool) : Sorted (fields.filter p) :=
  List.Pairwise.filter p h

theorem replace (h : Sorted fields) (value : Value) : Sorted (replace key value fields) := by
  rw [sorted_iff, map_key_replace]
  exact sorted_iff.1 h

/-- A new key finds its place. -/
theorem add (h : Sorted fields) (hnew : fields.lookup key = none) (value : Value) :
    Sorted (add key value fields) := by
  induction fields with
  | nil => exact List.pairwise_singleton _ _
  | cons entry rest ih =>
    obtain ⟨k, v⟩ := entry
    obtain ⟨hfirst, hrest⟩ := List.pairwise_cons.1 h
    rw [lookup_entry] at hnew
    split at hnew
    · cases hnew
    · next hne =>
      rw [Fields.add]
      split
      · next hlt =>
        refine List.pairwise_cons.2 ⟨fun e he => ?_, h⟩
        rcases List.mem_cons.1 he with rfl | he
        · exact hlt
        · exact String.lt_trans hlt (hfirst e he)
      · next hnlt =>
        refine List.pairwise_cons.2 ⟨fun e he => ?_, ih hrest hnew⟩
        rcases mem_add he with rfl | he
        · exact (lt_or_lt_of_ne hne).resolve_left hnlt
        · exact hfirst e he

theorem put (h : Sorted fields) (value : Value) : Sorted (put key value fields) := by
  cases hl : fields.lookup key with
  | none =>
    rw [put_of_absent value (by simp [hl])]
    exact h.add hl value
  | some v =>
    rw [put_of_present value (by simp [hl])]
    exact h.replace value

/-- The first key is not found again. -/
theorem lookup_eq_none {value : Value} (h : Sorted ((key, value) :: fields)) :
    fields.lookup key = none := by
  cases hl : fields.lookup key with
  | none => rfl
  | some v =>
    exact absurd ((List.pairwise_cons.1 h).1 _ (mem_of_lookup hl)) (String.lt_irrefl key)

/-- Objects in order with the same under each key are the same. -/
theorem ext (h : Sorted fields) (hm : Sorted more)
    (he : ∀ key, fields.lookup key = more.lookup key) : fields = more := by
  induction fields generalizing more with
  | nil =>
    cases more with
    | nil => rfl
    | cons entry rest =>
      have hfound := he entry.1
      rw [lookup_entry, if_pos rfl] at hfound
      cases hfound
  | cons entry rest ih =>
    obtain ⟨k, v⟩ := entry
    cases more with
    | nil =>
      have hfound := he k
      rw [lookup_entry, if_pos rfl] at hfound
      cases hfound
    | cons other more =>
      obtain ⟨l, w⟩ := other
      -- The first keys are the least, and each is found in the other object.
      have hkl : k = l := by
        refine Classical.byContradiction fun hne => ?_
        have hk := he k
        have hl := he l
        rw [lookup_entry, if_pos rfl, lookup_entry, if_neg hne] at hk
        rw [lookup_entry, if_neg (Ne.symm hne), lookup_entry, if_pos rfl] at hl
        exact String.lt_asymm ((List.pairwise_cons.1 h).1 _ (mem_of_lookup hl))
          ((List.pairwise_cons.1 hm).1 _ (mem_of_lookup hk.symm))
      subst hkl
      have hvw := he k
      rw [lookup_entry, if_pos rfl, lookup_entry, if_pos rfl] at hvw
      obtain rfl := Option.some.inj hvw
      rw [ih (List.pairwise_cons.1 h).2 (List.pairwise_cons.1 hm).2 fun key => ?_]
      by_cases hkey : key = k
      · rw [hkey, h.lookup_eq_none, hm.lookup_eq_none]
      · have hrest := he key
        rwa [lookup_entry, if_neg hkey, lookup_entry, if_neg hkey] at hrest

/-- Of keys that stand each once, the last is the first. -/
theorem last?_eq (h : Sorted fields) (key : String) : last? key fields = fields.lookup key := by
  induction fields with
  | nil => rfl
  | cons entry rest ih =>
    obtain ⟨k, v⟩ := entry
    rw [last?_cons, ih (List.pairwise_cons.1 h).2, lookup_entry]
    split
    · next hk => rw [hk, h.lookup_eq_none, Option.none_or]
    · rw [Option.or_none]

end Sorted

theorem sorted_ofEntries (entries : List (String × Value)) : Sorted (ofEntries entries) := by
  suffices h : ∀ fields : Fields, Sorted fields →
      Sorted (entries.foldl (fun fields entry => put entry.1 entry.2 fields) fields) from
    h [] .nil
  induction entries with
  | nil => exact fun fields h => h
  | cons entry rest ih => exact fun fields h => ih _ (h.put entry.2)

/-- An object in order is what its entries make. -/
theorem Sorted.ofEntries_eq {fields : Fields} (h : Sorted fields) : ofEntries fields = fields :=
  (sorted_ofEntries fields).ext h fun key => by rw [lookup_ofEntries, h.last?_eq]

end FormLogic.Fields
