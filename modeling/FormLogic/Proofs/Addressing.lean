import FormLogic.Value.Access

/-!
# Writes at different places

Paths as lists of segments, and what a write does to reads elsewhere. Two lists of
segments are `Apart` when they part at a segment both have, and not into one row of
a list under two spellings. A write is read back at its own place, is not seen at
places apart from it, and is a write below every place it passes through.
-/
namespace FormLogic.Path

theorem runs_ne_nil (cs : List Char) : runs cs ≠ [] := by
  cases cs with
  | nil => simp [runs]
  | cons c rest =>
    simp only [runs]
    split
    · simp
    · split <;> simp

theorem runs_append (a b : List Char) : runs (a ++ separator :: b) = runs a ++ runs b := by
  induction a with
  | nil => simp [runs]
  | cons c rest ih =>
    by_cases hc : c = separator
    · simp [runs, hc, ih]
    · have hne := runs_ne_nil rest
      simp only [List.cons_append, runs, hc, if_false, ih]
      cases hr : runs rest with
      | nil => exact absurd hr hne
      | cons run more => simp

theorem runs_of_no_separator {cs : List Char} (h : separator ∉ cs) : runs cs = [cs] := by
  induction cs with
  | nil => rfl
  | cons c rest ih =>
    have hc : c ≠ separator := fun he => h (he ▸ List.mem_cons_self)
    simp [runs, hc, ih fun hm => h (List.mem_cons_of_mem c hm)]

theorem segments_empty : segments "" = [] := by decide

/-- Joining paths joins their segments, whatever is empty. -/
theorem segments_join (a b : String) : segments (join a b) = segments a ++ segments b := by
  unfold join
  split
  · next h => simp [h, segments_empty]
  · split
    · next h => simp [h, segments_empty]
    · have hl : (a ++ String.singleton separator ++ b).toList =
          a.toList ++ separator :: b.toList := by
        simp [String.toList_append]
      simp only [segments, hl, runs_append, List.filter_append, List.map_append]

theorem isDigit_of_mem_toString {n : Nat} {c : Char} (h : c ∈ (toString n).toList) : c.isDigit := by
  rw [Nat.toString_eq_repr, Nat.toList_repr] at h
  exact Nat.isDigit_of_mem_toDigits (by decide) (by decide) h

theorem toList_toString_ne_nil (n : Nat) : (toString n).toList ≠ [] := by
  rw [Nat.toString_eq_repr, Nat.toList_repr]
  exact Nat.toDigits_ne_nil

theorem segments_toString (n : Nat) : segments (toString n) = [toString n] := by
  have hs : separator ∉ (toString n).toList := by
    intro h
    exact absurd (isDigit_of_mem_toString h) (by decide)
  have hne : (!(toString n).toList.isEmpty) = true := by
    simp
  simp only [segments, runs_of_no_separator hs, List.filter_cons, hne, if_true, List.filter_nil,
    List.map_cons, List.map_nil, String.ofList_toList]

theorem segments_row (path : String) (n : Nat) :
    segments (row path n) = segments path ++ [toString n] := by
  rw [row, segments_join, segments_toString]

/-- A row number is read back, as long as it fits a word. -/
theorem index?_toString (n : Nat) :
    index? (toString n) = if n ≤ Literal.wordMax then some n else none := by
  have hall : (toString n).toList.all Char.isDigit = true := by
    rw [List.all_eq_true]
    exact fun c hc => isDigit_of_mem_toString hc
  have hval : Literal.digitsValue 0 (toString n).toList = n := by
    rw [Nat.toString_eq_repr, Nat.toList_repr]
    exact Nat.ofDigitChars_ten_toDigits
  have hdigits : Literal.digits? (toString n).toList = some n := by
    rw [Literal.digits?, if_pos ⟨toList_toString_ne_nil n, hall⟩, hval]
  have hbody : Literal.wordOfChars? (toString n).toList
      = (Literal.digits? (toString n).toList).filter (· ≤ Literal.wordMax) := by
    unfold Literal.wordOfChars?
    split
    · next rest heq =>
      have hd : ('+' : Char).isDigit = true :=
        isDigit_of_mem_toString (n := n) (by rw [heq]; exact List.mem_cons_self)
      exact absurd hd (by decide)
    · rfl
  rw [index?, Literal.word?, hbody, hdigits]
  by_cases h : n ≤ Literal.wordMax
  · simp [h]
  · simpa [h] using Nat.lt_of_not_le h

theorem toString_injective {m n : Nat} (h : toString m = toString n) : m = n := by
  have hm := congrArg (fun s : String => Literal.digitsValue 0 s.toList) h
  simp only [Nat.toString_eq_repr, Nat.toList_repr] at hm
  exact Nat.ofDigitChars_ten_toDigits.symm.trans (hm.trans Nat.ofDigitChars_ten_toDigits)

/-- Two lists of segments part ways: at their first difference both go on, and not into one row. -/
def Apart : List String → List String → Prop
  | a :: as, b :: bs => if a = b then Apart as bs else ∀ i, index? a = some i → index? b ≠ some i
  | _, _ => False

/-- Two segments do not name one row exactly if one is no number or the numbers differ. -/
theorem rows_ne_iff {a b : String} : (∀ i, index? a = some i → index? b ≠ some i) ↔
    index? a = none ∨ index? a ≠ index? b := by
  cases index? a with
  | none => simp
  | some i => simp [eq_comm]

instance decidableApart : ∀ p q : List String, Decidable (Apart p q)
  | [], _ | _ :: _, [] => isFalse id
  | a :: as, b :: bs =>
    if h : a = b then
      have := decidableApart as bs
      decidable_of_iff (Apart as bs) (by rw [Apart, if_pos h])
    else
      decidable_of_iff (index? a = none ∨ index? a ≠ index? b)
        (by rw [Apart, if_neg h, rows_ne_iff])

theorem Apart.symm {p q : List String} (h : Apart p q) : Apart q p := by
  induction p generalizing q with
  | nil => exact h.elim
  | cons a as ih =>
    cases q with
    | nil => exact h.elim
    | cons b bs =>
      by_cases he : a = b
      · subst he
        simp only [Apart, if_true] at h ⊢
        exact ih h
      · simp only [Apart, he, Ne.symm he, if_false] at h ⊢
        exact fun i hb ha => h i ha hb

/-- Parting once is parting for good. -/
theorem Apart.append {p q : List String} (h : Apart p q) (r t : List String) :
    Apart (p ++ r) (q ++ t) := by
  induction p generalizing q with
  | nil => exact h.elim
  | cons a as ih =>
    cases q with
    | nil => exact h.elim
    | cons b bs =>
      by_cases he : a = b
      · subst he
        simp only [Apart, List.cons_append, if_true] at h ⊢
        exact ih h
      · simpa only [Apart, List.cons_append, he, if_false] using h

theorem apart_append_iff (base p q : List String) : Apart (base ++ p) (base ++ q) ↔ Apart p q := by
  induction base with
  | nil => rfl
  | cons a rest ih => simpa only [List.cons_append, Apart, if_true] using ih

theorem Apart.of_isPrefix {p q p' q' : List String} (h : Apart p q) (hp : p <+: p')
    (hq : q <+: q') : Apart p' q' := by
  obtain ⟨r, rfl⟩ := hp
  obtain ⟨t, rfl⟩ := hq
  exact h.append r t

theorem not_apart_of_isPrefix {p q : List String} (h : p <+: q) : ¬ Apart p q := by
  obtain ⟨t, rfl⟩ := h
  induction p with
  | nil => exact id
  | cons a rest ih => simpa only [List.cons_append, Apart, if_true] using ih

/-- Segments that are no row numbers part as soon as neither list begins the other. -/
theorem apart_of_not_isPrefix {p q : List String} (hp : ∀ s ∈ p, index? s = none)
    (hpq : ¬ p <+: q) (hqp : ¬ q <+: p) : Apart p q := by
  induction p generalizing q with
  | nil => exact absurd List.nil_prefix hpq
  | cons a as ih =>
    cases q with
    | nil => exact absurd List.nil_prefix hqp
    | cons b bs =>
      by_cases he : a = b
      · subst he
        simp only [Apart, if_true]
        simp only [List.cons_prefix_cons, true_and] at hpq hqp
        exact ih (fun s hs => hp s (List.mem_cons_of_mem a hs)) hpq hqp
      · simp only [Apart, he, if_false]
        intro i hi
        rw [hp a List.mem_cons_self] at hi
        cases hi

/-- Different rows of a list are apart. -/
theorem apart_rows {m n : Nat} (h : m ≠ n) : Apart [toString m] [toString n] := by
  have hs : toString m ≠ toString n := fun he => h (toString_injective he)
  simp only [Apart, hs, if_false, index?_toString]
  intro i hm hn
  split at hm
  · split at hn
    · exact h ((Option.some.inj hm).trans (Option.some.inj hn).symm)
    · cases hn
  · cases hm

end FormLogic.Path

namespace FormLogic.Value

open FormLogic.Path (Apart index?)

theorem follow_append (v : Value) (p q : List String) :
    v.follow (p ++ q) = (v.follow p).bind fun below => below.follow q := by
  induction p generalizing v with
  | nil => rfl
  | cons s rest ih =>
    simp only [List.cons_append, follow]
    cases v.child? s with
    | none => rfl
    | some below => exact ih below

/-- How a write that succeeds goes through its first segment. -/
inductive Entered (new : Value) (segment : String) (rest : List String) : Value → Value → Prop
  | field {v below : Value} {fields : Fields} (hv : v.orEmpty = .obj fields)
      (hw : write new rest ((fields.lookup segment).getD empty) = (below, none)) :
      Entered new segment rest v (.obj (Fields.put segment below fields))
  | item {items : List Value} {i : Nat} {item below : Value} (hi : index? segment = some i)
      (hitem : items[i]? = some item) (hw : write new rest item = (below, none)) :
      Entered new segment rest (.arr items) (.arr (items.set i below))
  | appended {items : List Value} (hi : index? segment = some items.length) (hr : rest = []) :
      Entered new segment rest (.arr items) (.arr (items ++ [new]))

theorem entered_of_write {new v w : Value} {segment : String} {rest : List String}
    (h : write new (segment :: rest) v = (w, none)) : Entered new segment rest v w := by
  simp only [write] at h
  split at h
  · next fields hv =>
    obtain ⟨hw, hf⟩ := Prod.mk.inj h
    subst hw
    exact .field hv (Prod.ext rfl hf)
  · next items hv =>
    have harr : v = .arr items := by cases v <;> simp_all [orEmpty, empty]
    subst harr
    split at h
    · cases h
    · next i hi =>
      split at h
      · next item hitem =>
        obtain ⟨hw, hf⟩ := Prod.mk.inj h
        subst hw
        exact .item hi hitem (Prod.ext rfl hf)
      · split at h
        · next hr =>
          split at h
          · next hlen =>
            obtain ⟨rfl, _⟩ := Prod.mk.inj h
            exact .appended (hlen ▸ hi) (List.isEmpty_iff.1 hr)
          · cases h
        · cases h
  · cases h

/-- What is written is read back. -/
theorem follow_write_self {new v w : Value} {path : List String}
    (h : write new path v = (w, none)) : w.follow path = some new := by
  induction path generalizing v w with
  | nil =>
    obtain ⟨rfl, _⟩ := Prod.mk.inj h
    rfl
  | cons s rest ih =>
    cases entered_of_write h with
    | field hv hw => simp [follow, child?, Fields.lookup_put, ih hw]
    | item hi hitem hw =>
      have hlt := (List.getElem?_eq_some_iff.1 hitem).1
      simp [follow, child?, hi, List.getElem?_set_self hlt, ih hw]
    | appended hi hr =>
      subst hr
      simp [follow, child?, hi]

/-- Entering a field leaves the other fields, and entering a row the other rows. -/
theorem Entered.child?_of_ne {new v w : Value} {s t : String} {rest : List String}
    (h : Entered new s rest v w) (hst : s ≠ t) (hrow : ∀ i, index? s = some i → index? t ≠ some i) :
    w.child? t = v.child? t := by
  cases h with
  | @field v below fields hv hw =>
    have hchild : v.child? t = fields.lookup t := by
      cases v <;> simp_all [orEmpty, empty, child?]
    rw [hchild, child?, Fields.lookup_put, if_neg (Ne.symm hst)]
  | @item items i item below hi hitem hw =>
    have hne := hrow i hi
    simp only [child?]
    cases ht : index? t with
    | none => rfl
    | some j =>
      have hij : i ≠ j := fun he => hne (he ▸ ht)
      simp [List.getElem?_set_ne hij]
  | @appended items hi hr =>
    have hne := hrow _ hi
    simp only [child?]
    cases ht : index? t with
    | none => rfl
    | some j =>
      have hij : j ≠ items.length := fun he => hne (he ▸ ht)
      simp only [Option.bind_some]
      rcases Nat.lt_or_ge j items.length with hlt | hge
      · rw [List.getElem?_append_left hlt]
      · rw [List.getElem?_eq_none hge, List.getElem?_eq_none]
        simp only [List.length_append, List.length_singleton]
        omega

/-- A write goes on below its first segment, where a missing value counts as an empty object. -/
theorem Entered.child?_self {new v w : Value} {s : String} {rest : List String}
    (h : Entered new s rest v w) (hr : rest ≠ []) :
    ∃ below, w.child? s = some below ∧
      write new rest ((v.child? s).getD empty) = (below, none) := by
  cases h with
  | @field v below fields hv hw =>
    have hchild : v.child? s = fields.lookup s := by
      cases v <;> simp_all [orEmpty, empty, child?]
    exact ⟨below, by simp [child?, Fields.lookup_put], by rw [hchild]; exact hw⟩
  | @item items i item below hi hitem hw =>
    have hlt := (List.getElem?_eq_some_iff.1 hitem).1
    exact ⟨below, by simp [child?, hi, List.getElem?_set_self hlt], by simpa [child?, hi, hitem]⟩
  | appended hi he => exact absurd he hr

theorem follow_empty_of_ne_nil {path : List String} (h : path ≠ []) : empty.follow path = none := by
  cases path with
  | nil => exact absurd rfl h
  | cons s rest => rfl

/-- A write is not seen at places apart from it. -/
theorem follow_write_of_apart {new v w : Value} {p q : List String} (hpq : Apart p q)
    (h : write new p v = (w, none)) : w.follow q = v.follow q := by
  induction p generalizing q v w with
  | nil => exact hpq.elim
  | cons s rest ih =>
    cases q with
    | nil => exact hpq.elim
    | cons t more =>
      have he := entered_of_write h
      by_cases hst : s = t
      · subst hst
        simp only [Apart, if_true] at hpq
        have hr : rest ≠ [] := fun hn => by rw [hn] at hpq; exact hpq.elim
        have hm : more ≠ [] := fun hn => by rw [hn] at hpq; exact hpq.symm.elim
        obtain ⟨below, hbelow, hw⟩ := he.child?_self hr
        simp only [follow, hbelow, Option.bind_some, ih hpq hw]
        cases v.child? s with
        | none => exact follow_empty_of_ne_nil hm
        | some old => rfl
      · simp only [Apart, hst, if_false] at hpq
        simp only [follow, he.child?_of_ne hst hpq]

/-- Seen from a place it passes through, a write is a write there. -/
theorem follow_write_above {new v w x : Value} {p q : List String}
    (h : write new (p ++ q) v = (w, none)) (hq : q ≠ []) (hx : v.follow p = some x) :
    ∃ y, w.follow p = some y ∧ write new q x = (y, none) := by
  induction p generalizing v w with
  | nil =>
    obtain rfl := Option.some.inj hx
    exact ⟨w, rfl, h⟩
  | cons s rest ih =>
    have hr : rest ++ q ≠ [] := by simp [hq]
    obtain ⟨below, hbelow, hw⟩ := (entered_of_write h).child?_self hr
    simp only [follow] at hx ⊢
    cases hc : v.child? s with
    | none => rw [hc] at hx; cases hx
    | some old =>
      rw [hc] at hx hw
      rw [hbelow]
      exact ih hw hx

/-- A write at or below a row that is there keeps the list and its length. -/
theorem write_below_row {new y : Value} {items : List Value} {row : Nat} {rest : List String}
    (h : write new (toString row :: rest) (.arr items) = (y, none)) (hr : row < items.length) :
    ∃ items', y = .arr items' ∧ items'.length = items.length := by
  cases entered_of_write h with
  | field hv hw => cases hv
  | item hi hitem hw => exact ⟨_, rfl, by simp⟩
  | appended hi he =>
    rw [Path.index?_toString] at hi
    split at hi
    · have := Option.some.inj hi
      omega
    · cases hi

end FormLogic.Value
