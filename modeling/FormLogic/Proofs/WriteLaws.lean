import FormLogic.Proofs.WriteFaults

/-!
# Laws of reading and writing

A place and a value make a lens as far as writes go through: what is written is read back, the
last of two writes at one place is the one that counts, and writing what is there changes
nothing. A write is not seen at places apart from its own, and two writes apart from each other
leave the same value whichever is made first: an object keeps its entries in an order that does
not depend on the order in which they came, what the one write creates on its way the other
enters, and a row that one of them adds is not the row of the other.
-/
namespace FormLogic

open FormLogic.Path (Apart EndsInName index? segments)

namespace Fields

variable {k l : String} (a b : Value) {fields : Fields}

theorem lookup_isSome_put (k l : String) (b : Value) (fields : Fields) :
    ((put l b fields).lookup k).isSome = (decide (k = l) || (fields.lookup k).isSome) := by
  rw [lookup_put]
  by_cases h : k = l <;> simp [h]

theorem replace_replace (k : String) (fields : Fields) :
    replace k a (replace k b fields) = replace k a fields := by
  induction fields with
  | nil => rfl
  | cons entry rest ih =>
    obtain ⟨key, v⟩ := entry
    by_cases h : key = k <;> simp [replace, h, ih]

theorem replace_comm (h : k ≠ l) (fields : Fields) :
    replace k a (replace l b fields) = replace l b (replace k a fields) := by
  induction fields with
  | nil => rfl
  | cons entry rest ih =>
    obtain ⟨key, v⟩ := entry
    by_cases hk : key = k
    · have hl : key ≠ l := hk ▸ h
      simp [replace, hk, hk ▸ hl]
    · by_cases hl : key = l <;> simp [replace, hk, hl, ih, Ne.symm h]

theorem replace_add (h : fields.lookup k = none) :
    replace k a (add k b fields) = add k a fields := by
  induction fields with
  | nil => simp [add, replace]
  | cons entry rest ih =>
    obtain ⟨key, v⟩ := entry
    rw [lookup_entry] at h
    by_cases hk : k = key
    · simp [hk] at h
    · rw [if_neg hk] at h
      by_cases hlt : k < key <;> simp [add, hlt, replace, Ne.symm hk, ih h]

theorem replace_add_comm (h : k ≠ l) (fields : Fields) :
    replace k a (add l b fields) = add l b (replace k a fields) := by
  induction fields with
  | nil => simp [add, replace, Ne.symm h]
  | cons entry rest ih =>
    obtain ⟨key, v⟩ := entry
    by_cases hk : key = k
    · subst hk
      by_cases hlt : l < key <;> simp [add, replace, hlt, Ne.symm h]
    · by_cases hlt : l < key <;> simp [add, replace, hlt, hk, ih, Ne.symm h]

theorem lt_or_lt_of_ne (h : k ≠ l) : k < l ∨ l < k := by
  by_cases hkl : k < l
  · exact Or.inl hkl
  · refine Or.inr ?_
    by_cases hlk : l < k
    · exact hlk
    · exact absurd (String.le_antisymm (String.not_lt.1 hlk) (String.not_lt.1 hkl)) h

/-- New entries find their places whichever comes first. -/
theorem add_comm (h : k ≠ l) (fields : Fields) :
    add k a (add l b fields) = add l b (add k a fields) := by
  induction fields with
  | nil =>
    rcases lt_or_lt_of_ne h with hkl | hlk
    · simp [add, hkl, String.lt_asymm hkl]
    · simp [add, hlk, String.lt_asymm hlk]
  | cons entry rest ih =>
    obtain ⟨key, v⟩ := entry
    by_cases hk : k < key <;> by_cases hl : l < key
    · rcases lt_or_lt_of_ne h with hkl | hlk
      · simp [add, hk, hl, hkl, String.lt_asymm hkl]
      · simp [add, hk, hl, hlk, String.lt_asymm hlk]
    · have hlk : ¬ l < k := fun hlk => hl (String.lt_trans hlk hk)
      simp [add, hk, hl, hlk]
    · have hkl : ¬ k < l := fun hkl => hk (String.lt_trans hkl hl)
      simp [add, hk, hl, hkl]
    · simp [add, hk, hl, ih]

theorem put_of_present (h : (fields.lookup k).isSome = true) :
    put k a fields = replace k a fields := if_pos h

theorem put_of_absent (h : ¬ (fields.lookup k).isSome = true) :
    put k a fields = add k a fields := if_neg h

/-- The last of two values under one key stays. -/
theorem put_put (k : String) (fields : Fields) : put k a (put k b fields) = put k a fields := by
  rw [put_of_present a (by simp [lookup_isSome_put])]
  by_cases h : (fields.lookup k).isSome = true
  · rw [put_of_present b h, put_of_present a h, replace_replace]
  · rw [put_of_absent b h, put_of_absent a h,
      replace_add a b (Option.not_isSome_iff_eq_none.1 h)]

/-- Entries under different keys may come in either order. -/
theorem put_comm (h : k ≠ l) (fields : Fields) :
    put k a (put l b fields) = put l b (put k a fields) := by
  have hk : ((put l b fields).lookup k).isSome = (fields.lookup k).isSome := by
    simp [lookup_isSome_put, h]
  have hl : ((put k a fields).lookup l).isSome = (fields.lookup l).isSome := by
    simp [lookup_isSome_put, Ne.symm h]
  by_cases hks : (fields.lookup k).isSome = true <;> by_cases hls : (fields.lookup l).isSome = true
  · rw [put_of_present a (hk ▸ hks), put_of_present b hls, put_of_present b (hl ▸ hls),
      put_of_present a hks, replace_comm a b h]
  · rw [put_of_present a (hk ▸ hks), put_of_absent b hls, put_of_absent b (hl ▸ hls),
      put_of_present a hks, replace_add_comm a b h]
  · rw [put_of_absent a (hk ▸ hks), put_of_present b hls, put_of_present b (hl ▸ hls),
      put_of_absent a hks, replace_add_comm b a (Ne.symm h)]
  · rw [put_of_absent a (hk ▸ hks), put_of_absent b hls, put_of_absent b (hl ▸ hls),
      put_of_absent a hks, add_comm a b h]

end Fields

namespace Value

theorem write_of_entered {new v w : Value} {s : String} {rest : List String}
    (h : Entered new s rest v w) : write new (s :: rest) v = (w, none) := by
  cases h with
  | field hv hw => simp only [write, hv, hw]
  | item hi hitem hw => simp only [write, orEmpty, hi, hitem, hw]
  | appended hi hr => simp [write, orEmpty, hi, hr]

section Lens

variable {x y v w u : Value} {p : List String}

/-- Where a value can be put, another one can be put in its place, as if it had not been there. -/
theorem write_again (h : write x p v = (w, none)) (h' : write y p v = (u, none)) :
    write y p w = (u, none) := by
  induction p generalizing v w u with
  | nil => exact h'
  | cons s rest ih =>
    apply write_of_entered
    cases entered_of_write h with
    | @field _ b fields hv hw =>
      cases entered_of_write h' with
      | @field _ c _ hv' hw' =>
        obtain rfl := Value.obj.inj (hv.symm.trans hv')
        rw [← Fields.put_put c b s fields]
        exact .field rfl (by rw [Fields.lookup_put, if_pos rfl]; exact ih hw hw')
      | item | appended => cases hv
    | @item items i item b hi hitem hw =>
      have hlt := (List.getElem?_eq_some_iff.1 hitem).1
      cases entered_of_write h' with
      | field hv' => cases hv'
      | @item _ j item' c hj hitem' hw' =>
        obtain rfl := Option.some.inj (hi.symm.trans hj)
        obtain rfl := Option.some.inj (hitem.symm.trans hitem')
        have hset : items.set i c = (items.set i b).set i c := (List.set_set ..).symm
        rw [hset]
        exact .item hi (List.getElem?_set_self hlt) (ih hw hw')
      | appended hj =>
        obtain rfl := Option.some.inj (hi.symm.trans hj)
        exact absurd hlt (Nat.lt_irrefl _)
    | @appended items hi hr =>
      cases entered_of_write h' with
      | field hv' => cases hv'
      | @item _ j item' c hj hitem' hw' =>
        obtain rfl := Option.some.inj (hi.symm.trans hj)
        exact absurd (List.getElem?_eq_some_iff.1 hitem').1 (Nat.lt_irrefl _)
      | appended =>
        -- The added row is there now, and is replaced.
        subst hr
        have hadded : (items ++ [x])[items.length]? = some x := List.getElem?_concat_length
        have hset : items ++ [y] = (items ++ [x]).set items.length y := by simp
        rw [hset]
        exact .item hi hadded rfl

/-- Writing what is there changes nothing. -/
theorem write_of_follow (h : v.follow p = some x) : write x p v = (v, none) := by
  refine Prod.ext ?_ (fault_write_of_follow h)
  induction p generalizing v with
  | nil => exact (Option.some.inj h).symm
  | cons s rest ih =>
    obtain ⟨below, hc, hbelow⟩ := Option.bind_eq_some_iff.1 h
    exact write_of_child hc (ih hbelow)

end Lens

/-- What is written at a path is read back and can be written over, as if it had not been written;
and writing what is read at a path changes nothing. -/
theorem set_get?_lens (v : Value) (path : String) (x y : Value) :
    (∀ w, v.set path x = (w, none) → w.get? path = some x ∧
      w.set path y = v.set path y ∧ (w.set path y).2 = none) ∧
    ∀ z, v.get? path = some z → v.set path z = (v, none) := by
  refine ⟨fun w h => ?_, fun z hz => write_of_follow hz⟩
  have hfree : (v.set path y).2 = none := by
    rw [set, fault_write_congr y x, ← set, h]
  have hagain : w.set path y = v.set path y :=
    (write_again h (Prod.ext rfl hfree)).trans (Prod.ext rfl hfree.symm)
  exact ⟨follow_write_self h, hagain, by rw [hagain, hfree]⟩

namespace Kennel

def rex : Value := .obj [("name", .str "Rex")]

def stored : Value := .obj [("dogs", .arr [rex])]

/-- One past the last dog. -/
def next : String := "dogs..+1"

def withNext (dog : Value) : Value := .obj [("dogs", .arr [rex, dog])]

theorem set_next (dog : Value) : stored.set next dog = (withNext dog, none) := by rfl

end Kennel

open Kennel in
/-- A dog is added under an odd numeral, and another one takes its place. -/
theorem set_get?_lens_kennel :
    (withNext .empty).get? next = some .empty ∧
      (withNext .empty).set next rex = (withNext rex, none) ∧
      stored.set "dogs.00.name" (.str "Rex") = (stored, none) := by
  obtain ⟨hwritten, -⟩ := set_get?_lens stored next .empty rex
  obtain ⟨hread, hagain, -⟩ := hwritten _ (set_next .empty)
  have hname : stored.get? "dogs.00.name" = some (.str "Rex") := by rfl
  exact ⟨hread, hagain.trans (set_next rex),
    (set_get?_lens stored "dogs.00.name" .null .null).2 _ hname⟩

section TwoPlaces

variable {x y v w m u : Value} {s t : String} {rest more p q : List String}

/-- Writes that go on below one segment may be made in either order if they may there. -/
theorem Entered.join_below (hr : rest ≠ []) (hm : more ≠ [])
    (below : ∀ {a b c}, write x rest a = (b, none) → write y more a = (c, none) →
      ∃ d, write y more b = (d, none) ∧ write x rest c = (d, none))
    (hx : Entered x s rest v w) (hy : Entered y s more v m) :
    ∃ u, Entered y s more w u ∧ Entered x s rest m u := by
  cases hx with
  | appended _ he => exact absurd he hr
  | @field _ b fields hv hw =>
    cases hy with
    | item | appended => cases hv
    | @field _ c _ hv' hw' =>
      obtain rfl := Value.obj.inj (hv.symm.trans hv')
      obtain ⟨d, hbd, hcd⟩ := below hw hw'
      refine ⟨.obj (Fields.put s d fields), ?_, ?_⟩
      · rw [← Fields.put_put d b s fields]
        exact .field rfl (by rw [Fields.lookup_put, if_pos rfl]; exact hbd)
      · rw [← Fields.put_put d c s fields]
        exact .field rfl (by rw [Fields.lookup_put, if_pos rfl]; exact hcd)
  | @item items i item b hi hitem hw =>
    have hlt := (List.getElem?_eq_some_iff.1 hitem).1
    cases hy with
    | field hv' => cases hv'
    | appended _ he => exact absurd he hm
    | @item _ j item' c hj hitem' hw' =>
      obtain rfl := Option.some.inj (hi.symm.trans hj)
      obtain rfl := Option.some.inj (hitem.symm.trans hitem')
      obtain ⟨d, hbd, hcd⟩ := below hw hw'
      have hset : ∀ a, (items.set i a).set i d = items.set i d := fun a => List.set_set ..
      refine ⟨.arr (items.set i d), ?_, ?_⟩
      · rw [← hset b]
        exact .item hi (List.getElem?_set_self hlt) hbd
      · rw [← hset c]
        exact .item hi (List.getElem?_set_self hlt) hcd

/-- Writes that enter different segments, and not one row, may be made in either order. -/
theorem Entered.join_beside (hst : s ≠ t) (hrow : ∀ i, index? s = some i → index? t ≠ some i)
    (hx : Entered x s rest v w) (hy : Entered y t more v m) :
    ∃ u, Entered y t more w u ∧ Entered x s rest m u := by
  cases hx with
  | @field _ b fields hv hw =>
    cases hy with
    | item | appended => cases hv
    | @field _ c _ hv' hw' =>
      obtain rfl := Value.obj.inj (hv.symm.trans hv')
      refine ⟨.obj (Fields.put t c (Fields.put s b fields)), ?_, ?_⟩
      · exact .field rfl (by rw [Fields.lookup_put, if_neg (Ne.symm hst)]; exact hw')
      · rw [Fields.put_comm c b (Ne.symm hst)]
        exact .field rfl (by rw [Fields.lookup_put, if_neg hst]; exact hw)
  | @item items i item b hi hitem hw =>
    have hlt := (List.getElem?_eq_some_iff.1 hitem).1
    cases hy with
    | field hv' => cases hv'
    | @item _ j item' c hj hitem' hw' =>
      have hij : i ≠ j := fun he => hrow i hi (he ▸ hj)
      refine ⟨.arr ((items.set i b).set j c), ?_, ?_⟩
      · exact .item hj (by rw [List.getElem?_set_ne hij]; exact hitem') hw'
      · rw [List.set_comm _ _ hij]
        exact .item hi (by rw [List.getElem?_set_ne (Ne.symm hij)]; exact hitem) hw
    | appended hj hm =>
      refine ⟨.arr (items.set i b ++ [y]), .appended (by rw [List.length_set]; exact hj) hm, ?_⟩
      rw [← List.set_append_left _ _ hlt]
      exact .item hi (by rw [List.getElem?_append_left hlt]; exact hitem) hw
  | @appended items hi hr =>
    cases hy with
    | field hv' => cases hv'
    | @item _ j item' c hj hitem' hw' =>
      have hlt := (List.getElem?_eq_some_iff.1 hitem').1
      refine ⟨.arr (items.set j c ++ [x]), ?_, .appended (by rw [List.length_set]; exact hi) hr⟩
      rw [← List.set_append_left _ _ hlt]
      exact .item hj (by rw [List.getElem?_append_left hlt]; exact hitem') hw'
    | appended hj _ => exact absurd hj (hrow _ hi)

/-- Writes at places apart that go through by themselves go through one after the other, and leave
the same in either order. -/
theorem write_join (hpq : Apart p q) (hx : write x p v = (w, none))
    (hy : write y q v = (m, none)) : ∃ u, write y q w = (u, none) ∧ write x p m = (u, none) := by
  induction p generalizing q v w m with
  | nil => exact hpq.elim
  | cons s rest ih =>
    cases q with
    | nil => exact hpq.elim
    | cons t more =>
      suffices h : ∃ u, Entered y t more w u ∧ Entered x s rest m u by
        obtain ⟨u, hu, hu'⟩ := h
        exact ⟨u, write_of_entered hu, write_of_entered hu'⟩
      by_cases hst : s = t
      · subst hst
        simp only [Apart, if_true] at hpq
        have hr : rest ≠ [] := fun hn => by rw [hn] at hpq; exact hpq.elim
        have hm : more ≠ [] := fun hn => by rw [hn] at hpq; exact hpq.symm.elim
        exact (entered_of_write hx).join_below hr hm (ih hpq) (entered_of_write hy)
      · simp only [Apart, hst, if_false] at hpq
        exact (entered_of_write hx).join_beside hst hpq (entered_of_write hy)

/-- A write after one to a name apart from it may as well be made before. -/
theorem write_swap (hpq : Apart p q) (hp : EndsInName p) (hx : write x p v = (w, none))
    (hy : write y q w = (u, none)) :
    ∃ m, write y q v = (m, none) ∧ write x p m = (u, none) := by
  have hfree : (write y q v).2 = none := by rw [← fault_write_of_apart hpq hp hx, hy]
  obtain ⟨u', hu, hu'⟩ := write_join hpq hx (Prod.ext rfl hfree : write y q v = (_, none))
  obtain ⟨rfl, -⟩ := Prod.mk.inj (hy.symm.trans hu)
  exact ⟨_, Prod.ext rfl hfree, hu'⟩

end TwoPlaces

/-- A write is not seen at a path apart from it, whether or not anything is there. Two writes at
paths apart that go through by themselves, as they do when they go through in both orders, leave the
same whichever is made first. -/
theorem get?_set_of_apart {p q : String} (hpq : Apart (segments p) (segments q))
    (v x y : Value) :
    (∀ w, v.set p x = (w, none) → w.get? q = v.get? q) ∧
    ∀ w m, v.set p x = (w, none) → v.set q y = (m, none) →
      w.set q y = m.set p x ∧ (w.set q y).2 = none := by
  refine ⟨fun w h => follow_write_of_apart hpq h, fun w m hx hy => ?_⟩
  obtain ⟨u, hu, hu'⟩ := write_join hpq hx hy
  have hwu : w.set q y = (u, none) := hu
  exact ⟨hwu.trans hu'.symm, by rw [hwu]⟩

open Kennel in
/-- Nothing is seen of an added dog by the first one, which gets a chip before or after. -/
theorem get?_set_of_apart_kennel : (withNext .null).get? "dogs.0.chip.number" = none ∧
    ∃ m, stored.set "dogs.0.chip.number" (.str "7") = (m, none) ∧
      (withNext .null).set "dogs.0.chip.number" (.str "7") = m.set next .null := by
  have hapart : Apart (segments next) (segments "dogs.0.chip.number") := by decide
  obtain ⟨hunseen, hswap⟩ := get?_set_of_apart hapart stored .null (.str "7")
  have hchip : ∃ m, stored.set "dogs.0.chip.number" (.str "7") = (m, none) := ⟨_, by rfl⟩
  obtain ⟨m, hm⟩ := hchip
  have hnone : stored.get? "dogs.0.chip.number" = none := by rfl
  exact ⟨(hunseen _ (set_next .null)).trans hnone, m, hm, (hswap _ _ (set_next .null) hm).1⟩

end Value
end FormLogic
