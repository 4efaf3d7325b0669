import FormLogic.Pattern.Search
import Mathlib.Logic.Function.Iterate

/-!
# The texts that a pattern matches

An expression relates the places of a text: it matches from one place to another if the characters
between them are as it says. Nothing in this relation follows sets of places, and the search that
does finds an expression in a text exactly if the relation holds between two places of it.
-/
namespace FormLogic.Pattern

/-- Some number of steps in a row. -/
def Repeats (R : Nat → Nat → Prop) : Nat → Nat → Nat → Prop
  | 0, i, j => j = i
  | n + 1, i, j => ∃ m, R i m ∧ Repeats R n m j

/-- The character before a place of a text. -/
def charBefore (text : List Char) : Nat → Option Char
  | 0 => none
  | i + 1 => text[i]?

namespace Expr

mutual
/-- Whether an expression matches a text from one place to another. A limit of copies below the
least number of them changes nothing. -/
def Matches (text : List Char) : Expr → Nat → Nat → Prop
  | empty, i, j => j = i
  | literal chars, i, j => chars <+: text.drop i ∧ j = i + chars.length
  | set s, i, j => (∃ c, text[i]? = some c ∧ s.contains c.toNat) ∧ j = i + 1
  | anchor a, i, j => (i ≤ text.length ∧ a.holds (charBefore text i) text[i]?) ∧ j = i
  | repetition body least most _, i, j =>
    ∃ n, least ≤ n ∧ (∀ m, most = some m → n ≤ max least m) ∧ Repeats (body.Matches text) n i j
  | capture _ body, i, j => body.Matches text i j
  | concat items, i, j => MatchInTurn text items i j
  | alternation branches, i, j => MatchesAny text branches i j
/-- Whether expressions match one after the other. -/
def MatchInTurn (text : List Char) : List Expr → Nat → Nat → Prop
  | [], i, j => j = i
  | e :: rest, i, j => ∃ m, e.Matches text i m ∧ MatchInTurn text rest m j
/-- Whether one of several expressions matches. -/
def MatchesAny (text : List Char) : List Expr → Nat → Nat → Prop
  | [], _, _ => False
  | e :: rest, i, j => e.Matches text i j ∨ MatchesAny text rest i j
end

/-- Whether an expression matches a text from its start to its end. -/
def MatchesWhole (e : Expr) (s : String) : Prop := e.Matches s.toList 0 s.toList.length

end Expr

section Repeats
variable {R : Nat → Nat → Prop} {i j k : Nat}

theorem Repeats.add {m n : Nat} :
    Repeats R (m + n) i j ↔ ∃ k, Repeats R m i k ∧ Repeats R n k j := by
  induction m generalizing i with
  | zero => simp [Repeats]
  | succ m ih =>
    rw [Nat.succ_add]
    simp only [Repeats, ih]
    constructor
    · rintro ⟨a, hr, k, hm, hn⟩
      exact ⟨k, ⟨a, hr, hm⟩, hn⟩
    · rintro ⟨k, ⟨a, hr, hm⟩, hn⟩
      exact ⟨a, hr, k, hm, hn⟩

/-- What a match may do with places of a text of some length: stay, or go on inside it. -/
def Forward (length : Nat) (R : Nat → Nat → Prop) : Prop :=
  ∀ i j, R i j → j = i ∨ (i < j ∧ j ≤ length)

theorem Forward.comp {length : Nat} {S : Nat → Nat → Prop} (hR : Forward length R)
    (hS : Forward length S) : Forward length fun i j => ∃ m, R i m ∧ S m j := by
  rintro i j ⟨m, hr, hs⟩
  have h₁ := hR i m hr
  have h₂ := hS m j hs
  omega

theorem Forward.repeats {length : Nat} (hR : Forward length R) (n : Nat) :
    Forward length (Repeats R n) := by
  induction n with
  | zero => exact fun i j h => .inl h
  | succ n ih => exact hR.comp ih

/-- Steps that stay can be left out, so as many as there are characters suffice. -/
theorem Forward.shorten {length n : Nat} (hR : Forward length R) (h : Repeats R n i j) :
    ∃ m ≤ n, m ≤ length ∧ Repeats R m i j := by
  -- The number of moving steps is bounded by how far they lead.
  suffices ∃ m ≤ n, m ≤ j - i ∧ Repeats R m i j by
    obtain ⟨m, hm, hd, hr⟩ := this
    have := hR.repeats n i j h
    exact ⟨m, hm, by omega, hr⟩
  induction n generalizing i with
  | zero => exact ⟨0, Nat.le_refl 0, Nat.zero_le _, h⟩
  | succ n ih =>
    obtain ⟨k, hik, hkj⟩ := h
    obtain ⟨m, hm, hd, hr⟩ := ih hkj
    have hk := hR i k hik
    have hj := hR.repeats n k j hkj
    rcases Nat.eq_or_lt_of_le (show i ≤ k by omega) with rfl | hlt
    · exact ⟨m, by omega, hd, hr⟩
    · exact ⟨m + 1, by omega, by omega, k, hik, hr⟩

end Repeats

namespace Places

/-- Numbers of `width` bits as one. -/
def join (width : Nat) : List Places → Places
  | [] => 0
  | a :: rest => a ||| join width rest <<< width

/-- Half as many numbers are left after a round, so there are rounds enough. -/
theorem length_pairUp (width : Nat) (places : List Places) :
    (pairUp width places).length = (places.length + 1) / 2 := by
  fun_induction pairUp width places with
  | case1 a b rest ih => simp only [List.length_cons, ih]; omega
  | case2 places h =>
    match places, h with
    | [], _ => rfl
    | [a], _ => simp
    | a :: b :: rest, h => exact absurd rfl (h a b rest)

theorem join_pairUp (width : Nat) (places : List Places) :
    join (2 * width) (pairUp width places) = join width places := by
  fun_induction pairUp width places with
  | case1 a b rest ih =>
    rw [join, join, join, ih, Nat.shiftLeft_or_distrib, ← Nat.shiftLeft_add, Nat.or_assoc,
      Nat.two_mul]
  | case2 places h =>
    match places, h with
    | [], _ => rfl
    | [a], _ => simp [join]
    | a :: b :: rest, h => exact absurd rfl (h a b rest)

theorem gather_eq_join (fuel width : Nat) (places : List Places) (h : places.length ≤ fuel) :
    gather fuel width places = join width places := by
  fun_induction gather fuel width places with
  | case1 => rfl
  | case2 => simp [join]
  | case3 => simp at h
  | case4 fuel width places hnil hone ih =>
    rw [ih, join_pairUp]
    have hlen : 2 ≤ places.length := by
      match places, hnil, hone with
      | [], h, _ => exact absurd rfl h
      | [a], _, h => exact absurd rfl (h a)
      | a :: b :: rest, _, _ => simp
    rw [length_pairUp]
    omega

theorem testBit_whose {α : Type} (p : α → Bool) (items : List α) (i : Nat) :
    (whose p items).testBit i = (items[i]?).any p := by
  rw [whose, gather_eq_join _ _ _ (by simp)]
  induction items generalizing i with
  | nil => simp [join]
  | cons a rest ih =>
    cases i with
    | zero => cases h : p a <;> simp [join, h]
    | succ i =>
      have hone : (p a).toNat.testBit (i + 1) = false := by
        cases p a <;> simp [Nat.testBit_succ]
      simp [join, ih, hone, Nat.testBit_shiftLeft]

variable {move : Places → Places} {R : Nat → Nat → Prop} {places seen new : Places} {j : Nat}

theorem testBit_step {admitted : Places} :
    (step admitted places).testBit j = true ↔
      ∃ i, places.testBit i = true ∧ admitted.testBit i = true ∧ j = i + 1 := by
  cases j with
  | zero => simp [step]
  | succ j => simp [step, Nat.testBit_shiftLeft]

theorem testBit_without (i : Nat) :
    (places.without seen).testBit i = true ↔ places.testBit i = true ∧ seen.testBit i = false := by
  simp only [without, Nat.testBit_xor, Nat.testBit_and]
  cases places.testBit i <;> cases seen.testBit i <;> simp

/-- Whether a move takes each place to those that a relation leads to. -/
def Follows (move : Places → Places) (R : Nat → Nat → Prop) : Prop :=
  ∀ places j, (move places).testBit j = true ↔ ∃ i, places.testBit i = true ∧ R i j

/-- A move that changes nothing may end the sequence early. -/
theorem after_eq_iterate (n : Nat) : after move n places = move^[n] places := by
  induction n generalizing places with
  | zero => rfl
  | succ n ih =>
    rw [after, Function.iterate_succ_apply]
    split
    · next hfix => rw [hfix, Function.iterate_fixed hfix]
    · exact ih

theorem Follows.after (h : Follows move R) (n : Nat) : Follows (after move n) (Repeats R n) := by
  induction n with
  | zero => intro places j; simp [Places.after, Repeats]
  | succ n ih =>
    intro places j
    rw [after_eq_iterate, Function.iterate_succ_apply, ← after_eq_iterate, ih]
    simp only [h places _, Repeats]
    constructor
    · rintro ⟨m, ⟨i, hi, him⟩, hm⟩
      exact ⟨i, hi, m, him, hm⟩
    · rintro ⟨i, hi, m, him, hm⟩
      exact ⟨m, ⟨i, hi, him⟩, hm⟩

/-- Steps from a set that no step leaves end in the set. -/
theorem testBit_of_repeats (hclosed : ∀ i k, seen.testBit i = true → R i k → seen.testBit k = true)
    {n i : Nat} (hi : seen.testBit i = true) (h : Repeats R n i j) : seen.testBit j = true := by
  induction n generalizing i with
  | zero => exact h ▸ hi
  | succ n ih =>
    obtain ⟨k, hik, hkj⟩ := h
    exact ih (hclosed i k hi hik) hkj

/-- The search for what can be reached goes on from the new places only. It loses nothing as long
as the others lead to places seen already. -/
theorem testBit_reach (h : Follows move R) (n : Nat)
    (hsub : ∀ i, new.testBit i = true → seen.testBit i = true)
    (hclosed : ∀ i k, seen.testBit i = true → new.testBit i = false → R i k →
      seen.testBit k = true) :
    (reach move n seen new).testBit j = true ↔
      ∃ m ≤ n, ∃ i, seen.testBit i = true ∧ Repeats R m i j := by
  induction n generalizing seen new with
  | zero => simp [reach, Repeats]
  | succ n ih =>
    let next := (move new).without seen
    have hnext (k : Nat) : next.testBit k = true ↔
        (∃ i, new.testBit i = true ∧ R i k) ∧ seen.testBit k = false := by
      rw [testBit_without, h]
    -- A step leads from what is seen to what is seen or next.
    have hstep (i k : Nat) (hi : seen.testBit i = true) (hik : R i k) :
        (seen ||| next).testBit k = true := by
      rw [Nat.testBit_or, Bool.or_eq_true]
      cases hs : seen.testBit k with
      | true => exact .inl rfl
      | false =>
        cases hn : new.testBit i with
        | true => exact .inr ((hnext k).2 ⟨⟨i, hn, hik⟩, hs⟩)
        | false => exact absurd (hclosed i k hi hn hik) (by simp [hs])
    rw [reach]
    split
    · next hzero =>
      have hclosed' (i k : Nat) (hi : seen.testBit i = true) (hik : R i k) :
          seen.testBit k = true := by
        have hk := hstep i k hi hik
        rwa [show next = 0 from hzero, Nat.or_zero] at hk
      constructor
      · exact fun hj => ⟨0, Nat.zero_le _, j, hj, rfl⟩
      · rintro ⟨m, -, i, hi, hr⟩
        exact testBit_of_repeats hclosed' hi hr
    · next hzero =>
      have hsub' (i : Nat) (hi : next.testBit i = true) : (seen ||| next).testBit i = true := by
        rw [Nat.testBit_or, hi, Bool.or_true]
      have hclosed' (i k : Nat) (hi : (seen ||| next).testBit i = true)
          (hn : next.testBit i = false) (hik : R i k) : (seen ||| next).testBit k = true := by
        rw [Nat.testBit_or, hn, Bool.or_false] at hi
        exact hstep i k hi hik
      rw [ih hsub' hclosed']
      constructor
      · rintro ⟨m, hm, i, hi, hr⟩
        rw [Nat.testBit_or, Bool.or_eq_true] at hi
        rcases hi with hi | hi
        · exact ⟨m, by omega, i, hi, hr⟩
        · obtain ⟨⟨k, hk, hki⟩, -⟩ := (hnext i).1 hi
          exact ⟨m + 1, by omega, k, hsub k hk, i, hki, hr⟩
      · rintro ⟨m, hm, i, hi, hr⟩
        cases m with
        | zero => exact ⟨0, Nat.zero_le _, i, by simp [hi], hr⟩
        | succ m =>
          obtain ⟨k, hik, hkj⟩ := hr
          exact ⟨m, by omega, k, hstep i k hi hik, hkj⟩

end Places

namespace Motion

open Places

variable {m : Motion} {ms : List Motion} {R S : Nat → Nat → Prop}

/-- Whether a motion takes each place to those that a relation leads to. -/
def Follows (m : Motion) (R : Nat → Nat → Prop) : Prop := Places.Follows m.apply R

theorem follows_step {admitted : Places} {p : Nat → Prop}
    (h : ∀ i, admitted.testBit i = true ↔ p i) :
    Follows ⟨Places.step admitted⟩ fun i j => p i ∧ j = i + 1 := by
  intro places j
  simp only [testBit_step, h]

theorem follows_admit {admitted : Places} {p : Nat → Prop}
    (h : ∀ i, admitted.testBit i = true ↔ p i) :
    Follows ⟨fun places => places &&& admitted⟩ fun i j => p i ∧ j = i := by
  intro places j
  rw [Nat.testBit_and, Bool.and_eq_true, h]
  constructor
  · exact fun ⟨hj, hp⟩ => ⟨j, hj, hp, rfl⟩
  · rintro ⟨i, hi, hp, rfl⟩
    exact ⟨hi, hp⟩

theorem follows_all_nil : Follows (all []) fun i j => j = i := by
  intro places j
  simp [all]

theorem Follows.all_cons (hm : m.Follows R) (hms : (all ms).Follows S) :
    (all (m :: ms)).Follows fun i j => ∃ k, R i k ∧ S k j := by
  intro places j
  have hcons : (all (m :: ms)).apply places = (all ms).apply (m.apply places) := rfl
  rw [hcons, hms]
  simp only [hm places _]
  constructor
  · rintro ⟨k, ⟨i, hi, hik⟩, hkj⟩
    exact ⟨i, hi, k, hik, hkj⟩
  · rintro ⟨i, hi, k, hik, hkj⟩
    exact ⟨k, ⟨i, hi, hik⟩, hkj⟩

theorem testBit_any (places : Places) (j : Nat) :
    ((any ms).apply places).testBit j = true ↔ ∃ m ∈ ms, (m.apply places).testBit j = true := by
  suffices ∀ seen : Places, (ms.foldl (fun p m => p ||| m.apply places) seen).testBit j = true ↔
      seen.testBit j = true ∨ ∃ m ∈ ms, (m.apply places).testBit j = true by
    simpa [any] using this 0
  induction ms with
  | nil => simp
  | cons m ms ih =>
    intro seen
    rw [List.foldl_cons, ih, Nat.testBit_or, Bool.or_eq_true, or_assoc]
    simp

theorem follows_any_nil : Follows (any []) fun _ _ => False := by
  intro places j
  simp [testBit_any]

theorem Follows.any_cons (hm : m.Follows R) (hms : (any ms).Follows S) :
    (any (m :: ms)).Follows fun i j => R i j ∨ S i j := by
  intro places j
  have h := hms places j
  rw [testBit_any] at h ⊢
  simp only [List.mem_cons, exists_eq_or_imp, h, hm places j]
  simp only [and_or_left, exists_or]

/-- Copies that stay where they are can be left out, so no more of them than the text has
characters are needed beyond the least number. -/
theorem Follows.repeated {length least : Nat} {most : Option Nat} (hm : m.Follows R)
    (hR : Forward length R) :
    (m.repeated (length + 1) least most).Follows fun i j =>
      ∃ n, least ≤ n ∧ (∀ k, most = some k → n ≤ max least k) ∧ Repeats R n i j := by
  intro places j
  rw [Motion.repeated]
  simp only
  rw [testBit_reach hm _ (fun _ h => h) fun i k hi hn => by simp [hi] at hn]
  simp only [hm.after least places _]
  constructor
  · rintro ⟨n, hn, k, ⟨i, hi, hik⟩, hkj⟩
    refine ⟨i, hi, least + n, by omega, fun limit h => ?_, Repeats.add.2 ⟨k, hik, hkj⟩⟩
    simp only [h, Option.map_some, Option.getD_some] at hn
    omega
  · rintro ⟨i, hi, n, hleast, hmost, hr⟩
    obtain ⟨n, rfl⟩ := Nat.exists_eq_add_of_le hleast
    obtain ⟨k, hik, hkj⟩ := Repeats.add.1 hr
    obtain ⟨n', hn', hlen, hkj⟩ := hR.shorten hkj
    refine ⟨n', ?_, k, ⟨i, hi, hik⟩, hkj⟩
    cases most with
    | none => simp only [Option.map_none, Option.getD_none]; omega
    | some limit =>
      have := hmost limit rfl
      simp only [Option.map_some, Option.getD_some]
      omega

end Motion

theorem contains_single {c d : Char} : (CharSet.single c).contains d.toNat = true ↔ d = c := by
  simp only [CharSet.single, CharSet.range, CharSet.contains, CharRange.contains, List.any_cons,
    List.any_nil, Bool.or_false, Bool.and_eq_true, decide_eq_true_eq]
  rw [← Char.toNat_inj]
  omega

namespace Sites

variable {s : String}

theorem testBit_before {set : CharSet} (i : Nat) : ((ofText s).before set).testBit i = true ↔
    ∃ c, s.toList[i]? = some c ∧ set.contains c.toNat = true := by
  rw [before, Places.testBit_whose, Option.any_eq_true]
  rfl

theorem getElem?_borders (i : Nat) : (ofText s).borders[i]? =
    if i ≤ s.toList.length then some (charBefore s.toList i, s.toList[i]?) else none := by
  have hbefore : (none :: s.toList.map some)[i]? =
      if i ≤ s.toList.length then some (charBefore s.toList i) else none := by
    cases i with
    | zero => simp [charBefore]
    | succ i =>
      rcases Nat.lt_or_ge i s.toList.length with h | h
      · simp [charBefore, h, Nat.succ_le_of_lt h]
      · rw [if_neg (Nat.not_le_of_lt (Nat.lt_succ_of_le h)), List.getElem?_cons_succ,
          List.getElem?_eq_none (by simpa using h)]
  have hafter : (s.toList.map some ++ [none])[i]? =
      if i ≤ s.toList.length then some s.toList[i]? else none := by
    rcases Nat.lt_trichotomy i s.toList.length with h | rfl | h
    · rw [if_pos (Nat.le_of_lt h), List.getElem?_append_left (by simpa using h), List.getElem?_map,
        List.getElem?_eq_getElem h, Option.map_some]
    · simp
    · rw [if_neg (Nat.not_le_of_lt h), List.getElem?_eq_none]
      simpa using Nat.succ_le_of_lt h
  rw [ofText, List.zip, List.getElem?_zipWith, hbefore, hafter]
  by_cases h : i ≤ s.toList.length
  · simp only [if_pos h]
  · simp only [if_neg h]

theorem testBit_all (i : Nat) : (ofText s).all.testBit i = true ↔ i ≤ s.toList.length := by
  rw [all, Places.testBit_whose, getElem?_borders]
  split <;> simp_all

theorem testBit_holding {a : Anchor} (i : Nat) : ((ofText s).holding a).testBit i = true ↔
    i ≤ s.toList.length ∧ a.holds (charBefore s.toList i) s.toList[i]? = true := by
  rw [holding, Places.testBit_whose, getElem?_borders]
  split <;> simp [*]

end Sites

namespace Expr

variable {text : List Char}

theorem cons_prefix_drop {c : Char} {cs : List Char} {i : Nat} :
    c :: cs <+: text.drop i ↔ text[i]? = some c ∧ cs <+: text.drop (i + 1) := by
  rcases Nat.lt_or_ge i text.length with h | h
  · rw [List.drop_eq_getElem_cons h, List.cons_prefix_cons, List.getElem?_eq_getElem h,
      Option.some_inj, eq_comm]
  · simp [List.drop_eq_nil_of_le h, List.getElem?_eq_none h]

mutual
/-- A match stays where it begins or leads on inside the text. -/
theorem forward_matches (text : List Char) (e : Expr) : Forward text.length (e.Matches text) := by
  cases e with
  | empty => exact fun i j h => .inl h
  | literal cs =>
    rintro i j ⟨h, rfl⟩
    have := h.length_le
    rw [List.length_drop] at this
    omega
  | set s =>
    rintro i j ⟨⟨c, hc, -⟩, rfl⟩
    have := (List.getElem?_eq_some_iff.1 hc).1
    omega
  | anchor a => exact fun i j h => .inl h.2
  | repetition body least most greedy =>
    rintro i j ⟨n, -, -, h⟩
    exact (forward_matches text body).repeats n i j h
  | capture index body => exact forward_matches text body
  | concat items => exact forward_matchInTurn text items
  | alternation branches => exact forward_matchesAny text branches
theorem forward_matchInTurn (text : List Char) (es : List Expr) :
    Forward text.length (MatchInTurn text es) := by
  cases es with
  | nil => exact fun i j h => .inl h
  | cons e rest => exact (forward_matches text e).comp (forward_matchInTurn text rest)
theorem forward_matchesAny (text : List Char) (es : List Expr) :
    Forward text.length (MatchesAny text es) := by
  cases es with
  | nil => exact fun i j h => h.elim
  | cons e rest =>
    rintro i j (h | h)
    · exact forward_matches text e i j h
    · exact forward_matchesAny text rest i j h
end

theorem lookup_map_self {α β : Type} [BEq α] [LawfulBEq α] {f : α → β} {a : α} {l : List α}
    (h : a ∈ l) : (l.map fun a => (a, f a)).lookup a = some (f a) := by
  induction l with
  | nil => cases h
  | cons b l ih =>
    rw [List.map_cons, List.lookup_cons]
    by_cases hb : a = b
    · simp [hb]
    · rw [beq_false_of_ne hb]
      exact ih ((List.mem_cons.1 h).resolve_left hb)

theorem follows_literal (s : String) (chars : List Char) :
    ((literal chars).motion (Sites.ofText s)).Follows ((literal chars).Matches s.toList) := by
  let sites := Sites.ofText s
  let admitted := chars.eraseDups.map fun c => (c, sites.before (.single c))
  have hlookup (c : Char) (hc : c ∈ chars) :
      (admitted.lookup c).getD 0 = sites.before (.single c) := by
    rw [lookup_map_self (List.mem_eraseDups.2 hc), Option.getD_some]
  have hmotion : (literal chars).motion sites =
      Motion.all (chars.map fun c => ⟨Places.step (sites.before (.single c))⟩) := by
    rw [motion]
    exact congrArg Motion.all (List.map_congr_left fun c hc => by rw [← hlookup c hc])
  rw [hmotion]
  clear hmotion hlookup
  induction chars with
  | nil =>
    intro places j
    simp [Motion.follows_all_nil places j, Matches]
  | cons c cs ih =>
    intro places j
    have hc : Motion.Follows ⟨Places.step (sites.before (.single c))⟩ _ :=
      Motion.follows_step Sites.testBit_before
    rw [List.map_cons, hc.all_cons ih]
    simp only [Matches, contains_single, cons_prefix_drop, List.length_cons]
    constructor
    · rintro ⟨i, hi, k, ⟨⟨d, hd, rfl⟩, rfl⟩, hcs, rfl⟩
      exact ⟨i, hi, ⟨hd, hcs⟩, by omega⟩
    · rintro ⟨i, hi, ⟨hd, hcs⟩, rfl⟩
      exact ⟨i, hi, i + 1, ⟨⟨c, hd, rfl⟩, rfl⟩, hcs, by omega⟩

mutual
/-- The motion of an expression leads from the start of each match to its end. Each constructor has
its lemma above. -/
theorem follows_motion (s : String) (e : Expr) :
    (e.motion (Sites.ofText s)).Follows (e.Matches s.toList) := by
  cases e with
  | empty => exact Motion.follows_all_nil
  | literal cs => exact follows_literal s cs
  | set t => exact Motion.follows_step Sites.testBit_before
  | anchor a => exact Motion.follows_admit Sites.testBit_holding
  | repetition body least most greedy =>
    exact (follows_motion s body).repeated (forward_matches s.toList body)
  | capture index body => exact follows_motion s body
  | concat items => exact follows_motions s items
  | alternation branches => exact follows_any_motions s branches
theorem follows_motions (s : String) (es : List Expr) :
    (Motion.all (motions (Sites.ofText s) es)).Follows (MatchInTurn s.toList es) := by
  cases es with
  | nil => exact Motion.follows_all_nil
  | cons e rest => exact (follows_motion s e).all_cons (follows_motions s rest)
theorem follows_any_motions (s : String) (es : List Expr) :
    (Motion.any (motions (Sites.ofText s) es)).Follows (MatchesAny s.toList es) := by
  cases es with
  | nil => exact Motion.follows_any_nil
  | cons e rest => exact (follows_motion s e).any_cons (follows_any_motions s rest)
end

/-- The search finds an expression in a text just when it matches between two of its places. -/
theorem isFoundIn_iff (e : Expr) (s : String) :
    e.isFoundIn s = true ↔ ∃ i ≤ s.toList.length, ∃ j, e.Matches s.toList i j := by
  rw [isFoundIn, bne_iff_ne]
  simp only [← Sites.testBit_all]
  constructor
  · intro h
    obtain ⟨j, hj⟩ := Nat.exists_testBit_of_ne_zero h
    obtain ⟨i, hi, he⟩ := (follows_motion s e _ j).1 hj
    exact ⟨i, hi, j, he⟩
  · rintro ⟨i, hi, j, he⟩ h
    have hj := (follows_motion s e _ j).2 ⟨i, hi, he⟩
    rw [h, Nat.zero_testBit] at hj
    cases hj

section InTurn
variable {i j : Nat} {e : Expr} {es fs : List Expr}

theorem matchInTurn_append :
    MatchInTurn text (es ++ fs) i j ↔ ∃ m, MatchInTurn text es i m ∧ MatchInTurn text fs m j := by
  induction es generalizing i with
  | nil => simp [MatchInTurn]
  | cons e es ih =>
    simp only [List.cons_append, MatchInTurn, ih]
    constructor
    · rintro ⟨k, he, m, hes, hfs⟩
      exact ⟨m, ⟨k, he, hes⟩, hfs⟩
    · rintro ⟨m, ⟨k, he, hes⟩, hfs⟩
      exact ⟨k, he, m, hes, hfs⟩

theorem matchInTurn_singleton : MatchInTurn text [e] i j ↔ e.Matches text i j := by
  simp [MatchInTurn]

theorem matchInTurn_items : MatchInTurn text e.items i j ↔ e.Matches text i j := by
  cases e <;> simp [items, MatchInTurn, Matches]

theorem matchInTurn_flatMap_items :
    MatchInTurn text (es.flatMap items) i j ↔ MatchInTurn text es i j := by
  induction es generalizing i with
  | nil => rfl
  | cons e es ih => simp only [List.flatMap_cons, matchInTurn_append, matchInTurn_items, ih,
      MatchInTurn]

theorem append_prefix_drop {cs ds : List Char} :
    cs ++ ds <+: text.drop i ↔ cs <+: text.drop i ∧ ds <+: text.drop (i + cs.length) := by
  induction cs generalizing i with
  | nil => simp
  | cons c cs ih =>
    rw [List.cons_append, cons_prefix_drop, cons_prefix_drop, ih, and_assoc, List.length_cons,
      Nat.add_assoc, Nat.add_comm 1]

theorem matches_literal_append {cs ds : List Char} : (literal (cs ++ ds)).Matches text i j ↔
    ∃ m, (literal cs).Matches text i m ∧ (literal ds).Matches text m j := by
  simp only [Matches, append_prefix_drop, List.length_append]
  constructor
  · rintro ⟨⟨hcs, hds⟩, rfl⟩
    exact ⟨_, ⟨hcs, rfl⟩, hds, by omega⟩
  · rintro ⟨m, ⟨hcs, rfl⟩, hds, rfl⟩
    exact ⟨⟨hcs, hds⟩, by omega⟩

theorem matchInTurn_joinLiterals :
    MatchInTurn text (joinLiterals es) i j ↔ MatchInTurn text es i j := by
  fun_induction joinLiterals es generalizing i with
  | case1 => rfl
  | case2 cs rest ds more heq ih =>
    rw [heq] at ih
    simp only [MatchInTurn, matches_literal_append, ← ih]
    constructor
    · rintro ⟨k, ⟨m, hcs, hds⟩, hmore⟩
      exact ⟨m, hcs, k, hds, hmore⟩
    · rintro ⟨m, hcs, k, hds, hmore⟩
      exact ⟨k, ⟨m, hcs, hds⟩, hmore⟩
  | case3 cs rest _ ih => simp only [MatchInTurn, ih]
  | case4 e rest _ ih => simp only [MatchInTurn, ih]

theorem matches_concatOf : (concatOf es).Matches text i j ↔ MatchInTurn text es i j := by
  rw [← matchInTurn_flatMap_items, ← matchInTurn_joinLiterals, concatOf]
  split
  · next h => rw [h]; rfl
  · next h => rw [h, matchInTurn_singleton]
  · rfl

theorem matches_textStart :
    (anchor .textStart).Matches text i j ↔ i = 0 ∧ j = 0 := by
  cases i with
  | zero => simp [Matches, Anchor.holds, charBefore]
  | succ i =>
    simp only [Matches, Anchor.holds, charBefore, Option.isNone_iff_eq_none,
      List.getElem?_eq_none_iff]
    omega

theorem matches_textEnd :
    (anchor .textEnd).Matches text i j ↔ i = text.length ∧ j = text.length := by
  simp only [Matches, Anchor.holds, Option.isNone_iff_eq_none, List.getElem?_eq_none_iff]
  omega

/-- Between the marks for the start and the end of the text, an expression is found just where it
matches the whole text. -/
theorem isFoundIn_anchored (e : Expr) (s : String) :
    (concatOf [.anchor .textStart, e, .anchor .textEnd]).isFoundIn s = true ↔
      e.MatchesWhole s := by
  rw [isFoundIn_iff, MatchesWhole]
  simp only [matches_concatOf, MatchInTurn, matches_textStart, matches_textEnd]
  constructor
  · rintro ⟨i, -, j, k, ⟨rfl, rfl⟩, m, he, n, ⟨rfl, rfl⟩, rfl⟩
    exact he
  · exact fun he => ⟨0, Nat.zero_le _, _, 0, ⟨rfl, rfl⟩, _, he, _, ⟨rfl, rfl⟩, rfl⟩

end InTurn

end Expr

end FormLogic.Pattern
