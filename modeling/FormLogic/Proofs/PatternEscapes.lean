import FormLogic.Proofs.PatternCursors
import Mathlib.Tactic.FinCases
import Mathlib.Tactic.SplitIfs

/-!
# Escapes, repetitions and groups before two endings

Each part of the parser reads the same at both cursors, as long as what it leaves is not shorter
than the first ending.
-/
namespace FormLogic.Pattern
namespace Parser

open Cursor

variable {text s s' t : List Char} {c c' d : Cursor} {ch : Char}

theorem length_bracedHex? {fuel : Nat} {digits : List Char} {a : Char}
    (h : bracedHex? fuel c digits = some (a, d)) : d.rest.length < c.rest.length := by
  fun_induction bracedHex? fuel c digits <;>
    grind [length_skip, length_skipTo, Option.map_eq_some_iff]

theorem length_fixedHex? {n : Nat} {digits : List Char} {a : Char}
    (h : fixedHex? n c digits = some (a, d)) : d.rest.length ≤ c.skip.rest.length := by
  fun_induction fixedHex? n c digits <;> grind [length_skip, Option.map_eq_some_iff]

theorem length_hexEscape? {n : Nat} {a : Char} (h : hexEscape? n c = some (a, d)) :
    d.rest.length ≤ c.skip.rest.length := by
  rw [hexEscape?] at h
  split at h
  · have := length_bracedHex? h
    grind
  · exact length_fixedHex? h

theorem length_propertyName? {fuel : Nat} {acc : List Char} {a : String}
    (h : propertyName? fuel c acc = some (a, d)) : d.rest.length < c.rest.length := by
  fun_induction propertyName? fuel c acc <;> grind [length_skip]

theorem length_propertyContent? {a : String} (h : propertyContent? c = some (a, d)) :
    d.rest.length < c.rest.length := by
  have := length_skip c
  rw [propertyContent?] at h
  split at h
  · cases h
  · have := length_propertyName? h
    grind
  · grind [length_skipTo]

theorem length_boundaryName? {fuel : Nat} {acc : List Char} {a : String}
    (h : boundaryName? fuel c acc = some (a, d)) : d.rest.length < c.rest.length := by
  fun_induction boundaryName? fuel c acc <;> grind [length_skipTo]

theorem length_boundary? {a : Boundary} (h : boundary? c = some (a, d)) :
    d.rest.length ≤ c.rest.length := by
  rw [boundary?] at h
  grind [length_skipTo, → length_boundaryName?]

/-- An escape that is neither a code nor a property nor the boundary with names is one letter. -/
theorem escape?_letter (hch : ch ∉ ['x', 'u', 'U', 'p', 'P', 'b']) : ∃ term? : Option Term,
    ∀ c t, c.rest = ch :: t → escape? c = term?.map fun a => (a, c.withRest t) := by
  refine ⟨(escape? ⟨0, [ch], false, [], 0⟩).map (·.1), fun c t h => ?_⟩
  simp only [escape?, h]
  split <;> simp_all

theorem length_escape? {a : Term} (h : escape? c = some (a, d)) :
    d.rest.length < c.rest.length := by
  cases hr : c.rest with
  | nil => simp [escape?, hr] at h
  | cons ch t =>
    suffices d.rest.length ≤ t.length from Nat.lt_succ_of_le this
    by_cases hch : ch ∈ ['x', 'u', 'U', 'p', 'P', 'b']
    · simp only [escape?, hr] at h
      fin_cases hch <;> obtain ⟨⟨b, e⟩, hb, he⟩ := Option.map_eq_some_iff.1 h <;> cases he
      · exact Nat.le_trans (length_hexEscape? hb) (length_skip _)
      · exact Nat.le_trans (length_hexEscape? hb) (length_skip _)
      · exact Nat.le_trans (length_hexEscape? hb) (length_skip _)
      · exact Nat.le_of_lt (length_propertyContent? hb)
      · exact Nat.le_of_lt (length_propertyContent? hb)
      · exact length_boundary? hb
    · obtain ⟨term?, hterm⟩ := escape?_letter hch
      obtain ⟨b, hb, he⟩ := Option.map_eq_some_iff.1 (hterm c t hr ▸ h)
      cases he
      exact Nat.le_refl _

variable {fuel fuel' n : Nat}

theorem bracedHex?_alike (he : Endings s s') {digits : List Char} {a : Char}
    (h : Alike text s s' c c') (hc : bracedHex? fuel c digits = some (a, d))
    (hs : s.length ≤ d.rest.length) (hf : c'.rest.length < fuel') :
    ∃ d', bracedHex? fuel' c' digits = some (a, d') ∧ Alike text s s' d d' := by
  fun_induction bracedHex? fuel c digits generalizing fuel' c' with
  | case1 => cases hc
  | case2 => cases hc
  | case3 fuel c digits rest hr =>
    obtain ⟨b, hb, hd⟩ := Option.map_eq_some_iff.1 hc
    cases hd
    obtain ⟨t', hr', -, ht⟩ := h.read he hr (Nat.le_trans hs (length_skipTo c rest))
    obtain ⟨fuel', rfl⟩ := Nat.exists_eq_succ_of_ne_zero (by omega : fuel' ≠ 0)
    simp only [bracedHex?, hr', hb]
    exact ⟨_, rfl, ht.skip he hs⟩
  | case4 fuel c digits ch rest hne hr hhex ih =>
    have hle := Nat.le_of_lt (length_bracedHex? hc)
    obtain ⟨t', hr', hlt, ht⟩ := h.read he hr (Nat.le_trans hs hle)
    obtain ⟨fuel', rfl⟩ := Nat.exists_eq_succ_of_ne_zero (by omega : fuel' ≠ 0)
    simp only [bracedHex?, hr', hhex, if_true]
    exact ih ht hc (Nat.lt_of_lt_of_le hlt (Nat.le_of_lt_succ hf))
  | case5 => cases hc

theorem fixedHex?_alike (he : Endings s s') {digits : List Char} {a : Char}
    (h : Alike text s s' c c') (hc : fixedHex? n c digits = some (a, d))
    (hs : s.length ≤ d.rest.length) :
    ∃ d', fixedHex? n c' digits = some (a, d') ∧ Alike text s s' d d' := by
  fun_induction fixedHex? n c digits generalizing c' with
  | case1 c digits =>
    obtain ⟨b, hb, hd⟩ := Option.map_eq_some_iff.1 hc
    cases hd
    rw [fixedHex?, hb]
    exact ⟨_, rfl, h.skip he hs⟩
  | case2 => cases hc
  | case3 n c digits ch rest hr hhex ih =>
    obtain ⟨t', hr', -, ht⟩ := h.read he hr
      (Nat.le_trans hs (Nat.le_trans (length_fixedHex? hc) (length_skip _)))
    simp only [fixedHex?, hr', hhex, if_true]
    exact ih ht hc
  | case4 => cases hc

theorem hexEscape?_of_cons (h : c.skip.rest = '\x7b' :: t) :
    hexEscape? n c = bracedHex? (c.size + 1) (c.withRest t) [] := by
  simp only [hexEscape?, h]

theorem hexEscape?_of_ne_cons (h : ∀ t, c.skip.rest ≠ '\x7b' :: t) :
    hexEscape? n c = fixedHex? n c [] := by
  rw [hexEscape?]
  split
  · next t ht => exact absurd ht (h t)
  · rfl

theorem hexEscape?_alike (he : Endings s s') {a : Char}
    (h : Alike text s s' c c') (hc : hexEscape? n c = some (a, d)) (hs : s.length ≤ d.rest.length) :
    ∃ d', hexEscape? n c' = some (a, d') ∧ Alike text s s' d d' := by
  have hskip := h.skip he (Nat.le_trans hs (length_hexEscape? hc))
  rcases hskip.both_or_neither he '\x7b' (by decide) with ⟨t, t', hr, hr', ht⟩ | ⟨hne, hne'⟩
  · rw [skip_withRest, skip_withRest] at ht
    rw [hexEscape?_of_cons hr] at hc
    rw [hexEscape?_of_cons hr']
    exact bracedHex?_alike he ht hc hs (Nat.lt_succ_of_le ht.fits')
  · rw [hexEscape?_of_ne_cons hne] at hc
    rw [hexEscape?_of_ne_cons hne']
    exact fixedHex?_alike he h hc hs

theorem propertyName?_alike (he : Endings s s') {acc : List Char} {a : String}
    (h : Alike text s s' c c') (hc : propertyName? fuel c acc = some (a, d))
    (hs : s.length ≤ d.rest.length) (hf : c'.rest.length < fuel') :
    ∃ d', propertyName? fuel' c' acc = some (a, d') ∧ Alike text s s' d d' := by
  fun_induction propertyName? fuel c acc generalizing fuel' c' with
  | case1 => cases hc
  | case2 => cases hc
  | case3 fuel c acc rest hr =>
    cases hc
    obtain ⟨t', hr', -, ht⟩ := h.read he hr hs
    obtain ⟨fuel', rfl⟩ := Nat.exists_eq_succ_of_ne_zero (by omega : fuel' ≠ 0)
    simp only [propertyName?, hr']
    exact ⟨_, rfl, ht⟩
  | case4 fuel c acc ch rest hne hr ih =>
    have hlt := length_propertyName? hc
    obtain ⟨t', hr', hlt', ht⟩ := h.read he hr (Nat.le_trans hs (Nat.le_of_lt hlt))
    obtain ⟨fuel', rfl⟩ := Nat.exists_eq_succ_of_ne_zero (by omega : fuel' ≠ 0)
    simp only [propertyName?, hr']
    exact ih ht hc (Nat.lt_of_lt_of_le hlt' (Nat.le_of_lt_succ hf))

theorem propertyContent?_alike (he : Endings s s') {a : String}
    (h : Alike text s s' c c') (hc : propertyContent? c = some (a, d))
    (hs : s.length ≤ d.rest.length) :
    ∃ d', propertyContent? c' = some (a, d') ∧ Alike text s s' d d' := by
  rw [propertyContent?] at hc
  split at hc
  · cases hc
  · next rest hr =>
    have hlt := length_propertyName? hc
    obtain ⟨t', hr', -, ht⟩ := h.read he hr (Nat.le_trans hs (Nat.le_of_lt hlt))
    simp only [propertyContent?, hr']
    exact propertyName?_alike he ht hc hs (Nat.lt_succ_of_le ht.fits')
  · next ch rest hne hr =>
    split at hc
    · cases hc
    · next hslash =>
      cases hc
      obtain ⟨t', hr', -, ht⟩ := h.read he hr (Nat.le_trans hs (c.length_skipTo rest))
      simp only [propertyContent?, hr', if_neg hslash]
      exact ⟨_, rfl, ht.skip he hs⟩

theorem boundaryName?_alike (he : Endings s s') {acc : List Char} {a : String}
    (h : Alike text s s' c c') (hc : boundaryName? fuel c acc = some (a, d))
    (hs : s.length ≤ d.rest.length) (hf : c'.rest.length < fuel') :
    ∃ d', boundaryName? fuel' c' acc = some (a, d') ∧ Alike text s s' d d' := by
  fun_induction boundaryName? fuel c acc generalizing fuel' c' with
  | case1 => cases hc
  | case2 fuel c acc rest hr =>
    cases hc
    obtain ⟨t', hr', -, ht⟩ := h.step hr hs
    obtain ⟨fuel', rfl⟩ := Nat.exists_eq_succ_of_ne_zero (by omega : fuel' ≠ 0)
    simp only [boundaryName?, hr']
    exact ⟨_, rfl, ht⟩
  | case3 fuel c acc ch rest hne hr hname ih =>
    have hlt := length_boundaryName? hc
    obtain ⟨t', hr', hlt', ht⟩ := h.stepTo he hr (Nat.le_trans hs (Nat.le_of_lt hlt))
    obtain ⟨fuel', rfl⟩ := Nat.exists_eq_succ_of_ne_zero (by omega : fuel' ≠ 0)
    simp only [boundaryName?, hr', if_pos hname]
    exact ih ht hc (by have := c'.length_skipTo t'; omega)
  | case4 => cases hc
  | case5 => cases hc

/-- What stops the parser before the ending: an opening brace with nothing after it that is read
there. A repetition would need a number. -/
def Stuck (s : List Char) (d : Cursor) : Prop :=
  ∃ t, d.rest = '\x7b' :: t ∧ ((d.skipTo t).rest.length < s.length ∨ AtClose (d.skipTo t).rest)

theorem boundary?_of_ne_cons (h : ∀ t, c.rest ≠ '\x7b' :: t) : boundary? c = some (.word, c) := by
  rw [boundary?]
  split
  · next t ht => exact absurd ht (h t)
  · rfl

theorem boundary?_alike (he : Endings s s') {b : Boundary}
    (h : Alike text s s' c c') (hc : boundary? c = some (b, d)) (hs : s.length ≤ d.rest.length) :
    (∃ d', boundary? c' = some (b, d') ∧ Alike text s s' d d') ∨ (b = .word ∧ Stuck s d) := by
  rcases h.both_or_neither he '\x7b' (by decide) with ⟨rest, rest', hr, hr', hrest⟩ | ⟨hne, hne'⟩
  · simp only [boundary?, hr] at hc
    split at hc
    · cases hc
    · next ch u hu =>
      split_ifs at hc with hname
      · have hbraced (name : String)
            (hn : boundaryName? (c.size + 1) (c.skipTo rest) [] = some (name, d)) :
            ∃ u' d', (c'.skipTo rest').rest = ch :: u' ∧
              boundaryName? (c'.size + 1) (c'.skipTo rest') [] = some (name, d') ∧
              Alike text s s' d d' := by
          have hlt := length_boundaryName? hn
          have hinner : Alike text s s' (c.skipTo rest) (c'.skipTo rest') :=
            hrest.skip he (Nat.le_trans hs (Nat.le_of_lt hlt))
          rw [hu, List.length_cons] at hlt
          obtain ⟨u', hu', -⟩ := hinner.step hu (Nat.le_trans hs (Nat.le_of_lt_succ hlt))
          obtain ⟨d', hn', hd⟩ := boundaryName?_alike he hinner hn hs
            (Nat.lt_succ_of_le (size_skipTo c' rest' ▸ hinner.fits'))
          exact ⟨u', d', hu', hn', hd⟩
        split at hc <;> cases hc <;> next hn =>
          obtain ⟨u', d', hu', hn', hd⟩ := hbraced _ hn
          refine .inl ⟨d', ?_, hd⟩
          simp only [boundary?, hr', hu', if_pos hname, hn']
      · cases hc
        rcases Nat.lt_or_ge (c.skipTo rest).rest.length s.length with hlt | hge
        · exact .inr ⟨rfl, rest, hr, .inl hlt⟩
        · have hinner : Alike text s s' (c.skipTo rest) (c'.skipTo rest') := hrest.skip he hge
          rcases hinner.rest.cases with ⟨ch', v, v', hv, hv', -⟩ | ⟨hend, -⟩ | ⟨hnil, -⟩
          · rw [hu] at hv
            cases hv
            refine .inl ⟨c', ?_, h⟩
            simp only [boundary?, hr', hv', if_neg hname]
          · exact .inr ⟨rfl, rest, hr, .inr (hend ▸ he.left)⟩
          · rw [hu] at hnil
            cases hnil
  · rw [boundary?_of_ne_cons hne] at hc
    cases hc
    exact .inl ⟨c', boundary?_of_ne_cons hne', h⟩

theorem Twin.head?_eq (h : Twin text s s' t t') (he : Endings s s') (hch : ch ≠ ')') :
    t'.head? = some ch ↔ t.head? = some ch := by
  simp only [List.head?_eq_some_iff]
  constructor
  · rintro ⟨u, rfl⟩
    obtain ⟨v, hv, -⟩ := h.symm.peek he.right hch
    exact ⟨v, hv⟩
  · rintro ⟨u, rfl⟩
    obtain ⟨v, hv, -⟩ := h.peek he.left hch
    exact ⟨v, hv⟩

theorem escape?_alike (he : Endings s s') {a : Term}
    (h : Alike text s s' c c') (hc : escape? c = some (a, d)) (hs : s.length ≤ d.rest.length) :
    (∃ d', escape? c' = some (a, d') ∧ Alike text s s' d d') ∨
      (a = .boundary .word ∧ Stuck s d) := by
  cases hr : c.rest with
  | nil => simp [escape?, hr] at hc
  | cons ch t =>
    have hlt := length_escape? hc
    rw [hr, List.length_cons] at hlt
    obtain ⟨t', hr', -, ht⟩ := h.step hr (Nat.le_trans hs (Nat.le_of_lt_succ hlt))
    by_cases hch : ch ∈ ['x', 'u', 'U', 'p', 'P', 'b']
    · simp only [escape?, hr] at hc
      fin_cases hch <;> obtain ⟨⟨b, e⟩, hb, hd⟩ := Option.map_eq_some_iff.1 hc <;> cases hd
      · obtain ⟨d', hb', hd⟩ := hexEscape?_alike he ht hb hs
        have hskip := ht.skip he (Nat.le_trans hs (length_hexEscape? hb))
        have hbyte : ((c'.withRest t').skip.rest.head? != some '\x7b') =
            ((c.withRest t).skip.rest.head? != some '\x7b') := by
          rw [Bool.eq_iff_iff, bne_iff_ne, bne_iff_ne]
          exact not_congr (hskip.rest.head?_eq he (by decide))
        exact .inl ⟨d', by simp only [escape?, hr', hb', Option.map_some, hbyte], hd⟩
      · obtain ⟨d', hb', hd⟩ := hexEscape?_alike he ht hb hs
        exact .inl ⟨d', by simp only [escape?, hr', hb', Option.map_some], hd⟩
      · obtain ⟨d', hb', hd⟩ := hexEscape?_alike he ht hb hs
        exact .inl ⟨d', by simp only [escape?, hr', hb', Option.map_some], hd⟩
      · obtain ⟨d', hb', hd⟩ := propertyContent?_alike he ht hb hs
        exact .inl ⟨d', by simp only [escape?, hr', hb', Option.map_some], hd⟩
      · obtain ⟨d', hb', hd⟩ := propertyContent?_alike he ht hb hs
        exact .inl ⟨d', by simp only [escape?, hr', hb', Option.map_some], hd⟩
      · rcases boundary?_alike he ht hb hs with ⟨d', hb', hd⟩ | ⟨rfl, hstuck⟩
        · exact .inl ⟨d', by simp only [escape?, hr', hb', Option.map_some], hd⟩
        · exact .inr ⟨rfl, hstuck⟩
    · obtain ⟨term?, hterm⟩ := escape?_letter hch
      rw [hterm c t hr] at hc
      obtain ⟨b, hb, hd⟩ := Option.map_eq_some_iff.1 hc
      cases hd
      exact .inl ⟨_, by rw [hterm c' t' hr', hb]; rfl, ht⟩

/-- No digit comes next. -/
def PastDigits (c : Cursor) : Prop := ∀ ch t, c.rest = ch :: t → ch.isDigit = false

theorem PastDigits.alike (hp : PastDigits c) (he : Endings s s') (h : Alike text s s' c c') :
    PastDigits c' := fun ch t hr' => eq_false_of_ne_true fun hd => by
  rcases h.both_or_neither he ch (by rintro rfl; cases hd) with ⟨t, -, hr, -⟩ | ⟨-, hne'⟩
  · rw [hp ch t hr] at hd
    cases hd
  · exact hne' t hr'

theorem decimalDigits_of_digit {value : Nat} (hr : c.rest = ch :: t) (hd : ch.isDigit = true) :
    decimalDigits (fuel + 1) c value =
      decimalDigits fuel (c.skipTo t) (10 * value + (ch.toNat - '0'.toNat)) := by
  simp only [decimalDigits, hr, hd, if_true]

theorem decimalDigits_of_pastDigits (hp : PastDigits c) (value : Nat) :
    decimalDigits fuel c value = (value, c) := by
  unfold decimalDigits
  split
  · rfl
  · split
    · rfl
    · next ch t hr => simp [hp ch t hr]

theorem length_decimalDigits (fuel : Nat) (c : Cursor) (value : Nat) :
    (decimalDigits fuel c value).2.rest.length ≤ c.rest.length := by
  fun_induction decimalDigits fuel c value <;> grind [length_skipTo]

/-- The endings have no digits, so both cursors read the same number. -/
theorem decimalDigits_alike (he : Endings s s') {value : Nat} (h : Alike text s s' c c')
    (hf : c.rest.length ≤ fuel) (hf' : c'.rest.length ≤ fuel')
    (hs : s.length ≤ (decimalDigits fuel c value).2.rest.length) :
    (decimalDigits fuel' c' value).1 = (decimalDigits fuel c value).1 ∧
      Alike text s s' (decimalDigits fuel c value).2 (decimalDigits fuel' c' value).2 := by
  induction fuel generalizing fuel' c c' value with
  | zero =>
    have hp : PastDigits c := fun ch t hr => by
      rw [List.eq_nil_of_length_eq_zero (Nat.le_zero.1 hf)] at hr
      cases hr
    rw [decimalDigits_of_pastDigits hp, decimalDigits_of_pastDigits (hp.alike he h)]
    exact ⟨rfl, h⟩
  | succ fuel ih =>
    by_cases hp : PastDigits c
    · rw [decimalDigits_of_pastDigits hp, decimalDigits_of_pastDigits (hp.alike he h)]
      exact ⟨rfl, h⟩
    · obtain ⟨ch, t, hr, hd⟩ : ∃ ch t, c.rest = ch :: t ∧ ch.isDigit = true := by
        simpa [PastDigits] using hp
      rw [decimalDigits_of_digit hr hd] at hs ⊢
      obtain ⟨t', hr', -, ht⟩ := h.stepTo he hr (Nat.le_trans hs (length_decimalDigits _ _ _))
      rw [hr, List.length_cons] at hf
      rw [hr', List.length_cons] at hf'
      obtain ⟨fuel', rfl⟩ := Nat.exists_eq_succ_of_ne_zero (by omega : fuel' ≠ 0)
      rw [decimalDigits_of_digit hr' hd]
      have hl := length_skipTo c t
      have hl' := length_skipTo c' t'
      exact ih ht (by omega) (by omega) hs

/-- The cursor after the blanks that come next. -/
def afterBlanks (c : Cursor) : Cursor := c.withRest (c.rest.dropWhile isBlankChar)

theorem length_afterBlanks (c : Cursor) : (afterBlanks c).rest.length ≤ c.rest.length :=
  (List.dropWhile_sublist _).length_le

theorem afterBlanks_alike (he : Endings s s') (h : Alike text s s' c c') :
    Alike text s s' (afterBlanks c) (afterBlanks c') :=
  h.withRest (h.rest.dropWhile he.left he.right (by decide)) (length_afterBlanks c)
    (length_afterBlanks c')

/-- The digits of a decimal number after the blanks before it. -/
def decimalRun (c : Cursor) : Nat × Cursor := decimalDigits (c.size + 1) (afterBlanks c) 0

theorem decimal?_eq_some_iff {n : Nat} : decimal? c = some (n, d) ↔
    (∃ ch t, (afterBlanks c).rest = ch :: t ∧ ch.isDigit = true) ∧
      (decimalRun c).1 = n ∧ n ≤ 0xFFFFFFFF ∧ d = afterBlanks (decimalRun c).2 := by
  have hrun : decimal? c = if ((afterBlanks c).rest.head?.map Char.isDigit).getD false ∧
      (decimalRun c).1 ≤ 0xFFFFFFFF then
        some ((decimalRun c).1, afterBlanks (decimalRun c).2) else none := rfl
  rw [hrun]
  cases (afterBlanks c).rest with
  | nil => simp
  | cons ch t =>
    rw [List.head?_cons, Option.map_some, Option.getD_some]
    constructor
    · intro h
      split_ifs at h with hd
      cases h
      exact ⟨⟨ch, t, rfl, hd.1⟩, rfl, hd.2, rfl⟩
    · rintro ⟨⟨ch, t, hcons, hdigit⟩, rfl, hle, rfl⟩
      cases hcons
      rw [if_pos ⟨hdigit, hle⟩]

theorem length_decimal? {n : Nat} (h : decimal? c = some (n, d)) :
    d.rest.length < c.rest.length := by
  obtain ⟨⟨ch, t, hstart, hdigit⟩, -, -, rfl⟩ := decimal?_eq_some_iff.1 h
  have hblanks := length_afterBlanks c
  rw [hstart, List.length_cons] at hblanks
  have hrun : (decimalRun c).2.rest.length ≤ t.length := by
    rw [decimalRun, decimalDigits_of_digit hstart hdigit]
    exact Nat.le_trans (length_decimalDigits _ _ _) (length_skipTo _ _)
  exact Nat.lt_of_le_of_lt (length_afterBlanks _) (Nat.lt_of_le_of_lt hrun hblanks)

theorem decimal?_alike (he : Endings s s') {n : Nat} (h : Alike text s s' c c')
    (hc : decimal? c = some (n, d)) (hs : s.length ≤ d.rest.length) :
    ∃ d', decimal? c' = some (n, d') ∧ Alike text s s' d d' := by
  obtain ⟨⟨ch, t, hstart, hdigit⟩, hvalue, hle, rfl⟩ := decimal?_eq_some_iff.1 hc
  have hblanks := afterBlanks_alike he h
  obtain ⟨t', hstart', -⟩ := (hstart ▸ hblanks.rest).peek he.left (by rintro rfl; cases hdigit)
  have hfits := Nat.le_succ_of_le hblanks.fits
  have hfits' := Nat.le_succ_of_le hblanks.fits'
  obtain ⟨hsame, hrun⟩ := decimalDigits_alike he hblanks hfits hfits'
    (Nat.le_trans hs (length_afterBlanks _))
  exact ⟨_, decimal?_eq_some_iff.2 ⟨⟨ch, t', hstart', hdigit⟩, hsame.trans hvalue, hle, rfl⟩,
    afterBlanks_alike he hrun⟩

/-- The bounds of a repetition: one number, or a number and a comma that a second number may
follow. -/
theorem bounds?_eq_some_iff {least : Nat} {most : Option Nat} :
    bounds? c = some (least, most, d) ↔ ∃ e, decimal? c.skip = some (least, e) ∧
      ((∃ t, e.rest = '\x7d' :: t ∧ most = some least ∧ d = e.withRest t) ∨
        ∃ t, e.rest = ',' :: t ∧
          ((∃ u, (e.skipTo t).rest = '\x7d' :: u ∧ most = none ∧ d = (e.skipTo t).withRest u) ∨
            ∃ m f u, decimal? (e.skipTo t) = some (m, f) ∧ f.rest = '\x7d' :: u ∧
              least ≤ m ∧ most = some m ∧ d = f.withRest u)) := by
  constructor
  · intro h
    obtain ⟨⟨n, e⟩, hn, h⟩ := Option.bind_eq_some_iff.1 h
    dsimp only at h
    split at h
    · next t ht =>
      cases h
      exact ⟨e, hn, .inl ⟨t, ht, rfl, rfl⟩⟩
    · next t ht =>
      split at h
      · next u hu =>
        cases h
        exact ⟨e, hn, .inr ⟨t, ht, .inl ⟨u, hu, rfl, rfl⟩⟩⟩
      · cases h
      · obtain ⟨⟨m, f⟩, hm, h⟩ := Option.bind_eq_some_iff.1 h
        dsimp only at h
        split at h
        · next u hu =>
          split_ifs at h with hle
          cases h
          exact ⟨e, hn, .inr ⟨t, ht, .inr ⟨m, f, u, hm, hu, hle, rfl, rfl⟩⟩⟩
        · cases h
    · cases h
  · rintro ⟨e, hn, ⟨t, ht, rfl, rfl⟩ |
      ⟨t, ht, ⟨u, hu, rfl, rfl⟩ | ⟨m, f, u, hm, hu, hle, rfl, rfl⟩⟩⟩
    · simp [bounds?, hn, ht]
    · simp [bounds?, hn, ht, hu]
    · obtain ⟨⟨ch, v, hstart, hdigit⟩, -⟩ := decimal?_eq_some_iff.1 hm
      rw [afterBlanks, rest_withRest] at hstart
      simp only [bounds?, hn, ht, Option.bind_eq_bind, Option.bind_some]
      split
      · next w hw =>
        rw [hw, List.dropWhile_cons_of_neg (by decide)] at hstart
        cases hstart
        exact absurd hdigit (by decide)
      · next hw => simp [hw] at hstart
      · simp [hm, hu, hle]

theorem length_bounds? {least : Nat} {most : Option Nat} (h : bounds? c = some (least, most, d)) :
    d.rest.length < c.skip.rest.length := by
  obtain ⟨e, hn, h⟩ := bounds?_eq_some_iff.1 h
  have hlt := length_decimal? hn
  rcases h with ⟨t, ht, -, rfl⟩ | ⟨t, ht, ⟨u, hu, -, rfl⟩ | ⟨m, f, u, hm, hu, -, -, rfl⟩⟩
  · grind
  · have := length_skipTo e t
    grind
  · have := length_skipTo e t
    have := length_decimal? hm
    grind

theorem bounds?_alike (he : Endings s s') {least : Nat} {most : Option Nat}
    (h : Alike text s s' c c') (hc : bounds? c = some (least, most, d))
    (hs : s.length ≤ d.rest.length) :
    ∃ d', bounds? c' = some (least, most, d') ∧ Alike text s s' d d' := by
  have hle := length_bounds? hc
  obtain ⟨e, hn, hcase⟩ := bounds?_eq_some_iff.1 hc
  have hskip : Alike text s s' c.skip c'.skip := h.skip he (by omega)
  simp only [bounds?_eq_some_iff]
  rcases hcase with ⟨t, ht, rfl, rfl⟩ |
    ⟨t, ht, ⟨u, hu, rfl, rfl⟩ | ⟨m, f, u, hm, hu, hlm, rfl, rfl⟩⟩
  · obtain ⟨e', hn', hee⟩ := decimal?_alike he hskip hn (by grind)
    obtain ⟨t', ht', -, htt⟩ := hee.step ht hs
    exact ⟨_, ⟨e', hn', .inl ⟨t', ht', rfl, rfl⟩⟩, htt⟩
  · have := length_skipTo e t
    obtain ⟨e', hn', hee⟩ := decimal?_alike he hskip hn (by grind)
    obtain ⟨t', ht', -, htt⟩ := hee.stepTo he ht (by grind)
    obtain ⟨u', hu', -, huu⟩ := htt.step hu hs
    exact ⟨_, ⟨e', hn', .inr ⟨t', ht', .inl ⟨u', hu', rfl, rfl⟩⟩⟩, huu⟩
  · have := length_skipTo e t
    have := length_decimal? hm
    obtain ⟨e', hn', hee⟩ := decimal?_alike he hskip hn (by grind)
    obtain ⟨t', ht', -, htt⟩ := hee.stepTo he ht (by grind)
    obtain ⟨f', hm', hff⟩ := decimal?_alike he htt hm (by grind)
    obtain ⟨u', hu', -, huu⟩ := hff.step hu hs
    exact ⟨_, ⟨e', hn', .inr ⟨t', ht', .inr ⟨m, f', u', hm', hu', hlm, rfl, rfl⟩⟩⟩, huu⟩

/-- The question mark after a repetition. -/
def lazyMark (c : Cursor) : Bool × Cursor :=
  match c.rest with
  | '?' :: rest => (true, c.withRest rest)
  | _ => (false, c)

theorem lazyMark_of_cons (h : c.rest = '?' :: t) : lazyMark c = (true, c.withRest t) := by
  simp only [lazyMark, h]

theorem lazyMark_of_ne_cons (h : ∀ t, c.rest ≠ '?' :: t) : lazyMark c = (false, c) := by
  rw [lazyMark]
  split
  · next t ht => exact absurd ht (h t)
  · rfl

theorem length_lazyMark (c : Cursor) : (lazyMark c).2.rest.length ≤ c.rest.length := by
  by_cases hr : ∃ t, c.rest = '?' :: t
  · obtain ⟨t, hr⟩ := hr
    simp [lazyMark_of_cons hr, hr]
  · rw [lazyMark_of_ne_cons (not_exists.1 hr)]

theorem lazyMark_alike (he : Endings s s') (h : Alike text s s' c c') :
    (lazyMark c').1 = (lazyMark c).1 ∧ Alike text s s' (lazyMark c).2 (lazyMark c').2 := by
  rcases h.both_or_neither he '?' (by decide) with ⟨t, t', hr, hr', ht⟩ | ⟨hne, hne'⟩
  · rw [lazyMark_of_cons hr, lazyMark_of_cons hr']
    exact ⟨rfl, ht⟩
  · rw [lazyMark_of_ne_cons hne, lazyMark_of_ne_cons hne']
    exact ⟨rfl, h⟩

theorem repeatLast?_eq (items : List Term) (least : Nat) (most : Option Nat) (c : Cursor) :
    repeatLast? items least most c = match items with
      | [] | .empty :: _ | .flags _ :: _ => none
      | t :: rest =>
        some (Term.repetition t least most (lazyMark c).1 :: rest, (lazyMark c).2) := rfl

theorem length_repeatLast? {items result : List Term} {least : Nat} {most : Option Nat}
    (h : repeatLast? items least most c = some (result, d)) : d.rest.length ≤ c.rest.length := by
  rw [repeatLast?_eq] at h
  split at h <;> cases h
  exact length_lazyMark c

theorem repeatLast?_alike (he : Endings s s') {items result : List Term} {least : Nat}
    {most : Option Nat} (h : Alike text s s' c c')
    (hc : repeatLast? items least most c = some (result, d)) :
    ∃ d', repeatLast? items least most c' = some (result, d') ∧ Alike text s s' d d' := by
  rw [repeatLast?_eq] at hc ⊢
  split at hc <;> cases hc
  obtain ⟨hlazy, hmark⟩ := lazyMark_alike he h
  exact ⟨_, by rw [hlazy], hmark⟩

theorem length_flags? {enabled dangling : Bool} {acc result : List FlagSetting} {r q : List Char}
    (h : flags? enabled dangling acc r = some (result, q)) : q.length ≤ r.length := by
  fun_induction flags? enabled dangling acc r <;> grind

/-- Flags end at a colon or a closing parenthesis, so they are read alike if there is more to read
than the ending. -/
theorem flags?_twin {enabled dangling : Bool} {acc result : List FlagSetting}
    {r r' q : List Char} (h : Twin text s s' r r')
    (hr : flags? enabled dangling acc r = some (result, q)) (hs : s.length < q.length) :
    ∃ q', flags? enabled dangling acc r' = some (result, q') ∧ Twin text s s' q q' := by
  fun_induction flags? enabled dangling acc r generalizing r' with
  | case1 => cases hr
  | case2 => cases hr
  | case3 enabled dangling acc c rest hend hdangling =>
    cases hr
    obtain ⟨t', rfl, ht⟩ := h.uncons (Nat.le_of_lt_succ hs)
    exact ⟨c :: t', by simp only [flags?, if_pos hend, if_neg hdangling], h⟩
  | case4 dangling acc rest hend ih =>
    have := length_flags? hr
    obtain ⟨t', rfl, ht⟩ := h.uncons (by omega)
    simp only [flags?, if_neg hend, if_true]
    exact ih ht hr
  | case5 => cases hr
  | case6 enabled dangling acc c rest hend hminus hflag ih =>
    have := length_flags? hr
    obtain ⟨t', rfl, ht⟩ := h.uncons (by omega)
    simp only [flags?, if_neg hend, if_neg hminus, if_pos hflag]
    exact ih ht hr
  | case7 => cases hr

/-- Several characters before the ending. -/
theorem Twin.append {x r q : List Char} (h : Twin text s s' (x ++ q) r) (hs : s.length ≤ q.length) :
    ∃ q', r = x ++ q' ∧ Twin text s s' q q' := by
  induction x generalizing r with
  | nil => exact ⟨r, rfl, h⟩
  | cons c x ih =>
    obtain ⟨t', rfl, ht⟩ := h.uncons (by simp; omega)
    obtain ⟨q', rfl, hq⟩ := ih ht
    exact ⟨q', rfl, hq⟩

theorem span_bne_iff {r x q : List Char} {e : Char} :
    r = x ++ e :: q ∧ e ∉ x ↔
      (r.takeWhile fun c => c != e) = x ∧ (r.dropWhile fun c => c != e) = e :: q := by
  constructor
  · rintro ⟨rfl, hx⟩
    have hp : ∀ c ∈ x, (c != e) = true := fun c hc => bne_iff_ne.2 fun h => hx (h ▸ hc)
    rw [List.takeWhile_append_of_pos hp, List.dropWhile_append_of_pos hp]
    simp
  · rintro ⟨hx, hq⟩
    refine ⟨by rw [← hx, ← hq, List.takeWhile_append_dropWhile], fun he => ?_⟩
    have := List.all_eq_true.1 List.all_takeWhile e (hx ▸ he)
    simp at this

theorem dropWhile_bne_cons {r q : List Char} {c e : Char}
    (h : (r.dropWhile fun c => c != e) = c :: q) : c = e := by
  have := List.head?_dropWhile_not (fun c => c != e) r
  rw [h] at this
  simpa using this

/-- A group name ends at the first closing angle. -/
theorem groupName?_eq_some_iff {r q : List Char} {name : String} :
    groupName? r = some (name, q) ↔ (r = name.toList ++ '>' :: q ∧ '>' ∉ name.toList) ∧
      ∃ first more, name.toList = first :: more ∧
        isNameStart first = true ∧ more.all isNamePart = true := by
  rw [span_bne_iff, groupName?]
  constructor
  · intro h
    split at h
    · cases h
    · next e rest hrest =>
      cases dropWhile_bne_cons hrest
      split at h
      · cases h
      · next first more hname =>
        split_ifs at h with hvalid
        cases h
        rw [String.toList_ofList]
        exact ⟨⟨rfl, hrest⟩, first, more, hname, hvalid⟩
  · rintro ⟨⟨hname, hrest⟩, first, more, hcons, hvalid⟩
    rw [hrest, hname, hcons]
    simp only [if_pos hvalid, ← hcons, String.ofList_toList]

/-- The group that a name opens. -/
def named? (c : Cursor) (r : List Char) : Option (Opening × Cursor) := do
  let (name, rest) ← groupName? r
  if c.names.contains name then none
  else
    let captures := c.captures + 1
    some (.capture captures, { c with rest, names := name :: c.names, captures })

/-- What flags open: a group, or nothing if a closing parenthesis follows them. -/
def flagged? (c : Cursor) (r : List Char) : Option (Opening × Cursor) := do
  let (settings, rest) ← flags? true false [] r
  match rest with
  | ')' :: rest => if settings.isEmpty then none else some (.settings settings, c.withRest rest)
  | _ :: rest => some (.group settings, c.withRest rest)
  | [] => none

theorem opening?_eq : opening? c =
    match c.skip.rest with
    | '?' :: '=' :: _ | '?' :: '!' :: _ | '?' :: '<' :: '=' :: _ | '?' :: '<' :: '!' :: _ => none
    | '?' :: 'P' :: '<' :: rest => named? c.skip rest
    | '?' :: '<' :: rest => named? c.skip rest
    | '?' :: rest => flagged? c.skip rest
    | _ => some (.capture (c.skip.captures + 1), { c.skip with captures := c.skip.captures + 1 }) :=
  rfl

theorem named?_eq_some_iff {r : List Char} {o : Opening} : named? c r = some (o, d) ↔
    ∃ name q, groupName? r = some (name, q) ∧ name ∉ c.names ∧ o = .capture (c.captures + 1) ∧
      d = { c with rest := q, names := name :: c.names, captures := c.captures + 1 } := by
  constructor
  · intro h
    obtain ⟨⟨name, q⟩, hname, h⟩ := Option.bind_eq_some_iff.1 h
    dsimp only at h
    split_ifs at h with hnew
    cases h
    exact ⟨name, q, hname, by simpa using hnew, rfl, rfl⟩
  · rintro ⟨name, q, hname, hnew, rfl, rfl⟩
    simp [named?, hname, hnew]

theorem flagged?_eq_some_iff {r : List Char} {o : Opening} : flagged? c r = some (o, d) ↔
    ∃ settings e q, flags? true false [] r = some (settings, e :: q) ∧ d = c.withRest q ∧
      ((e = ')' ∧ settings ≠ [] ∧ o = .settings settings) ∨ (e ≠ ')' ∧ o = .group settings)) := by
  constructor
  · intro h
    obtain ⟨⟨settings, q⟩, hset, h⟩ := Option.bind_eq_some_iff.1 h
    dsimp only at h
    split at h
    · next q =>
      split_ifs at h with hempty
      cases h
      exact ⟨settings, ')', q, hset, rfl, .inl ⟨rfl, by simpa using hempty, rfl⟩⟩
    · next e q hne =>
      cases h
      exact ⟨settings, e, q, hset, rfl, .inr ⟨hne, rfl⟩⟩
    · cases h
  · rintro ⟨settings, e, q, hset, rfl, ⟨rfl, hempty, rfl⟩ | ⟨hne, rfl⟩⟩
    · simp [flagged?, hset, hempty]
    · simp [flagged?, hset]

theorem named?_alike {r r' : List Char} {o : Opening}
    (h : Alike text s s' (c.withRest r) (c'.withRest r')) (hc : named? c r = some (o, d))
    (hs : s.length ≤ d.rest.length) :
    ∃ d', named? c' r' = some (o, d') ∧ Alike text s s' d d' := by
  obtain ⟨name, q, hname, hnew, rfl, rfl⟩ := named?_eq_some_iff.1 hc
  obtain ⟨⟨hr, hangle⟩, hvalid⟩ := groupName?_eq_some_iff.1 hname
  have htwin : Twin text s s' (name.toList ++ '>' :: q) r' := hr ▸ h.rest
  obtain ⟨u, rfl, hu⟩ := htwin.append (Nat.le_succ_of_le hs)
  obtain ⟨q', rfl, hq⟩ := hu.uncons hs
  have hname' : groupName? (name.toList ++ '>' :: q') = some (name, q') :=
    groupName?_eq_some_iff.2 ⟨⟨rfl, hangle⟩, hvalid⟩
  refine ⟨_, named?_eq_some_iff.2 ⟨name, q', hname', ?_, ?_, rfl⟩, ?_⟩
  · exact h.names ▸ hnew
  · exact congrArg (fun n => Opening.capture (n + 1)) h.captures.symm
  · have hfits : r.length ≤ c.size := h.fits
    have hfits' : (name.toList ++ '>' :: q').length ≤ c'.size := h.fits'
    rw [hr] at hfits
    simp only [List.length_append, List.length_cons] at hfits hfits'
    exact ⟨hq, h.verbose, congrArg (name :: ·) h.names, congrArg (· + 1) h.captures,
      by dsimp only; omega, by dsimp only; omega⟩

theorem flagged?_alike {r r' : List Char} {o : Opening}
    (h : Alike text s s' (c.withRest r) (c'.withRest r')) (hc : flagged? c r = some (o, d))
    (hs : s.length ≤ d.rest.length) :
    ∃ d', flagged? c' r' = some (o, d') ∧ Alike text s s' d d' := by
  obtain ⟨settings, e, q, hset, rfl, ho⟩ := flagged?_eq_some_iff.1 hc
  obtain ⟨u, hset', hu⟩ := flags?_twin h.rest hset (Nat.lt_succ_of_le hs)
  obtain ⟨q', rfl, hq⟩ := hu.uncons hs
  refine ⟨_, flagged?_eq_some_iff.2 ⟨settings, e, q', hset', rfl, ho⟩, ?_⟩
  have hle := length_flags? hset
  have hle' := length_flags? hset'
  exact h.withRest (t := q) hq (Nat.le_of_succ_le hle) (Nat.le_of_succ_le hle')

theorem flags?_head {enabled dangling : Bool} {acc result : List FlagSetting} {r q : List Char}
    (h : flags? enabled dangling acc (ch :: r) = some (result, q)) :
    ch ∈ [':', ')', '-'] ∨ isFlag ch = true := by
  rw [flags?] at h
  grind

theorem Alike.append {x : List Char} (h : Alike text s s' c c') (hr : c.rest = x ++ t)
    (hs : s.length ≤ t.length) :
    ∃ t', c'.rest = x ++ t' ∧ Alike text s s' (c.withRest t) (c'.withRest t') := by
  obtain ⟨t', hr', ht⟩ := (hr ▸ h.rest).append hs
  exact ⟨t', hr', h.withRest ht (by simp [hr]) (by simp [hr'])⟩

theorem length_named? {r : List Char} {o : Opening} (h : named? c r = some (o, d)) :
    d.rest.length < r.length := by
  obtain ⟨name, q, hname, -, -, rfl⟩ := named?_eq_some_iff.1 h
  obtain ⟨⟨rfl, -⟩, -⟩ := groupName?_eq_some_iff.1 hname
  simp
  omega

theorem length_flagged? {r : List Char} {o : Opening} (h : flagged? c r = some (o, d)) :
    d.rest.length < r.length := by
  obtain ⟨settings, e, q, hset, rfl, -⟩ := flagged?_eq_some_iff.1 h
  exact length_flags? hset

theorem flagged?_head {r : List Char} {o : Opening} (h : flagged? c r = some (o, d)) :
    ∃ ch t, r = ch :: t ∧ (ch ∈ [':', ')', '-'] ∨ isFlag ch = true) := by
  obtain ⟨settings, e, q, hset, -⟩ := flagged?_eq_some_iff.1 h
  cases r with
  | nil => cases hset
  | cons ch t => exact ⟨ch, t, rfl, flags?_head hset⟩

section Opening
variable {r : List Char} {o : Opening}

theorem opening?_of_name (h : c.skip.rest = '?' :: '<' :: r) (heq : ∀ t, r ≠ '=' :: t)
    (hbang : ∀ t, r ≠ '!' :: t) : opening? c = named? c.skip r := by
  rw [opening?_eq, h]
  split <;> grind

theorem opening?_of_flags (h : c.skip.rest = '?' :: r) (hc : flagged? c.skip r = some (o, d)) :
    opening? c = some (o, d) := by
  obtain ⟨ch, t, rfl, hch⟩ := flagged?_head hc
  have hne (e : Char) (he : e ∈ ['=', '!', '<', 'P']) : ch ≠ e := by
    rintro rfl
    fin_cases he <;> exact absurd hch (by decide)
  rw [opening?_eq, h]
  split <;> simp_all

theorem opening?_of_ne_cons (h : ∀ t, c.skip.rest ≠ '?' :: t) : opening? c =
    some (.capture (c.skip.captures + 1), { c.skip with captures := c.skip.captures + 1 }) := by
  rw [opening?_eq]
  split <;> simp_all

end Opening

theorem length_opening? {o : Opening} (h : opening? c = some (o, d)) :
    d.rest.length ≤ c.skip.rest.length := by
  rw [opening?_eq] at h
  grind [→ length_named?, → length_flagged?]

theorem opening?_alike (he : Endings s s') {o : Opening} (h : Alike text s s' c c')
    (hc : opening? c = some (o, d)) (hs : s.length ≤ d.rest.length) :
    ∃ d', opening? c' = some (o, d') ∧ Alike text s s' d d' := by
  have hskip := h.skip he (Nat.le_trans hs (length_opening? hc))
  rw [opening?_eq] at hc
  split at hc
  · cases hc
  · cases hc
  · cases hc
  · cases hc
  · next rest hr =>
    have hlt := length_named? hc
    obtain ⟨rest', hr', ht⟩ := hskip.append (x := ['?', 'P', '<']) hr (by omega)
    obtain ⟨d', hd', hd⟩ := named?_alike ht hc hs
    exact ⟨d', by rw [opening?_eq, hr']; exact hd', hd⟩
  · next rest heq hbang hr =>
    have hlt := length_named? hc
    obtain ⟨rest', hr', ht⟩ := hskip.append (x := ['?', '<']) hr (by omega)
    obtain ⟨d', hd', hd⟩ := named?_alike ht hc hs
    have heq' := ht.rest.ne_cons he.right (by decide : '=' ≠ ')') heq
    have hbang' := ht.rest.ne_cons he.right (by decide : '!' ≠ ')') hbang
    exact ⟨d', (opening?_of_name hr' heq' hbang').trans hd', hd⟩
  · next rest _ _ _ _ _ _ hr =>
    have hlt := length_flagged? hc
    obtain ⟨rest', hr', ht⟩ := hskip.append (x := ['?']) hr (by omega)
    obtain ⟨d', hd', hd⟩ := flagged?_alike ht hc hs
    exact ⟨d', opening?_of_flags hr' hd', hd⟩
  · next hne =>
    cases hc
    have hne' := hskip.rest.ne_cons he.right (by decide : '?' ≠ ')') hne
    refine ⟨{ c'.skip with captures := c'.skip.captures + 1 }, ?_, ?_⟩
    · rw [opening?_of_ne_cons hne', hskip.captures]
    · exact ⟨hskip.rest, hskip.verbose, hskip.names, congrArg (· + 1) hskip.captures,
        hskip.fits, hskip.fits'⟩

end Parser
end FormLogic.Pattern
