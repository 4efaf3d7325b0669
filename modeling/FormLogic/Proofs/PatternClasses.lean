import FormLogic.Proofs.PatternEscapes

/-!
# Classes before two endings

The names and the operators of a class are fixed words, so what follows them does not matter. A
class ends at its closing bracket, and one that is read leaves the whole ending to be read.
-/
namespace FormLogic.Pattern
namespace Parser

open Cursor

variable {text s s' t : List Char} {c c' d : Cursor} {ch : Char} {fuel fuel' : Nat}

/-- Whether a reader recognises words without a closing parenthesis, whatever follows them. -/
def Spelled {α : Type} (f : List Char → Option (α × List Char)) : Prop :=
  ∀ r a q, f r = some (a, q) → ∃ word, ')' ∉ word ∧ r = word ++ q ∧
    ∀ q', f (word ++ q') = some (a, q')

theorem Twin.append_of_not_mem {x q r : List Char} (h : Twin text s s' (x ++ q) r) (hs : AtClose s)
    (hx : ')' ∉ x) : ∃ q', r = x ++ q' ∧ Twin text s s' q q' := by
  induction x generalizing r with
  | nil => exact ⟨r, rfl, h⟩
  | cons c x ih =>
    rw [List.mem_cons, not_or] at hx
    obtain ⟨t', rfl, ht⟩ := h.peek hs (Ne.symm hx.1)
    obtain ⟨q', rfl, hq⟩ := ih ht hx.2
    exact ⟨q', rfl, hq⟩

section Spelled
variable {α : Type} {f : List Char → Option (α × List Char)} {r r' q : List Char} {a : α}

theorem Spelled.reads (hf : Spelled f) (hs : AtClose s) (h : Twin text s s' r r')
    (hr : f r = some (a, q)) : ∃ q', f r' = some (a, q') ∧ Twin text s s' q q' := by
  obtain ⟨word, hword, rfl, hall⟩ := hf r a q hr
  obtain ⟨q', rfl, hq⟩ := h.append_of_not_mem hs hword
  exact ⟨q', hall q', hq⟩

theorem Spelled.fails (hf : Spelled f) (hs' : AtClose s') (h : Twin text s s' r r')
    (hr : f r = none) : f r' = none := by
  cases hr' : f r' with
  | none => rfl
  | some found =>
    obtain ⟨q, hq, -⟩ := hf.reads hs' h.symm hr'
    rw [hr] at hq
    cases hq

theorem Spelled.length (hf : Spelled f) (hr : f r = some (a, q)) : q.length ≤ r.length := by
  obtain ⟨word, -, rfl, -⟩ := hf r a q hr
  simp

end Spelled

/-- A class name up to its closing colon and bracket. -/
def className? (negated : Bool) (r : List Char) : Option (ClassTerm × List Char) :=
  let name := String.ofList (r.takeWhile fun c => c != ':')
  match r.dropWhile fun c => c != ':' with
  | ':' :: ']' :: rest =>
    if classNames.contains name then some (.named name negated, rest) else none
  | _ => none

theorem className?_eq_some_iff {negated : Bool} {r q : List Char} {a : ClassTerm} :
    className? negated r = some (a, q) ↔
      ∃ name ∈ classNames, r = name.toList ++ ':' :: ']' :: q ∧ a = .named name negated := by
  constructor
  · intro h
    rw [className?] at h
    split at h
    · next rest hrest =>
      split_ifs at h with hname
      cases h
      refine ⟨_, List.contains_iff_mem.1 hname, ?_, rfl⟩
      rw [String.toList_ofList, ← hrest, List.takeWhile_append_dropWhile]
    · cases h
  · rintro ⟨name, hname, hr, rfl⟩
    have hcolon : ∀ name ∈ classNames, ':' ∉ name.toList := by decide
    obtain ⟨htake, hdrop⟩ := span_bne_iff.1 ⟨hr, hcolon name hname⟩
    simp only [className?, htake, hdrop, String.ofList_toList,
      if_pos (List.contains_iff_mem.2 hname)]

/-- The caret that negates a class with a name. -/
def caretMark (r : List Char) : Bool × List Char :=
  match r with
  | '^' :: rest => (true, rest)
  | _ => (false, r)

theorem caretMark_of_ne_cons {r : List Char} (h : ∀ t, r ≠ '^' :: t) :
    caretMark r = (false, r) := by
  unfold caretMark
  split
  · next t => exact absurd rfl (h t)
  · rfl

theorem namedClass?_colon (r : List Char) :
    namedClass? (':' :: r) = className? (caretMark r).1 (caretMark r).2 := rfl

theorem namedClass?_of_ne_caret {r : List Char} (h : ∀ t, r ≠ '^' :: t) :
    namedClass? (':' :: r) = className? false r := by
  rw [namedClass?_colon, caretMark_of_ne_cons h]

theorem spelled_namedClass? : Spelled namedClass? := by
  intro r a q h
  have hclose : ∀ name ∈ classNames, ')' ∉ name.toList := by decide
  by_cases hcolon : ∃ t, r = ':' :: t
  · obtain ⟨r, rfl⟩ := hcolon
    by_cases hcaret : ∃ t, r = '^' :: t
    · obtain ⟨r, rfl⟩ := hcaret
      obtain ⟨name, hname, rfl, rfl⟩ := className?_eq_some_iff.1 h
      refine ⟨':' :: '^' :: name.toList ++ [':', ']'], by simp [hclose name hname], by simp,
        fun q' => className?_eq_some_iff.2 ⟨name, hname, by simp, rfl⟩⟩
    · rw [namedClass?_of_ne_caret (not_exists.1 hcaret)] at h
      obtain ⟨name, hname, rfl, rfl⟩ := className?_eq_some_iff.1 h
      refine ⟨':' :: name.toList ++ [':', ']'], by simp [hclose name hname], by simp,
        fun q' => ?_⟩
      have hletter : ∀ name ∈ classNames, name.toList.head?.or (some ':') ≠ some '^' := by
        decide
      have hne (t : List Char) : name.toList ++ ':' :: ']' :: q' ≠ '^' :: t := fun h =>
        hletter name hname (by simpa [List.head?_append] using congrArg List.head? h)
      rw [List.cons_append, List.cons_append, List.append_assoc]
      exact (namedClass?_of_ne_caret hne).trans (className?_eq_some_iff.2 ⟨name, hname, rfl, rfl⟩)
  · unfold namedClass? at h
    split at h
    · next rest => exact absurd ⟨rest, rfl⟩ hcolon
    · cases h

/-- The operators between the operands of a class. -/
def classOperator? : List Char → Option (SetOperation × List Char)
  | '&' :: '&' :: rest => some (.intersection, rest)
  | '-' :: '-' :: rest => some (.difference, rest)
  | '~' :: '~' :: rest => some (.symmetricDifference, rest)
  | _ => none

theorem spelled_classOperator? : Spelled classOperator? := by
  intro r a q h
  unfold classOperator? at h
  split at h <;> cases h
  · exact ⟨['&', '&'], by decide, rfl, fun _ => rfl⟩
  · exact ⟨['-', '-'], by decide, rfl, fun _ => rfl⟩
  · exact ⟨['~', '~'], by decide, rfl, fun _ => rfl⟩

theorem length_classOperator? {r q : List Char} {operation : SetOperation}
    (h : classOperator? r = some (operation, q)) : q.length < r.length := by
  unfold classOperator? at h
  split at h <;> cases h <;> simp only [List.length_cons] <;> omega

theorem length_classItem? {a : Term} (h : classItem? c = some (a, d)) :
    d.rest.length < c.rest.length := by
  rw [classItem?] at h
  grind [→ length_escape?]

theorem classItem?_alike (he : Endings s s') {a : Term}
    (h : Alike text s s' c c') (hc : classItem? c = some (a, d)) (hs : s.length ≤ d.rest.length) :
    (∃ d', classItem? c' = some (a, d') ∧ Alike text s s' d d') ∨
      (a = .boundary .word ∧ Stuck s d) := by
  rw [classItem?] at hc
  split at hc
  · cases hc
  · next rest hr =>
    have hlt := length_escape? hc
    obtain ⟨rest', hr', -, ht⟩ := h.step hr (Nat.le_trans hs (Nat.le_of_lt hlt))
    simp only [classItem?, hr']
    exact escape?_alike he ht hc hs
  · next ch rest hne hr =>
    cases hc
    obtain ⟨rest', hr', -, ht⟩ := h.step hr hs
    simp only [classItem?, hr']
    exact .inl ⟨_, rfl, ht⟩

/-- A hyphen begins no range before a closing bracket or another hyphen, and whether one of them
comes next does not depend on the ending. -/
theorem afterHyphen?_twin {r r' : List Char} {verbose : Bool} (h : Twin text s s' r r')
    (hs : AtClose s) (hs' : AtClose s') (hch : ch ∈ [']', '-'])
    (hr : afterHyphen? verbose r = some ch) : afterHyphen? verbose r' = some ch := by
  obtain ⟨hclose, hhash, hblank⟩ : ch ≠ ')' ∧ ch ≠ '#' ∧ isBlankChar ch = false := by
    fin_cases hch <;> decide
  cases verbose with
  | false =>
    obtain ⟨t, rfl⟩ := List.head?_eq_some_iff.1 hr
    obtain ⟨t', rfl, -⟩ := h.peek hs hclose
    rfl
  | true =>
    have hdrop := h.dropWhile hs hs' (by decide : isBlankChar ')' = false)
    -- If nothing decides after the blanks, the next character is none of the two.
    have hfirst (hhead : r.head? = some ch) : ∃ t, r.dropWhile isBlankChar = ch :: t := by
      obtain ⟨t, rfl⟩ := List.head?_eq_some_iff.1 hhead
      exact ⟨t, List.dropWhile_cons_of_neg (by simp [hblank])⟩
    unfold afterHyphen? at hr ⊢
    cases hu : r.dropWhile isBlankChar with
    | nil =>
      obtain ⟨t, ht⟩ := hfirst (by simpa [hu] using hr)
      rw [hu] at ht
      cases ht
    | cons x u =>
      rw [hu] at hr hdrop
      by_cases hx : x = '#'
      · subst hx
        obtain ⟨u', hu', htwin⟩ := hdrop.peek hs (by decide)
        cases hv : u.dropWhile isBlankChar with
        | nil =>
          obtain ⟨t, ht⟩ := hfirst (by simpa [hv] using hr)
          rw [hu] at ht
          exact absurd (List.cons.inj ht).1.symm hhash
        | cons y v =>
          have hy : y = ch := by simpa [hv] using hr
          have hdrop' := htwin.dropWhile hs hs' (by decide : isBlankChar ')' = false)
          rw [hv, hy] at hdrop'
          obtain ⟨v', hv', -⟩ := hdrop'.peek hs hclose
          simp [hu', hv']
      · have hx' : x = ch := by simpa [hx] using hr
        subst hx'
        obtain ⟨u', hu', -⟩ := hdrop.peek hs hclose
        simp [hu']

/-- One item, or two around a hyphen that begins a range. -/
theorem classRange?_eq_some_iff {a : ClassTerm} : classRange? c = some (a, d) ↔
    ∃ first e, classItem? c = some (first, e) ∧
      ((∃ t low b high b', e.skip.rest = '-' :: t ∧
          (∀ ch ∈ [']', '-'], afterHyphen? e.verbose t ≠ some ch) ∧
          first = .char low b ∧ classItem? (e.skipTo t) = some (.char high b', d) ∧
          low ≤ high ∧ a = .range low high) ∨
        (e.skip.rest ≠ [] ∧
          (∀ t, e.skip.rest = '-' :: t → ∃ ch ∈ [']', '-'], afterHyphen? e.verbose t = some ch) ∧
          classTerm? first = some a ∧ d = e.skip)) := by
  constructor
  · intro h
    obtain ⟨⟨first, e⟩, hfirst, h⟩ := Option.bind_eq_some_iff.1 h
    refine ⟨first, e, hfirst, ?_⟩
    dsimp only at h
    split at h
    · cases h
    · next t ht =>
      rw [verbose_skip] at h
      split at h
      · next hnext =>
        obtain ⟨b, hb, hd⟩ := Option.map_eq_some_iff.1 h
        cases hd
        exact .inr ⟨by simp [ht], fun u hu => ⟨']', by simp, by simp_all⟩, hb, rfl⟩
      · next hnext =>
        obtain ⟨b, hb, hd⟩ := Option.map_eq_some_iff.1 h
        cases hd
        exact .inr ⟨by simp [ht], fun u hu => ⟨'-', by simp, by simp_all⟩, hb, rfl⟩
      · next hbracket hhyphen =>
        obtain ⟨⟨last, f⟩, hlast, h⟩ := Option.bind_eq_some_iff.1 h
        dsimp only at h
        split at h
        · next low b high b' _ =>
          split_ifs at h with hle
          cases h
          rw [skip_skipTo] at hlast
          refine .inl ⟨t, low, b, high, b', ht, ?_, rfl, hlast, hle, rfl⟩
          simpa using ⟨hbracket, hhyphen⟩
        · cases h
    · next hne hcons =>
      obtain ⟨b, hb, hd⟩ := Option.map_eq_some_iff.1 h
      cases hd
      exact .inr ⟨hne, fun t ht => absurd ht (hcons t), hb, rfl⟩
  · rintro ⟨first, e, hfirst, ⟨t, low, b, high, b', ht, hafter, rfl, hlast, hle, rfl⟩ |
      ⟨hne, hafter, hterm, rfl⟩⟩
    · simp only [classRange?, hfirst, ht, Option.bind_eq_bind, Option.bind_some, verbose_skip,
        skip_skipTo, hlast]
      split
      · next hnext => exact absurd hnext (hafter ']' (by simp))
      · next hnext => exact absurd hnext (hafter '-' (by simp))
      · exact if_pos hle
    · simp only [classRange?, hfirst, Option.bind_eq_bind, Option.bind_some, verbose_skip, hterm,
        Option.map_some]
      split
      · next hnil => exact absurd hnil hne
      · next t ht =>
        obtain ⟨ch, hch, hnext⟩ := hafter t ht
        fin_cases hch <;> simp only [hnext]
      · rfl

theorem length_classRange? {a : ClassTerm} (h : classRange? c = some (a, d)) :
    d.rest.length < c.rest.length := by
  obtain ⟨first, e, hfirst, h⟩ := classRange?_eq_some_iff.1 h
  have hlt := length_classItem? hfirst
  have hskip := length_skip e
  rcases h with ⟨t, low, b, high, b', ht, -, -, hlast, -⟩ | ⟨-, -, -, rfl⟩
  · have := length_classItem? hlast
    have := length_skipTo e t
    rw [ht, List.length_cons] at hskip
    omega
  · omega

theorem classRange?_alike (he : Endings s s') {a : ClassTerm}
    (h : Alike text s s' c c') (hc : classRange? c = some (a, d)) (hs : s.length < d.rest.length) :
    ∃ d', classRange? c' = some (a, d') ∧ Alike text s s' d d' := by
  obtain ⟨first, e, hfirst, hcase⟩ := classRange?_eq_some_iff.1 hc
  have hskip := length_skip e
  simp only [classRange?_eq_some_iff]
  rcases hcase with ⟨t, low, b, high, b', ht, hafter, rfl, hlast, hlow, rfl⟩ |
      ⟨hne, hafter, hterm, rfl⟩
  · have := length_classItem? hlast
    have := length_skipTo e t
    rw [ht, List.length_cons] at hskip
    rcases classItem?_alike he h hfirst (by omega) with ⟨e', hfirst', hee⟩ | ⟨hword, -⟩
    · obtain ⟨t', ht', -, htt⟩ := hee.read he ht (by omega)
      have hle : s.length ≤ (e.skipTo t).rest.length := by omega
      have htail : Alike text s s' (e.skipTo t) (e'.skipTo t') := htt.skip he hle
      rcases classItem?_alike he htail hlast (Nat.le_of_lt hs) with ⟨d', hlast', hdd⟩ | ⟨hword, -⟩
      · refine ⟨d', ⟨_, e', hfirst', .inl ⟨t', low, b, high, b', ht', ?_, rfl, hlast', hlow, rfl⟩⟩,
          hdd⟩
        intro ch hch hnext
        rw [hee.verbose] at hnext
        exact hafter ch hch (afterHyphen?_twin htt.rest.symm he.right he.left hch hnext)
      · cases hword
    · cases hword
  · rcases classItem?_alike he h hfirst (by omega) with ⟨e', hfirst', hee⟩ | ⟨rfl, -⟩
    · have hsk := hee.skip he (Nat.le_of_lt hs)
      refine ⟨_, ⟨first, e', hfirst', .inr ⟨?_, ?_, hterm, rfl⟩⟩, hsk⟩
      · obtain ⟨ch, t, hcons⟩ := List.exists_cons_of_ne_nil hne
        rw [hcons, List.length_cons] at hs
        obtain ⟨t', hcons', -⟩ := hsk.step hcons (Nat.le_of_lt_succ hs)
        simp [hcons']
      · rcases hsk.both_or_neither he '-' (by decide) with ⟨t, t', ht, ht', htt⟩ | ⟨-, hnot⟩
        · intro u hu
          cases ht'.symm.trans hu
          obtain ⟨ch, hch, hnext⟩ := hafter t ht
          rw [hee.verbose]
          exact ⟨ch, hch, afterHyphen?_twin htt.rest he.left he.right hch hnext⟩
        · exact fun u hu => absurd hu (hnot u)
    · cases hterm

theorem length_leadingHyphens (fuel : Nat) (c : Cursor) (items : List ClassTerm) :
    (leadingHyphens fuel c items).2.rest.length ≤ c.rest.length := by
  fun_induction leadingHyphens fuel c items <;> grind [length_skipTo]

theorem leadingHyphens_of_ne_cons (h : ∀ t, c.rest ≠ '-' :: t) (items : List ClassTerm) :
    leadingHyphens fuel c items = (items, c) := by
  unfold leadingHyphens
  split
  · rfl
  · split
    · next t ht => exact absurd ht (h t)
    · rfl

theorem leadingHyphens_alike (he : Endings s s') {items : List ClassTerm}
    (h : Alike text s s' c c') (hf : c.rest.length ≤ fuel) (hf' : c'.rest.length ≤ fuel')
    (hs : s.length ≤ (leadingHyphens fuel c items).2.rest.length) :
    (leadingHyphens fuel' c' items).1 = (leadingHyphens fuel c items).1 ∧
      Alike text s s' (leadingHyphens fuel c items).2 (leadingHyphens fuel' c' items).2 := by
  induction fuel generalizing fuel' c c' items with
  | zero =>
    have hnil := List.eq_nil_of_length_eq_zero (Nat.le_zero.1 hf)
    rcases h.both_or_neither he '-' (by decide) with ⟨t, t', hr, -⟩ | ⟨hne, hne'⟩
    · rw [hnil] at hr
      cases hr
    · rw [leadingHyphens_of_ne_cons hne, leadingHyphens_of_ne_cons hne']
      exact ⟨rfl, h⟩
  | succ fuel ih =>
    rcases h.both_or_neither he '-' (by decide) with ⟨t, t', hr, hr', ht⟩ | ⟨hne, hne'⟩
    · rw [hr, List.length_cons] at hf
      rw [hr', List.length_cons] at hf'
      obtain ⟨fuel', rfl⟩ := Nat.exists_eq_succ_of_ne_zero (by omega : fuel' ≠ 0)
      simp only [leadingHyphens, hr, hr'] at hs ⊢
      have hlen := length_leadingHyphens fuel (c.skipTo t) (.char '-' :: items)
      have hl := length_skipTo c t
      have hl' := length_skipTo c' t'
      exact ih (ht.skip he (Nat.le_trans hs hlen)) (by omega) (by omega) hs
    · rw [leadingHyphens_of_ne_cons hne, leadingHyphens_of_ne_cons hne']
      exact ⟨rfl, h⟩

/-- The caret that negates a class. -/
def caret (c : Cursor) : Bool × Cursor :=
  match c.rest with
  | '^' :: rest => (true, c.skipTo rest)
  | _ => (false, c)

/-- A closing bracket that stands for itself. -/
def literalBracket (items : List ClassTerm) (c : Cursor) : List ClassTerm × Cursor :=
  match items, c.rest with
  | [], ']' :: rest => ([.char ']'], c.skipTo rest)
  | _, _ => (items, c)

theorem classOpening_eq (c : Cursor) : classOpening c =
    let hyphens := leadingHyphens (caret c.skip).2.size (caret c.skip).2 []
    ((caret c.skip).1, literalBracket hyphens.1 hyphens.2) := by
  have hopen : classOpening c =
      match (leadingHyphens (caret c.skip).2.size (caret c.skip).2 []).1,
        (leadingHyphens (caret c.skip).2.size (caret c.skip).2 []).2.rest with
      | [], ']' :: rest => ((caret c.skip).1, [.char ']'],
          (leadingHyphens (caret c.skip).2.size (caret c.skip).2 []).2.skipTo rest)
      | _, _ => ((caret c.skip).1, leadingHyphens (caret c.skip).2.size (caret c.skip).2 []) := rfl
  rw [hopen]
  generalize leadingHyphens (caret c.skip).2.size (caret c.skip).2 [] = hyphens
  obtain ⟨items, e⟩ := hyphens
  dsimp only
  unfold literalBracket
  split <;> simp_all

theorem caret_of_cons (h : c.rest = '^' :: t) : caret c = (true, c.skipTo t) := by
  simp only [caret, h]

theorem caret_of_ne_cons (h : ∀ t, c.rest ≠ '^' :: t) : caret c = (false, c) := by
  unfold caret
  split
  · next t ht => exact absurd ht (h t)
  · rfl

theorem length_caret (c : Cursor) : (caret c).2.rest.length ≤ c.rest.length := by
  unfold caret
  grind [length_skipTo]

theorem caret_alike (he : Endings s s') (h : Alike text s s' c c')
    (hs : s.length ≤ (caret c).2.rest.length) :
    (caret c').1 = (caret c).1 ∧ Alike text s s' (caret c).2 (caret c').2 := by
  rcases h.both_or_neither he '^' (by decide) with ⟨t, t', hr, hr', ht⟩ | ⟨hne, hne'⟩
  · rw [caret_of_cons hr] at hs ⊢
    rw [caret_of_cons hr']
    exact ⟨rfl, ht.skip he hs⟩
  · rw [caret_of_ne_cons hne, caret_of_ne_cons hne']
    exact ⟨rfl, h⟩

theorem literalBracket_of_ne_cons (h : ∀ t, c.rest ≠ ']' :: t) (items : List ClassTerm) :
    literalBracket items c = (items, c) := by
  unfold literalBracket
  split
  · next t ht => exact absurd ht (h t)
  · rfl

theorem length_literalBracket (items : List ClassTerm) (c : Cursor) :
    (literalBracket items c).2.rest.length ≤ c.rest.length := by
  unfold literalBracket
  grind [length_skipTo]

theorem literalBracket_alike (he : Endings s s') (h : Alike text s s' c c') (items : List ClassTerm)
    (hs : s.length ≤ (literalBracket items c).2.rest.length) :
    (literalBracket items c').1 = (literalBracket items c).1 ∧
      Alike text s s' (literalBracket items c).2 (literalBracket items c').2 := by
  rcases h.both_or_neither he ']' (by decide) with ⟨t, t', hr, hr', ht⟩ | ⟨hne, hne'⟩
  · cases items with
    | nil =>
      simp only [literalBracket, hr, hr'] at hs ⊢
      exact ⟨trivial, ht.skip he hs⟩
    | cons item items => exact ⟨rfl, h⟩
  · rw [literalBracket_of_ne_cons hne, literalBracket_of_ne_cons hne']
    exact ⟨rfl, h⟩

theorem length_classOpening (c : Cursor) :
    (classOpening c).2.2.rest.length ≤ c.rest.length := by
  rw [classOpening_eq]
  exact Nat.le_trans (length_literalBracket _ _) (Nat.le_trans (length_leadingHyphens _ _ _)
    (Nat.le_trans (length_caret _) (length_skip c)))

theorem classOpening_alike (he : Endings s s') (h : Alike text s s' c c')
    (hs : s.length ≤ (classOpening c).2.2.rest.length) :
    (classOpening c').1 = (classOpening c).1 ∧ (classOpening c').2.1 = (classOpening c).2.1 ∧
      Alike text s s' (classOpening c).2.2 (classOpening c').2.2 := by
  rw [classOpening_eq] at hs
  have hs₁ := Nat.le_trans hs (length_literalBracket _ _)
  have hs₂ := Nat.le_trans hs₁ (length_leadingHyphens _ _ _)
  have hs₃ := Nat.le_trans hs₂ (length_caret _)
  obtain ⟨hcaret, h₁⟩ := caret_alike he (h.skip he hs₃) hs₂
  obtain ⟨hitems, h₂⟩ := leadingHyphens_alike he h₁ h₁.fits h₁.fits' hs₁
  obtain ⟨hbracket, h₃⟩ := literalBracket_alike he h₂ _ hs
  rw [classOpening_eq, classOpening_eq]
  dsimp only
  rw [hitems]
  exact ⟨hcaret, hbracket, h₃⟩

section Body
variable {pending : Option (SetOperation × ClassTerm)} {items : List ClassTerm} {a : ClassTerm}

theorem classBody?_of_nil (h : c.skip.rest = []) : classBody? fuel c pending items = none := by
  cases fuel with
  | zero => rfl
  | succ fuel => simp only [classBody?, h]

theorem classBody?_of_close (h : c.skip.rest = ']' :: t) :
    classBody? (fuel + 1) c pending items = some (combined pending items, c.withRest t) := by
  simp only [classBody?, h, skip_withRest]

theorem classBody?_of_operator {r : List Char} {operation : SetOperation}
    (h : classOperator? c.skip.rest = some (operation, r)) :
    classBody? (fuel + 1) c pending items =
      classBody? fuel (c.withRest r) (some (operation, combined pending items)) [] := by
  unfold classOperator? at h
  split at h <;> cases h <;> next hr => simp only [classBody?, hr, skip_withRest]

theorem classBody?_of_named {named : ClassTerm} {r : List Char} (h : c.skip.rest = '[' :: t)
    (hn : namedClass? t = some (named, r)) : classBody? (fuel + 1) c pending items =
      classBody? fuel (c.withRest r) pending (named :: items) := by
  simp only [classBody?, h, hn, skip_withRest]

theorem classBody?_of_bracket (h : c.skip.rest = '[' :: t) (hn : namedClass? t = none) :
    classBody? (fuel + 1) c pending items =
      (classBody? fuel (classOpening (c.withRest t)).2.2 none
        (classOpening (c.withRest t)).2.1).bind fun (body, after) =>
          classBody? fuel after pending
            (.bracket (classOpening (c.withRest t)).1 body :: items) := by
  simp only [classBody?, h, hn, skip_withRest]
  cases classBody? fuel (classOpening (c.withRest t)).2.2 none (classOpening (c.withRest t)).2.1 <;>
    rfl

/-- Where neither a bracket nor an operator comes next. -/
structure AtItem (r : List Char) : Prop where
  ne_nil : r ≠ []
  ne_close : ∀ t, r ≠ ']' :: t
  ne_open : ∀ t, r ≠ '[' :: t
  no_operator : classOperator? r = none

theorem classBody?_of_item (h : AtItem c.skip.rest) : classBody? (fuel + 1) c pending items =
    (classRange? c.skip).bind fun (item, after) =>
      classBody? fuel after pending (item :: items) := by
  obtain ⟨hnil, hclose, hopen, ho⟩ := h
  rw [classBody?]
  split
  · next hr => exact absurd hr hnil
  · next t hr => exact absurd hr (hclose t)
  · next t hr =>
    rw [hr] at ho
    cases ho
  · next t hr =>
    rw [hr] at ho
    cases ho
  · next t hr =>
    rw [hr] at ho
    cases ho
  · next t hr => exact absurd hr (hopen t)
  · cases classRange? c.skip <;> rfl

theorem AtItem.twin {r r' : List Char} (h : AtItem r) (he : Endings s s') (hr : Twin text s s' r r')
    (hs : s.length < r.length) : AtItem r' where
  ne_nil := by
    obtain ⟨ch, t, rfl⟩ := List.exists_cons_of_ne_nil h.ne_nil
    obtain ⟨t', rfl, -⟩ := hr.uncons (Nat.le_of_lt_succ hs)
    simp
  ne_close := hr.ne_cons he.right (by decide) h.ne_close
  ne_open := hr.ne_cons he.right (by decide) h.ne_open
  no_operator := spelled_classOperator?.fails he.right hr h.no_operator

theorem class_next (r : List Char) : r = [] ∨ (∃ t, r = ']' :: t) ∨ (∃ t, r = '[' :: t) ∨
    (∃ operation q, classOperator? r = some (operation, q)) ∨ AtItem r := by
  by_cases hnil : r = []
  · exact .inl hnil
  by_cases hclose : ∃ t, r = ']' :: t
  · exact .inr (.inl hclose)
  by_cases hopen : ∃ t, r = '[' :: t
  · exact .inr (.inr (.inl hopen))
  cases ho : classOperator? r with
  | some found => exact .inr (.inr (.inr (.inl ⟨found.1, found.2, rfl⟩)))
  | none =>
    exact .inr (.inr (.inr (.inr ⟨hnil, not_exists.1 hclose, not_exists.1 hopen, ho⟩)))

theorem length_classBody? (h : classBody? fuel c pending items = some (a, d)) :
    d.rest.length < c.rest.length := by
  induction fuel generalizing c pending items a d with
  | zero => cases h
  | succ fuel ih =>
    have hskip := length_skip c
    rcases class_next c.skip.rest with hr | ⟨t, hr⟩ | ⟨t, hr⟩ | ⟨operation, r, ho⟩ | hitem
    · rw [classBody?_of_nil hr] at h
      cases h
    · rw [classBody?_of_close hr] at h
      cases h
      grind
    · rw [hr, List.length_cons] at hskip
      cases hn : namedClass? t with
      | some found =>
        have hlt := ih ((classBody?_of_named hr hn).symm.trans h)
        have hle := spelled_namedClass?.length hn
        rw [rest_withRest] at hlt
        omega
      | none =>
        rw [classBody?_of_bracket hr hn] at h
        obtain ⟨⟨body, e⟩, hbody, h⟩ := Option.bind_eq_some_iff.1 h
        have hopen := length_classOpening (c.withRest t)
        have hlt := ih hbody
        have hlt' := ih h
        rw [rest_withRest] at hopen
        omega
    · rw [classBody?_of_operator ho] at h
      have hlt := ih h
      have hle := length_classOperator? ho
      rw [rest_withRest] at hlt
      omega
    · rw [classBody?_of_item hitem] at h
      obtain ⟨⟨item, e⟩, hrange, h⟩ := Option.bind_eq_some_iff.1 h
      have hlt := length_classRange? hrange
      have hlt' := ih h
      omega

/-- The body of a class is read alike as long as its closing bracket stands before the ending. -/
theorem classBody?_alike (he : Endings s s') (h : Alike text s s' c c')
    (hc : classBody? fuel c pending items = some (a, d)) (hs : s.length ≤ d.rest.length)
    (hf : c'.rest.length < fuel') :
    ∃ d', classBody? fuel' c' pending items = some (a, d') ∧ Alike text s s' d d' := by
  induction fuel generalizing fuel' c c' pending items a d with
  | zero => cases hc
  | succ fuel ih =>
    obtain ⟨fuel', rfl⟩ := Nat.exists_eq_succ_of_ne_zero (by omega : fuel' ≠ 0)
    have hskip' := length_skip c'
    rcases class_next c.skip.rest with hr | ⟨t, hr⟩ | ⟨t, hr⟩ | ⟨operation, r, ho⟩ | hitem
    · rw [classBody?_of_nil hr] at hc
      cases hc
    · rw [classBody?_of_close hr] at hc
      cases hc
      obtain ⟨t', hr', -, ht⟩ := h.read he hr hs
      exact ⟨_, classBody?_of_close hr', ht⟩
    · cases hn : namedClass? t with
      | some found =>
        rw [classBody?_of_named hr hn] at hc
        have hlt := length_classBody? hc
        have hle := spelled_namedClass?.length hn
        rw [rest_withRest] at hlt
        obtain ⟨t', hr', hlt', ht⟩ := h.read he hr (by omega)
        obtain ⟨r', hn', hrr⟩ := spelled_namedClass?.reads he.left ht.rest hn
        have hle' := spelled_namedClass?.length hn'
        rw [classBody?_of_named hr' hn']
        refine ih (ht.withRest hrr hle hle') hc hs ?_
        rw [rest_withRest] at hle' ⊢
        omega
      | none =>
        rw [classBody?_of_bracket hr hn] at hc
        obtain ⟨⟨body, e⟩, hbody, hc⟩ := Option.bind_eq_some_iff.1 hc
        have hlen := length_classOpening (c.withRest t)
        have hlt₁ := length_classBody? hbody
        have hlt₂ := length_classBody? hc
        rw [rest_withRest] at hlen
        obtain ⟨t', hr', hlt', ht⟩ := h.read he hr (by omega)
        have hn' := spelled_namedClass?.fails he.right ht.rest hn
        have hlen' := length_classOpening (c'.withRest t')
        rw [rest_withRest] at hlen'
        obtain ⟨hneg, hfirst, hinner⟩ := classOpening_alike he ht (by omega)
        have hfuel : (classOpening (c'.withRest t')).2.2.rest.length < fuel' := by omega
        obtain ⟨e', hbody', hee⟩ := ih hinner hbody (by omega) hfuel
        have hlt₃ := length_classBody? hbody'
        obtain ⟨d', hc', hdd⟩ := ih hee hc hs (Nat.lt_trans hlt₃ hfuel)
        rw [classBody?_of_bracket hr' hn', hneg, hfirst, hbody']
        exact ⟨d', hc', hdd⟩
    · rw [classBody?_of_operator ho] at hc
      have hlt := length_classBody? hc
      have hle := length_classOperator? ho
      rw [rest_withRest] at hlt
      have hskip := h.skip he (by omega)
      obtain ⟨r', ho', hrr⟩ := spelled_classOperator?.reads he.left hskip.rest ho
      have hle' := length_classOperator? ho'
      rw [classBody?_of_operator ho']
      have hrest := hskip.withRest hrr (Nat.le_of_lt hle) (Nat.le_of_lt hle')
      rw [skip_withRest, skip_withRest] at hrest
      refine ih hrest hc hs ?_
      rw [rest_withRest]
      omega
    · rw [classBody?_of_item hitem] at hc
      obtain ⟨⟨item, e⟩, hrange, hc⟩ := Option.bind_eq_some_iff.1 hc
      have hlt₁ := length_classRange? hrange
      have hlt₂ := length_classBody? hc
      have hskip := h.skip he (by omega)
      have hitem' := hitem.twin he hskip.rest (by omega)
      obtain ⟨e', hrange', hee⟩ := classRange?_alike he hskip hrange (by omega)
      have hlt₃ := length_classRange? hrange'
      have hfuel : e'.rest.length < fuel' := by omega
      obtain ⟨d', hc', hdd⟩ := ih hee hc hs hfuel
      rw [classBody?_of_item hitem', hrange']
      exact ⟨d', hc', hdd⟩

end Body

end Parser
end FormLogic.Pattern
