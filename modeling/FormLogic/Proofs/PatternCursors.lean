import FormLogic.Pattern.Term.Reader
import Mathlib.Tactic.SplitIfs

/-!
# Cursors before two endings

The parser stops at the end of a text and at a closing parenthesis that no parenthesis before it
opens. Two texts that differ only from such a place on are read in step: the cursors see the same
characters until they come to the endings. A comment alone may tell them apart, since it goes on
past a closing parenthesis and ends with the text.
-/
namespace FormLogic.Pattern
namespace Parser

/-- Where a text ends, or a group around what was read before. -/
def AtClose (r : List Char) : Prop := r = [] ∨ ∃ t, r = ')' :: t

/-- Two endings at which reading can stop, and the second of which a comment would swallow if it
goes on to the end of the first. -/
structure Endings (s s' : List Char) : Prop where
  left : AtClose s
  right : AtClose s'
  line : s = [] → '\n' ∉ s'

/-- The same rest of a text before two endings, or nothing after a comment that swallowed the
ending. -/
def Twin (text s s' r r' : List Char) : Prop :=
  (∃ x, x <:+ text ∧ r = x ++ s ∧ r' = x ++ s') ∨ (r = [] ∧ r' = [])

section Twin
variable {text s s' r r' t : List Char} {c : Char}

theorem AtClose.ne_cons (h : AtClose r) (hc : c ≠ ')') (t : List Char) : r ≠ c :: t := by
  rintro rfl
  rcases h with h | ⟨u, h⟩
  · cases h
  · exact hc (List.cons.inj h).1

theorem Twin.append_endings {x : List Char} (hx : x <:+ text) (s s' : List Char) :
    Twin text s s' (x ++ s) (x ++ s') :=
  .inl ⟨x, hx, rfl, rfl⟩

theorem Twin.symm (h : Twin text s s' r r') : Twin text s' s r' r := by
  rcases h with ⟨x, hx, hr, hr'⟩ | ⟨hr, hr'⟩
  · exact .inl ⟨x, hx, hr', hr⟩
  · exact .inr ⟨hr', hr⟩

/-- Both texts begin alike, or both are at an end. -/
theorem Twin.cases (h : Twin text s s' r r') :
    (∃ c t t', r = c :: t ∧ r' = c :: t' ∧ Twin text s s' t t') ∨
      (r = s ∧ r' = s') ∨ (r = [] ∧ r' = []) := by
  rcases h with ⟨x, hx, rfl, rfl⟩ | h
  · cases x with
    | nil => exact .inr (.inl ⟨rfl, rfl⟩)
    | cons c x =>
      exact .inl ⟨c, _, _, rfl, rfl, .append_endings ((List.suffix_cons c x).trans hx) s s'⟩
  · exact .inr (.inr h)

/-- What stands before the ending is the same. -/
theorem Twin.uncons (h : Twin text s s' (c :: t) r') (hs : s.length ≤ t.length) :
    ∃ t', r' = c :: t' ∧ Twin text s s' t t' := by
  rcases h.cases with ⟨c', u, u', hu, hu', ht⟩ | ⟨rfl, -⟩ | ⟨hr, -⟩
  · cases hu
    exact ⟨u', hu', ht⟩
  · rw [List.length_cons] at hs
    omega
  · cases hr

/-- A character that closes nothing stands in the second text where it stands in the first. -/
theorem Twin.peek (h : Twin text s s' (c :: t) r') (hs : AtClose s) (hc : c ≠ ')') :
    ∃ t', r' = c :: t' ∧ Twin text s s' t t' := by
  rcases h.cases with ⟨c', u, u', hu, hu', ht⟩ | ⟨rfl, -⟩ | ⟨hr, -⟩
  · cases hu
    exact ⟨u', hu', ht⟩
  · exact absurd rfl (hs.ne_cons hc t)
  · cases hr

theorem Twin.ne_cons (h : Twin text s s' r r') (hs' : AtClose s') (hc : c ≠ ')')
    (hr : ∀ t, r ≠ c :: t) (t' : List Char) : r' ≠ c :: t' := by
  rintro rfl
  obtain ⟨t, ht, -⟩ := h.symm.peek hs' hc
  exact hr t ht

/-- Where the first text stops, the second one does. -/
theorem Twin.atClose (h : Twin text s s' r r') (hs' : AtClose s') (hr : AtClose r) :
    AtClose r' := by
  rcases h.cases with ⟨c, t, t', rfl, rfl, -⟩ | ⟨-, rfl⟩ | ⟨-, rfl⟩
  · rcases hr with hr | ⟨u, hr⟩
    · cases hr
    · exact .inr ⟨t', by rw [(List.cons.inj hr).1]⟩
  · exact hs'
  · exact .inl rfl

theorem Twin.dropWhile (h : Twin text s s' r r') (hs : AtClose s) (hs' : AtClose s')
    {p : Char → Bool} (hp : p ')' = false) : Twin text s s' (r.dropWhile p) (r'.dropWhile p) := by
  have hclose {q : List Char} (hq : AtClose q) : q.dropWhile p = q := by
    rcases hq with rfl | ⟨t, rfl⟩
    · rfl
    · simp [hp]
  rcases h with ⟨x, hx, rfl, rfl⟩ | ⟨rfl, rfl⟩
  · induction x with
    | nil => simpa [hclose hs, hclose hs'] using Twin.append_endings hx s s'
    | cons c x ih =>
      cases hc : p c with
      | true => simpa [hc] using ih ((List.suffix_cons c x).trans hx)
      | false => simpa [hc] using Twin.append_endings hx s s'
  · exact .inr ⟨rfl, rfl⟩

theorem Twin.takeWhile (h : Twin text s s' r r') (hs : AtClose s) (hs' : AtClose s')
    {p : Char → Bool} (hp : p ')' = false) : r'.takeWhile p = r.takeWhile p := by
  have hclose {q : List Char} (hq : AtClose q) : q.takeWhile p = [] := by
    rcases hq with rfl | ⟨t, rfl⟩
    · rfl
    · simp [hp]
  rcases h with ⟨x, hx, rfl, rfl⟩ | ⟨rfl, rfl⟩
  · clear hx
    induction x with
    | nil => simp [hclose hs, hclose hs']
    | cons c x ih =>
      cases hc : p c with
      | true => simpa [hc] using ih
      | false => simp [hc]
  · rfl

end Twin

theorem length_skipComments (inside : Bool) (r : List Char) :
    (skipComments inside r).length ≤ r.length := by
  fun_induction skipComments inside r <;> grind

theorem skipComments_of_atClose {s : List Char} (h : AtClose s) : skipComments false s = s := by
  rcases h with rfl | ⟨t, rfl⟩
  · rfl
  · rw [skipComments]
    simp [show isBlankChar ')' = false by decide]

theorem skipComments_inside {s : List Char} (h : '\n' ∉ s) : skipComments true s = [] := by
  induction s with
  | nil => rfl
  | cons c s ih =>
    rw [List.mem_cons, not_or] at h
    rw [skipComments, bne_iff_ne.2 (Ne.symm h.1)]
    exact ih h.2

/-- Blanks and comments before the ending are skipped alike. A comment that is open at the end of
the first text swallows the ending of the second. -/
theorem Twin.skipComments {text s s' r r' : List Char} (h : Twin text s s' r r') (he : Endings s s')
    {inside : Bool} (hs : s.length ≤ (skipComments inside r).length) :
    Twin text s s' (skipComments inside r) (skipComments inside r') := by
  rcases h with ⟨x, hx, rfl, rfl⟩ | ⟨rfl, rfl⟩
  · induction x generalizing inside with
    | nil =>
      cases inside with
      | false =>
        rw [List.nil_append, List.nil_append, skipComments_of_atClose he.left,
          skipComments_of_atClose he.right]
        exact .append_endings hx s s'
      | true =>
        rcases he.left with rfl | ⟨t, rfl⟩
        · exact .inr ⟨rfl, by simpa using skipComments_inside (he.line rfl)⟩
        · -- The comment would swallow the first ending.
          have := length_skipComments true t
          simp [Parser.skipComments] at hs
          omega
    | cons c x ih =>
      have hx' := (List.suffix_cons c x).trans hx
      cases inside with
      | true => exact ih hx' hs
      | false =>
        simp only [List.cons_append, Parser.skipComments] at hs ⊢
        split_ifs at hs ⊢
        · exact ih hx' hs
        · exact ih hx' hs
        · exact .append_endings hx s s'
  · exact .inr ⟨by cases inside <;> rfl, by cases inside <;> rfl⟩

namespace Cursor

variable (c : Cursor) (t : List Char)

@[simp, grind =]
theorem rest_withRest : (c.withRest t).rest = t := rfl

theorem skip_eq :
    c.skip = c.withRest (if c.verbose then skipComments false c.rest else c.rest) := by
  rw [skip]
  split <;> rfl

@[simp]
theorem verbose_skip : c.skip.verbose = c.verbose := by rw [skip_eq]; rfl

@[simp]
theorem size_withRest : (c.withRest t).size = c.size := rfl

@[simp]
theorem size_skip : c.skip.size = c.size := by rw [skip_eq]; rfl

@[simp]
theorem size_skipTo : (c.skipTo t).size = c.size := by rw [skipTo, size_skip, size_withRest]

@[simp]
theorem skip_withRest : c.skip.withRest t = c.withRest t := by rw [skip_eq]; rfl

@[simp]
theorem skip_skipTo : c.skip.skipTo t = c.skipTo t := by rw [skipTo, skip_withRest, skipTo]

theorem length_skip : c.skip.rest.length ≤ c.rest.length := by
  rw [skip_eq, rest_withRest]
  split
  · exact length_skipComments false c.rest
  · exact Nat.le_refl _

theorem length_skipTo : (c.skipTo t).rest.length ≤ t.length := length_skip (c.withRest t)

end Cursor

open Cursor

/-- Two cursors that have the same to read before two endings, and have read the same. -/
structure Alike (text s s' : List Char) (c c' : Cursor) : Prop where
  rest : Twin text s s' c.rest c'.rest
  verbose : c'.verbose = c.verbose
  names : c'.names = c.names
  captures : c'.captures = c.captures
  fits : c.rest.length ≤ c.size
  fits' : c'.rest.length ≤ c'.size

variable {text s s' t : List Char} {c c' d : Cursor} {ch : Char}

namespace Alike

theorem withRest {t' : List Char} (h : Alike text s s' c c') (ht : Twin text s s' t t')
    (hl : t.length ≤ c.rest.length) (hl' : t'.length ≤ c'.rest.length) :
    Alike text s s' (c.withRest t) (c'.withRest t') where
  rest := ht
  verbose := h.verbose
  names := h.names
  captures := h.captures
  fits := Nat.le_trans hl h.fits
  fits' := Nat.le_trans hl' h.fits'

theorem skip (h : Alike text s s' c c') (he : Endings s s') (hs : s.length ≤ c.skip.rest.length) :
    Alike text s s' c.skip c'.skip := by
  have hl := c.length_skip
  have hl' := c'.length_skip
  rw [skip_eq] at hs hl ⊢
  rw [skip_eq] at hl' ⊢
  refine h.withRest ?_ hl hl'
  rw [h.verbose]
  split_ifs at hs ⊢
  · exact h.rest.skipComments he hs
  · exact h.rest

/-- A character before the ending is there for both. -/
theorem step (h : Alike text s s' c c') (hr : c.rest = ch :: t) (hs : s.length ≤ t.length) :
    ∃ t', c'.rest = ch :: t' ∧ t'.length < c'.rest.length ∧
      Alike text s s' (c.withRest t) (c'.withRest t') := by
  obtain ⟨t', hr', ht⟩ := (hr ▸ h.rest).uncons hs
  have hlt : t'.length < c'.rest.length := by
    rw [hr', List.length_cons]
    exact Nat.lt_succ_self _
  refine ⟨t', hr', hlt, h.withRest ht ?_ (Nat.le_of_lt hlt)⟩
  rw [hr, List.length_cons]
  exact Nat.le_succ _

/-- The next character that is part of the pattern. -/
theorem read (h : Alike text s s' c c') (he : Endings s s') (hr : c.skip.rest = ch :: t)
    (hs : s.length ≤ t.length) :
    ∃ t', c'.skip.rest = ch :: t' ∧ t'.length < c'.rest.length ∧
      Alike text s s' (c.withRest t) (c'.withRest t') := by
  have hle : s.length ≤ c.skip.rest.length := by
    rw [hr, List.length_cons]
    exact Nat.le_succ_of_le hs
  obtain ⟨t', hr', hlt, ht⟩ := (h.skip he hle).step hr hs
  rw [skip_withRest, skip_withRest] at ht
  exact ⟨t', hr', Nat.lt_of_lt_of_le hlt c'.length_skip, ht⟩

/-- A character, and then what is not part of the pattern. -/
theorem stepTo (h : Alike text s s' c c') (he : Endings s s') (hr : c.rest = ch :: t)
    (hs : s.length ≤ (c.skipTo t).rest.length) :
    ∃ t', c'.rest = ch :: t' ∧ t'.length < c'.rest.length ∧
      Alike text s s' (c.skipTo t) (c'.skipTo t') := by
  obtain ⟨t', hr', hlt, ht⟩ := h.step hr (Nat.le_trans hs (c.length_skipTo t))
  exact ⟨t', hr', hlt, ht.skip he hs⟩

/-- A character that closes nothing is the next one for both or for neither. -/
theorem both_or_neither (h : Alike text s s' c c') (he : Endings s s') (ch : Char)
    (hch : ch ≠ ')') :
    (∃ t t', c.rest = ch :: t ∧ c'.rest = ch :: t' ∧
        Alike text s s' (c.withRest t) (c'.withRest t')) ∨
      ((∀ t, c.rest ≠ ch :: t) ∧ ∀ t', c'.rest ≠ ch :: t') := by
  by_cases hr : ∃ t, c.rest = ch :: t
  · obtain ⟨t, hr⟩ := hr
    obtain ⟨t', hr', ht⟩ := (hr ▸ h.rest).peek he.left hch
    exact .inl ⟨t, t', hr, hr', h.withRest ht (by simp [hr]) (by simp [hr'])⟩
  · exact .inr ⟨not_exists.1 hr, h.rest.ne_cons he.right hch (not_exists.1 hr)⟩

end Alike

end Parser
end FormLogic.Pattern
