import FormLogic.Proofs.PatternClasses

/-!
# Reading patterns before two endings

A text is read alike before two endings, by induction along its groups and branches. What is put
after a text is then read as if the text stood alone: a closing parenthesis ends it, unless one
inside it or a comment at its end comes first.
-/
namespace FormLogic.Pattern
namespace Parser

open Cursor

variable {text s s' t : List Char} {c c' d e : Cursor} {ch : Char} {fuel fuel' : Nat}
  {branches items result : List Term} {a : Term}

/-- Read what one character begins, other than a group, a branch or the end. -/
def item? (ch : Char) (after : Cursor) (items : List Term) : Option (List Term × Cursor) :=
  match ch with
  | '[' =>
    (classBody? (after.size + 1) (classOpening after).2.2 none (classOpening after).2.1).map
      fun (body, e) => (.bracket (classOpening after).1 body :: items, e)
  | '?' => repeatLast? items 0 (some 1) after
  | '*' => repeatLast? items 0 none after
  | '+' => repeatLast? items 1 none after
  | '\x7b' => (bounds? after).bind fun (least, most, e) => repeatLast? items least most e.skip
  | '\\' => (escape? after).map fun (a, e) => (a :: items, e)
  | '.' => some (.dot :: items, after)
  | '^' => some (.boundary .caret :: items, after)
  | '$' => some (.boundary .dollar :: items, after)
  | _ => some (.char ch false :: items, after)

theorem length_item? (h : item? ch c items = some (result, d)) :
    d.rest.length ≤ c.rest.length := by
  unfold item? at h
  split at h
  · obtain ⟨⟨body, e⟩, hbody, hd⟩ := Option.map_eq_some_iff.1 h
    cases hd
    exact Nat.le_of_lt (Nat.lt_of_lt_of_le (length_classBody? hbody) (length_classOpening c))
  · exact length_repeatLast? h
  · exact length_repeatLast? h
  · exact length_repeatLast? h
  · obtain ⟨⟨least, most, e⟩, hbounds, h⟩ := Option.bind_eq_some_iff.1 h
    have := length_bounds? hbounds
    have := length_repeatLast? h
    have := length_skip c
    have := length_skip e
    omega
  · obtain ⟨⟨body, e⟩, hbody, hd⟩ := Option.map_eq_some_iff.1 h
    cases hd
    exact Nat.le_of_lt (length_escape? hbody)
  all_goals
    cases h
    exact Nat.le_refl _

/-- Every item is read alike, but for a word boundary at which the parser gets stuck. -/
theorem item?_alike (he : Endings s s') (h : Alike text s s' c c')
    (hc : item? ch c items = some (result, d)) (hs : s.length ≤ d.rest.length) :
    (∃ d', item? ch c' items = some (result, d') ∧ Alike text s s' d d') ∨ Stuck s d := by
  unfold item? at hc ⊢
  split at hc
  · obtain ⟨⟨body, e⟩, hbody, hd⟩ := Option.map_eq_some_iff.1 hc
    cases hd
    have hlt := length_classBody? hbody
    obtain ⟨hneg, hfirst, hinner⟩ := classOpening_alike he h (by omega)
    have hfuel : (classOpening c').2.2.rest.length < c'.size + 1 :=
      Nat.lt_succ_of_le (Nat.le_trans (length_classOpening c') h.fits')
    obtain ⟨d', hbody', hd⟩ := classBody?_alike he hinner hbody hs hfuel
    refine .inl ⟨d', ?_, hd⟩
    simp only [hneg, hfirst, hbody', Option.map_some]
  · exact .inl (repeatLast?_alike he h hc)
  · exact .inl (repeatLast?_alike he h hc)
  · exact .inl (repeatLast?_alike he h hc)
  · obtain ⟨⟨least, most, e⟩, hbounds, hc⟩ := Option.bind_eq_some_iff.1 hc
    have hle := length_repeatLast? hc
    have hskip := length_skip e
    obtain ⟨e', hbounds', hee⟩ := bounds?_alike he h hbounds (by omega)
    obtain ⟨d', hc', hd⟩ := repeatLast?_alike he (hee.skip he (by omega)) hc
    refine .inl ⟨d', ?_, hd⟩
    simp only [hbounds', Option.bind_some, hc']
  · obtain ⟨⟨b, e⟩, hescape, hd⟩ := Option.map_eq_some_iff.1 hc
    cases hd
    rcases escape?_alike he h hescape hs with ⟨d', hescape', hd⟩ | ⟨-, hstuck⟩
    · refine .inl ⟨d', ?_, hd⟩
      simp only [hescape', Option.map_some]
    · exact .inr hstuck
  all_goals
    cases hc
    exact .inl ⟨c', rfl, h⟩

/-- The cursor with blanks and comments skipped or not. -/
def Cursor.withVerbose (c : Cursor) (verbose : Bool) : Cursor := { c with verbose }

@[simp]
theorem Cursor.rest_withVerbose (c : Cursor) (verbose : Bool) :
    (c.withVerbose verbose).rest = c.rest := rfl

theorem Alike.withVerbose (h : Alike text s s' c c') (verbose : Bool) :
    Alike text s s' (c.withVerbose verbose) (c'.withVerbose verbose) :=
  ⟨h.rest, rfl, h.names, h.captures, h.fits, h.fits'⟩

/-- The term of a group with a body. -/
def Opening.wrap : Opening → Term → Term
  | capture index => .capture index
  | settings list | group list => .group list

/-- Whether blanks are skipped in what is opened. -/
def Opening.verbose (outer : Bool) : Opening → Bool
  | capture _ => outer
  | settings list | group list => verboseAfter outer list

theorem body?_of_atClose (h : AtClose c.skip.rest) :
    body? (fuel + 1) c branches items = some (alternationOf branches items, c.skip) := by
  rcases h with h | ⟨t, h⟩ <;> simp only [body?, h]

theorem body?_of_bar (h : c.skip.rest = '|' :: t) : body? (fuel + 1) c branches items =
    body? fuel (c.withRest t) (concatOf items :: branches) [] := by
  simp only [body?, h, skip_withRest]

theorem body?_of_settings {list : List FlagSetting} (h : c.skip.rest = '(' :: t)
    (ho : opening? (c.withRest t) = some (.settings list, e)) :
    body? (fuel + 1) c branches items =
      body? fuel (e.withVerbose (verboseAfter c.verbose list)) branches
        (.flags list :: items) := by
  simp only [body?, h, skip_withRest, ho, verbose_skip, Cursor.withVerbose]

/-- The rest of a body after the body of a group in it. -/
def afterGroup? (fuel : Nat) (verbose : Bool) (branches items : List Term) (o : Opening)
    (body : Term) (close : Cursor) : Option (Term × Cursor) :=
  match close.rest with
  | ')' :: rest =>
    body? fuel ((close.withRest rest).withVerbose verbose) branches (o.wrap body :: items)
  | _ => none

theorem body?_of_group {o : Opening} (h : c.skip.rest = '(' :: t)
    (ho : opening? (c.withRest t) = some (o, e)) (hgroup : ∀ list, o ≠ .settings list) :
    body? (fuel + 1) c branches items =
      (body? fuel (e.withVerbose (o.verbose c.verbose)) [] []).bind fun (body, close) =>
        afterGroup? fuel c.verbose branches items o body close := by
  simp only [body?, h, skip_withRest, ho, verbose_skip]
  cases o with
  | settings list => exact absurd rfl (hgroup list)
  | group list =>
    dsimp only [Opening.verbose, Cursor.withVerbose]
    cases body? fuel { e with verbose := verboseAfter c.verbose list } [] [] with
    | none => rfl
    | some found => rfl
  | capture index =>
    dsimp only [Opening.verbose, Cursor.withVerbose]
    cases body? fuel { e with verbose := c.verbose } [] [] with
    | none => rfl
    | some found => rfl

theorem body?_of_unopened (h : c.skip.rest = '(' :: t) (ho : opening? (c.withRest t) = none) :
    body? (fuel + 1) c branches items = none := by
  simp only [body?, h, skip_withRest, ho]

theorem body?_of_item (h : c.skip.rest = ch :: t) (hch : ch ∉ [')', '|', '(']) :
    body? (fuel + 1) c branches items =
      (item? ch (c.withRest t) items).bind fun (items, after) =>
        body? fuel after branches items := by
  simp only [body?, h, skip_withRest]
  unfold item?
  split
  · simp at hch
  · simp at hch
  · simp at hch
  · dsimp only
    rw [size_skip, size_withRest]
    cases classBody? (c.size + 1) (classOpening (c.withRest t)).2.2 none
      (classOpening (c.withRest t)).2.1 <;> rfl
  · dsimp only
    cases repeatLast? items 0 (some 1) (c.withRest t) <;> rfl
  · dsimp only
    cases repeatLast? items 0 none (c.withRest t) <;> rfl
  · dsimp only
    cases repeatLast? items 1 none (c.withRest t) <;> rfl
  · dsimp only
    cases bounds? (c.withRest t) with
    | none => rfl
    | some found =>
      dsimp only [Option.bind_some]
      cases repeatLast? items found.1 found.2.1 found.2.2.skip <;> rfl
  · dsimp only
    cases escape? (c.withRest t) <;> rfl
  · rfl
  · rfl
  · rfl
  · split <;> simp_all

theorem afterGroup?_eq_some_iff {o : Opening} {body : Term} {verbose : Bool} {close : Cursor} :
    afterGroup? fuel verbose branches items o body close = some (a, d) ↔
      ∃ t, close.rest = ')' :: t ∧
        body? fuel ((close.withRest t).withVerbose verbose) branches (o.wrap body :: items) =
          some (a, d) := by
  unfold afterGroup?
  constructor
  · intro h
    split at h
    · next t ht => exact ⟨t, ht, h⟩
    · cases h
  · rintro ⟨t, ht, h⟩
    simp only [ht, h]

/-- What comes next in a body: its end, a branch, a group, or an item. -/
theorem body_next (r : List Char) : AtClose r ∨ (∃ t, r = '|' :: t) ∨ (∃ t, r = '(' :: t) ∨
    ∃ ch t, r = ch :: t ∧ ch ∉ [')', '|', '('] := by
  rcases r with _ | ⟨ch, t⟩
  · exact .inl (.inl rfl)
  by_cases hclose : ch = ')'
  · exact .inl (.inr ⟨t, by rw [hclose]⟩)
  by_cases hbar : ch = '|'
  · exact .inr (.inl ⟨t, by rw [hbar]⟩)
  by_cases hopen : ch = '('
  · exact .inr (.inr (.inl ⟨t, by rw [hopen]⟩))
  · exact .inr (.inr (.inr ⟨ch, t, rfl, by simp [hclose, hbar, hopen]⟩))

/-- What is read after an opening: under flags that hold from there on the rest of the body, or a
group up to its closing parenthesis and then the rest. -/
def Opened (fuel : Nat) (verbose : Bool) (branches items : List Term) (o : Opening) (e : Cursor)
    (a : Term) (d : Cursor) : Prop :=
  (∃ list, o = .settings list ∧ body? fuel (e.withVerbose (verboseAfter verbose list)) branches
      (.flags list :: items) = some (a, d)) ∨
    ((∀ list, o ≠ .settings list) ∧ ∃ body close u,
      body? fuel (e.withVerbose (o.verbose verbose)) [] [] = some (body, close) ∧
        close.rest = ')' :: u ∧
        body? fuel ((close.withRest u).withVerbose verbose) branches (o.wrap body :: items) =
          some (a, d))

theorem body?_of_open_eq_some_iff (h : c.skip.rest = '(' :: t) :
    body? (fuel + 1) c branches items = some (a, d) ↔
      ∃ o e, opening? (c.withRest t) = some (o, e) ∧
        Opened fuel c.verbose branches items o e a d := by
  constructor
  · intro hc
    cases ho : opening? (c.withRest t) with
    | none => simp [body?_of_unopened h ho] at hc
    | some found =>
      obtain ⟨o, e⟩ := found
      refine ⟨o, e, rfl, ?_⟩
      by_cases hset : ∃ list, o = .settings list
      · obtain ⟨list, rfl⟩ := hset
        exact .inl ⟨list, rfl, (body?_of_settings h ho).symm.trans hc⟩
      · rw [body?_of_group h ho (not_exists.1 hset)] at hc
        obtain ⟨⟨body, close⟩, hbody, hc⟩ := Option.bind_eq_some_iff.1 hc
        obtain ⟨u, hu, hc⟩ := afterGroup?_eq_some_iff.1 hc
        exact .inr ⟨not_exists.1 hset, body, close, u, hbody, hu, hc⟩
  · rintro ⟨o, e, ho, ⟨list, rfl, hc⟩ | ⟨hset, body, close, u, hbody, hu, hc⟩⟩
    · rw [body?_of_settings h ho, hc]
    · rw [body?_of_group h ho hset, hbody, Option.bind_some]
      exact afterGroup?_eq_some_iff.2 ⟨u, hu, hc⟩

theorem Opened.length {verbose : Bool} {o : Opening}
    (hbody : ∀ {c branches items a d}, body? fuel c branches items = some (a, d) →
      d.rest.length ≤ c.rest.length)
    (h : Opened fuel verbose branches items o e a d) : d.rest.length ≤ e.rest.length := by
  rcases h with ⟨list, -, h⟩ | ⟨-, body, close, u, hgroup, hu, h⟩
  · have hle := hbody h
    rwa [rest_withVerbose] at hle
  · have hle := hbody hgroup
    have hle' := hbody h
    rw [rest_withVerbose, hu, List.length_cons] at hle
    exact Nat.le_trans hle' (Nat.le_of_succ_le hle)

theorem length_body? (h : body? fuel c branches items = some (a, d)) :
    d.rest.length ≤ c.rest.length := by
  induction fuel generalizing c branches items a d with
  | zero => cases h
  | succ fuel ih =>
    have hskip := length_skip c
    rcases body_next c.skip.rest with hclose | ⟨t, hr⟩ | ⟨t, hr⟩ | ⟨ch, t, hr, hch⟩
    · rw [body?_of_atClose hclose] at h
      cases h
      exact hskip
    all_goals rw [hr, List.length_cons] at hskip
    · have hle := ih ((body?_of_bar hr).symm.trans h)
      rw [rest_withRest] at hle
      omega
    · obtain ⟨o, e, ho, hopened⟩ := (body?_of_open_eq_some_iff hr).1 h
      have hopen : e.rest.length ≤ t.length :=
        Nat.le_trans (length_opening? ho) (length_skip (c.withRest t))
      have hle := hopened.length ih
      omega
    · rw [body?_of_item hr hch] at h
      obtain ⟨⟨result, e⟩, hitem, h⟩ := Option.bind_eq_some_iff.1 h
      have hle := length_item? hitem
      have hle' := ih h
      rw [rest_withRest] at hle
      omega

theorem skip_of_cons (hr : c.rest = ch :: t) (hblank : isBlankChar ch = false) (hhash : ch ≠ '#') :
    c.skip = c := by
  have hkeep : skipComments false c.rest = c.rest := by
    rw [hr, skipComments, hblank, if_neg Bool.false_ne_true, if_neg hhash]
  rw [skip_eq, hkeep, ite_self]
  rfl

/-- Where the parser is stuck, it reads nothing, or goes on into the ending. -/
theorem Stuck.length_body? (h : Stuck s c) (hc : body? fuel c branches items = some (a, d)) :
    d.rest.length < s.length := by
  obtain ⟨t, hr, hstuck⟩ := h
  cases fuel with
  | zero => cases hc
  | succ fuel =>
    have hskip : c.skip.rest = '\x7b' :: t := by
      rw [skip_of_cons hr (by decide) (by decide), hr]
    rw [body?_of_item hskip (by decide)] at hc
    obtain ⟨⟨result, e⟩, hitem, hc⟩ := Option.bind_eq_some_iff.1 hc
    obtain ⟨⟨least, most, f⟩, hbounds, hitem⟩ := Option.bind_eq_some_iff.1 hitem
    have h₁ := length_bounds? hbounds
    have h₂ := length_skip f
    have h₃ := length_repeatLast? hitem
    have h₄ := Parser.length_body? hc
    rcases hstuck with hshort | hclose
    · have h₅ : (c.skipTo t).rest = (c.withRest t).skip.rest := rfl
      rw [h₅] at hshort
      omega
    · -- A repetition begins with a number, and the ending has none.
      obtain ⟨g, hn, -⟩ := bounds?_eq_some_iff.1 hbounds
      obtain ⟨⟨ch, u, hstart, hdigit⟩, -⟩ := decimal?_eq_some_iff.1 hn
      rw [afterBlanks, rest_withRest] at hstart
      have hch : ch = ')' := by
        rcases hclose with hnil | ⟨v, hv⟩
        · rw [show (c.withRest t).skip.rest = [] from hnil] at hstart
          cases hstart
        · rw [show (c.withRest t).skip.rest = ')' :: v from hv,
            List.dropWhile_cons_of_neg (by decide)] at hstart
          exact (List.cons.inj hstart).1.symm
      rw [hch] at hdigit
      exact absurd hdigit (by decide)

theorem body?_alike (he : Endings s s') (h : Alike text s s' c c')
    (hc : body? fuel c branches items = some (a, d)) (hs : s.length ≤ d.rest.length)
    (hf : c'.rest.length < fuel') :
    ∃ d', body? fuel' c' branches items = some (a, d') ∧ Alike text s s' d d' := by
  induction fuel generalizing fuel' c c' branches items a d with
  | zero => cases hc
  | succ fuel ih =>
    obtain ⟨fuel', rfl⟩ := Nat.exists_eq_succ_of_ne_zero (by omega : fuel' ≠ 0)
    rcases body_next c.skip.rest with hclose | ⟨t, hr⟩ | ⟨t, hr⟩ | ⟨ch, t, hr, hch⟩
    · rw [body?_of_atClose hclose] at hc
      cases hc
      have hskip := h.skip he hs
      exact ⟨_, body?_of_atClose (hskip.rest.atClose he.right hclose), hskip⟩
    · rw [body?_of_bar hr] at hc
      have hle := length_body? hc
      obtain ⟨t', hr', hlt, ht⟩ := h.read he hr (Nat.le_trans hs hle)
      rw [body?_of_bar hr']
      exact ih ht hc hs (Nat.lt_of_lt_of_le hlt (Nat.le_of_lt_succ hf))
    · obtain ⟨o, e, ho, hopened⟩ := (body?_of_open_eq_some_iff hr).1 hc
      have hopen : e.rest.length ≤ t.length :=
        Nat.le_trans (length_opening? ho) (length_skip (c.withRest t))
      have hle := hopened.length length_body?
      obtain ⟨t', hr', hlt, ht⟩ := h.read he hr (by omega)
      obtain ⟨e', ho', hee⟩ := opening?_alike he ht ho (by omega)
      have hopen' : e'.rest.length ≤ t'.length :=
        Nat.le_trans (length_opening? ho') (length_skip (c'.withRest t'))
      have hfuel : e'.rest.length < fuel' := by omega
      rcases hopened with ⟨list, rfl, hbody⟩ | ⟨hset, body, close, u, hbody, hu, hrest⟩
      · obtain ⟨d', hbody', hd⟩ := ih (hee.withVerbose _) hbody hs hfuel
        refine ⟨d', (body?_of_open_eq_some_iff hr').2 ⟨_, e', ho', .inl ⟨list, rfl, ?_⟩⟩, hd⟩
        rw [h.verbose]
        exact hbody'
      · have hle' := length_body? hrest
        rw [rest_withVerbose, rest_withRest] at hle'
        obtain ⟨close', hbody', hclose⟩ := ih (hee.withVerbose _) hbody
          (by rw [hu, List.length_cons]; omega) hfuel
        have hle'' := length_body? hbody'
        rw [rest_withVerbose] at hle''
        obtain ⟨u', hu', hlt', huu⟩ := hclose.step hu (by omega)
        have hfuel' : u'.length < fuel' := by omega
        obtain ⟨d', hrest', hd⟩ := ih (huu.withVerbose c.verbose) hrest hs hfuel'
        refine ⟨d', (body?_of_open_eq_some_iff hr').2
          ⟨o, e', ho', .inr ⟨hset, body, close', u', ?_, hu', ?_⟩⟩, hd⟩
        · rw [h.verbose]
          exact hbody'
        · rw [h.verbose]
          exact hrest'
    · rw [body?_of_item hr hch] at hc
      obtain ⟨⟨result, e⟩, hitem, hc⟩ := Option.bind_eq_some_iff.1 hc
      have hle := length_item? hitem
      have hle' := length_body? hc
      rw [rest_withRest] at hle
      obtain ⟨t', hr', hlt, ht⟩ := h.read he hr (by omega)
      rcases item?_alike he ht hitem (by omega) with ⟨e', hitem', hee⟩ | hstuck
      · have hle'' := length_item? hitem'
        rw [rest_withRest] at hle''
        have hfuel : e'.rest.length < fuel' := by omega
        obtain ⟨d', hc', hd⟩ := ih hee hc hs hfuel
        rw [body?_of_item hr' hch, hitem']
        exact ⟨d', hc', hd⟩
      · have := hstuck.length_body? hc
        omega

/-- The cursor at the start of a text. -/
def Cursor.start (size : Nat) (text : List Char) : Cursor := ⟨size, text, false, [], 0⟩

/-- What a text is read as, up to its end or to a closing parenthesis that nothing in it opens, and
what is left from there. -/
def read? (text : List Char) : Option (Term × List Char) :=
  (body? (text.length + 1) (.start text.length text) [] []).map fun (a, d) => (a, d.rest)

section Read
variable {text s s' q r : List Char} {a : Term} {size fuel : Nat}

theorem alike_start {size' : Nat} (hs : (text ++ s).length ≤ size)
    (hs' : (text ++ s').length ≤ size') :
    Alike text s s' (.start size (text ++ s)) (.start size' (text ++ s')) :=
  ⟨.append_endings List.suffix_rfl s s', rfl, rfl, rfl, hs, hs'⟩

theorem read?_eq_some_iff : read? text = some (a, r) ↔
    ∃ d, body? (text.length + 1) (.start text.length text) [] [] = some (a, d) ∧ d.rest = r := by
  simp only [read?, Option.map_eq_some_iff, Prod.exists, Prod.mk.injEq]
  constructor
  · rintro ⟨b, d, hb, rfl, rfl⟩
    exact ⟨d, hb, rfl⟩
  · rintro ⟨d, hb, rfl⟩
    exact ⟨a, d, hb, rfl, rfl⟩

theorem read?_twin (he : Endings s s') (h : read? (text ++ s) = some (a, r))
    (hs : s.length ≤ r.length) :
    ∃ r', read? (text ++ s') = some (a, r') ∧ Twin text s s' r r' := by
  obtain ⟨d, hb, rfl⟩ := read?_eq_some_iff.1 h
  obtain ⟨d', hb', hd⟩ := body?_alike he (alike_start (Nat.le_refl _) (Nat.le_refl _)) hb hs
    (Nat.lt_succ_self _ : (text ++ s').length < (text ++ s').length + 1)
  exact ⟨d'.rest, read?_eq_some_iff.2 ⟨d', hb', rfl⟩, hd.rest⟩

theorem endings_nil : Endings [] [] := ⟨.inl rfl, .inl rfl, by simp⟩

theorem Twin.of_nil {r' : List Char} (h : Twin text [] [] r r') : r' = r ∧ r <:+ text := by
  rcases h with ⟨x, hx, rfl, rfl⟩ | ⟨rfl, rfl⟩
  · simpa using hx
  · exact ⟨rfl, List.nil_suffix⟩

/-- How large the whole pattern is, and how much fuel is left, makes no difference. -/
theorem exists_body?_iff (hsize : text.length ≤ size) (hf : text.length < fuel) :
    (∃ d, body? fuel (.start size text) [] [] = some (a, d) ∧ d.rest = r) ↔
      read? text = some (a, r) := by
  have halike {size size' : Nat} (h : text.length ≤ size) (h' : text.length ≤ size') :
      Alike text [] [] (.start size text) (.start size' text) := by
    rw [← List.append_nil text] at h h'
    simpa using alike_start h h'
  constructor
  · rintro ⟨d, hb, rfl⟩
    obtain ⟨d', hb', hd⟩ := body?_alike endings_nil (halike hsize (Nat.le_refl _)) hb
      (Nat.zero_le _) (Nat.lt_succ_self _ : text.length < text.length + 1)
    exact read?_eq_some_iff.2 ⟨d', hb', (Twin.of_nil hd.rest).1⟩
  · intro h
    obtain ⟨d, hb, rfl⟩ := read?_eq_some_iff.1 h
    obtain ⟨d', hb', hd⟩ := body?_alike endings_nil (halike (Nat.le_refl _) hsize) hb
      (Nat.zero_le _) hf
    exact ⟨d', hb', (Twin.of_nil hd.rest).1⟩

/-- What is left is the end of the text. -/
theorem read?_suffix (h : read? text = some (a, r)) : r <:+ text := by
  rw [← List.append_nil text] at h
  obtain ⟨r', -, hr⟩ := read?_twin endings_nil h (Nat.zero_le _)
  exact (Twin.of_nil hr).2

/-- What is read up to a closing parenthesis is read there whatever stands after it. -/
theorem read?_close_congr {q' : List Char} (h : read? (text ++ ')' :: q) = some (a, ')' :: q)) :
    read? (text ++ ')' :: q') = some (a, ')' :: q') := by
  have he : Endings (')' :: q) (')' :: q') := ⟨.inr ⟨q, rfl⟩, .inr ⟨q', rfl⟩, by simp⟩
  obtain ⟨r', hr', htwin⟩ := read?_twin he h (Nat.le_refl _)
  rcases htwin with ⟨x, -, hx, rfl⟩ | ⟨hnil, -⟩
  · obtain rfl : x = [] := by simpa using hx
    exact hr'
  · cases hnil

/-- A text that is read to its end is read to a closing parenthesis after it, unless a comment at
its end takes the parenthesis in. -/
theorem read?_append_close (h : read? text = some (a, [])) (hq : '\n' ∉ q) :
    read? (text ++ ')' :: q) = some (a, ')' :: q) ∨ read? (text ++ ')' :: q) = some (a, []) := by
  have he : Endings [] (')' :: q) := ⟨.inl rfl, .inr ⟨q, rfl⟩, by simpa using hq⟩
  rw [← List.append_nil text] at h
  obtain ⟨r', hr', htwin⟩ := read?_twin he h (Nat.le_refl _)
  rcases htwin with ⟨x, -, hx, rfl⟩ | ⟨-, rfl⟩
  · obtain rfl : x = [] := by simpa using hx.symm
    exact .inl hr'
  · exact .inr hr'

/-- Where reading stops in a text with a closing parenthesis after it, if it does: there, or at one
inside the text. -/
theorem read?_of_close {t : List Char} (h : read? (text ++ ')' :: q) = some (a, ')' :: t))
    (hq : ')' ∉ q) : (t = q ∧ read? text = some (a, [])) ∨
      ∃ y, t = y ++ ')' :: q ∧ read? text = some (a, ')' :: y) := by
  rcases Nat.lt_or_ge t.length q.length with hlt | hge
  · -- No closing parenthesis stands after the first one.
    have hsuffix : q <:+ text ++ ')' :: q := ⟨text ++ [')'], by simp⟩
    have hmem := (List.suffix_of_suffix_length_le (read?_suffix h) hsuffix hlt).mem
      (List.mem_cons_self)
    exact absurd hmem hq
  · have he : Endings (')' :: q) [] := ⟨.inr ⟨q, rfl⟩, .inl rfl, by simp⟩
    obtain ⟨r', hr', htwin⟩ := read?_twin he h (Nat.succ_le_succ hge)
    rw [List.append_nil] at hr'
    rcases htwin with ⟨x, -, hx, rfl⟩ | ⟨hnil, -⟩
    · rw [List.append_nil] at hr'
      cases x with
      | nil => exact .inl ⟨(List.cons.inj hx).2, hr'⟩
      | cons c y =>
        obtain ⟨rfl, rfl⟩ := List.cons.inj hx
        exact .inr ⟨y, rfl, hr'⟩
    · cases hnil

end Read
end Parser
end FormLogic.Pattern
