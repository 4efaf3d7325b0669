import FormLogic.Proofs.MatchedTexts
import FormLogic.Proofs.PatternReading
import FormLogic.Validation.Validator

/-!
# Anchored patterns

A rule puts its pattern between anchors as text. A pattern that closes the group around it gets out
of the anchors, one that ends in a comment loses the closing one, and two levels of nesting and the
anchors themselves count towards the limits. Every other pattern is accepted just when it is one by
itself, and it then has to match a text as a whole.
-/
namespace FormLogic
namespace Pattern

open FormLogic.Pattern.Parser

variable {t : Term} {e w : Expr} {text : String}

/-- The expression of a term that is neither nested too deeply nor too large. -/
def Term.expr? (t : Term) : Option Expr :=
  if t.depth ≤ Term.maxDepth then
    (t.meaning? {}).bind fun (e, _) => if e.isSmall then some e else none
  else none

theorem Term.expr?_eq_some_iff : t.expr? = some e ↔
    t.depth ≤ Term.maxDepth ∧ (∃ flags, t.meaning? {} = some (e, flags)) ∧ e.isSmall = true := by
  unfold expr?
  constructor
  · intro h
    split_ifs at h with hdepth
    obtain ⟨⟨f, flags⟩, hf, h⟩ := Option.bind_eq_some_iff.1 h
    dsimp only at h
    split_ifs at h with hsmall
    cases h
    exact ⟨hdepth, ⟨flags, hf⟩, hsmall⟩
  · rintro ⟨hdepth, ⟨flags, hf⟩, hsmall⟩
    simp [hdepth, hf, hsmall]

theorem Term.parse?_eq_some_iff : Term.parse? text = some t ↔
    read? text.toList = some (t, []) ∧ t.depth ≤ Term.maxDepth := by
  rw [read?_eq_some_iff]
  unfold Term.parse?
  constructor
  · intro h
    dsimp only at h
    split at h
    · next a d hd =>
      split_ifs at h with hall
      cases h
      exact ⟨⟨d, hd, hall.1⟩, hall.2⟩
    · cases h
  · rintro ⟨⟨d, hd, hnil⟩, hdepth⟩
    rw [Cursor.start] at hd
    simp [hd, hnil, hdepth]

/-- A text is a pattern if it is read to its end as a term that has an expression. -/
theorem Expr.parse?_eq_some_iff :
    Expr.parse? text = some e ↔ ∃ t, read? text.toList = some (t, []) ∧ t.expr? = some e := by
  unfold Expr.parse?
  constructor
  · intro h
    obtain ⟨t, ht, h⟩ := Option.bind_eq_some_iff.1 h
    obtain ⟨⟨f, flags⟩, hf, h⟩ := Option.bind_eq_some_iff.1 h
    dsimp only at h
    split_ifs at h with hsmall
    cases h
    obtain ⟨hread, hdepth⟩ := Term.parse?_eq_some_iff.1 ht
    exact ⟨t, hread, Term.expr?_eq_some_iff.2 ⟨hdepth, ⟨flags, hf⟩, hsmall⟩⟩
  · rintro ⟨t, hread, ht⟩
    obtain ⟨hdepth, ⟨flags, hf⟩, hsmall⟩ := Term.expr?_eq_some_iff.1 ht
    simp [Term.parse?_eq_some_iff.2 ⟨hread, hdepth⟩, hf, hsmall]

/-- A term in a group between the marks for the start and the end of the text. -/
def Term.anchored (t : Term) : Term := .concat [.boundary .caret, .group [] t, .boundary .dollar]

theorem Term.depth_anchored (t : Term) : t.anchored.depth = t.depth + 2 := by
  simp [anchored, depth, depth.depthOfAll]

theorem Term.meaning?_anchored (t : Term) : t.anchored.meaning? {} =
    (t.meaning? {}).map fun (e, _) =>
      (.concatOf [.anchor .textStart, e, .anchor .textEnd], {}) := by
  simp only [anchored, meaning?, meanings?, Flags.applyAll, List.foldl_nil, Option.bind_eq_bind,
    Option.bind_some]
  cases t.meaning? {} <;> rfl

/-- Between anchors a term has two levels of nesting more. -/
theorem Term.expr?_anchored_eq_some_iff : t.anchored.expr? = some w ↔
    t.depth + 2 ≤ Term.maxDepth ∧ ∃ e, (∃ flags, t.meaning? {} = some (e, flags)) ∧
      w = .concatOf [.anchor .textStart, e, .anchor .textEnd] ∧ w.isSmall = true := by
  rw [expr?_eq_some_iff, depth_anchored, meaning?_anchored]
  constructor
  · rintro ⟨hdepth, ⟨flags, h⟩, hsmall⟩
    obtain ⟨⟨e, flags'⟩, he, hw⟩ := Option.map_eq_some_iff.1 h
    cases hw
    exact ⟨hdepth, e, ⟨flags', he⟩, rfl, hsmall⟩
  · rintro ⟨hdepth, e, ⟨flags, he⟩, rfl, hsmall⟩
    exact ⟨hdepth, ⟨{}, by rw [he]; rfl⟩, hsmall⟩

theorem opening?_colon (size : Nat) (r : List Char) :
    opening? (.start size ('?' :: ':' :: r)) = some (.group [], .start size r) := rfl

theorem body?_wrap (size fuel : Nat) (r : List Char) :
    body? (fuel + 2) (.start size ('^' :: '(' :: '?' :: ':' :: r)) [] [] =
      (body? fuel (.start size r) [] []).bind fun (body, close) =>
        afterGroup? fuel false [] [.boundary .caret] (.group []) body close := by
  have hcaret : (Cursor.start size ('^' :: '(' :: '?' :: ':' :: r)).skip.rest =
      '^' :: '(' :: '?' :: ':' :: r := rfl
  have hopen : (Cursor.start size ('(' :: '?' :: ':' :: r)).skip.rest =
      '(' :: '?' :: ':' :: r := rfl
  rw [body?_of_item hcaret (by decide)]
  exact body?_of_group hopen (opening?_colon size r) (by simp)

theorem afterGroup?_anchor (t : Term) (fuel : Nat) {close : Cursor}
    (h : close.rest = [')', '$']) :
    ∃ d, afterGroup? (fuel + 2) false [] [.boundary .caret] (.group []) t close =
      some (t.anchored, d) ∧ d.rest = [] := by
  let items : List Term := [.group [] t, .boundary .caret]
  let d : Cursor := (close.withRest []).withVerbose false
  have hdollar : ((close.withRest ['$']).withVerbose false).skip.rest = ['$'] := rfl
  have hitem : item? '$' d items = some (.boundary .dollar :: items, d) := rfl
  refine ⟨d, afterGroup?_eq_some_iff.2 ⟨['$'], h, ?_⟩, rfl⟩
  calc body? (fuel + 2) ((close.withRest ['$']).withVerbose false) [] items
      = body? (fuel + 1) d [] (.boundary .dollar :: items) := by
        rw [body?_of_item hdollar (by decide)]
        exact congrArg (Option.bind · _) hitem
    _ = some (t.anchored, d) := body?_of_atClose (.inl rfl)

/-- The text around a pattern that is read up to the closing parenthesis around it. -/
theorem read?_wrapped {p : List Char} (h : read? (p ++ [')', '$']) = some (t, [')', '$'])) :
    read? ('^' :: '(' :: '?' :: ':' :: (p ++ [')', '$'])) = some (t.anchored, []) := by
  have hlen : ('^' :: '(' :: '?' :: ':' :: (p ++ [')', '$'])).length = p.length + 6 := by simp
  have hle : (p ++ [')', '$']).length ≤ p.length + 6 := by simp
  have hlt : (p ++ [')', '$']).length < p.length + 5 := by simp
  obtain ⟨close, hbody, hclose⟩ := (exists_body?_iff hle hlt).2 h
  obtain ⟨d, hgroup, hd⟩ := afterGroup?_anchor t (p.length + 3) hclose
  refine read?_eq_some_iff.2 ⟨d, ?_, hd⟩
  rw [hlen, body?_wrap, hbody]
  exact hgroup

/-- The text around a pattern is no pattern unless reading comes to a closing parenthesis. -/
theorem exists_close_of_read?_wrapped {p r : List Char}
    (h : read? ('^' :: '(' :: '?' :: ':' :: p) = some (t, r)) :
    ∃ b q, read? p = some (b, ')' :: q) := by
  obtain ⟨d, hd, rfl⟩ := read?_eq_some_iff.1 h
  have hlen : ('^' :: '(' :: '?' :: ':' :: p).length = p.length + 4 := by simp
  rw [hlen, body?_wrap] at hd
  obtain ⟨⟨b, close⟩, hbody, hgroup⟩ := Option.bind_eq_some_iff.1 hd
  obtain ⟨q, hclose, -⟩ := afterGroup?_eq_some_iff.1 hgroup
  exact ⟨b, q, (exists_body?_iff (by omega) (by omega)).1 ⟨close, hbody, hclose⟩⟩

end Pattern

namespace AnchoredPattern

open FormLogic.Pattern FormLogic.Pattern.Parser

variable {p : String} {a : AnchoredPattern} {t : Term} {e : Expr}

theorem toList_wrap (p : String) :
    (wrap p).toList = '^' :: '(' :: '?' :: ':' :: (p.toList ++ [')', '$']) := by
  simp [wrap]

theorem ofText?_eq_some_iff : ofText? p = some a ↔
    ∃ t, read? (wrap p).toList = some (t, []) ∧ t.expr? = some a.expr ∧ a.text = wrap p := by
  simp only [ofText?, Option.map_eq_some_iff, Expr.parse?_eq_some_iff]
  constructor
  · rintro ⟨e, ⟨t, hread, ht⟩, rfl⟩
    exact ⟨t, hread, ht, rfl⟩
  · rintro ⟨t, hread, ht, htext⟩
    exact ⟨a.expr, ⟨t, hread, ht⟩, by rw [← htext]⟩

/-- A pattern that closes the group it is put in and is accepted all the same. -/
def Escapes (p : String) : Prop :=
  (∃ t y, read? p.toList = some (t, ')' :: y)) ∧ (ofText? p).isSome = true

/-- A pattern that ends in a comment, which takes in the closing parenthesis after it. -/
def EndsInComment (p : String) : Prop :=
  ∃ t, read? (p.toList ++ [')']) = some (t, [])

theorem read?_append_anchor (h : read? p.toList = some (t, [])) :
    (¬ EndsInComment p ∧ read? (p.toList ++ [')', '$']) = some (t, [')', '$'])) ∨
      (EndsInComment p ∧ read? (p.toList ++ [')', '$']) = some (t, [])) := by
  have hline : '\n' ∉ ['$'] := by decide
  rcases read?_append_close h hline with hclose | hend
  · refine .inl ⟨fun ⟨b, hb⟩ => ?_, hclose⟩
    have hshort : read? (p.toList ++ [')']) = some (t, [')']) := read?_close_congr hclose
    simp [hb] at hshort
  · rcases read?_append_close h List.not_mem_nil with hclose | hshort
    · have hlong : read? (p.toList ++ [')', '$']) = some (t, [')', '$']) :=
        read?_close_congr hclose
      simp [hend] at hlong
    · exact .inr ⟨⟨t, hshort⟩, hend⟩

/-- A text that is read to its end is accepted if its term has an expression between anchors,
unless it ends in a comment. -/
theorem ofText?_of_read? (h : read? p.toList = some (t, [])) : ofText? p = some a ↔
    ¬ EndsInComment p ∧ t.anchored.expr? = some a.expr ∧ a.text = wrap p := by
  rw [ofText?_eq_some_iff, toList_wrap]
  rcases read?_append_anchor h with ⟨hcomment, hclose⟩ | ⟨hcomment, hend⟩
  · rw [read?_wrapped hclose]
    simp [hcomment]
  · constructor
    · rintro ⟨b, hb, -⟩
      obtain ⟨c, q, hc⟩ := exists_close_of_read?_wrapped hb
      simp [hend] at hc
    · exact fun ⟨hnot, _⟩ => absurd hcomment hnot

/-- A text that is accepted is read to its end, or to a closing parenthesis in it. -/
theorem read?_of_accepted (h : ofText? p = some a) :
    (∃ t, read? p.toList = some (t, [])) ∨ Escapes p := by
  obtain ⟨b, hb, -⟩ := ofText?_eq_some_iff.1 h
  rw [toList_wrap] at hb
  obtain ⟨t, q, hq⟩ := exists_close_of_read?_wrapped hb
  have hclose : ')' ∉ ['$'] := by decide
  rcases read?_of_close hq hclose with ⟨-, hend⟩ | ⟨y, -, hstop⟩
  · exact .inl ⟨t, hend⟩
  · exact .inr ⟨⟨t, y, hstop⟩, by rw [h]; rfl⟩

theorem ofText?_isSome_of_read? (h : read? p.toList = some (t, [])) :
    (ofText? p).isSome = true ↔ ¬ EndsInComment p ∧ t.anchored.expr?.isSome = true := by
  simp only [Option.isSome_iff_exists]
  constructor
  · rintro ⟨a, ha⟩
    obtain ⟨hcomment, he, -⟩ := (ofText?_of_read? h).1 ha
    exact ⟨hcomment, a.expr, he⟩
  · rintro ⟨hcomment, e, he⟩
    exact ⟨⟨wrap p, e⟩, (ofText?_of_read? h).2 ⟨hcomment, he, rfl⟩⟩

theorem parse?_of_read? (h : read? p.toList = some (t, [])) : Expr.parse? p = t.expr? := by
  refine Option.ext fun e => ?_
  rw [Expr.parse?_eq_some_iff]
  constructor
  · rintro ⟨b, hb, he⟩
    obtain rfl : b = t := congrArg Prod.fst (Option.some.inj (hb.symm.trans h))
    exact he
  · exact fun he => ⟨t, h, he⟩

/-- When a text is accepted just when it is a pattern by itself. -/
theorem accepted_as_pattern_iff :
    ((ofText? p).isSome = true ↔ (Expr.parse? p).isSome = true) ↔
      ¬ Escapes p ∧ ∀ t, read? p.toList = some (t, []) →
        (t.expr?.isSome = true ↔ ¬ EndsInComment p ∧ t.anchored.expr?.isSome = true) := by
  constructor
  · intro hvalid
    refine ⟨fun ⟨⟨t, y, hstop⟩, hsome⟩ => ?_, fun t ht => ?_⟩
    · obtain ⟨e, he⟩ := Option.isSome_iff_exists.1 (hvalid.1 hsome)
      obtain ⟨b, hb, -⟩ := Expr.parse?_eq_some_iff.1 he
      simp [hstop] at hb
    · rw [← ofText?_isSome_of_read? ht, hvalid, parse?_of_read? ht]
  · rintro ⟨hescapes, hlimits⟩
    constructor
    · intro h
      obtain ⟨a, ha⟩ := Option.isSome_iff_exists.1 h
      rcases read?_of_accepted ha with ⟨t, ht⟩ | hesc
      · rw [parse?_of_read? ht, hlimits t ht, ← ofText?_isSome_of_read? ht]
        exact h
      · exact absurd hesc hescapes
    · intro h
      obtain ⟨e, he⟩ := Option.isSome_iff_exists.1 h
      obtain ⟨t, ht, het⟩ := Expr.parse?_eq_some_iff.1 he
      rw [ofText?_isSome_of_read? ht, ← hlimits t ht, het]
      rfl

/-- Where a text is a pattern by itself and is accepted, a text passes if the pattern matches all of
it. -/
theorem accepts_iff (ha : ofText? p = some a) (he : Expr.parse? p = some e) (s : String) :
    a.accepts s = true ↔ e.MatchesWhole s := by
  obtain ⟨t, hread, ht⟩ := Expr.parse?_eq_some_iff.1 he
  obtain ⟨-, hanchored, -⟩ := (ofText?_of_read? hread).1 ha
  obtain ⟨-, f, ⟨flags, hf⟩, hw, -⟩ := Term.expr?_anchored_eq_some_iff.1 hanchored
  obtain ⟨-, ⟨flags', hf'⟩, -⟩ := Term.expr?_eq_some_iff.1 ht
  obtain rfl : f = e := congrArg Prod.fst (Option.some.inj (hf.symm.trans hf'))
  rw [accepts, hw]
  exact Expr.isFoundIn_anchored f s

/-- Whether a text is accepted just when it is a pattern by itself, and then passes those texts that
the pattern matches as a whole. -/
def AnchorsWhole (p : String) : Prop :=
  ((ofText? p).isSome = true ↔ (Expr.parse? p).isSome = true) ∧
    ∀ a e, ofText? p = some a → Expr.parse? p = some e → ∀ label s,
      (Rule.pattern a).check label (.str s) = none ↔ e.MatchesWhole s

theorem check_pattern_iff (ha : ofText? p = some a) (he : Expr.parse? p = some e)
    (label s : String) :
    (Rule.pattern a).check label (.str s) = none ↔ e.MatchesWhole s := by
  have hrule : (Rule.pattern a).accepts (.str s) = a.accepts s := rfl
  rw [← accepts_iff ha he, Rule.check, hrule]
  cases a.accepts s <;> simp

/-- A pattern is anchored whole if it does not close the group around it, and if, read by itself,
it is within the limits just when it is so between the anchors and does not end in a comment. A text
that is a pattern by itself and is accepted is anchored in any case. -/
theorem anchorsWhole_iff (p : String) :
    (AnchorsWhole p ↔ ¬ Escapes p ∧ ∀ t, read? p.toList = some (t, []) →
      (t.expr?.isSome = true ↔ ¬ EndsInComment p ∧ t.anchored.expr?.isSome = true)) ∧
    ∀ a e, ofText? p = some a → Expr.parse? p = some e → ∀ label s,
      (Rule.pattern a).check label (.str s) = none ↔ e.MatchesWhole s := by
  have hwhole (a : AnchoredPattern) (e : Expr) (ha : ofText? p = some a)
      (he : Expr.parse? p = some e) (label s : String) :
      (Rule.pattern a).check label (.str s) = none ↔ e.MatchesWhole s :=
    check_pattern_iff ha he label s
  exact ⟨(and_iff_left hwhole).trans accepted_as_pattern_iff, hwhole⟩

theorem anchorsWhole_iff_branches : AnchorsWhole "a|bc" := by
  obtain ⟨t, ht, hself, hanchored⟩ : ∃ t, read? "a|bc".toList = some (t, []) ∧
      t.expr?.isSome = true ∧ t.anchored.expr?.isSome = true :=
    ⟨_, rfl, by decide, by decide⟩
  have hclose : (read? ("a|bc".toList ++ [')'])).map Prod.snd = some [')'] := by decide
  have hcomment : ¬ EndsInComment "a|bc" := fun ⟨b, hb⟩ => by
    cases (congrArg (Option.map Prod.snd) hb).symm.trans hclose
  refine (anchorsWhole_iff "a|bc").1.2 ⟨fun ⟨⟨b, y, hb⟩, _⟩ => ?_, fun b hb => ?_⟩
  · cases hb.symm.trans ht
  · cases hb.symm.trans ht
    simp [hself, hanchored, hcomment]

/-- The first branch is anchored at the start alone. -/
theorem not_anchorsWhole_escaping : ¬ AnchorsWhole "a)|(?:b" ∧
    ∃ a, ofText? "a)|(?:b" = some a ∧ (Rule.pattern a).check "Code" (.str "ax") = none := by
  refine ⟨fun h => ?_, _, rfl, by decide⟩
  have hself : Expr.parse? "a)|(?:b" = none := by decide
  have hsome : (ofText? "a)|(?:b").isSome = true := by decide
  simpa [hself] using h.1.1 hsome

end AnchoredPattern
end FormLogic
