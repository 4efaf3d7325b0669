import FormLogic.Proofs.IndependentWrites

/-!
# What is read after writes

Among plainly spelled places, of which no two write one row number differently, a place is
apart from another one, leads to it, or lies below it. So what is read at a place after a
list of writes depends on what was read there before and on the writes alone, and writes
apart from it do not count.
-/
namespace FormLogic

open FormLogic.Path (Apart index? segments)

namespace Path

/-- Row numbers are written as numerals, without a sign or leading zeros. -/
def Plain (p : List String) : Prop := ∀ s ∈ p, ∀ i, index? s = some i → s = toString i

namespace Plain

variable {p q : List String}

theorem of_names (h : ∀ s ∈ p, index? s = none) : Plain p := fun s hs i hi => by
  rw [h s hs] at hi
  cases hi

theorem numeral (n : Nat) : Plain [toString n] := fun s hs i hi => by
  obtain rfl := List.mem_singleton.1 hs
  rw [index?_toString] at hi
  split at hi
  · rw [Option.some.inj hi]
  · cases hi

theorem append (hp : Plain p) (hq : Plain q) : Plain (p ++ q) := fun s hs => by
  rcases List.mem_append.1 hs with hs | hs
  · exact hp s hs
  · exact hq s hs

/-- Plain places are apart unless one leads to the other. -/
theorem apart (hp : Plain p) (hq : Plain q) (hpq : ¬ p <+: q) (hqp : ¬ q <+: p) : Apart p q := by
  induction p generalizing q with
  | nil => exact absurd List.nil_prefix hpq
  | cons a as ih =>
    cases q with
    | nil => exact absurd List.nil_prefix hqp
    | cons b bs =>
      by_cases he : a = b
      · subst he
        simp only [Apart, if_true]
        simp only [List.cons_prefix_cons, true_and] at hpq hqp
        exact ih (fun s hs => hp s (List.mem_cons_of_mem a hs))
          (fun s hs => hq s (List.mem_cons_of_mem a hs)) hpq hqp
      · simp only [Apart, he, if_false]
        intro i ha hb
        exact he ((hp a List.mem_cons_self i ha).trans (hq b List.mem_cons_self i hb).symm)

end Plain

end Path

namespace Value

/-- Seen from a place it passes through, a write is a write there, where nothing counts as an empty
object. -/
theorem exists_follow_write_below {new v w : Value} {q rest : List String}
    (h : write new (q ++ rest) v = (w, none)) :
    ∃ y, w.follow q = some y ∧ write new rest ((v.follow q).getD empty) = (y, none) := by
  induction q generalizing v w with
  | nil => exact ⟨w, rfl, h⟩
  | cons s q ih =>
    by_cases hr : q ++ rest = []
    · obtain ⟨rfl, rfl⟩ := List.append_eq_nil_iff.1 hr
      exact ⟨new, follow_write_self h, rfl⟩
    · obtain ⟨below, hbelow, hw⟩ := (entered_of_write h).child?_self hr
      obtain ⟨y, hy, hw⟩ := ih hw
      refine ⟨y, by rw [follow, hbelow]; exact hy, ?_⟩
      rw [follow]
      cases hc : v.child? s with
      | some old => rwa [hc] at hw
      | none =>
        rw [hc] at hw
        cases q with
        | nil => exact hw
        | cons t q => exact hw

/-- What is read at a place after a write, by what was read there before. -/
def readAfter (q : List String) (read : Option Value) (e : String × Value) : Option Value :=
  if q <+: segments e.1 then
    some (write e.2 ((segments e.1).drop q.length) (read.getD empty)).1
  else if segments e.1 <+: q then e.2.follow (q.drop (segments e.1).length)
  else read

variable {q : List String} {e : String × Value} {v w : Value}

theorem readAfter_of_apart (h : Apart (segments e.1) q) (read : Option Value) :
    readAfter q read e = read := by
  rw [readAfter, if_neg fun hp => Path.not_apart_of_isPrefix hp h.symm,
    if_neg fun hp => Path.not_apart_of_isPrefix hp h]

theorem follow_write (hq : Path.Plain q) (he : Path.Plain (segments e.1))
    (h : write e.2 (segments e.1) v = (w, none)) : w.follow q = readAfter q (v.follow q) e := by
  by_cases hqe : q <+: segments e.1
  · obtain ⟨rest, hrest⟩ := hqe
    rw [← hrest] at h
    obtain ⟨y, hy, hw⟩ := exists_follow_write_below h
    rw [hy, readAfter, ← hrest, if_pos (List.prefix_append q rest), List.drop_left, hw]
  · by_cases heq : segments e.1 <+: q
    · obtain ⟨rest, rfl⟩ := heq
      rw [follow_append, follow_write_self h, readAfter, if_neg hqe,
        if_pos (List.prefix_append _ rest), List.drop_left, Option.bind_some]
    · have hapart := he.apart hq heq hqe
      rw [follow_write_of_apart hapart h, readAfter_of_apart hapart]

variable {ws vs : List (String × Value)}

/-- What is read after writes is told by what was read before and by the writes. -/
theorem follow_writeAll (hq : Path.Plain q) (he : ∀ e ∈ ws, Path.Plain (segments e.1))
    (h : writeAll ws v = .ok w) : w.follow q = ws.foldl (readAfter q) (v.follow q) := by
  induction ws generalizing v with
  | nil => exact congrArg (fun v => follow v q) (Except.ok.inj h).symm
  | cons e rest ih =>
    obtain ⟨m, hm, h⟩ := writeAll_cons_eq_ok.1 h
    rw [ih (fun e' he' => he e' (List.mem_cons_of_mem e he')) h, List.foldl_cons,
      follow_write hq (he e List.mem_cons_self) hm]

/-- Writes apart from a place do not count there. -/
theorem foldl_readAfter_filter {counts : String × Value → Bool}
    (h : ∀ e ∈ ws, counts e = false → Apart (segments e.1) q) (read : Option Value) :
    ws.foldl (readAfter q) read = (ws.filter counts).foldl (readAfter q) read := by
  induction ws generalizing read with
  | nil => rfl
  | cons e rest ih =>
    have hrest := ih fun e' he' => h e' (List.mem_cons_of_mem e he')
    cases hc : counts e with
    | true => rw [List.filter_cons_of_pos hc, List.foldl_cons, List.foldl_cons, hrest]
    | false =>
      rw [List.filter_cons_of_neg (by simp [hc]), List.foldl_cons, hrest,
        readAfter_of_apart (h e List.mem_cons_self hc)]

end Value

end FormLogic
