import FormLogic.Proofs.Addressing

/-!
# Paths put together and taken apart

Validators, conditions and reports address values inside a row by paths relative to the row, and
the store by whole paths. The two agree: reading at a joined path is reading below what the first
part leads to, the path of a row leads to that row, and a path seen from a base is what was put
below the base. Joining works on texts and reading on segments, so empty texts and empty segments
have to come out right on both sides.
-/
namespace FormLogic

section Reading

variable {v : Value} {path : String} {items : List Value}

theorem Value.get?_join (v : Value) (a b : String) :
    v.get? (Path.join a b) = (v.get? a).bind fun below => below.get? b := by
  rw [get?, Path.segments_join, follow_append]
  rfl

/-- A row is read at its number, as long as the number fits a word. -/
theorem Value.get?_row (h : v.get? path = some (.arr items)) {n : Nat} (hn : n ≤ Literal.wordMax) :
    v.get? (Path.row path n) = items[n]? := by
  rw [Path.row, get?_join, h, Option.bind_some, get?, Path.segments_toString]
  simp only [follow, child?, Path.index?_toString, if_pos hn, Option.bind_some]
  cases items[n]? <;> rfl

end Reading

namespace Path

theorem after?_eq_some_iff {front cs rest : List Char} :
    after? front cs = some rest ↔ cs = front ++ rest := by
  induction front generalizing cs with
  | nil => simp [after?]
  | cons c front ih =>
    cases cs with
    | nil => simp [after?]
    | cons d cs =>
      by_cases hc : c = d
      · simp [after?, hc, ih]
      · simp [after?, hc, Ne.symm hc]

section Relative

variable {base : String}

/-- What stands below a base and a separator is what is seen from the base. -/
theorem relative_below (hb : base ≠ "") (rest : String) :
    relative base (base ++ String.singleton separator ++ rest) = rest := by
  have hl : (base ++ String.singleton separator ++ rest).toList =
      (base.toList ++ [separator]) ++ rest.toList := by
    simp [String.toList_append]
  rw [relative, if_neg hb, after?_eq_some_iff.2 hl]
  exact String.ofList_toList

/-- From elsewhere a path is seen as it is. -/
theorem relative_beside {path : String}
    (h : ∀ rest, path ≠ base ++ String.singleton separator ++ rest) :
    relative base path = path := by
  unfold relative
  split
  · rfl
  · cases hr : after? (base.toList ++ [separator]) path.toList with
    | none => rfl
    | some rest =>
      have hl := after?_eq_some_iff.1 hr
      refine absurd ?_ (h (String.ofList rest))
      rw [← String.toList_inj, hl]
      simp [String.toList_append]

/-- Seen from where it was put, a key is itself. -/
theorem relative_join (base : String) {key : String} (hk : key ≠ "") :
    relative base (join base key) = key := by
  by_cases hb : base = ""
  · rw [hb]
    rfl
  · rw [join, if_neg hb, if_neg hk]
    exact relative_below hb key

end Relative

/-- Paths inside something and whole paths agree: a joined path leads where its second part leads
from what the first part leads to, and the path of a row to that row of a list. What was put below a
base is seen from it as it was, and so is what follows the base and a separator, while any other
path is seen from the base as it is. -/
theorem laws_of_joining :
    (∀ (v : Value) (a b : String),
      v.get? (join a b) = (v.get? a).bind fun below => below.get? b) ∧
    (∀ (v : Value) (a : String) (items : List Value) (n : Nat), n ≤ Literal.wordMax →
      v.get? a = some (.arr items) → v.get? (row a n) = items[n]?) ∧
    (∀ base key : String, key ≠ "" → relative base (join base key) = key) ∧
    ∀ base : String, base ≠ "" →
      (∀ rest, relative base (base ++ String.singleton separator ++ rest) = rest) ∧
      ∀ path, (∀ rest, path ≠ base ++ String.singleton separator ++ rest) →
        relative base path = path :=
  ⟨Value.get?_join, fun _ _ _ _ hn h => Value.get?_row h hn, fun base _ hk => relative_join base hk,
    fun _ hb => ⟨relative_below hb, fun _ h => relative_beside h⟩⟩

namespace Orders

def second : Value := .obj [("n", .num (.int 2))]

def items : List Value := [.obj [("n", .num (.int 1))], second]

def values : Value := .obj [("shop", .obj [("rows", .arr items)])]

end Orders

open Orders in
/-- The second row is read at its path, and its number by a path inside the row. Such a path comes
back from the row, and a path inside row 10 is not seen as one inside row 1. -/
theorem laws_of_joining_orders :
    values.get? (row "shop.rows" 1) = some second ∧
    values.get? (join ".shop." "rows.1.n") = some (.num (.int 2)) ∧
    relative "rows.1" (join "rows.1" "n") = "n" ∧
    relative "rows.1" "rows.10.n" = "rows.10.n" := by
  obtain ⟨hjoin, hrow, hbelow, hseen⟩ := laws_of_joining
  refine ⟨hrow values "shop.rows" items 1 (by decide) rfl, ?_, hbelow "rows.1" "n" (by decide),
    (hseen "rows.1" (by decide)).2 "rows.10.n" fun rest h => ?_⟩
  · rw [hjoin]
    rfl
  · -- After the base comes a digit and no separator.
    have hchars := congrArg (fun s : String => s.toList[6]?) h
    rw [String.toList_append, List.getElem?_append_left (by decide)] at hchars
    exact absurd hchars (by decide)

end Path
end FormLogic
