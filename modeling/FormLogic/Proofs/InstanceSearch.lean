import FormLogic.Proofs.DistinctPaths

/-!
# Finding instances by their paths

A path names one place of a clean schema: in the tree of a pass no two instances own the value
at one path, whatever the registry and the conditions, and however deep the rows are nested.
So a search by path, which goes depth first and ends at the first instance that it meets, can
miss none.
-/
namespace FormLogic

namespace Instance

/-- Where paths are distinct, no path has two instances. -/
theorem length_filter_path_le {is : List Instance} (hd : (ownedPaths is).Nodup) (path : String) :
    ((flattenAll is).filter fun i => i.ownsValue && i.path == path).length ≤ 1 := by
  have hcount : ((flattenAll is).filter fun i => i.ownsValue && i.path == path).length =
      (ownedPaths is).count path := by
    rw [ownedPaths, List.count, List.countP_map, List.countP_eq_length_filter, List.filter_filter]
    refine congrArg List.length (List.filter_congr fun i _ => ?_)
    rw [Function.comp_apply, Bool.and_comm]
  rw [hcount]
  exact List.nodup_iff_count_le_one.1 hd path

/-- So what a search finds is all there is at a path. -/
theorem filter_path_eq {is : List Instance} (hd : (ownedPaths is).Nodup) (path : String) :
    ((flattenAll is).filter fun i => i.ownsValue && i.path == path) =
      (findIn? path is).toList := by
  have hle := length_filter_path_le hd path
  rw [findIn?_eq, ← List.head?_filter]
  cases hf : (flattenAll is).filter fun i => i.ownsValue && i.path == path with
  | nil => rfl
  | cons i rest =>
    rw [hf, List.length_cons] at hle
    have hrest : rest = [] := List.eq_nil_of_length_eq_zero (by omega)
    rw [hrest, List.head?_cons, Option.toList_some]

end Instance

namespace Visibility

variable {ctx : Context} {nodes : List Node} {before : Value} {outcome : Outcome}

/-- In the tree of a pass the instances that own a value have pairwise different paths, and
searching for a path finds the one instance that owns the value there, or nothing if there is
none. -/
theorem found_by_path (hc : Clean ctx nodes) (h : (run ctx nodes before).outcome = .ok outcome) :
    ((Instance.flattenAll outcome.tree).filter Instance.ownsValue).Pairwise
        (fun i j => i.path ≠ j.path) ∧
      ∀ path, ((Instance.flattenAll outcome.tree).filter fun i =>
        i.ownsValue && i.path == path) = (Instance.findIn? path outcome.tree).toList := by
  have hd := nodup_ownedPaths hc h
  exact ⟨List.pairwise_map.1 hd, fun path => Instance.filter_path_eq hd path⟩

namespace Archive

def context : Context := ⟨Registry.standard, Conditions.declarative, none⟩

/-- A label under a key of two segments, within a panel. -/
def panel : Node :=
  { type := "panel", components := [{ type := "textfield", key := some "label.text" }] }

def sheets : Node :=
  { type := "datagrid", key := some "sheets"
    components := [{ type := "textfield", key := some "text" }] }

def boxes : Node := { type := "editgrid", key := some "boxes", components := [panel, sheets] }

/-- The second box has a sheet, the others have none. -/
def values : Value :=
  let empty : Value := .obj []
  let filled : Value := .obj [("sheets", .arr [.obj []])]
  .obj [("boxes", .arr (empty :: filled :: List.replicate 9 empty))]

theorem exists_outcome : ∃ o, (run context [boxes] values).outcome = .ok o ∧
    ["boxes.10.label.text", "boxes.1.sheets.0.text", "boxes.1.0"].map
      (fun path => (Instance.findIn? path o.tree).map (·.path)) =
        [some "boxes.10.label.text", some "boxes.1.sheets.0.text", none] :=
  Noted.exists_of_toOption (run context [boxes] values) _ (by decide)

end Archive

open Archive in
/-- The label of the last box is the one instance at its path, and there is none at a path of digits
that runs the numbers of two rows together. -/
theorem found_by_path_archive : ∃ o, (run context [boxes] values).outcome = .ok o ∧
    ((Instance.flattenAll o.tree).filter fun i =>
      i.ownsValue && i.path == "boxes.10.label.text").length = 1 ∧
    ((Instance.flattenAll o.tree).filter fun i => i.ownsValue && i.path == "boxes.1.0") = [] := by
  obtain ⟨o, ho, hfound⟩ := exists_outcome
  have hc : Clean context [boxes] := by decide
  obtain ⟨-, hsearch⟩ := found_by_path hc ho
  simp only [List.map_cons, List.cons.injEq, Option.map_eq_some_iff, Option.map_eq_none_iff]
    at hfound
  obtain ⟨⟨i, hi, -⟩, -, hnone, -⟩ := hfound
  refine ⟨o, ho, ?_, ?_⟩
  · rw [hsearch, hi]
    rfl
  · rw [hsearch, hnone]
    rfl

end Visibility
end FormLogic
