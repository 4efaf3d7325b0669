import FormLogic.Proofs.DecidableTrees
import FormLogic.Proofs.PassEffect
import FormLogic.Proofs.Settling
import FormLogic.Proofs.ShownFields

/-!
# The rows of a tree are those of its values

The rows of a repeater are counted in the middle of a pass, when its type was applied, and
the rows themselves and all that comes later still write. In a clean schema, whatever the
types, the writes of the rows keep the list as long as it is, and what comes later writes
elsewhere. So each repeater ends with one row for each row of its list, and its validator
with one map of validators for each row.
-/
namespace FormLogic

open FormLogic.Path (segments)
open Visibility

namespace Visibility

variable {ctx : Context} {before : Value}

/-- The instance comes from a visit, after which the pass came to `final` by writes elsewhere. -/
structure LeftBy (ctx : Context) (before : Value) (final : Progress) (i : Instance) (place : Place)
    (inherited : HideState) (s s' : Progress) : Prop where
  clean : Clean ctx [i.node]
  visited : Visited ctx before i.node place inherited s i s'
  later : WroteApart ctx [i.node] (segments place.base) s' final

/-- Some visit left the instance so. -/
def Left (ctx : Context) (before : Value) (final : Progress) (i : Instance) : Prop :=
  ∃ place inherited s s', LeftBy ctx before final i place inherited s s'

theorem left_of_sweep {nodes : List Node} (hc : Clean ctx nodes) {place : Place}
    {inherited : HideState} {s s' final : Progress} {is : List Instance}
    (h : Sweep (fun n => visit ctx before n place inherited) nodes s is s')
    (hl : WroteApart ctx nodes (segments place.base) s' final) {i : Instance} (hi : i ∈ is) :
    Left ctx before final i := by
  have hn := h.node_mem hi
  obtain ⟨m, m', hv, -, ha⟩ := visit_of_mem hc h hi
  exact ⟨place, inherited, m, m', hc.of_mem hn, hv, ha.trans (hl.mono fun q hq => hq.of_mem hn)⟩

variable {final : Progress} {i c : Instance}

theorem Left.child (h : Left ctx before final i) (hc : c ∈ i.children) :
    Left ctx before final c := by
  obtain ⟨place, inherited, s, s', hclean, hv, hl⟩ := h
  obtain ⟨hk, hs⟩ := hv.sweep_children hc
  refine left_of_sweep (hclean.children_of_container hk) hs ?_ hc
  rw [hv.path_eq, place.base_inside (owns_of_container hk)]
  exact hl.mono fun q hq => hq.of_container hk

theorem Left.inRow (h : Left ctx before final i) {row : List Instance} (hr : row ∈ i.rows)
    (hc : c ∈ row) : Left ctx before final c := by
  obtain ⟨place, inherited, s, s', hclean, hv, hl⟩ := h
  obtain ⟨index, hindex⟩ := List.mem_iff_getElem?.1 hr
  obtain ⟨t, m, -, hk, ho, -, hrows⟩ := hv.sweep_rows hindex
  obtain ⟨m₁, m₂, hs, -, ha⟩ := row_of_sweep hrows hindex
  refine left_of_sweep (hclean.children_of_repeater hk) hs (ha.trans (hl.mono fun q hq => ?_)) hc
  exact place.beneath_of_owns ho (hv.path_eq ▸ hq.prefix_of_row)

end Visibility

namespace ValidatorMap

variable {m : ValidatorMap} {path other : String} {v : Validator}

end ValidatorMap

namespace Field

mutual
/-- In the map of validators below `base`, a list has a validator with one map for each row that the
values have at its path, and in these the same holds of the lists of the row. -/
def PairsRows (values : Value) (base : String) (m : ValidatorMap) : Field → Prop
  | ⟨_, path, isList, rows⟩ => isList = true → ∃ own maps,
      m.find? (Path.relative base path) = some (Validator.and own (.rows maps)) ∧
      maps.length = rowCount values path ∧ PairsInRows values path 0 maps rows
def PairsRowsAll (values : Value) (base : String) (m : ValidatorMap) : List Field → Prop
  | [] => True
  | f :: rest => PairsRows values base m f ∧ PairsRowsAll values base m rest
def PairsInRows (values : Value) (path : String) (index : Nat) (maps : List ValidatorMap) :
    List (List Field) → Prop
  | [] => maps = []
  | row :: rest => ∃ m more, maps = m :: more ∧ PairsRowsAll values (Path.row path index) m row ∧
      PairsInRows values path (index + 1) more rest
end

variable {values : Value} {base : String} {m entered : ValidatorMap} {f : Field}

end Field

namespace Visibility

open Instance (fieldsAll)

variable {ctx : Context} {before : Value}

/-- What a node that owns a value adds to the path of its parent. -/
def keyText (n : Node) : String := n.key?.getD ""

variable {final : Progress} {i : Instance}

end Visibility

namespace Engine

namespace Shelves

/-- A list that takes two empty rows when it has none, and no rows when it has some. -/
def shelf : NodeType where
  kind := .repeater
  applyVisibility := some fun _ _ current =>
    some (.arr (if Value.isBlank current then [.empty, .empty] else []))

def context : Context :=
  { registry := Registry.standard.register "shelf" shelf, conditions := Conditions.declarative }

/-- Cleared in every row. -/
def note : Node := { type := "textfield", key := some "note", hidden := true }

def label : Node := { type := "textfield", key := some "label" }

def toys : Node := { type := "shelf", key := some "toys", components := [note, label] }

def engine : Engine where
  schema := ⟨[toys]⟩
  context := context
  maxPasses := 3
  maxPasses_pos := Nat.succ_pos 2

def noteInstance (path : String) : Instance :=
  { node := note, kind := some .leaf, path, hidden := true }

def labelInstance (path : String) : Instance :=
  { node := label, kind := some .leaf, path, hidden := false }

def toysInstance : Instance :=
  { node := toys, kind := some .repeater, path := "toys", hidden := false, rows := [
    [noteInstance "toys.0.note", labelInstance "toys.0.label"],
    [noteInstance "toys.1.note", labelInstance "toys.1.label"]] }

theorem exists_resolution : ∃ r, (engine.resolve .empty).outcome = .ok r ∧
    (r.converged, r.tree) = (false, [toysInstance]) :=
  Noted.exists_of_toOption (engine.resolve .empty) (fun r => (r.converged, r.tree))
    (by decide +kernel)

end Shelves

end Engine
end FormLogic
