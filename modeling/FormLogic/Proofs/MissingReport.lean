import FormLogic.Proofs.Unfilled

/-!
# The report of missing values

The report names, in the order of the tree, the shown values that are asked for and empty,
each with the labels that lead to it. That is what is found by looking at each instance
alone, although the report first cuts the tree down by looking at templates and numbers the
rows of what is left.
-/
namespace FormLogic

open Visibility

/-- Whether the value of an instance is empty, as the type of its node sees it, or else blank. -/
def Instance.isEmptyIn (ctx : Context) (values : Value) (i : Instance) : Bool :=
  match (ctx.typeOf i.node).bind (·.isEmpty) with
  | some isEmpty => isEmpty i.node (values.get? i.path)
  | none => Value.isBlank (values.get? i.path)

theorem Instance.isEmptyIn_eq (ctx : Context) (values : Value) (i : Instance) :
    i.isEmptyIn ctx values = Missing.isMissing ctx values i := by
  unfold isEmptyIn Missing.isMissing
  cases ctx.typeOf i.node with
  | none => rfl
  | some t =>
    change (match t.isEmpty with
      | some isEmpty => isEmpty i.node (values.get? i.path)
      | none => Value.isBlank (values.get? i.path)) = t.deemsEmpty i.node (values.get? i.path)
    unfold NodeType.deemsEmpty
    cases t.isEmpty <;> rfl

/-- After any pass the report is the list, in the order of the tree, of the instances that are not
hidden, own a value, ask for it and have none in the values that are reported on. The label of an
entry leads through the labels of the groups around it, through each repeater and the number of the
row in it, to the label of the node. -/
theorem missingFields_of_pass {ctx : Context} {nodes : List Node} {before : Value}
    {outcome : Outcome} (h : (run ctx nodes before).outcome = .ok outcome) (values : Value) :
    missingFields ctx outcome.tree values =
      ((Location.ofTree outcome.tree).filter fun l => !l.self.hidden && l.self.ownsValue &&
        l.self.node.validate.softRequired && l.self.isEmptyIn ctx values).map fun l =>
          ⟨l.self.path, " > ".intercalate (l.trail ++ [l.self.node.breadcrumbLabel])⟩ := by
  rw [missingFields_eq_entries h, Location.entries]
  refine congrArg (List.map _) (List.filter_congr fun l _ => ?_)
  rw [Instance.isUnfilled, Instance.isEmptyIn_eq]

namespace Household

def context : Context := ⟨Registry.standard, Conditions.declarative, none⟩

def name : Node :=
  { type := "textfield", key := some "name", label := some "Name"
    validate := { softRequired := true } }

def toys : Node :=
  { type := "datagrid", key := some "toys", rowLabel := some "Toy", components := [name]
    validate := { softRequired := true } }

def pets : Node :=
  { type := "editgrid", key := some "pets", label := some "Pets", components := [toys] }

/-- A layout in a group, and something of an unknown type around the pets. -/
def form : List Node :=
  [{ type := "panel", label := some "Household", components :=
      [{ type := "columns", label := some "Left", components :=
        [{ type := "mystery", label := some "Middle", components := [pets] }] }] },
    { name with hidden := true }]

/-- The first pet has two toys, and the second has none. -/
def values : Value :=
  .obj [("pets", .arr [.obj [("toys", .arr [.obj [("name", .str "Ball")], .obj []])],
    .obj [("toys", .arr [])]])]

theorem exists_outcome : ∃ o, (run context form values).outcome = .ok o ∧
    missingFields context o.tree values =
      [⟨"pets.0.toys.1.name", "Household > Pets > Row 1 > toys > Toy 2 > Name"⟩,
        ⟨"pets.1.toys", "Household > Pets > Row 2 > toys"⟩] :=
  Noted.exists_of_toOption (run context form values)
    (fun o => missingFields context o.tree values) (by decide +kernel)

end Household

open Household in
/-- The second toy of the first pet has no name, and the second pet has no toys. -/
theorem missingFields_of_pass_household : ∃ o, (run context form values).outcome = .ok o ∧
    (((Location.ofTree o.tree).filter fun l => !l.self.hidden && l.self.ownsValue &&
      l.self.node.validate.softRequired && l.self.isEmptyIn context values).map fun l =>
        (⟨l.self.path, " > ".intercalate (l.trail ++ [l.self.node.breadcrumbLabel])⟩ :
          MissingField)) =
      [⟨"pets.0.toys.1.name", "Household > Pets > Row 1 > toys > Toy 2 > Name"⟩,
        ⟨"pets.1.toys", "Household > Pets > Row 2 > toys"⟩] := by
  obtain ⟨o, ho, hmissing⟩ := exists_outcome
  exact ⟨o, ho, (missingFields_of_pass ho values).symm.trans hmissing⟩

end FormLogic
