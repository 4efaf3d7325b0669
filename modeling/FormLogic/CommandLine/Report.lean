import FormLogic.Resolve.Engine
import FormLogic.Schema.Writer

/-!
# Reports as values

How results are laid out as objects: the fields stand in a fixed order, and those
that say nothing are left out where noted.
-/
namespace FormLogic

namespace Value

def ofStrings (texts : List String) : Value := .arr (texts.map .str)

end Value

def Diagnostic.toValue (d : Diagnostic) : Value :=
  .obj [("kind", .str d.kind.name), ("subject", .str d.subject), ("path", .str d.path),
    ("message", .str d.message)]

def Issue.toValue (i : Issue) : Value :=
  .obj [("path", .str i.path), ("message", .str i.message), ("severity", .str i.severity.name)]

def MissingField.toValue (m : MissingField) : Value :=
  .obj [("path", .str m.path), ("label", .str m.label)]

/-- The name of a kind; null for an unknown type. -/
def Kind.toValue? (kind : Option Kind) : Value := (kind.map fun k => Value.str k.name).getD .null

namespace Instance

mutual
/-- An instance with its children and rows, if it has any. -/
def toValue : Instance → Value
  | ⟨node, kind, path, hidden, children, rows⟩ =>
    .obj ([("type", .str node.type), ("kind", Kind.toValue? kind), ("path", .str path),
        ("hidden", .bool hidden)]
      ++ (if children.isEmpty then [] else [("children", .arr (toValues children))])
      ++ (if rows.isEmpty then [] else [("rows", .arr (rowsToValues rows))]))
def toValues : List Instance → List Value
  | [] => []
  | i :: rest => toValue i :: toValues rest
def rowsToValues : List (List Instance) → List Value
  | [] => []
  | row :: rest => .arr (toValues row) :: rowsToValues rest
end

end Instance

def treeToValue (tree : List Instance) : Value := .arr (Instance.toValues tree)

namespace CommandLine

def treeField (wanted : Bool) (tree : List Instance) : List (String × Value) :=
  if wanted then [("tree", treeToValue tree)] else []

/-- The report of a resolution with the notes taken on the way. -/
def resolutionReport (withTree : Bool) (r : Resolution) (notes : List Diagnostic) : Value :=
  .obj ([("values", r.values), ("cleared", Value.ofStrings r.cleared), ("passes", .ofNat r.passes),
      ("converged", .bool r.converged), ("validators", Value.ofStrings r.validators.paths),
      ("missing", .arr (r.missing.map MissingField.toValue))]
    ++ (if notes.isEmpty then [] else [("diagnostics", .arr (notes.map Diagnostic.toValue))])
    ++ treeField withTree r.tree)

def passReport (withTree : Bool) (o : Visibility.Outcome) : Value :=
  .obj ([("values", o.values), ("cleared", Value.ofStrings o.cleared)] ++ treeField withTree o.tree)

def validationReport (r : Resolution) (report : ValidationReport) : Value :=
  .obj [("valid", .bool report.isValid), ("issues", .arr (report.issues.map Issue.toValue)),
    ("missing", .arr (r.missing.map MissingField.toValue))]

end CommandLine
end FormLogic
