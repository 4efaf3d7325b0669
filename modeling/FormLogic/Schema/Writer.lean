import FormLogic.Schema.Node

/-!
# Schemas as values

The normal form of a schema: flags are always written, optional attributes when
they are present, lists when they are not empty, and kept attributes last, so
that they win over an attribute of the same name.
-/
namespace FormLogic

namespace Fields

/-- One entry if there is a value. -/
def entry? (key : String) (v : Option Value) : List (String × Value) :=
  match v with
  | some v => [(key, v)]
  | none => []

end Fields

namespace Value

def ofNat (n : Nat) : Value := .num (.int n)

/-- A binary64 number; what is no finite number is null. -/
def ofBinary64 (x : Binary64) : Value := if x.isFinite then .num (.float x) else .null

end Value

def Conditional.toValue (c : Conditional) : Value :=
  .obj (Fields.ofEntries (Fields.entry? "show" c.shown ++ Fields.entry? "when" (c.source.map .str)
    ++ Fields.entry? "eq" c.expected))

def Demands.toValue (d : Demands) : Value :=
  .obj (Fields.ofEntries (
    [("required", .bool d.required), ("softRequired", .bool d.softRequired)]
      ++ Fields.entry? "minLength" (d.minLength.map .ofNat)
      ++ Fields.entry? "maxLength" (d.maxLength.map .ofNat)
      ++ Fields.entry? "pattern" (d.pattern.map .str)
      ++ Fields.entry? "min" (d.min.map .ofBinary64)
      ++ Fields.entry? "max" (d.max.map .ofBinary64)
      ++ Fields.entry? "minItems" (d.minItems.map .ofNat)
      ++ Fields.entry? "maxItems" (d.maxItems.map .ofNat)
      ++ (if d.plugins.isEmpty then [] else [("plugins", .arr (d.plugins.map .str))])
      ++ Fields.entry? "customMessage" (d.customMessage.map .str)))

/-- The entries of the attributes that stand before the children. -/
def Attributes.leadingEntries (a : Attributes) : List (String × Value) :=
  [("type", .str a.type)]
    ++ Fields.entry? "key" (a.key.map .str)
    ++ Fields.entry? "label" (a.label.map .str)
    ++ [("hidden", .bool a.hidden), ("clearOnHide", .bool a.clearOnHide)]
    ++ Fields.entry? "conditional" (a.conditional.map Conditional.toValue)
    ++ [("validate", a.validate.toValue), ("multiple", .bool a.multiple)]
    ++ Fields.entry? "defaultValue" a.defaultValue

/-- The entries of the attributes that stand after the children. -/
def Attributes.trailingEntries (a : Attributes) : List (String × Value) :=
  Fields.entry? "rowLabel" (a.rowLabel.map .str) ++ a.extra

namespace Node

mutual
def toValue : Node → Value
  | ⟨attributes, components, columns⟩ =>
    .obj (Fields.ofEntries (
      attributes.leadingEntries
        ++ (if components.isEmpty then [] else [("components", .arr (nodesToValues components))])
        ++ (if columns.isEmpty then [] else [("columns", .arr (columnsToValues columns))])
        ++ attributes.trailingEntries))
def nodesToValues : List Node → List Value
  | [] => []
  | n :: rest => toValue n :: nodesToValues rest
def columnsToValues : List Column → List Value
  | [] => []
  | ⟨components, extra⟩ :: rest =>
    .obj (Fields.ofEntries (("components", .arr (nodesToValues components)) :: extra))
      :: columnsToValues rest
end

end Node

/-- A schema as an object with the list of its nodes. -/
def Schema.toValue (s : Schema) : Value :=
  .obj [("components", .arr (Node.nodesToValues s.components))]

end FormLogic
