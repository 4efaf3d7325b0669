import FormLogic.Error
import FormLogic.Number.Literal
import FormLogic.Schema.Node
import FormLogic.Value.Reader

/-!
# Schemas from values

A schema is read from a list of nodes, or from an object with the list under
`components`. A null stands for an absent optional attribute and is refused for
any other. Numeric attributes are lenient: they may be texts, and what is no
usable number is read as absent. The demands and the condition of a node may also
be lists of their fields in order.
-/
namespace FormLogic

namespace Fields

/-- An attribute that is absent or null, or is read by `read`; `none` if that fails. -/
def optional? {α : Type} (read : Value → Option α) (key : String) (fields : Fields) :
    Option (Option α) :=
  match fields.lookup key with
  | none | some .null => some none
  | some v => (read v).map some

/-- An attribute with a default; a null is no default. -/
def withDefault? {α : Type} (read : Value → Option α) (default : α) (key : String)
    (fields : Fields) : Option α :=
  match fields.lookup key with
  | none => some default
  | some v => read v

end Fields

namespace Value

def bool? : Value → Option Bool
  | .bool b => some b
  | _ => none

def strings? : Value → Option (List String)
  | .arr items => items.mapM str?
  | _ => none

/-- A count given as a number or as text. -/
def lenientCount : Value → Option Nat
  | .str s => Literal.word? (trimBlank s)
  | .num (.int n) => if 0 ≤ n then some n.toNat else none
  | _ => none

/-- A bound given as a number or as text. -/
def lenientBound : Value → Option Binary64
  | .str s => Literal.float? (trimBlank s)
  | .num n => some n.toBinary64
  | _ => none

/-- The fields of an object, or of a list that holds them in the order of `names`. -/
def fieldsIn? (names : List String) : Value → Option Fields
  | .obj fields => some fields
  | .arr items => if items.length ≤ names.length then some (names.zip items) else none
  | _ => none

end Value

namespace Conditional

def fieldNames : List String := ["show", "when", "eq"]

def ofValue? (v : Value) : Option Conditional := do
  let fields ← v.fieldsIn? fieldNames
  let shown ← fields.optional? some "show"
  let source ← fields.optional? Value.str? "when"
  let expected ← fields.optional? some "eq"
  some { shown, source, expected }

end Conditional

namespace Demands

def fieldNames : List String :=
  ["required", "softRequired", "minLength", "maxLength", "pattern", "min", "max", "minItems",
    "maxItems", "plugins", "customMessage"]

def ofValue? (v : Value) : Option Demands := do
  let fields ← v.fieldsIn? fieldNames
  let required ← fields.withDefault? Value.bool? false "required"
  let softRequired ← fields.withDefault? Value.bool? false "softRequired"
  let pattern ← fields.optional? Value.str? "pattern"
  let plugins ← fields.withDefault? Value.strings? [] "plugins"
  let customMessage ← fields.optional? Value.str? "customMessage"
  let count (key : String) : Option Nat := (fields.lookup key).bind Value.lenientCount
  let bound (key : String) : Option Binary64 := (fields.lookup key).bind Value.lenientBound
  some {
    required, softRequired, pattern, plugins, customMessage
    minLength := count "minLength"
    maxLength := count "maxLength"
    min := bound "min"
    max := bound "max"
    minItems := count "minItems"
    maxItems := count "maxItems" }

end Demands

namespace Attributes

/-- The attributes that are interpreted here. All others are kept as they are. -/
def fieldNames : List String :=
  ["type", "key", "label", "hidden", "clearOnHide", "conditional", "validate", "multiple",
    "defaultValue", "components", "columns", "rowLabel"]

def ofFields? (fields : Fields) : Option Attributes := do
  let type ← (fields.lookup "type").bind Value.str?
  let key ← fields.optional? Value.str? "key"
  let label ← fields.optional? Value.str? "label"
  let hidden ← fields.withDefault? Value.bool? false "hidden"
  let clearOnHide ← fields.withDefault? Value.bool? true "clearOnHide"
  let conditional ← fields.optional? Conditional.ofValue? "conditional"
  let validate ← fields.withDefault? Demands.ofValue? {} "validate"
  let multiple ← fields.withDefault? Value.bool? false "multiple"
  let defaultValue ← fields.optional? some "defaultValue"
  let rowLabel ← fields.optional? Value.str? "rowLabel"
  some {
    type, key, label, hidden, clearOnHide, conditional, validate, multiple, defaultValue, rowLabel
    extra := Fields.ofEntries (fields.without fieldNames) }

end Attributes

namespace Node

mutual
/-- A node is an object with a type. -/
def ofValue? : Value → Option Node
  | .obj fields => do
    let attributes ← Attributes.ofFields? fields
    let components ← componentsIn? fields
    let columns ← columnsIn? fields
    some { toAttributes := attributes, components, columns }
  | _ => none
/-- The nodes under `components`, none if there is no such entry. -/
def componentsIn? : List (String × Value) → Option (List Node)
  | [] => some []
  | (key, v) :: rest => if key = "components" then nodes? v else componentsIn? rest
def nodes? : Value → Option (List Node)
  | .arr items => nodesOf? items
  | _ => none
def nodesOf? : List Value → Option (List Node)
  | [] => some []
  | v :: rest => do
    let node ← ofValue? v
    let nodes ← nodesOf? rest
    some (node :: nodes)
/-- The columns under `columns`, none if there is no such entry. -/
def columnsIn? : List (String × Value) → Option (List Column)
  | [] => some []
  | (key, v) :: rest => if key = "columns" then columns? v else columnsIn? rest
def columns? : Value → Option (List Column)
  | .arr items => columnsOf? items
  | _ => none
def columnsOf? : List Value → Option (List Column)
  | [] => some []
  | v :: rest => do
    let column ← column? v
    let columns ← columnsOf? rest
    some (column :: columns)
def column? : Value → Option Column
  | .obj fields => do
    let components ← componentsIn? fields
    some { components, extra := Fields.ofEntries (Fields.without ["components"] fields) }
  | _ => none
end

end Node

namespace Schema

def ofValue (v : Value) : Except FormError Schema :=
  let nodes? : Option (Option (List Node)) :=
    match v with
    | .arr _ => some (Node.nodes? v)
    | .obj fields => (fields.lookup "components").map Node.nodes?
    | _ => none
  match nodes? with
  | some (some components) => .ok { components }
  | some none => .error .misshapen
  | none => .error (.invalidSchema (.notNodes v))

/-- Read a schema from the text of a document. -/
def ofText (text : String) : Except FormError Schema :=
  match Value.parse? text with
  | some v => ofValue v
  | none => .error .malformed

end Schema
end FormLogic
