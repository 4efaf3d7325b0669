import FormLogic.Registry.Basic

/-!
# The standard node types

Texts, numbers, choices, files and addresses are leaves; fieldsets, panels, wells
and contents are groups; columns are a layout; grids are repeaters. A leaf that is
hidden and to be cleared takes its default again, and so its default is what
clearing leaves behind.
-/
namespace FormLogic.Standard

/-- The declared default, or else what `otherwise` gives. -/
def declaredOr (otherwise : Node → Value) (node : Node) : Value :=
  node.defaultValue.getD (otherwise node)

/-- The default of a leaf: declared, or an empty list for many values and an empty text for one. -/
def emptyValue : Node → Value :=
  declaredOr fun node => if node.multiple then .arr [] else .str ""

/-- Every named option of an object of options, not checked. -/
def options (node : Node) : Value :=
  let listed := ((node.extra.lookup "values").bind Value.items?).getD []
  let names := listed.filterMap fun option => nonempty? ((option.field? "value").bind Value.str?)
  .obj (Fields.ofEntries (names.map fun name => (name, .bool false)))

/-- Take the default again when cleared. -/
def resetTo (default : Node → Value) (node : Node) (state : HideState) (_ : Option Value) :
    Option Value :=
  if state.clear then some (default node) else none

/-- The refinement of a node that names plugin checks. Without a collaborator they are skipped,
which is noted under the key of the node. -/
def pluginRefinement (node : Node) (collaborator : Option Collaborator) :
    Noted (Option Refinement) :=
  if node.validate.plugins.isEmpty then pure none
  else
    match collaborator with
    | some run => pure (some (run node.validate.plugins))
    | none => do
      Noted.note (.missingPlugins node.validate.plugins (node.key?.getD ""))
      pure none

/-- What every validator has: the label, whether a value is required or asked for, the message of
the node, and its plugin checks. -/
def baseValidator (node : Node) (collaborator : Option Collaborator) : Noted Validator := do
  let refinement ← pluginRefinement node collaborator
  pure {
    label := node.breadcrumbLabel
    isOptional := !node.validate.required
    isSoftRequired := node.validate.softRequired
    message := nonempty? node.validate.customMessage
    refinement }

/-- A rule, if its bound is given. -/
def bounded {α : Type} (rule : α → Rule) (bound : Option α) : List Rule := (bound.map rule).toList

def itemCounts (node : Node) : List Rule :=
  bounded .minItems node.validate.minItems ++ bounded .maxItems node.validate.maxItems

def listRules (node : Node) : List Rule := .shape .array :: itemCounts node

/-- The rules of one text: its length and its pattern. -/
def textRules (node : Node) : Except FormError (List Rule) :=
  let lengths :=
    bounded .minLength node.validate.minLength ++ bounded .maxLength node.validate.maxLength
  match nonempty? node.validate.pattern with
  | none => .ok (.shape .string :: lengths)
  | some pattern =>
    match AnchoredPattern.ofText? pattern with
    | some p => .ok (.shape .string :: lengths ++ [.pattern p])
    | none => .error (.invalidSchema (.invalidPattern node.breadcrumbLabel))

def numberRules (node : Node) : List Rule :=
  .shape .number :: bounded .min node.validate.min ++ bounded .max node.validate.max

def validatorWith (rules : Node → Except FormError (List Rule)) (node : Node)
    (collaborator : Option Collaborator) : Noted Validator := do
  let base ← baseValidator node collaborator
  let rules ← Noted.ofExcept (rules node)
  pure { base with rules }

/-- The rules of a leaf that may hold many values. -/
def ruledBy (single : Node → Except FormError (List Rule)) (node : Node) :
    Except FormError (List Rule) :=
  if node.multiple then .ok (listRules node) else single node

/-- A leaf with a default, a notion of empty, and rules. -/
def leaf (default : Node → Value) (isEmpty : Option Value → Bool)
    (rules : Node → Except FormError (List Rule)) : NodeType where
  kind := .leaf
  default := some default
  isEmpty := some fun _ => isEmpty
  applyVisibility := some (resetTo default)
  validator := some (validatorWith rules)

/-- A leaf with one value or many, empty when blank. -/
def scalarLeaf (rules : Node → Except FormError (List Rule)) : NodeType :=
  leaf emptyValue Value.isBlank (ruledBy rules)

def text : NodeType := scalarLeaf textRules

def email : NodeType := scalarLeaf fun node => do
  let rules ← textRules node
  pure (rules ++ [.email])

def number : NodeType := scalarLeaf fun node => .ok (numberRules node)

def select : NodeType := scalarLeaf fun _ => .ok []

def isTicked (v : Option Value) : Bool := (v.map Value.isTrue).getD false

def checkbox : NodeType :=
  leaf (declaredOr fun _ => .bool false) (fun v => !isTicked v) fun node =>
    .ok (.shape .boolean :: if node.validate.required then [.mustBeTrue] else [])

def selectBoxes : NodeType :=
  leaf (declaredOr options) (fun v => !(v.map Value.anyChecked).getD false) fun node =>
    .ok (.shape .object :: if node.validate.required then [.anyChecked] else [])

def file : NodeType :=
  leaf (declaredOr fun _ => .arr []) Value.isBlank fun node => .ok (listRules node)

def address : NodeType :=
  leaf (declaredOr fun _ => .empty) Value.isBlank fun _ => .ok [.shape .object]

/-- The rules of a list of rows; a required one needs a row at least. -/
def rowRules (node : Node) : List Rule :=
  let declared := node.validate.minItems.getD 0
  let least := if node.validate.required then max declared 1 else declared
  .shape .array :: (if 0 < least then [.minItems least] else [])
    ++ bounded .maxItems node.validate.maxItems

/-- A repeater starts without rows, whatever default is declared. -/
def repeater : NodeType where
  kind := .repeater
  default := some fun _ => .arr []
  isEmpty := some fun _ => Value.isBlank
  applyVisibility := some (resetTo fun _ => .arr [])
  validator := some (validatorWith fun node => .ok (rowRules node))

def group : NodeType := { kind := .group }

def layout : NodeType := { kind := .layout }

def types : List (String × NodeType) :=
  (["textfield", "textarea", "phoneNumber", "hidden", "radio", "datetime", "day", "time"].map
    (·, text))
    ++ [("email", email)]
    ++ (["number", "currency"].map (·, number))
    ++ [("select", select), ("checkbox", checkbox), ("selectboxes", selectBoxes), ("file", file),
      ("address", address)]
    ++ (["fieldset", "panel", "well", "content"].map (·, group))
    ++ [("columns", layout)]
    ++ (["editgrid", "datagrid"].map (·, repeater))

end FormLogic.Standard

namespace FormLogic

def Registry.standard : Registry := Registry.empty.registerAll Standard.types

end FormLogic
