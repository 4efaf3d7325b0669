import FormLogic.Value.Access

/-!
# Errors

What stops the reading of a schema or a resolver. Failed validations are not
errors: they are issues of a report.
-/
namespace FormLogic

/-- A capability a type can lack. -/
inductive Capability where
  | applyVisibility
deriving DecidableEq, Repr, Inhabited

namespace Capability

def name : Capability → String
  | applyVisibility => "applyVisibility"

end Capability

/-- Why a schema cannot be used. -/
inductive SchemaFault where
  /-- The document is neither a list of nodes nor an object with components. -/
  | notNodes (found : Value)
  /-- The pattern of the node with this label is no regular expression. -/
  | invalidPattern (label : String)
  /-- A fault that a registered type states in its own words. -/
  | stated (message : String)
deriving Inhabited

namespace SchemaFault

/-- What a document is, when it is no schema. -/
def describe : Value → String
  | .null => "null"
  | .bool _ => "a boolean"
  | .num _ => "a number"
  | .str _ => "a string"
  | .arr _ => "an array"
  | .obj _ => "an object without 'components'"

def message : SchemaFault → String
  | notNodes found =>
    "expected an array of nodes or an object with 'components', got " ++ describe found
  | invalidPattern label => "invalid pattern on '" ++ label ++ "'"
  | stated message => message

end SchemaFault

/-- An error in a schema, in a registration, or in a document. -/
inductive FormError where
  /-- A node is used where its type needs a capability that it lacks. -/
  | missingCapability (type path : String) (capability : Capability)
  | invalidSchema (fault : SchemaFault)
  /-- A value cannot be written at a path. -/
  | invalidPath (path : String) (fault : PathFault)
  /-- The text is no document. -/
  | malformed
  /-- The document does not have the shape of a schema. -/
  | misshapen
deriving Inhabited

namespace FormError

def message : FormError → String
  | missingCapability type path capability =>
    "type '" ++ type ++ "' at '" ++ path ++ "' does not provide the " ++ capability.name
      ++ " capability"
  | invalidSchema fault => "invalid schema: " ++ fault.message
  | invalidPath path fault => "cannot address '" ++ path ++ "': " ++ fault.reason
  | malformed | misshapen => "JSON error"

end FormError

/-- Write at a path or say what is in the way. -/
def Value.setOrError (v : Value) (path : String) (new : Value) : Except FormError Value :=
  match v.set path new with
  | (w, none) => .ok w
  | (_, some fault) => .error (.invalidPath path fault)

end FormLogic
