import FormLogic.Value.Basic

/-!
# Plugin checks

Checks that a schema only names and that a collaborator runs. A check that
breaks is not an error of the validation: it becomes an issue.
-/
namespace FormLogic

/-- Why a plugin check gave no answer. -/
inductive PluginError where
  /-- The named check cannot be reached. -/
  | unavailable (plugin message : String)
  /-- The check ran and broke. -/
  | failed (message : String)
deriving DecidableEq, Repr, Inhabited

namespace PluginError

def message : PluginError → String
  | unavailable plugin message => "plugin '" ++ plugin ++ "' unavailable: " ++ message
  | failed message => "plugin check failed: " ++ message

end PluginError

/-- The second phase of a validator: an answer to a value is nothing, or what is wrong with it. -/
abbrev Refinement := Value → Except PluginError (Option String)

/-- Runs the checks with the given names on a value. -/
abbrev Collaborator := List String → Refinement

end FormLogic
