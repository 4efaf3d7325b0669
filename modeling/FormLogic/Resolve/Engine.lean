import FormLogic.Resolve.Initial
import FormLogic.Resolve.Missing
import FormLogic.Resolve.Validators
import FormLogic.Resolve.Visibility

/-!
# Resolving a form

Passes are repeated until one leaves the values as they are, or until their
number reaches a limit. Validators and missing values are then derived from the
tree of the last pass.
-/
namespace FormLogic

/-- A schema, what it is resolved with, and how many passes may be run. -/
structure Engine where
  schema : Schema
  context : Context
  maxPasses : Nat
  maxPasses_pos : 0 < maxPasses

/-- What repeated passes come to. -/
structure Settled where
  values : Value
  /-- The tree of the last pass. -/
  tree : List Instance
  /-- Every path that was reset, the first reset first. -/
  cleared : List String
  passes : Nat
  /-- The last pass changed nothing. -/
  converged : Bool

/-- Everything derived from one store of values. -/
structure Resolution extends Settled where
  validators : ValidatorMap
  missing : List MissingField

namespace Engine

/-- Add the paths that are not there yet. -/
def addPaths (known : List String) (paths : List String) : List String :=
  paths.foldl (fun known path => if known.contains path then known else known ++ [path]) known

def initialValues (engine : Engine) : Noted Value :=
  FormLogic.initialValues engine.context engine.schema.components

def resolveOnce (engine : Engine) (values : Value) : Noted Visibility.Outcome :=
  Visibility.run engine.context engine.schema.components values

/-- Run pass number `done + 1` and, while the values change, up to `left` more. -/
def settleFrom (engine : Engine) (left done : Nat) (cleared : List String) (values : Value) :
    Noted Settled := do
  let outcome ← engine.resolveOnce values
  let cleared := addPaths cleared outcome.cleared
  let settled (converged : Bool) : Settled :=
    { values := outcome.values, tree := outcome.tree, cleared, passes := done + 1, converged }
  if outcome.values == values then pure (settled true)
  else
    match left with
    | 0 => pure (settled false)
    | left + 1 => settleFrom engine left (done + 1) cleared outcome.values

/-- Repeat passes until the values stand still or the limit is reached. -/
def settle (engine : Engine) (values : Value) : Noted Settled :=
  settleFrom engine (engine.maxPasses - 1) 0 [] values

/-- Settle the values, then derive validators and missing values. -/
def resolve (engine : Engine) (values : Value) : Noted Resolution := do
  let settled ← engine.settle values
  let validators ← validatorsOf engine.context settled.tree
  let missing := missingFields engine.context settled.tree settled.values
  pure { settled with validators, missing }

/-- Resolve, then validate every value that has a validator. -/
def validate (engine : Engine) (values : Value) : Noted (Resolution × ValidationReport) := do
  let resolution ← engine.resolve values
  pure (resolution, resolution.validators.validate resolution.values)

end Engine
end FormLogic
