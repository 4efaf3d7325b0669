import FormLogic.Registry.Basic
import FormLogic.Resolve.Instance

/-!
# Validators of a tree

Every visible instance that owns a value gets a validator, by path and in the
order of the tree. The rows of a repeater hang below the repeater's own validator,
by paths relative to the row. Hidden instances and all below them have none.
-/
namespace FormLogic

namespace Instance

/-- The validator of an instance's own value, if its type has one. -/
def ownValidator (ctx : Context) (node : Node) : Noted (Option Validator) :=
  match ctx.typeOf node with
  | none => pure none
  | some t =>
    match t.validator with
    | none => pure none
    | some build => do
      let v ← build node ctx.collaborator
      pure (some (t.withEmptiness node v))

/-- The validator of a repeater whose type has none. -/
def bareValidator (node : Node) : Validator := { label := node.breadcrumbLabel, isOptional := true }

mutual
/-- Enter the validators of an instance, by path relative to `base`. -/
def enter (ctx : Context) (base : String) : Instance → ValidatorMap → Noted ValidatorMap
  | ⟨node, kind, path, hidden, children, rows⟩, entered =>
    if hidden then pure entered
    else
      match kind with
      | some .leaf =>
        if node.ownsSegment kind then do
          let v? ← ownValidator ctx node
          match v? with
          | some v => pure (entered.insert (Path.relative base path) v)
          | none => pure entered
        else pure entered
      | some .repeater =>
        if node.ownsSegment kind then do
          let v? ← ownValidator ctx node
          let maps ← enterRows ctx path 0 rows
          let v := (v?.getD (bareValidator node)).and (.rows maps)
          pure (entered.insert (Path.relative base path) v)
        else pure entered
      | _ => enterAll ctx base children entered
/-- Enter the validators of a list of instances. -/
def enterAll (ctx : Context) (base : String) : List Instance → ValidatorMap → Noted ValidatorMap
  | [], entered => pure entered
  | i :: rest, entered => do
    let entered ← enter ctx base i entered
    enterAll ctx base rest entered
/-- One map for each row, the first numbered `index`. -/
def enterRows (ctx : Context) (path : String) (index : Nat) :
    List (List Instance) → Noted (List ValidatorMap)
  | [] => pure []
  | row :: rest => do
    let m ← enterAll ctx (Path.row path index) row []
    let more ← enterRows ctx path (index + 1) rest
    pure (m :: more)
end

end Instance

def validatorsOf (ctx : Context) (tree : List Instance) : Noted ValidatorMap :=
  Instance.enterAll ctx "" tree []

end FormLogic
