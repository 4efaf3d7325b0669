import FormLogic.Proofs.FlatValidation
import FormLogic.Proofs.Unfilled

/-!
# The shown fields of a tree

Validators and the report of missing values take little from a tree: the shown instances
that own a value, with their paths and rows and with what the types of their nodes say. The
containers around them are passed through. They give breadcrumbs their labels, and nothing
else.
-/
namespace FormLogic

open Visibility

/-- What validators and the report of missing values take from a node. -/
structure Judgement where
  label : String
  /-- An empty value is worth a warning. -/
  asked : Bool
  validator : Except FormError (Option Validator)
  deemsEmpty : Option Value → Bool

/-- A shown instance that owns a value, with the fields of its rows. -/
structure Field where
  judgement : Judgement
  path : String
  isList : Bool
  rows : List (List Field)

def Context.judge (ctx : Context) (n : Node) : Judgement where
  label := n.breadcrumbLabel
  asked := n.validate.softRequired
  validator := (Instance.ownValidator ctx n).outcome
  deemsEmpty value :=
    match ctx.typeOf n with
    | some t => t.deemsEmpty n value
    | none => Value.isBlank value

namespace Instance

mutual
/-- The fields of an instance: its own, or those of its children. -/
def fields (ctx : Context) : Instance → List Field
  | ⟨node, kind, path, hidden, children, rows⟩ =>
    if hidden then []
    else
      match kind with
      | some .leaf => if node.ownsSegment kind then [⟨ctx.judge node, path, false, []⟩] else []
      | some .repeater =>
        if node.ownsSegment kind then [⟨ctx.judge node, path, true, fieldsRows ctx rows⟩] else []
      | _ => fieldsAll ctx children
def fieldsAll (ctx : Context) : List Instance → List Field
  | [] => []
  | i :: rest => fields ctx i ++ fieldsAll ctx rest
def fieldsRows (ctx : Context) : List (List Instance) → List (List Field)
  | [] => []
  | row :: rest => fieldsAll ctx row :: fieldsRows ctx rest
end

section Fields

variable {ctx : Context} {i : Instance}

theorem fieldsAll_eq (is : List Instance) : fieldsAll ctx is = is.flatMap (fields ctx) := by
  induction is with
  | nil => rfl
  | cons i rest ih => rw [fieldsAll, ih, List.flatMap_cons]

theorem fieldsAll_append (is js : List Instance) :
    fieldsAll ctx (is ++ js) = fieldsAll ctx is ++ fieldsAll ctx js := by
  simp only [fieldsAll_eq, List.flatMap_append]

end Fields

end Instance

namespace Field

mutual
/-- Enter the validators of a field, by path relative to `base`. -/
def enter (base : String) : Field → ValidatorMap → Except FormError ValidatorMap
  | ⟨judgement, path, isList, rows⟩, entered => do
    let v? ← judgement.validator
    if isList then do
      let maps ← enterRows path 0 rows
      let v := (v?.getD { label := judgement.label, isOptional := true }).and (.rows maps)
      pure (entered.insert (Path.relative base path) v)
    else
      match v? with
      | some v => pure (entered.insert (Path.relative base path) v)
      | none => pure entered
def enterAll (base : String) : List Field → ValidatorMap → Except FormError ValidatorMap
  | [], entered => pure entered
  | f :: rest, entered => do
    let entered ← enter base f entered
    enterAll base rest entered
def enterRows (path : String) (index : Nat) :
    List (List Field) → Except FormError (List ValidatorMap)
  | [] => pure []
  | row :: rest => do
    let m ← enterAll (Path.row path index) row []
    let more ← enterRows path (index + 1) rest
    pure (m :: more)
end

end Field

namespace Instance

section Enter

variable {ctx : Context}

end Enter

end Instance

namespace Field

mutual
/-- The paths of what is asked for and not filled in, a list before its rows. -/
def missing (values : Value) : Field → List String
  | ⟨judgement, path, _, rows⟩ =>
    (if judgement.asked && judgement.deemsEmpty (values.get? path) then [path] else [])
      ++ missingRows values rows
def missingAll (values : Value) : List Field → List String
  | [] => []
  | f :: rest => missing values f ++ missingAll values rest
def missingRows (values : Value) : List (List Field) → List String
  | [] => []
  | row :: rest => missingAll values row ++ missingRows values rest
end

variable {values : Value}

end Field

section Report

variable {ctx : Context} {nodes : List Node} {before values : Value} {outcome : Outcome}

end Report

end FormLogic
