import FormLogic.Registry.Standard

/-!
# Initial values

The values of a fresh form: the default of every leaf and no rows for every
repeater, each at its path. Groups, layouts and nodes of unknown type add nothing
of their own, and templates are not entered, since a fresh repeater has no rows.
-/
namespace FormLogic

/-- The default of a leaf, which without the capability is the usual empty value. -/
def NodeType.initial (t : NodeType) (node : Node) : Value :=
  (t.default.map fun default => default node).getD (Standard.emptyValue node)

/-- Enter the initial values of a node below a parent path. -/
def seed (ctx : Context) : Node → String → Value → Noted Value :=
  Node.recurse fun node below parent values =>
    let type := ctx.typeOf node
    let kind := type.map (·.kind)
    let path := node.pathBelow parent kind none
    let children (values : Value) : Noted Value :=
      below.foldlM (fun values seedChild => seedChild path values) values
    match type with
    | none => do
      Noted.note (.unknownType node.type path)
      children values
    | some t =>
      match t.kind with
      | .leaf =>
        if node.ownsSegment kind then .ofExcept (values.setOrError path (t.initial node))
        else pure values
      | .repeater =>
        if node.ownsSegment kind then .ofExcept (values.setOrError path (.arr [])) else pure values
      | .group | .layout => children values

def initialValues (ctx : Context) (nodes : List Node) : Noted Value :=
  nodes.foldlM (fun values node => seed ctx node "" values) .empty

end FormLogic
