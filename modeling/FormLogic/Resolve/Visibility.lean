import FormLogic.Registry.Basic
import FormLogic.Resolve.Instance

/-!
# One visibility pass

A pass reads every condition on the values as they were before it, and writes what
it clears to the values after it. A node is hidden when its own condition or an
ancestor says so. It is cleared when it is hidden and it or an ancestor so hidden
asks for clearing. The rows of a repeater are those it has once it has been cleared
itself, and the rows of a hidden repeater that was not cleared are left as they
are.
-/
namespace FormLogic

namespace Visibility

/-- What a pass has done so far. -/
structure Progress where
  values : Value
  /-- The paths that were reset, in the order of the tree. -/
  cleared : List String := []

/-- A step of a pass. -/
abbrev Pass := StateT Progress Noted

/-- Where a node stands. -/
structure Place where
  parent : String := ""
  /-- The row, for the children of a repeater. -/
  index : Option Nat := none
  /-- The innermost row around the node, as it was before the pass. -/
  row : Option Value := none
  /-- Inside the rows of a hidden repeater, where nothing is written. -/
  keep : Bool := false

/-- How a node stands by its own condition and its parent's state. -/
def stateOf (node : Node) (hides : Bool) (inherited : HideState) : HideState :=
  let hidden := hides || inherited.hidden
  ⟨hidden, hidden && (node.clearOnHide || inherited.clear)⟩

/-- Write at a path and report it, or fail. -/
def reset (path : String) (new : Value) : Pass Unit := fun progress =>
  match progress.values.setOrError path new with
  | .ok values => .ok ((), ⟨values, progress.cleared ++ [path]⟩)
  | .error e => .fail e

/-- Replace the value at a path if the type asks for another one. -/
def apply (t : NodeType) (node : Node) (path : String) (state : HideState) : Pass Unit := do
  let current := (← get).values.get? path
  match t.replacement? node state current with
  | none => pure ()
  | some new => if current == some new then pure () else reset path new

/-- The first node of a template, itself included, that owns a value and cannot be cleared. -/
def templateFault? (ctx : Context) : Node → String → Option FormError :=
  Node.recurse fun node below parent =>
    let type := ctx.typeOf node
    let kind := type.map (·.kind)
    let path := node.pathBelow parent kind none
    match type with
    | some t =>
      if node.ownsSegment kind && t.applyVisibility.isNone then
        some (.missingCapability node.type path .applyVisibility)
      else below.findSome? fun fault => fault path
    | none => below.findSome? fun fault => fault path

/-- Fail unless every node of a repeater's template can be cleared, whether or not there are rows.
-/
def checkTemplate (ctx : Context) (node : Node) (path : String) : Pass Unit :=
  match node.children.findSome? fun child => templateFault? ctx child path with
  | some e => StateT.lift (.fail e)
  | none => pure ()

/-- The number of rows at a path. -/
def rowCount (values : Value) (path : String) : Nat :=
  (((values.get? path).bind Value.items?).map List.length).getD 0

def visit (ctx : Context) (before : Value) : Node → Place → HideState → Pass Instance :=
  Node.recurse fun node below place inherited => do
    let type := ctx.typeOf node
    let kind := type.map (·.kind)
    let path := node.pathBelow place.parent kind place.index
    let state := stateOf node (ctx.conditions node ⟨before, place.row, path⟩) inherited
    let owns := node.ownsSegment kind
    let children : Pass (List Instance) :=
      below.mapM fun visitChild => visitChild { place with parent := path, index := none } state
    match type with
    | none => do
      StateT.lift (Noted.note (.unknownType node.type path))
      return { node, kind, path, hidden := state.hidden, children := ← children }
    | some t =>
      match t.kind with
      | .leaf => do
        if owns && !place.keep then apply t node path state
        return { node, kind, path, hidden := state.hidden }
      | .repeater =>
        if owns then do
          checkTemplate ctx node path
          if !place.keep then apply t node path state
          let count := rowCount (← get).values path
          let rows ← (List.range count).mapM fun index =>
            below.mapM fun visitChild =>
              visitChild
                { parent := path, index := some index, row := before.get? (Path.row path index)
                  keep := place.keep || state.hidden }
                state
          return { node, kind, path, hidden := state.hidden, rows }
        else return { node, kind, path, hidden := state.hidden }
      | .group | .layout =>
        return { node, kind, path, hidden := state.hidden, children := ← children }

/-- What a pass leaves. -/
structure Outcome where
  values : Value
  tree : List Instance
  /-- The paths that were reset, in the order of the tree. -/
  cleared : List String

/-- Run one pass over the values. -/
def run (ctx : Context) (nodes : List Node) (values : Value) : Noted Outcome := do
  let (tree, progress) ← (nodes.mapM fun node => visit ctx values node {} {}).run { values }
  pure ⟨progress.values, tree, progress.cleared⟩

end Visibility
end FormLogic
