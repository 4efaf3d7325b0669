import FormLogic.Schema.Node

/-!
# Instances

A visibility pass turns nodes into instances: each node once outside repeaters,
and once for each row inside them.
-/
namespace FormLogic

/-- A node at the place where a pass met it. -/
structure Instance where
  node : Node
  /-- Absent when the type is unknown. -/
  kind : Option Kind
  path : String
  /-- Hidden by its own condition or by an ancestor's. -/
  hidden : Bool
  /-- The instances of the children, unless the node is a leaf or a repeater. -/
  children : List Instance := []
  /-- The instances of a repeater's children, row by row. -/
  rows : List (List Instance) := []

instance : Inhabited Instance := ⟨{ node := default, kind := none, path := "", hidden := false }⟩

namespace Instance

def ownsValue (i : Instance) : Bool := i.node.ownsSegment i.kind

mutual
/-- The first instance, depth first, that owns the value at a path. -/
def find? (path : String) : Instance → Option Instance
  | ⟨node, kind, own, hidden, children, rows⟩ =>
    if node.ownsSegment kind && own == path then some ⟨node, kind, own, hidden, children, rows⟩
    else findIn? path children <|> findInRows? path rows
def findIn? (path : String) : List Instance → Option Instance
  | [] => none
  | i :: rest => find? path i <|> findIn? path rest
def findInRows? (path : String) : List (List Instance) → Option Instance
  | [] => none
  | row :: rest => findIn? path row <|> findInRows? path rest
end

mutual
/-- The instance and all below it: a node before its children, a repeater before its rows. -/
def flatten : Instance → List Instance
  | ⟨node, kind, path, hidden, children, rows⟩ =>
    ⟨node, kind, path, hidden, children, rows⟩ :: (flattenAll children ++ flattenRows rows)
def flattenAll : List Instance → List Instance
  | [] => []
  | i :: rest => flatten i ++ flattenAll rest
def flattenRows : List (List Instance) → List Instance
  | [] => []
  | row :: rest => flattenAll row ++ flattenRows rest
end

end Instance
end FormLogic
