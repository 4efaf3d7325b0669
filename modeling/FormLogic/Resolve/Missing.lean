import FormLogic.Registry.Basic
import FormLogic.Resolve.Instance

/-!
# Missing values

The visible values that are asked for and not filled in, each with the labels
that lead to it. The tree is first cut down to what can contribute; whether a
value is filled in is read only then.
-/
namespace FormLogic

/-- A value that is asked for and not filled in. -/
structure MissingField where
  path : String
  label : String
deriving DecidableEq, Repr, Inhabited

namespace Missing

/-- What stands between labels that lead to a value. -/
def separator : String := " > "

/-- The part of a tree that can contribute. -/
inductive Candidate where
  | field (i : Instance)
  | container (label : Option String) (members : List Candidate)
  | repeater (i : Instance) (soft : Bool) (rows : List (List Candidate))

/-- Whether a node or one below it asks for a value. -/
def asks : Node → Bool :=
  Node.recurse fun node below => node.validate.softRequired || below.any id

/-- Whether a node below this one asks for a value. -/
def asksBelow (node : Node) : Bool := node.children.any asks

/-- The label that a container adds: only groups add one. -/
def containerLabel (node : Node) (kind : Option Kind) : Option String :=
  match kind with
  | some .group => node.displayLabel?
  | _ => none

mutual
/-- What can contribute in an instance. -/
def prune : Instance → Option Candidate
  | ⟨node, kind, path, hidden, children, rows⟩ =>
    let self : Instance := ⟨node, kind, path, hidden, children, rows⟩
    let soft := node.validate.softRequired
    if hidden then none
    else
      match kind with
      | some .leaf => if self.ownsValue && soft then some (.field self) else none
      | some .repeater =>
        if !self.ownsValue then none
        else if !asksBelow node then if soft then some (.field self) else none
        else
          let rows := pruneRows rows
          if soft || rows.any fun row => !row.isEmpty then some (.repeater self soft rows) else none
      | _ =>
        let members := pruneAll children
        if members.isEmpty then none else some (.container (containerLabel node kind) members)
def pruneAll : List Instance → List Candidate
  | [] => []
  | i :: rest => (prune i).toList ++ pruneAll rest
def pruneRows : List (List Instance) → List (List Candidate)
  | [] => []
  | row :: rest => pruneAll row :: pruneRows rest
end

/-- Whether the value of an instance is not filled in, as its type sees it. -/
def isMissing (ctx : Context) (values : Value) (i : Instance) : Bool :=
  let value := values.get? i.path
  match ctx.typeOf i.node with
  | some t => t.deemsEmpty i.node value
  | none => Value.isBlank value

/-- The entry of an instance that is not filled in, below the labels that lead to it. -/
def reportOf (ctx : Context) (values : Value) (crumbs : List String) (i : Instance) :
    List MissingField :=
  if isMissing ctx values i then
    [⟨i.path, separator.intercalate (crumbs ++ [i.node.breadcrumbLabel])⟩]
  else []

/-- The label of a row, numbered from one. -/
def rowLabel (node : Node) (index : Nat) : String := node.rowName ++ " " ++ toString (index + 1)

mutual
/-- The entries of a candidate below the labels that lead to it. -/
def evaluate (ctx : Context) (values : Value) (crumbs : List String) : Candidate → List MissingField
  | .field i => reportOf ctx values crumbs i
  | .container label members => evaluateAll ctx values (crumbs ++ label.toList) members
  | .repeater i soft rows =>
    (if soft then reportOf ctx values crumbs i else [])
      ++ evaluateRows ctx values (crumbs ++ [i.node.breadcrumbLabel]) i.node 0 rows
def evaluateAll (ctx : Context) (values : Value) (crumbs : List String) :
    List Candidate → List MissingField
  | [] => []
  | c :: rest => evaluate ctx values crumbs c ++ evaluateAll ctx values crumbs rest
def evaluateRows (ctx : Context) (values : Value) (crumbs : List String) (node : Node)
    (index : Nat) : List (List Candidate) → List MissingField
  | [] => []
  | row :: rest =>
    evaluateAll ctx values (crumbs ++ [rowLabel node index]) row
      ++ evaluateRows ctx values crumbs node (index + 1) rest
end

end Missing

/-- The values of a tree that are asked for and not filled in, in the order of the tree. -/
def missingFields (ctx : Context) (tree : List Instance) (values : Value) : List MissingField :=
  Missing.evaluateAll ctx values [] (Missing.pruneAll tree)

end FormLogic
