import FormLogic.Path
import FormLogic.Value.Basic

/-!
# Form schemas

A schema is a forest of nodes. A node says what it is by a type tag; whether the
tag names a leaf, a group, a layout or a repeater is not part of the node but of
the registry it is resolved with. Attributes that nothing here knows are kept as
they are.

Every walk over a node is an instance of `Node.recurse`, whose one law
`Node.recurse_eq` says that the children are visited in document order.
-/
namespace FormLogic

/-- The role a type tag plays in the tree. -/
inductive Kind where
  /-- Owns one value at its own path. -/
  | leaf
  /-- A container without a path of its own. -/
  | group
  /-- A container split into columns, without a path of its own. -/
  | layout
  /-- Owns a list of rows, each shaped like the node's children. -/
  | repeater
deriving DecidableEq, Repr, Inhabited

namespace Kind

def name : Kind → String
  | leaf => "leaf"
  | group => "group"
  | layout => "layout"
  | repeater => "repeater"

/-- Whether nodes of this kind own a path segment and a stored value. -/
def ownsPath : Kind → Bool
  | leaf | repeater => true
  | group | layout => false

end Kind

/-- A text that is present and not empty. -/
def nonempty? (s : Option String) : Option String := s.filter fun s => s != ""

/-- Show a node, or hide it, when the value at another path is the expected one. -/
structure Conditional where
  /-- Whether a match shows the node or hides it. -/
  shown : Option Value := none
  /-- The path of the value that decides. -/
  source : Option String := none
  expected : Option Value := none
deriving Inhabited, Repr

namespace Conditional

/-- Whether a match shows the node. Only the booleans and their spellings say so. -/
def shown? (c : Conditional) : Option Bool :=
  match c.shown with
  | some (.bool b) => some b
  | some (.str "true") => some true
  | some (.str "false") => some false
  | _ => none

/-- The deciding path, unless it is empty. -/
def source? (c : Conditional) : Option String := nonempty? c.source

end Conditional

/-- What a node demands of its value. -/
structure Demands where
  required : Bool := false
  /-- An empty value is worth a warning, no more. -/
  softRequired : Bool := false
  minLength : Option Nat := none
  maxLength : Option Nat := none
  pattern : Option String := none
  min : Option Binary64 := none
  max : Option Binary64 := none
  minItems : Option Nat := none
  maxItems : Option Nat := none
  /-- Names of checks that are left to a collaborator. -/
  plugins : List String := []
  /-- The text that replaces the message of every failed rule. -/
  customMessage : Option String := none
deriving Inhabited, Repr

/-- The attributes of a node, its children apart. -/
structure Attributes where
  type : String
  key : Option String := none
  label : Option String := none
  hidden : Bool := false
  clearOnHide : Bool := true
  conditional : Option Conditional := none
  validate : Demands := {}
  multiple : Bool := false
  defaultValue : Option Value := none
  rowLabel : Option String := none
  /-- Attributes that are kept and not interpreted here. -/
  extra : Fields := []
deriving Inhabited, Repr

mutual
/-- One column of a layout. -/
structure Column where
  components : List Node := []
  extra : Fields := []
/-- One element of a form schema. -/
structure Node extends Attributes where
  components : List Node := []
  columns : List Column := []
end

instance : Inhabited Node := ⟨{ type := "" }⟩

namespace Attributes

/-- The key, unless it is empty. -/
def key? (a : Attributes) : Option String := nonempty? a.key

/-- The label, or else the legend or the title, whichever is a text and not empty. -/
def displayLabel? (a : Attributes) : Option String :=
  (nonempty? a.label)
    <|> nonempty? ((a.extra.lookup "legend").bind Value.str?)
    <|> nonempty? ((a.extra.lookup "title").bind Value.str?)

/-- The label in messages and breadcrumbs: the display label, or else the key, or else the tag. -/
def breadcrumbLabel (a : Attributes) : String :=
  (a.displayLabel? <|> a.key?).getD a.type

/-- What one row of a repeater is called, without its number. -/
def rowName (a : Attributes) : String := (nonempty? a.rowLabel).getD "Row"

/-- Whether a node owns a path segment when its tag stands for `kind`: a leaf or repeater with a
key. -/
def ownsSegment (a : Attributes) (kind : Option Kind) : Bool :=
  (kind.map Kind.ownsPath).getD false && a.key?.isSome

/-- The path of a node below `parent`. Below a repeater the row comes first; a node that owns no
segment has the path of its parent. -/
def pathBelow (a : Attributes) (parent : String) (kind : Option Kind) (row : Option Nat) : String :=
  let base :=
    match row with
    | some index => Path.row parent index
    | none => parent
  match a.key? with
  | some key => if a.ownsSegment kind then Path.join base key else base
  | none => base

end Attributes

namespace Node

/-- All children in document order: the components, then those of each column. -/
def children (n : Node) : List Node := n.components ++ n.columns.flatMap (·.components)

mutual
/-- Recursion over a node: `step` is given the node and what became of its children. -/
def recurse {α : Type} (step : Node → List α → α) : Node → α
  | ⟨attributes, components, columns⟩ =>
    step ⟨attributes, components, columns⟩
      (recurseNodes step components ++ recurseColumns step columns)
def recurseNodes {α : Type} (step : Node → List α → α) : List Node → List α
  | [] => []
  | n :: rest => recurse step n :: recurseNodes step rest
def recurseColumns {α : Type} (step : Node → List α → α) : List Column → List α
  | [] => []
  | ⟨components, _⟩ :: rest => recurseNodes step components ++ recurseColumns step rest
end

theorem recurseNodes_eq_map {α : Type} (step : Node → List α → α) (nodes : List Node) :
    recurseNodes step nodes = nodes.map (recurse step) := by
  induction nodes with
  | nil => rfl
  | cons n rest ih => simp [recurseNodes, ih]

theorem recurseColumns_eq_map {α : Type} (step : Node → List α → α) (columns : List Column) :
    recurseColumns step columns = (columns.flatMap (·.components)).map (recurse step) := by
  induction columns with
  | nil => rfl
  | cons c rest ih =>
    cases c
    simp [recurseColumns, recurseNodes_eq_map, ih]

/-- The law of recursion: a step sees the results of the children in document order. -/
theorem recurse_eq {α : Type} (step : Node → List α → α) (n : Node) :
    n.recurse step = step n (n.children.map (recurse step)) := by
  obtain ⟨attributes, components, columns⟩ := n
  simp [recurse, recurseNodes_eq_map, recurseColumns_eq_map, children]

mutual
/-- Induction over a node by its children in document order. -/
theorem induction {P : Node → Prop} (step : ∀ n, (∀ c ∈ n.children, P c) → P n) : ∀ n, P n
  | ⟨attributes, components, columns⟩ => by
    refine step _ fun c h => ?_
    simp only [children, List.mem_append, List.mem_flatMap] at h
    rcases h with h | ⟨column, h, hc⟩
    · exact inductionNodes step components c h
    · exact inductionColumns step columns column h c hc
theorem inductionNodes {P : Node → Prop} (step : ∀ n, (∀ c ∈ n.children, P c) → P n) :
    ∀ nodes : List Node, ∀ c ∈ nodes, P c
  | n :: rest, c, h => by
    rcases List.mem_cons.1 h with h | h
    · exact h ▸ induction step n
    · exact inductionNodes step rest c h
theorem inductionColumns {P : Node → Prop} (step : ∀ n, (∀ c ∈ n.children, P c) → P n) :
    ∀ columns : List Column, ∀ column ∈ columns, ∀ c ∈ column.components, P c
  | ⟨components, extra⟩ :: rest, column, h, c, hc => by
    rcases List.mem_cons.1 h with h | h
    · subst h
      exact inductionNodes step components c hc
    · exact inductionColumns step rest column h c hc
end

def withColumn (n : Node) (components : List Node) : Node :=
  { n with columns := n.columns ++ [{ components }] }

/-- Set an attribute that is kept and not interpreted. -/
def withAttribute (n : Node) (name : String) (value : Value) : Node :=
  { n with extra := Fields.put name value n.extra }

/-- Show the node exactly when the value at `source` is, or is not, the expected one. -/
def withConditional (n : Node) (shown : Bool) (source : String) (expected : Value) : Node :=
  { n with conditional := some ⟨some (.bool shown), some source, some expected⟩ }

end Node

/-- A form schema: its top-level nodes. -/
structure Schema where
  components : List Node := []
deriving Inhabited

end FormLogic
