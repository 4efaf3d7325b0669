import FormLogic.Settings.Basic
import FormLogic.Yaml.Node
import FormLogic.Yaml.Scalar
import FormLogic.Yaml.Token.Lexer

/-!
# Settings in YAML

A document is a mapping of names to values, or nothing. All of it must read, also
what is passed over: tags have to fit their scalars, keys are scalars, nesting is
limited, and so is how often aliases are followed.
-/
namespace FormLogic.Yaml

def maxDepth : Nat := 128

/-- How often aliases may be followed, for each mark of a document. -/
def followsPerMark : Nat := 100

/-- What a scalar without a tag stands for. -/
def plainSetting (text : String) : RawSetting :=
  match Scalar.ofText text with
  | .int n => .whole n
  | .bool b => .flag b
  | _ => .other

/-- What a scalar stands for; none if its tag does not fit, or is a local one. -/
def scalarSetting? (tag : Option Tag) (plain : Bool) (text : String) : Option RawSetting :=
  let standard (name : String) : Option Tag := some (Tag.standard ++ Tag.ofString name)
  if tag == standard "bool" then
    match Scalar.ofText text with
    | .bool b => some (.flag b)
    | _ => none
  else if tag == standard "int" then (int? text.toList).map .whole
  else if tag == standard "float" then if isFloat text then some .other else none
  else if tag == standard "null" then
    if text ≠ "" ∧ Scalar.ofText text = .null then some .other else none
  else if (tag.map Tag.isName).getD false then none
  else if plain && (tag.map Tag.isLocal).getD true then some (plainSetting text)
  else some .other

/-- A document with how often aliases may still be followed. -/
abbrev Follower := StateT Nat Option

/-- The node that an alias stands for, or the node itself. If several nodes have the number, it is
the last. -/
def follow (nodes : List Node) : Node → Follower Node
  | .reference n => do
    match ← get with
    | 0 => failure
    | left + 1 =>
      set left
      match (nodes.filter fun node => node.anchor? == some n).getLast? with
      | some node => return node
      | none => failure
  | node => return node

/-- A key as text, which has to be a scalar. -/
def nameText (nodes : List Node) (key : Node) : Follower String := do
  match ← follow nodes key with
  | .scalar _ _ _ text => return text
  | _ => failure

/-- What a node stands for within `depth` levels. Collections have to read and count as other. -/
def nodeSetting (nodes : List Node) : Nat → Node → Follower RawSetting
  | depth, node => do
    match ← follow nodes node with
    | .scalar _ tag plain text =>
      match scalarSetting? tag plain text with
      | some setting => return setting
      | none => failure
    | .sequence _ tag items =>
      match depth with
      | 0 => failure
      | depth + 1 =>
        if (tag.map Tag.isName).getD false then failure
        for item in items do
          let _ ← nodeSetting nodes depth item
        return .other
    | .mapping _ tag entries =>
      match depth with
      | 0 => failure
      | depth + 1 =>
        if (tag.map Tag.isName).getD false then failure
        for (key, value) in entries do
          let _ ← nameText nodes key
          let _ ← nodeSetting nodes depth value
        return .other
    | .reference _ => failure

def entrySettings (nodes : List Node) : List (Node × Node) → Follower RawSettings
  | [] => return []
  | (key, value) :: rest => do
    let name ← nameText nodes key
    let setting ← nodeSetting nodes (maxDepth - 1) value
    return (name, setting) :: (← entrySettings nodes rest)

def settings? (text : String) : Option RawSettings := do
  let tokens ← Token.ofText? text
  match ← Node.ofTokens? tokens with
  | none => some []
  | some root =>
    match root with
    | .mapping _ _ entries =>
      let nodes := root.all
      let marks := nodes.foldl (fun n node => n + node.marks) 0
      ((entrySettings nodes entries).run (followsPerMark * marks)).map (·.1)
    | .scalar _ _ true "" => some []
    | _ => none

end FormLogic.Yaml
