import FormLogic.Yaml.Token

/-!
# Nodes of a document

A document is one node. Anchors are numbered in the order of their nodes, and an
alias gives the number that its name had last.
-/
namespace FormLogic.Yaml

inductive Node where
  | reference (anchor : Nat)
  | scalar (anchor : Option Nat) (tag : Option Tag) (plain : Bool) (text : String)
  | sequence (anchor : Option Nat) (tag : Option Tag) (items : List Node)
  | mapping (anchor : Option Nat) (tag : Option Tag) (entries : List (Node × Node))
deriving Inhabited

namespace Node

/-- A node that is left out. -/
def omitted : Node := scalar none none true ""

def anchor? : Node → Option Nat
  | reference _ => none
  | scalar anchor _ _ _ => anchor
  | sequence anchor _ _ => anchor
  | mapping anchor _ _ => anchor

mutual
/-- The node and all that it holds, in the order of their beginnings. -/
def all (node : Node) : List Node :=
  node :: match node with
    | sequence _ _ items => allOfItems items
    | mapping _ _ entries => allOfEntries entries
    | _ => []
def allOfItems : List Node → List Node
  | [] => []
  | item :: rest => item.all ++ allOfItems rest
def allOfEntries : List (Node × Node) → List Node
  | [] => []
  | (key, value) :: rest => key.all ++ value.all ++ allOfEntries rest
end

/-- How many marks a node alone leaves in a document: two for a collection, which has an end. -/
def marks : Node → Nat
  | reference _ | scalar .. => 1
  | sequence .. | mapping .. => 2

/-- What is left to read of a document, with what its tags and aliases refer to. -/
structure Tokens where
  rest : List Token
  /-- The handles of tags with what they stand for. -/
  handles : List (Tag × Tag)
  /-- The names of anchors with their numbers, the last first. -/
  names : List (String × Nat)

abbrev Reader := StateT Tokens Option

namespace Reader

/-- The next token; none at the end. -/
def peek : Reader (Option Token) := do return (← get).rest.head?

def advance : Reader Unit := modify fun s => { s with rest := s.rest.drop 1 }

/-- Go over the next token if it is the given one. -/
def accept (token : Token) : Reader Bool := do
  if (← peek) == some token then advance; return true else return false

/-- The number of a new anchor: how many names there were before it. -/
def addAnchor (name : String) : Reader Nat := do
  let names := (← get).names
  modify fun s => { s with names := (name, names.length) :: names.filter (·.1 != name) }
  return names.length

/-- The tag that a handle and the rest make up. -/
def expandTag (handle rest : Tag) : Reader Tag := do
  if handle.isEmpty then return rest
  else
    match (← get).handles.lookup handle with
    | some start => return start ++ rest
    | none => failure

/-- The anchor and the tag before a node, in any order. -/
def properties : Reader (Option Nat × Option Tag) := do
  let anchor : Reader (Option Nat) := do
    match ← peek with
    | some (.anchor name) => advance; return some (← addAnchor name)
    | _ => return none
  let tag : Reader (Option Tag) := do
    match ← peek with
    | some (.tag handle rest) => advance; return some (← expandTag handle rest)
    | _ => return none
  match ← peek with
  | some (.tag ..) => do
    let tag ← tag
    return (← anchor, tag)
  | _ => do
    let anchor ← anchor
    return (anchor, ← tag)

mutual
/-- Read a node. In a block it may be a block collection, and after a key or a colon also a list
that is not indented. A lone exclamation mark before a scalar says as little as no tag, and
properties may stand alone. -/
def node (fuel : Nat) (block afterMark : Bool) : Reader Node :=
  match fuel with
  | 0 => failure
  | fuel + 1 => do
    match ← peek with
    | some (.reference name) =>
      advance
      match (← get).names.lookup name with
      | some n => return .reference n
      | none => failure
    | _ =>
      let (anchor, tag) ← properties
      let alone : Reader Node :=
        if anchor.isSome || tag.isSome then return .scalar anchor tag true "" else failure
      match ← peek with
      | some (.scalar plain text) =>
        advance
        return .scalar anchor (tag.filter (· != Tag.ofString "!")) plain text
      | some .blockEntry =>
        if afterMark then return .sequence anchor tag (← looseItems fuel) else alone
      | some .flowSequenceStart =>
        advance
        return .sequence anchor tag (← flowItems fuel true)
      | some .flowMappingStart =>
        advance
        return .mapping anchor tag (← flowEntries fuel true)
      | some .blockSequenceStart =>
        if block then
          advance
          return .sequence anchor tag (← blockItems fuel)
        else alone
      | some .blockMappingStart =>
        if block then
          advance
          return .mapping anchor tag (← blockEntries fuel)
        else alone
      | _ => alone
/-- Read a node unless one of the given tokens, or the end if it is among them, comes first. -/
def nodeUnless (fuel : Nat) (stops : List Token) (block afterMark : Bool) : Reader Node :=
  match fuel with
  | 0 => failure
  | fuel + 1 => do
    match ← peek with
    | some token =>
      if stops.contains token then return omitted else node fuel block afterMark
    | none => node fuel block afterMark
/-- The items of a block sequence, to its end. -/
def blockItems (fuel : Nat) : Reader (List Node) :=
  match fuel with
  | 0 => failure
  | fuel + 1 => do
    if ← accept .blockEntry then
      let item ← nodeUnless fuel [.blockEntry, .blockEnd] true false
      return item :: (← blockItems fuel)
    else if ← accept .blockEnd then return []
    else failure
/-- The items of a sequence that is not indented; what follows them ends it. -/
def looseItems (fuel : Nat) : Reader (List Node) :=
  match fuel with
  | 0 => failure
  | fuel + 1 => do
    if ← accept .blockEntry then
      let item ← nodeUnless fuel [.blockEntry, .key, .value, .blockEnd] true false
      return item :: (← looseItems fuel)
    else return []
/-- The value of a block mapping after its key. -/
def blockValue (fuel : Nat) : Reader Node :=
  match fuel with
  | 0 => failure
  | fuel + 1 => do
    if ← accept .value then nodeUnless fuel [.key, .value, .blockEnd] true true
    else return omitted
/-- The entries of a block mapping, to its end. -/
def blockEntries (fuel : Nat) : Reader (List (Node × Node)) :=
  match fuel with
  | 0 => failure
  | fuel + 1 => do
    if ← accept .key then
      let key ← nodeUnless fuel [.key, .value, .blockEnd] true true
      let value ← blockValue fuel
      return (key, value) :: (← blockEntries fuel)
    else if ← accept .blockEnd then return []
    else failure
/-- The value after a key in a flow collection that `close` ends. -/
def flowValue (fuel : Nat) (close : Token) : Reader Node :=
  match fuel with
  | 0 => failure
  | fuel + 1 => do
    if ← accept .value then nodeUnless fuel [.flowEntry, close] false false
    else return omitted
/-- The one entry of a mapping that is written as an item. A key that is left out takes the mark of
the value with it. -/
def flowPair (fuel : Nat) : Reader Node :=
  match fuel with
  | 0 => failure
  | fuel + 1 => do
    let key ← match ← peek with
      | some .value | some .flowEntry | some .flowSequenceEnd => do
        advance
        pure omitted
      | _ => node fuel false false
    let value ← flowValue fuel .flowSequenceEnd
    return .mapping none none [(key, value)]
/-- The items of a flow sequence, to its end. Commas stand between them and may stand after them. -/
def flowItems (fuel : Nat) (first : Bool) : Reader (List Node) :=
  match fuel with
  | 0 => failure
  | fuel + 1 => do
    if ← accept .flowSequenceEnd then return []
    else
      let go ← if first then pure true else accept .flowEntry
      if !go then failure
      else if ← accept .flowSequenceEnd then return []
      else
        let item ← do
          if ← accept .key then flowPair fuel else node fuel false false
        return item :: (← flowItems fuel false)
/-- The entries of a flow mapping, to its end. A node without a mark is a key alone. -/
def flowEntries (fuel : Nat) (first : Bool) : Reader (List (Node × Node)) :=
  match fuel with
  | 0 => failure
  | fuel + 1 => do
    if ← accept .flowMappingEnd then return []
    else
      let go ← if first then pure true else accept .flowEntry
      if !go then failure
      else if ← accept .flowMappingEnd then return []
      else
        let entry ← do
          if ← accept .key then
            let key ← nodeUnless fuel [.value, .flowEntry, .flowMappingEnd] false false
            let value ← flowValue fuel .flowMappingEnd
            pure (key, value)
          else
            let key ← node fuel false false
            pure (key, omitted)
        return entry :: (← flowEntries fuel false)
end

/-- Read the directives before a document. Each handle may be explained once, and the version once.
-/
def directives : Nat → Bool → Reader Unit
  | 0, _ => failure
  | fuel + 1, versionSeen => do
    match ← peek with
    | some (.version major minor) =>
      if versionSeen || major != 1 || !(minor == 1 || minor == 2) then failure
      else
        advance
        directives fuel true
    | some (.tagHandle handle start) =>
      if ((← get).handles.lookup handle).isSome then failure
      else
        advance
        modify fun s => { s with handles := (handle, start) :: s.handles }
        directives fuel versionSeen
    | _ => return ()

/-- What the two handles stand for that need no directive. -/
def standardHandles : List (Tag × Tag) :=
  [(Tag.ofString "!", Tag.ofString "!"), (Tag.ofString "!!", Tag.standard)]

def document : Reader (Option Node) := do
  let fuel := 4 * (← get).rest.length + 4
  let addHandles : Reader Unit :=
    modify fun s => { s with handles := s.handles ++ standardHandles }
  let content : Reader Node := do
    match ← peek with
    | some (.version ..) | some (.tagHandle ..) | some .documentStart | some .documentEnd
    | none => return omitted
    | _ => node fuel true false
  let root ← match ← peek with
    | none => pure none
    | some (.version ..) | some (.tagHandle ..) | some .documentStart => do
      directives fuel false
      addHandles
      if ← accept .documentStart then some <$> content else failure
    | _ => do
      addHandles
      some <$> node fuel true false
  let rest := (← get).rest.dropWhile (· == .documentEnd)
  if rest.isEmpty then return root else failure

end Reader

/-- The node of a document; none inside if there is no document. -/
def ofTokens? (tokens : List Token) : Option (Option Node) :=
  (Reader.document.run ⟨tokens, [], []⟩).map (·.1)

end Node
end FormLogic.Yaml
