/-!
# Patterns as written

A term is a pattern as its text composes it, before the flags in force give it a
meaning.
-/
namespace FormLogic.Pattern

/-- The classes that have a letter of their own. -/
inductive LetterClass where
  | digit
  | blank
  | word
deriving DecidableEq, Repr, Inhabited

/-- How two classes inside brackets combine. -/
inductive SetOperation where
  | intersection
  | difference
  | symmetricDifference
deriving DecidableEq, Repr, Inhabited

/-- What brackets hold. -/
inductive ClassTerm where
  | char (c : Char)
  | range (low high : Char)
  /-- A class with a name between colons. -/
  | named (name : String) (negated : Bool)
  | letter (cls : LetterClass) (negated : Bool)
  | property (content : String) (negated : Bool)
  | bracket (negated : Bool) (body : ClassTerm)
  | union (items : List ClassTerm)
  | combine (operation : SetOperation) (left right : ClassTerm)
deriving Inhabited, Repr

/-- Conditions on a place in the text that consume nothing. -/
inductive Boundary where
  | textStart
  | textEnd
  /-- The caret, whose meaning depends on the flags. -/
  | caret
  /-- The dollar sign, whose meaning depends on the flags. -/
  | dollar
  | word
  | notWord
  | wordStart
  | wordEnd
  | wordStartHalf
  | wordEndHalf
deriving DecidableEq, Repr, Inhabited

/-- A flag letter and whether it is switched on. -/
structure FlagSetting where
  flag : Char
  enabled : Bool
deriving DecidableEq, Repr, Inhabited

inductive Term where
  | empty
  /-- Flags for what follows in the same group. -/
  | flags (settings : List FlagSetting)
  /-- A character; `byte` when it is written by a two-digit hexadecimal escape. -/
  | char (c : Char) (byte : Bool)
  | dot
  | boundary (b : Boundary)
  | letter (cls : LetterClass) (negated : Bool)
  | property (content : String) (negated : Bool)
  | bracket (negated : Bool) (body : ClassTerm)
  /-- Prefers as few copies as possible when it `isLazy`, and otherwise as many. -/
  | repetition (body : Term) (least : Nat) (most : Option Nat) (isLazy : Bool)
  | group (settings : List FlagSetting) (body : Term)
  /-- A group that is counted by its opening parenthesis. -/
  | capture (index : Nat) (body : Term)
  | concat (items : List Term)
  | alternation (branches : List Term)
deriving Inhabited, Repr

/-- How deeply a class is nested; an operand without items is no level of its own. -/
def ClassTerm.depth : ClassTerm → Nat
  | bracket _ body => body.depth + 1
  | union [] => 0
  | union items => depthOfAll items + 1
  | combine _ left right => max left.depth right.depth + 1
  | _ => 0
where
  depthOfAll : List ClassTerm → Nat
  | [] => 0
  | t :: rest => max t.depth (depthOfAll rest)

def Term.depth : Term → Nat
  | bracket _ body => body.depth + 1
  | repetition body _ _ _ => body.depth + 1
  | group _ body => body.depth + 1
  | capture _ body => body.depth + 1
  | concat items => depthOfAll items + 1
  | alternation branches => depthOfAll branches + 1
  | _ => 0
where
  depthOfAll : List Term → Nat
  | [] => 0
  | t :: rest => max t.depth (depthOfAll rest)

def Term.maxDepth : Nat := 250

end FormLogic.Pattern
