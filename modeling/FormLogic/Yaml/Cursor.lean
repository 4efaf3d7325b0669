import FormLogic.Yaml.Character

/-!
# Places in a document

A cursor is what is left to read with its place in the text. Line ends have been
unified before, so each is one character.
-/
namespace FormLogic.Yaml

structure Cursor where
  rest : List Char
  /-- How many bytes have been read. -/
  index : Nat := 0
  line : Nat := 0
  column : Nat := 0
deriving Repr, Inhabited

namespace Cursor

def next (at_ : Cursor) : Cursor :=
  match at_.rest with
  | [] => at_
  | c :: rest =>
    if isBreak c then ⟨rest, at_.index + c.utf8Size, at_.line + 1, 0⟩
    else ⟨rest, at_.index + c.utf8Size, at_.line, at_.column + 1⟩

def skip : Nat → Cursor → Cursor
  | 0, at_ => at_
  | n + 1, at_ => skip n at_.next

/-- The characters ahead that satisfy `p`. -/
def run (p : Char → Bool) (at_ : Cursor) : List Char := at_.rest.takeWhile p

/-- Go over the characters ahead that satisfy `p`. -/
def skipRun (p : Char → Bool) (at_ : Cursor) : Cursor := at_.skip (at_.run p).length

/-- The character at distance `n` ahead. -/
def peek (at_ : Cursor) (n : Nat) : Option Char := at_.rest[n]?

/-- Whether the next character is `c`. -/
def sees (at_ : Cursor) (c : Char) : Bool := at_.rest.head? == some c

/-- Whether a blank, a line end or the end of the text is at distance `n` ahead. -/
def endsAt (at_ : Cursor) (n : Nat) : Bool := isBlankOrEnd (at_.peek n)

/-- Whether three times `c`, standing alone at the start of a line, are ahead. -/
def seesMark (at_ : Cursor) (c : Char) : Bool :=
  at_.column == 0 && at_.rest.take 3 == [c, c, c] && at_.endsAt 3

/-- Whether a mark that begins or ends a document is ahead. -/
def seesDocumentMark (at_ : Cursor) : Bool := at_.seesMark '-' || at_.seesMark '.'

/-- Go over the rest of a line that may hold blanks and a comment, and over its end; none if it
holds anything else. -/
def skipLine? (at_ : Cursor) : Option Cursor :=
  let at_ := at_.skipRun isBlank
  let at_ := if at_.sees '#' then at_.skipRun (fun c => !isBreak c) else at_
  match at_.rest with
  | [] => some at_
  | c :: _ => if isBreak c then some at_.next else none

end Cursor
end FormLogic.Yaml
