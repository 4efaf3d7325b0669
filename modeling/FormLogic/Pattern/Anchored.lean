import FormLogic.Pattern.Meaning
import FormLogic.Pattern.Search

/-!
# Anchored patterns

A pattern of a schema must match a whole text. It is put in a group between the
marks for the start and the end of the text, and it is valid when the text so
made is.
-/
namespace FormLogic

/-- A valid pattern with the text it was made of. -/
structure AnchoredPattern where
  text : String
  expr : Pattern.Expr
deriving Inhabited

namespace AnchoredPattern

/-- The text of a pattern that must match as a whole. -/
def wrap (pattern : String) : String := "^(?:" ++ pattern ++ ")$"

/-- Anchor a pattern, if the result is valid. -/
def ofText? (pattern : String) : Option AnchoredPattern :=
  (Pattern.Expr.parse? (wrap pattern)).map fun e => ⟨wrap pattern, e⟩

def accepts (p : AnchoredPattern) (s : String) : Bool := p.expr.isFoundIn s

end AnchoredPattern

namespace Email

open Pattern

/-- Neither an at sign nor a blank. -/
def part : Expr :=
  let barred := CharProperty.whiteSpace.get.union (.single '@')
  .repetition (.set barred.complement) 1 none true

/-- An address: parts before and after one at sign, the latter with a dot inside. -/
def address : Expr :=
  .concat [.anchor .textStart, part, .literal ['@'], part, .literal ['.'], part, .anchor .textEnd]

def accepts (s : String) : Bool := address.isFoundIn s

end Email
end FormLogic
