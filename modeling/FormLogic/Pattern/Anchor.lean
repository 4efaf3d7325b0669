import FormLogic.Text.CharProperty

/-!
# Anchors

Conditions on a place in the text, which depend on the characters on either side of it.
-/
namespace FormLogic.Pattern

/-- Conditions on a place in the text. `ascii` confines word characters to ASCII. -/
inductive Anchor where
  | textStart
  | textEnd
  | lineStart
  | lineEnd
  /-- The start of a line that may end in carriage return and line feed. -/
  | wideLineStart
  | wideLineEnd
  | word (ascii : Bool)
  | notWord (ascii : Bool)
  | wordStart (ascii : Bool)
  | wordEnd (ascii : Bool)
  | wordStartHalf (ascii : Bool)
  | wordEndHalf (ascii : Bool)
deriving DecidableEq, Repr, Inhabited

namespace Anchor

def asciiWord : CharSet := .ofText "30-39 41-5A 5F 61-7A"

def wordSet (ascii : Bool) : CharSet := if ascii then asciiWord else CharProperty.wordPart.get

/-- Whether there is a character and it is a word character. -/
def isWord (ascii : Bool) (c : Option Char) : Bool :=
  c.any fun c => (wordSet ascii).contains c.toNat

/-- Whether the condition holds between the two characters around a place. -/
def holds (before after : Option Char) : Anchor → Bool
  | textStart => before.isNone
  | textEnd => after.isNone
  | lineStart => before.isNone || before == some '\n'
  | lineEnd => after.isNone || after == some '\n'
  | wideLineStart =>
    before.isNone || before == some '\n' || (before == some '\r' && after != some '\n')
  | wideLineEnd =>
    after.isNone || after == some '\r' || (after == some '\n' && before != some '\r')
  | word ascii => isWord ascii before != isWord ascii after
  | notWord ascii => isWord ascii before == isWord ascii after
  | wordStart ascii => !isWord ascii before && isWord ascii after
  | wordEnd ascii => isWord ascii before && !isWord ascii after
  | wordStartHalf ascii => !isWord ascii before
  | wordEndHalf ascii => !isWord ascii after

end Anchor
end FormLogic.Pattern
