import FormLogic.Yaml.Token.Tag
import FormLogic.Yaml.Token.Text

/-!
# From text to tokens

`Token.ofText?` cuts a document into tokens. What may turn out to be a key is
remembered with its place, as its mark goes before it once the colon is found: a
simple key stands on one line and has at most 1024 bytes. Outside of
brackets the columns tell where collections begin and end.
-/
namespace FormLogic.Yaml

/-- A place at which a key may have begun. -/
structure KeyPlace where
  /-- Nothing but a key may stand there. -/
  required : Bool
  /-- How many tokens come before it. -/
  tokens : Nat
  index : Nat
  line : Nat
  column : Nat
deriving Repr, Inhabited

/-- The state of cutting. -/
structure Lexer where
  at_ : Cursor
  /-- The tokens so far, the last first. -/
  tokens : List Token := []
  count : Nat := 0
  /-- The columns of the block collections around the place, the innermost first. -/
  columns : List Nat := []
  /-- Where a key may have begun, for each flow collection around the place, the innermost first,
  and at the end outside of them. -/
  keys : List (Option KeyPlace) := [none]
  keyAllowed : Bool := true
deriving Inhabited

namespace Lexer

/-- Whether the place is in a flow collection. -/
def isFlow (l : Lexer) : Bool := 1 < l.keys.length

def push (token : Token) (l : Lexer) : Lexer :=
  { l with tokens := token :: l.tokens, count := l.count + 1 }

/-- Put a token before all but the first `n` ones. -/
def insert (n : Nat) (token : Token) (l : Lexer) : Lexer :=
  let later := l.tokens.take (l.count - n)
  { l with tokens := later ++ token :: l.tokens.drop later.length, count := l.count + 1 }

/-- A key has to be on the line of the place, near before it. -/
def isStale (at_ : Cursor) (key : KeyPlace) : Bool :=
  key.line < at_.line || key.index + 1024 < at_.index

/-- Forget a place for a key; none if a key has to be there. -/
def forget? : Option KeyPlace → Option (Option KeyPlace)
  | some key => if key.required then none else some none
  | none => some none

/-- Forget the places that are too far back. -/
def dropStale? (l : Lexer) : Option Lexer :=
  let check (key : Option KeyPlace) : Option (Option KeyPlace) :=
    if (key.map (isStale l.at_)).getD false then forget? key else some key
  (l.keys.mapM check).map fun keys => { l with keys }

/-- Forget the innermost place for a key. -/
def dropKey? (l : Lexer) : Option Lexer :=
  match l.keys with
  | [] => some l
  | key :: rest => (forget? key).map fun key => { l with keys := key :: rest }

/-- Remember the place as one where a key may begin. -/
def saveKey? (l : Lexer) : Option Lexer :=
  if l.keyAllowed then
    let key : KeyPlace :=
      { required := !l.isFlow && l.columns.head? == some l.at_.column
        tokens := l.count, index := l.at_.index, line := l.at_.line, column := l.at_.column }
    (l.dropKey?).map fun l => { l with keys := some key :: l.keys.drop 1 }
  else some l

/-- Begin a block collection if a column is further in than those around it. -/
def indentTo (column : Nat) (before : Nat) (token : Token) (l : Lexer) : Lexer :=
  if !l.isFlow && (l.columns.head?.map fun n => decide (n < column)).getD true then
    { l.insert before token with columns := column :: l.columns }
  else l

/-- End the block collections that are further in than `least`, or all of them. -/
def unindent (least : Option Nat) (l : Lexer) : Lexer :=
  if l.isFlow then l
  else
    let ended := l.columns.takeWhile fun n => (least.map fun m => decide (m < n)).getD true
    { ended.foldl (fun l _ => l.push .blockEnd) l with columns := l.columns.drop ended.length }

/-- Go over blanks, comments and line ends to the next token. -/
def skipGap : Nat → Lexer → Lexer
  | 0, l => l
  | fuel + 1, l =>
    let at_ := if l.at_.column == 0 && l.at_.sees (Char.ofNat 0xFEFF) then l.at_.next else l.at_
    let tabs := l.isFlow || !l.keyAllowed
    let at_ := at_.skipRun fun c => c == ' ' || (tabs && c == '\t')
    let at_ := if at_.sees '#' then at_.skipRun (fun c => !isBreak c) else at_
    if (at_.rest.head?.map isBreak).getD false then
      skipGap fuel { l with at_ := at_.next, keyAllowed := l.keyAllowed || !l.isFlow }
    else { l with at_ }

/-- Add a token that was read up to `at_`. -/
def take (token : Token) (at_ : Cursor) (l : Lexer) : Lexer := { l.push token with at_ }

/-- Leave all collections, as at the end of a document. -/
def leave? (l : Lexer) : Option Lexer :=
  ((l.unindent none).dropKey?).map fun l => { l with keyAllowed := false }

def documentMark? (token : Token) (l : Lexer) : Option Lexer :=
  (l.leave?).map fun l => l.take token (l.at_.skip 3)

def directive? (l : Lexer) : Option Lexer := do
  let l ← l.leave?
  let (token, at_) ← Token.directive? l.at_.next
  some (l.take token at_)

def openFlow? (token : Token) (l : Lexer) : Option Lexer :=
  (l.saveKey?).map fun l =>
    { l.take token l.at_.next with keys := none :: l.keys, keyAllowed := true }

def closeFlow? (token : Token) (l : Lexer) : Option Lexer :=
  (l.dropKey?).map fun l =>
    { l.take token l.at_.next with
      keys := if l.isFlow then l.keys.drop 1 else l.keys, keyAllowed := false }

def flowEntry? (l : Lexer) : Option Lexer :=
  (l.dropKey?).map fun l => { l.take .flowEntry l.at_.next with keyAllowed := true }

/-- The mark of an item or of a key that is not simple, outside of brackets. -/
def blockMark? (opening token : Token) (keyAllowed : Bool) (l : Lexer) : Option Lexer :=
  if !l.isFlow && !l.keyAllowed then none
  else ((l.indentTo l.at_.column l.count opening).dropKey?).map fun l =>
    { l.take token l.at_.next with keyAllowed }

/-- A colon after a key, which gets its mark if it is simple. -/
def value? (l : Lexer) : Option Lexer :=
  match l.keys with
  | some key :: keys =>
    let l := (l.insert key.tokens .key).indentTo key.column key.tokens .blockMappingStart
    some { l.take .value l.at_.next with keys := none :: keys, keyAllowed := false }
  | _ =>
    if !l.isFlow && !l.keyAllowed then none
    else
      let l := l.indentTo l.at_.column l.count .blockMappingStart
      some { l.take .value l.at_.next with keyAllowed := !l.isFlow }

def anchor? (token : String → Token) (l : Lexer) : Option Lexer := do
  let l ← l.saveKey?
  let (name, at_) ← Token.anchorName? l.at_.next
  some { l.take (token name) at_ with keyAllowed := false }

def tag? (l : Lexer) : Option Lexer := do
  let l ← l.saveKey?
  let (token, at_) ← Token.tag? l.isFlow l.at_
  some { l.take token at_ with keyAllowed := false }

def block? (literal : Bool) (l : Lexer) : Option Lexer := do
  let l ← l.dropKey?
  let (text, at_) ← Token.block? literal l.columns.head? l.at_.next
  some { l.take (.scalar false text) at_ with keyAllowed := true }

def quoted? (single : Bool) (l : Lexer) : Option Lexer := do
  let l ← l.saveKey?
  let (text, at_) ← Token.quoted? single l.at_.next
  some { l.take (.scalar false text) at_ with keyAllowed := false }

def plain? (l : Lexer) : Option Lexer := do
  let l ← l.saveKey?
  let indent := (l.columns.head?.map (· + 1)).getD 0
  let (text, endedBefore, at_) ← Token.plain? l.isFlow indent l.at_
  some { l.take (.scalar true text) at_ with keyAllowed := endedBefore }

/-- Whether a plain text may begin with `c`, before `following`. -/
def beginsPlain (flow : Bool) (c : Char) (following : Option Char) : Bool :=
  if c == '-' then !(following.map isBlank).getD false
  else if c == '?' || c == ':' then !flow && !isBlankOrEnd following
  else !Token.isGap c && !",[]\x7b\x7d#&*!|>'\"%@\x60".toList.contains c

/-- Add the token that begins with the next character `c`. -/
def token? (c : Char) (l : Lexer) : Option Lexer :=
  let alone := l.at_.endsAt 1
  if l.at_.column == 0 && c == '%' then l.directive?
  else if l.at_.seesMark '-' then l.documentMark? .documentStart
  else if l.at_.seesMark '.' then l.documentMark? .documentEnd
  else if c == '-' && alone then l.blockMark? .blockSequenceStart .blockEntry true
  else if c == '?' && (l.isFlow || alone) then
    l.blockMark? .blockMappingStart .key (!l.isFlow)
  else if c == ':' && (l.isFlow || alone) then l.value?
  else
    match c with
    | '[' => l.openFlow? .flowSequenceStart
    | '\x7b' => l.openFlow? .flowMappingStart
    | ']' => l.closeFlow? .flowSequenceEnd
    | '\x7d' => l.closeFlow? .flowMappingEnd
    | ',' => l.flowEntry?
    | '*' => l.anchor? .reference
    | '&' => l.anchor? .anchor
    | '!' => l.tag?
    | '\'' => l.quoted? true
    | '"' => l.quoted? false
    | _ =>
      if (c == '|' || c == '>') && !l.isFlow then l.block? (c == '|')
      else if beginsPlain l.isFlow c (l.at_.peek 1) then l.plain?
      else none

/-- Cut up the rest of a text. -/
def run? : Nat → Lexer → Option (List Token)
  | 0, _ => none
  | fuel + 1, l => do
    let l ← (l.skipGap (l.at_.rest.length + 1)).dropStale?
    match l.at_.rest with
    | [] => (l.leave?).map fun l => l.tokens.reverse
    | c :: _ =>
      let l ← (l.unindent (some l.at_.column)).token? c
      run? fuel l

end Lexer

/-- The tokens of a text; none if it holds a character that may not stand there, or cannot be cut
up. -/
def Token.ofText? (text : String) : Option (List Token) :=
  let cs := text.toList
  if cs.all isAllowed then Lexer.run? (cs.length + 1) { at_ := ⟨unifyBreaks cs, 0, 0, 0⟩ } else none

end FormLogic.Yaml
