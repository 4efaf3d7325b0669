import FormLogic.Text.Hexadecimal
import FormLogic.Yaml.Cursor

/-!
# Texts of a document

Plain texts, texts in quotes, and blocks of lines, each read to its end. Line ends
within the first two are folded: one becomes a blank, and of several the first
goes.
-/
namespace FormLogic.Yaml.Token

/-- What a stretch of blanks and line ends between two words stands for. -/
def folded (stretch : List Char) : List Char :=
  match stretch.filter isBreak with
  | [] => stretch
  | ['\n'] => [' ']
  | '\n' :: more => more
  | breaks => breaks

/-- Blanks and line ends. -/
def isGap (c : Char) : Bool := isBlank c || isBreak c

/-- Whether a tab stands in the indentation of a further line, which has to reach `indent`. -/
def hasTabBefore (indent : Nat) : Option Nat → List Char → Bool
  | _, [] => false
  | column, c :: rest =>
    if isBreak c then hasTabBefore indent (some 0) rest
    else
      (c == '\t' && (column.map fun n => decide (n < indent)).getD false)
        || hasTabBefore indent (column.map (· + 1)) rest

/-- The characters of a plain text up to a blank, a line end or a mark that ends it. In a flow
collection a colon may not stand before a mark. -/
def plainRun? (flow : Bool) : List Char → Option (List Char)
  | [] => some []
  | c :: rest =>
    if isGap c then some []
    else if flow && c == ':' && (rest.head?.map fun d => isFlowMark d || d == '?').getD false then
      none
    else if (c == ':' && isBlankOrEnd rest.head?) || (flow && isFlowMark c) then some []
    else (plainRun? flow rest).map (c :: ·)

/-- Read on in a plain text after the characters in `acc`, the last first, and a stretch of blanks
and line ends. Tells also whether the text ended on an earlier line. -/
def plainFrom? (flow : Bool) (indent : Nat) :
    Nat → List Char → List Char → Cursor → Option (String × Bool × Cursor)
  | 0, _, _, _ => none
  | fuel + 1, acc, stretch, at_ =>
    let done := (String.ofList acc.reverse, stretch.any isBreak, at_)
    if at_.seesDocumentMark || at_.sees '#' then some done
    else
      match plainRun? flow at_.rest with
      | none => none
      | some [] => some done
      | some run =>
        let acc := run.reverse ++ (folded stretch).reverse ++ acc
        let at_ := at_.skip run.length
        let stretch := at_.run isGap
        let after := at_.skip stretch.length
        if hasTabBefore indent none stretch then none
        else if stretch.isEmpty || (!flow && after.column < indent) then
          some (String.ofList acc.reverse, stretch.any isBreak, after)
        else plainFrom? flow indent fuel acc stretch after

/-- Read a plain text, whose further lines reach the column `indent` unless it stands in a flow
collection. -/
def plain? (flow : Bool) (indent : Nat) (at_ : Cursor) : Option (String × Bool × Cursor) :=
  plainFrom? flow indent (at_.rest.length + 1) [] [] at_

/-- The character that stands for itself after a backslash or is named there, and what follows. -/
def escape? : List Char → Option (Char × List Char)
  | [] => none
  | c :: rest =>
    let named (n : Nat) : Option (Char × List Char) := some (Char.ofNat n, rest)
    match c with
    | '0' => named 0
    | 'a' => named 7
    | 'b' => named 8
    | 't' | '\t' => named 9
    | 'n' => named 10
    | 'v' => named 11
    | 'f' => named 12
    | 'r' => named 13
    | 'e' => named 27
    | ' ' | '"' | '/' | '\\' => named c.toNat
    | 'N' => named 0x85
    | '_' => named 0xA0
    | 'L' => named 0x2028
    | 'P' => named 0x2029
    | 'x' => Hexadecimal.char? 2 rest
    | 'u' => Hexadecimal.char? 4 rest
    | 'U' => Hexadecimal.char? 8 rest
    | _ => none

/-- Read words between quotes up to a blank, a line end or the closing quote, with the characters
after those in `acc`, the last first. Tells also whether an escaped line end stopped it. -/
def quotedRun? (single : Bool) :
    Nat → List Char → Cursor → Option (List Char × Bool × Cursor)
  | 0, _, _ => none
  | fuel + 1, acc, at_ =>
    match at_.rest with
    | [] => some (acc, false, at_)
    | c :: rest =>
      if isGap c then some (acc, false, at_)
      else if single then
        match c, rest with
        | '\'', '\'' :: _ => quotedRun? single fuel ('\'' :: acc) (at_.skip 2)
        | '\'', _ => some (acc, false, at_)
        | _, _ => quotedRun? single fuel (c :: acc) at_.next
      else
        match c with
        | '"' => some (acc, false, at_)
        | '\\' =>
          if (rest.head?.map isBreak).getD false then some (acc, true, at_.skip 2)
          else
            match escape? rest with
            | some (e, after) =>
              quotedRun? single fuel (e :: acc) (at_.skip (at_.rest.length - after.length))
            | none => none
        | _ => quotedRun? single fuel (c :: acc) at_.next

/-- Read on between quotes up to the closing one. -/
def quotedFrom? (single : Bool) : Nat → List Char → Cursor → Option (String × Cursor)
  | 0, _, _ => none
  | fuel + 1, acc, at_ =>
    if at_.seesDocumentMark || at_.rest.isEmpty then none
    else
      match quotedRun? single (at_.rest.length + 1) acc at_ with
      | none => none
      | some (acc, escapedBreak, at_) =>
        if at_.sees (if single then '\'' else '"') then some (String.ofList acc.reverse, at_.next)
        else
          let stretch := at_.run isGap
          let kept := if escapedBreak then stretch.filter isBreak else folded stretch
          quotedFrom? single fuel (kept.reverse ++ acc) (at_.skip stretch.length)

/-- Read a text after its opening quote. -/
def quoted? (single : Bool) (at_ : Cursor) : Option (String × Cursor) :=
  quotedFrom? single (at_.rest.length + 1) [] at_

/-- What becomes of the line ends after the last line of a block. -/
inductive Chomping where
  | strip
  | clip
  | keep
deriving DecidableEq, Repr, Inhabited

/-- How a block is to be read: how its last line ends, and how far it is indented. -/
structure BlockHeader where
  chomping : Chomping := .clip
  increment : Option Nat := none

/-- Read a digit from one to nine or a sign, in any order, each once at most. -/
def blockHeader? (cs : List Char) : Option (BlockHeader × Nat) :=
  let chomping? (c : Char) : Option Chomping :=
    if c == '+' then some .keep else if c == '-' then some .strip else none
  let digit? (c : Char) : Option Nat :=
    if c.isDigit then some (c.toNat - '0'.toNat) else none
  let first := cs.head?
  let second := cs[1]?
  match first.bind chomping?, first.bind digit? with
  | some chomping, _ =>
    match second.bind digit? with
    | some 0 => none
    | some n => some (⟨chomping, some n⟩, 2)
    | none => some (⟨chomping, none⟩, 1)
  | none, some 0 => none
  | none, some n =>
    match second.bind chomping? with
    | some chomping => some (⟨chomping, some n⟩, 2)
    | none => some (⟨.clip, some n⟩, 1)
  | none, none => some (⟨.clip, none⟩, 0)

/-- Go over empty lines and over blanks up to the column `indent`, or over all blanks as long as it
is not known. Gives the line ends, the last first, and the widest indentation; none at a tab. -/
def blockGap? (indent : Option Nat) :
    Nat → List Char → Nat → Cursor → Option (List Char × Nat × Cursor)
  | 0, _, _, _ => none
  | fuel + 1, breaks, widest, at_ =>
    let blanks := (at_.run (· == ' ')).length
    let at_ := at_.skip (match indent with
      | some n => min blanks (n - at_.column)
      | none => blanks)
    let widest := max widest at_.column
    let within := (indent.map fun n => decide (at_.column < n)).getD true
    match at_.rest with
    | [] => some (breaks, widest, at_)
    | c :: _ =>
      if within && c == '\t' then none
      else if isBreak c then blockGap? indent fuel (c :: breaks) widest at_.next
      else some (breaks, widest, at_)

/-- Read the lines of a block that is indented to `indent`. The text so far, the line end after it
and the empty lines after that are kept apart, as they may be folded; all are reversed. -/
def blockLines? (literal : Bool) (indent : Nat) :
    Nat → List Char → List Char → List Char → Bool → Cursor →
      Option (List Char × List Char × List Char × Cursor)
  | 0, _, _, _, _, _ => none
  | fuel + 1, acc, ending, breaks, afterBlank, at_ =>
    if at_.column == indent && !at_.rest.isEmpty then
      let blank := (at_.rest.head?.map isBlank).getD false
      let fold := !literal && ending == ['\n'] && !afterBlank && !blank
      let acc :=
        if fold then (if breaks.isEmpty then ' ' :: acc else breaks ++ acc)
        else breaks ++ ending ++ acc
      let line := at_.run fun c => !isBreak c
      let at_ := at_.skip line.length
      let ending := at_.rest.head?.toList
      let at_ := at_.next
      match blockGap? (some indent) (at_.rest.length + 1) [] 0 at_ with
      | some (breaks, _, at_) =>
        blockLines? literal indent fuel (line.reverse ++ acc) ending breaks blank at_
      | none => none
    else some (acc, ending, breaks, at_)

/-- Read a block after its mark. It is indented further than `parent`, the column of the collection
around it if there is one. -/
def block? (literal : Bool) (parent : Option Nat) (at_ : Cursor) : Option (String × Cursor) := do
  let (header, length) ← blockHeader? at_.rest
  let at_ ← (at_.skip length).skipLine?
  let indent := header.increment.map fun n => parent.getD 0 + n
  let (breaks, widest, at_) ← blockGap? indent (at_.rest.length + 1) [] 0 at_
  let least := match parent with
    | some n => n + 1
    | none => 1
  let indent := indent.getD (max widest least)
  let (acc, ending, breaks, at_) ←
    blockLines? literal indent (at_.rest.length + 1) [] [] breaks false at_
  let kept := match header.chomping with
    | .strip => acc
    | .clip => ending ++ acc
    | .keep => breaks ++ ending ++ acc
  some (String.ofList kept.reverse, at_)

end FormLogic.Yaml.Token
