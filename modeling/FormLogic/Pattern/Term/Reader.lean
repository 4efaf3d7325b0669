import FormLogic.Pattern.Term
import FormLogic.Text.Blank
import FormLogic.Text.CharProperty

/-!
# Reading patterns

`Term.parse?` refuses every text that is no pattern: unbalanced groups and classes,
repetitions of nothing, look-around, back-references, unknown escapes, and nesting
beyond a limit.
-/
namespace FormLogic.Pattern
namespace Parser

/-- What is left to read, whether blanks and comments are skipped, the group names used so far, and
how many groups are counted so far. The size of the whole pattern bounds every loop. -/
structure Cursor where
  size : Nat
  rest : List Char
  verbose : Bool
  names : List String
  captures : Nat

/-- Skip blanks and comments; a comment runs from a hash sign to the end of its line. -/
def skipComments : Bool → List Char → List Char
  | _, [] => []
  | true, c :: rest => skipComments (c != '\n') rest
  | false, c :: rest =>
    if isBlankChar c then skipComments false rest
    else if c = '#' then skipComments true rest
    else c :: rest

namespace Cursor

/-- Skip what is not part of the pattern. -/
def skip (at_ : Cursor) : Cursor :=
  if at_.verbose then { at_ with rest := skipComments false at_.rest } else at_

def withRest (at_ : Cursor) (rest : List Char) : Cursor := { at_ with rest }

/-- Go on with other input after what is not part of the pattern. -/
def skipTo (at_ : Cursor) (rest : List Char) : Cursor := (at_.withRest rest).skip

end Cursor

def isHex (c : Char) : Bool := (Hexadecimal.digit? c).isSome

/-- The character with a code written in hexadecimal. -/
def charOfHex? (digits : List Char) : Option Char :=
  (Hexadecimal.number? 16 digits).bind fun n =>
    if n < 0xD800 ∨ (0xDFFF < n ∧ n < 0x110000) then some (Char.ofNat n) else none

/-- Hexadecimal digits up to a closing brace, skipping blanks between them if `at_` does. -/
def bracedHex? : Nat → Cursor → List Char → Option (Char × Cursor)
  | 0, _, _ => none
  | fuel + 1, at_, digits =>
    match at_.skip.rest with
    | [] => none
    | '\x7d' :: rest => (charOfHex? digits.reverse).map (·, at_.skipTo rest)
    | c :: rest =>
      if isHex c then bracedHex? fuel (at_.withRest rest) (c :: digits) else none

def fixedHex? : Nat → Cursor → List Char → Option (Char × Cursor)
  | 0, at_, digits => (charOfHex? digits.reverse).map (·, at_.skip)
  | count + 1, at_, digits =>
    match at_.skip.rest with
    | [] => none
    | c :: rest =>
      if isHex c then fixedHex? count (at_.withRest rest) (c :: digits) else none

/-- A character code after the letter that announces it. -/
def hexEscape? (digits : Nat) (at_ : Cursor) : Option (Char × Cursor) :=
  match at_.skip.rest with
  | '\x7b' :: rest => bracedHex? (at_.size + 1) (at_.withRest rest) []
  | _ => fixedHex? digits at_ []

/-- What stands between the braces of a property class. -/
def propertyName? : Nat → Cursor → List Char → Option (String × Cursor)
  | 0, _, _ => none
  | fuel + 1, at_, acc =>
    match at_.skip.rest with
    | [] => none
    | '\x7d' :: rest => some (String.ofList acc.reverse, at_.withRest rest)
    | c :: rest => propertyName? fuel (at_.withRest rest) (c :: acc)

/-- The name of a property class after the letter that announces it. -/
def propertyContent? (at_ : Cursor) : Option (String × Cursor) :=
  match at_.skip.rest with
  | [] => none
  | '\x7b' :: rest => propertyName? (at_.size + 1) (at_.withRest rest) []
  | c :: rest => if c = '\\' then none else some (String.singleton c, at_.skipTo rest)

/-- The characters that mean something unless they are escaped. -/
def isMeta (c : Char) : Bool := "\\.+*?()|[]\x7b\x7d^$#&-~".toList.contains c

/-- Letters of a boundary name up to a closing brace. -/
def boundaryName? : Nat → Cursor → List Char → Option (String × Cursor)
  | 0, _, _ => none
  | fuel + 1, at_, acc =>
    match at_.rest with
    | '\x7d' :: rest => some (String.ofList acc.reverse, at_.withRest rest)
    | c :: rest =>
      if c.isAlpha ∨ c = '-' then boundaryName? fuel (at_.skipTo rest) (c :: acc) else none
    | [] => none

/-- The boundary after its letter; a name in braces selects a special one, while braces that hold no
name are left for a repetition. -/
def boundary? (at_ : Cursor) : Option (Boundary × Cursor) :=
  match at_.rest with
  | '\x7b' :: rest =>
    let inner := at_.skipTo rest
    match inner.rest with
    | [] => none
    | c :: _ =>
      if c.isAlpha ∨ c = '-' then
        match boundaryName? (at_.size + 1) inner [] with
        | some ("start", after) => some (.wordStart, after)
        | some ("end", after) => some (.wordEnd, after)
        | some ("start-half", after) => some (.wordStartHalf, after)
        | some ("end-half", after) => some (.wordEndHalf, after)
        | _ => none
      else some (.word, at_)
  | _ => some (.word, at_)

def escape? (at_ : Cursor) : Option (Term × Cursor) :=
  match at_.rest with
  | [] => none
  | c :: rest =>
    let after := at_.withRest rest
    let char (c : Char) : Option (Term × Cursor) := some (.char c false, after)
    match c with
    | 'x' => (hexEscape? 2 after).map fun (c, close) =>
        (.char c (after.skip.rest.head? != some '\x7b'), close)
    | 'u' => (hexEscape? 4 after).map fun (c, after) => (.char c false, after)
    | 'U' => (hexEscape? 8 after).map fun (c, after) => (.char c false, after)
    | 'p' => (propertyContent? after).map fun (name, after) => (.property name false, after)
    | 'P' => (propertyContent? after).map fun (name, after) => (.property name true, after)
    | 'd' => some (.letter .digit false, after)
    | 'D' => some (.letter .digit true, after)
    | 's' => some (.letter .blank false, after)
    | 'S' => some (.letter .blank true, after)
    | 'w' => some (.letter .word false, after)
    | 'W' => some (.letter .word true, after)
    | 'a' => char (Char.ofNat 7)
    | 'f' => char (Char.ofNat 12)
    | 't' => char '\t'
    | 'n' => char '\n'
    | 'r' => char '\r'
    | 'v' => char (Char.ofNat 11)
    | 'A' => some (.boundary .textStart, after)
    | 'z' => some (.boundary .textEnd, after)
    | 'b' => (boundary? after).map fun (b, after) => (.boundary b, after)
    | 'B' => some (.boundary .notWord, after)
    | '<' => some (.boundary .wordStart, after)
    | '>' => some (.boundary .wordEnd, after)
    | _ => if isMeta c ∨ (c.toNat < 128 ∧ !c.isAlphanum) then char c else none

/-- Decimal digits after the value `n`, skipping what is not part of the pattern after each. -/
def decimalDigits : Nat → Cursor → Nat → Nat × Cursor
  | 0, at_, n => (n, at_)
  | fuel + 1, at_, n =>
    match at_.rest with
    | [] => (n, at_)
    | c :: rest =>
      if c.isDigit then decimalDigits fuel (at_.skipTo rest) (10 * n + (c.toNat - '0'.toNat))
      else (n, at_)

/-- A decimal number with blanks on either side. -/
def decimal? (at_ : Cursor) : Option (Nat × Cursor) :=
  let start := at_.rest.dropWhile isBlankChar
  let (value, after) := decimalDigits (at_.size + 1) (at_.withRest start) 0
  if (start.head?.map Char.isDigit).getD false ∧ value ≤ 0xFFFFFFFF then
    some (value, after.withRest (after.rest.dropWhile isBlankChar))
  else none

/-- The bounds of a counted repetition after its opening brace. -/
def bounds? (at_ : Cursor) : Option (Nat × Option Nat × Cursor) := do
  let (least, after) ← decimal? at_.skip
  match after.rest with
  | '\x7d' :: rest => some (least, some least, after.withRest rest)
  | ',' :: rest =>
    let after := after.skipTo rest
    match after.rest with
    | '\x7d' :: rest => some (least, none, after.withRest rest)
    | [] => none
    | _ =>
      let (most, after) ← decimal? after
      match after.rest with
      | '\x7d' :: rest =>
        if least ≤ most then some (least, some most, after.withRest rest) else none
      | _ => none
  | _ => none

/-- Put a repetition on the last item, which must be something that can repeat. A question mark
makes the repetition prefer fewer copies. -/
def repeatLast? (items : List Term) (least : Nat) (most : Option Nat) (at_ : Cursor) :
    Option (List Term × Cursor) :=
  let (isLazy, after) : Bool × Cursor :=
    match at_.rest with
    | '?' :: rest => (true, at_.withRest rest)
    | _ => (false, at_)
  match items with
  | [] | .empty :: _ | .flags _ :: _ => none
  | t :: rest => some (.repetition t least most isLazy :: rest, after)

def isFlag (c : Char) : Bool := "imsUuRx".toList.contains c

/-- Flag letters up to a colon or a closing parenthesis, which stays. A minus sign may stand once,
and not last. -/
def flags? :
    Bool → Bool → List FlagSetting → List Char → Option (List FlagSetting × List Char)
  | _, _, _, [] => none
  | enabled, dangling, acc, c :: rest =>
    if c = ':' ∨ c = ')' then if dangling then none else some (acc.reverse, c :: rest)
    else if c = '-' then if enabled then flags? false true acc rest else none
    else if isFlag c ∧ acc.all fun s => s.flag != c then
      flags? enabled false (⟨c, enabled⟩ :: acc) rest
    else none

/-- Whether blanks are skipped once the settings are in force. -/
def verboseAfter (verbose : Bool) (settings : List FlagSetting) : Bool :=
  settings.foldl (fun v s => if s.flag = 'x' then s.enabled else v) verbose

def isLetter (c : Char) : Bool := CharProperty.alphabetic.get.contains c.toNat

/-- Digits and other signs for numbers. -/
def isNumeral (c : Char) : Bool :=
  [GeneralCategory.nd, GeneralCategory.nl, GeneralCategory.no].any fun s => s.get.contains c.toNat

/-- A group name begins with a letter or an underscore. -/
def isNameStart (c : Char) : Bool := c == '_' || isLetter c

def isNamePart (c : Char) : Bool := isNameStart c || isNumeral c || ['.', '[', ']'].contains c

/-- A group name up to its closing angle. -/
def groupName? (cs : List Char) : Option (String × List Char) :=
  let name := cs.takeWhile fun c => c != '>'
  match cs.dropWhile fun c => c != '>' with
  | [] => none
  | _ :: rest =>
    match name with
    | [] => none
    | first :: more =>
      if isNameStart first ∧ more.all isNamePart then some (String.ofList name, rest) else none

/-- What an opening parenthesis begins. -/
inductive Opening where
  | settings (list : List FlagSetting)
  | group (list : List FlagSetting)
  | capture (index : Nat)

/-- Read what follows an opening parenthesis, up to the body of the group. -/
def opening? (at_ : Cursor) : Option (Opening × Cursor) :=
  let at_ := at_.skip
  let named (cs : List Char) : Option (Opening × Cursor) := do
    let (name, rest) ← groupName? cs
    if at_.names.contains name then none
    else
      let captures := at_.captures + 1
      some (.capture captures, { at_ with rest, names := name :: at_.names, captures })
  match at_.rest with
  | '?' :: '=' :: _ | '?' :: '!' :: _ | '?' :: '<' :: '=' :: _ | '?' :: '<' :: '!' :: _ => none
  | '?' :: 'P' :: '<' :: rest => named rest
  | '?' :: '<' :: rest => named rest
  | '?' :: rest => do
    let (settings, rest) ← flags? true false [] rest
    match rest with
    | ')' :: rest =>
      if settings.isEmpty then none else some (.settings settings, at_.withRest rest)
    | _ :: rest => some (.group settings, at_.withRest rest)
    | [] => none
  | _ => some (.capture (at_.captures + 1), { at_ with captures := at_.captures + 1 })

def classNames : List String :=
  ["alnum", "alpha", "ascii", "blank", "cntrl", "digit", "graph", "lower", "print", "punct",
    "space", "upper", "word", "xdigit"]

/-- A named class after its opening bracket; anything else begins nested brackets. -/
def namedClass? (cs : List Char) : Option (ClassTerm × List Char) :=
  match cs with
  | ':' :: rest =>
    let (negated, rest) : Bool × List Char :=
      match rest with
      | '^' :: rest => (true, rest)
      | _ => (false, rest)
    let name := String.ofList (rest.takeWhile fun c => c != ':')
    match rest.dropWhile fun c => c != ':' with
    | ':' :: ']' :: rest =>
      if classNames.contains name then some (.named name negated, rest) else none
    | _ => none
  | _ => none

def classItem? (at_ : Cursor) : Option (Term × Cursor) :=
  match at_.rest with
  | [] => none
  | '\\' :: rest => escape? (at_.withRest rest)
  | c :: rest => some (.char c false, at_.withRest rest)

/-- An item as a member of a class. Boundaries have no place there. -/
def classTerm? : Term → Option ClassTerm
  | .char c _ => some (.char c)
  | .letter cls negated => some (.letter cls negated)
  | .property content negated => some (.property content negated)
  | _ => none

/-- The character that decides whether a hyphen begins a range: the next one or, where blanks are
skipped, the first after the blanks, also when a hash sign stands before it. -/
def afterHyphen? (verbose : Bool) (rest : List Char) : Option Char :=
  let next :=
    if !verbose then none
    else
      match rest.dropWhile isBlankChar with
      | '#' :: comment => (comment.dropWhile isBlankChar).head?
      | c :: _ => some c
      | [] => none
  next <|> rest.head?

/-- An item inside brackets, or the range that it begins. -/
def classRange? (at_ : Cursor) : Option (ClassTerm × Cursor) := do
  let (first, after) ← classItem? at_
  let after := after.skip
  match after.rest with
  | [] => none
  | '-' :: rest =>
    match afterHyphen? after.verbose rest with
    | some ']' | some '-' => (classTerm? first).map (·, after)
    | _ =>
      let (last, after) ← classItem? (after.skipTo rest)
      match first, last with
      | .char low _, .char high _ => if low ≤ high then some (.range low high, after) else none
      | _, _ => none
  | _ => (classTerm? first).map (·, after)

def unionOf : List ClassTerm → ClassTerm
  | [t] => t
  | items => .union items.reverse

/-- Finish an operand: combine it with what stands before the operator, if there is one. -/
def combined (pending : Option (SetOperation × ClassTerm)) (items : List ClassTerm) : ClassTerm :=
  match pending with
  | some (operation, left) => .combine operation left (unionOf items)
  | none => unionOf items

/-- Hyphens at the start of a class stand for themselves. -/
def leadingHyphens : Nat → Cursor → List ClassTerm → List ClassTerm × Cursor
  | 0, at_, items => (items, at_)
  | fuel + 1, at_, items =>
    match at_.rest with
    | '-' :: rest => leadingHyphens fuel (at_.skipTo rest) (.char '-' :: items)
    | _ => (items, at_)

/-- The start of a class after its opening bracket: whether it is negated, and the hyphens or the
closing bracket that stand for themselves. -/
def classOpening (at_ : Cursor) : Bool × List ClassTerm × Cursor :=
  let at_ := at_.skip
  let (negated, at_) : Bool × Cursor :=
    match at_.rest with
    | '^' :: rest => (true, at_.skipTo rest)
    | _ => (false, at_)
  let (items, at_) := leadingHyphens at_.size at_ []
  match items, at_.rest with
  | [], ']' :: rest => (negated, [.char ']'], at_.skipTo rest)
  | _, _ => (negated, items, at_)

/-- The rest of a class up to its closing bracket. -/
def classBody? : Nat → Cursor → Option (SetOperation × ClassTerm) → List ClassTerm →
    Option (ClassTerm × Cursor)
  | 0, _, _, _ => none
  | fuel + 1, at_, pending, items =>
    let at_ := at_.skip
    match at_.rest with
    | [] => none
    | ']' :: rest => some (combined pending items, at_.withRest rest)
    | '&' :: '&' :: rest =>
      classBody? fuel (at_.withRest rest) (some (.intersection, combined pending items)) []
    | '-' :: '-' :: rest =>
      classBody? fuel (at_.withRest rest) (some (.difference, combined pending items)) []
    | '~' :: '~' :: rest =>
      classBody? fuel (at_.withRest rest) (some (.symmetricDifference, combined pending items)) []
    | '[' :: rest =>
      match namedClass? rest with
      | some (named, rest) => classBody? fuel (at_.withRest rest) pending (named :: items)
      | none =>
        let (negated, first, inner) := classOpening (at_.withRest rest)
        match classBody? fuel inner none first with
        | some (body, after) => classBody? fuel after pending (.bracket negated body :: items)
        | none => none
    | _ =>
      match classRange? at_ with
      | some (item, after) => classBody? fuel after pending (item :: items)
      | none => none

/-- The items of a concatenation as one term. -/
def concatOf : List Term → Term
  | [] => .empty
  | [t] => t
  | items => .concat items.reverse

/-- The branches of an alternation as one term. -/
def alternationOf (branches : List Term) (items : List Term) : Term :=
  match branches with
  | [] => concatOf items
  | _ => .alternation (concatOf items :: branches).reverse

/-- Read up to the end of the input or to a closing parenthesis, which stays. -/
def body? : Nat → Cursor → List Term → List Term → Option (Term × Cursor)
  | 0, _, _, _ => none
  | fuel + 1, at_, branches, items =>
    let at_ := at_.skip
    match at_.rest with
    | [] => some (alternationOf branches items, at_)
    | c :: rest =>
      let after := at_.withRest rest
      match c with
      | ')' => some (alternationOf branches items, at_)
      | '|' => body? fuel after (concatOf items :: branches) []
      | '(' =>
        match opening? after with
        | none => none
        | some (.settings settings, after) =>
          body? fuel { after with verbose := verboseAfter at_.verbose settings } branches
            (.flags settings :: items)
        | some (opening, inner) =>
          let (wrap, verbose) : (Term → Term) × Bool :=
            match opening with
            | .capture index => (.capture index, at_.verbose)
            | .settings settings | .group settings =>
              (.group settings, verboseAfter at_.verbose settings)
          match body? fuel { inner with verbose } [] [] with
          | some (body, close) =>
            match close.rest with
            | ')' :: rest =>
              body? fuel { close with rest, verbose := at_.verbose } branches (wrap body :: items)
            | _ => none
          | none => none
      | '[' =>
        let (negated, first, inner) := classOpening after
        match classBody? (at_.size + 1) inner none first with
        | some (body, after) => body? fuel after branches (.bracket negated body :: items)
        | none => none
      | '?' =>
        match repeatLast? items 0 (some 1) after with
        | some (items, after) => body? fuel after branches items
        | none => none
      | '*' =>
        match repeatLast? items 0 none after with
        | some (items, after) => body? fuel after branches items
        | none => none
      | '+' =>
        match repeatLast? items 1 none after with
        | some (items, after) => body? fuel after branches items
        | none => none
      | '\x7b' =>
        match bounds? after with
        | none => none
        | some (least, most, after) =>
          match repeatLast? items least most after.skip with
          | some (items, after) => body? fuel after branches items
          | none => none
      | '\\' =>
        match escape? after with
        | some (t, after) => body? fuel after branches (t :: items)
        | none => none
      | '.' => body? fuel after branches (.dot :: items)
      | '^' => body? fuel after branches (.boundary .caret :: items)
      | '$' => body? fuel after branches (.boundary .dollar :: items)
      | _ => body? fuel after branches (.char c false :: items)

end Parser

def Term.parse? (text : String) : Option Term :=
  let chars := text.toList
  match Parser.body? (chars.length + 1) ⟨chars.length, chars, false, [], 0⟩ [] [] with
  | some (t, after) => if after.rest = [] ∧ t.depth ≤ maxDepth then some t else none
  | none => none

end FormLogic.Pattern
