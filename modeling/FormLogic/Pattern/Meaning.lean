import FormLogic.Pattern.Property
import FormLogic.Pattern.Automaton.Plan
import FormLogic.Pattern.Term.Reader

/-!
# What a written pattern means

The flags in force decide what a term matches: they hold from where they are set
to the end of the group. A part confined to ASCII has only ASCII characters in its
classes, and nothing in it that could match part of another character.
-/
namespace FormLogic.Pattern

/-- The flags that bear on meaning. -/
structure Flags where
  caseless : Bool := false
  multiline : Bool := false
  /-- The dot matches line ends too. -/
  dotAll : Bool := false
  unicode : Bool := true
  /-- Repetitions prefer fewer copies, and those that are marked as lazy prefer more. -/
  swapGreed : Bool := false
  /-- A carriage return ends a line as well. -/
  wideLines : Bool := false
deriving DecidableEq, Repr, Inhabited

namespace Flags

def apply (flags : Flags) (s : FlagSetting) : Flags :=
  match s.flag with
  | 'i' => { flags with caseless := s.enabled }
  | 'm' => { flags with multiline := s.enabled }
  | 's' => { flags with dotAll := s.enabled }
  | 'u' => { flags with unicode := s.enabled }
  | 'U' => { flags with swapGreed := s.enabled }
  | 'R' => { flags with wideLines := s.enabled }
  | _ => flags

def applyAll (flags : Flags) (settings : List FlagSetting) : Flags := settings.foldl apply flags

/-- All case variants, if case does not matter. -/
def fold (flags : Flags) (s : CharSet) : CharSet :=
  if !flags.caseless then s
  else if flags.unicode then CaseFolding.closure s
  else CaseFolding.asciiClosure s

/-- The complement, if it is asked for. It would leave ASCII. -/
def negate? (flags : Flags) (negated : Bool) (s : CharSet) : Option CharSet :=
  if !negated then some s else if flags.unicode then some s.complement else none

def letterSet (flags : Flags) (cls : LetterClass) : CharSet :=
  match cls with
  | .digit => if flags.unicode then GeneralCategory.nd.get else .ofText "30-39"
  | .blank => if flags.unicode then CharProperty.whiteSpace.get else .ofText "9-D 20"
  | .word => Anchor.wordSet !flags.unicode

/-- A single character in a class, which must be ASCII if the pattern is. -/
def char? (flags : Flags) (c : Char) : Option CharSet :=
  if !flags.unicode ∧ 128 ≤ c.toNat then none else some (.single c)

def property? (flags : Flags) (content : String) (negated : Bool) : Option CharSet :=
  if !flags.unicode then none
  else do
    let s ← Property.ofText? content
    negate? flags negated (flags.fold s)

def anchor (flags : Flags) : Boundary → Anchor
  | .textStart => .textStart
  | .textEnd => .textEnd
  | .caret =>
    if !flags.multiline then .textStart else if flags.wideLines then .wideLineStart else .lineStart
  | .dollar =>
    if !flags.multiline then .textEnd else if flags.wideLines then .wideLineEnd else .lineEnd
  | .word => .word !flags.unicode
  | .notWord => .notWord !flags.unicode
  | .wordStart => .wordStart !flags.unicode
  | .wordEnd => .wordEnd !flags.unicode
  | .wordStartHalf => .wordStartHalf !flags.unicode
  | .wordEndHalf => .wordEndHalf !flags.unicode

end Flags

/-- The members of a class with a name. -/
def namedSet (name : String) : CharSet :=
  .ofText <| match name with
  | "alnum" => "30-39 41-5A 61-7A"
  | "alpha" => "41-5A 61-7A"
  | "ascii" => "0-7F"
  | "blank" => "9 20"
  | "cntrl" => "0-1F 7F"
  | "digit" => "30-39"
  | "graph" => "21-7E"
  | "lower" => "61-7A"
  | "print" => "20-7E"
  | "punct" => "21-2F 3A-40 5B-60 7B-7E"
  | "space" => "9-D 20"
  | "upper" => "41-5A"
  | "word" => "30-39 41-5A 5F 61-7A"
  | _ => "30-39 41-46 61-66"

namespace ClassTerm

/-- The set a class stands for. Case variants are taken bracket by bracket and on both sides of an
operator. -/
def meaning? (flags : Flags) : ClassTerm → Option CharSet
  | char c => flags.char? c
  | range low high => do
    let _ ← flags.char? low
    let _ ← flags.char? high
    some (.range low.toNat high.toNat)
  | named name negated => flags.negate? negated (flags.fold (namedSet name))
  | letter cls negated => flags.negate? negated (flags.letterSet cls)
  | property content negated => flags.property? content negated
  | bracket negated body => do
    let s ← body.meaning? flags
    flags.negate? negated (flags.fold s)
  | union items => (memberSets? items).map .unions
  | combine operation left right => do
    let s ← left.meaning? flags
    let t ← right.meaning? flags
    let s := flags.fold s
    let t := flags.fold t
    some <| match operation with
      | .intersection => s.intersection t
      | .difference => s.difference t
      | .symmetricDifference => s.symmetricDifference t
where
  memberSets? : List ClassTerm → Option (List CharSet)
  | [] => some []
  | t :: rest => do
    let s ← t.meaning? flags
    let more ← memberSets? rest
    some (s :: more)

end ClassTerm

namespace Term

def dotSet? (flags : Flags) : Option CharSet :=
  if !flags.unicode then none
  else if flags.dotAll then some .full
  else if flags.wideLines then some (CharSet.ofText "A D").complement
  else some (CharSet.single '\n').complement

mutual
/-- What a term matches under the flags, and the flags for what follows it. -/
def meaning? (flags : Flags) : Term → Option (Expr × Flags)
  | empty => some (.empty, flags)
  | .flags settings => some (.empty, flags.applyAll settings)
  | char c byte =>
    if !flags.unicode ∧ byte ∧ 128 ≤ c.toNat then none
    else some (.ofSet (flags.fold (.single c)), flags)
  | dot => (dotSet? flags).map fun s => (.ofSet s, flags)
  | boundary b => some (.anchor (flags.anchor b), flags)
  | letter cls negated =>
    (flags.negate? negated (flags.letterSet cls)).map fun s => (.ofSet s, flags)
  | property content negated => (flags.property? content negated).map fun s => (.ofSet s, flags)
  | bracket negated body =>
    ((body.meaning? flags).bind fun s => flags.negate? negated (flags.fold s)).map
      fun s => (.ofSet s, flags)
  | repetition body least most isLazy =>
    (body.meaning? flags).map fun (e, flags) =>
      (e.repeated least most (isLazy == flags.swapGreed), flags)
  | group settings body =>
    (body.meaning? (flags.applyAll settings)).map fun (e, _) => (e, flags)
  | capture index body => (body.meaning? flags).map fun (e, _) => (.capture index e, flags)
  | concat items => (meanings? flags items).map fun (es, flags) => (.concatOf es, flags)
  | alternation branches =>
    (meanings? flags branches).map fun (es, flags) => (.alternationOf es, flags)
/-- What each of several terms matches. Flags set in one of them hold in those after it. -/
def meanings? (flags : Flags) : List Term → Option (List Expr × Flags)
  | [] => some ([], flags)
  | t :: rest => do
    let (e, flags) ← t.meaning? flags
    let (more, flags) ← meanings? flags rest
    some (e :: more, flags)
end

end Term

def Expr.parse? (text : String) : Option Expr := do
  let term ← Term.parse? text
  let (e, _) ← term.meaning? {}
  if e.isSmall then some e else none

end FormLogic.Pattern
