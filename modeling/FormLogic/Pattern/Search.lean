import FormLogic.Pattern.Expr

/-!
# Where patterns match

Matching follows sets of places in the text: an expression takes the places at which a match
may begin to those at which it may end, so alternatives never have to be tried again and every
repetition ends once it reaches no new place. Which places a character set or an anchor admits
is found once for each of its occurrences in the pattern.
-/
namespace FormLogic.Pattern

/-- A set of places in a text. Bit `i` is set when place `i`, before the character with index `i`,
is a member. -/
abbrev Places := Nat

namespace Places

/-- Each two neighbours as one number, the second above the `width` bits of the first. -/
def pairUp (width : Nat) : List Places → List Places
  | a :: b :: rest => (a ||| b <<< width) :: pairUp width rest
  | places => places

/-- Numbers of `width` bits as one, in at most `fuel` rounds. The first one has the lowest bits. -/
def gather : Nat → Nat → List Places → Places
  | _, _, [] => 0
  | _, _, [a] => a
  | 0, _, a :: _ => a
  | fuel + 1, width, places => gather fuel (2 * width) (pairUp width places)

/-- The places whose item in a list has a property. -/
def whose {α : Type} (p : α → Bool) (items : List α) : Places :=
  gather items.length 1 (items.map fun item => (p item).toNat)

/-- The members that are admitted, each moved behind its character. -/
def step (admitted places : Places) : Places := (places &&& admitted) <<< 1

/-- The members of the first set that the second one lacks. -/
def without (places seen : Places) : Places := places ^^^ (places &&& seen)

/-- The places after `n` moves. A move that changes nothing ends the sequence. -/
def after (move : Places → Places) : Nat → Places → Places
  | 0, places => places
  | n + 1, places =>
    let next := move places
    if next = places then places else after move n next

/-- The places seen so far and those that at most `n` moves reach from the new ones among them. -/
def reach (move : Places → Places) : Nat → Places → Places → Places
  | 0, seen, _ => seen
  | n + 1, seen, new =>
    let next := (move new).without seen
    if next = 0 then seen else reach move n (seen ||| next) next

end Places

/-- A text with what stands before and after each of its places. -/
structure Sites where
  chars : List Char
  borders : List (Option Char × Option Char)

namespace Sites

def ofText (text : String) : Sites :=
  let chars := text.toList
  ⟨chars, (none :: chars.map some).zip (chars.map some ++ [none])⟩

/-- Every place of the text, also the one at its end. -/
def all (sites : Sites) : Places := Places.whose (fun _ => true) sites.borders

/-- The places before a character of a set. -/
def before (sites : Sites) (s : CharSet) : Places :=
  Places.whose (fun c => s.contains c.toNat) sites.chars

/-- The places at which an anchor holds. -/
def holding (sites : Sites) (a : Anchor) : Places :=
  Places.whose (fun border => a.holds border.1 border.2) sites.borders

end Sites

/-- From the places at which a match may begin to those at which it may end. -/
structure Motion where
  apply : Places → Places

namespace Motion

/-- One motion after the other. -/
def all (motions : List Motion) : Motion :=
  ⟨fun places => motions.foldl (fun p m => m.apply p) places⟩

/-- Any one of the motions. -/
def any (motions : List Motion) : Motion :=
  ⟨fun places => motions.foldl (fun p m => p ||| m.apply places) 0⟩

/-- A motion repeated some number of times. More than `limit` times in a row, it reaches no place
that it would not reach otherwise. -/
def repeated (limit : Nat) (body : Motion) (least : Nat) (most : Option Nat) : Motion :=
  let more := min limit ((most.map (· - least)).getD limit)
  ⟨fun places =>
    let start := Places.after body.apply least places
    Places.reach body.apply more start start⟩

end Motion

namespace Expr

mutual
/-- The motion of an expression in a text. -/
def motion (sites : Sites) : Expr → Motion
  | empty => ⟨id⟩
  | literal chars =>
    let admitted := chars.eraseDups.map fun c => (c, sites.before (.single c))
    Motion.all (chars.map fun c => ⟨Places.step ((admitted.lookup c).getD 0)⟩)
  | set s =>
    let admitted := sites.before s
    ⟨Places.step admitted⟩
  | anchor a =>
    let admitted := sites.holding a
    ⟨fun places => places &&& admitted⟩
  | repetition body least most _ =>
    (body.motion sites).repeated (sites.chars.length + 1) least most
  | capture _ body => body.motion sites
  | concat items => Motion.all (motions sites items)
  | alternation branches => Motion.any (motions sites branches)
def motions (sites : Sites) : List Expr → List Motion
  | [] => []
  | e :: rest => e.motion sites :: motions sites rest
end

/-- Whether the expression matches somewhere in a text. -/
def isFoundIn (e : Expr) (text : String) : Bool :=
  let sites := Sites.ofText text
  (e.motion sites).apply sites.all != 0

end Expr
end FormLogic.Pattern
