import FormLogic.Pattern.Anchored
import FormLogic.Validation.Plugin
import FormLogic.Value.Access

/-!
# Validators

A validator holds rules that a value is checked against at once, and may hold a
refinement that runs only when the rules passed. A validator of a repeater holds
one map of validators for each row, and is checked together with them. Checking
never fails: what is wrong comes back as issues.
-/
namespace FormLogic

/-- How much an issue matters. -/
inductive Severity where
  /-- The value is not acceptable. -/
  | error
  /-- The value is acceptable and wants attention. -/
  | warning
deriving DecidableEq, Repr, Inhabited

def Severity.name : Severity → String
  | error => "error"
  | warning => "warning"

/-- What is wrong at a path. -/
structure Issue where
  path : String
  message : String
  severity : Severity
deriving DecidableEq, Repr, Inhabited

def Issue.isError (i : Issue) : Bool := i.severity == .error

/-- The issues of the value at one path. -/
structure ValidationResult where
  path : String
  issues : List Issue
deriving DecidableEq, Repr, Inhabited

namespace ValidationResult

def errors (r : ValidationResult) : List Issue := r.issues.filter Issue.isError
def warnings (r : ValidationResult) : List Issue := r.issues.filter fun i => !i.isError

/-- Warnings do not make a value invalid. -/
def isValid (r : ValidationResult) : Bool := r.issues.all fun i => !i.isError

end ValidationResult

/-- The results of a whole map of validators. -/
structure ValidationReport where
  results : List ValidationResult
deriving DecidableEq, Repr, Inhabited

namespace ValidationReport

def isValid (r : ValidationReport) : Bool := r.results.all ValidationResult.isValid
def issues (r : ValidationReport) : List Issue := r.results.flatMap (·.issues)

/-- The result for a path that has a validator. -/
def get? (r : ValidationReport) (path : String) : Option ValidationResult :=
  r.results.find? fun result => result.path == path

end ValidationReport

/-- The shape a value must have. -/
inductive Shape where
  | string
  | number
  | boolean
  | array
  | object
deriving DecidableEq, Repr, Inhabited

namespace Shape

def fits : Shape → Value → Bool
  | string, .str _ => true
  | number, .num _ => true
  | boolean, .bool _ => true
  | array, .arr _ => true
  | object, .obj _ => true
  | _, _ => false

def describe : Shape → String
  | string => "text"
  | number => "a number"
  | boolean => "true or false"
  | array => "a list"
  | object => "an object"

end Shape

mutual
/-- One check of a value that is not blank. -/
inductive Rule where
  | shape (s : Shape)
  | minLength (n : Nat)
  | maxLength (n : Nat)
  | pattern (p : AnchoredPattern)
  | email
  | min (x : Binary64)
  | max (x : Binary64)
  | minItems (n : Nat)
  | maxItems (n : Nat)
  /-- The value is `true`. -/
  | mustBeTrue
  /-- One option of an object is `true`. -/
  | anyChecked
  /-- One map of validators for each row, by path inside the row. -/
  | rows (maps : List (List (String × Validator)))
/-- The checks of the value at one path. -/
structure Validator where
  label : String
  /-- A blank value is acceptable. -/
  isOptional : Bool := false
  /-- A blank value wants attention. -/
  isSoftRequired : Bool := false
  rules : List Rule := []
  refinement : Option Refinement := none
  /-- Replaces the message of every failed rule. -/
  message : Option String := none
  /-- Which values that are not blank count as not filled in. -/
  emptyWhen : Option (Value → Bool) := none
end

instance : Inhabited Validator := ⟨{ label := "" }⟩
instance : Inhabited Rule := ⟨.email⟩

/-- Validators by path, in the order in which their paths came. -/
abbrev ValidatorMap := List (String × Validator)

namespace ValidatorMap

/-- Enter a validator. A path that is there keeps its place and gets the new validator. -/
def insert (path : String) (v : Validator) : ValidatorMap → ValidatorMap
  | [] => [(path, v)]
  | (p, w) :: rest => if p = path then (p, v) :: rest else (p, w) :: insert path v rest

/-- The validator of a path. -/
def find? (path : String) : ValidatorMap → Option Validator
  | [] => none
  | (p, v) :: rest => if p = path then some v else find? path rest

def paths (m : ValidatorMap) : List String := m.map (·.1)

end ValidatorMap

namespace Rule

/-- Whether a value passes. A rule about another shape than the value's passes; rows are checked by
the validator that holds them. -/
def accepts : Rule → Value → Bool
  | shape s, v => s.fits v
  | minLength n, .str s => n ≤ s.length
  | maxLength n, .str s => s.length ≤ n
  | pattern p, .str s => p.accepts s
  | email, .str s => Email.accepts s
  | min x, .num n => !n.toBinary64.numLt x
  | max x, .num n => !x.numLt n.toBinary64
  | minItems n, .arr items => n ≤ items.length
  | maxItems n, .arr items => items.length ≤ n
  | mustBeTrue, v => v.isTrue
  | anyChecked, v => v.anyChecked
  | _, _ => true

/-- What a failed rule has to say about the value with the given label. -/
def complaint (label : String) : Rule → String
  | shape s => label ++ " must be " ++ s.describe
  | minLength n => label ++ " must be at least " ++ toString n ++ " characters"
  | maxLength n => label ++ " must be at most " ++ toString n ++ " characters"
  | pattern _ => label ++ " does not match the expected format"
  | email => label ++ " must be a valid email address"
  | min x => label ++ " must be at least " ++ FloatLayout.prose.render x
  | max x => label ++ " must be at most " ++ FloatLayout.prose.render x
  | minItems n => label ++ " needs at least " ++ toString n ++ " entries"
  | maxItems n => label ++ " allows at most " ++ toString n ++ " entries"
  | mustBeTrue => label ++ " must be checked"
  | anyChecked => label ++ " needs at least one selection"
  | rows _ => ""

/-- The complaint of a rule that a value fails. -/
def check (r : Rule) (label : String) (v : Value) : Option String :=
  if r.accepts v then none else some (r.complaint label)

end Rule

/-- A value that is filled in. -/
def Value.filled? (v : Option Value) : Option Value := v.filter fun v => !Value.isBlank (some v)

namespace Validator

/-- Require one more rule. -/
def and (v : Validator) (r : Rule) : Validator := { v with rules := v.rules ++ [r] }

/-- An error at a path, in the words of the validator if it has its own. -/
def errorAt (v : Validator) (path message : String) : Issue :=
  ⟨path, v.message.getD message, .error⟩

/-- The warning that a value is not filled in. -/
def recommendedAt (v : Validator) (path : String) : Issue :=
  ⟨path, v.label ++ " is recommended", .warning⟩

/-- The issues of a value that is not filled in. -/
def blankIssues (v : Validator) (path : String) : List Issue :=
  if !v.isOptional then [v.errorAt path (v.label ++ " is required")]
  else if v.isSoftRequired then [v.recommendedAt path]
  else []

/-- Whether a value that is not blank counts as not filled in. -/
def deemsEmpty (v : Validator) (x : Value) : Bool :=
  v.isOptional && v.isSoftRequired && (v.emptyWhen.map fun empty => empty x).getD false

/-- The errors of the rules, rows apart. -/
def ownErrors (v : Validator) (path : String) (x : Value) : List Issue :=
  (v.rules.filterMap fun r => r.check v.label x).map (v.errorAt path)

/-- The row maps of the first rule that has them. -/
def rowMaps? (v : Validator) : Option (List ValidatorMap) :=
  v.rules.findSome? fun r =>
    match r with
    | .rows maps => some maps
    | _ => none

mutual
/-- The issues of the value at a path: of the value itself, then of its rows. -/
def check (path : String) (value : Option Value) : Validator → List Issue
  | ⟨label, isOptional, isSoftRequired, rules, refinement, message, emptyWhen⟩ =>
    let self : Validator :=
      ⟨label, isOptional, isSoftRequired, rules, refinement, message, emptyWhen⟩
    match Value.filled? value with
    | none => self.blankIssues path
    | some x =>
      if self.deemsEmpty x then [self.recommendedAt path]
      else self.ownErrors path x ++ checkRules path x rules
/-- The issues of the rows, by the first rule that has row maps. -/
def checkRules (path : String) (x : Value) : List Rule → List Issue
  | [] => []
  | .rows maps :: _ =>
    match x with
    | .arr items => checkRows path 0 items maps
    | _ => []
  | _ :: rest => checkRules path x rest
/-- The issues of rows numbered from `index`, as far as there are both rows and maps. -/
def checkRows (path : String) (index : Nat) (items : List Value) :
    List (List (String × Validator)) → List Issue
  | [] => []
  | m :: rest =>
    match items with
    | [] => []
    | row :: items => checkRow (Path.row path index) row m ++ checkRows path (index + 1) items rest
def checkRow (base : String) (row : Value) : List (String × Validator) → List Issue
  | [] => []
  | (rel, v) :: rest => check (Path.join base rel) (row.get? rel) v ++ checkRow base row rest
end

/-- A refinement that is due, with the value it is for. -/
structure Due where
  path : String
  value : Value
  refinement : Refinement

mutual
/-- The refinements due for the value at a path: those of all parts that, with every part around
them, are filled in and have no error of their own. -/
def due (path : String) (value : Option Value) : Validator → List Due
  | ⟨label, isOptional, isSoftRequired, rules, refinement, message, emptyWhen⟩ =>
    let self : Validator :=
      ⟨label, isOptional, isSoftRequired, rules, refinement, message, emptyWhen⟩
    match Value.filled? value with
    | none => []
    | some x =>
      if (self.ownErrors path x).isEmpty then
        (refinement.map fun refinement => Due.mk path x refinement).toList
          ++ dueOfRules path x rules
      else []
def dueOfRules (path : String) (x : Value) : List Rule → List Due
  | [] => []
  | .rows maps :: _ =>
    match x with
    | .arr items => dueOfRows path 0 items maps
    | _ => []
  | _ :: rest => dueOfRules path x rest
def dueOfRows (path : String) (index : Nat) (items : List Value) :
    List (List (String × Validator)) → List Due
  | [] => []
  | m :: rest =>
    match items with
    | [] => []
    | row :: items => dueOfRow (Path.row path index) row m ++ dueOfRows path (index + 1) items rest
def dueOfRow (base : String) (row : Value) : List (String × Validator) → List Due
  | [] => []
  | (rel, v) :: rest => due (Path.join base rel) (row.get? rel) v ++ dueOfRow base row rest
end

/-- The issue of a refinement that ran, if it found one or broke. -/
def Due.issue? (d : Due) : Option Issue :=
  match d.refinement d.value with
  | .ok none => none
  | .ok (some message) => some ⟨d.path, message, .error⟩
  | .error e => some ⟨d.path, "could not be verified: " ++ e.message, .error⟩

/-- Check the value at a path and run the refinements that are due. -/
def validate (v : Validator) (path : String) (value : Option Value) : ValidationResult :=
  ⟨path, v.check path value ++ (v.due path value).filterMap Due.issue?⟩

end Validator

def ValidatorMap.validate (m : ValidatorMap) (values : Value) : ValidationReport :=
  ⟨m.map fun (path, v) => v.validate path (values.get? path)⟩

end FormLogic
