import FormLogic.Error

/-!
# Diagnostics

Notes to the author of a schema about what is no error but wants mending. A sink
keeps the first note of each kind and subject. `Noted` is a computation that may
fail and that yields, either way, the notes it took; what it computes cannot
depend on notes taken before.
-/
namespace FormLogic

inductive DiagnosticKind where
  /-- A node has a type tag that nothing is registered for. -/
  | unknownType
  /-- A node names plugin checks, but there is no collaborator to run them. -/
  | missingPluginValidator
deriving DecidableEq, Repr, Inhabited

namespace DiagnosticKind

def name : DiagnosticKind → String
  | unknownType => "unknown-type"
  | missingPluginValidator => "missing-plugin-validator"

end DiagnosticKind

structure Diagnostic where
  kind : DiagnosticKind
  /-- The type tag, or the names of the checks. -/
  subject : String
  /-- The path of the first node concerned. -/
  path : String
  message : String
deriving DecidableEq, Repr, Inhabited

namespace Diagnostic

def unknownType (type path : String) : Diagnostic where
  kind := .unknownType
  subject := type
  path := path
  message := "unknown node type '" ++ type ++ "' at '" ++ path
    ++ "'; its subtree gets no type-specific behavior"

def missingPlugins (plugins : List String) (path : String) : Diagnostic :=
  let subject := ",".intercalate plugins
  { kind := .missingPluginValidator, subject, path
    message := "plugins [" ++ subject
      ++ "] requested but no plugin validator is configured; skipping" }

/-- Two notes count as one when they agree in kind and subject. -/
def sameAs (d e : Diagnostic) : Bool := d.kind == e.kind && d.subject == e.subject

end Diagnostic

/-- A sink of notes in the order in which they first came. -/
structure Diagnostics where
  entries : List Diagnostic := []
deriving DecidableEq, Repr, Inhabited

namespace Diagnostics

/-- Keep a note unless one of its kind and subject is there; says whether it was kept. -/
def record (sink : Diagnostics) (d : Diagnostic) : Bool × Diagnostics :=
  if sink.entries.any d.sameAs then (false, sink) else (true, ⟨sink.entries ++ [d]⟩)

def recordAll (sink : Diagnostics) (notes : List Diagnostic) : Diagnostics :=
  notes.foldl (fun sink d => (sink.record d).2) sink

def clear (_ : Diagnostics) : Diagnostics := {}

end Diagnostics

/-- A result or an error, with the notes taken on the way. -/
structure Noted (α : Type) where
  notes : List Diagnostic
  outcome : Except FormError α

namespace Noted

/-- A result without notes. -/
def ok {α : Type} (a : α) : Noted α := ⟨[], .ok a⟩

def fail {α : Type} (e : FormError) : Noted α := ⟨[], .error e⟩

def ofExcept {α : Type} (outcome : Except FormError α) : Noted α := ⟨[], outcome⟩

def note (d : Diagnostic) : Noted Unit := ⟨[d], .ok ()⟩

/-- Go on with a result; the notes of both parts are kept in order, also on failure. -/
def andThen {α β : Type} (x : Noted α) (f : α → Noted β) : Noted β :=
  match x.outcome with
  | .ok a => ⟨x.notes ++ (f a).notes, (f a).outcome⟩
  | .error e => ⟨x.notes, .error e⟩

instance : Monad Noted where
  pure := ok
  bind := andThen

theorem andThen_ok {α β : Type} (notes : List Diagnostic) (a : α) (f : α → Noted β) :
    andThen ⟨notes, .ok a⟩ f = ⟨notes ++ (f a).notes, (f a).outcome⟩ := rfl

theorem ok_andThen {α β : Type} (a : α) (f : α → Noted β) : andThen (ok a) f = f a := by
  simp [ok, andThen]

theorem andThen_assoc {α β γ : Type} (x : Noted α) (f : α → Noted β) (g : β → Noted γ) :
    andThen (andThen x f) g = andThen x fun a => andThen (f a) g := by
  obtain ⟨notes, outcome⟩ := x
  cases outcome with
  | error e => rfl
  | ok a =>
    simp only [andThen_ok]
    cases h : (f a).outcome <;> simp [andThen, h]

theorem id_map {α : Type} (x : Noted α) : id <$> x = x := by
  obtain ⟨notes, outcome⟩ := x
  cases outcome <;> simp [Functor.map, andThen, ok]

instance : LawfulMonad Noted := .mk' _ id_map ok_andThen andThen_assoc

end Noted
end FormLogic
