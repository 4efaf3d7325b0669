import FormLogic.Proofs.ClearingPolicy
import FormLogic.Proofs.DecidableTrees
import FormLogic.Proofs.FlatValidation
import FormLogic.Proofs.KeptNotes

/-!
# Notes of unknown types

Every pass notes the instances of unknown type that it meets, and a fresh sink keeps the first
note of each type. So the notes of a resolution name the first instance of each unknown type over
all of its passes: one in a row that a later pass drops is among them, and one that no pass makes,
below a leaf or a list without a key, is not. The validators are built after the passes; those of
the standard types take no notes of unknown types, and those of other types may.
-/
namespace FormLogic

open Visibility

section Validators

variable {ctx : Context} {P : Diagnostic → Prop}

/-- Every note of a computation, whether it fails or not, has the property. -/
def Noted.OnlyNotes {α : Type} (P : Diagnostic → Prop) (x : Noted α) : Prop := ∀ d ∈ x.notes, P d

namespace Noted.OnlyNotes

variable {α β : Type}

theorem ofExcept (outcome : Except FormError α) : Noted.OnlyNotes P (Noted.ofExcept outcome) :=
  fun _ hd => absurd hd List.not_mem_nil

theorem pure (a : α) : Noted.OnlyNotes P (Pure.pure a : Noted α) := .ofExcept (.ok a)

theorem bind {x : Noted α} {f : α → Noted β} (hx : Noted.OnlyNotes P x)
    (hf : ∀ a, Noted.OnlyNotes P (f a)) : Noted.OnlyNotes P (x >>= f) := by
  obtain ⟨notes, outcome⟩ := x
  cases outcome with
  | error e => exact hx
  | ok a =>
    intro d hd
    rcases List.mem_append.1 hd with hd | hd
    · exact hx d hd
    · exact hf a d hd

end Noted.OnlyNotes

/-- The note is taken where the validator of some type is built. -/
def Context.NotedByType (ctx : Context) (d : Diagnostic) : Prop :=
  ∃ n t build, ctx.typeOf n = some t ∧ t.validator = some build ∧
    d ∈ (build n ctx.collaborator).notes

theorem onlyNotes_ownValidator (n : Node) :
    (Instance.ownValidator ctx n).OnlyNotes ctx.NotedByType := by
  unfold Instance.ownValidator
  split
  · exact .pure none
  · next t ht =>
    split
    · exact .pure none
    · next build hb => exact .bind (fun d hd => ⟨n, t, build, ht, hb, hd⟩) fun v => .pure _

/-- Entering the validators of an instance notes what the types note. -/
def EntersNoting (ctx : Context) (i : Instance) : Prop :=
  ∀ (base : String) (entered : ValidatorMap), (i.enter ctx base entered).OnlyNotes ctx.NotedByType

theorem onlyNotes_enterAll {is : List Instance} (h : ∀ i ∈ is, EntersNoting ctx i) (base : String)
    (entered : ValidatorMap) :
    (Instance.enterAll ctx base is entered).OnlyNotes ctx.NotedByType := by
  induction is generalizing entered with
  | nil => exact .pure entered
  | cons i rest ih =>
    rw [Instance.enterAll]
    exact .bind (h i List.mem_cons_self base entered) fun entered =>
      ih (fun j hj => h j (List.mem_cons_of_mem i hj)) entered

theorem onlyNotes_enterRows {rows : List (List Instance)}
    (h : ∀ row ∈ rows, ∀ i ∈ row, EntersNoting ctx i) (path : String) (index : Nat) :
    (Instance.enterRows ctx path index rows).OnlyNotes ctx.NotedByType := by
  induction rows generalizing index with
  | nil => exact .pure []
  | cons row rest ih =>
    rw [Instance.enterRows]
    exact .bind (onlyNotes_enterAll (h row List.mem_cons_self) _ _) fun m =>
      .bind (ih (fun r hr => h r (List.mem_cons_of_mem row hr)) _) fun more => .pure _

theorem entersNoting (ctx : Context) (i : Instance) : EntersNoting ctx i := by
  induction i using Instance.induction with
  | step i ihChildren ihRows =>
    intro base entered
    rcases i.cases_shown with hh | ⟨hh, hk | hk | hk⟩
    · rw [enter_of_hidden hh]
      exact .pure entered
    · rw [enter_of_leaf hh hk]
      split
      · refine .bind (onlyNotes_ownValidator i.node) fun v? => ?_
        cases v? <;> exact .pure _
      · exact .pure entered
    · rw [enter_of_repeater hh hk]
      split
      · exact .bind (onlyNotes_ownValidator i.node) fun v? =>
          .bind (onlyNotes_enterRows ihRows i.path 0) fun maps => .pure _
      · exact .pure entered
    · rw [enter_of_container hh hk]
      exact onlyNotes_enterAll ihChildren base entered

theorem notedByType_of_mem {tree : List Instance} {d : Diagnostic}
    (h : d ∈ (validatorsOf ctx tree).notes) : ctx.NotedByType d :=
  onlyNotes_enterAll (fun i _ => entersNoting ctx i) "" [] d h

/-- The validators of the standard types note plugin checks, and no unknown types. -/
theorem kind_of_notedByType (hs : ctx.registry = Registry.standard) {d : Diagnostic}
    (h : ctx.NotedByType d) : d.kind = .missingPluginValidator := by
  obtain ⟨n, t, build, ht, hb, hd⟩ := h
  have hbase : (Standard.baseValidator n ctx.collaborator).OnlyNotes
      (·.kind = .missingPluginValidator) := by
    refine .bind ?_ fun _ => .pure _
    unfold Standard.pluginRefinement
    split
    · exact .pure none
    · cases ctx.collaborator with
      | some run => exact .pure _
      | none => exact .bind (fun d hd => List.mem_singleton.1 hd ▸ rfl) fun _ => .pure none
  rw [Context.typeOf, hs] at ht
  cases hk : t.kind.ownsPath with
  | true =>
    obtain ⟨isEmpty, rules, hj⟩ := exists_judges ht hk
    obtain rfl := Option.some.inj (hj.validator_eq.symm.trans hb)
    have hbuild : (Standard.validatorWith rules n ctx.collaborator).OnlyNotes
        (·.kind = .missingPluginValidator) :=
      .bind hbase fun base => .bind (.ofExcept _) fun rules => .pure _
    exact hbuild d hd
  | false =>
    -- Types without a value of their own build no validator.
    have hnone : (t.kind.ownsPath || t.validator.isNone) = true :=
      (by decide : ∀ e ∈ Standard.types, (e.2.kind.ownsPath || e.2.validator.isNone) = true) _
        (Registry.mem_types_of_lookup ht)
    simp [hk, hb] at hnone

end Validators

/-- Of each type the first instance. -/
def firstOfType (is : List Instance) : List Instance :=
  is.eraseDupsBy fun i j => i.node.type == j.node.type

/-- The note of an instance of unknown type: the type, and the path of the instance. -/
def Instance.unknownNote (i : Instance) : Diagnostic := .unknownType i.node.type i.path

section Enclosing

variable {ctx : Context} {nodes : List Node} {before : Value} {outcome : Outcome} {l : Location}

/-- No instance lies below a leaf or a repeater without a key. -/
theorem kind_of_mem_enclosing (h : (run ctx nodes before).outcome = .ok outcome)
    (hl : l.In outcome.tree) {a : Location} (ha : a ∈ l.enclosing) :
    a.self.kind ≠ some .leaf ∧ (a.self.kind = some .repeater → a.self.ownsValue = true) := by
  induction hl with
  | top => cases ha
  | @child above i habove hi ih =>
    rcases List.mem_cons.1 ha with rfl | ha
    · obtain ⟨_, _, _, -, hv⟩ := exists_visited h habove
      cases hv.shaped with
      | container hk =>
        refine ⟨fun hleaf => hk ?_, fun hrep => absurd ?_ hk⟩
        · rw [hleaf]; rfl
        · rw [hrep]; rfl
      | leaf _ hc | keyless _ _ hc | repeater _ _ hc =>
        rw [hc] at hi
        cases hi
    · exact ih ha
  | @inRow above index row i habove hrow hi ih =>
    rcases List.mem_cons.1 ha with rfl | ha
    · obtain ⟨_, _, _, -, hv⟩ := exists_visited h habove
      cases hv.shaped with
      | repeater hk ho =>
        refine ⟨fun hleaf => ?_, fun _ => ho⟩
        rw [hk] at hleaf
        cases hleaf
      | leaf _ _ hr | keyless _ _ _ hr | container _ _ _ hr =>
        rw [hr] at hrow
        cases hrow
    · exact ih ha

theorem kind_eq_none_iff (h : (run ctx nodes before).outcome = .ok outcome)
    (hl : l.In outcome.tree) : l.self.kind = none ↔ ctx.typeOf l.self.node = none := by
  obtain ⟨_, _, _, -, hv⟩ := exists_visited h hl
  rw [hv.kind_eq, Context.kindOf, Option.map_eq_none_iff]

end Enclosing

namespace Engine

section Resolution

variable {engine : Engine} {values : Value} {r : Resolution}

/-- The notes of unknown types that a fresh sink keeps of a resolution. -/
def keptUnknownNotes (engine : Engine) (values : Value) : List Diagnostic :=
  (Diagnostics.recordAll {} (engine.resolve values).notes).entries.filter (·.kind == .unknownType)

/-- The instances of unknown type that some passes meet, those of one pass in the order of its tree
and before those of the next. -/
def unknownMet (rounds : List Round) : List Instance :=
  rounds.flatMap fun round => (Instance.flattenAll round.outcome.tree).filter (·.kind.isNone)

theorem flatMap_unknownNotes_eq (rounds : List Round) :
    (rounds.flatMap fun round => unknownNotes round.outcome.tree) =
      (unknownMet rounds).map Instance.unknownNote := by
  rw [unknownMet, List.map_flatMap]
  rfl

/-- A fresh sink keeps one note for each unknown type that a resolution meets: over all of its
passes, in order, the first instance of each type is noted, under its path. This is so unless the
validator of some type takes a note of an unknown type itself, which those of the standard types do
not. An instance is of unknown type if nothing is registered for its node, and none lies below a
leaf or a repeater without a key. -/
theorem unknown_types_noted_once
    (hq : ∀ d, engine.context.NotedByType d → d.kind ≠ .unknownType)
    (h : (engine.resolve values).outcome = .ok r) :
    ∃ rounds last, History engine values rounds last r.toSettled ∧
      engine.keptUnknownNotes values =
        (firstOfType (unknownMet (rounds ++ [last]))).map Instance.unknownNote ∧
      ∀ round ∈ rounds ++ [last], ∀ l : Location, l.In round.outcome.tree →
        (l.self.kind = none ↔ engine.context.typeOf l.self.node = none) ∧
        ∀ a ∈ l.enclosing, a.self.kind ≠ some .leaf ∧
          (a.self.kind = some .repeater → a.self.ownsValue = true) := by
  obtain ⟨rounds, last, hist, hnotes⟩ := notes_resolve h
  refine ⟨rounds, last, hist, ?_, fun round hround l hl => ?_⟩
  · have hmet : ((unknownMet (rounds ++ [last])).map Instance.unknownNote).filter
        (·.kind == .unknownType) = (unknownMet (rounds ++ [last])).map Instance.unknownNote := by
      refine List.filter_eq_self.2 fun d hd => ?_
      obtain ⟨i, -, rfl⟩ := List.mem_map.1 hd
      rfl
    have hbuilt : (validatorsOf engine.context r.tree).notes.filter (·.kind == .unknownType) = [] :=
      List.filter_eq_nil_iff.2 fun d hd => by simpa using hq d (notedByType_of_mem hd)
    rw [keptUnknownNotes, Diagnostics.filter_kind_recordAll, hnotes, flatMap_unknownNotes_eq,
      List.filter_append, hmet, hbuilt, List.append_nil, eraseDupsBy_map]
    rfl
  · have hround := hist.ran.outcome_of_mem round hround
    exact ⟨kind_eq_none_iff hround hl, fun a ha => kind_of_mem_enclosing hround hl ha⟩

end Resolution

namespace Clinic

/-- Hidden and reset to `yes`. -/
def consent : Node :=
  { type := "textfield", key := some "consent", hidden := true, defaultValue := some (.str "yes") }

def reader : Node := { type := "chip-reader", key := some "chip" }

/-- Shown as long as the consent is `no`. -/
def pets : Node :=
  ({ type := "editgrid", key := some "pets", components := [reader] } : Node).withConditional true
    "consent" (.str "no")

def sticker : Node := { type := "sticker" }

/-- A map with a reader, and with a sticker below a text. -/
def map : Node :=
  { type := "map"
    components := [reader, { type := "textfield", key := some "street", components := [sticker] }] }

def engine : Engine where
  schema := ⟨[consent, pets, map]⟩
  context := ⟨Registry.standard, Conditions.declarative, none⟩
  maxPasses := 4
  maxPasses_pos := Nat.succ_pos 3

/-- No consent, and two pets. -/
def values : Value := .obj [("consent", .str "no"), ("pets", .arr [.empty, .empty])]

theorem exists_resolution : ∃ r, (engine.resolve values).outcome = .ok r ∧
    ((Instance.flattenAll r.tree).filter (·.kind.isNone)).map (·.path) = ["", ""] :=
  Noted.exists_of_toOption (engine.resolve values)
    (fun r => ((Instance.flattenAll r.tree).filter (·.kind.isNone)).map (·.path))
    (by decide +kernel)

theorem keptUnknownNotes_eq : engine.keptUnknownNotes values =
    [.unknownType "chip-reader" "pets.0", .unknownType "map" ""] := by decide +kernel

end Clinic

open Clinic in
/-- The first pass sets the consent and the second drops the pets with their readers. The reader of
the first pet is noted nevertheless, and before the map. The last pass meets the map and the reader
in it alone, and no pass meets the sticker. -/
theorem unknown_types_noted_once_clinic : ∃ r rounds last,
    (engine.resolve values).outcome = .ok r ∧ History engine values rounds last r.toSettled ∧
    (unknownMet [last]).map (·.path) = ["", ""] ∧
    (firstOfType (unknownMet (rounds ++ [last]))).map Instance.unknownNote =
      [.unknownType "chip-reader" "pets.0", .unknownType "map" ""] := by
  obtain ⟨r, hr, htree⟩ := exists_resolution
  have hq : ∀ d, engine.context.NotedByType d → d.kind ≠ .unknownType := fun d hd => by
    rw [kind_of_notedByType rfl hd]
    decide
  obtain ⟨rounds, last, hist, hkept, -⟩ := unknown_types_noted_once hq hr
  refine ⟨r, rounds, last, hr, hist, ?_, hkept ▸ keptUnknownNotes_eq⟩
  rw [unknownMet, List.flatMap_singleton, ← hist.tree_eq]
  exact htree

namespace Castle

/-- A leaf whose validator takes a note of a type that no node is of. -/
def chamber : NodeType where
  kind := .leaf
  validator := some fun n collaborator => do
    Noted.note (.unknownType "ghost" "")
    Standard.baseValidator n collaborator

def engine : Engine where
  schema := ⟨[{ type := "chamber", key := some "hall" }]⟩
  context := ⟨Registry.standard.register "chamber" chamber, Conditions.declarative, none⟩
  maxPasses := 1
  maxPasses_pos := Nat.one_pos

theorem exists_resolution : ∃ r, (engine.resolve .empty).outcome = .ok r ∧
    (Instance.flattenAll r.tree).filter (·.kind.isNone) = [] :=
  Noted.exists_of_toOption (engine.resolve .empty)
    (fun r => (Instance.flattenAll r.tree).filter (·.kind.isNone)) (by decide +kernel)

theorem keptUnknownNotes_eq :
    engine.keptUnknownNotes .empty = [.unknownType "ghost" ""] := by decide +kernel

end Castle

open Castle in
/-- The validator of a registered type can take notes of unknown types as well. -/
theorem ghost_noted : ¬ ∀ (engine : Engine) (values : Value) (r : Resolution),
    (engine.resolve values).outcome = .ok r →
      ∃ rounds last, History engine values rounds last r.toSettled ∧
        engine.keptUnknownNotes values =
          (firstOfType (unknownMet (rounds ++ [last]))).map Instance.unknownNote := by
  intro hall
  obtain ⟨r, hr, htree⟩ := exists_resolution
  obtain ⟨rounds, last, hist, hkept⟩ := hall engine .empty r hr
  obtain rfl : rounds = [] := List.eq_nil_of_length_eq_zero (Nat.le_zero.1 hist.length_le)
  have hmet : unknownMet ([] ++ [last]) = [] := by
    rw [List.nil_append, unknownMet, List.flatMap_singleton, ← hist.tree_eq]
    exact htree
  rw [keptUnknownNotes_eq, hmet] at hkept
  cases hkept

end Engine
end FormLogic
