import FormLogic.Proofs.DecidableTrees
import FormLogic.Proofs.OpenedContainers
import FormLogic.Proofs.Settling
import FormLogic.Proofs.ShownFields
import FormLogic.Proofs.VisitSteps

/-!
# Transparent containers

A container that neither hides nor clears by itself hands on to its children what it was
given: the path, the row, and how its parent stands. So a pass over a schema in which it is
opened makes the same writes, fails alike, and leaves the same shown fields. What is derived
from these is the same, in every registry whose types do not tell that the container is
gone, and whatever else is hidden or unknown.
-/
namespace FormLogic

open Visibility

/-- Computations that look alike and go on alike look alike in the end. -/
theorem Except.map_bind_congr {ε α β γ α' β' γ' : Type} {x : Except ε α} {y : Except ε β}
    {f : α → γ} {g : β → γ} {k : α → Except ε α'} {k' : β → Except ε β'} {f' : α' → γ'}
    {g' : β' → γ'} (h : x.map f = y.map g)
    (hk : ∀ a b, f a = g b → (k a).map f' = (k' b).map g') :
    (x >>= k).map f' = (y >>= k').map g' := by
  cases x with
  | error e =>
    cases y with
    | error e' => cases h; rfl
    | ok b => cases h
  | ok a =>
    cases y with
    | error e => cases h
    | ok b => exact hk a b (Except.ok.inj h)

namespace Visibility

/-- Two steps that fail alike, or take a pass equally far with results that look alike. -/
def Alike {α β γ : Type} (f : α → γ) (g : β → γ) (m : Pass α) (m' : Pass β) : Prop :=
  ∀ s, ((m.run s).outcome.map fun p => (f p.1, p.2)) =
    (m'.run s).outcome.map fun p => (g p.1, p.2)

namespace Alike

variable {α β γ α' β' γ' : Type} {f : α → γ} {g : β → γ} {f' : α' → γ'} {g' : β' → γ'}
  {m : Pass α} {m' : Pass β}

theorem pure {a : α} {b : β} (h : f a = g b) : Alike f g (Pure.pure a) (Pure.pure b) :=
  fun s => congrArg (fun c => Except.ok (c, s)) h

theorem run_bind (m : Pass α) (k : α → Pass β) (s : Progress) :
    ((m >>= k).run s).outcome = (m.run s).outcome >>= fun p => ((k p.1).run p.2).outcome :=
  Noted.outcome_bind _ _

theorem bind {k : α → Pass α'} {k' : β → Pass β'} (h : Alike f g m m')
    (hk : ∀ a b, f a = g b → Alike f' g' (k a) (k' b)) : Alike f' g' (m >>= k) (m' >>= k') := by
  intro s
  rw [run_bind, run_bind]
  refine Except.map_bind_congr (h s) fun p q hpq => ?_
  obtain ⟨hf, hstate⟩ := Prod.mk.inj hpq
  rw [hstate]
  exact hk p.1 q.1 hf q.2

theorem mapM {δ : Type} {F : δ → Pass α} {G : δ → Pass β} (h : ∀ x, Alike f g (F x) (G x))
    (xs : List δ) : Alike (List.map f) (List.map g) (xs.mapM F) (xs.mapM G) := by
  induction xs with
  | nil => exact pure rfl
  | cons x rest ih =>
    rw [List.mapM_cons, List.mapM_cons]
    refine (h x).bind fun a b hab => ih.bind fun as bs habs => pure ?_
    rw [List.map_cons, List.map_cons, hab, habs]

end Alike

section Inside

variable {ctx : Context} {before : Value} {n m : Node} (place : Place)

end Inside

section Opened

variable {ctx : Context} {before : Value} {n m : Node}

open Instance (fieldsAll)

/-- Visiting these lists makes the same writes and leaves the same shown fields. -/
def VisitedAlike (ctx : Context) (before : Value) (xs ys : List Node) : Prop :=
  ∀ (place : Place) (inherited : HideState), (inherited.clear = true → inherited.hidden = true) →
    Alike (fieldsAll ctx) (fieldsAll ctx) (xs.mapM fun n => visit ctx before n place inherited)
      (ys.mapM fun n => visit ctx before n place inherited)

theorem VisitedAlike.refl (xs : List Node) : VisitedAlike ctx before xs xs := fun _ _ _ _ => rfl

theorem VisitedAlike.append {xs ys xs' ys' : List Node} (h : VisitedAlike ctx before xs ys)
    (h' : VisitedAlike ctx before xs' ys') : VisitedAlike ctx before (xs ++ xs') (ys ++ ys') := by
  intro place inherited hi
  rw [List.mapM_append, List.mapM_append]
  refine (h place inherited hi).bind fun a b hab =>
    (h' place inherited hi).bind fun a' b' hab' => .pure ?_
  rw [Instance.fieldsAll_append, Instance.fieldsAll_append, hab, hab']

/-- A list of one node. -/
theorem VisitedAlike.singleton (h : ∀ (place : Place) (inherited : HideState),
    (inherited.clear = true → inherited.hidden = true) →
      Alike (Instance.fields ctx) (Instance.fields ctx) (visit ctx before n place inherited)
        (visit ctx before m place inherited)) : VisitedAlike ctx before [n] [m] := by
  intro place inherited hi
  rw [List.mapM_cons, List.mapM_cons]
  refine (h place inherited hi).bind fun a b hab => ?_
  rw [List.mapM_nil, pure_bind, pure_bind]
  exact .pure (by simp only [fieldsAll, hab])

end Opened

end Visibility

namespace Engine

section Opened

variable {engine : Engine} {opened : List Node}

end Opened

namespace Kennel

/-- A leaf with a type of its own, which clears to nothing. -/
def tag : NodeType where
  kind := .leaf
  default := some fun _ => .str ""
  applyVisibility := some fun _ state _ => if state.clear then some .null else none

def name : Node := { type := "textfield", key := some "name", validate := { softRequired := true } }

/-- Hidden, and so cleared. -/
def chip : Node := { type := "tag", key := some "chip", hidden := true }

/-- Of a type that nothing is registered for. -/
def card : Node :=
  { type := "card", key := some "card", clearOnHide := false, components := [name]
    columns := [{ components := [chip] }] }

/-- The dogs, with what is in the one column of their rows. -/
def dogs (column : List Node) : Node :=
  { type := "editgrid", key := some "dogs"
    components := [{ type := "columns", columns := [{ components := column }] }] }

def engine : Engine where
  schema := ⟨[dogs [card]]⟩
  context := ⟨Registry.standard.register "tag" tag, Conditions.declarative, none⟩
  maxPasses := 2
  maxPasses_pos := Nat.two_pos

def values : Value := .obj [("dogs", .arr [.obj [("chip", .str "0815"), ("name", .str "")]])]

theorem transparent_card : engine.context.Transparent card := ⟨by decide, rfl, rfl, rfl⟩

theorem opened : Opened engine.context engine.schema.components [dogs [name, chip]] :=
  .inComponents [] [] _ _ (.inColumn [] [] _ _ [] [] _ (.here [] [] transparent_card))

theorem exists_resolution : ∃ r, (engine.resolve values).outcome = .ok r ∧
    (r.cleared, r.missing.map (·.path)) = (["dogs.0.chip"], ["dogs.0.name"]) :=
  Noted.exists_of_toOption (engine.resolve values)
    (fun r => (r.cleared, r.missing.map (·.path))) (by decide +kernel)

end Kennel

namespace Counted

/-- The default of a leaf is the number of the nodes below it. -/
def census : NodeType where
  kind := .leaf
  default := some fun n => .num (.int n.children.length)

def panel : Node := { type := "panel", clearOnHide := false }

def count (components : List Node) : Node :=
  { type := "census", key := some "count", components }

def engine : Engine where
  schema := ⟨[count [panel]]⟩
  context := ⟨Registry.standard.register "census" census, Conditions.declarative, none⟩
  maxPasses := 1
  maxPasses_pos := Nat.one_pos

theorem opened : Opened engine.context engine.schema.components [count []] :=
  .inComponents [] [] _ _ (.here [] [] ⟨by decide, rfl, rfl, rfl⟩)

end Counted

end Engine

end FormLogic
