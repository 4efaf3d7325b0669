import FormLogic.Proofs.FiniteValues
import FormLogic.Registry.Standard
import Mathlib.Tactic.Tauto

/-!
# What the standard types do when cleared

A standard leaf or repeater has a default, takes it again when it is cleared, and is
otherwise left alone. The default of a repeater is the empty list, and the numbers of a
default are those of the declared one.
-/
namespace FormLogic

/-- Cleared nodes of the type take their default, other nodes keep what they have. -/
structure Resets (t : NodeType) (default : Node → Value) : Prop where
  default_eq : t.default = some default
  apply_eq : t.applyVisibility = some (Standard.resetTo default)
  of_repeater : t.kind = .repeater → default = fun _ => .arr []
  everywhere : ∀ {p : Value → Bool}, Value.TestsNumbers p → ∀ n : Node,
    (∀ v, n.defaultValue = some v → v.everywhere p = true) → (default n).everywhere p = true

section Declared

variable {p : Value → Bool}

theorem everywhere_declaredOr {otherwise : Node → Value}
    (h : ∀ n, (otherwise n).everywhere p = true) (n : Node)
    (hd : ∀ v, n.defaultValue = some v → v.everywhere p = true) :
    (Standard.declaredOr otherwise n).everywhere p = true := by
  unfold Standard.declaredOr
  cases hv : n.defaultValue with
  | none => exact h n
  | some v => exact hd v hv

theorem everywhere_options (hp : Value.TestsNumbers p) (n : Node) :
    (Standard.options n).everywhere p = true := by
  unfold Standard.options Fields.ofEntries
  rw [Value.everywhere_obj, List.foldl_map]
  refine ⟨hp _ nofun, ?_⟩
  -- The entries put so far are flags, and another flag is put.
  suffices h : ∀ (names : List String) (fields : Fields),
      Value.everyField p fields = true → Value.everyField p
        (names.foldl (fun fields name => Fields.put name (.bool false) fields) fields) = true from
    h _ [] rfl
  intro names
  induction names with
  | nil => exact fun fields h => h
  | cons name rest ih =>
    exact fun fields h => ih _ (Value.everyField_put h name (Value.everywhere_bool hp _))

end Declared

namespace Resets

theorem replacement?_eq {t : NodeType} {default : Node → Value} (h : Resets t default) (n : Node)
    (state : HideState) (current : Option Value) :
    t.replacement? n state current = if state.clear then some (default n) else none := by
  rw [NodeType.replacement?, h.apply_eq]
  rfl

theorem isFinite {t : NodeType} {default : Node → Value} (h : Resets t default) (n : Node)
    (hd : ∀ v, n.defaultValue = some v → v.isFinite = true) : (default n).isFinite = true :=
  h.everywhere Value.testsNumbers_finiteNumber n hd

theorem of_leaf {default : Node → Value} (h : ∀ {p : Value → Bool}, Value.TestsNumbers p →
    ∀ n : Node, (∀ v, n.defaultValue = some v → v.everywhere p = true) →
      (default n).everywhere p = true)
    (isEmpty : Option Value → Bool) (rules : Node → Except FormError (List Rule)) :
    Resets (Standard.leaf default isEmpty rules) default :=
  ⟨rfl, rfl, nofun, h⟩

theorem of_scalarLeaf (rules : Node → Except FormError (List Rule)) :
    Resets (Standard.scalarLeaf rules) Standard.emptyValue := by
  refine of_leaf (fun {p} hp => everywhere_declaredOr fun n => ?_) _ _
  split
  · exact Value.everywhere_nil hp
  · exact hp _ nofun

theorem repeater : Resets Standard.repeater fun _ => .arr [] :=
  ⟨rfl, rfl, fun _ => rfl, fun hp _ _ => Value.everywhere_nil hp⟩

end Resets

namespace Registry

theorem mem_of_lookup {r : Registry} {tag : String} {t : NodeType} (h : r.lookup tag = some t) :
    (tag, t) ∈ r.entries := by
  obtain ⟨entries⟩ := r
  change entries.lookup tag = some t at h
  induction entries with
  | nil => cases h
  | cons entry rest ih =>
    obtain ⟨k, u⟩ := entry
    rw [List.lookup_cons] at h
    split at h
    · next hk =>
      obtain rfl := Option.some.inj h
      rw [eq_of_beq hk]
      exact List.mem_cons_self
    · exact List.mem_cons_of_mem _ (ih h)

theorem mem_registerAll {r : Registry} {entries : List (String × NodeType)}
    {e : String × NodeType} (h : e ∈ (r.registerAll entries).entries) :
    e ∈ entries ∨ e ∈ r.entries := by
  induction entries generalizing r with
  | nil => exact Or.inr h
  | cons entry rest ih =>
    rcases ih (r := r.register entry.1 entry.2) h with h | h
    · exact Or.inl (List.mem_cons_of_mem _ h)
    · rcases List.mem_cons.1 h with rfl | h
      · exact Or.inl List.mem_cons_self
      · exact Or.inr (List.mem_filter.1 h).1

/-- Every tag of the standard registry stands for a standard type. -/
theorem mem_types_of_lookup {tag : String} {t : NodeType}
    (h : Registry.standard.lookup tag = some t) : (tag, t) ∈ Standard.types := by
  rcases mem_registerAll (mem_of_lookup h) with h | h
  · exact h
  · cases h

end Registry

/-- The types that a tag of the standard registry can stand for. -/
theorem standard_cases {tag : String} {t : NodeType} (h : Registry.standard.lookup tag = some t) :
    t = Standard.text ∨ t = Standard.email ∨ t = Standard.number ∨ t = Standard.select ∨
      t = Standard.checkbox ∨ t = Standard.selectBoxes ∨ t = Standard.file ∨
      t = Standard.address ∨ t = Standard.group ∨ t = Standard.layout ∨ t = Standard.repeater := by
  have hm : t ∈ Standard.types.map (·.2) := List.mem_map_of_mem (Registry.mem_types_of_lookup h)
  simp only [Standard.types, List.map_append, List.map_cons, List.map_nil, List.mem_append,
    List.mem_cons, List.not_mem_nil, or_false] at hm
  tauto

/-- Every standard type with a stored value resets it. -/
theorem exists_resets {tag : String} {t : NodeType} (h : Registry.standard.lookup tag = some t)
    (hk : t.kind.ownsPath = true) : ∃ default, Resets t default := by
  rcases standard_cases h with rfl | rfl | rfl | rfl | rfl | rfl | rfl | rfl | rfl | rfl | rfl
  -- Texts, numbers and selections share their default.
  · exact ⟨_, .of_scalarLeaf _⟩
  · exact ⟨_, .of_scalarLeaf _⟩
  · exact ⟨_, .of_scalarLeaf _⟩
  · exact ⟨_, .of_scalarLeaf _⟩
  · exact ⟨_, .of_leaf (fun hp => everywhere_declaredOr fun _ => Value.everywhere_bool hp _) _ _⟩
  · exact ⟨_, .of_leaf (fun hp => everywhere_declaredOr (everywhere_options hp)) _ _⟩
  · exact ⟨_, .of_leaf (fun hp => everywhere_declaredOr fun _ => Value.everywhere_nil hp) _ _⟩
  · exact ⟨_, .of_leaf (fun hp => everywhere_declaredOr fun _ => Value.everywhere_empty hp) _ _⟩
  · cases hk
  · cases hk
  · exact ⟨_, .repeater⟩

end FormLogic
