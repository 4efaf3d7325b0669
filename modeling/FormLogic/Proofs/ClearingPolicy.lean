import FormLogic.Proofs.PassEffect

/-!
# Which policy wipes a value

A pass is to wipe the value of a hidden leaf only where the leaf clears when hidden, or
where something around it does that is hidden by its own condition. A container that
is merely inside something hidden clears as well, and so the rule holds of a leaf
unless a value is wiped by such containers alone.
-/
namespace FormLogic

open Visibility

namespace Location

/-- The locations that a location lies in, from the inside out. -/
def enclosing : Location → List Location
  | top _ => []
  | child above _ | inRow above _ _ => above :: above.enclosing

theorem lineage_eq (l : Location) : l.lineage = l.self :: l.enclosing.map self := by
  induction l with
  | top i => rfl
  | child above i ih | inRow above index i ih => simp [lineage, enclosing, ih]

/-- The instance is hidden by its own condition, whatever it lies in. -/
def hidesItself (ctx : Context) (before : Value) (l : Location) : Bool :=
  ctx.conditions l.self.node ⟨before, (l.place before).row, l.self.path⟩

/-- The instance is hidden, and it clears when hidden, or something does that it lies in and that
hides itself. -/
def PolicyApplies (ctx : Context) (before : Value) (l : Location) : Prop :=
  l.self.hidden = true ∧ (l.self.node.clearOnHide = true ∨
    ∃ a ∈ l.enclosing, a.hidesItself ctx before = true ∧ a.self.node.clearOnHide = true)

/-- The instance is to keep its value, and what it lies in and clears is hidden from further
out only. -/
def ForcedFromFurtherOut (ctx : Context) (before : Value) (l : Location) : Prop :=
  l.self.node.clearOnHide = false ∧
    (∃ a ∈ l.enclosing, a.self.hidden = true ∧ a.self.node.clearOnHide = true) ∧
    ∀ a ∈ l.enclosing, a.self.node.clearOnHide = true → a.hidesItself ctx before = false

end Location

namespace Visibility

section Policy

variable {ctx : Context} {nodes : List Node} {before : Value} {outcome : Outcome} {l : Location}

/-- The value of a leaf changes when it is reset and was not the default before. -/
theorem changed_iff (hs : ctx.registry = Registry.standard) (hc : Clean ctx nodes)
    (hd : ∀ n ∈ nodes, n.finiteDefaults = true)
    (h : (run ctx nodes before).outcome = .ok outcome) (hl : l.In outcome.tree)
    (ho : l.self.ownsValue = true) (hk : l.self.kind = some .leaf) :
    outcome.values.get? l.self.path ≠ before.get? l.self.path ↔
      l.clears = true ∧ l.inKeptRows = false ∧ l.self.isAtDefault ctx before = false := by
  obtain ⟨s, s', va⟩ := exists_visitAt hs hc h hl
  constructor
  · intro hne
    refine (va.mem_cleared_iff hs ho).1 (Classical.byContradiction fun hlog => hne ?_)
    exact va.unlogged_leaf ho hk hlog
  · rintro ⟨hcl, hrows, hdefault⟩ he
    have hafter := (va.reset hs ho (finiteDefaults_of_in hs hc hd h hl) hcl hrows).1
    rw [Instance.isAtDefault] at hafter hdefault
    rw [he, hdefault] at hafter
    cases hafter

/-- Only a policy that applies wipes the value of a leaf, unless the leaf is in no kept rows, its
value is not the default, and it is cleared from further out alone. -/
theorem policyApplies_iff (hs : ctx.registry = Registry.standard) (hc : Clean ctx nodes)
    (hd : ∀ n ∈ nodes, n.finiteDefaults = true)
    (h : (run ctx nodes before).outcome = .ok outcome) (hl : l.In outcome.tree)
    (ho : l.self.ownsValue = true) (hk : l.self.kind = some .leaf) :
    (outcome.values.get? l.self.path ≠ before.get? l.self.path → l.PolicyApplies ctx before) ↔
      ¬ (l.inKeptRows = false ∧ l.self.isAtDefault ctx before = false ∧
        l.ForcedFromFurtherOut ctx before) := by
  obtain ⟨s, s', va⟩ := exists_visitAt hs hc h hl
  rw [changed_iff hs hc hd h hl ho hk]
  constructor
  · rintro hp ⟨hrows, hdefault, hown, ⟨a, ha, hah, hac⟩, hnone⟩
    -- The leaf is hidden with what it lies in and so is cleared, with no policy that says so.
    have hm : a.self ∈ l.lineage := by
      rw [Location.lineage_eq]
      exact List.mem_cons_of_mem _ (List.mem_map_of_mem ha)
    have hclears : l.clears = true := by
      rw [Location.clears, Bool.and_eq_true, List.any_eq_true]
      exact ⟨va.hidden_of_mem hm hah, a.self, hm, by rw [hah, hac]; rfl⟩
    obtain ⟨-, hself | ⟨b, hb, hbs, hbc⟩⟩ := hp ⟨hclears, hrows, hdefault⟩
    · rw [hown] at hself
      cases hself
    · rw [hnone b hb hbc] at hbs
      cases hbs
  · rintro hn ⟨hclears, hrows, hdefault⟩
    rw [Location.clears, Bool.and_eq_true, List.any_eq_true] at hclears
    obtain ⟨hhidden, a, ha, hac⟩ := hclears
    rw [Bool.and_eq_true] at hac
    refine ⟨hhidden, ?_⟩
    cases hown : l.self.node.clearOnHide with
    | true => exact Or.inl rfl
    | false =>
      right
      refine Classical.byContradiction fun hno => ?_
      rw [Location.lineage_eq] at ha
      rcases List.mem_cons.1 ha with rfl | ha
      · rw [hown] at hac
        cases hac.2
      · obtain ⟨b, hb, rfl⟩ := List.mem_map.1 ha
        refine hn ⟨hrows, hdefault, hown, ⟨b, hb, hac.1, hac.2⟩, fun c hc hcc => ?_⟩
        exact eq_false_of_ne_true fun hcs => hno ⟨c, hc, hcs, hcc⟩

end Policy

namespace NestedPanels

def context : Context := ⟨Registry.standard, Conditions.declarative, none⟩

/-- To keep its value when hidden. -/
def text : Node := { type := "textfield", key := some "a", clearOnHide := false }

/-- Shown by itself, and clearing when hidden. -/
def inner : Node := { type := "panel", components := [text] }

/-- Hidden, and not clearing. -/
def outer : Node :=
  { type := "panel", hidden := true, clearOnHide := false, components := [inner] }

def values : Value := .obj [("a", .str "x")]

def wipedText : Instance := { node := text, kind := some .leaf, path := "a", hidden := true }

def innerPanel : Instance :=
  { node := inner, kind := some .group, path := "", hidden := true, children := [wipedText] }

def outerPanel : Instance :=
  { node := outer, kind := some .group, path := "", hidden := true, children := [innerPanel] }

def outcome : Outcome where
  values := .obj [("a", .str "")]
  tree := [outerPanel]
  cleared := ["a"]

theorem run_eq : (run context [outer] values).outcome = .ok outcome := by rfl

def location : Location := .child (.child (.top outerPanel) innerPanel) wipedText

theorem location_in : location.In outcome.tree :=
  .child (.child (.top List.mem_cons_self) List.mem_cons_self) List.mem_cons_self

theorem not_policyApplies : ¬ location.PolicyApplies context values := by
  rintro ⟨-, hc | ⟨a, ha, hself, hc⟩⟩
  · cases hc
  · simp only [location, Location.enclosing, List.mem_cons, List.not_mem_nil, or_false] at ha
    rcases ha with rfl | rfl
    · cases hself
    · cases hc

end NestedPanels

open NestedPanels in
/-- Here the rule fails, as it must: the text is cleared by the inner panel, which is hidden only
with the outer one. -/
theorem policyApplies_iff_nestedPanels :
    ¬ (outcome.values.get? "a" ≠ values.get? "a" → location.PolicyApplies context values) := by
  have hc : Clean context [outer] := by decide
  have hd : ∀ n ∈ [outer], n.finiteDefaults = true := by decide
  have h := policyApplies_iff rfl hc hd run_eq location_in rfl rfl
  refine fun hp => h.1 hp ⟨rfl, by decide, rfl, ⟨_, List.mem_cons_self, rfl, rfl⟩, ?_⟩
  intro a ha hac
  simp only [location, Location.enclosing, List.mem_cons, List.not_mem_nil, or_false] at ha
  rcases ha with rfl | rfl
  · rfl
  · cases hac

/-- A value can be wiped where no policy applies. -/
theorem wiped_without_policy :
    ¬ ∀ (ctx : Context) (nodes : List Node) (before : Value) (outcome : Outcome) (l : Location),
      ctx.registry = Registry.standard → ctx.conditions = Conditions.declarative →
      Clean ctx nodes → (run ctx nodes before).outcome = .ok outcome → l.In outcome.tree →
      l.self.ownsValue = true → l.self.kind = some .leaf →
      (∀ a ∈ l.enclosing, a.self.path ∉ outcome.cleared) →
      outcome.values.get? l.self.path ≠ before.get? l.self.path → l.PolicyApplies ctx before := by
  intro hall
  have hc : Clean NestedPanels.context [NestedPanels.outer] := by decide
  refine NestedPanels.not_policyApplies (hall _ _ _ _ _ rfl rfl hc NestedPanels.run_eq
    NestedPanels.location_in rfl rfl ?_ ?_)
  · decide
  · intro he
    have hx : some (Value.str "") = some (Value.str "x") := he
    exact absurd (Value.str.inj (Option.some.inj hx)) (by decide)

end Visibility
end FormLogic
