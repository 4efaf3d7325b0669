import FormLogic.Proofs.ClearingPolicy
import FormLogic.Proofs.DecidableTrees

/-!
# The rows that a hidden list keeps

The types of a registry may put whatever they like in the place of a value, and may leave a
list as it is that they were asked to clear. A hidden list that was left as it is keeps all
of its rows, also where the types of what is in them would have written. A list further out
must have been left as it is as well, since its rows would be others otherwise.
-/
namespace FormLogic

open Visibility

namespace Visibility

section Pass

variable {ctx : Context} {nodes : List Node} {before : Value} {outcome : Outcome} {l : Location}
  {s s' : Progress}

/-- Whatever the registered types do, the visit behind an instance is known when none of the lists
around it is logged. -/
theorem exists_visitAt_of_unlogged (hc : Clean ctx nodes)
    (h : (run ctx nodes before).outcome = .ok outcome) (hl : l.In outcome.tree)
    (hlog : ∀ a ∈ l.enclosing, a.self.kind = some .repeater → a.self.path ∉ outcome.cleared) :
    ∃ s s', VisitAt ctx before outcome l s s' := by
  induction hl with
  | top hi => exact VisitAt.top hc h hi
  | child _ hi ih =>
    obtain ⟨s, s', va⟩ := ih fun a ha => hlog a (List.mem_cons_of_mem _ ha)
    exact va.child hi
  | inRow _ hr hi ih =>
    obtain ⟨s, s', va⟩ := ih fun a ha => hlog a (List.mem_cons_of_mem _ ha)
    obtain ⟨t, m, -, hkind, howns, -, -⟩ := va.visited.sweep_rows hr
    have ho := va.ownsValue_eq.trans howns
    have hk := va.kind_eq.trans hkind
    exact va.inRow_of_sweep hkind ho
      (va.sweep_of_unlogged ho hk (hlog _ List.mem_cons_self hk)) hr hi

/-- The visit of a hidden list that is not logged does nothing. -/
theorem VisitAt.eq_of_hidden_list (va : VisitAt ctx before outcome l s s')
    (ho : l.self.ownsValue = true) (hk : l.self.kind = some .repeater)
    (hh : l.self.hidden = true) (hlog : l.self.path ∉ outcome.cleared) : s' = s :=
  eq_of_hidden_rows hh (va.sweep_of_unlogged ho hk hlog)

/-- A hidden list keeps its value when neither it nor a list that it lies in is logged. All in it is
hidden, and none of it is logged. -/
theorem kept_of_hidden_list (hc : Clean ctx nodes)
    (h : (run ctx nodes before).outcome = .ok outcome) (hl : l.In outcome.tree)
    (ho : l.self.ownsValue = true) (hk : l.self.kind = some .repeater)
    (hh : l.self.hidden = true)
    (hlog : ∀ a ∈ l :: l.enclosing, a.self.kind = some .repeater →
      a.self.path ∉ outcome.cleared) :
    outcome.values.get? l.self.path = before.get? l.self.path ∧
      ∀ j ∈ l.self.flatten, j.hidden = true ∧ j.path ∉ outcome.cleared := by
  obtain ⟨s, s', va⟩ :=
    exists_visitAt_of_unlogged hc h hl fun a ha => hlog a (List.mem_cons_of_mem _ ha)
  obtain rfl := va.eq_of_hidden_list ho hk hh (hlog l List.mem_cons_self hk)
  refine ⟨(va.after_eq ho).trans (va.before_eq ho), fun j hj =>
    ⟨hidden_of_mem_flatten h hl hh hj, fun hlogged => ?_⟩⟩
  -- What is logged below the list would be logged by its own visit.
  have hb := va.beneath ho (path_prefix_of_mem_flatten h hl hj)
  rw [va.later.mem_cleared_iff hb, va.earlier.mem_cleared_iff hb] at hlogged
  cases hlogged

end Pass

namespace Drawers

/-- Whatever is stored becomes `true`. -/
def stampType : NodeType where
  kind := .leaf
  applyVisibility := some fun _ _ _ => some (.bool true)

/-- A list that is emptied unless it is hidden. -/
def drawerType : NodeType where
  kind := .repeater
  applyVisibility := some fun _ state _ => if state.hidden then none else some (.arr [])

def context : Context where
  registry := (Registry.standard.register "stamp" stampType).register "drawer" drawerType
  conditions := Conditions.declarative

def stamp : Node := { type := "stamp", key := some "stamp" }

def box : Node := { type := "drawer", key := some "boxes", components := [stamp] }

/-- Hidden, and to be cleared then. -/
def drawer : Node :=
  { type := "drawer", key := some "drawer", hidden := true, components := [stamp, box] }

def note : Node := { type := "textfield", key := some "note", hidden := true }

def rooms : Node := { type := "editgrid", key := some "rooms", components := [note, drawer] }

/-- What is in the drawer. -/
def kept : Value :=
  .arr [.obj [("stamp", .bool false), ("boxes", .arr [.obj [("stamp", .null)]])]]

def values : Value :=
  .obj [("rooms", .arr [.obj [("note", .str "oak"), ("drawer", kept)]])]

def stampIn (row : String) : Instance :=
  { node := stamp, kind := some .leaf, path := Path.join row "stamp", hidden := true }

def boxList : Instance :=
  { node := box, kind := some .repeater, path := "rooms.0.drawer.0.boxes", hidden := true
    rows := [[stampIn "rooms.0.drawer.0.boxes.0"]] }

def drawerList : Instance :=
  { node := drawer, kind := some .repeater, path := "rooms.0.drawer", hidden := true
    rows := [[stampIn "rooms.0.drawer.0", boxList]] }

def noteText : Instance :=
  { node := note, kind := some .leaf, path := "rooms.0.note", hidden := true }

def roomList : Instance :=
  { node := rooms, kind := some .repeater, path := "rooms", hidden := false
    rows := [[noteText, drawerList]] }

def outcome : Outcome where
  values := .obj [("rooms", .arr [.obj [("note", .str ""), ("drawer", kept)]])]
  tree := [roomList]
  cleared := ["rooms.0.note"]

theorem run_eq : (run context [rooms] values).outcome = .ok outcome := by decide +kernel

def location : Location := .inRow (.top roomList) 0 drawerList

theorem location_in : location.In outcome.tree :=
  .inRow (.top List.mem_cons_self) rfl (List.mem_cons_of_mem _ List.mem_cons_self)

end Drawers

open Drawers in
/-- The stamps in the drawer are left as they were, while the note beside it is cleared. -/
theorem kept_of_hidden_list_drawers :
    outcome.values.get? "rooms.0.drawer" = values.get? "rooms.0.drawer" ∧
      boxList.path ∉ outcome.cleared := by
  have hc : Clean context [rooms] := by decide
  have hlog : ∀ a ∈ location :: location.enclosing, a.self.kind = some .repeater →
      a.self.path ∉ outcome.cleared := by
    simp only [location, Location.enclosing, List.mem_cons, List.not_mem_nil, or_false]
    rintro a (rfl | rfl) -
    · decide
    · decide
  have hkept := kept_of_hidden_list hc run_eq location_in rfl rfl rfl hlog
  have hbox : boxList ∈ location.self.flatten :=
    List.mem_cons_of_mem _ (List.mem_cons_of_mem _ List.mem_cons_self)
  exact ⟨hkept.1, (hkept.2 boxList hbox).2⟩

end Visibility
end FormLogic
