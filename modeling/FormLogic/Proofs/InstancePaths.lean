import FormLogic.Proofs.DecidableTrees
import FormLogic.Proofs.HiddenFlags

/-!
# Where the instances of a pass stand, and which are hidden

The path of an instance spells out the way down to it: the keys of the instances with values
that it lies in, a repeater's followed by the number of the row, and at the end its own key
if it has a value. It is hidden when its condition or that of something it lies in hides it.
Each condition is read with the values as they were before the pass, with the innermost row
around the instance that it belongs to, and with the path of that instance. Nothing is
assumed of the schema, the registry or the conditions.
-/
namespace FormLogic

open Visibility

namespace Path

theorem intercalate_ne_empty {steps : List String} (hn : ∀ s ∈ steps, s ≠ "")
    (hne : steps ≠ []) : ".".intercalate steps ≠ "" := by
  cases steps with
  | nil => exact absurd rfl hne
  | cons first rest =>
    have hfirst := hn first List.mem_cons_self
    cases rest with
    | nil => simpa using hfirst
    | cons => simp [hfirst]

/-- Joining one more step to a path spelled out in steps. -/
theorem join_intercalate {steps : List String} (hn : ∀ s ∈ steps, s ≠ "") {step : String}
    (hs : step ≠ "") :
    join (".".intercalate steps) step = ".".intercalate (steps ++ [step]) := by
  by_cases hne : steps = []
  · simp [hne, join]
  · rw [join, if_neg (intercalate_ne_empty hn hne), if_neg hs,
      String.intercalate_append_of_ne_nil hne (by simp), String.intercalate_singleton]
    rfl

end Path

/-- What an instance adds to the paths at and below it: its key, if it owns a value. -/
def Instance.ownStep (i : Instance) : List String :=
  if i.ownsValue then i.node.key?.toList else []

theorem Instance.ne_empty_of_mem_ownStep {i : Instance} {s : String} (h : s ∈ i.ownStep) :
    s ≠ "" := by
  unfold ownStep at h
  split at h
  · have hkey : i.node.key? = some s := by simpa using h
    rw [Attributes.key?, nonempty?, Option.filter_eq_some_iff] at hkey
    simpa using hkey.2
  · cases h

namespace Location

/-- The keys of what owns a value on the way down to the instance, each repeater's followed by the
number of the row. -/
def steps : Location → List String
  | top i => i.ownStep
  | child above i => above.steps ++ i.ownStep
  | inRow above index i => above.steps ++ toString index :: i.ownStep

theorem ne_empty_of_mem_steps {l : Location} {s : String} (h : s ∈ l.steps) : s ≠ "" := by
  induction l with
  | top i => exact Instance.ne_empty_of_mem_ownStep h
  | child above i ih =>
    rcases List.mem_append.1 h with h | h
    · exact ih h
    · exact Instance.ne_empty_of_mem_ownStep h
  | inRow above index i ih =>
    rcases List.mem_append.1 h with h | h
    · exact ih h
    · rcases List.mem_cons.1 h with rfl | h
      · exact fun he => Path.toList_toString_ne_nil index (by rw [he]; rfl)
      · exact Instance.ne_empty_of_mem_ownStep h

variable {l a : Location} {tree : List Instance}

/-- What a location lies in is in the tree with it, and so lies in the same. -/
theorem In.of_mem_enclosing (h : l.In tree) (ha : a ∈ l.enclosing) :
    a.In tree ∧ ∀ b ∈ a :: a.enclosing, b ∈ l.enclosing := by
  induction h with
  | top => cases ha
  | child habove _ ih | inRow habove _ _ ih =>
    rcases List.mem_cons.1 ha with rfl | ha
    · exact ⟨habove, fun b hb => hb⟩
    · obtain ⟨hin, hsub⟩ := ih ha
      exact ⟨hin, fun b hb => List.mem_cons_of_mem _ (hsub b hb)⟩

end Location

namespace Visibility

section Instances

variable {ctx : Context} {nodes : List Node} {before : Value} {outcome : Outcome} {l : Location}

/-- A visit puts the key of what owns a value below the path that it starts from. -/
theorem Visited.path_eq_intercalate {n : Node} {place : Place} {inherited : HideState}
    {s s' : Progress} {i : Instance} (h : Visited ctx before n place inherited s i s')
    {steps : List String} (hn : ∀ s ∈ steps, s ≠ "") (hb : place.base = ".".intercalate steps) :
    i.path = ".".intercalate (steps ++ i.ownStep) := by
  rw [h.path_eq, Instance.ownStep, h.ownsValue_eq, h.node_eq]
  cases ho : ctx.owns n with
  | true =>
    obtain ⟨key, hkey, hne, hpath⟩ := place.exists_key ho
    rw [hpath, hb, if_pos rfl, hkey]
    exact Path.join_intercalate hn hne
  | false =>
    rw [place.pathOf_of_not_owns ho, hb, if_neg Bool.false_ne_true, List.append_nil]

/-- The path of an instance spells out the way down to it. -/
theorem path_eq_intercalate (h : (run ctx nodes before).outcome = .ok outcome)
    (hl : l.In outcome.tree) : l.self.path = ".".intercalate l.steps := by
  induction hl with
  | top hi =>
    obtain ⟨_, _, _, -, hv⟩ := exists_visited h (.top hi)
    exact hv.path_eq_intercalate (List.forall_mem_nil _) rfl
  | child ha hi ih =>
    obtain ⟨_, _, _, -, hv⟩ := exists_visited h (.child ha hi)
    exact hv.path_eq_intercalate (fun _ => Location.ne_empty_of_mem_steps) ih
  | @inRow above index row i ha hr hi ih =>
    obtain ⟨_, _, _, -, hv⟩ := exists_visited h (.inRow ha hr hi)
    have hindex : toString index ≠ "" := fun he =>
      Path.toList_toString_ne_nil index (by rw [he]; rfl)
    have hsteps : ∀ s ∈ above.steps, s ≠ "" := fun _ => Location.ne_empty_of_mem_steps
    have hbase : Path.row above.self.path index =
        ".".intercalate (above.steps ++ [toString index]) := by
      rw [ih, Path.row, Path.join_intercalate hsteps hindex]
    have hpath := hv.path_eq_intercalate (fun s hs => ?_) hbase
    · simpa [Location.steps] using hpath
    · rcases List.mem_append.1 hs with hs | hs
      · exact hsteps s hs
      · exact List.mem_singleton.1 hs ▸ hindex

/-- Every instance of a pass stands at the path that its keys and row numbers spell out, and is
hidden exactly when its condition or that of something it lies in says so: on the values from before
the pass, in the innermost row around that instance, at that instance's path. So all that lies in
something hidden is hidden. -/
theorem declared_visibility (h : (run ctx nodes before).outcome = .ok outcome)
    (hl : l.In outcome.tree) :
    l.self.kind = ctx.kindOf l.self.node ∧
    l.self.path = ".".intercalate l.steps ∧
    (l.self.hidden = true ↔ ∃ a ∈ l :: l.enclosing, ctx.conditions a.self.node
      { data := before, row := a.rowPath?.bind before.get?, path := a.self.path } = true) ∧
    ∀ a ∈ l.enclosing, a.self.hidden = true → l.self.hidden = true := by
  obtain ⟨_, _, _, -, hv⟩ := exists_visited h hl
  refine ⟨hv.kind_eq, path_eq_intercalate h hl, ?_, fun a ha hhidden => ?_⟩
  · rw [hidden_iff h hl]
    simp only [Location.hidesItself, Location.row_place]
  · obtain ⟨hin, hsub⟩ := hl.of_mem_enclosing ha
    obtain ⟨b, hb, hhides⟩ := (hidden_iff h hin).1 hhidden
    exact (hidden_iff h hl).2 ⟨b, List.mem_cons_of_mem l (hsub b hb), hhides⟩

end Instances

namespace GiftOrders

def context : Context := ⟨Registry.standard, Conditions.declarative, none⟩

/-- Hidden, and so cleared. -/
def occasion : Node := { type := "textfield", key := some "occasion", hidden := true }

def price : Node := { type := "textfield", key := some "price" }

def items : Node :=
  { type := "datagrid", key := some "items", clearOnHide := false, components := [price] }

/-- Hidden when the order is a gift, and not clearing. -/
def bill : Node :=
  ({ type := "panel", key := some "bill", clearOnHide := false, components := [items] }
    : Node).withConditional false "occasion" (.str "gift")

def orders : Node := { type := "editgrid", key := some "orders", components := [occasion, bill] }

/-- One order with one item. -/
def stored (occasion : String) : Value := .obj [("orders", .arr [.obj [
  ("items", .arr [.obj [("price", .str "9")]]), ("occasion", .str occasion)]])]

def priceInstance : Instance :=
  { node := price, kind := some .leaf, path := "orders.0.items.0.price", hidden := true }

def itemsInstance : Instance :=
  { node := items, kind := some .repeater, path := "orders.0.items", hidden := true
    rows := [[priceInstance]] }

def billInstance : Instance :=
  { node := bill, kind := some .group, path := "orders.0", hidden := true
    children := [itemsInstance] }

def occasionInstance : Instance :=
  { node := occasion, kind := some .leaf, path := "orders.0.occasion", hidden := true }

def ordersInstance : Instance :=
  { node := orders, kind := some .repeater, path := "orders", hidden := false
    rows := [[occasionInstance, billInstance]] }

def outcome : Outcome where
  values := stored ""
  tree := [ordersInstance]
  cleared := ["orders.0.occasion"]

theorem run_eq : (run context [orders] (stored "gift")).outcome = .ok outcome := by decide +kernel

end GiftOrders

open GiftOrders in
/-- The price in the bill of an order is hidden on an occasion that the pass has cleared by then. -/
theorem declared_visibility_giftOrders : ∃ l : Location, l.In outcome.tree ∧
    l.self = priceInstance ∧ l.self.path = ".".intercalate ["orders", "0", "items", "0", "price"] ∧
      l.self.hidden = true := by
  have hbill : Location.In outcome.tree (.inRow (.top ordersInstance) 0 billInstance) :=
    .inRow (.top List.mem_cons_self) rfl (List.mem_cons_of_mem _ List.mem_cons_self)
  have hprice : Location.In outcome.tree (.inRow (.child (.inRow (.top ordersInstance) 0
      billInstance) itemsInstance) 0 priceInstance) :=
    .inRow (.child hbill List.mem_cons_self) rfl List.mem_cons_self
  obtain ⟨-, hpath, hhidden, -⟩ := declared_visibility run_eq hprice
  -- The bill, two steps further out, hides itself by the occasion of its order.
  refine ⟨_, hprice, rfl, hpath, hhidden.2 ⟨.inRow (.top ordersInstance) 0 billInstance, ?_, ?_⟩⟩
  · exact List.mem_cons_of_mem _ (List.mem_cons_of_mem _ List.mem_cons_self)
  · decide +kernel

end Visibility
end FormLogic
