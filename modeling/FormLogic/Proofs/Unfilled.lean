import FormLogic.Proofs.LocatedVisit
import FormLogic.Resolve.Missing

/-!
# The values a form asks for and does not have

The report of missing values is cut down and read in two walks. It has an entry for each
shown instance that asks for a value which is not filled in, in the order of the tree, and
the label of an entry is told by what the instance lies in. This holds of every registry
and every schema.
-/
namespace FormLogic

open Visibility

/-- Shown, asking for a value, and without one as its type sees it. -/
def Instance.isUnfilled (ctx : Context) (values : Value) (i : Instance) : Bool :=
  !i.hidden && i.ownsValue && i.node.validate.softRequired && Missing.isMissing ctx values i

/-- The instances of a tree that ask for a value and have none. -/
def unfilled (ctx : Context) (values : Value) (is : List Instance) : List Instance :=
  (Instance.flattenAll is).filter (Instance.isUnfilled ctx values)

section Unfilled

variable {ctx : Context} {values : Value}

theorem unfilled_singleton (i : Instance) :
    unfilled ctx values [i] = (if i.isUnfilled ctx values then [i] else []) ++
      (unfilled ctx values i.children ++ i.rows.flatMap (unfilled ctx values)) :=
  Instance.filter_flattenAll_singleton _ i

theorem isUnfilled_of_not_owns {i : Instance} (ho : i.ownsValue = false) :
    i.isUnfilled ctx values = false := by
  simp [Instance.isUnfilled, ho]

theorem isUnfilled_of_owns {i : Instance} (hh : i.hidden = false) (ho : i.ownsValue = true) :
    i.isUnfilled ctx values =
      (i.node.validate.softRequired && Missing.isMissing ctx values i) := by
  simp [Instance.isUnfilled, hh, ho]

theorem unfilled_of_not_owns {i : Instance} (ho : i.ownsValue = false) (hc : i.children = [])
    (hr : i.rows = []) : unfilled ctx values [i] = [] := by
  rw [unfilled_singleton, isUnfilled_of_not_owns ho, hc, hr]
  rfl

end Unfilled

namespace Visibility

section Located

variable {ctx : Context} {nodes : List Node} {before : Value} {outcome : Outcome}

theorem shaped_of_in (h : (run ctx nodes before).outcome = .ok outcome) {l : Location}
    (hl : l.In outcome.tree) : Shaped ctx l.self := by
  obtain ⟨_, _, _, -, hv⟩ := exists_visited h hl
  exact hv.shaped

theorem unfilled_of_hidden (h : (run ctx nodes before).outcome = .ok outcome) (values : Value)
    {l : Location} (hl : l.In outcome.tree) (hh : l.self.hidden = true) :
    unfilled ctx values [l.self] = [] :=
  filter_eq_nil_of_hidden h (fun i hi => by simp [Instance.isUnfilled, hi]) hl hh

theorem asks_eq (n : Node) :
    Missing.asks n = (n.validate.softRequired || Missing.asksBelow n) := by
  rw [Missing.asks, Node.recurse_eq, ← Missing.asks, List.any_map]
  rfl

theorem asks_of_mem {n c : Node} (h : Missing.asksBelow n = false) (hc : c ∈ n.children) :
    Missing.asks c = false := by
  rw [Missing.asksBelow, List.any_eq_false] at h
  exact eq_false_of_ne_true (h c hc)

/-- Where a node and all below it ask for nothing, nothing is unfilled. -/
theorem unfilled_of_not_asks (h : (run ctx nodes before).outcome = .ok outcome) (values : Value)
    {l : Location} (hl : l.In outcome.tree) (ha : Missing.asks l.self.node = false) :
    unfilled ctx values [l.self] = [] := by
  refine hl.filter_eq_nil (Q := fun l => Missing.asks l.self.node = false) (fun l _ ha => ?_)
    (fun above i hl ha => ?_) (fun above index i hl ha => ?_) ha
  · rw [asks_eq, Bool.or_eq_false_iff] at ha
    simp [Instance.isUnfilled, ha.1]
  · rw [asks_eq, Bool.or_eq_false_iff] at ha
    cases hl with
    | child habove hi => exact asks_of_mem ha.2 ((nodes_below h habove).1 i hi)
  · rw [asks_eq, Bool.or_eq_false_iff] at ha
    cases hl with
    | @inRow _ _ row _ habove hr hi =>
      exact asks_of_mem ha.2 ((nodes_below h habove).2 row (List.mem_of_getElem? hr) i hi)

end Located

end Visibility

namespace Location

/-- The labels of what a location lies in, from the outside in: of a group that has one, and of a
repeater and its row, counted from one. -/
def trail : Location → List String
  | top _ => []
  | child above _ => above.trail ++ match above.self.kind with
    | some .group => above.self.node.displayLabel?.toList
    | _ => []
  | inRow above index _ => above.trail ++
    [above.self.node.breadcrumbLabel, above.self.node.rowName ++ " " ++ toString (index + 1)]

/-- How a report names an instance. -/
def entry (l : Location) : MissingField :=
  ⟨l.self.path, " > ".intercalate (l.trail ++ [l.self.node.breadcrumbLabel])⟩

/-- The entries of what is unfilled at some locations. -/
def entries (ctx : Context) (values : Value) (ls : List Location) : List MissingField :=
  (ls.filter fun l => l.self.isUnfilled ctx values).map entry

section Entries

variable {ctx : Context} {values : Value}

theorem entries_append (ls ls' : List Location) :
    entries ctx values (ls ++ ls') = entries ctx values ls ++ entries ctx values ls' := by
  rw [entries, List.filter_append, List.map_append]
  rfl

theorem entries_singleton (l : Location) :
    entries ctx values [l] = if l.self.isUnfilled ctx values then [l.entry] else [] := by
  rw [entries, List.filter_cons]
  split <;> rfl

theorem map_path_entries (ls : List Location) : (entries ctx values ls).map (·.path) =
    ((ls.map self).filter (Instance.isUnfilled ctx values)).map (·.path) := by
  rw [entries, List.map_map, List.filter_map, List.map_map]
  rfl

/-- Where nothing is unfilled, there are no entries. -/
theorem entries_eq_nil {ls : List Location}
    (h : (ls.map self).filter (Instance.isUnfilled ctx values) = []) :
    entries ctx values ls = [] := by
  have hpaths : (entries ctx values ls).map (·.path) = [] := by
    rw [map_path_entries, h, List.map_nil]
  exact List.map_eq_nil_iff.1 hpaths

theorem entries_locate_eq_nil {l : Location} {i : Instance} (hl : l.self = i)
    (h : unfilled ctx values [i] = []) : entries ctx values (locate l i) = [] := by
  have hself : (locate l i).map self = Instance.flattenAll [i] := by
    rw [map_self_locate i l hl, Instance.flattenAll, Instance.flattenAll, List.append_nil]
  exact entries_eq_nil (hself ▸ h)

theorem entries_locateRows_eq_nil (above : Location) {rows : List (List Instance)}
    (h : rows.flatMap (unfilled ctx values) = []) (index : Nat) :
    entries ctx values (locateRows above index rows) = [] := by
  have hself : (locateRows above index rows).map self = Instance.flattenRows rows :=
    map_self_locateRows above (fun _ _ i _ => map_self_locate i) index
  refine entries_eq_nil ?_
  rw [hself, Instance.flattenRows_eq, List.filter_flatMap]
  exact h

end Entries

end Location

namespace Missing

variable {ctx : Context} {values : Value}

theorem evaluateAll_append (crumbs : List String) (cs ds : List Candidate) :
    evaluateAll ctx values crumbs (cs ++ ds) =
      evaluateAll ctx values crumbs cs ++ evaluateAll ctx values crumbs ds := by
  induction cs with
  | nil => rfl
  | cons c rest ih => simp only [List.cons_append, evaluateAll, ih, List.append_assoc]

theorem evaluateAll_singleton (crumbs : List String) (c : Candidate) :
    evaluateAll ctx values crumbs [c] = evaluate ctx values crumbs c := by
  simp only [evaluateAll, List.append_nil]

theorem evaluateRows_of_empty {rows : List (List Candidate)} (h : ∀ row ∈ rows, row = [])
    (crumbs : List String) (node : Node) (index : Nat) :
    evaluateRows ctx values crumbs node index rows = [] := by
  induction rows generalizing index with
  | nil => rfl
  | cons row rest ih =>
    rw [evaluateRows, h row List.mem_cons_self, ih fun r hr => h r (List.mem_cons_of_mem row hr)]
    rfl

theorem prune_of_hidden {i : Instance} (h : i.hidden = true) : prune i = none := by
  obtain ⟨node, kind, path, hidden, children, rows⟩ := i
  simp only [prune]
  rw [if_pos h]

theorem prune_of_leaf {i : Instance} (h : i.hidden = false) (hk : i.kind = some .leaf) :
    prune i = if i.ownsValue && i.node.validate.softRequired then some (.field i) else none := by
  obtain ⟨node, kind, path, hidden, children, rows⟩ := i
  obtain rfl : kind = some .leaf := hk
  simp only [prune]
  rw [if_neg (by simp [show hidden = false from h])]

theorem prune_of_repeater {i : Instance} (h : i.hidden = false) (hk : i.kind = some .repeater) :
    prune i = if !i.ownsValue then none
      else if !asksBelow i.node then
        if i.node.validate.softRequired then some (.field i) else none
      else if i.node.validate.softRequired || (pruneRows i.rows).any fun row => !row.isEmpty then
        some (.repeater i i.node.validate.softRequired (pruneRows i.rows))
      else none := by
  obtain ⟨node, kind, path, hidden, children, rows⟩ := i
  obtain rfl : kind = some .repeater := hk
  simp only [prune]
  rw [if_neg (by simp [show hidden = false from h])]

theorem prune_of_container {i : Instance} (h : i.hidden = false)
    (hk : i.kind.map Kind.ownsPath ≠ some true) :
    prune i = if (pruneAll i.children).isEmpty then none
      else some (.container (containerLabel i.node i.kind) (pruneAll i.children)) := by
  obtain ⟨node, kind, path, hidden, children, rows⟩ := i
  simp only [prune]
  rw [if_neg (by simp [show hidden = false from h])]
  cases kind with
  | none => rfl
  | some k => cases k <;> first | rfl | exact absurd rfl hk

/-- The report of an instance has the entries of what is unfilled at and below it, wherever the
instance is located. -/
def Reports (ctx : Context) (values : Value) (i : Instance) : Prop :=
  ∀ l : Location, l.self = i →
    evaluateAll ctx values l.trail (prune i).toList = Location.entries ctx values (l.locate i)

theorem evaluateAll_pruneAll {place : Instance → Location} {crumbs : List String}
    (hself : ∀ i, (place i).self = i) (htrail : ∀ i, (place i).trail = crumbs)
    {is : List Instance} (h : ∀ i ∈ is, Reports ctx values i) :
    evaluateAll ctx values crumbs (pruneAll is) =
      Location.entries ctx values (Location.locateAll place is) := by
  induction is with
  | nil => rfl
  | cons i rest ih =>
    rw [pruneAll, evaluateAll_append, Location.locateAll, Location.entries_append,
      ← h i List.mem_cons_self _ (hself i), htrail,
      ih fun j hj => h j (List.mem_cons_of_mem i hj)]

theorem evaluateRows_pruneRows (above : Location) {rows : List (List Instance)}
    (h : ∀ row ∈ rows, ∀ i ∈ row, Reports ctx values i) (index : Nat) :
    evaluateRows ctx values (above.trail ++ [above.self.node.breadcrumbLabel]) above.self.node
        index (pruneRows rows) =
      Location.entries ctx values (Location.locateRows above index rows) := by
  induction rows generalizing index with
  | nil => rfl
  | cons row rest ih =>
    have hcrumbs : ∀ i, (Location.inRow above index i).trail =
        above.trail ++ [above.self.node.breadcrumbLabel] ++ [rowLabel above.self.node index] :=
      fun i => by rw [List.append_assoc]; rfl
    rw [pruneRows, evaluateRows, Location.locateRows, Location.entries_append,
      evaluateAll_pruneAll (fun _ => rfl) hcrumbs (h row List.mem_cons_self),
      ih fun r hr => h r (List.mem_cons_of_mem row hr)]

/-- An instance that is asked for its value has an entry when it is unfilled. -/
theorem reportOf_own {l : Location} (hh : l.self.hidden = false) (ho : l.self.ownsValue = true) :
    (if l.self.node.validate.softRequired then reportOf ctx values l.trail l.self else []) =
      Location.entries ctx values [l] := by
  rw [Location.entries_singleton, isUnfilled_of_owns hh ho]
  cases l.self.node.validate.softRequired <;> rfl

theorem reports_of_container {i : Instance} (hh : i.hidden = false)
    (hk : i.kind.map Kind.ownsPath ≠ some true) (ho : i.ownsValue = false) (hr : i.rows = [])
    (h : ∀ c ∈ i.children, Reports ctx values c) : Reports ctx values i := by
  rintro l rfl
  have hcrumbs : ∀ c, (Location.child l c).trail =
      l.trail ++ (containerLabel l.self.node l.self.kind).toList := by
    intro c
    rw [Location.trail]
    unfold containerLabel
    cases l.self.kind with
    | none => rfl
    | some k => cases k <;> rfl
  have hall := evaluateAll_pruneAll (fun _ => rfl) hcrumbs h
  have hself : Location.entries ctx values [l] = [] := by
    rw [Location.entries_singleton, isUnfilled_of_not_owns ho]
    rfl
  rw [Location.locate_eq, hr, Location.locateRows, List.append_nil, ← List.singleton_append,
    Location.entries_append, hself, List.nil_append, ← hall, prune_of_container hh hk]
  split
  · next he =>
    rw [List.isEmpty_iff.1 he]
    rfl
  · rw [Option.toList_some, evaluateAll_singleton, evaluate]

theorem reports_of_leaf {i : Instance} (hh : i.hidden = false) (hk : i.kind = some .leaf)
    (hc : i.children = []) (hr : i.rows = []) : Reports ctx values i := by
  rintro l rfl
  rw [Location.locate_eq, hc, hr, prune_of_leaf hh hk]
  change _ = Location.entries ctx values [l]
  cases ho : l.self.ownsValue with
  | false =>
    rw [Location.entries_singleton, isUnfilled_of_not_owns ho]
    rfl
  | true =>
    rw [← reportOf_own hh ho, Bool.true_and]
    cases l.self.node.validate.softRequired with
    | false => rfl
    | true => rw [if_pos rfl, if_pos rfl, Option.toList_some, evaluateAll_singleton, evaluate]

theorem reports_of_repeater {i : Instance} (hh : i.hidden = false) (hk : i.kind = some .repeater)
    (ho : i.ownsValue = true) (hc : i.children = [])
    (hrows : ∀ row ∈ i.rows, ∀ c ∈ row, Reports ctx values c)
    (hnone : asksBelow i.node = false → i.rows.flatMap (unfilled ctx values) = []) :
    Reports ctx values i := by
  rintro l rfl
  have hall := evaluateRows_pruneRows l hrows 0
  rw [Location.locate_eq, hc, Location.locateAll, List.nil_append, ← List.singleton_append,
    Location.entries_append, ← reportOf_own hh ho, prune_of_repeater hh hk, ho]
  simp only [Bool.not_true, Bool.false_eq_true, if_false]
  cases hasks : asksBelow l.self.node with
  | false =>
    rw [Location.entries_locateRows_eq_nil l (hnone hasks), Bool.not_false, if_pos rfl,
      List.append_nil]
    cases l.self.node.validate.softRequired with
    | false => rfl
    | true => rw [if_pos rfl, if_pos rfl, Option.toList_some, evaluateAll_singleton, evaluate]
  | true =>
    rw [← hall]
    simp only [Bool.not_true, Bool.false_eq_true, if_false]
    split
    · rw [Option.toList_some, evaluateAll_singleton, evaluate]
    · next hpruned =>
      -- Nothing is asked for, neither here nor in a row.
      simp only [Bool.or_eq_true, not_or, Bool.not_eq_true, List.any_eq_false,
        Bool.not_eq_false'] at hpruned
      rw [evaluateRows_of_empty, hpruned.1]
      · rfl
      · exact fun row hrow => List.isEmpty_iff.1 (by simpa using hpruned.2 row hrow)

section Located

variable {nodes : List Node} {before : Value} {outcome : Outcome}

/-- Where nothing in the template asks for a value, nothing in the rows is unfilled. -/
theorem unfilled_rows_of_not_asks (h : (run ctx nodes before).outcome = .ok outcome) {l : Location}
    (hl : l.In outcome.tree) (hasks : asksBelow l.self.node = false) :
    l.self.rows.flatMap (unfilled ctx values) = [] := by
  rw [List.flatMap_eq_nil_iff]
  intro row hrow
  obtain ⟨index, hindex⟩ := List.mem_iff_getElem?.1 hrow
  refine Instance.filter_flattenAll_eq_nil fun c hc => ?_
  exact unfilled_of_not_asks h values (.inRow hl hindex hc)
    (asks_of_mem hasks ((nodes_below h hl).2 row hrow c hc))

theorem reports_of_in (h : (run ctx nodes before).outcome = .ok outcome) {l : Location}
    (hl : l.In outcome.tree) : Reports ctx values l.self := by
  generalize hi : l.self = i
  induction i using Instance.induction generalizing l with
  | step i ihChildren ihRows =>
    subst hi
    cases hh : l.self.hidden with
    | true =>
      intro l' hl'
      rw [prune_of_hidden hh,
        Location.entries_locate_eq_nil hl' (unfilled_of_hidden h values hl hh)]
      rfl
    | false =>
      cases shaped_of_in h hl with
      | container hk ho hcn hr =>
        exact reports_of_container hh hk ho hr fun c hc => ihChildren c hc (.child hl hc) rfl
      | leaf hk hcn hr => exact reports_of_leaf hh hk hcn hr
      | keyless hk ho hcn hr =>
        intro l' hl'
        rw [prune_of_repeater hh hk, ho,
          Location.entries_locate_eq_nil hl' (unfilled_of_not_owns ho hcn hr)]
        rfl
      | repeater hk ho hcn hr =>
        refine reports_of_repeater hh hk ho hcn (fun row hrow c hc => ?_)
          (unfilled_rows_of_not_asks h hl)
        obtain ⟨index, hindex⟩ := List.mem_iff_getElem?.1 hrow
        exact ihRows row hrow c hc (.inRow hl hindex hc) rfl

end Located

end Missing

section Report

variable {ctx : Context} {nodes : List Node} {before : Value} {outcome : Outcome}

/-- The report has the entries of what is unfilled in the tree. -/
theorem missingFields_eq_entries (h : (run ctx nodes before).outcome = .ok outcome)
    (values : Value) : missingFields ctx outcome.tree values =
      Location.entries ctx values (Location.ofTree outcome.tree) := by
  have hself : ∀ i, (Location.top i).self = i := fun _ => rfl
  have htrail : ∀ i, (Location.top i).trail = [] := fun _ => rfl
  exact Missing.evaluateAll_pruneAll hself htrail fun _ hi => Missing.reports_of_in h (.top hi)

/-- The paths of the report are those of the unfilled instances. -/
theorem map_path_missingFields (h : (run ctx nodes before).outcome = .ok outcome) (values : Value) :
    (missingFields ctx outcome.tree values).map (·.path) =
      (unfilled ctx values outcome.tree).map (·.path) := by
  rw [missingFields_eq_entries h, Location.map_path_entries, Location.map_self_ofTree]
  rfl

end Report

end FormLogic
