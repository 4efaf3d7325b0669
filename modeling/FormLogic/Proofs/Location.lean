import FormLogic.Resolve.Instance

/-!
# Locations in a tree of instances

A location is an instance with the way down to it, so that it can be said what it
lies in. Whether an instance is to be cleared, and whether it lies in rows that are
kept, depends on that way and not on the instance alone.
-/
namespace FormLogic

namespace Instance

mutual
/-- Induction over an instance by its children and its rows. -/
theorem induction {P : Instance → Prop}
    (step : ∀ i, (∀ c ∈ i.children, P c) → (∀ row ∈ i.rows, ∀ c ∈ row, P c) → P i) : ∀ i, P i
  | ⟨_, _, _, _, children, rows⟩ => step _ (inductionAll step children) (inductionRows step rows)
theorem inductionAll {P : Instance → Prop}
    (step : ∀ i, (∀ c ∈ i.children, P c) → (∀ row ∈ i.rows, ∀ c ∈ row, P c) → P i) :
    ∀ is : List Instance, ∀ c ∈ is, P c
  | i :: rest, c, h => by
    rcases List.mem_cons.1 h with h | h
    · exact h ▸ induction step i
    · exact inductionAll step rest c h
theorem inductionRows {P : Instance → Prop}
    (step : ∀ i, (∀ c ∈ i.children, P c) → (∀ row ∈ i.rows, ∀ c ∈ row, P c) → P i) :
    ∀ rows : List (List Instance), ∀ row ∈ rows, ∀ c ∈ row, P c
  | first :: rest, row, h, c, hc => by
    rcases List.mem_cons.1 h with h | h
    · exact inductionAll step first c (h ▸ hc)
    · exact inductionRows step rest row h c hc
end

/-- An instance is hidden, or it is a leaf, a repeater or a container that is shown. -/
theorem cases_shown (i : Instance) : i.hidden = true ∨ i.hidden = false ∧ (i.kind = some .leaf ∨
    i.kind = some .repeater ∨ i.kind.map Kind.ownsPath ≠ some true) := by
  cases i.hidden with
  | true => exact Or.inl rfl
  | false =>
    refine Or.inr ⟨rfl, ?_⟩
    cases i.kind with
    | none => exact Or.inr (Or.inr nofun)
    | some k => cases k <;> simp [Kind.ownsPath]

theorem flattenAll_eq (is : List Instance) : flattenAll is = is.flatMap flatten := by
  induction is with
  | nil => rfl
  | cons i rest ih => rw [flattenAll, ih, List.flatMap_cons]

theorem flattenRows_eq (rows : List (List Instance)) :
    flattenRows rows = rows.flatMap flattenAll := by
  induction rows with
  | nil => rfl
  | cons row rest ih => rw [flattenRows, ih, List.flatMap_cons]

/-- The law of flattening: the instance, its children in order, its rows in order. -/
theorem flatten_eq (i : Instance) :
    i.flatten = i :: (i.children.flatMap flatten ++ i.rows.flatMap flattenAll) := by
  obtain ⟨node, kind, path, hidden, children, rows⟩ := i
  rw [flatten, flattenAll_eq, flattenRows_eq]

theorem mem_flatten_self (i : Instance) : i ∈ i.flatten := by
  rw [flatten_eq]
  exact List.mem_cons_self

theorem mem_flattenAll {is : List Instance} {j : Instance} :
    j ∈ flattenAll is ↔ ∃ i ∈ is, j ∈ i.flatten := by
  rw [flattenAll_eq, List.mem_flatMap]

theorem mem_flatten {i j : Instance} :
    j ∈ i.flatten ↔ j = i ∨ (∃ c ∈ i.children, j ∈ c.flatten) ∨
      ∃ row ∈ i.rows, ∃ c ∈ row, j ∈ c.flatten := by
  rw [flatten_eq]
  simp only [List.mem_cons, List.mem_append, List.mem_flatMap, mem_flattenAll]

theorem flattenAll_append (is js : List Instance) :
    flattenAll (is ++ js) = flattenAll is ++ flattenAll js := by
  simp only [flattenAll_eq, List.flatMap_append]

/-- The instances of some sort: the instance if it is one, those of its children, those of its
rows. -/
theorem filter_flattenAll_singleton (p : Instance → Bool) (i : Instance) :
    (flattenAll [i]).filter p = (if p i then [i] else []) ++
      ((flattenAll i.children).filter p ++
        i.rows.flatMap fun row => (flattenAll row).filter p) := by
  have hself : flattenAll [i] = i :: (flattenAll i.children ++ i.rows.flatMap flattenAll) := by
    rw [flattenAll_eq, List.flatMap_cons, flatten_eq, flattenAll_eq i.children]
    simp
  rw [hself, List.filter_cons, List.filter_append, List.filter_flatMap]
  split <;> rfl

theorem filter_flattenAll_cons (p : Instance → Bool) (i : Instance) (is : List Instance) :
    (flattenAll (i :: is)).filter p = (flattenAll [i]).filter p ++ (flattenAll is).filter p := by
  rw [← List.singleton_append, flattenAll_append, List.filter_append]

theorem filter_flattenAll_eq_nil {p : Instance → Bool} {is : List Instance}
    (h : ∀ i ∈ is, (flattenAll [i]).filter p = []) : (flattenAll is).filter p = [] := by
  induction is with
  | nil => rfl
  | cons i rest ih =>
    rw [filter_flattenAll_cons, h i List.mem_cons_self,
      ih fun j hj => h j (List.mem_cons_of_mem i hj), List.append_nil]

/-- Flattening goes all the way down. -/
theorem mem_flatten_trans {i j k : Instance} (hj : j ∈ i.flatten) (hk : k ∈ j.flatten) :
    k ∈ i.flatten := by
  induction i using induction with
  | step i ihChildren ihRows =>
    rcases mem_flatten.1 hj with rfl | ⟨c, hc, hj⟩ | ⟨row, hrow, c, hc, hj⟩
    · exact hk
    · exact mem_flatten.2 (Or.inr (Or.inl ⟨c, hc, ihChildren c hc hj⟩))
    · exact mem_flatten.2 (Or.inr (Or.inr ⟨row, hrow, c, hc, ihRows row hrow c hc hj⟩))

end Instance

/-- An instance and the way down to it: at the top, below a container, or in a numbered row. -/
inductive Location where
  | top (i : Instance)
  | child (above : Location) (i : Instance)
  | inRow (above : Location) (index : Nat) (i : Instance)

namespace Location

/-- The instance itself. -/
def self : Location → Instance
  | top i | child _ i | inRow _ _ i => i

@[simp] theorem self_top (i : Instance) : (top i).self = i := rfl
@[simp] theorem self_child (above : Location) (i : Instance) : (child above i).self = i := rfl
@[simp] theorem self_inRow (above : Location) (index : Nat) (i : Instance) :
    (inRow above index i).self = i := rfl

/-- The instance and all it lies in, from the inside out. -/
def lineage : Location → List Instance
  | top i => [i]
  | child above i | inRow above _ i => i :: above.lineage

/-- The instance is hidden, and it or something hidden that it lies in clears when hidden. -/
def clears (l : Location) : Bool :=
  l.self.hidden && l.lineage.any fun a => a.hidden && a.node.clearOnHide

/-- The instance lies in the rows of a hidden repeater. -/
def inKeptRows : Location → Bool
  | top _ => false
  | child above _ => above.inKeptRows
  | inRow above _ _ => above.inKeptRows || above.self.hidden

/-- The location is one of the tree. -/
inductive In (tree : List Instance) : Location → Prop
  | top {i : Instance} (hi : i ∈ tree) : In tree (.top i)
  | child {above : Location} {i : Instance} (ha : In tree above) (hi : i ∈ above.self.children) :
      In tree (.child above i)
  | inRow {above : Location} {index : Nat} {row : List Instance} {i : Instance}
      (ha : In tree above) (hr : above.self.rows[index]? = some row) (hi : i ∈ row) :
      In tree (.inRow above index i)

variable {tree : List Instance}

theorem In.mem_flattenAll {l : Location} (h : l.In tree) :
    l.self ∈ Instance.flattenAll tree := by
  induction h with
  | top hi => exact Instance.mem_flattenAll.2 ⟨_, hi, Instance.mem_flatten_self _⟩
  | @child above i ha hi ih =>
    obtain ⟨j, hj, hm⟩ := Instance.mem_flattenAll.1 ih
    have hc : i ∈ above.self.flatten :=
      Instance.mem_flatten.2 (Or.inr (Or.inl ⟨i, hi, Instance.mem_flatten_self i⟩))
    exact Instance.mem_flattenAll.2 ⟨j, hj, Instance.mem_flatten_trans hm hc⟩
  | @inRow above index row i ha hr hi ih =>
    obtain ⟨j, hj, hm⟩ := Instance.mem_flattenAll.1 ih
    have hc : i ∈ above.self.flatten := Instance.mem_flatten.2
      (Or.inr (Or.inr ⟨row, List.mem_of_getElem? hr, i, hi, Instance.mem_flatten_self i⟩))
    exact Instance.mem_flattenAll.2 ⟨j, hj, Instance.mem_flatten_trans hm hc⟩

theorem In.exists_below {l : Location} (h : l.In tree) {j : Instance} (hj : j ∈ l.self.flatten) :
    ∃ l', In tree l' ∧ l'.self = j := by
  generalize hi : l.self = i at hj
  induction i using Instance.induction generalizing l with
  | step i ihChildren ihRows =>
    subst hi
    rcases Instance.mem_flatten.1 hj with rfl | ⟨c, hc, hj⟩ | ⟨row, hrow, c, hc, hj⟩
    · exact ⟨l, h, rfl⟩
    · exact ihChildren c hc (.child h hc) rfl hj
    · obtain ⟨index, hr⟩ := List.mem_iff_getElem?.1 hrow
      exact ihRows row hrow c hc (.inRow h hr hc) rfl hj

/-- No instance of some sort is at or below a location with a property that rules the sort out and
passes down. -/
theorem In.filter_eq_nil {p : Instance → Bool} {Q : Location → Prop}
    (hown : ∀ l, In tree l → Q l → p l.self = false)
    (hchild : ∀ above i, In tree (.child above i) → Q above → Q (.child above i))
    (hrow : ∀ above index i, In tree (.inRow above index i) → Q above → Q (.inRow above index i))
    {l : Location} (hl : In tree l) (hq : Q l) : (Instance.flattenAll [l.self]).filter p = [] := by
  generalize hi : l.self = i
  induction i using Instance.induction generalizing l with
  | step i ihChildren ihRows =>
    subst hi
    rw [Instance.filter_flattenAll_singleton, hown l hl hq]
    simp only [Bool.false_eq_true, if_false, List.nil_append, List.append_eq_nil_iff]
    constructor
    · refine Instance.filter_flattenAll_eq_nil fun c hc => ?_
      exact ihChildren c hc (.child hl hc) (hchild _ _ (.child hl hc) hq) rfl
    · refine List.flatMap_eq_nil_iff.2 fun row hrm => ?_
      obtain ⟨index, hindex⟩ := List.mem_iff_getElem?.1 hrm
      refine Instance.filter_flattenAll_eq_nil fun c hc => ?_
      exact ihRows row hrm c hc (.inRow hl hindex hc) (hrow _ _ _ (.inRow hl hindex hc) hq) rfl

/-- The instances of a tree are those that are located in it. -/
theorem mem_flattenAll_iff {j : Instance} :
    j ∈ Instance.flattenAll tree ↔ ∃ l, In tree l ∧ l.self = j := by
  constructor
  · intro h
    obtain ⟨i, hi, hj⟩ := Instance.mem_flattenAll.1 h
    exact (In.top hi).exists_below hj
  · rintro ⟨l, hl, rfl⟩
    exact hl.mem_flattenAll

mutual
/-- A location and those below it: an instance before its children, and a repeater before its
rows. -/
def locate (l : Location) : Instance → List Location
  | ⟨_, _, _, _, children, rows⟩ => l :: (locateAll (child l) children ++ locateRows l 0 rows)
def locateAll (place : Instance → Location) : List Instance → List Location
  | [] => []
  | i :: rest => locate (place i) i ++ locateAll place rest
def locateRows (above : Location) (index : Nat) : List (List Instance) → List Location
  | [] => []
  | row :: rest => locateAll (inRow above index) row ++ locateRows above (index + 1) rest
end

/-- The locations of a tree. -/
def ofTree (tree : List Instance) : List Location := locateAll top tree

theorem locate_eq (l : Location) (i : Instance) :
    locate l i = l :: (locateAll (child l) i.children ++ locateRows l 0 i.rows) := by
  cases i
  rw [locate]

theorem map_self_locateAll {place : Instance → Location} (hp : ∀ i, (place i).self = i)
    {is : List Instance} (h : ∀ i ∈ is, ∀ l : Location, l.self = i →
      (locate l i).map self = i.flatten) :
    (locateAll place is).map self = Instance.flattenAll is := by
  induction is with
  | nil => rfl
  | cons i rest ih =>
    rw [locateAll, List.map_append, h i List.mem_cons_self _ (hp i),
      ih fun j hj => h j (List.mem_cons_of_mem i hj), Instance.flattenAll]

theorem map_self_locateRows (above : Location) {rows : List (List Instance)}
    (h : ∀ row ∈ rows, ∀ i ∈ row, ∀ l : Location, l.self = i →
      (locate l i).map self = i.flatten) (index : Nat) :
    (locateRows above index rows).map self = Instance.flattenRows rows := by
  induction rows generalizing index with
  | nil => rfl
  | cons row rest ih =>
    rw [locateRows, List.map_append, map_self_locateAll (fun _ => rfl) (h row List.mem_cons_self),
      ih fun r hr => h r (List.mem_cons_of_mem row hr), Instance.flattenRows]

/-- The locations at and below an instance are those of its flattening, in order. -/
theorem map_self_locate (i : Instance) : ∀ l : Location, l.self = i →
    (locate l i).map self = i.flatten := by
  induction i using Instance.induction with
  | step i ihChildren ihRows =>
    intro l hl
    rw [locate_eq, List.map_cons, List.map_append, map_self_locateAll (fun _ => rfl) ihChildren,
      map_self_locateRows l ihRows, hl]
    cases i
    rw [Instance.flatten]

theorem map_self_ofTree (tree : List Instance) :
    (ofTree tree).map self = Instance.flattenAll tree :=
  map_self_locateAll (fun _ => rfl) fun i _ l hl => map_self_locate i l hl

end Location
end FormLogic
