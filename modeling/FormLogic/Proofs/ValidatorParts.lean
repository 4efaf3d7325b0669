import FormLogic.Proofs.UnrefinedValidators
import Mathlib.Data.List.Forall2

/-!
# The parts of a validator

A validator comes with the validators of the rows that it has both maps and items for, and
with theirs. A check and the search for refinements are two walks over these parts that
stop at different places. The refinements that run are those of the parts that are filled
in and have no failed rule, where the same holds of all parts around them. Each one adds
at most one error, at its own part.
-/
namespace FormLogic

namespace Path

theorem length_le_join (base rel : String) : base.length ≤ (join base rel).length := by
  unfold join
  split
  · next h => simp [h]
  · split
    · exact Nat.le_refl _
    · rw [String.length_append, String.length_append]
      omega

theorem length_lt_row (path : String) (index : Nat) : path.length < (row path index).length := by
  have hindex : toString index ≠ "" := fun he => toList_toString_ne_nil index (by rw [he]; rfl)
  have hpos : 0 < (toString index).length := by
    rw [Nat.pos_iff_ne_zero]
    exact fun he => hindex (String.length_eq_zero_iff.1 he)
  unfold row join
  split
  · next h => rwa [h]
  · rw [String.length_append, String.length_append]
    omega

end Path

namespace Validator

/-- A validator with the value that it is for. -/
structure Part where
  path : String
  value : Option Value
  validator : Validator

/-- A part with the parts around it, from the inside out. -/
structure Enclosed where
  self : Part
  around : List Part

/-- The entries of one row map for the values of a row. -/
def rowEntries (base : String) (row : Value) (m : ValidatorMap) : List Part :=
  m.map fun (rel, v) => ⟨Path.join base rel, row.get? rel, v⟩

/-- The entries of the rows that a validator has both maps and items for. -/
def entries (v : Validator) (path : String) (value : Option Value) : List Part :=
  match v.rowMaps?, value.bind Value.items? with
  | some maps, some items =>
    (items.zip maps).zipIdx.flatMap fun ((row, m), index) => rowEntries (Path.row path index) row m
  | _, _ => []

mutual
/-- A validator and the parts of each entry of its rows. -/
def parts (around : List Part) (path : String) (value : Option Value) : Validator → List Enclosed
  | ⟨label, isOptional, isSoftRequired, rules, refinement, message, emptyWhen⟩ =>
    let self : Part :=
      ⟨path, value, ⟨label, isOptional, isSoftRequired, rules, refinement, message, emptyWhen⟩⟩
    ⟨self, around⟩ :: match value with
      | some x => partsOfRules (self :: around) path x rules
      | none => []
def partsOfRules (around : List Part) (path : String) (x : Value) : List Rule → List Enclosed
  | [] => []
  | .rows maps :: _ =>
    match x with
    | .arr items => partsOfRows around path 0 items maps
    | _ => []
  | _ :: rest => partsOfRules around path x rest
def partsOfRows (around : List Part) (path : String) (index : Nat) (items : List Value) :
    List (List (String × Validator)) → List Enclosed
  | [] => []
  | m :: rest =>
    match items with
    | [] => []
    | row :: items =>
      partsOfRow around (Path.row path index) row m ++
        partsOfRows around path (index + 1) items rest
def partsOfRow (around : List Part) (base : String) (row : Value) :
    List (String × Validator) → List Enclosed
  | [] => []
  | (rel, v) :: rest =>
    parts around (Path.join base rel) (row.get? rel) v ++ partsOfRow around base row rest
end

/-- A walk over the rows of a validator that collects what it finds in each entry: by entry, by row,
by rows numbered from an index, and by the rules of the validator. -/
structure RowWalk (α : Type) where
  visit : String → Option Value → Validator → List α
  row : String → Value → ValidatorMap → List α
  rows : String → Nat → List Value → List ValidatorMap → List α
  rules : String → Value → List Rule → List α
  row_nil : ∀ base x, row base x [] = []
  row_cons : ∀ base x rel v rest, row base x ((rel, v) :: rest) =
    visit (Path.join base rel) (x.get? rel) v ++ row base x rest
  rows_no_maps : ∀ path index items, rows path index items [] = []
  rows_no_items : ∀ path index m maps, rows path index [] (m :: maps) = []
  rows_cons : ∀ path index x items m maps, rows path index (x :: items) (m :: maps) =
    row (Path.row path index) x m ++ rows path (index + 1) items maps
  rules_nil : ∀ path x, rules path x [] = []
  rules_rows : ∀ path x maps rest, rules path x (.rows maps :: rest) =
    (x.items?.map fun items => rows path 0 items maps).getD []
  rules_other : ∀ path x r rest, (∀ maps, r ≠ .rows maps) →
    rules path x (r :: rest) = rules path x rest

namespace RowWalk

variable {α : Type} (w : RowWalk α)

theorem row_eq (base : String) (x : Value) (m : ValidatorMap) : w.row base x m =
    (rowEntries base x m).flatMap fun p => w.visit p.path p.value p.validator := by
  induction m with
  | nil => exact w.row_nil base x
  | cons e rest ih =>
    obtain ⟨rel, v⟩ := e
    rw [w.row_cons, ih]
    rfl

theorem rows_eq (path : String) (index : Nat) (items : List Value) (maps : List ValidatorMap) :
    w.rows path index items maps =
      (((items.zip maps).zipIdx index).flatMap fun ((row, m), index) =>
        rowEntries (Path.row path index) row m).flatMap fun p =>
          w.visit p.path p.value p.validator := by
  induction maps generalizing index items with
  | nil =>
    rw [w.rows_no_maps, List.zip_nil_right]
    rfl
  | cons m rest ih =>
    cases items with
    | nil => exact w.rows_no_items path index m rest
    | cons row items =>
      rw [w.rows_cons, w.row_eq, ih, ← List.flatMap_append]
      rfl

/-- A walk finds what it finds in the entries of the rows. -/
theorem rules_eq (v : Validator) (path : String) (x : Value) : w.rules path x v.rules =
    (v.entries path (some x)).flatMap fun p => w.visit p.path p.value p.validator := by
  unfold entries rowMaps?
  induction v.rules with
  | nil => exact w.rules_nil path x
  | cons r rest ih =>
    cases r with
    | rows maps =>
      rw [w.rules_rows]
      cases x with
      | arr items => exact w.rows_eq path 0 items maps
      | null | bool _ | num _ | str _ | obj _ => rfl
    | _ =>
      rw [w.rules_other path x _ rest (by intro maps h; cases h), ih]
      rfl

end RowWalk

/-- The walk of a check. -/
def checkWalk : RowWalk Issue where
  visit := check
  row := checkRow
  rows := checkRows
  rules := checkRules
  row_nil _ _ := rfl
  row_cons _ _ _ _ _ := rfl
  rows_no_maps _ _ _ := rfl
  rows_no_items _ _ _ _ := rfl
  rows_cons _ _ _ _ _ _ := rfl
  rules_nil _ _ := rfl
  rules_rows _ x _ _ := by cases x <;> rfl
  rules_other _ _ r _ h := by
    cases r with
    | rows maps => exact absurd rfl (h maps)
    | _ => rfl

/-- The search for refinements that are due. -/
def dueWalk : RowWalk Due where
  visit := due
  row := dueOfRow
  rows := dueOfRows
  rules := dueOfRules
  row_nil _ _ := rfl
  row_cons _ _ _ _ _ := rfl
  rows_no_maps _ _ _ := rfl
  rows_no_items _ _ _ _ := rfl
  rows_cons _ _ _ _ _ _ := rfl
  rules_nil _ _ := rfl
  rules_rows _ x _ _ := by cases x <;> rfl
  rules_other _ _ r _ h := by
    cases r with
    | rows maps => exact absurd rfl (h maps)
    | _ => rfl

/-- The walk that lists the parts. -/
def partsWalk (around : List Part) : RowWalk Enclosed where
  visit := parts around
  row := partsOfRow around
  rows := partsOfRows around
  rules := partsOfRules around
  row_nil _ _ := rfl
  row_cons _ _ _ _ _ := rfl
  rows_no_maps _ _ _ := rfl
  rows_no_items _ _ _ _ := rfl
  rows_cons _ _ _ _ _ _ := rfl
  rules_nil _ _ := rfl
  rules_rows _ x _ _ := by cases x <;> rfl
  rules_other _ _ r _ h := by
    cases r with
    | rows maps => exact absurd rfl (h maps)
    | _ => rfl

/-- The law of parts: the validator itself, then the parts of each entry of its rows. -/
theorem parts_eq (v : Validator) (around : List Part) (path : String) (value : Option Value) :
    v.parts around path value = ⟨⟨path, value, v⟩, around⟩ ::
      (v.entries path value).flatMap fun p =>
        p.validator.parts (⟨path, value, v⟩ :: around) p.path p.value := by
  have hself : v.parts around path value = ⟨⟨path, value, v⟩, around⟩ :: match value with
      | some x => partsOfRules (⟨path, value, v⟩ :: around) path x v.rules
      | none => [] := by
    obtain ⟨label, isOptional, isSoftRequired, rules, refinement, message, emptyWhen⟩ := v
    unfold parts
    rfl
  rw [hself]
  cases value with
  | none =>
    unfold entries
    cases v.rowMaps? <;> rfl
  | some x => exact congrArg _ ((partsWalk _).rules_eq v path x)

theorem check_eq_entries (v : Validator) (path : String) (value : Option Value) :
    v.check path value = match Value.filled? value with
      | none => v.blankIssues path
      | some x => if v.deemsEmpty x then [v.recommendedAt path]
        else v.ownErrors path x ++ (v.entries path (some x)).flatMap fun p =>
          p.validator.check p.path p.value := by
  have hrules : ∀ x, checkRules path x v.rules = (v.entries path (some x)).flatMap fun p =>
      p.validator.check p.path p.value := checkWalk.rules_eq v path
  rw [check_eq]
  cases Value.filled? value with
  | none => rfl
  | some x => simp only [hrules]

/-- Every entry comes from a row map among the rules. -/
theorem exists_rows_of_mem_entries {v : Validator} {path : String} {value : Option Value}
    {p : Part} (hp : p ∈ v.entries path value) :
    ∃ maps, Rule.rows maps ∈ v.rules ∧ ∃ m ∈ maps, ∃ e ∈ m, e.2 = p.validator := by
  unfold entries at hp
  split at hp
  · next maps items hmaps _ =>
    obtain ⟨r, hr, hrows⟩ := List.exists_of_findSome?_eq_some hmaps
    obtain ⟨⟨⟨row, m⟩, index⟩, hm, hp⟩ := List.mem_flatMap.1 hp
    obtain ⟨e, he, rfl⟩ := List.mem_map.1 hp
    have hzip : (row, m) ∈ items.zip maps := (List.mem_zipIdx hm).2.2 ▸ List.getElem_mem _
    cases r with
    | rows maps' =>
      obtain rfl := Option.some.inj hrows
      exact ⟨maps', hr, m, (List.of_mem_zip hzip).2, e, he, rfl⟩
    | _ => cases hrows
  · cases hp

section Induction

variable {P : Validator → Prop}

mutual
/-- Induction over a validator by the entries of its rows. -/
theorem induction (step : ∀ v, (∀ path value, ∀ p ∈ v.entries path value, P p.validator) → P v) :
    ∀ v, P v
  | ⟨_, _, _, rules, _, _, _⟩ => step _ fun _ _ p hp => by
    obtain ⟨maps, hmaps, m, hm, e, he, hv⟩ := exists_rows_of_mem_entries hp
    exact hv ▸ inductionRules step rules maps hmaps m hm e he
theorem inductionRules
    (step : ∀ v, (∀ path value, ∀ p ∈ v.entries path value, P p.validator) → P v) :
    ∀ (rules : List Rule) (maps : List ValidatorMap), Rule.rows maps ∈ rules →
      ∀ m ∈ maps, ∀ e ∈ m, P e.2
  | .rows first :: rest, maps, h, m, hm, e, he => by
    rcases List.mem_cons.1 h with h | h
    · exact inductionMaps step first m (Rule.rows.inj h ▸ hm) e he
    · exact inductionRules step rest maps h m hm e he
  | .shape _ :: rest, maps, h, m, hm, e, he | .minLength _ :: rest, maps, h, m, hm, e, he
  | .maxLength _ :: rest, maps, h, m, hm, e, he | .pattern _ :: rest, maps, h, m, hm, e, he
  | .email :: rest, maps, h, m, hm, e, he | .min _ :: rest, maps, h, m, hm, e, he
  | .max _ :: rest, maps, h, m, hm, e, he | .minItems _ :: rest, maps, h, m, hm, e, he
  | .maxItems _ :: rest, maps, h, m, hm, e, he | .mustBeTrue :: rest, maps, h, m, hm, e, he
  | .anyChecked :: rest, maps, h, m, hm, e, he =>
    inductionRules step rest maps (by simpa using h) m hm e he
theorem inductionMaps
    (step : ∀ v, (∀ path value, ∀ p ∈ v.entries path value, P p.validator) → P v) :
    ∀ maps : List (List (String × Validator)), ∀ m ∈ maps, ∀ e ∈ m, P e.2
  | first :: rest, m, hm, e, he => by
    rcases List.mem_cons.1 hm with h | h
    · exact inductionMap step first e (h ▸ he)
    · exact inductionMaps step rest m h e he
theorem inductionMap
    (step : ∀ v, (∀ path value, ∀ p ∈ v.entries path value, P p.validator) → P v) :
    ∀ m : List (String × Validator), ∀ e ∈ m, P e.2
  | (_, v) :: rest, e, he => by
    rcases List.mem_cons.1 he with h | h
    · rw [h]
      exact induction step v
    · exact inductionMap step rest e h
end

end Induction

/-- A part is filled in, and its value has no failed rule of the part's own. -/
def Part.passes (p : Part) : Bool :=
  !Value.isBlank p.value && p.value.any fun x => p.validator.rules.all fun r => r.accepts x

/-- The refinement of a part with the value that it is for. -/
def Part.call? (p : Part) : Option Due :=
  p.validator.refinement.bind fun refinement => p.value.map fun x => ⟨p.path, x, refinement⟩

/-- A part has a refinement, and it and all parts around it pass. -/
def Enclosed.runs (e : Enclosed) : Bool :=
  e.self.validator.refinement.isSome && (e.self :: e.around).all Part.passes

theorem Part.passes_eq (path : String) (value : Option Value) (v : Validator) :
    Part.passes ⟨path, value, v⟩ = match Value.filled? value with
      | none => false
      | some x => (v.ownErrors path x).isEmpty := by
  unfold passes
  rcases filled?_cases value with ⟨hb, hf⟩ | ⟨x, rfl, hb, hf⟩
  · rw [hf, hb]
    rfl
  · rw [hf, hb, Bool.eq_iff_iff, List.isEmpty_iff, ownErrors_eq_nil_iff]
    simp

/-- The refinements due are that of the validator and those of the entries of its rows, if the
validator passes. -/
theorem due_eq_entries (v : Validator) (path : String) (value : Option Value) :
    v.due path value = if Part.passes ⟨path, value, v⟩ then
        (Part.call? ⟨path, value, v⟩).toList ++ (v.entries path value).flatMap fun p =>
          p.validator.due p.path p.value
      else [] := by
  rw [due_eq, Part.passes_eq]
  rcases filled?_cases value with ⟨-, hf⟩ | ⟨x, rfl, -, hf⟩
  · rw [hf]
    rfl
  · have hrules : dueOfRules path x v.rules = (v.entries path (some x)).flatMap fun p =>
        p.validator.due p.path p.value := dueWalk.rules_eq v path x
    have hcall : (v.refinement.map fun refinement => Due.mk path x refinement) =
        Part.call? ⟨path, some x, v⟩ := by
      unfold Part.call?
      cases v.refinement <;> rfl
    rw [hf]
    simp only [hrules, hcall]

/-- What is due of a validator is what its parts call, as far as the parts around it pass. -/
theorem call?_parts (v : Validator) : ∀ (around : List Part) (path : String)
    (value : Option Value),
    ((v.parts around path value).filter Enclosed.runs).filterMap (·.self.call?) =
      if around.all Part.passes then v.due path value else [] := by
  induction v using induction with
  | step v ih =>
    intro around path value
    have hself : ([(⟨⟨path, value, v⟩, around⟩ : Enclosed)].filter Enclosed.runs).filterMap
        (·.self.call?) = if Part.passes ⟨path, value, v⟩ && around.all Part.passes then
          (Part.call? ⟨path, value, v⟩).toList else [] := by
      have hruns : Enclosed.runs ⟨⟨path, value, v⟩, around⟩ = (v.refinement.isSome &&
          (Part.passes ⟨path, value, v⟩ && around.all Part.passes)) := rfl
      rw [List.filter_singleton, hruns]
      cases hr : v.refinement with
      | none => simp [Part.call?, hr]
      | some refinement =>
        rw [Option.isSome_some, Bool.true_and]
        cases Part.passes ⟨path, value, v⟩ && around.all Part.passes with
        | false => rfl
        | true => cases hc : Part.call? ⟨path, value, v⟩ <;> simp [hc]
    have hentries : (((v.entries path value).flatMap fun p => p.validator.parts
        (⟨path, value, v⟩ :: around) p.path p.value).filter Enclosed.runs).filterMap
          (·.self.call?) = (v.entries path value).flatMap fun p =>
            if Part.passes ⟨path, value, v⟩ && around.all Part.passes then
              p.validator.due p.path p.value else [] := by
      rw [List.filter_flatMap, List.filterMap_flatMap]
      exact List.flatMap_congr fun p hp => ih path value p hp _ p.path p.value
    rw [parts_eq, ← List.singleton_append, List.filter_append, List.filterMap_append, hself,
      hentries, due_eq_entries]
    cases around.all Part.passes with
    | false => simp
    | true => cases Part.passes ⟨path, value, v⟩ <;> simp

theorem length_lt_of_mem_entries {v : Validator} {path : String} {value : Option Value} {p : Part}
    (hp : p ∈ v.entries path value) : path.length < p.path.length := by
  unfold entries at hp
  split at hp
  · obtain ⟨⟨⟨row, m⟩, index⟩, -, hp⟩ := List.mem_flatMap.1 hp
    obtain ⟨e, -, rfl⟩ := List.mem_map.1 hp
    exact Nat.lt_of_lt_of_le (Path.length_lt_row path index) (Path.length_le_join _ e.1)
  · cases hp

/-- Issues are found at a path or further down. -/
theorem length_le_of_mem_check (v : Validator) : ∀ {path : String} {value : Option Value}
    {i : Issue}, i ∈ v.check path value → path.length ≤ i.path.length := by
  induction v using induction with
  | step v ih =>
    intro path value i hi
    rw [check_eq_entries] at hi
    split at hi
    · unfold blankIssues at hi
      split at hi
      · rw [List.mem_singleton.1 hi]
        exact Nat.le_refl _
      · split at hi
        · rw [List.mem_singleton.1 hi]
          exact Nat.le_refl _
        · cases hi
    · split at hi
      · rw [List.mem_singleton.1 hi]
        exact Nat.le_refl _
      · rcases List.mem_append.1 hi with hi | hi
        · exact Nat.le_of_eq (congrArg String.length (isError_of_mem_ownErrors hi).2.symm)
        · obtain ⟨p, hp, hi⟩ := List.mem_flatMap.1 hi
          have hbelow := length_lt_of_mem_entries hp
          have hissue := ih _ _ p hp hi
          omega

/-- A check finds no error at a part itself that passes. -/
theorem isError_of_passes {p : Part} (h : p.passes = true) {i : Issue}
    (hi : i ∈ p.validator.check p.path p.value) (hpath : i.path = p.path) :
    i.isError = false := by
  obtain ⟨path, value, v⟩ := p
  change i ∈ v.check path value at hi
  change i.path = path at hpath
  rw [Part.passes_eq] at h
  rw [check_eq_entries] at hi
  cases hf : Value.filled? value with
  | none =>
    rw [hf] at h
    cases h
  | some x =>
    simp only [hf] at h hi
    split at hi
    · rw [List.mem_singleton.1 hi]
      rfl
    · rw [List.isEmpty_iff.1 h, List.nil_append] at hi
      obtain ⟨q, hq, hi⟩ := List.mem_flatMap.1 hi
      have hbelow := length_lt_of_mem_entries hq
      have hissue := length_le_of_mem_check q.validator hi
      rw [hpath] at hissue
      omega

mutual
/-- A validator without its refinement and without those in its rows. -/
def bare : Validator → Validator
  | ⟨label, isOptional, isSoftRequired, rules, _, message, emptyWhen⟩ =>
    ⟨label, isOptional, isSoftRequired, bareRules rules, none, message, emptyWhen⟩
def bareRules : List Rule → List Rule
  | [] => []
  | .rows maps :: rest => .rows (bareMaps maps) :: bareRules rest
  | r :: rest => r :: bareRules rest
def bareMaps : List (List (String × Validator)) → List (List (String × Validator))
  | [] => []
  | m :: rest => bareMap m :: bareMaps rest
def bareMap : List (String × Validator) → List (String × Validator)
  | [] => []
  | (rel, v) :: rest => (rel, bare v) :: bareMap rest
end

def Part.bare (p : Part) : Part := { p with validator := p.validator.bare }

def Enclosed.bare (e : Enclosed) : Enclosed := ⟨e.self.bare, e.around.map Part.bare⟩

theorem bare_eq (v : Validator) :
    v.bare = { v with rules := bareRules v.rules, refinement := none } := by
  cases v
  rw [bare]

theorem bareMap_eq (m : ValidatorMap) : bareMap m = m.map fun (rel, v) => (rel, v.bare) := by
  induction m with
  | nil => rfl
  | cons e rest ih => rw [bareMap, ih, List.map_cons]

theorem bareMaps_eq (maps : List ValidatorMap) : bareMaps maps = maps.map bareMap := by
  induction maps with
  | nil => rfl
  | cons m rest ih => rw [bareMaps, ih, List.map_cons]

/-- What does not look at row maps is the same of rules and of those without refinements. -/
theorem filterMap_bareRules {α : Type} {f : Rule → Option α}
    (hf : ∀ maps maps', f (.rows maps) = f (.rows maps')) (rules : List Rule) :
    (bareRules rules).filterMap f = rules.filterMap f := by
  induction rules with
  | nil => rfl
  | cons r rest ih =>
    cases r with
    | rows maps => rw [bareRules, List.filterMap_cons, List.filterMap_cons, hf _ maps, ih]
    | _ => exact (List.filterMap_cons ..).trans (ih ▸ (List.filterMap_cons ..).symm)

theorem ownErrors_bare (v : Validator) (path : String) (x : Value) :
    v.bare.ownErrors path x = v.ownErrors path x := by
  rw [bare_eq]
  exact congrArg (List.map _) (filterMap_bareRules (fun _ _ => rfl) v.rules)

theorem rowMaps?_bare (v : Validator) : v.bare.rowMaps? = v.rowMaps?.map bareMaps := by
  rw [bare_eq]
  unfold rowMaps?
  change (bareRules v.rules).findSome? _ = _
  induction v.rules with
  | nil => rfl
  | cons r rest ih =>
    cases r with
    | rows maps => rfl
    | _ => exact ih

theorem rowEntries_bare (base : String) (row : Value) (m : ValidatorMap) :
    rowEntries base row (bareMap m) = (rowEntries base row m).map Part.bare := by
  rw [bareMap_eq, rowEntries, rowEntries, List.map_map, List.map_map]
  rfl

theorem entries_bare (v : Validator) (path : String) (value : Option Value) :
    v.bare.entries path value = (v.entries path value).map Part.bare := by
  unfold entries
  rw [rowMaps?_bare]
  cases v.rowMaps? with
  | none => rfl
  | some maps =>
    cases value.bind Value.items? with
    | none => rfl
    | some items =>
      simp only [Option.map_some, bareMaps_eq, List.zip_map_right, List.zipIdx_map,
        List.flatMap_map, List.map_flatMap]
      exact List.flatMap_congr fun _ _ => rowEntries_bare _ _ _

/-- A check does not look at refinements. -/
theorem check_bare (v : Validator) : ∀ (path : String) (value : Option Value),
    v.bare.check path value = v.check path value := by
  induction v using induction with
  | step v ih =>
    intro path value
    rw [check_eq_entries, check_eq_entries]
    cases Value.filled? value with
    | none =>
      rw [bare_eq]
      rfl
    | some x =>
      have hentries : ((v.bare.entries path (some x)).flatMap fun p =>
          p.validator.check p.path p.value) = (v.entries path (some x)).flatMap fun p =>
            p.validator.check p.path p.value := by
        rw [entries_bare, List.flatMap_map]
        exact List.flatMap_congr fun p hp => ih path (some x) p hp p.path p.value
      have hempty : v.bare.deemsEmpty x = v.deemsEmpty x := by
        rw [bare_eq]
        rfl
      have hrecommended : v.bare.recommendedAt path = v.recommendedAt path := by
        rw [bare_eq]
        rfl
      simp only [hempty, hrecommended, ownErrors_bare, hentries]

/-- Without refinements there are the same parts, without theirs. -/
theorem parts_bare (v : Validator) : ∀ (around : List Part) (path : String)
    (value : Option Value), v.bare.parts (around.map Part.bare) path value =
      (v.parts around path value).map Enclosed.bare := by
  induction v using induction with
  | step v ih =>
    intro around path value
    rw [parts_eq, parts_eq, List.map_cons, entries_bare, List.flatMap_map, List.map_flatMap]
    congr 1
    refine List.flatMap_congr fun p hp => ?_
    exact ih path value p hp (⟨path, value, v⟩ :: around) p.path p.value

theorem Part.passes_bare (p : Part) : p.bare.passes = p.passes := by
  obtain ⟨path, value, v⟩ := p
  change Part.passes ⟨path, value, v.bare⟩ = _
  simp only [Part.passes_eq, ownErrors_bare]

/-- What a part adds to the issues of a check: its refinement runs, and finds something wrong or
breaks. -/
def Enclosed.finding? (e : Enclosed) : Option Issue :=
  if e.runs then
    match e.self.validator.refinement, e.self.value with
    | some refine, some x =>
      match refine x with
      | .ok none => none
      | .ok (some message) => some ⟨e.self.path, message, .error⟩
      | .error f => some ⟨e.self.path, "could not be verified: " ++ f.message, .error⟩
    | _, _ => none
  else none

/-- The refinement of a part is called, and on the part's own value. -/
structure Enclosed.Calls (e : Enclosed) (d : Due) : Prop where
  path : d.path = e.self.path
  value : e.self.value = some d.value
  refinement : e.self.validator.refinement = some d.refinement

/-- Two parts for the same value that differ in refinements alone. With the same refinement of
their own they come to the same, whatever the refinements of other parts are. -/
structure Enclosed.Counterpart (e f : Enclosed) : Prop where
  path : e.self.path = f.self.path
  value : e.self.value = f.self.value
  runs : e.self.validator.refinement.isSome = f.self.validator.refinement.isSome → e.runs = f.runs
  finding : e.self.validator.refinement = f.self.validator.refinement → e.finding? = f.finding?

theorem Enclosed.finding?_eq (e : Enclosed) :
    e.finding? = if e.runs then e.self.call?.bind Due.issue? else none := by
  unfold finding? Part.call?
  split
  · cases e.self.validator.refinement with
    | none => rfl
    | some refine => cases e.self.value <;> rfl
  · rfl

theorem Enclosed.exists_call (e : Enclosed) (h : e.runs = true) :
    ∃ d, e.self.call? = some d ∧ e.Calls d := by
  unfold runs at h
  rw [Bool.and_eq_true, List.all_cons, Bool.and_eq_true] at h
  obtain ⟨href, hpass, -⟩ := h
  obtain ⟨refine, href⟩ := Option.isSome_iff_exists.1 href
  cases hv : e.self.value with
  | none =>
    unfold Part.passes at hpass
    rw [hv] at hpass
    cases hpass
  | some x => exact ⟨⟨e.self.path, x, refine⟩, by rw [Part.call?, href, hv]; rfl, rfl, hv, href⟩

theorem Enclosed.Counterpart.of_bare {e f : Enclosed} (h : e.bare = f.bare) :
    e.Counterpart f := by
  have hself : e.self.bare = f.self.bare := congrArg Enclosed.self h
  have haround : e.around.map Part.bare = f.around.map Part.bare := congrArg Enclosed.around h
  have hpath : e.self.path = f.self.path := by
    change e.self.bare.path = f.self.bare.path
    rw [hself]
  have hvalue : e.self.value = f.self.value := by
    change e.self.bare.value = f.self.bare.value
    rw [hself]
  have hpasses : ∀ ps : List Part, ps.all Part.passes = (ps.map Part.bare).all Part.passes := by
    intro ps
    rw [List.all_map]
    exact congrArg ps.all (funext fun p => (p.passes_bare).symm)
  have hruns : e.self.validator.refinement.isSome = f.self.validator.refinement.isSome →
      e.runs = f.runs := by
    intro href
    rw [Enclosed.runs, Enclosed.runs, href, hpasses, hpasses (f.self :: f.around), List.map_cons,
      List.map_cons, hself, haround]
  refine ⟨hpath, hvalue, hruns, fun href => ?_⟩
  rw [Enclosed.finding?, Enclosed.finding?, hruns (congrArg Option.isSome href), href, hvalue,
    hpath]

theorem forall₂_filterMap {α β : Type} {R : α → β → Prop} {f : α → Option β} {xs : List α}
    (h : ∀ x ∈ xs, ∃ y, f x = some y ∧ R x y) : List.Forall₂ R xs (xs.filterMap f) := by
  induction xs with
  | nil => exact .nil
  | cons x rest ih =>
    obtain ⟨y, hy, hxy⟩ := h x List.mem_cons_self
    rw [List.filterMap_cons, hy]
    exact .cons hxy (ih fun x' hx => h x' (List.mem_cons_of_mem x hx))

/-- A validation finds what a check finds, and then in the order of the parts what their refinements
find. Those that run are the refinements of the parts that pass with all around them, each once and
on its own value; so none runs where the check finds an error at the part itself. And what one part
adds does not depend on the refinements of others. -/
theorem validate_of_parts (v : Validator) (path : String) (value : Option Value) :
    (v.validate path value).issues =
      v.check path value ++ (v.parts [] path value).filterMap Enclosed.finding? ∧
    List.Forall₂ Enclosed.Calls ((v.parts [] path value).filter Enclosed.runs)
      (v.due path value) ∧
    (∀ e ∈ v.parts [] path value, e.runs = true →
      ∀ i ∈ e.self.validator.check e.self.path e.self.value, i.path = e.self.path →
        i.isError = false) ∧
    ∀ w : Validator, w.bare = v.bare →
      w.check path value = v.check path value ∧
        List.Forall₂ Enclosed.Counterpart (v.parts [] path value) (w.parts [] path value) := by
  have hdue : v.due path value =
      ((v.parts [] path value).filter Enclosed.runs).filterMap (·.self.call?) := by
    rw [call?_parts]
    rfl
  refine ⟨?_, ?_, fun e _ hruns i hi hpath => ?_, fun w hw => ⟨?_, ?_⟩⟩
  · have hfindings : (v.due path value).filterMap Due.issue? =
        (v.parts [] path value).filterMap Enclosed.finding? := by
      rw [hdue, List.filterMap_filterMap, List.filterMap_filter]
      exact congrArg (List.filterMap · _) (funext fun e => (e.finding?_eq).symm)
    rw [validate, hfindings]
  · rw [hdue]
    exact forall₂_filterMap fun e he => e.exists_call (List.mem_filter.1 he).2
  · unfold Enclosed.runs at hruns
    rw [Bool.and_eq_true, List.all_cons, Bool.and_eq_true] at hruns
    exact isError_of_passes hruns.2.1 hi hpath
  · rw [← check_bare, hw, check_bare]
  · have hparts : (v.parts [] path value).map Enclosed.bare =
        (w.parts [] path value).map Enclosed.bare := by
      rw [← parts_bare, ← parts_bare, hw]
    rw [← List.forall₂_eq_eq_eq, List.forall₂_map_left_iff, List.forall₂_map_right_iff] at hparts
    exact hparts.imp fun _ _ => .of_bare

namespace Team

/-- Knows of one name that is taken, and breaks on all others. -/
def lookUp : Refinement
  | .str "Ann" => .ok (some "is taken")
  | _ => .error (.failed "no answer")

/-- Finds something wrong with every value. -/
def refuse : Refinement := fun _ => .ok (some "is refused")

def name : Validator := { label := "Name", refinement := some lookUp }

def adult : Validator where
  label := "Adult"
  rules := [.mustBeTrue]
  refinement := some refuse

def members (refinement : Option Refinement) : Validator where
  label := "Members"
  rules := [.rows [[("name", name), ("adult", adult)], [("name", name)]]]
  refinement := refinement

/-- Two members, the first of whom is no adult. -/
def team : Value :=
  .arr [.obj [("adult", .bool false), ("name", .str "Ann")], .obj [("name", .str "Bob")]]

end Team

open Team in
/-- The name of the first member is taken, which of the second is known by no one, and whether the
first is an adult is not looked up once the rule has failed. A refinement of the whole changes
nothing for the members. -/
theorem validate_of_parts_team :
    ((members none).validate "team" (some team)).issues =
      [⟨"team.0.adult", "Adult must be checked", .error⟩, ⟨"team.0.name", "is taken", .error⟩,
        ⟨"team.1.name", "could not be verified: plugin check failed: no answer", .error⟩] ∧
    (members (some refuse)).bare = (members none).bare ∧
    List.Forall₂ Enclosed.Counterpart ((members none).parts [] "team" (some team))
      ((members (some refuse)).parts [] "team" (some team)) := by
  have hbare : (members (some refuse)).bare = (members none).bare := by
    simp only [bare_eq, members]
  obtain ⟨hissues, -, -, hsame⟩ := validate_of_parts (members none) "team" (some team)
  refine ⟨?_, hbare, (hsame _ hbare).2⟩
  rw [hissues]
  rfl

end Validator
end FormLogic
