import FormLogic.Proofs.PassPlan
import FormLogic.Proofs.SortedFields
import FormLogic.Schema.Reader
import FormLogic.Schema.Writer
import Mathlib.Data.List.Forall2

/-!
# Schemas that are written and read again

What reading gives has a normal form that reads as itself: no optional attribute is null,
numeric attributes are numbers, and the attributes that are kept stand in order and have
none of the interpreted names. A bound that is no finite number is written as null and read as
absent, so it has no normal form. Reading keeps every attribute of another name, null or not, of
every node and every column.
-/
namespace FormLogic

open Fields (last?)

namespace Fields

theorem last?_entry? (key k : String) (v : Option Value) :
    last? key (Fields.entry? k v) = if key = k then v else none := by
  cases v <;> simp [Fields.entry?]

theorem last?_unless (key k : String) (v : Value) (c : Prop) [Decidable c] :
    last? key (if c then [] else [(k, v)]) = if key = k ∧ ¬ c then some v else none := by
  by_cases h : c <;> simp [h]

section Reading

variable {α : Type} {fields : Fields} {key : String} {read : Value → Option α}

/-- An optional attribute reads back, unless it is written as null. -/
theorem optional?_of_lookup {write : α → Value} {a? : Option α}
    (h : fields.lookup key = a?.map write) (hr : ∀ a ∈ a?, read (write a) = some a)
    (hn : ∀ a ∈ a?, write a ≠ .null) : fields.optional? read key = some a? := by
  unfold optional?
  rw [h]
  cases a? with
  | none => rfl
  | some a =>
    have hread := hr a rfl
    have hnull := hn a rfl
    rw [Option.map_some]
    split
    · next hw => cases hw
    · next hw => exact absurd (Option.some.inj hw) hnull
    · next v _ hw => rw [← Option.some.inj hw, hread]; rfl

theorem optional?_text {s? : Option String} (h : fields.lookup key = s?.map .str) :
    fields.optional? Value.str? key = some s? :=
  optional?_of_lookup h (fun _ _ => rfl) fun _ _ => nofun

theorem optional?_value {v? : Option Value} (h : fields.lookup key = v?) (hn : v? ≠ some .null) :
    fields.optional? some key = some v? :=
  have hlookup : fields.lookup key = v?.map id := by rw [h, Option.map_id, id]
  optional?_of_lookup hlookup (fun _ _ => rfl)
    fun v hv he => hn (by rw [Option.mem_def.1 hv, ← he]; rfl)

theorem withDefault?_of_lookup {v : Value} {default : α} (h : fields.lookup key = some v) :
    fields.withDefault? read default key = read v := by
  rw [withDefault?, h]

theorem exists_of_optional? {a : α} (h : fields.optional? read key = some (some a)) :
    ∃ v, read v = some a := by
  unfold optional? at h
  split at h
  · cases h
  · cases h
  · next v _ _ =>
    obtain ⟨b, hb, he⟩ := Option.map_eq_some_iff.1 h
    exact ⟨v, Option.some.inj he ▸ hb⟩

/-- An optional attribute that is read is not null. -/
theorem ne_null_of_optional? {v? : Option Value} (h : fields.optional? some key = some v?) :
    v? ≠ some .null := by
  unfold optional? at h
  split at h
  · cases h
    exact nofun
  · cases h
    exact nofun
  · next v hv _ =>
    cases h
    exact fun he => hv (Option.some.inj he)

/-- A walk that reads what stands first under a key reads an attribute with a default. -/
theorem eq_withDefault? {default : α} {walk : Fields → Option α} (hnil : walk [] = some default)
    (hcons : ∀ k v rest, walk ((k, v) :: rest) = if k = key then read v else walk rest) :
    walk fields = fields.withDefault? read default key := by
  rw [withDefault?]
  induction fields with
  | nil => exact hnil
  | cons entry rest ih =>
    obtain ⟨k, v⟩ := entry
    rw [hcons, ih, lookup_entry]
    by_cases hk : k = key
    · rw [if_pos hk, if_pos hk.symm]
    · rw [if_neg hk, if_neg (Ne.symm hk)]

end Reading

/-- Of an object that holds what is kept beside entries of known names, the names are left out. -/
theorem ofEntries_without {names : List String} {fields kept : Fields} (hs : Sorted fields)
    (hk : Sorted kept) (hnone : ∀ key ∈ names, kept.lookup key = none)
    (hsame : ∀ key ∉ names, fields.lookup key = kept.lookup key) :
    ofEntries (fields.without names) = kept := by
  have hw : Sorted (fields.without names) := hs.filter _
  rw [hw.ofEntries_eq]
  refine hw.ext hk fun key => ?_
  rw [lookup_without]
  split
  · next hkey => exact (hnone key hkey).symm
  · next hkey => exact hsame key hkey

end Fields

namespace Value

theorem bind_lenientCount (n? : Option Nat) : (n?.map ofNat).bind lenientCount = n? := by
  cases n? <;> simp [ofNat, lenientCount]

/-- A bound that is no finite number is written as null, which reads as no bound. -/
theorem bind_lenientBound_eq_iff {x? : Option Binary64} :
    (x?.map ofBinary64).bind lenientBound = x? ↔ x?.all Binary64.isFinite = true := by
  cases x? with
  | none => simp
  | some x =>
    rw [Option.map_some, Option.bind_some, ofBinary64, Option.all_some]
    cases hx : x.isFinite with
    | false => simp [lenientBound]
    | true => simp [lenientBound, Number.toBinary64]

theorem strings?_texts (texts : List String) : strings? (.arr (texts.map .str)) = some texts := by
  rw [strings?]
  induction texts with
  | nil => rfl
  | cons s rest ih =>
    rw [List.map_cons, List.mapM_cons, ih]
    rfl

end Value

namespace Conditional

/-- No attribute is null. -/
structure Written (c : Conditional) : Prop where
  shown : c.shown ≠ some .null
  expected : c.expected ≠ some .null

theorem ofValue?_toValue {c : Conditional} (h : c.Written) : ofValue? c.toValue = some c := by
  rw [toValue, ofValue?]
  generalize hfields : Fields.ofEntries _ = fields
  have hshown : fields.lookup "show" = c.shown := by
    simp [← hfields, Fields.lookup_ofEntries, Fields.last?_entry?]
  have hsource : fields.lookup "when" = c.source.map .str := by
    simp [← hfields, Fields.lookup_ofEntries, Fields.last?_entry?]
  have hexpected : fields.lookup "eq" = c.expected := by
    simp [← hfields, Fields.lookup_ofEntries, Fields.last?_entry?]
  simp only [Value.fieldsIn?, Option.bind_eq_bind, Option.bind_some,
    Fields.optional?_value hshown h.shown, Fields.optional?_text hsource,
    Fields.optional?_value hexpected h.expected]

theorem written_of_ofValue? {v : Value} {c : Conditional} (h : ofValue? v = some c) :
    c.Written := by
  simp only [ofValue?, Option.bind_eq_bind, Option.bind_eq_some_iff, Option.some.injEq] at h
  obtain ⟨fields, -, shown, hshown, source, -, expected, hexpected, rfl⟩ := h
  exact ⟨Fields.ne_null_of_optional? hshown, Fields.ne_null_of_optional? hexpected⟩

end Conditional

namespace Demands

/-- The bounds are absent or finite. -/
def finiteBounds (d : Demands) : Bool := d.min.all Binary64.isFinite && d.max.all Binary64.isFinite

/-- All demands read back but the bounds, which pass through what they are written as. -/
theorem ofValue?_toValue (d : Demands) : ofValue? d.toValue = some { d with
    min := (d.min.map .ofBinary64).bind Value.lenientBound
    max := (d.max.map .ofBinary64).bind Value.lenientBound } := by
  rw [toValue, ofValue?]
  generalize hfields : Fields.ofEntries _ = fields
  have hlookup : ∀ key, fields.lookup key = last? key _ := fun key => by
    rw [← hfields, Fields.lookup_ofEntries]
  simp only [Fields.last?_append, Fields.last?_entry?, Fields.last?_unless, Fields.last?_cons,
    Fields.last?_nil] at hlookup
  have hrequired : fields.lookup "required" = some (.bool d.required) := by simp [hlookup]
  have hsoft : fields.lookup "softRequired" = some (.bool d.softRequired) := by simp [hlookup]
  have hminLength : fields.lookup "minLength" = d.minLength.map .ofNat := by simp [hlookup]
  have hmaxLength : fields.lookup "maxLength" = d.maxLength.map .ofNat := by simp [hlookup]
  have hpattern : fields.lookup "pattern" = d.pattern.map .str := by simp [hlookup]
  have hmin : fields.lookup "min" = d.min.map .ofBinary64 := by simp [hlookup]
  have hmax : fields.lookup "max" = d.max.map .ofBinary64 := by simp [hlookup]
  have hminItems : fields.lookup "minItems" = d.minItems.map .ofNat := by simp [hlookup]
  have hmaxItems : fields.lookup "maxItems" = d.maxItems.map .ofNat := by simp [hlookup]
  have hmessage : fields.lookup "customMessage" = d.customMessage.map .str := by simp [hlookup]
  -- An empty list of names is left out, and read as the default.
  have hplugins : fields.withDefault? Value.strings? [] "plugins" = some d.plugins := by
    rw [Fields.withDefault?, hlookup]
    cases hp : d.plugins with
    | nil => simp
    | cons name rest => simpa using Value.strings?_texts (name :: rest)
  simp only [Value.fieldsIn?, Option.bind_eq_bind, Option.bind_some,
    Fields.withDefault?_of_lookup hrequired, Fields.withDefault?_of_lookup hsoft, Value.bool?,
    Fields.optional?_text hpattern, hplugins, Fields.optional?_text hmessage, hminLength,
    hmaxLength, hmin, hmax, hminItems, hmaxItems, Value.bind_lenientCount]

/-- Demands read back just if their bounds are finite. -/
theorem ofValue?_toValue_iff {d : Demands} :
    ofValue? d.toValue = some d ↔ d.finiteBounds = true := by
  rw [ofValue?_toValue, Option.some.injEq, finiteBounds, Bool.and_eq_true,
    ← Value.bind_lenientBound_eq_iff, ← Value.bind_lenientBound_eq_iff]
  constructor
  · exact fun h => ⟨congrArg Demands.min h, congrArg Demands.max h⟩
  · rintro ⟨hmin, hmax⟩
    rw [hmin, hmax]

end Demands

namespace Attributes

/-- No optional attribute is null, the bounds are finite, and what is kept is in order and has other
names. -/
structure Written (a : Attributes) : Prop where
  conditional : ∀ c ∈ a.conditional, c.Written
  validate : a.validate.finiteBounds = true
  defaultValue : a.defaultValue ≠ some .null
  sorted : Fields.Sorted a.extra
  kept : ∀ key ∈ fieldNames, a.extra.lookup key = none

theorem written_of_ofFields? {fields : Fields} {a : Attributes} (h : ofFields? fields = some a)
    (hb : a.validate.finiteBounds = true) : a.Written := by
  simp only [ofFields?, Option.bind_eq_bind, Option.bind_eq_some_iff, Option.some.injEq] at h
  obtain ⟨type, -, key, -, label, -, hidden, -, clearOnHide, -, conditional, hconditional,
    validate, -, multiple, -, defaultValue, hdefault, rowLabel, -, rfl⟩ := h
  refine ⟨fun c hc => ?_, hb, Fields.ne_null_of_optional? hdefault, Fields.sorted_ofEntries _,
    fun key hkey => ?_⟩
  · obtain rfl : conditional = some c := hc
    obtain ⟨v, hv⟩ := Fields.exists_of_optional? hconditional
    exact Conditional.written_of_ofValue? hv
  · rw [Fields.lookup_ofEntries, Fields.last?_without, if_pos hkey]

/-- What has another name is kept. -/
theorem lookup_extra {fields : Fields} {a : Attributes} (h : ofFields? fields = some a)
    (key : String) (hkey : key ∉ fieldNames) : a.extra.lookup key = last? key fields := by
  simp only [ofFields?, Option.bind_eq_bind, Option.bind_eq_some_iff, Option.some.injEq] at h
  obtain ⟨_, -, _, -, _, -, _, -, _, -, _, -, _, -, _, -, _, -, _, -, rfl⟩ := h
  rw [Fields.lookup_ofEntries, Fields.last?_without, if_neg hkey]

/-- The attributes read back from an object that has their entries and, beside them, those of the
children. -/
theorem ofFields?_of_lookup {a : Attributes} (h : a.Written) {fields : Fields}
    (hs : Fields.Sorted fields) (hf : ∀ key, key ≠ "components" → key ≠ "columns" →
      fields.lookup key = last? key (a.leadingEntries ++ a.trailingEntries)) :
    ofFields? fields = some a := by
  have hnamed : ∀ key ∈ fieldNames, key ≠ "components" → key ≠ "columns" →
      fields.lookup key =
        last? key (a.leadingEntries ++ Fields.entry? "rowLabel" (a.rowLabel.map .str)) := by
    intro key hkey hcomponents hcolumns
    rw [hf key hcomponents hcolumns, trailingEntries, ← List.append_assoc, Fields.last?_append,
      h.sorted.last?_eq, h.kept key hkey, Option.none_or]
  simp only [leadingEntries, Fields.last?_append, Fields.last?_entry?, Fields.last?_cons,
    Fields.last?_nil] at hnamed
  have htype : fields.lookup "type" = some (.str a.type) := by
    simp [hnamed "type" (by decide)]
  have hkey : fields.lookup "key" = a.key.map .str := by simp [hnamed "key" (by decide)]
  have hlabel : fields.lookup "label" = a.label.map .str := by simp [hnamed "label" (by decide)]
  have hhidden : fields.lookup "hidden" = some (.bool a.hidden) := by
    simp [hnamed "hidden" (by decide)]
  have hclear : fields.lookup "clearOnHide" = some (.bool a.clearOnHide) := by
    simp [hnamed "clearOnHide" (by decide)]
  have hlookup : fields.lookup "conditional" = a.conditional.map Conditional.toValue := by
    simp [hnamed "conditional" (by decide)]
  have hconditional :
      fields.optional? Conditional.ofValue? "conditional" = some a.conditional :=
    Fields.optional?_of_lookup hlookup
      (fun c hc => Conditional.ofValue?_toValue (h.conditional c hc)) fun _ _ => nofun
  have hvalidate : fields.lookup "validate" = some a.validate.toValue := by
    simp [hnamed "validate" (by decide)]
  have hmultiple : fields.lookup "multiple" = some (.bool a.multiple) := by
    simp [hnamed "multiple" (by decide)]
  have hdefault : fields.lookup "defaultValue" = a.defaultValue := by
    simp [hnamed "defaultValue" (by decide)]
  have hrow : fields.lookup "rowLabel" = a.rowLabel.map .str := by
    simp [hnamed "rowLabel" (by decide)]
  have hextra : Fields.ofEntries (fields.without fieldNames) = a.extra := by
    refine Fields.ofEntries_without hs h.sorted h.kept fun key hk => ?_
    simp only [fieldNames, List.mem_cons, List.not_mem_nil, or_false, not_or] at hk
    rw [hf key (by tauto) (by tauto), trailingEntries, leadingEntries]
    simp [Fields.last?_append, Fields.last?_entry?, Fields.last?_cons, hk, h.sorted.last?_eq]
  simp only [ofFields?, Option.bind_eq_bind, Option.bind_some, htype, Value.str?,
    Fields.optional?_text hkey, Fields.optional?_text hlabel, Value.bool?,
    Fields.withDefault?_of_lookup hhidden, Fields.withDefault?_of_lookup hclear, hconditional,
    Fields.withDefault?_of_lookup hvalidate, Demands.ofValue?_toValue_iff.2 h.validate,
    Fields.withDefault?_of_lookup hmultiple, Fields.optional?_value hdefault h.defaultValue,
    Fields.optional?_text hrow, hextra]

section Children

variable {key : String} (hkey : key = "components" ∨ key = "columns")
include hkey

theorem last?_leadingEntries (a : Attributes) : last? key a.leadingEntries = none := by
  rcases hkey with rfl | rfl <;>
    simp [leadingEntries, Fields.last?_entry?, Fields.last?_cons]

theorem Written.last?_trailingEntries {a : Attributes} (h : a.Written) :
    last? key a.trailingEntries = none := by
  rw [trailingEntries, Fields.last?_append, h.sorted.last?_eq, Fields.last?_entry?]
  rcases hkey with rfl | rfl
  · simp [h.kept "components" (by decide)]
  · simp [h.kept "columns" (by decide)]

end Children

end Attributes

/-- Read a list item by item. -/
def Value.list? {α : Type} (read : Value → Option α) (v : Value) : Option (List α) :=
  v.items?.bind fun items => items.mapM read

/-- The items of the list under a key, none if there is no list. -/
def Fields.itemsAt (key : String) (fields : Fields) : List Value :=
  ((fields.lookup key).bind Value.items?).getD []

section Items

variable {α : Type} {read : Value → Option α}

theorem mapM_eq_some_iff {items : List Value} {as : List α} :
    items.mapM read = some as ↔ List.Forall₂ (fun a v => read v = some a) as items := by
  induction items generalizing as with
  | nil => simp [eq_comm]
  | cons v rest ih =>
    simp only [List.mapM_cons, Option.bind_eq_bind, Option.bind_eq_some_iff, Option.pure_def,
      Option.some.injEq, List.forall₂_cons_right_iff, ih]
    constructor
    · rintro ⟨a, ha, as', hrest, rfl⟩
      exact ⟨a, as', ha, hrest, rfl⟩
    · rintro ⟨a, as', ha, hrest, rfl⟩
      exact ⟨a, ha, as', hrest, rfl⟩

/-- A walk that reads the items in turn. -/
theorem walk_eq_mapM {walk : List Value → Option (List α)} (hnil : walk [] = some [])
    (hcons : ∀ v rest, walk (v :: rest) = do
      let a ← read v
      let as ← walk rest
      some (a :: as)) {items : List Value} : walk items = items.mapM read := by
  induction items with
  | nil => exact hnil
  | cons v rest ih =>
    rw [hcons, ih, List.mapM_cons]
    rfl

/-- A list reads back if its items do. -/
theorem Value.list?_map {write : α → Value} {as : List α}
    (h : ∀ a ∈ as, read (write a) = some a) : list? read (.arr (as.map write)) = some as := by
  refine mapM_eq_some_iff.2 ?_
  rw [List.forall₂_map_right_iff, List.forall₂_same]
  exact h

/-- A list that is left out when it is empty reads back if its items do. -/
theorem Fields.withDefault?_listed {write : α → Value} {as : List α} {key : String}
    {fields : Fields}
    (h : fields.lookup key = if as.isEmpty then none else some (.arr (as.map write)))
    (hr : ∀ a ∈ as, read (write a) = some a) :
    fields.withDefault? (Value.list? read) [] key = some as := by
  rw [withDefault?, h]
  cases as with
  | nil => rfl
  | cons a rest => exact Value.list?_map hr

/-- What is read from a list of a field is read from its items. -/
theorem Fields.forall₂_of_withDefault? {key : String} {fields : Fields} {as : List α}
    (h : fields.withDefault? (Value.list? read) [] key = some as) :
    List.Forall₂ (fun a v => read v = some a) as (fields.itemsAt key) := by
  rw [withDefault?] at h
  rw [itemsAt]
  split at h
  · next hl =>
    obtain rfl := Option.some.inj h
    rw [hl]
    exact .nil
  · next v hl =>
    obtain ⟨items, hitems, h⟩ := Option.bind_eq_some_iff.1 h
    rw [hl, Option.bind_some, hitems]
    exact mapM_eq_some_iff.1 h

end Items

namespace Node

theorem nodes?_eq (v : Value) : nodes? v = v.list? ofValue? := by
  cases v with
  | arr items => exact walk_eq_mapM (by rw [nodesOf?]) fun v rest => by rw [nodesOf?]
  | null | bool | num | str | obj => rfl

theorem columns?_eq (v : Value) : columns? v = v.list? column? := by
  cases v with
  | arr items => exact walk_eq_mapM (by rw [columnsOf?]) fun v rest => by rw [columnsOf?]
  | null | bool | num | str | obj => rfl

theorem componentsIn?_eq (fields : Fields) :
    componentsIn? fields = fields.withDefault? (Value.list? ofValue?) [] "components" :=
  Fields.eq_withDefault? (by rw [componentsIn?]) fun k v rest => by rw [componentsIn?, nodes?_eq]

theorem columnsIn?_eq (fields : Fields) :
    columnsIn? fields = fields.withDefault? (Value.list? column?) [] "columns" :=
  Fields.eq_withDefault? (by rw [columnsIn?]) fun k v rest => by rw [columnsIn?, columns?_eq]

end Node

section Reads

variable {v : Value} {n : Node} {c : Column}

/-- What a node is read from. -/
theorem Node.reads_of_ofValue? (h : ofValue? v = some n) :
    ∃ fields : Fields, v = .obj fields ∧ Attributes.ofFields? fields = some n.toAttributes ∧
      List.Forall₂ (fun n v => ofValue? v = some n) n.components (fields.itemsAt "components") ∧
      List.Forall₂ (fun c v => column? v = some c) n.columns (fields.itemsAt "columns") := by
  cases v with
  | obj fields =>
    simp only [ofValue?, Option.bind_eq_bind, Option.bind_eq_some_iff, Option.some.injEq,
      componentsIn?_eq, columnsIn?_eq] at h
    obtain ⟨attributes, ha, components, hcomponents, columns, hcolumns, rfl⟩ := h
    exact ⟨fields, rfl, ha, Fields.forall₂_of_withDefault? hcomponents,
      Fields.forall₂_of_withDefault? hcolumns⟩
  | null | bool | num | str | arr => simp [ofValue?] at h

/-- What a column is read from. -/
theorem Column.reads_of_column? (h : Node.column? v = some c) :
    ∃ fields : Fields, v = .obj fields ∧
      c.extra = Fields.ofEntries (Fields.without ["components"] fields) ∧
      List.Forall₂ (fun n v => Node.ofValue? v = some n) c.components
        (fields.itemsAt "components") := by
  cases v with
  | obj fields =>
    simp only [Node.column?, Option.bind_eq_bind, Option.bind_eq_some_iff, Option.some.injEq,
      Node.componentsIn?_eq] at h
    obtain ⟨components, hcomponents, rfl⟩ := h
    exact ⟨fields, rfl, rfl, Fields.forall₂_of_withDefault? hcomponents⟩
  | null | bool | num | str | arr => simp [Node.column?] at h

end Reads

/-- What is kept is in order, the components apart. -/
structure Column.Written (c : Column) : Prop where
  sorted : Fields.Sorted c.extra
  kept : c.extra.lookup "components" = none

/-- The attributes of the node and of its columns read back. -/
structure Node.Written (n : Node) : Prop where
  attributes : n.toAttributes.Written
  columns : ∀ c ∈ n.columns, c.Written

def Column.toValue (c : Column) : Value :=
  .obj (Fields.ofEntries (("components", .arr (c.components.map Node.toValue)) :: c.extra))

namespace Node

theorem nodesToValues_eq_map (nodes : List Node) : nodesToValues nodes = nodes.map toValue := by
  induction nodes with
  | nil => rfl
  | cons n rest ih => rw [nodesToValues, ih, List.map_cons]

theorem columnsToValues_eq_map (columns : List Column) :
    columnsToValues columns = columns.map Column.toValue := by
  induction columns with
  | nil => rfl
  | cons c rest ih =>
    obtain ⟨components, extra⟩ := c
    rw [columnsToValues, ih, nodesToValues_eq_map, List.map_cons]
    rfl

theorem toValue_eq (n : Node) : n.toValue = .obj (Fields.ofEntries (n.leadingEntries
    ++ (if n.components.isEmpty then [] else [("components", .arr (n.components.map toValue))])
    ++ (if n.columns.isEmpty then [] else [("columns", .arr (n.columns.map Column.toValue))])
    ++ n.trailingEntries)) := by
  obtain ⟨attributes, components, columns⟩ := n
  rw [toValue, nodesToValues_eq_map, columnsToValues_eq_map]

theorem column?_toValue {c : Column} (h : c.Written)
    (hc : ∀ n ∈ c.components, ofValue? n.toValue = some n) : column? c.toValue = some c := by
  obtain ⟨components, extra⟩ := c
  rw [Column.toValue, column?]
  generalize hfields : Fields.ofEntries _ = fields
  have hlookup : ∀ key, fields.lookup key = last? key _ := fun key => by
    rw [← hfields, Fields.lookup_ofEntries]
  simp only [Fields.last?_cons, h.sorted.last?_eq] at hlookup
  have hlist : fields.lookup "components" = some (.arr (components.map toValue)) := by
    rw [hlookup, h.kept, if_pos rfl, Option.none_or]
  have hs : Fields.Sorted fields := hfields ▸ Fields.sorted_ofEntries _
  have hextra : Fields.ofEntries (Fields.without ["components"] fields) = extra := by
    refine Fields.ofEntries_without hs h.sorted (fun key hk => ?_) fun key hk => ?_
    · rw [List.mem_singleton.1 hk, h.kept]
    · rw [hlookup, if_neg (mt List.mem_singleton.2 hk), Option.or_none]
  rw [componentsIn?_eq, Fields.withDefault?_of_lookup hlist, Value.list?_map hc]
  simp only [Option.bind_eq_bind, Option.bind_some, hextra]

/-- A node reads back if its children do. -/
theorem ofValue?_toValue_of_children {n : Node} (h : n.Written)
    (hc : ∀ c ∈ n.children, ofValue? c.toValue = some c) : ofValue? n.toValue = some n := by
  rw [toValue_eq, ofValue?]
  generalize hfields : Fields.ofEntries _ = fields
  have hs : Fields.Sorted fields := hfields ▸ Fields.sorted_ofEntries _
  have hlookup : ∀ key, fields.lookup key = last? key _ := fun key => by
    rw [← hfields, Fields.lookup_ofEntries]
  simp only [Fields.last?_append, Fields.last?_unless] at hlookup
  have hattributes : Attributes.ofFields? fields = some n.toAttributes := by
    refine Attributes.ofFields?_of_lookup h.attributes hs fun key hcomponents hcolumns => ?_
    rw [hlookup, Fields.last?_append, if_neg (fun h => hcolumns h.1),
      if_neg (fun h => hcomponents h.1), Option.none_or, Option.none_or]
  have hcomponents : fields.lookup "components" =
      if n.components.isEmpty then none else some (.arr (n.components.map toValue)) := by
    simp [hlookup, h.attributes.last?_trailingEntries, Attributes.last?_leadingEntries]
  have hcolumns : fields.lookup "columns" =
      if n.columns.isEmpty then none else some (.arr (n.columns.map Column.toValue)) := by
    simp [hlookup, h.attributes.last?_trailingEntries, Attributes.last?_leadingEntries]
  have hread : ∀ c ∈ n.columns, column? c.toValue = some c := fun c hcn =>
    column?_toValue (h.columns c hcn) fun m hm =>
      hc m (List.mem_append_right _ (List.mem_flatMap.2 ⟨c, hcn, hm⟩))
  simp only [hattributes, componentsIn?_eq, columnsIn?_eq,
    Fields.withDefault?_listed hcomponents fun c hcn => hc c (List.mem_append_left _ hcn),
    Fields.withDefault?_listed hcolumns hread, Option.bind_eq_bind, Option.bind_some]
  cases n
  rfl

/-- A node reads back if all within it are in normal form. -/
theorem ofValue?_toValue {n : Node} (h : ∀ m, Within [n] m → m.Written) :
    ofValue? n.toValue = some n := by
  induction n using Node.induction with
  | step n ih =>
    refine ofValue?_toValue_of_children (h n (.top List.mem_cons_self)) fun c hc => ?_
    exact ih c hc fun m hm => h m (.of_child hc hm)

end Node

mutual
/-- The attributes of other names are the ones of the value, in the node and in all below. -/
inductive Node.Keeps : Node → Value → Prop
  | intro {n : Node} {fields : Fields}
      (kept : ∀ key ∉ Attributes.fieldNames, n.extra.lookup key = last? key fields)
      (components : List.Forall₂ Node.Keeps n.components (fields.itemsAt "components"))
      (columns : List.Forall₂ Column.Keeps n.columns (fields.itemsAt "columns")) :
      Node.Keeps n (.obj fields)
inductive Column.Keeps : Column → Value → Prop
  | intro {c : Column} {fields : Fields}
      (kept : ∀ key ≠ "components", c.extra.lookup key = last? key fields)
      (components : List.Forall₂ Node.Keeps c.components (fields.itemsAt "components")) :
      Column.Keeps c (.obj fields)
end

theorem exists_of_forall₂ {α : Type} {R : α → Value → Prop} {as : List α} {items : List Value}
    (h : List.Forall₂ R as items) {a : α} (ha : a ∈ as) : ∃ v, R a v := by
  have hboth : List.Forall₂ (fun a v => (∃ w, R a w) ∧ R a v) as items :=
    h.imp fun a v hr => ⟨⟨v, hr⟩, hr⟩
  exact ((List.forall₂_and_left as items).1 hboth).1 a ha

namespace Node

/-- The children of a node that is read are read. -/
theorem read_of_child {n c : Node} (hc : c ∈ n.children) :
    (∃ v, ofValue? v = some n) → ∃ v, ofValue? v = some c := by
  rintro ⟨v, h⟩
  obtain ⟨fields, -, -, hcomponents, hcolumns⟩ := reads_of_ofValue? h
  rcases List.mem_append.1 hc with hc | hc
  · exact exists_of_forall₂ hcomponents hc
  · obtain ⟨column, hcolumn, hc⟩ := List.mem_flatMap.1 hc
    obtain ⟨w, hw⟩ := exists_of_forall₂ hcolumns hcolumn
    obtain ⟨below, -, -, hbelow⟩ := Column.reads_of_column? hw
    exact exists_of_forall₂ hbelow hc

/-- What is read is in normal form if its bounds are finite. -/
theorem written_of_ofValue? {n : Node} {v : Value} (h : ofValue? v = some n)
    (hb : n.validate.finiteBounds = true) : n.Written := by
  obtain ⟨fields, -, ha, -, hcolumns⟩ := reads_of_ofValue? h
  refine ⟨Attributes.written_of_ofFields? ha hb, fun c hc => ?_⟩
  obtain ⟨w, hw⟩ := exists_of_forall₂ hcolumns hc
  obtain ⟨below, -, hextra, -⟩ := Column.reads_of_column? hw
  refine ⟨hextra ▸ Fields.sorted_ofEntries _, ?_⟩
  rw [hextra, Fields.lookup_ofEntries, Fields.last?_without, if_pos List.mem_cons_self]

theorem keeps_of_ofValue? {n : Node} {v : Value} (h : ofValue? v = some n) : n.Keeps v := by
  induction n using Node.induction generalizing v with
  | step n ih =>
    obtain ⟨fields, rfl, ha, hcomponents, hcolumns⟩ := reads_of_ofValue? h
    have hbelow : ∀ nodes : List Node, (∀ c ∈ nodes, c ∈ n.children) → ∀ items,
        List.Forall₂ (fun c w => ofValue? w = some c) nodes items →
          List.Forall₂ Node.Keeps nodes items := fun nodes hnodes items hread =>
      ((List.forall₂_and_left nodes items).2 ⟨hnodes, hread⟩).imp fun c w hw => ih c hw.1 hw.2
    refine .intro (Attributes.lookup_extra ha) (hbelow _ (fun c hc => ?_) _ hcomponents)
      (((List.forall₂_and_left _ _).2 ⟨fun c hc => hc, hcolumns⟩).imp fun c w hw => ?_)
    · exact List.mem_append_left _ hc
    · obtain ⟨entries, rfl, hextra, hc⟩ := Column.reads_of_column? hw.2
      refine .intro (fun key hkey => ?_) (hbelow _ (fun m hm => ?_) _ hc)
      · rw [hextra, Fields.lookup_ofEntries, Fields.last?_without,
          if_neg (mt List.mem_singleton.1 hkey)]
      · exact List.mem_append_right _ (List.mem_flatMap.2 ⟨c, hw.1, hm⟩)

end Node

namespace Schema

/-- The items that a schema is read from. -/
def items : Value → List Value
  | .arr items => items
  | .obj fields => Fields.itemsAt "components" fields
  | _ => []

/-- The attributes of other names are the ones of the value, in all nodes and columns. -/
def Keeps (s : Schema) (v : Value) : Prop := List.Forall₂ Node.Keeps s.components (items v)

/-- All bounds are absent or finite. -/
def finiteBounds (s : Schema) : Bool :=
  s.components.all fun n => n.all fun m => m.validate.finiteBounds

variable {s : Schema} {v : Value}

/-- What a schema is read from. -/
theorem reads_of_ofValue (h : ofValue v = .ok s) :
    List.Forall₂ (fun n v => Node.ofValue? v = some n) s.components (items v) := by
  cases v with
  | arr values =>
    rw [ofValue] at h
    cases hn : Node.nodes? (.arr values) with
    | none => simp [hn] at h
    | some nodes =>
      simp only [hn, Except.ok.injEq] at h
      subst h
      exact mapM_eq_some_iff.1 ((Node.nodes?_eq _).symm.trans hn)
  | obj fields =>
    rw [ofValue] at h
    cases hl : fields.lookup "components" with
    | none => simp [hl] at h
    | some w =>
      cases hn : Node.nodes? w with
      | none => simp [hl, hn] at h
      | some nodes =>
        simp only [hl, hn, Option.map_some, Except.ok.injEq] at h
        subst h
        refine Fields.forall₂_of_withDefault? ?_
        rw [Fields.withDefault?_of_lookup hl, ← Node.nodes?_eq, hn]
  | null | bool | num | str => cases h

theorem keeps_of_ofValue (h : ofValue v = .ok s) : s.Keeps v :=
  (reads_of_ofValue h).imp fun _ _ hn => Node.keeps_of_ofValue? hn

theorem ofValue_toValue_of_components
    (h : ∀ n ∈ s.components, Node.ofValue? n.toValue = some n) : ofValue s.toValue = .ok s := by
  have hn : Node.nodes? (.arr (Node.nodesToValues s.components)) = some s.components := by
    rw [Node.nodesToValues_eq_map, Node.nodes?_eq, Value.list?_map h]
  rw [toValue, ofValue]
  simp [hn]

/-- All nodes that are read with finite bounds are in normal form. -/
theorem written_of_ofValue (h : ofValue v = .ok s) (hb : s.finiteBounds = true) {n : Node}
    (hn : Node.Within s.components n) : n.Written := by
  have hread : ∃ w, Node.ofValue? w = some n := by
    refine hn.of_forall (fun m hm => ?_) fun m hm c hc => Node.read_of_child hc hm
    exact exists_of_forall₂ (reads_of_ofValue h) hm
  obtain ⟨w, hw⟩ := hread
  rw [finiteBounds, List.all_eq_true, Node.forall_within_iff] at hb
  exact Node.written_of_ofValue? hw (hb n hn)

/-- A schema that was read with finite bounds reads back from what it is written as, which is
written again as it is. Both that and what the schema was read from have the attributes of other
names that the schema keeps. -/
theorem ofValue_toValue (h : ofValue v = .ok s) (hb : s.finiteBounds = true) :
    ofValue s.toValue = .ok s ∧ (ofValue s.toValue).map toValue = .ok s.toValue ∧
      s.Keeps v ∧ s.Keeps s.toValue := by
  have hback : ofValue s.toValue = .ok s := ofValue_toValue_of_components fun n hn =>
    Node.ofValue?_toValue fun m hm => written_of_ofValue h hb (.of_mem hn hm)
  exact ⟨hback, by rw [hback]; rfl, keeps_of_ofValue h, keeps_of_ofValue hback⟩

namespace ShelfForm

/-- A list of a node with a column, with a list of demands and one of a condition, with numbers and
no numbers as texts, and with attributes that are null. -/
def form : Value :=
  .arr [.obj [
    ("columns", .arr [.obj [
      ("components", .arr [.obj [
        ("conditional", .arr [.null, .str "b", .bool true]),
        ("key", .str "a"),
        ("label", .null),
        ("placeholder", .null),
        ("type", .str "number"),
        ("validate", .obj [("max", .str "many"), ("maxLength", .str " 9 "),
          ("min", .num (.int 2))])]]),
      ("width", .null)]]),
    ("size", .num (.int 3)),
    ("type", .str "columns"),
    ("validate", .arr [.bool true, .bool false, .str " 4 "])]]

def schema : Schema :=
  { components := [{
      type := "columns"
      validate := { required := true, minLength := some 4 }
      extra := [("size", .num (.int 3))]
      columns := [{
        components := [{
          type := "number"
          key := some "a"
          conditional := some { source := some "b", expected := some (.bool true) }
          validate := { min := some (.ofInt 2), maxLength := some 9 }
          extra := [("placeholder", .null)] }]
        extra := [("width", .null)] }] }] }

end ShelfForm

open ShelfForm in
theorem ofValue_toValue_shelf : ofValue form = .ok schema ∧ schema.finiteBounds = true ∧
    ofValue schema.toValue = .ok schema ∧
      (ofValue schema.toValue).map toValue = .ok schema.toValue ∧
      schema.Keeps form ∧ schema.Keeps schema.toValue := by
  have hread : ofValue form = .ok schema := rfl
  have hbounds : schema.finiteBounds = true := by decide
  exact ⟨hread, hbounds, ofValue_toValue hread hbounds⟩

end Schema
end FormLogic
