import FormLogic.Number.Binary64

/-!
# Values

The values a form works on: what a document in JSON notation can hold. Whole
numbers and binary64 numbers are kept apart and are never equal. The fields of an
object are a list of entries; `Fields.put` keeps a sorted list sorted and
overwrites an entry in place, so reading after writing needs no invariant.
-/
namespace FormLogic

/-- A number as written: whole, or binary64. -/
inductive Number where
  | int (n : Int)
  | float (x : Binary64)
deriving DecidableEq, Repr, Inhabited

namespace Number

/-- Equality of numbers: kinds do not mix, and the two floating zeros are equal. -/
def numEq : Number → Number → Bool
  | .int m, .int n => m == n
  | .float x, .float y => x.numEq y
  | _, _ => false

/-- A number as binary64, rounded to nearest. -/
def toBinary64 : Number → Binary64
  | .int n => .ofInt n
  | .float x => x

/-- Whole numbers a document can hold; beyond them a literal is binary64. -/
def intMin : Int := -0x8000000000000000
def intMax : Int := 0xFFFFFFFFFFFFFFFF

end Number

/-- A value: null, a scalar, a list, or an object with named fields. -/
inductive Value where
  | null
  | bool (b : Bool)
  | num (n : Number)
  | str (s : String)
  | arr (items : List Value)
  | obj (fields : List (String × Value))
deriving Inhabited, Repr

/-- The entries of an object. -/
abbrev Fields := List (String × Value)

namespace Fields

def replace (key : String) (value : Value) : Fields → Fields
  | [] => []
  | (k, v) :: rest => if k = key then (k, value) :: rest else (k, v) :: replace key value rest

/-- Add an entry before the first larger key. Keys are ordered by code point. -/
def add (key : String) (value : Value) : Fields → Fields
  | [] => [(key, value)]
  | (k, v) :: rest =>
    if key < k then (key, value) :: (k, v) :: rest else (k, v) :: add key value rest

/-- Write the entry under a key: in place if there is one, else in order. -/
def put (key : String) (value : Value) (fields : Fields) : Fields :=
  if (fields.lookup key).isSome then replace key value fields else add key value fields

theorem lookup_entry (key k : String) (v : Value) (rest : Fields) :
    List.lookup key ((k, v) :: rest) = if key = k then some v else rest.lookup key := by
  by_cases h : key = k <;> simp [List.lookup_cons, h, beq_eq_false_iff_ne.2]

theorem lookup_replace (key other : String) (value : Value) (fields : Fields) :
    (replace key value fields).lookup other =
      if other = key then (fields.lookup key).map fun _ => value else fields.lookup other := by
  induction fields with
  | nil => simp [replace]
  | cons entry rest ih =>
    obtain ⟨k, v⟩ := entry
    by_cases hk : k = key
    · subst hk
      by_cases ho : other = k <;> simp [replace, lookup_entry, ho]
    · by_cases ho : other = k
      · simp [replace, hk, ho]
      · simp [replace, hk, lookup_entry, ho, ih, Ne.symm hk]

theorem lookup_add_of_ne {key other : String} (h : other ≠ key) (value : Value) (fields : Fields) :
    (add key value fields).lookup other = fields.lookup other := by
  induction fields with
  | nil => simp [add, lookup_entry, h]
  | cons entry rest ih =>
    obtain ⟨k, v⟩ := entry
    by_cases hlt : key < k <;> simp [add, hlt, lookup_entry, h, ih]

theorem lookup_add_self {key : String} {fields : Fields} (h : fields.lookup key = none)
    (value : Value) : (add key value fields).lookup key = some value := by
  induction fields with
  | nil => simp [add]
  | cons entry rest ih =>
    obtain ⟨k, v⟩ := entry
    rw [lookup_entry] at h
    by_cases hk : key = k
    · simp [hk] at h
    · rw [if_neg hk] at h
      by_cases hlt : key < k <;> simp [add, hlt, lookup_entry, hk, ih h]

/-- What is put under a key is found there, and nothing else moves. -/
theorem lookup_put (key other : String) (value : Value) (fields : Fields) :
    (put key value fields).lookup other =
      if other = key then some value else fields.lookup other := by
  by_cases ho : other = key
  · subst ho
    cases h : fields.lookup other with
    | none => simp [put, h, lookup_add_self h]
    | some v => simp [put, h, lookup_replace]
  · rw [if_neg ho]
    unfold put
    split
    · rw [lookup_replace, if_neg ho]
    · rw [lookup_add_of_ne ho]

/-- Putting what is there changes nothing. -/
theorem put_of_lookup {key : String} {value : Value} {fields : Fields}
    (h : fields.lookup key = some value) : put key value fields = fields := by
  have hreplace : replace key value fields = fields := by
    induction fields with
    | nil => rfl
    | cons entry rest ih =>
      obtain ⟨k, v⟩ := entry
      rw [lookup_entry] at h
      by_cases hk : key = k
      · rw [if_pos hk] at h
        simp [replace, hk, Option.some.inj h]
      · rw [if_neg hk] at h
        simp [replace, Ne.symm hk, ih h]
  rw [put, h, Option.isSome_some, if_pos rfl, hreplace]

/-- Entries put in order, the last of a repeated key winning. -/
def ofEntries (entries : List (String × Value)) : Fields :=
  entries.foldl (fun fields entry => put entry.1 entry.2 fields) []

/-- Entries under other keys than those given. -/
def without (keys : List String) (fields : Fields) : Fields :=
  fields.filter fun entry => !keys.contains entry.1

end Fields

namespace Value

mutual
/-- Equality of values, numbers compared by `Number.numEq`. -/
def same : Value → Value → Bool
  | .null, .null => true
  | .bool a, .bool b => a == b
  | .num a, .num b => a.numEq b
  | .str a, .str b => a == b
  | .arr a, .arr b => sameItems a b
  | .obj a, .obj b => sameFields a b
  | _, _ => false
/-- Equality of lists, item by item. -/
def sameItems : List Value → List Value → Bool
  | [], [] => true
  | a :: as, b :: bs => a.same b && sameItems as bs
  | _, _ => false
/-- Equality of objects, entry by entry. -/
def sameFields : List (String × Value) → List (String × Value) → Bool
  | [], [] => true
  | (k, a) :: as, (l, b) :: bs => k == l && a.same b && sameFields as bs
  | _, _ => false
end

instance : BEq Value := ⟨same⟩

def empty : Value := .obj []

def isTrue : Value → Bool
  | .bool true => true
  | _ => false

def str? : Value → Option String
  | .str s => some s
  | _ => none

def items? : Value → Option (List Value)
  | .arr items => some items
  | _ => none

def fields? : Value → Option Fields
  | .obj fields => some fields
  | _ => none

/-- The field of an object; any other value has none. -/
def field? (key : String) : Value → Option Value
  | .obj fields => fields.lookup key
  | _ => none

/-- Whether a value counts as not filled in. Absent, null, the empty text, the empty list and the
empty object are blank; `false` and `0` are answers. -/
def isBlank : Option Value → Bool
  | none | some .null => true
  | some (.str s) => s.isEmpty
  | some (.arr items) => items.isEmpty
  | some (.obj fields) => fields.isEmpty
  | some (.bool _) | some (.num _) => false

/-- Whether an object of options has one that is `true`. -/
def anyChecked : Value → Bool
  | .obj fields => fields.any fun entry => entry.2.isTrue
  | _ => false

end Value
end FormLogic
