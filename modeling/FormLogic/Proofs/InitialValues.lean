import FormLogic.Proofs.PassInversion
import FormLogic.Proofs.WriteFaults
import FormLogic.Resolve.Initial

/-!
# The values of a fresh form

The walk that enters initial values is a sequence of writes, one for each node with a value
in the top-level scope, in document order. When the keys of the scope are apart from each
other, no write is in the way of another, and the store is told by the keys alone: an initial
value at each key, objects on the way to it, and nothing else.
-/
namespace FormLogic

open FormLogic.Path (Apart index? segments)

namespace Value

/-- Nothing is read, or an object. -/
def IsOpen (read : Option Value) : Prop := read = none ∨ ∃ fields, read = some (.obj fields)

theorem isOpen_follow_below {v : Value} {s : String} {q : List String}
    (h : IsOpen (v.follow (s :: q))) : IsOpen (((v.child? s).getD empty).follow q) := by
  rw [follow] at h
  cases hc : v.child? s with
  | some below => simpa only [hc, Option.bind_some, Option.getD_some] using h
  | none =>
    cases q with
    | nil => exact Or.inr ⟨[], rfl⟩
    | cons t rest => exact Or.inl (follow_empty_of_ne_nil (List.cons_ne_nil t rest))

theorem setOrError_eq_ok_iff {v w new : Value} {path : String} :
    v.setOrError path new = .ok w ↔ write new (segments path) v = (w, none) := by
  rw [setOrError, set]
  cases hw : write new (segments path) v with
  | mk u fault => cases fault <;> simp

theorem exists_fields_of_isOpen {v : Value} (h : IsOpen (v.follow [])) :
    ∃ fields, v = .obj fields := by
  rcases h with h | ⟨fields, h⟩
  · cases h
  · exact ⟨fields, Option.some.inj h⟩

/-- A write goes through where there are objects, or nothing yet, on its way. -/
theorem exists_write_of_isOpen (new : Value) {v : Value} {path : List String}
    (h : ∀ q, q <+: path → q ≠ path → IsOpen (v.follow q)) : ∃ w, write new path v = (w, none) := by
  cases hfault : (write new path v).2 with
  | none => exact ⟨_, Prod.ext rfl hfault⟩
  | some fault =>
    obtain ⟨passed, left, w, rfl, hw, hstops⟩ := fault_write_iff.1 hfault
    have hleft : left ≠ [] := fun hn => by rw [hn] at hstops; cases hstops
    rcases h passed (List.prefix_append _ _) (by simpa using hleft) with hnone | ⟨fields, hfields⟩
    · rw [hw] at hnone
      cases hnone
    · obtain rfl := Option.some.inj (hw.symm.trans hfields)
      exact absurd hstops (not_stops_fields rfl)

theorem exists_follow_write_above {new : Value} {q rest : List String} (hr : rest ≠ []) :
    ∀ {v w : Value}, write new (q ++ rest) v = (w, none) → IsOpen (v.follow q) →
      ∃ fields, w.follow q = some (.obj fields) := by
  induction q with
  | nil =>
    intro v w hw ho
    obtain ⟨fields, rfl⟩ := exists_fields_of_isOpen ho
    obtain ⟨s, more, rfl⟩ := List.exists_cons_of_ne_nil hr
    cases entered_of_write hw with
    | field _ _ => exact ⟨_, rfl⟩
  | cons s q ih =>
    intro v w hw ho
    obtain ⟨below, hbelow, hw⟩ := (entered_of_write hw).child?_self (by simp [hr])
    rw [follow, hbelow]
    exact ih hw (isOpen_follow_below ho)

end Value

/-- Values under keys that are apart, each given by its segments. -/
abbrev Entries := List (List String × Value)

/-- The store holds the value of each entry at its key and objects on the way there, and nothing
else. -/
structure Holds (entries : Entries) (store : Value) : Prop where
  own : ∀ e ∈ entries, ∀ rest, store.follow (e.1 ++ rest) = e.2.follow rest
  above : ∀ e ∈ entries, ∀ q, q <+: e.1 → q ≠ e.1 → ∃ fields, store.follow q = some (.obj fields)
  root : (∀ e ∈ entries, e.1 ≠ []) → ∃ fields, store = .obj fields
  nowhere : ∀ q, q ≠ [] → (∀ e ∈ entries, ¬ e.1 <+: q ∧ ¬ q <+: e.1) → store.follow q = none

namespace Holds

variable {entries : Entries} {store w new : Value} {key : List String}

theorem nil : Holds [] .empty :=
  ⟨nofun, nofun, fun _ => ⟨[], rfl⟩, fun _ hq _ => Value.follow_empty_of_ne_nil hq⟩

/-- The way to a key is open when no entry is on it. -/
theorem isOpen (h : Holds entries store) (hk : ∀ e ∈ entries, ¬ e.1 <+: key) {q : List String}
    (hq : q <+: key) : Value.IsOpen (store.follow q) := by
  by_cases hnil : q = []
  · subst hnil
    obtain ⟨fields, rfl⟩ := h.root fun e he hnil => hk e he (hnil ▸ List.nil_prefix)
    exact Or.inr ⟨fields, rfl⟩
  · -- Another entry further on keeps objects on its way, and without one nothing is stored.
    by_cases hon : ∃ e ∈ entries, q <+: e.1
    · obtain ⟨e, he, hqe⟩ := hon
      exact Or.inr (h.above e he q hqe fun heq => hk e he (heq ▸ hq))
    · refine Or.inl (h.nowhere q hnil fun e he => ⟨fun heq => hk e he (heq.trans hq), ?_⟩)
      exact fun hqe => hon ⟨e, he, hqe⟩

/-- A key that is apart from those of the entries takes a value beside them. -/
theorem write (h : Holds entries store) (hn : ∀ s ∈ key, index? s = none)
    (hd : ∀ e ∈ entries, ¬ e.1 <+: key ∧ ¬ key <+: e.1)
    (hw : Value.write new key store = (w, none)) : Holds (entries ++ [(key, new)]) w := by
  have hopen : ∀ {q}, q <+: key → Value.IsOpen (store.follow q) :=
    h.isOpen fun e he => (hd e he).1
  have habove : ∀ {q}, q <+: key → q ≠ key → ∃ fields, w.follow q = some (.obj fields) := by
    intro q hq hne
    have ho := hopen hq
    obtain ⟨rest, rfl⟩ := hq
    exact Value.exists_follow_write_above (by simpa using hne) hw ho
  -- A place is at or below the key, above it, or apart from it and then as it was.
  have hapart : ∀ {q}, ¬ key <+: q → ¬ q <+: key → w.follow q = store.follow q :=
    fun hkq hqk => Value.follow_write_of_apart (Path.apart_of_not_isPrefix hn hkq hqk) hw
  constructor
  case own =>
    intro e he rest
    rcases List.mem_append.1 he with he | he
    · have ha := (Path.apart_of_not_isPrefix hn (hd e he).2 (hd e he).1).append [] rest
      rw [List.append_nil] at ha
      rw [Value.follow_write_of_apart ha hw, h.own e he]
    · obtain rfl := List.mem_singleton.1 he
      rw [Value.follow_append, Value.follow_write_self hw, Option.bind_some]
  case above =>
    intro e he q hq hne
    rcases List.mem_append.1 he with he | he
    · by_cases hqk : q <+: key
      · exact habove hqk fun heq => (hd e he).2 (heq ▸ hq)
      · rw [hapart (fun hkq => (hd e he).2 (hkq.trans hq)) hqk]
        exact h.above e he q hq hne
    · obtain rfl := List.mem_singleton.1 he
      exact habove hq hne
  case root =>
    intro hne
    have hlast := hne (key, new) (List.mem_append_right _ List.mem_cons_self)
    obtain ⟨fields, hfields⟩ := habove List.nil_prefix (Ne.symm hlast)
    exact ⟨fields, Option.some.inj hfields⟩
  case nowhere =>
    intro q hq hout
    obtain ⟨hkq, hqk⟩ := hout (key, new) (List.mem_append_right _ List.mem_cons_self)
    rw [hapart hkq hqk]
    exact h.nowhere q hq fun e he => hout e (List.mem_append_left _ he)

/-- What is read below the root leads to a key or is read from the value of one. -/
theorem exists_of_follow (h : Holds entries store) {q : List String} (hq : q ≠ []) {v : Value}
    (hv : store.follow q = some v) : ∃ e ∈ entries,
      (q <+: e.1 ∧ q ≠ e.1) ∨ ∃ rest, q = e.1 ++ rest ∧ e.2.follow rest = some v := by
  by_cases hon : ∃ e ∈ entries, e.1 <+: q ∨ q <+: e.1
  · obtain ⟨e, he, hon⟩ := hon
    by_cases hbelow : e.1 <+: q
    · obtain ⟨rest, rfl⟩ := hbelow
      exact ⟨e, he, Or.inr ⟨rest, rfl, (h.own e he rest).symm.trans hv⟩⟩
    · have habove := hon.resolve_left hbelow
      exact ⟨e, he, Or.inl ⟨habove, fun heq => hbelow (heq ▸ List.prefix_rfl)⟩⟩
  · have hnone := h.nowhere q hq fun e he =>
      ⟨fun heq => hon ⟨e, he, Or.inl heq⟩, fun hqe => hon ⟨e, he, Or.inr hqe⟩⟩
    rw [hnone] at hv
    cases hv

end Holds

/-- What the value of a node is in a fresh form: for a leaf the default of its type, which without
the capability is the usual empty value, and for a repeater no rows, whatever default is
declared. -/
def Context.initialOf (ctx : Context) (n : Node) : Value :=
  match ctx.typeOf n with
  | some t => if t.kind = .repeater then .arr [] else t.initial n
  | none => Standard.emptyValue n

theorem Context.initialOf_of_leaf {ctx : Context} {n : Node} {t : NodeType}
    (ht : ctx.typeOf n = some t) (hk : t.kind = .leaf) : ctx.initialOf n = t.initial n := by
  simp [initialOf, ht, hk]

theorem Context.initialOf_of_repeater {ctx : Context} {n : Node} {t : NodeType}
    (ht : ctx.typeOf n = some t) (hk : t.kind = .repeater) : ctx.initialOf n = .arr [] := by
  simp [initialOf, ht, hk]

/-- The key of a node, empty if it has none. -/
def Node.ownKey (n : Node) : String := n.key?.getD ""

theorem Node.ownKey_eq {n : Node} {key : String} (h : n.key? = some key) : n.ownKey = key := by
  rw [ownKey, h, Option.getD_some]

def Context.seedOwn (ctx : Context) (parent : String) (values : Value) (n : Node) :
    Except FormError Value :=
  values.setOrError (Path.join parent n.ownKey) (ctx.initialOf n)

section Walk

variable {ctx : Context}

theorem outcome_foldlM_seed {nodes : List Node} {parent : String}
    (h : ∀ n ∈ nodes, ∀ values, (seed ctx n parent values).outcome =
      (ctx.owners n).foldlM (ctx.seedOwn parent) values) (values : Value) :
    (nodes.foldlM (fun values n => seed ctx n parent values) values).outcome =
      (ctx.scope nodes).foldlM (ctx.seedOwn parent) values := by
  induction nodes generalizing values with
  | nil => rfl
  | cons n rest ih =>
    have hscope : ctx.scope (n :: rest) = ctx.owners n ++ ctx.scope rest := List.flatMap_cons
    rw [List.foldlM_cons, Noted.outcome_bind, h n List.mem_cons_self, hscope, List.foldlM_append]
    congr 1
    funext m
    exact ih (fun c hc => h c (List.mem_cons_of_mem n hc)) m

/-- A node with a value of its own writes its initial value, if it has a key. -/
theorem outcome_seedOwn {n : Node} {k : Kind} (hk : ctx.kindOf n = some k)
    (hp : k.ownsPath = true) (parent : String) (values : Value) :
    (if ctx.owns n then
      Noted.ofExcept (values.setOrError (n.pathBelow parent (ctx.kindOf n) none)
        (ctx.initialOf n))
      else pure values).outcome = (ctx.owners n).foldlM (ctx.seedOwn parent) values := by
  cases ho : ctx.owns n with
  | true =>
    obtain ⟨key, hkey, -, hpath⟩ := Visibility.Place.exists_key { parent := parent } ho
    change n.pathBelow parent (ctx.kindOf n) none = Path.join parent key at hpath
    rw [hpath, Context.owners_of_owns ho]
    simp [Context.seedOwn, Node.ownKey, hkey, Noted.ofExcept]
  | false =>
    rw [Context.owners_of_keyless hk hp ho]
    rfl

/-- The walk writes the initial values of what a node brings into its scope. -/
theorem outcome_seed (ctx : Context) (n : Node) (parent : String) (values : Value) :
    (seed ctx n parent values).outcome = (ctx.owners n).foldlM (ctx.seedOwn parent) values := by
  induction n using Node.induction generalizing parent values with
  | step n ih =>
    have hkind : ctx.kindOf n = (ctx.typeOf n).map (·.kind) := rfl
    have howns : ctx.owns n = n.ownsSegment (ctx.kindOf n) := rfl
    -- A container hands the path of its parent on to its children.
    have hthrough : (ctx.kindOf n).map Kind.ownsPath ≠ some true →
        (n.children.foldlM (fun values c => seed ctx c (n.pathBelow parent (ctx.kindOf n) none)
          values) values).outcome = (ctx.owners n).foldlM (ctx.seedOwn parent) values := by
      intro hk
      have hpath : n.pathBelow parent (ctx.kindOf n) none = parent :=
        Visibility.Place.pathOf_of_not_owns { parent := parent } (Visibility.owns_of_container hk)
      rw [hpath, Context.owners_of_container hk, outcome_foldlM_seed fun c hc => ih c hc parent]
    rw [seed.eq_1, Node.recurse_eq, ← seed.eq_1]
    simp only [List.foldlM_map, ← hkind, ← howns]
    cases ht : ctx.typeOf n with
    | none =>
      rw [Noted.outcome_bind]
      exact hthrough (by simp [hkind, ht])
    | some t =>
      have hkt := Context.kindOf_of_typeOf ht
      cases htk : t.kind with
      | leaf =>
        have hown := outcome_seedOwn (hkt.trans (congrArg some htk)) rfl parent values
        rw [Context.initialOf_of_leaf ht htk] at hown
        simpa only [htk] using hown
      | repeater =>
        have hown := outcome_seedOwn (hkt.trans (congrArg some htk)) rfl parent values
        rw [Context.initialOf_of_repeater ht htk] at hown
        simpa only [htk] using hown
      | group | layout =>
        simp only [htk]
        exact hthrough (by simp [hkt, htk, Kind.ownsPath])

def Context.entryOf (ctx : Context) (n : Node) : List String × Value :=
  (n.segments, ctx.initialOf n)

theorem Holds.exists_seedOwn {done : List Node} {store : Value} {n : Node}
    (h : Holds (done.map ctx.entryOf) store) (hn : ∀ s ∈ n.segments, index? s = none)
    (hd : ∀ o ∈ done, ¬ o.segments <+: n.segments ∧ ¬ n.segments <+: o.segments) :
    ∃ w, ctx.seedOwn "" store n = .ok w ∧ Holds ((done ++ [n]).map ctx.entryOf) w := by
  have hentries : ∀ e ∈ done.map ctx.entryOf, ¬ e.1 <+: n.segments ∧ ¬ n.segments <+: e.1 := by
    intro e he
    obtain ⟨o, ho, rfl⟩ := List.mem_map.1 he
    exact hd o ho
  have hopen : ∀ q, q <+: n.segments → q ≠ n.segments → Value.IsOpen (store.follow q) :=
    fun q hq _ => h.isOpen (fun e he => (hentries e he).1) hq
  obtain ⟨w, hw⟩ := Value.exists_write_of_isOpen (ctx.initialOf n) hopen
  refine ⟨w, ?_, ?_⟩
  · have hpath : segments (Path.join "" n.ownKey) = n.segments := by simp [Path.join]; rfl
    rw [Context.seedOwn, Value.setOrError, Value.set, hpath, hw]
  · rw [List.map_append]
    exact h.write hn hentries hw

/-- The nodes of a clean scope are entered one after the other. -/
theorem Holds.exists_seedAll {left : List Node} : ∀ {done : List Node} {store : Value},
    Holds (done.map ctx.entryOf) store →
    (∀ o ∈ left, ∀ s ∈ o.segments, index? s = none) →
    ((done ++ left).Pairwise fun a b =>
      ¬ a.segments <+: b.segments ∧ ¬ b.segments <+: a.segments) →
    ∃ w, left.foldlM (ctx.seedOwn "") store = .ok w ∧ Holds ((done ++ left).map ctx.entryOf) w := by
  -- The nodes that were entered move to the front one by one, and the scope stays the same.
  induction left with
  | nil => exact fun h _ _ => ⟨_, rfl, by rwa [List.append_nil]⟩
  | cons n rest ih =>
    intro done store h hn hd
    have hbefore := (List.pairwise_append.1 hd).2.2
    obtain ⟨m, hm, hnext⟩ := h.exists_seedOwn (hn n List.mem_cons_self)
      fun o ho => hbefore o ho n List.mem_cons_self
    rw [List.append_cons] at hd ⊢
    obtain ⟨w, hw, hall⟩ := ih hnext (fun o ho => hn o (List.mem_cons_of_mem n ho)) hd
    refine ⟨w, ?_, hall⟩
    rw [List.foldlM_cons, hm]
    exact hw

theorem outcome_initialValues (ctx : Context) (nodes : List Node) :
    (initialValues ctx nodes).outcome = (ctx.scope nodes).foldlM (ctx.seedOwn "") .empty :=
  outcome_foldlM_seed (fun n _ => outcome_seed ctx n "") .empty

/-- The values of a fresh form hold the initial values of a clean scope, and nothing else. -/
theorem exists_initialValues {nodes : List Node} (hc : CleanScope ctx nodes) :
    ∃ store, (initialValues ctx nodes).outcome = .ok store ∧
      Holds ((ctx.scope nodes).map ctx.entryOf) store := by
  have hall : ∃ w, (ctx.scope nodes).foldlM (ctx.seedOwn "") .empty = .ok w ∧
      Holds (([] ++ ctx.scope nodes).map ctx.entryOf) w :=
    Holds.exists_seedAll .nil hc.named hc.disjoint
  obtain ⟨store, hstore, hholds⟩ := hall
  exact ⟨store, (outcome_initialValues ctx nodes).trans hstore, hholds⟩

theorem Holds.get?_ownKey {nodes : List Node} {store : Value}
    (h : Holds ((ctx.scope nodes).map ctx.entryOf) store) {o : Node} (ho : o ∈ ctx.scope nodes) :
    store.get? o.ownKey = some (ctx.initialOf o) := by
  have hown := h.own _ (List.mem_map_of_mem ho) []
  rwa [List.append_nil] at hown

end Walk

end FormLogic
