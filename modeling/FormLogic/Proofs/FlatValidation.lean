import FormLogic.Proofs.ComposedChecks
import FormLogic.Proofs.DistinctPaths
import FormLogic.Proofs.FittingRows
import FormLogic.Proofs.PathAlgebra

/-!
# The validators of rows, laid out flat

Validators are entered under the key of their node, below the row that they are in, and
read the value from that row. Laid out flat, with every key put back below its row, they
stand for the shown instances that own a value, in the order of the tree: their paths are
those of the instances, and their issues are what the validators of the instances find in
the values at these paths.
-/
namespace FormLogic

open FormLogic.Path (segments)
open Visibility

namespace Validator

mutual
/-- The paths that a validator checks when it is run at a path: that one, then those of its rows. -/
def paths (path : String) : Validator → List String
  | ⟨_, _, _, rules, _, _, _⟩ => path :: pathsOfRules path rules
def pathsOfRules (path : String) : List Rule → List String
  | [] => []
  | .rows maps :: _ => pathsOfRows path 0 maps
  | _ :: rest => pathsOfRules path rest
def pathsOfRows (path : String) (index : Nat) : List (List (String × Validator)) → List String
  | [] => []
  | m :: rest => pathsOfRow (Path.row path index) m ++ pathsOfRows path (index + 1) rest
/-- The paths of the entries of a map that are put below `base`. -/
def pathsOfRow (base : String) : List (String × Validator) → List String
  | [] => []
  | (rel, v) :: rest => paths (Path.join base rel) v ++ pathsOfRow base rest
end

theorem paths_eq (v : Validator) (path : String) :
    v.paths path = path :: pathsOfRules path v.rules := by
  obtain ⟨label, isOptional, isSoftRequired, rules, refinement, message, emptyWhen⟩ := v
  rw [paths]

theorem pathsOfRules_append {rules : List Rule} (h : FlatRules rules) (path : String)
    (more : List Rule) : pathsOfRules path (rules ++ more) = pathsOfRules path more :=
  h.walk_append (fun hr => by rw [pathsOfRules]; exact hr) more

theorem paths_of_flat {v : Validator} (h : FlatRules v.rules) (path : String) :
    v.paths path = [path] := by
  have hnone := pathsOfRules_append h path []
  rw [List.append_nil] at hnone
  rw [paths_eq, hnone, pathsOfRules]

theorem paths_and_rows {v : Validator} (h : FlatRules v.rules) (maps : List ValidatorMap)
    (path : String) : (v.and (.rows maps)).paths path = path :: pathsOfRows path 0 maps := by
  rw [paths_eq]
  change path :: pathsOfRules path (v.rules ++ [.rows maps]) = _
  rw [pathsOfRules_append h, pathsOfRules]

theorem pathsOfRow_append (base : String) (m more : ValidatorMap) :
    pathsOfRow base (m ++ more) = pathsOfRow base m ++ pathsOfRow base more := by
  induction m with
  | nil => rfl
  | cons e rest ih =>
    obtain ⟨rel, v⟩ := e
    rw [List.cons_append, pathsOfRow, pathsOfRow, ih, List.append_assoc]

theorem pathsOfRow_singleton (base rel : String) (v : Validator) :
    pathsOfRow base [(rel, v)] = v.paths (Path.join base rel) := by
  rw [pathsOfRow, pathsOfRow, List.append_nil]

end Validator

/-- The paths that a map of validators checks: its keys, each with the paths of its rows. -/
def ValidatorMap.flatPaths (m : ValidatorMap) : List String := Validator.pathsOfRow "" m

/-- The issues of a map of validators, each checked with the value at its key. -/
def ValidatorMap.checkAll (m : ValidatorMap) (values : Value) : List Issue :=
  m.flatMap fun (path, v) => v.check path (values.get? path)

theorem ValidatorMap.checkAll_eq (m : ValidatorMap) (values : Value) :
    m.checkAll values = Validator.checkRow "" values m := by
  induction m with
  | nil => rw [Validator.checkRow]; rfl
  | cons e rest ih =>
    obtain ⟨path, v⟩ := e
    rw [Validator.checkRow, ← ih]
    rfl

/-- The shown instances of a tree that own a value, in its order. -/
def shownOwners (is : List Instance) : List Instance :=
  (Instance.flattenAll is).filter fun i => i.ownsValue && !i.hidden

/-- What the validator of an instance finds in its value, rows apart. -/
def Instance.ownIssues (ctx : Context) (values : Value) (i : Instance) : List Issue :=
  match (Instance.ownValidator ctx i.node).outcome with
  | .ok (some v) => v.check i.path (values.get? i.path)
  | _ => []

theorem Instance.ownIssues_eq {ctx : Context} {values : Value} {i : Instance} {v : Validator}
    (h : (Instance.ownValidator ctx i.node).outcome = .ok (some v)) :
    i.ownIssues ctx values = v.check i.path (values.get? i.path) := by
  rw [ownIssues, h]

section Shown

variable {i : Instance}

theorem shownOwners_of_not_owns (ho : i.ownsValue = false) (hc : i.children = [])
    (hr : i.rows = []) : shownOwners [i] = [] := by
  rw [shownOwners, Instance.filter_flattenAll_singleton, ho, hc, hr]
  rfl

theorem shownOwners_of_container (ho : i.ownsValue = false) (hr : i.rows = []) :
    shownOwners [i] = shownOwners i.children := by
  rw [shownOwners, Instance.filter_flattenAll_singleton, ho, hr, List.flatMap_nil,
    List.append_nil]
  rfl

theorem shownOwners_of_owns (hh : i.hidden = false) (ho : i.ownsValue = true)
    (hc : i.children = []) : shownOwners [i] = i :: i.rows.flatMap shownOwners := by
  rw [shownOwners, Instance.filter_flattenAll_singleton, hh, ho, hc]
  rfl

end Shown

/-- Paths and issues that are, in order, those of some instances, each of which has a validator of
its own. -/
structure Covers (ctx : Context) (values : Value) (paths : List String) (issues : List Issue)
    (owners : List Instance) : Prop where
  paths_eq : paths = owners.map (·.path)
  issues_eq : issues = owners.flatMap (Instance.ownIssues ctx values)
  built : ∀ o ∈ owners, ∃ v, (Instance.ownValidator ctx o.node).outcome = .ok (some v) ∧
    FlatRules v.rules

namespace Covers

variable {ctx : Context} {values : Value}

theorem nil : Covers ctx values [] [] [] := ⟨rfl, rfl, nofun⟩

theorem append {paths paths' : List String} {issues issues' : List Issue}
    {owners owners' : List Instance} (h : Covers ctx values paths issues owners)
    (h' : Covers ctx values paths' issues' owners') :
    Covers ctx values (paths ++ paths') (issues ++ issues') (owners ++ owners') := by
  refine ⟨?_, ?_, fun o ho => ?_⟩
  · rw [h.paths_eq, h'.paths_eq, List.map_append]
  · rw [h.issues_eq, h'.issues_eq, List.flatMap_append]
  · rcases List.mem_append.1 ho with ho | ho
    · exact h.built o ho
    · exact h'.built o ho

theorem singleton {i : Instance} {v : Validator}
    (hv : (Instance.ownValidator ctx i.node).outcome = .ok (some v)) (hf : FlatRules v.rules) :
    Covers ctx values [i.path] (v.check i.path (values.get? i.path)) [i] := by
  refine ⟨rfl, ?_, fun o ho => ?_⟩
  · rw [List.flatMap_singleton, Instance.ownIssues_eq hv]
  · rw [List.mem_singleton.1 ho]
    exact ⟨v, hv, hf⟩

end Covers

/-- Entering an instance adds entries under keys of the nodes with a value that it brings into its
scope, and these entries cover its shown owners. -/
def Enters (ctx : Context) (values : Value) (base : String) (row : Value) (i : Instance) : Prop :=
  ∀ entered m : ValidatorMap, (i.enter ctx base entered).outcome = .ok m →
    (∀ e ∈ entered, ∀ o ∈ ctx.owners i.node, o.key? ≠ some e.1) →
    ∃ added, m = entered ++ added ∧ (∀ e ∈ added, ∃ o ∈ ctx.owners i.node, o.key? = some e.1) ∧
      Covers ctx values (Validator.pathsOfRow base added) (Validator.checkRow base row added)
        (shownOwners [i])

section Enter

variable {ctx : Context} {values : Value} {base : String} {row : Value}

/-- So does entering the instances of a clean scope. -/
theorem enters_all {is : List Instance} (hc : CleanScope ctx (is.map (·.node)))
    (h : ∀ i ∈ is, Enters ctx values base row i) {entered m : ValidatorMap}
    (hm : (Instance.enterAll ctx base is entered).outcome = .ok m)
    (hf : ∀ e ∈ entered, ∀ o ∈ ctx.scope (is.map (·.node)), o.key? ≠ some e.1) :
    ∃ added, m = entered ++ added ∧
      (∀ e ∈ added, ∃ o ∈ ctx.scope (is.map (·.node)), o.key? = some e.1) ∧
      Covers ctx values (Validator.pathsOfRow base added) (Validator.checkRow base row added)
        (shownOwners is) := by
  induction is generalizing entered with
  | nil =>
    rw [Instance.enterAll] at hm
    obtain rfl := Noted.outcome_pure_eq_ok.1 hm
    refine ⟨[], by simp, by simp, ?_⟩
    rw [Validator.pathsOfRow, Validator.checkRow]
    exact Covers.nil
  | cons i rest ih =>
    rw [Instance.enterAll] at hm
    obtain ⟨m', hm', hm⟩ := Noted.outcome_bind_eq_ok.1 hm
    have hscope : ctx.scope ((i :: rest).map (·.node)) =
        ctx.owners i.node ++ ctx.scope (rest.map (·.node)) := by
      rw [List.map_cons, ← List.singleton_append, Context.scope_append, Context.scope_singleton]
    have hdisjoint := hc.disjoint
    rw [hscope] at hf hdisjoint
    rw [List.pairwise_append] at hdisjoint
    obtain ⟨first, rfl, hkeys, hcovers⟩ := h i List.mem_cons_self _ _ hm' fun e he o ho =>
      hf e he o (List.mem_append_left _ ho)
    -- The keys of different nodes of the scope are different.
    have hfresh : ∀ e ∈ entered ++ first, ∀ o ∈ ctx.scope (rest.map (·.node)),
        o.key? ≠ some e.1 := by
      intro e he o ho hk
      rcases List.mem_append.1 he with he | he
      · exact hf e he o (List.mem_append_right _ ho) hk
      · obtain ⟨o', ho', hk'⟩ := hkeys e he
        have hseg : o'.segments = o.segments := by rw [Node.segments, Node.segments, hk, hk']
        exact (hdisjoint.2.2 o' ho' o ho).1 (hseg ▸ List.prefix_rfl)
    have hcs : CleanScope ctx ([i.node] ++ rest.map (·.node)) := hc
    obtain ⟨more, rfl, hkeys', hcovers'⟩ := ih hcs.append_right
      (fun j hj => h j (List.mem_cons_of_mem i hj)) hm hfresh
    refine ⟨first ++ more, List.append_assoc _ _ _, fun e he => ?_, ?_⟩
    · rw [hscope]
      rcases List.mem_append.1 he with he | he
      · obtain ⟨o, ho, hk⟩ := hkeys e he
        exact ⟨o, List.mem_append_left _ ho, hk⟩
      · obtain ⟨o, ho, hk⟩ := hkeys' e he
        exact ⟨o, List.mem_append_right _ ho, hk⟩
    · rw [Validator.pathsOfRow_append, Validator.checkRow_append, shownOwners,
        Instance.filter_flattenAll_cons]
      exact hcovers.append hcovers'

/-- Rows are checked each with its own map. -/
theorem covers_rows {path : String} {rows : List (List Instance)} {items : List Value}
    (hlen : rows.length = items.length) {index : Nat}
    (h : ∀ j r item, rows[j]? = some r → items[j]? = some item → ∀ {m : ValidatorMap},
      (Instance.enterAll ctx (Path.row path (index + j)) r []).outcome = .ok m →
      Covers ctx values (Validator.pathsOfRow (Path.row path (index + j)) m)
        (Validator.checkRow (Path.row path (index + j)) item m) (shownOwners r))
    {maps : List ValidatorMap}
    (hm : (Instance.enterRows ctx path index rows).outcome = .ok maps) :
    Covers ctx values (Validator.pathsOfRows path index maps)
      (Validator.checkRows path index items maps) (rows.flatMap shownOwners) := by
  induction rows generalizing index items maps with
  | nil =>
    rw [Instance.enterRows] at hm
    obtain rfl := Noted.outcome_pure_eq_ok.1 hm
    rw [Validator.pathsOfRows, Validator.checkRows]
    exact Covers.nil
  | cons r rest ih =>
    cases items with
    | nil => cases hlen
    | cons item items =>
      rw [Instance.enterRows] at hm
      obtain ⟨m, hrow, hm⟩ := Noted.outcome_bind_eq_ok.1 hm
      obtain ⟨more, hrest, hm⟩ := Noted.outcome_bind_eq_ok.1 hm
      obtain rfl := Noted.outcome_pure_eq_ok.1 hm
      rw [Validator.pathsOfRows, Validator.checkRows, List.flatMap_cons]
      refine (h 0 r item rfl rfl hrow).append
        (ih (Nat.succ.inj hlen) (fun j r' item' hr hi {m'} hm' => ?_) hrest)
      have hindex : index + 1 + j = index + (j + 1) := by omega
      rw [hindex] at hm' ⊢
      exact h (j + 1) r' item' hr hi hm'

theorem enter_of_hidden {i : Instance} (h : i.hidden = true) (entered : ValidatorMap) :
    i.enter ctx base entered = pure entered := by
  obtain ⟨node, kind, path, hidden, children, rows⟩ := i
  simp only [Instance.enter]
  rw [if_pos h]

theorem enter_of_leaf {i : Instance} (h : i.hidden = false) (hk : i.kind = some .leaf)
    (entered : ValidatorMap) :
    i.enter ctx base entered = if i.ownsValue then do
        let v? ← Instance.ownValidator ctx i.node
        match v? with
        | some v => pure (entered.insert (Path.relative base i.path) v)
        | none => pure entered
      else pure entered := by
  obtain ⟨node, kind, path, hidden, children, rows⟩ := i
  obtain rfl : kind = some .leaf := hk
  simp only [Instance.enter]
  rw [if_neg (by simp [show hidden = false from h])]
  rfl

theorem enter_of_repeater {i : Instance} (h : i.hidden = false) (hk : i.kind = some .repeater)
    (entered : ValidatorMap) :
    i.enter ctx base entered = if i.ownsValue then do
        let v? ← Instance.ownValidator ctx i.node
        let maps ← Instance.enterRows ctx i.path 0 i.rows
        pure (entered.insert (Path.relative base i.path)
          ((v?.getD (Instance.bareValidator i.node)).and (.rows maps)))
      else pure entered := by
  obtain ⟨node, kind, path, hidden, children, rows⟩ := i
  obtain rfl : kind = some .repeater := hk
  simp only [Instance.enter]
  rw [if_neg (by simp [show hidden = false from h])]
  rfl

theorem enter_of_container {i : Instance} (h : i.hidden = false)
    (hk : i.kind.map Kind.ownsPath ≠ some true) (entered : ValidatorMap) :
    i.enter ctx base entered = Instance.enterAll ctx base i.children entered := by
  obtain ⟨node, kind, path, hidden, children, rows⟩ := i
  simp only [Instance.enter]
  rw [if_neg (by simp [show hidden = false from h])]
  cases kind with
  | none => rfl
  | some k => cases k <;> first | rfl | exact absurd rfl hk

section Owner

variable {i : Instance} {t : NodeType} {isEmpty : Option Value → Bool}
  {rules : Node → Except FormError (List Rule)}

/-- An instance that enters nothing and shows no owner. -/
theorem enters_of_pure (h : ∀ entered, i.enter ctx base entered = pure entered)
    (hs : shownOwners [i] = []) : Enters ctx values base row i := by
  intro entered m hm _
  rw [h entered] at hm
  obtain rfl := Noted.outcome_pure_eq_ok.1 hm
  refine ⟨[], by simp, by simp, ?_⟩
  rw [Validator.pathsOfRow, Validator.checkRow, hs]
  exact Covers.nil

theorem enters_of_container (hh : i.hidden = false)
    (hk : i.kind.map Kind.ownsPath ≠ some true) (ho : i.ownsValue = false) (hr : i.rows = [])
    (howners : ctx.owners i.node = ctx.scope (i.children.map (·.node)))
    (hc : CleanScope ctx (i.children.map (·.node)))
    (h : ∀ c ∈ i.children, Enters ctx values base row c) : Enters ctx values base row i := by
  intro entered m hm hf
  rw [enter_of_container hh hk] at hm
  rw [howners] at hf ⊢
  rw [shownOwners_of_container ho hr]
  exact enters_all hc h hm hf

/-- An instance whose own entry covers what is shown at and below it. -/
theorem enters_of_entry (ho : ctx.owns i.node = true)
    (hkey : ∃ key, i.node.key? = some key ∧ key ≠ "" ∧ i.path = Path.join base key)
    (hrow : values.follow (segments base) = some row)
    (h : ∀ {entered m : ValidatorMap}, (i.enter ctx base entered).outcome = .ok m →
      ∃ v : Validator, m = entered.insert (Path.relative base i.path) v ∧
        Covers ctx values (v.paths i.path) (v.check i.path (values.get? i.path))
          (shownOwners [i])) : Enters ctx values base row i := by
  intro entered m hm hf
  obtain ⟨v, rfl, hcovers⟩ := h hm
  obtain ⟨key, hkey, hne, hpath⟩ := hkey
  have howner : i.node ∈ ctx.owners i.node := by
    rw [Context.owners_of_owns ho]
    exact List.mem_cons_self
  rw [hpath, Path.relative_join base hne, ValidatorMap.insert_of_fresh fun e he hk =>
    hf e he i.node howner (hkey.trans (congrArg some hk.symm))]
  refine ⟨[(key, v)], rfl, fun e he => ⟨i.node, howner, ?_⟩, ?_⟩
  · rw [List.mem_singleton.1 he, hkey]
  · have hread : row.get? key = values.get? i.path := by
      rw [hpath, Value.get?_join, show values.get? base = some row from hrow]
      rfl
    rw [Validator.pathsOfRow_singleton, Validator.checkRow_singleton, hread, ← hpath]
    exact hcovers

theorem enters_of_leaf (ht : ctx.typeOf i.node = some t) (hj : Judges t isEmpty rules)
    (hk : i.kind = some .leaf) (hh : i.hidden = false) (hown : i.ownsValue = true)
    (hc : i.children = []) (hr : i.rows = []) (ho : ctx.owns i.node = true)
    (hkey : ∃ key, i.node.key? = some key ∧ key ≠ "" ∧ i.path = Path.join base key)
    (hrow : values.follow (segments base) = some row) : Enters ctx values base row i := by
  refine enters_of_entry ho hkey hrow fun {entered m} hm => ?_
  rw [enter_of_leaf hh hk, if_pos hown] at hm
  obtain ⟨v?, hv, hm⟩ := Noted.outcome_bind_eq_ok.1 hm
  obtain ⟨v, rfl, hvalid⟩ := exists_validator ht hj hv
  obtain rfl := Noted.outcome_pure_eq_ok.1 hm
  have hflat := hj.flat hvalid.rules
  refine ⟨v, rfl, ?_⟩
  rw [Validator.paths_of_flat hflat, shownOwners_of_owns hh hown hc, hr]
  exact Covers.singleton hv hflat

theorem enters_of_repeater (ht : ctx.typeOf i.node = some t) (hj : Judges t isEmpty rules)
    (htk : t.kind = .repeater) (hk : i.kind = some .repeater) (hh : i.hidden = false)
    (hown : i.ownsValue = true) (hc : i.children = [])
    (hlen : i.rows.length = rowCount values i.path)
    (hrows : ∀ {items}, values.get? i.path = some (.arr items) → ∀ j r item,
      i.rows[j]? = some r → items[j]? = some item → ∀ {m : ValidatorMap},
      (Instance.enterAll ctx (Path.row i.path j) r []).outcome = .ok m →
      Covers ctx values (Validator.pathsOfRow (Path.row i.path j) m)
        (Validator.checkRow (Path.row i.path j) item m) (shownOwners r))
    (ho : ctx.owns i.node = true)
    (hkey : ∃ key, i.node.key? = some key ∧ key ≠ "" ∧ i.path = Path.join base key)
    (hrow : values.follow (segments base) = some row) : Enters ctx values base row i := by
  refine enters_of_entry ho hkey hrow fun {entered m} hm => ?_
  rw [enter_of_repeater hh hk, if_pos hown] at hm
  obtain ⟨v?, hv, hm⟩ := Noted.outcome_bind_eq_ok.1 hm
  obtain ⟨v, rfl, hvalid⟩ := exists_validator ht hj hv
  obtain ⟨maps, hmaps, hm⟩ := Noted.outcome_bind_eq_ok.1 hm
  obtain rfl := Noted.outcome_pure_eq_ok.1 hm
  have hflat := hj.flat hvalid.rules
  have hself : Covers ctx values [i.path] (v.check i.path (values.get? i.path)) [i] :=
    Covers.singleton hv hflat
  refine ⟨v.and (.rows maps), rfl, ?_⟩
  rw [Validator.paths_and_rows hflat, shownOwners_of_owns hh hown hc]
  -- A value without rows has no instances in rows and no maps for them.
  have hnone : rowCount values i.path = 0 → i.rows = [] ∧ maps = [] := by
    intro h0
    have hr : i.rows = [] := List.eq_nil_of_length_eq_zero (hlen.trans h0)
    rw [hr, Instance.enterRows] at hmaps
    exact ⟨hr, (Noted.outcome_pure_eq_ok.1 hmaps).symm⟩
  rcases Validator.filled?_cases (values.get? i.path) with ⟨hb, -⟩ | ⟨x, hx, hb, -⟩
  · obtain ⟨hr, rfl⟩ := hnone (rowCount_of_blank hb)
    rw [hr, Validator.check_of_blank v _ _ hb, ← Validator.check_of_flat hflat]
    exact hself
  · have hd : v.deemsEmpty x = false := by
      rw [Validator.deemsEmpty_eq hvalid, hj.of_repeater htk, hb]
      simp
    rw [hx, Validator.check_and_rows hflat maps i.path hb hd, ← Validator.check_of_flat hflat,
      ← hx]
    refine hself.append ?_
    cases x with
    | arr items =>
      have hitems : rowCount values i.path = items.length := by simp [rowCount, hx, Value.items?]
      refine covers_rows (hlen.trans hitems) (fun j r item hr hi {m} hm => ?_) hmaps
      rw [Nat.zero_add] at hm ⊢
      exact hrows hx j r item hr hi hm
    | null | bool _ | num _ | str _ | obj _ =>
      obtain ⟨hr, rfl⟩ := hnone (by simp [rowCount, hx, Value.items?])
      rw [hr]
      exact Covers.nil

end Owner

end Enter

section Pass

variable {ctx : Context} {nodes : List Node} {before : Value} {outcome : Outcome}

theorem Context.judges_of_typeOf (hs : ctx.registry = Registry.standard) {n : Node} {t : NodeType}
    (ht : ctx.typeOf n = some t) (hk : t.kind.ownsPath = true) :
    ∃ isEmpty rules, Judges t isEmpty rules := by
  rw [Context.typeOf, hs] at ht
  exact exists_judges ht hk

theorem Visibility.VisitAt.exists_judges {l : Location} {s s' : Progress}
    (hs : ctx.registry = Registry.standard) (va : VisitAt ctx before outcome l s s')
    (ho : l.self.ownsValue = true) : ∃ t isEmpty rules, ctx.typeOf l.self.node = some t ∧
      Judges t isEmpty rules ∧ l.self.kind = some t.kind := by
  obtain ⟨t, ht, htk⟩ := va.exists_typeOf ho
  obtain ⟨isEmpty, rules, hj⟩ := Context.judges_of_typeOf hs ht htk
  exact ⟨t, isEmpty, rules, ht, hj, by rw [va.kind_eq, Context.kindOf, ht]; rfl⟩

/-- Every instance is entered so, as long as the rows have numbers that fit a word. -/
theorem enters_of_in (hs : ctx.registry = Registry.standard) (hc : Clean ctx nodes)
    (h : (run ctx nodes before).outcome = .ok outcome)
    (hfit : ∀ l : Location, l.In outcome.tree → l.self.rows.length ≤ Literal.wordMax)
    {l : Location} (hl : l.In outcome.tree) {row : Value}
    (hrow : outcome.values.follow (segments (l.place before).base) = some row) :
    Enters ctx outcome.values (l.place before).base row l.self := by
  generalize hi : l.self = i
  induction i using Instance.induction generalizing l row with
  | step i ihChildren ihRows =>
    subst hi
    obtain ⟨s, s', va⟩ := exists_visitAt hs hc h hl
    cases hh : l.self.hidden with
    | true =>
      have hnone : shownOwners [l.self] = [] :=
        filter_eq_nil_of_hidden h (fun i hi => by simp [hi]) hl hh
      exact enters_of_pure (enter_of_hidden hh) hnone
    | false =>
      cases va.visited.shaped with
      | container hk ho hcn hr =>
        have hk' : (ctx.kindOf l.self.node).map Kind.ownsPath ≠ some true := va.kind_eq ▸ hk
        have hbase : l.self.path = (l.place before).base :=
          va.visited.path_eq.trans (Place.pathOf_of_not_owns _ (owns_of_container hk'))
        have howners := Context.owners_of_container hk'
        have hclean := (va.clean.children_of_container hk').scope
        rw [← hcn] at howners hclean
        refine enters_of_container hh hk ho hr howners hclean fun c hcm => ?_
        -- The children start from the same row.
        have he := ihChildren c hcm (.child hl hcm) (hbase.symm ▸ hrow) rfl
        change Enters ctx outcome.values l.self.path row c at he
        rwa [hbase] at he
      | leaf hk hcn hr =>
        cases ho : l.self.ownsValue with
        | false =>
          refine enters_of_pure (fun entered => ?_) (shownOwners_of_not_owns ho hcn hr)
          rw [enter_of_leaf hh hk, ho]
          rfl
        | true =>
          obtain ⟨t, isEmpty, rules, ht, hj, -⟩ := va.exists_judges hs ho
          exact enters_of_leaf ht hj hk hh ho hcn hr (va.owns_node ho) (va.exists_key ho) hrow
      | keyless hk ho hcn hr =>
        refine enters_of_pure (fun entered => ?_) (shownOwners_of_not_owns ho hcn hr)
        rw [enter_of_repeater hh hk, ho]
        rfl
      | repeater hk ho hcn hr =>
        obtain ⟨t, isEmpty, rules, ht, hj, htk⟩ := va.exists_judges hs ho
        have hkind : t.kind = .repeater := Option.some.inj (htk.symm.trans hk)
        refine enters_of_repeater ht hj hkind hk hh ho hcn (va.rows_length_eq ho hk)
          (fun {items} hitems j r item hjr hji {m} hm => ?_) (va.owns_node ho)
          (va.exists_key ho) hrow
        have hmem : r ∈ l.self.rows := List.mem_of_getElem? hjr
        have hj : j < l.self.rows.length := (List.getElem?_eq_some_iff.1 hjr).1
        have hfits := Nat.le_trans (Nat.le_of_lt hj) (hfit l hl)
        have hfollow := (Value.get?_row hitems hfits).trans hji
        have hclean := (va.clean.children_of_repeater (va.kind_eq ▸ hk)).scope
        rw [← hr r hmem] at hclean
        obtain ⟨added, rfl, -, hcovers⟩ := enters_all hclean
          (fun c hcm => ihRows r hmem c hcm (.inRow hl hjr hcm) hfollow rfl) hm (by simp)
        exact hcovers

/-- The validators of the tree that a pass makes cover its shown owners, with the values that it
leaves. -/
theorem covers_of_pass (hs : ctx.registry = Registry.standard) (hc : Clean ctx nodes)
    (h : (run ctx nodes before).outcome = .ok outcome)
    (hfit : ∀ l : Location, l.In outcome.tree → l.self.rows.length ≤ Literal.wordMax)
    {m : ValidatorMap} (hm : (validatorsOf ctx outcome.tree).outcome = .ok m) :
    Covers ctx outcome.values m.flatPaths (m.checkAll outcome.values)
      (shownOwners outcome.tree) := by
  have hclean := hc.scope
  rw [← (sweep_of_run h).map_node] at hclean
  have htop : ∀ i ∈ outcome.tree, Enters ctx outcome.values "" outcome.values i :=
    fun i hi => enters_of_in hs hc h hfit (.top hi) rfl
  obtain ⟨added, hadded, -, hcovers⟩ := enters_all hclean htop hm (by simp)
  obtain rfl : m = added := hadded
  rw [ValidatorMap.checkAll_eq]
  exact hcovers

/-- No two shown owners of a tree have one path. -/
theorem nodup_shownOwners (hc : Clean ctx nodes)
    (h : (run ctx nodes before).outcome = .ok outcome) :
    ((shownOwners outcome.tree).map (·.path)).Nodup := by
  refine (nodup_ownedPaths hc h).sublist (List.Sublist.map _ ?_)
  rw [shownOwners, show (fun i : Instance => i.ownsValue && !i.hidden) =
    fun i => !i.hidden && i.ownsValue from funext fun i => Bool.and_comm _ _, ← List.filter_filter]
  exact List.filter_sublist

end Pass

namespace Engine

section Resolution

variable {engine : Engine}

/-- Laid out flat, the validators of a resolution have the paths of the shown instances that own a
value, in the order of the tree and each once. Each of these instances has a validator of its own,
and checking all entries finds what these validators find, in order. -/
theorem flat_validation (hs : engine.context.registry = Registry.standard)
    (hc : Clean engine.context engine.schema.components) {values : Value}
    (hfit : values.listsFit = true) {r : Resolution}
    (h : (engine.resolve values).outcome = .ok r) :
    r.validators.flatPaths = (shownOwners r.tree).map (·.path) ∧ r.validators.flatPaths.Nodup ∧
      (∀ i ∈ shownOwners r.tree, ∃ v,
        (Instance.ownValidator engine.context i.node).outcome = .ok (some v) ∧
          FlatRules v.rules) ∧
      (r.validators.flatMap fun (path, v) => v.check path (r.values.get? path)) =
        (shownOwners r.tree).flatMap (Instance.ownIssues engine.context r.values) := by
  obtain ⟨before, o, ho, hrows, hvalues, htree, hvalidators, -⟩ :=
    exists_pass_of_resolve hs hc hfit h
  have hcovers := covers_of_pass hs hc ho hrows hvalidators
  rw [hvalues, htree]
  refine ⟨hcovers.paths_eq, ?_, hcovers.built, hcovers.issues_eq⟩
  rw [hcovers.paths_eq]
  exact nodup_shownOwners hc ho

end Resolution

namespace PetToys

def label : Node :=
  { type := "textfield", key := some "label", validate := { required := true } }

/-- Hidden in every row. -/
def price : Node := { type := "number", key := some "price", hidden := true }

def toys : Node := { type := "editgrid", key := some "toys", components := [label, price] }

def pets : Node := { type := "editgrid", key := some "pets", components := [toys] }

def engine : Engine where
  schema := ⟨[pets]⟩
  context := ⟨Registry.standard, Conditions.declarative, none⟩
  maxPasses := 2
  maxPasses_pos := Nat.two_pos

/-- A pet without toys, and a pet with two of which the first has no label. -/
def values : Value :=
  .obj [("pets", .arr [.obj [("toys", .arr [])], .obj [("toys", .arr
    [.obj [("label", .str ""), ("price", .str "")],
      .obj [("label", .str "Ball"), ("price", .str "")]])]])]

def paths : List String :=
  ["pets", "pets.0.toys", "pets.1.toys", "pets.1.toys.0.label", "pets.1.toys.1.label"]

theorem exists_resolution : ∃ r, (engine.resolve values).outcome = .ok r ∧
    ((shownOwners r.tree).map (·.path),
      (shownOwners r.tree).flatMap (Instance.ownIssues engine.context r.values)) =
      (paths, [⟨"pets.1.toys.0.label", "label is required", .error⟩]) :=
  Noted.exists_of_toOption (engine.resolve values) (fun r => ((shownOwners r.tree).map (·.path),
    (shownOwners r.tree).flatMap (Instance.ownIssues engine.context r.values))) (by decide)

end PetToys

open PetToys in
/-- The maps of the rows have the paths of the toys, and find the label that is missing. -/
theorem flat_validation_petToys : ∃ r, (engine.resolve values).outcome = .ok r ∧
    r.validators.flatPaths = paths ∧
    (r.validators.flatMap fun (path, v) => v.check path (r.values.get? path)) =
      [⟨"pets.1.toys.0.label", "label is required", .error⟩] := by
  obtain ⟨r, hr, hall⟩ := exists_resolution
  obtain ⟨hpaths, hissues⟩ := Prod.mk.inj hall
  have hc : Clean engine.context engine.schema.components := by decide
  obtain ⟨hflat, -, -, hchecks⟩ := flat_validation rfl hc (by decide) hr
  exact ⟨r, hr, hflat.trans hpaths, hchecks.trans hissues⟩

end Engine
end FormLogic
