import FormLogic.Proofs.LocatedVisit

/-!
# The effect of a pass on each value

In a clean schema of standard types a pass resets what clears outside of kept rows to
its default, and leaves every other leaf as it was and every other repeater with its
rows.
-/
namespace FormLogic

open FormLogic.Path (segments)
open Visibility

/-- Every default declared at or below a node is finite, as in every document. -/
def Node.finiteDefaults : Node → Bool :=
  Node.recurse fun n below => n.defaultValue.all Value.isFinite && below.all id

theorem Node.finiteDefaults_eq (n : Node) : n.finiteDefaults =
    (n.defaultValue.all Value.isFinite && n.children.all Node.finiteDefaults) := by
  rw [finiteDefaults, Node.recurse_eq, ← finiteDefaults, List.all_map]
  rfl

/-- The value of an instance equals the default of its type. -/
def Instance.isAtDefault (ctx : Context) (values : Value) (i : Instance) : Bool :=
  match (ctx.typeOf i.node).bind (·.default) with
  | some default => values.get? i.path == some (default i.node)
  | none => false

theorem Instance.isAtDefault_eq {ctx : Context} {values : Value} {i : Instance} {t : NodeType}
    {default : Node → Value} (ht : ctx.typeOf i.node = some t) (hd : Resets t default) :
    i.isAtDefault ctx values = (values.get? i.path == some (default i.node)) := by
  simp only [isAtDefault, ht, Option.bind_some, hd.default_eq]

/-- Two reads agree, or find lists of one length. -/
def SameRows (a b : Option Value) : Prop :=
  a = b ∨ ∃ xs ys, a = some (.arr xs) ∧ b = some (.arr ys) ∧ xs.length = ys.length

namespace Visibility

section Applied

variable {t : NodeType} {default : Node → Value} {n : Node} {path : String} {state : HideState}
  {s m : Progress}

theorem Applied.eq_of_not_clear (hd : Resets t default) (hs : state.clear = false)
    (h : Applied t n path state s m) : m = s := by
  cases h with
  | kept => rfl
  | wrote hn =>
    rw [hd.replacement?_eq, hs] at hn
    cases hn

/-- What is not logged is not written. -/
theorem Applied.eq_of_unlogged (h : Applied t n path state s m) (hlog : path ∉ m.cleared) :
    m = s := by
  cases h with
  | kept => rfl
  | wrote => exact absurd (List.mem_append_right _ List.mem_cons_self) hlog

/-- What is cleared takes the default and is logged, unless it equals the default already. -/
theorem Applied.cases_of_clear (hd : Resets t default) (hs : state.clear = true)
    (h : Applied t n path state s m) :
    (m = s ∧ (s.values.get? path == some (default n)) = true) ∨
      ((s.values.get? path == some (default n)) = false ∧
        m.values.get? path = some (default n) ∧ m.cleared = s.cleared ++ [path]) := by
  have hr : ∀ current, t.replacement? n state current = some (default n) := fun current => by
    rw [hd.replacement?_eq, hs]
    rfl
  cases h with
  | kept h => exact Or.inl ⟨rfl, h _ (hr _)⟩
  | @wrote new w hn hne hw =>
    obtain rfl := Option.some.inj ((hr _).symm.trans hn)
    exact Or.inr ⟨hne, Value.follow_write_self hw, rfl⟩

end Applied

theorem get?_eq_nil_of_beq {v : Value} {path : String}
    (h : (v.get? path == some (.arr [])) = true) : v.get? path = some (.arr []) := by
  cases hv : v.get? path with
  | none => rw [hv] at h; cases h
  | some x =>
    rw [hv] at h
    rw [Value.eq_nil_of_beq h]

theorem rowCount_of_nil {v : Value} {path : String} (h : v.get? path = some (.arr [])) :
    rowCount v path = 0 := by
  simp [rowCount, h, Value.items?]

theorem rowCount_of_blank {v : Value} {path : String} (h : Value.isBlank (v.get? path) = true) :
    rowCount v path = 0 := by
  unfold rowCount
  cases hv : v.get? path with
  | none => rfl
  | some x =>
    rw [hv] at h
    cases x with
    | arr items => simpa [Value.isBlank, Value.items?] using h
    | null | bool _ | num _ | str _ | obj _ => rfl

theorem rowCount_congr {v w : Value} {path : String} (h : v.get? path = w.get? path) :
    rowCount v path = rowCount w path := by
  rw [rowCount, rowCount, h]

theorem rowCount_of_sameRows {v w : Value} {path : String}
    (h : SameRows (v.get? path) (w.get? path)) : rowCount v path = rowCount w path := by
  rcases h with h | ⟨xs, ys, hv, hw, hlen⟩
  · exact rowCount_congr h
  · simp [rowCount, hv, hw, Value.items?, hlen]

/-- Nothing is written in kept rows. -/
theorem eq_of_keep (ctx : Context) (before : Value) (n : Node) :
    ∀ {place : Place} {inherited : HideState} {s : Progress} {i : Instance} {s' : Progress},
      Yields (visit ctx before n place inherited) s i s' → place.keep = true → s' = s := by
  -- The children of a container and those of a row are kept with it.
  induction n using Node.induction with
  | step n ih =>
    intro place inherited s i s' h hk
    cases visited_of_yields h with
    | container _ hc => exact hc.eq_of_forall fun c hcn {_ _ _} hy => ih c hcn hy hk
    | leaf _ _ ha => simpa [hk] using ha
    | keyless => rfl
    | @repeater t rows m s' _ _ _ _ ha hr =>
      rw [if_neg (by simp [hk])] at ha
      subst ha
      refine hr.eq_of_forall fun index _ {_ _ _} hrow => ?_
      exact (sweep_of_mapM hrow).eq_of_forall fun c hcn {_ _ _} hy =>
        ih c hcn hy (by simp [Place.inRow, hk])

/-- Nothing is written in the rows of a hidden list. -/
theorem eq_of_hidden_rows {ctx : Context} {before : Value} {place : Place} {nodes : List Node}
    {path : String} {hidden : Bool} {state : HideState} {rows : List Nat} {s s' : Progress}
    {iss : List (List Instance)} (hh : hidden = true)
    (h : Sweep (fun j => nodes.mapM fun c =>
      visit ctx before c (place.inRow before path hidden j) state) rows s iss s') : s' = s :=
  h.eq_of_forall fun _ _ {_ _ _} hrow => (sweep_of_mapM hrow).eq_of_forall
    fun c _ {_ _ _} hy => eq_of_keep ctx before c hy (by simp [Place.inRow, hh])

/-- Rows are written at or below one of them. -/
theorem wrote_of_rows {ctx : Context} {before : Value} {place : Place} {nodes : List Node}
    {path : String} {hidden : Bool} {state : HideState} {count : Nat} {s s' : Progress}
    {iss : List (List Instance)}
    (h : Sweep (fun j => nodes.mapM fun c =>
      visit ctx before c (place.inRow before path hidden j) state) (List.range count) s iss s') :
    ∃ ws, Wrote s ws s' ∧ ∀ w ∈ ws,
      ∃ row rest, segments w.1 = segments path ++ toString row :: rest ∧ row < count := by
  obtain ⟨ws, hws, hw⟩ := h.wrote fun j _ {_ _ _} hy => wrote_of_sweep (sweep_of_mapM hy)
  refine ⟨ws, hws, fun w hm => ?_⟩
  obtain ⟨j, hj, o, ho, more, hp⟩ := hw w hm
  refine ⟨j, o.segments ++ more, ?_, List.mem_range.1 hj⟩
  rw [← hp]
  change segments (Path.row path j) ++ _ ++ _ = _
  rw [Path.segments_row]
  simp

/-- Rows keep their list a list of its length. -/
theorem sameRows_of_rows {ctx : Context} {before : Value} {place : Place} {nodes : List Node}
    {path : String} {hidden : Bool} {state : HideState} {s s' : Progress}
    {iss : List (List Instance)}
    (h : Sweep (fun j => nodes.mapM fun c =>
      visit ctx before c (place.inRow before path hidden j) state)
      (List.range (rowCount s.values path)) s iss s') :
    SameRows (s.values.get? path) (s'.values.get? path) := by
  by_cases hcount : rowCount s.values path = 0
  · rw [hcount, List.range_zero] at h
    cases h
    exact Or.inl rfl
  · obtain ⟨items, hi⟩ : ∃ items, s.values.get? path = some (.arr items) := by
      unfold rowCount at hcount
      cases hv : s.values.get? path with
      | none => simp [hv] at hcount
      | some v => cases v <;> simp [hv, Value.items?] at hcount ⊢
    have hlen : items.length = rowCount s.values path := by simp [rowCount, hi, Value.items?]
    obtain ⟨ws, hws, hw⟩ := wrote_of_rows h
    obtain ⟨items', hi', hlen'⟩ := hws.rows_kept hw hi hlen
    exact Or.inr ⟨items, items', hi, hi', hlen.trans hlen'.symm⟩

namespace VisitAt

variable {ctx : Context} {before : Value} {outcome : Outcome} {l : Location} {s s' : Progress}

theorem before_eq (va : VisitAt ctx before outcome l s s') (ho : l.self.ownsValue = true) :
    s.values.get? l.self.path = before.get? l.self.path :=
  va.earlier.follow_eq (va.beneath ho List.prefix_rfl)

theorem after_eq (va : VisitAt ctx before outcome l s s') (ho : l.self.ownsValue = true) :
    outcome.values.get? l.self.path = s'.values.get? l.self.path :=
  va.later.follow_eq (va.beneath ho List.prefix_rfl)

theorem owned (va : VisitAt ctx before outcome l s s') (ho : l.self.ownsValue = true) :
    Owned ctx before l.self.node (l.place before) l.state l.self s s' := by
  have h := va.visited.owned (va.ownsValue_eq ▸ ho)
  rwa [va.stateOf_eq] at h

theorem exists_typeOf (va : VisitAt ctx before outcome l s s') (ho : l.self.ownsValue = true) :
    ∃ t, ctx.typeOf l.self.node = some t ∧ t.kind.ownsPath = true := by
  cases va.owned ho with
  | leaf ht htk | repeater ht htk => exact ⟨_, ht, by rw [htk]; rfl⟩

/-- A list that is not logged was not written, and so its rows were visited as they were found. -/
theorem sweep_of_unlogged (va : VisitAt ctx before outcome l s s')
    (ho : l.self.ownsValue = true) (hk : l.self.kind = some .repeater)
    (hlog : l.self.path ∉ outcome.cleared) :
    Sweep (fun j => l.self.node.children.mapM fun c => visit ctx before c
      ((l.place before).inRow before l.self.path l.self.hidden j) l.state)
      (List.range (rowCount s.values l.self.path)) s l.self.rows s' := by
  cases va.owned ho with
  | leaf _ _ hleaf => rw [hk] at hleaf; cases hleaf
  | @repeater t m _ _ _ ha hr =>
    -- The log only grows, by the rows and by what is visited later.
    obtain ⟨ws, hws, -⟩ := wrote_of_rows hr
    have hunlogged : l.self.path ∉ m.cleared := fun hm => hlog <| by
      rw [va.later.mem_cleared_iff (va.beneath ho List.prefix_rfl), hws.cleared_eq]
      exact List.mem_append_left _ hm
    obtain rfl : m = s := by
      split at ha
      · exact ha
      · exact ha.eq_of_unlogged hunlogged
    exact hr

/-- There are as many rows as the list has afterwards. -/
theorem rows_length_eq (va : VisitAt ctx before outcome l s s') (ho : l.self.ownsValue = true)
    (hkind : l.self.kind = some .repeater) :
    l.self.rows.length = rowCount outcome.values l.self.path := by
  rw [rowCount_congr (va.after_eq ho)]
  cases va.owned ho with
  | leaf _ _ hleaf => rw [hkind] at hleaf; cases hleaf
  | repeater _ _ _ _ hr =>
    rw [hr.length_eq, List.length_range]
    exact rowCount_of_sameRows (sameRows_of_rows hr)

/-- What clears outside of kept rows keeps a value that equals the default, or takes the default. -/
theorem cases_of_clears (va : VisitAt ctx before outcome l s s') (ho : l.self.ownsValue = true)
    (hcl : l.clears = true) (hk : l.inKeptRows = false) {t : NodeType} {default : Node → Value}
    (ht : ctx.typeOf l.self.node = some t) (hd : Resets t default) :
    ((before.get? l.self.path == some (default l.self.node)) = true ∧
        outcome.values.get? l.self.path = before.get? l.self.path) ∨
      ((before.get? l.self.path == some (default l.self.node)) = false ∧
        outcome.values.get? l.self.path = some (default l.self.node)) := by
  rw [va.after_eq ho, ← va.before_eq ho]
  cases va.owned ho with
  | @leaf t' ht' _ _ _ ha =>
    obtain rfl := Option.some.inj (ht.symm.trans ht')
    rw [l.place_keep, hk] at ha
    rcases ha.cases_of_clear hd hcl with ⟨rfl, hb⟩ | ⟨hb, hnew, -⟩
    · exact Or.inl ⟨hb, rfl⟩
    · exact Or.inr ⟨hb, hnew⟩
  | @repeater t' m ht' htk _ ha hr =>
    obtain rfl := Option.some.inj (ht.symm.trans ht')
    rw [l.place_keep, hk] at ha
    -- A cleared list has no rows to visit.
    have hrest : (m.values.get? l.self.path == some (default l.self.node)) = true → s' = m := by
      intro hm
      rw [hd.of_repeater htk] at hm
      rw [rowCount_of_nil (get?_eq_nil_of_beq hm), List.range_zero] at hr
      exact hr.eq_of_forall fun _ hj => absurd hj List.not_mem_nil
    rcases ha.cases_of_clear hd hcl with ⟨rfl, hb⟩ | ⟨hb, hnew, -⟩
    · exact Or.inl ⟨hb, by rw [hrest hb]⟩
    · have hm : (m.values.get? l.self.path == some (default l.self.node)) = true := by
        rw [hnew, hd.of_repeater htk]
        rfl
      exact Or.inr ⟨hb, by rw [hrest hm, hnew]⟩

/-- What clears outside of kept rows is reset to its default. -/
theorem reset (hs : ctx.registry = Registry.standard) (va : VisitAt ctx before outcome l s s')
    (ho : l.self.ownsValue = true) (hf : l.self.node.finiteDefaults = true)
    (hcl : l.clears = true) (hk : l.inKeptRows = false) :
    l.self.isAtDefault ctx outcome.values = true ∧ (l.self.kind = some .repeater →
      outcome.values.get? l.self.path = some (.arr []) ∧ l.self.rows = []) := by
  obtain ⟨t, ht, htk⟩ := va.exists_typeOf ho
  obtain ⟨default, hd⟩ := Context.resets_of_typeOf hs ht htk
  have hfin : (default l.self.node).isFinite = true := hd.isFinite _ fun v hv => by
    rw [Node.finiteDefaults_eq, hv, Bool.and_eq_true] at hf
    exact hf.1
  have hafter : (outcome.values.get? l.self.path == some (default l.self.node)) = true := by
    rcases va.cases_of_clears ho hcl hk ht hd with ⟨hb, heq⟩ | ⟨-, hnew⟩
    · rwa [heq]
    · rw [hnew]
      exact Value.beq_self_of_isFinite hfin
  refine ⟨by rw [Instance.isAtDefault_eq ht hd, hafter], fun hrep => ?_⟩
  have hrepeater : t.kind = .repeater := Context.kind_of_typeOf ht (va.kind_eq.symm.trans hrep)
  rw [hd.of_repeater hrepeater] at hafter
  have hnil := get?_eq_nil_of_beq hafter
  refine ⟨hnil, List.eq_nil_of_length_eq_zero ?_⟩
  rw [va.rows_length_eq ho hrep, rowCount_of_nil hnil]

/-- A repeater that is not reset keeps its rows, and a hidden one keeps all that is in them. -/
theorem kept_repeater (hs : ctx.registry = Registry.standard)
    (va : VisitAt ctx before outcome l s s') (ho : l.self.ownsValue = true)
    (hn : l.clears = true → l.inKeptRows = true) (hkind : l.self.kind = some .repeater) :
    l.self.rows.length = rowCount before l.self.path ∧
      SameRows (before.get? l.self.path) (outcome.values.get? l.self.path) ∧
      (l.self.hidden = true → outcome.values.get? l.self.path = before.get? l.self.path) := by
  have hbefore := va.before_eq ho
  rw [va.after_eq ho, ← hbefore, ← rowCount_congr hbefore]
  cases va.owned ho with
  | leaf _ _ hleaf => rw [hkind] at hleaf; cases hleaf
  | @repeater t m ht htk _ ha hr =>
    obtain rfl : m = s := by
      rw [l.place_keep] at ha
      split at ha
      · exact ha
      · next hk =>
        obtain ⟨default, hd⟩ := Context.resets_of_typeOf hs ht (by rw [htk]; rfl)
        have hcl : l.clears = false := eq_false_of_ne_true fun hcl => hk (hn hcl)
        exact ha.eq_of_not_clear hd hcl
    refine ⟨by rw [hr.length_eq, List.length_range], sameRows_of_rows hr, fun hh => ?_⟩
    rw [eq_of_hidden_rows hh hr]

/-- There are no more rows than the list had before. -/
theorem rows_length_le (hs : ctx.registry = Registry.standard)
    (va : VisitAt ctx before outcome l s s') (ho : l.self.ownsValue = true)
    (hkind : l.self.kind = some .repeater) :
    l.self.rows.length ≤ rowCount before l.self.path := by
  rw [← rowCount_congr (va.before_eq ho)]
  cases va.owned ho with
  | leaf _ _ hleaf => rw [hkind] at hleaf; cases hleaf
  | @repeater t m ht htk _ ha hr =>
    rw [hr.length_eq, List.length_range]
    by_cases hcount : rowCount m.values l.self.path = 0
    · omega
    · obtain rfl : m = s := by
        split at ha
        · exact ha
        · obtain ⟨default, hd⟩ := Context.resets_of_typeOf hs ht (by rw [htk]; rfl)
          exact ha.eq_of_rows hd htk hcount
      exact Nat.le_refl _

theorem mem_cleared_iff_of_applied (hs : ctx.registry = Registry.standard)
    (va : VisitAt ctx before outcome l s s') (ho : l.self.ownsValue = true) {t : NodeType}
    {m : Progress} (ht : ctx.typeOf l.self.node = some t) (htk : t.kind.ownsPath = true)
    (ha : if (l.place before).keep then m = s else Applied t l.self.node l.self.path l.state s m) :
    l.self.path ∈ m.cleared ↔
      l.clears = true ∧ l.inKeptRows = false ∧ l.self.isAtDefault ctx before = false := by
  have hnone : l.self.path ∉ s.cleared := fun h =>
    List.not_mem_nil ((va.earlier.mem_cleared_iff (va.beneath ho List.prefix_rfl)).1 h)
  obtain ⟨default, hd⟩ := Context.resets_of_typeOf hs ht htk
  rw [l.place_keep] at ha
  rw [Instance.isAtDefault_eq ht hd, ← va.before_eq ho]
  cases hk : l.inKeptRows with
  | true =>
    rw [if_pos hk] at ha
    simp [ha, hnone]
  | false =>
    rw [if_neg (by simp [hk])] at ha
    cases hcl : l.clears with
    | false => simp [ha.eq_of_not_clear hd hcl, hnone]
    | true =>
      rcases ha.cases_of_clear hd hcl with ⟨rfl, hb⟩ | ⟨hb, -, hlog⟩
      · simp [hnone, hb]
      · simp [hlog, hb]

/-- The log names the values that are reset and were not the default before. -/
theorem mem_cleared_iff (hs : ctx.registry = Registry.standard)
    (va : VisitAt ctx before outcome l s s') (ho : l.self.ownsValue = true) :
    l.self.path ∈ outcome.cleared ↔
      l.clears = true ∧ l.inKeptRows = false ∧ l.self.isAtDefault ctx before = false := by
  rw [va.later.mem_cleared_iff (va.beneath ho List.prefix_rfl)]
  cases va.owned ho with
  | leaf ht htk _ _ ha => exact va.mem_cleared_iff_of_applied hs ho ht (by rw [htk]; rfl) ha
  | @repeater t m ht htk _ ha hr =>
    -- The rows are logged under longer paths.
    obtain ⟨ws, hws, hw⟩ := wrote_of_rows hr
    have hrows : l.self.path ∉ ws.map (·.1) := by
      intro hm
      obtain ⟨w, hwm, he⟩ := List.mem_map.1 hm
      obtain ⟨row, rest, hseg, -⟩ := hw w hwm
      rw [he] at hseg
      have := congrArg List.length hseg
      simp at this
    rw [hws.cleared_eq, List.mem_append, or_iff_left hrows]
    exact va.mem_cleared_iff_of_applied hs ho ht (by rw [htk]; rfl) ha

/-- A leaf that is not logged is left as it was. -/
theorem unlogged_leaf (va : VisitAt ctx before outcome l s s') (ho : l.self.ownsValue = true)
    (hkind : l.self.kind = some .leaf) (hlog : l.self.path ∉ outcome.cleared) :
    outcome.values.get? l.self.path = before.get? l.self.path := by
  rw [va.later.mem_cleared_iff (va.beneath ho List.prefix_rfl)] at hlog
  rw [va.after_eq ho, ← va.before_eq ho]
  cases va.owned ho with
  | leaf _ _ _ _ ha =>
    split at ha
    · rw [ha]
    · rw [ha.eq_of_unlogged hlog]
  | repeater _ _ hrep => rw [hkind] at hrep; cases hrep

/-- So is a leaf that is not reset. -/
theorem kept_leaf (hs : ctx.registry = Registry.standard) (va : VisitAt ctx before outcome l s s')
    (ho : l.self.ownsValue = true) (hn : l.clears = true → l.inKeptRows = true)
    (hkind : l.self.kind = some .leaf) :
    outcome.values.get? l.self.path = before.get? l.self.path := by
  refine va.unlogged_leaf ho hkind fun hlog => ?_
  obtain ⟨hcl, hk, -⟩ := (va.mem_cleared_iff hs ho).1 hlog
  rw [hn hcl] at hk
  cases hk

end VisitAt

section Pass

variable {ctx : Context} {nodes : List Node} {before : Value} {outcome : Outcome}

theorem finiteDefaults_of_in (hs : ctx.registry = Registry.standard) (hc : Clean ctx nodes)
    (hd : ∀ n ∈ nodes, n.finiteDefaults = true)
    (h : (run ctx nodes before).outcome = .ok outcome) {l : Location} (hl : l.In outcome.tree) :
    l.self.node.finiteDefaults = true := by
  refine node_of_in hs hc h (P := fun n => n.finiteDefaults = true) hd (fun n hn c hcn => ?_) hl
  rw [Node.finiteDefaults_eq, Bool.and_eq_true, List.all_eq_true] at hn
  exact hn.2 c hcn

/-- The exact effect of a pass on the value of every instance. -/
theorem effect_of_pass (hs : ctx.registry = Registry.standard) (hc : Clean ctx nodes)
    (hd : ∀ n ∈ nodes, n.finiteDefaults = true)
    (h : (run ctx nodes before).outcome = .ok outcome) {l : Location} (hl : l.In outcome.tree)
    (ho : l.self.ownsValue = true) :
    (l.clears = true ∧ l.inKeptRows = false →
      l.self.isAtDefault ctx outcome.values = true ∧ (l.self.kind = some .repeater →
        outcome.values.get? l.self.path = some (.arr []) ∧ l.self.rows = [])) ∧
    (¬ (l.clears = true ∧ l.inKeptRows = false) →
      (l.self.kind = some .leaf →
        outcome.values.get? l.self.path = before.get? l.self.path) ∧
      (l.self.kind = some .repeater →
        l.self.rows.length = rowCount before l.self.path ∧
        SameRows (before.get? l.self.path) (outcome.values.get? l.self.path) ∧
        (l.self.hidden = true →
          outcome.values.get? l.self.path = before.get? l.self.path))) := by
  obtain ⟨s, s', va⟩ := exists_visitAt hs hc h hl
  refine ⟨fun hr => va.reset hs ho (finiteDefaults_of_in hs hc hd h hl) hr.1 hr.2, fun hr => ?_⟩
  have hn : l.clears = true → l.inKeptRows = true := fun hcl => by
    cases hk : l.inKeptRows with
    | true => rfl
    | false => exact absurd ⟨hcl, hk⟩ hr
  exact ⟨va.kept_leaf hs ho hn, va.kept_repeater hs ho hn⟩

end Pass

namespace PanelAndList

def context : Context := ⟨Registry.standard, Conditions.declarative, none⟩

def text : Node := { type := "textfield", key := some "name" }

/-- Hidden, with a text. -/
def panel : Node := { type := "panel", hidden := true, components := [text] }

/-- Shown, with texts for rows. -/
def list : Node := { type := "editgrid", key := some "pets", components := [text] }

def values : Value := .obj [("name", .str "Ada"), ("pets", .arr [.obj [("name", .str "Rex")]])]

def clearedText : Instance :=
  { node := text, kind := some .leaf, path := "name", hidden := true }

def hiddenPanel : Instance :=
  { node := panel, kind := some .group, path := "", hidden := true, children := [clearedText] }

def shownList : Instance :=
  { node := list, kind := some .repeater, path := "pets", hidden := false
    rows := [[{ node := text, kind := some .leaf, path := "pets.0.name", hidden := false }]] }

def outcome : Outcome where
  values := .obj [("name", .str ""), ("pets", .arr [.obj [("name", .str "Rex")]])]
  tree := [hiddenPanel, shownList]
  cleared := ["name"]

theorem run_eq : (run context [panel, list] values).outcome = .ok outcome := by rfl

end PanelAndList

open PanelAndList in
theorem effect_of_pass_panelAndList :
    clearedText.isAtDefault context outcome.values = true ∧
      shownList.rows.length = rowCount values "pets" := by
  have hc : Clean context [panel, list] := by decide
  have hd : ∀ n ∈ [panel, list], n.finiteDefaults = true := by decide
  have ht : Location.In outcome.tree (.child (.top hiddenPanel) clearedText) :=
    .child (.top List.mem_cons_self) List.mem_cons_self
  have hl : Location.In outcome.tree (.top shownList) :=
    .top (List.mem_cons_of_mem _ List.mem_cons_self)
  exact ⟨((effect_of_pass rfl hc hd run_eq ht rfl).1 (by decide)).1,
    (((effect_of_pass rfl hc hd run_eq hl rfl).2 (by decide)).2 rfl).1⟩

end Visibility
end FormLogic
