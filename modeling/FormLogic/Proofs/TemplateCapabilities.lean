import FormLogic.Proofs.BlockedWrites
import FormLogic.Proofs.DecidableTrees
import FormLogic.Proofs.HiddenFlags
import FormLogic.Proofs.OpenedContainers
import FormLogic.Proofs.PassPlan

/-!
# Templates that cannot be cleared

A repeater looks through its whole template before it does anything else, below nodes of
every kind and whether or not there are rows. So a template with a value that cannot be
cleared stops every pass, and where all templates are sound a pass fails at paths alone.
What it looks through covers all that a row can hold.
-/
namespace FormLogic

open Visibility

section Lacks

variable {ctx : Context} {nodes : List Node} {n r m : Node}

/-- A node owns a value, and its type has nothing to clear it with. -/
def Context.lacksReset (ctx : Context) (n : Node) : Bool :=
  ctx.owns n && (ctx.typeOf n).any (·.applyVisibility.isNone)

/-- Something in the template of a node, at any depth and below nodes of any kind, lacks the
capability. -/
def Context.TemplateLacks (ctx : Context) (n : Node) : Prop :=
  ∃ m, Node.Within n.children m ∧ ctx.lacksReset m = true

/-- A repeater with a value that is reached from some nodes through containers only has such a
template. -/
def Context.ReachesLack (ctx : Context) (nodes : List Node) : Prop :=
  ∃ r ∈ ctx.scope nodes, ctx.kindOf r = some .repeater ∧ ctx.TemplateLacks r

theorem Context.exists_capability_of_not_lacks (h : ctx.lacksReset n = false)
    (ho : ctx.owns n = true) : ∃ t, ctx.typeOf n = some t ∧ t.applyVisibility.isSome = true := by
  obtain ⟨t, ht, -⟩ := Context.exists_typeOf_of_owns ho
  refine ⟨t, ht, ?_⟩
  rw [lacksReset, ho, ht, Bool.true_and, Option.any_some] at h
  rw [← Option.not_isNone, h, Bool.not_false]

/-- What is within a node's template is within every template that the node is within. -/
theorem Node.Within.of_template (hr : Node.Within nodes r) (h : Node.Within r.children m) :
    Node.Within nodes m :=
  h.of_forall (fun _ hc => hr.child hc) fun _ hk _ hc => hk.child hc

theorem Context.not_templateLacks_of_within (h : ¬ ctx.TemplateLacks n)
    (hr : Node.Within n.children r) : ¬ ctx.TemplateLacks r :=
  fun ⟨m, hm, hl⟩ => h ⟨m, hr.of_template hm, hl⟩

/-- A search that starts from a node finds nothing exactly when all there has the capability. -/
theorem templateFault?_eq_none_iff (n : Node) : ∀ path : String,
    templateFault? ctx n path = none ↔ n.all (fun m => !ctx.lacksReset m) = true := by
  induction n using Node.induction with
  | step n ih =>
    intro path
    have hbelow : ∀ path, (n.children.findSome? fun c => templateFault? ctx c path) = none ↔
        n.children.all (Node.all fun m => !ctx.lacksReset m) = true := by
      intro path
      rw [List.findSome?_eq_none_iff, List.all_eq_true]
      exact forall₂_congr fun c hc => ih c hc path
    rw [templateFault?_eq, ← Context.lacksReset, Node.all_eq, Bool.and_eq_true,
      ← hbelow (n.pathBelow path (ctx.kindOf n) none)]
    cases ctx.lacksReset n with
    | true => simp
    | false => simp

/-- A template passes the check exactly when nothing in it lacks the capability, whatever the path
of the repeater. -/
theorem findSome?_templateFault_eq_none_iff (n : Node) (path : String) :
    (n.children.findSome? fun c => templateFault? ctx c path) = none ↔ ¬ ctx.TemplateLacks n := by
  have hall : (∀ c ∈ n.children, templateFault? ctx c path = none) ↔
      ∀ m, Node.Within n.children m → (!ctx.lacksReset m) = true := by
    rw [← Node.forall_within_iff]
    exact forall₂_congr fun c _ => templateFault?_eq_none_iff c path
  rw [List.findSome?_eq_none_iff, hall, Context.TemplateLacks]
  simp only [not_exists, not_and, Bool.not_eq_true', Bool.not_eq_true]

end Lacks

namespace Visibility

/-- A step that fails does so because a value cannot be written at a path. -/
def FailsAtPaths {α : Type} (m : Pass α) : Prop :=
  ∀ (s : Progress) (e : FormError), (m.run s).outcome = .error e →
    ∃ path fault, e = .invalidPath path fault

section FailsAtPaths

variable {α β : Type}

theorem FailsAtPaths.pure (a : α) : FailsAtPaths (Pure.pure a) := by
  intro s e h
  change Except.ok (a, s) = Except.error e at h
  cases h

theorem FailsAtPaths.bind {m : Pass α} {k : α → Pass β} (hm : FailsAtPaths m)
    (hk : ∀ a, FailsAtPaths (k a)) : FailsAtPaths (m >>= k) := by
  intro s e h
  have hrun : ((m >>= k).run s).outcome =
      (m.run s).outcome >>= fun r => ((k r.1).run r.2).outcome := Noted.outcome_bind _ _
  rw [hrun] at h
  cases ho : (m.run s).outcome with
  | error e' =>
    rw [ho] at h
    obtain rfl : e' = e := Except.error.inj h
    exact hm s e' ho
  | ok r =>
    rw [ho] at h
    exact hk r.1 r.2 e h

theorem FailsAtPaths.get_bind {k : Progress → Pass β} (hk : ∀ s, FailsAtPaths (k s)) :
    FailsAtPaths (get >>= k) := fun s e h => hk s s e h

theorem FailsAtPaths.mapM {f : α → Pass β} {xs : List α} (h : ∀ x ∈ xs, FailsAtPaths (f x)) :
    FailsAtPaths (xs.mapM f) := by
  induction xs with
  | nil =>
    rw [List.mapM_nil]
    exact .pure []
  | cons x rest ih =>
    have hrest := ih fun y hy => h y (List.mem_cons_of_mem x hy)
    rw [List.mapM_cons]
    exact (h x List.mem_cons_self).bind fun y => hrest.bind fun ys => .pure (y :: ys)

theorem FailsAtPaths.noteUnknown (ctx : Context) (n : Node) (path : String) :
    FailsAtPaths (Visibility.noteUnknown ctx n path) := by
  unfold Visibility.noteUnknown
  split
  · intro s e h
    change Except.ok ((), s) = Except.error e at h
    cases h
  · exact .pure ()

theorem FailsAtPaths.reset (path : String) (new : Value) :
    FailsAtPaths (Visibility.reset path new) := by
  intro s e h
  have hreset : (Visibility.reset path new s).outcome = .error e := h
  unfold Visibility.reset at hreset
  split at hreset
  · cases hreset
  · next e' he =>
    obtain rfl : e' = e := Except.error.inj hreset
    obtain ⟨fault, -, hfault⟩ := Value.setOrError_eq_error_iff.1 he
    exact ⟨path, fault, hfault⟩

theorem FailsAtPaths.apply (t : NodeType) (n : Node) (path : String) (state : HideState) :
    FailsAtPaths (Visibility.apply t n path state) := by
  unfold Visibility.apply
  refine .get_bind fun s => ?_
  dsimp only
  split
  · exact .pure ()
  · split
    · exact .pure ()
    · exact .reset path _

theorem FailsAtPaths.applyTo {ctx : Context} {before : Value} {t : NodeType} {n : Node}
    (place : Place) (inherited : HideState) :
    FailsAtPaths (place.applyTo ctx before t n inherited) := by
  unfold Place.applyTo
  split
  · exact .apply t n _ _
  · exact .pure ()

end FailsAtPaths

section Sound

variable {ctx : Context} {nodes : List Node} {before : Value}

/-- A visit fails at paths alone where no template that it reaches lacks the capability. -/
theorem failsAtPaths_visit (n : Node) : ¬ ctx.ReachesLack [n] →
    ∀ {place : Place} {inherited : HideState},
      FailsAtPaths (visit ctx before n place inherited) := by
  induction n using Node.induction with
  | step n ih =>
    intro hn place inherited
    cases way ctx n with
    | leaf ht hk =>
      rw [visit_of_leaf _ _ ht hk]
      exact (FailsAtPaths.applyTo place inherited).bind fun _ => .pure _
    | keyless ht hk ho =>
      rw [visit_of_keyless _ _ ht hk ho]
      exact .pure _
    | repeater ht hk ho =>
      have hself : n ∈ ctx.scope [n] := by
        rw [Context.scope_singleton, Context.owners_of_owns ho]
        exact List.mem_cons_self
      have hkind : ctx.kindOf n = some .repeater := hk ▸ Context.kindOf_of_typeOf ht
      have hsound : ¬ ctx.TemplateLacks n := fun hl => hn ⟨n, hself, hkind, hl⟩
      -- What a row reaches is within the template, and so its own template is sound.
      have hchild : ∀ c ∈ n.children, ¬ ctx.ReachesLack [c] := by
        rintro c hc ⟨r, hr, -, hl⟩
        rw [Context.scope_singleton] at hr
        have hwithin := Context.within_of_mem_owners (.top hc) hr
        exact Context.not_templateLacks_of_within hsound hwithin hl
      have hcheck : checkTemplate ctx n (place.pathOf ctx n) = pure () := by
        rw [checkTemplate, (findSome?_templateFault_eq_none_iff n _).2 hsound]
      rw [visit_of_repeater _ _ ht hk ho, hcheck, pure_bind]
      refine (FailsAtPaths.applyTo place inherited).bind fun _ => .get_bind fun s => ?_
      refine FailsAtPaths.bind (.mapM fun index _ => ?_) fun rows => .pure _
      exact .mapM fun c hc => ih c hc (hchild c hc)
    | container hk =>
      have hchild : ∀ c ∈ n.children, ¬ ctx.ReachesLack [c] := by
        rintro c hc ⟨r, hr, hrest⟩
        refine hn ⟨r, ?_, hrest⟩
        rw [Context.scope_singleton] at hr ⊢
        rw [Context.owners_of_container hk]
        exact Context.mem_scope_of_mem hc hr
      rw [visit_of_container _ _ hk]
      refine (FailsAtPaths.noteUnknown ctx n _).bind fun _ => ?_
      refine FailsAtPaths.bind (.mapM fun c hc => ih c hc (hchild c hc)) fun children => .pure _

theorem invalidPath_of_run (hn : ¬ ctx.ReachesLack nodes) {e : FormError}
    (h : (run ctx nodes before).outcome = .error e) :
    ∃ path fault, e = .invalidPath path fault := by
  have hvisits : FailsAtPaths (nodes.mapM fun n => visit ctx before n {} {}) := by
    refine .mapM fun n hm => failsAtPaths_visit n fun ⟨r, hr, hrest⟩ => hn ⟨r, ?_, hrest⟩
    rw [Context.scope_singleton] at hr
    exact Context.mem_scope_of_mem hm hr
  rw [run, Noted.outcome_bind] at h
  cases ho : ((nodes.mapM fun n => visit ctx before n {} {}).run ⟨before, []⟩).outcome with
  | error e' =>
    rw [ho] at h
    obtain rfl : e' = e := Except.error.inj h
    exact hvisits _ e' ho
  | ok r =>
    rw [ho] at h
    cases h

end Sound

section Succeeded

variable {ctx : Context} {nodes : List Node} {before : Value} {outcome : Outcome} {n : Node}

/-- A visit that succeeds came past sound templates only. -/
theorem not_templateLacks_of_yields (n : Node) : ∀ {place : Place} {inherited : HideState}
    {s s' : Progress} {i : Instance}, Yields (visit ctx before n place inherited) s i s' →
      ∀ r ∈ ctx.owners n, ctx.kindOf r = some .repeater → ¬ ctx.TemplateLacks r := by
  induction n using Node.induction with
  | step n ih =>
    intro place inherited s s' i h r hr hkind
    cases visited_of_yields h with
    | container hk hc =>
      rw [Context.owners_of_container hk] at hr
      obtain ⟨c, hcn, hr⟩ := List.mem_flatMap.1 hr
      obtain ⟨_, _, _, hy⟩ := hc.exists_result hcn
      exact ih c hcn hy r hr hkind
    | leaf ht hk ha =>
      rcases Context.mem_owners hr with ⟨rfl, -⟩ | ⟨hcontainer, -⟩
      · rw [hk] at hkind
        cases hkind
      · exact absurd (by rw [hk]; rfl) hcontainer
    | keyless hk ho =>
      rw [Context.owners_of_keyless hk rfl ho] at hr
      cases hr
    | repeater ht hk ho hf ha hrows =>
      rw [Context.owners_of_owns ho, List.mem_singleton] at hr
      subst hr
      exact (findSome?_templateFault_eq_none_iff _ _).1 hf

theorem not_reachesLack_of_run (h : (run ctx nodes before).outcome = .ok outcome) :
    ¬ ctx.ReachesLack nodes := by
  rintro ⟨r, hr, hkind, hl⟩
  obtain ⟨n, hn, hr⟩ := List.mem_flatMap.1 hr
  obtain ⟨_, _, _, hy⟩ := (sweep_of_run h).exists_result hn
  exact not_templateLacks_of_yields n hy r hr hkind hl

/-- Only a repeater that found its template sound has rows. -/
theorem Visited.not_templateLacks_of_row {place : Place} {inherited : HideState}
    {s s' : Progress} {i : Instance} (h : Visited ctx before n place inherited s i s')
    {index : Nat} {row : List Instance} (hr : i.rows[index]? = some row) :
    ¬ ctx.TemplateLacks n := by
  cases h with
  | repeater ht hk ho hf => exact (findSome?_templateFault_eq_none_iff _ _).1 hf
  | container | leaf | keyless => simp at hr

/-- What stands in a row, and all below its node, has the capability. -/
theorem sound_in_row (h : (run ctx nodes before).outcome = .ok outcome) {l : Location}
    (hl : l.In outcome.tree) (hrow : l.rowPath?.isSome = true) :
    ctx.lacksReset l.self.node = false ∧ ¬ ctx.TemplateLacks l.self.node := by
  induction hl with
  | top => cases hrow
  | @child above i ha hi ih =>
    obtain ⟨-, hsound⟩ := ih hrow
    obtain ⟨_, _, _, -, hv⟩ := exists_visited h ha
    have hnode : Node.Within above.self.node.children i.node :=
      .top ((hv.sweep_children hi).2.node_mem hi)
    have hown : ¬ ctx.lacksReset i.node = true := fun hlack => hsound ⟨i.node, hnode, hlack⟩
    exact ⟨eq_false_of_ne_true hown, Context.not_templateLacks_of_within hsound hnode⟩
  | @inRow above index row i ha hr hi ih =>
    obtain ⟨inherited, s, s', -, hv⟩ := exists_visited h ha
    obtain ⟨_, _, -, -, -, -, hrows⟩ := hv.sweep_rows hr
    obtain ⟨_, _, hsweep, -, -⟩ := row_of_sweep hrows hr
    have hnode : Node.Within above.self.node.children i.node := .top (hsweep.node_mem hi)
    have hsound : ¬ ctx.TemplateLacks above.self.node := hv.not_templateLacks_of_row hr
    have hown : ¬ ctx.lacksReset i.node = true := fun hlack => hsound ⟨i.node, hnode, hlack⟩
    exact ⟨eq_false_of_ne_true hown, Context.not_templateLacks_of_within hsound hnode⟩

end Succeeded

/-- A pass fails on every store when a repeater that it reaches has a template that lacks the
capability, and it never reports the lack of one when no repeater has. So whatever owns a value in a
row can be cleared. -/
theorem capabilities_checked (ctx : Context) (nodes : List Node) :
    (ctx.ReachesLack nodes →
      ∀ before, ∃ e, (run ctx nodes before).outcome = .error e) ∧
    (¬ ctx.ReachesLack nodes → ∀ before type path capability,
      (run ctx nodes before).outcome ≠ .error (.missingCapability type path capability)) ∧
    ∀ before outcome, (run ctx nodes before).outcome = .ok outcome →
      ∀ l : Location, l.In outcome.tree → l.rowPath?.isSome = true → l.self.ownsValue = true →
        ∃ t, ctx.typeOf l.self.node = some t ∧ t.applyVisibility.isSome = true := by
  refine ⟨fun hlack before => ?_, fun hsound before type path capability h => ?_,
    fun before outcome h l hl hrow ho => ?_⟩
  · cases h : (run ctx nodes before).outcome with
    | error e => exact ⟨e, rfl⟩
    | ok outcome => exact absurd hlack (not_reachesLack_of_run h)
  · obtain ⟨_, _, he⟩ := invalidPath_of_run hsound h
    cases he
  · obtain ⟨_, _, _, -, hv⟩ := exists_visited h hl
    have howns : ctx.owns l.self.node = true := hv.ownsValue_eq ▸ ho
    exact Context.exists_capability_of_not_lacks (sound_in_row h hl hrow).1 howns

namespace ChippedDogs

/-- A leaf that is never reset. -/
def chipType : NodeType := { kind := .leaf }

def context : Context :=
  ⟨Registry.standard.register "chip" chipType, Conditions.declarative, none⟩

def chip : Node := { type := "chip", key := some "chip" }

/-- Below a text, where no pass visits it. -/
def name : Node := { type := "textfield", key := some "name", components := [chip] }

def dogs : Node := { type := "editgrid", key := some "dogs", components := [name] }

def panel : Node := { type := "panel", hidden := true, components := [dogs] }

theorem dogs_mem_scope : dogs ∈ context.scope [panel] := by
  have howns : context.owns dogs = true := by decide
  have hcontainer : (context.kindOf panel).map Kind.ownsPath ≠ some true := by decide
  rw [Context.scope_singleton, Context.owners_of_container hcontainer]
  refine Context.mem_scope_of_mem List.mem_cons_self ?_
  rw [Context.owners_of_owns howns]
  exact List.mem_cons_self

theorem reachesLack : context.ReachesLack [panel] := by
  have hchip : Node.Within dogs.children chip :=
    .child (.top List.mem_cons_self) List.mem_cons_self
  exact ⟨dogs, dogs_mem_scope, by decide, chip, hchip, by decide⟩

/-- Dogs without a chip. -/
def strays : Node where
  type := "editgrid"
  key := some "dogs"
  components := [{ type := "textfield", key := some "name" }]

def store : Value := .obj [("dogs", .arr [.obj [("name", .str "Rex")]])]

def rexInstance : Instance :=
  { node := { type := "textfield", key := some "name" }, kind := some .leaf, path := "dogs.0.name"
    hidden := false }

def straysInstance : Instance :=
  { node := strays, kind := some .repeater, path := "dogs", hidden := false
    rows := [[rexInstance]] }

def outcome : Outcome := { values := store, tree := [straysInstance], cleared := [] }

theorem run_eq : (run context [strays] store).outcome = .ok outcome := by decide +kernel

theorem not_reachesLack : ¬ context.ReachesLack [strays] := not_reachesLack_of_run run_eq

end ChippedDogs

open ChippedDogs in
/-- A hidden panel of dogs with a chip fails without any dog; without the chip no store lacks a
capability, and the name of a dog can be cleared. -/
theorem capabilities_checked_chippedDogs :
    (∃ e, (run context [panel] .empty).outcome = .error e) ∧
    (∀ before type path capability,
      (run context [strays] before).outcome ≠ .error (.missingCapability type path capability)) ∧
    ∃ t, context.typeOf rexInstance.node = some t ∧ t.applyVisibility.isSome = true := by
  have hrex : Location.In outcome.tree (.inRow (.top straysInstance) 0 rexInstance) :=
    .inRow (.top List.mem_cons_self) rfl List.mem_cons_self
  have hsound := capabilities_checked context [strays]
  exact ⟨(capabilities_checked context [panel]).1 reachesLack .empty, hsound.2.1 not_reachesLack,
    hsound.2.2 store outcome run_eq _ hrex rfl (by decide)⟩

end Visibility
end FormLogic
