import FormLogic.Proofs.LocatedVisit

/-!
# What replacements keep true

A pass puts nothing into the values but what the types of its nodes make of the stored
ones. So a test of numbers that the replacements pass holds of all values after a pass
when it held of them before.
-/
namespace FormLogic

open Visibility

/-- A node of a list, or one below it. -/
inductive Node.Within (nodes : List Node) : Node → Prop
  | top {n : Node} (h : n ∈ nodes) : Within nodes n
  | child {n c : Node} (h : Within nodes n) (hc : c ∈ n.children) : Within nodes c

theorem Node.Within.of_forall {nodes : List Node} {P : Node → Prop} (hn : ∀ n ∈ nodes, P n)
    (hP : ∀ n, P n → ∀ c ∈ n.children, P c) {n : Node} (h : Within nodes n) : P n := by
  induction h with
  | top h => exact hn _ h
  | child _ hc ih => exact hP _ ih _ hc

/-- The defaults declared at and below a node pass a test. -/
def Node.defaultsPass (p : Value → Bool) : Node → Bool :=
  Node.recurse fun n below => n.defaultValue.all (Value.everywhere p) && below.all id

theorem Node.defaultsPass_eq (p : Value → Bool) (n : Node) : n.defaultsPass p =
    (n.defaultValue.all (Value.everywhere p) && n.children.all (Node.defaultsPass p)) := by
  rw [defaultsPass, Node.recurse_eq, ← defaultsPass, List.all_map]
  rfl

theorem Node.Within.everywhere_default {nodes : List Node} {p : Value → Bool}
    (hd : ∀ n ∈ nodes, n.defaultsPass p = true) {n : Node} (hn : Within nodes n) {v : Value}
    (hv : n.defaultValue = some v) : v.everywhere p = true := by
  have hpass : n.defaultsPass p = true := hn.of_forall hd fun m hm => by
    rw [Node.defaultsPass_eq, Bool.and_eq_true, List.all_eq_true] at hm
    exact hm.2
  rw [Node.defaultsPass_eq, hv, Bool.and_eq_true] at hpass
  exact hpass.1

/-- A value that passes the test is only replaced by one that does. -/
def Context.Replaces (ctx : Context) (nodes : List Node) (p : Value → Bool) : Prop :=
  ∀ {n : Node} {t : NodeType}, Node.Within nodes n → ctx.typeOf n = some t →
    t.kind.ownsPath = true → ∀ {state : HideState} {current : Option Value} {new : Value},
      (∀ v, current = some v → v.everywhere p = true) →
      t.replacement? n state current = some new → new.everywhere p = true

section Replaces

variable {ctx : Context} {nodes : List Node} {p : Value → Bool}

/-- A standard type replaces by the default, which has no numbers but those declared. -/
theorem Context.replaces_of_standard (hs : ctx.registry = Registry.standard)
    (hp : Value.TestsNumbers p) (hd : ∀ n ∈ nodes, n.defaultsPass p = true) :
    ctx.Replaces nodes p := by
  intro n t hn ht hk state current new _ hnew
  obtain ⟨default, hr⟩ := Context.resets_of_typeOf hs ht hk
  rw [hr.replacement?_eq] at hnew
  split at hnew
  · obtain rfl := Option.some.inj hnew
    exact hr.everywhere hp n fun v hv => hn.everywhere_default hd hv
  · cases hnew

theorem Visibility.Applied.everywhere (hp : Value.TestsNumbers p) (hr : ctx.Replaces nodes p)
    {n : Node} {t : NodeType} {path : String} {state : HideState} {s s' : Progress}
    (hn : Node.Within nodes n) (ht : ctx.typeOf n = some t) (hk : t.kind.ownsPath = true)
    (ha : Applied t n path state s s') (h : s.values.everywhere p = true) :
    s'.values.everywhere p = true := by
  cases ha with
  | kept => exact h
  | wrote hnew _ hw =>
    refine Value.everywhere_write hp (hr hn ht hk (fun v hv => ?_) hnew) hw h
    exact Value.everywhere_of_follow h hv

theorem Visibility.everywhere_of_run (hp : Value.TestsNumbers p) (hr : ctx.Replaces nodes p)
    {before : Value} {outcome : Outcome} (h : (run ctx nodes before).outcome = .ok outcome)
    (hb : before.everywhere p = true) : outcome.values.everywhere p = true :=
  (sweep_of_run h).invariant (fun n hn {_ _ _} hy =>
    invariant_of_yields (P := Node.Within nodes) (fun _ hm _ hc => hm.child hc)
      (I := fun s => s.values.everywhere p = true)
      (fun hm ht hk ha => ha.everywhere hp hr hm ht hk) n (.top hn) hy) hb

end Replaces

end FormLogic
