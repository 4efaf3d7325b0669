import FormLogic.Proofs.Settling
import FormLogic.Proofs.Location
import FormLogic.Proofs.VisitSteps

/-!
# The notes of repeated passes

A sink keeps the first note of each kind and subject, in the order in which they came. Passes
take notes of unknown types and no others: one for each instance of such a type, in the order of
the tree, and the notes of one pass after those of the pass before it.
-/
namespace FormLogic

section First

variable {α β : Type} {same : α → α → Bool}

/-- Induction that goes on from the tail of a list to whatever a filter leaves of it. -/
theorem filter_induction {P : List α → Prop} (nil : P [])
    (cons : ∀ a rest, (∀ q : α → Bool, P (rest.filter q)) → P (a :: rest)) (as : List α) :
    P as := by
  induction hn : as.length using Nat.strongRecOn generalizing as with
  | ind n ih =>
    cases as with
    | nil => exact nil
    | cons a rest =>
      refine cons a rest fun q => ih _ ?_ _ rfl
      rw [← hn]
      exact Nat.lt_succ_of_le (List.length_filter_le q rest)

theorem mem_of_mem_eraseDupsBy {a : α} {as : List α} (h : a ∈ as.eraseDupsBy same) : a ∈ as := by
  induction as using filter_induction with
  | nil => cases h
  | cons b rest ih =>
    rw [List.eraseDupsBy_cons] at h
    rcases List.mem_cons.1 h with rfl | h
    · exact List.mem_cons_self
    · exact List.mem_cons_of_mem b (List.mem_filter.1 (ih _ h)).1

/-- What has a property in common with all of its sort may be singled out before the first of each
sort are or after it. -/
theorem eraseDupsBy_filter {p : α → Bool} (h : ∀ a b, same a b = true → p a = p b) (as : List α) :
    (as.filter p).eraseDupsBy same = (as.eraseDupsBy same).filter p := by
  induction as using filter_induction with
  | nil => rfl
  | cons a rest ih =>
    rw [List.eraseDupsBy_cons, List.filter_cons, List.filter_cons, ← ih, List.filter_filter]
    cases hp : p a with
    | true => simp only [if_true, List.eraseDupsBy_cons, List.filter_filter, Bool.and_comm]
    | false =>
      -- All of the sort of an element without the property are without it.
      have hsort : ∀ b ∈ rest, (p b && decide (same b a = false)) = p b := by
        intro b _
        cases hb : same b a with
        | true => rw [h b a hb, hp]; rfl
        | false => simp
      simp only [Bool.false_eq_true, if_false, List.filter_congr hsort]

theorem eraseDupsBy_map {same : β → β → Bool} (f : α → β) (as : List α) :
    (as.map f).eraseDupsBy same = (as.eraseDupsBy fun a b => same (f a) (f b)).map f := by
  induction as using filter_induction with
  | nil => rfl
  | cons a rest ih =>
    rw [List.map_cons, List.eraseDupsBy_cons, List.eraseDupsBy_cons, List.map_cons, ← ih,
      List.filter_map]
    rfl

end First

namespace Diagnostics

/-- What a sink keeps of some notes, after those that it has: the first of each kind and subject
that is not among these. -/
theorem entries_recordAll (sink : Diagnostics) (notes : List Diagnostic) :
    (sink.recordAll notes).entries = sink.entries ++
      (notes.filter fun d => !sink.entries.any d.sameAs).eraseDupsBy Diagnostic.sameAs := by
  induction notes generalizing sink with
  | nil => simp [recordAll]
  | cons d rest ih =>
    have hstep : sink.recordAll (d :: rest) = (sink.record d).2.recordAll rest := rfl
    rw [hstep, ih, record]
    cases hd : sink.entries.any d.sameAs with
    | true =>
      rw [List.filter_cons_of_neg (by simp [hd])]
      rfl
    | false =>
      rw [List.filter_cons_of_pos (by simp [hd]), List.eraseDupsBy_cons, List.filter_filter]
      simp [List.append_assoc, Bool.and_comm]

/-- So a fresh sink keeps the first of each kind and subject. -/
theorem entries_recordAll_empty (notes : List Diagnostic) :
    (recordAll {} notes).entries = notes.eraseDupsBy Diagnostic.sameAs := by
  have hall : notes.filter (fun d => !(({} : Diagnostics).entries.any d.sameAs)) = notes :=
    List.filter_eq_self.2 fun _ _ => rfl
  rw [entries_recordAll, hall, List.nil_append]

/-- What a fresh sink keeps of one kind does not depend on notes of another. -/
theorem filter_kind_recordAll (kind : DiagnosticKind) (notes : List Diagnostic) :
    (recordAll {} notes).entries.filter (·.kind == kind) =
      (notes.filter (·.kind == kind)).eraseDupsBy Diagnostic.sameAs := by
  rw [entries_recordAll_empty, eraseDupsBy_filter]
  intro d e h
  rw [Diagnostic.sameAs, Bool.and_eq_true] at h
  rw [eq_of_beq h.1]

end Diagnostics

/-- When the first part succeeds, the notes of the second follow its own. -/
theorem Noted.notes_bind {α β : Type} {x : Noted α} {a : α} (h : x.outcome = .ok a)
    (f : α → Noted β) : (x >>= f).notes = x.notes ++ (f a).notes := by
  obtain ⟨notes, outcome⟩ := x
  obtain rfl : outcome = .ok a := h
  rfl

namespace Visibility

/-- When the step succeeds, its notes are told by its result. -/
def Takes {α : Type} (m : Pass α) (told : α → List Diagnostic) : Prop :=
  ∀ s a s', Yields m s a s' → (m.run s).notes = told a

namespace Takes

variable {α β : Type} {m : Pass α} {told : α → List Diagnostic}

theorem pure {a : α} (h : told a = []) : Takes (Pure.pure a) told := by
  intro s b s' hy
  obtain ⟨rfl, -⟩ := yields_pure_iff.1 hy
  exact h.symm

/-- What the first part of a step notes comes before what the second part does. -/
theorem bind {f : α → Pass β} {early : List Diagnostic} {late : β → List Diagnostic}
    (hm : Takes m fun _ => early) (hf : ∀ a, Takes (f a) late) :
    Takes (m >>= f) fun b => early ++ late b := by
  intro s b s'' hy
  obtain ⟨a, s', ha, hb⟩ := yields_bind_iff.1 hy
  have hnotes : ((m >>= f).run s).notes = (m.run s).notes ++ ((f a).run s').notes :=
    Noted.notes_bind ha _
  rw [hnotes, hm _ _ _ ha, hf a _ _ _ hb]

/-- A first part that takes no notes adds none. -/
theorem quiet_bind {f : α → Pass β} {said : β → List Diagnostic} (hm : Takes m fun _ => [])
    (hf : ∀ a, Takes (f a) said) : Takes (m >>= f) said := hm.bind hf

theorem map {f : α → β} {said : β → List Diagnostic} (hm : Takes m told)
    (hf : ∀ a, said (f a) = told a) : Takes (m >>= fun a => Pure.pure (f a)) said := by
  intro s b s'' hy
  obtain ⟨a, s', ha, hb⟩ := yields_bind_iff.1 hy
  obtain ⟨rfl, rfl⟩ := yields_pure_iff.1 hb
  have hnotes : ((m >>= fun a => Pure.pure (f a)).run s).notes = (m.run s).notes ++ [] :=
    Noted.notes_bind ha _
  rw [hnotes, hm _ _ _ ha, hf, List.append_nil]

theorem mapM {f : α → Pass β} {said : β → List Diagnostic} {xs : List α}
    (h : ∀ x ∈ xs, Takes (f x) said) : Takes (xs.mapM f) (List.flatMap said) := by
  induction xs with
  | nil =>
    rw [List.mapM_nil]
    exact pure rfl
  | cons x rest ih =>
    intro s ys s' hy
    rw [List.mapM_cons] at hy ⊢
    obtain ⟨y, s₁, hx, hy⟩ := yields_bind_iff.1 hy
    obtain ⟨more, s₂, hmore, hy⟩ := yields_bind_iff.1 hy
    obtain ⟨rfl, rfl⟩ := yields_pure_iff.1 hy
    have hnotes : ((f x >>= fun y => rest.mapM f >>= fun more => Pure.pure (y :: more)).run s).notes
        = ((f x).run s).notes ++ (((rest.mapM f).run s₁).notes ++ []) :=
      (Noted.notes_bind hx _).trans (congrArg _ (Noted.notes_bind hmore _))
    rw [hnotes, h x List.mem_cons_self _ _ _ hx,
      ih (fun x' hx' => h x' (List.mem_cons_of_mem x hx')) _ _ _ hmore, List.append_nil,
      List.flatMap_cons]

end Takes

/-- The notes of the instances of unknown type, in the order of the tree. -/
def unknownNotes (is : List Instance) : List Diagnostic :=
  ((Instance.flattenAll is).filter (·.kind.isNone)).map fun i => .unknownType i.node.type i.path

theorem unknownNotes_singleton (i : Instance) :
    unknownNotes [i] = (if i.kind.isNone then [.unknownType i.node.type i.path] else []) ++
      (unknownNotes i.children ++ i.rows.flatMap unknownNotes) := by
  rw [unknownNotes, Instance.filter_flattenAll_singleton, List.map_append, List.map_append,
    List.map_flatMap]
  split <;> rfl

theorem flatMap_unknownNotes (is : List Instance) :
    is.flatMap (fun i => unknownNotes [i]) = unknownNotes is := by
  induction is with
  | nil => rfl
  | cons i rest ih =>
    rw [List.flatMap_cons, ih, unknownNotes, unknownNotes, unknownNotes,
      Instance.filter_flattenAll_cons _ i rest, List.map_append]

section Visit

variable {ctx : Context} {before : Value} {n : Node} {t : NodeType}

theorem takes_reset (path : String) (new : Value) : Takes (reset path new) fun _ => [] := by
  intro s u s' _
  unfold reset
  cases hset : s.values.setOrError path new <;> simp only [StateT.run, hset] <;> rfl

theorem takes_apply (path : String) (state : HideState) :
    Takes (apply t n path state) fun _ => [] := by
  unfold apply
  refine .quiet_bind (fun _ _ _ _ => rfl) fun progress => ?_
  dsimp only
  split
  · exact .pure rfl
  · split
    · exact .pure rfl
    · exact takes_reset path _

theorem takes_applyTo (place : Place) (inherited : HideState) :
    Takes (place.applyTo ctx before t n inherited) fun _ => [] := by
  unfold Place.applyTo
  split
  · exact takes_apply _ _
  · exact .pure rfl

theorem takes_checkTemplate (path : String) : Takes (checkTemplate ctx n path) fun _ => [] := by
  unfold checkTemplate
  split
  · exact fun _ _ _ hy => absurd hy not_yields_fail
  · exact .pure rfl

theorem takes_noteUnknown (path : String) : Takes (noteUnknown ctx n path) fun _ =>
    if (ctx.kindOf n).isNone then [.unknownType n.type path] else [] := by
  have hkind : (ctx.kindOf n).isNone = (ctx.typeOf n).isNone := Option.isNone_map
  rw [noteUnknown, hkind]
  split
  · exact fun _ _ _ _ => rfl
  · exact .pure rfl

/-- A visit notes the unknown types at and below its node, the node first. -/
theorem takes_visit (ctx : Context) (before : Value) (n : Node) :
    ∀ (place : Place) (inherited : HideState),
      Takes (visit ctx before n place inherited) fun i => unknownNotes [i] := by
  induction n using Node.induction with
  | step n ih =>
    intro place inherited
    have hbelow : ∀ (place : Place) (inherited : HideState),
        Takes (n.children.mapM fun c => visit ctx before c place inherited) unknownNotes := by
      intro place inherited s is s' hy
      rw [← flatMap_unknownNotes]
      exact Takes.mapM (fun c hc => ih c hc place inherited) _ _ _ hy
    cases way ctx n with
    | leaf ht hk =>
      rw [visit_of_leaf place inherited ht hk]
      refine .quiet_bind (takes_applyTo place inherited) fun _ => .pure ?_
      rw [unknownNotes_singleton, Place.instanceOf, Context.kindOf_of_typeOf ht]
      rfl
    | keyless ht hk ho =>
      rw [visit_of_keyless place inherited ht hk ho]
      refine .pure ?_
      rw [unknownNotes_singleton, Place.instanceOf, Context.kindOf_of_typeOf ht]
      rfl
    | repeater ht hk ho =>
      rw [visit_of_repeater place inherited ht hk ho]
      refine .quiet_bind (takes_checkTemplate _) fun _ =>
        .quiet_bind (takes_applyTo place inherited) fun _ =>
          .quiet_bind (fun _ _ _ _ => rfl) fun progress =>
            .map (.mapM fun index _ => hbelow _ _) fun rows => ?_
      rw [unknownNotes_singleton, Place.instanceOf, Context.kindOf_of_typeOf ht]
      rfl
    | container hk =>
      rw [visit_of_container place inherited hk, ← bind_assoc]
      refine .map (.bind (takes_noteUnknown _) fun _ => hbelow _ _) fun children => ?_
      rw [unknownNotes_singleton]
      exact congrArg _ (List.append_nil _)

/-- The notes of a pass are those of the unknown types in its tree. -/
theorem notes_run {nodes : List Node} {outcome : Outcome}
    (h : (run ctx nodes before).outcome = .ok outcome) :
    (run ctx nodes before).notes = unknownNotes outcome.tree := by
  obtain ⟨⟨tree, progress⟩, hvisits, hrest⟩ := Noted.outcome_bind_eq_ok.1 h
  obtain rfl := Noted.outcome_pure_eq_ok.1 hrest
  have hnotes : (run ctx nodes before).notes =
      ((nodes.mapM fun n => visit ctx before n {} {}).run { values := before }).notes ++ [] :=
    Noted.notes_bind hvisits _
  rw [hnotes, List.append_nil, ← flatMap_unknownNotes]
  exact Takes.mapM (fun n _ => takes_visit ctx before n {} {}) _ _ _ hvisits

end Visit

end Visibility

namespace Engine

open Visibility

section Rounds

variable {engine : Engine} {left done : Nat} {cleared : List String} {values : Value}
  {o : Outcome}

/-- The notes of a pass come first, and they are all if it is the last one. -/
theorem notes_settleFrom_of_last (ho : (engine.resolveOnce values).outcome = .ok o)
    (hlast : (o.values == values) = true ∨ left = 0) :
    (engine.settleFrom left done cleared values).notes = unknownNotes o.tree := by
  have hrun : (engine.resolveOnce values).notes = unknownNotes o.tree := notes_run ho
  rw [settleFrom, Noted.notes_bind ho, hrun]
  dsimp only
  split
  · exact List.append_nil _
  · next he =>
    obtain rfl := hlast.resolve_left he
    exact List.append_nil _

theorem exists_rounds_of_last (ho : (engine.resolveOnce values).outcome = .ok o)
    (hlast : (o.values == values) = true ∨ left = 0) :
    ∃ rounds, Rounds engine values rounds ∧ done + 1 = done + rounds.length ∧
      (engine.settleFrom left done cleared values).notes =
        rounds.flatMap fun round => unknownNotes round.outcome.tree := by
  refine ⟨[⟨values, o⟩], .cons ho .nil, rfl, ?_⟩
  rw [notes_settleFrom_of_last ho hlast, List.flatMap_singleton]

/-- Passes note the unknown types in their trees, one pass after the other. -/
theorem notes_settleFrom {r : Settled}
    (h : (engine.settleFrom left done cleared values).outcome = .ok r) :
    ∃ rounds, Rounds engine values rounds ∧ r.passes = done + rounds.length ∧
      (engine.settleFrom left done cleared values).notes =
        rounds.flatMap fun round => unknownNotes round.outcome.tree := by
  induction left generalizing done cleared values with
  | zero =>
    obtain ⟨o, ho, hcases⟩ := settledFrom_of_outcome h
    cases hcases with
    | atRest he => exact exists_rounds_of_last ho (.inl he)
    | exhausted => exact exists_rounds_of_last ho (.inr rfl)
    | goesOn _ hl => cases hl
  | succ left ih =>
    obtain ⟨o, ho, hcases⟩ := settledFrom_of_outcome h
    cases hcases with
    | atRest he => exact exists_rounds_of_last ho (.inl he)
    | exhausted _ hl => cases hl
    | goesOn he hl hr =>
      obtain rfl := Nat.succ.inj hl
      obtain ⟨rounds, hran, hpasses, hnotes⟩ := ih hr
      have hrun : (engine.resolveOnce values).notes = unknownNotes o.tree := notes_run ho
      refine ⟨⟨values, o⟩ :: rounds, .cons ho hran, ?_, ?_⟩
      · rw [hpasses, List.length_cons]
        omega
      · rw [settleFrom, Noted.notes_bind ho, hrun, List.flatMap_cons, ← hnotes]
        simp only [he, Bool.false_eq_true, if_false]

/-- A resolution takes the notes of its passes, and then those of its validators. -/
theorem notes_resolve {r : Resolution} (h : (engine.resolve values).outcome = .ok r) :
    ∃ rounds last, History engine values rounds last r.toSettled ∧
      (engine.resolve values).notes =
        ((rounds ++ [last]).flatMap fun round => unknownNotes round.outcome.tree) ++
          (validatorsOf engine.context r.tree).notes := by
  obtain ⟨settled, hsettled, hrest⟩ := Noted.outcome_bind_eq_ok.1 h
  obtain ⟨validators, hvalidators, hrest⟩ := Noted.outcome_bind_eq_ok.1 hrest
  obtain rfl := Noted.outcome_pure_eq_ok.1 hrest
  obtain ⟨rounds, last, hist⟩ := exists_historyFrom _ hsettled
  obtain ⟨ran, hran, hpasses, hnotes⟩ := notes_settleFrom hsettled
  have hlength : ran.length = (rounds ++ [last]).length := by
    have := hist.passes_eq
    simp only [List.length_append, List.length_singleton]
    omega
  obtain rfl := hran.eq_of_length hist.ran hlength
  have hall : (engine.resolve values).notes = (engine.settle values).notes ++
      ((validatorsOf engine.context settled.tree).notes ++ []) :=
    (Noted.notes_bind hsettled _).trans (congrArg _ (Noted.notes_bind hvalidators _))
  refine ⟨rounds, last, hist, ?_⟩
  rw [hall, List.append_nil]
  exact congrArg (· ++ _) hnotes

end Rounds

end Engine
end FormLogic
