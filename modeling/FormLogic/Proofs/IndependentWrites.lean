import FormLogic.Proofs.InitialValues
import FormLogic.Proofs.WriteLaws
import Mathlib.Data.List.Perm.Basic

/-!
# Writes that may be made in any order

Two writes at places apart that both end in a name go through in either order or in neither,
and leave the same value. So writes that are apart from each other may be made in any order.
-/
namespace FormLogic

open FormLogic.Path (Apart segments)

/-- Make writes in order, each of a value to a path. -/
def Value.writeAll (ws : List (String × Value)) (v : Value) : Except FormError Value :=
  ws.foldlM (fun v w => v.setOrError w.1 w.2) v

/-- Writes that are apart from each other, each to a name. -/
structure Independent (ws : List (String × Value)) : Prop where
  apart : ws.Pairwise fun w w' => Apart (segments w.1) (segments w'.1)
  named : ∀ w ∈ ws, Path.EndsInName (segments w.1)

namespace Independent

variable {ws vs : List (String × Value)}

theorem perm (h : Independent ws) (hp : ws.Perm vs) : Independent vs :=
  ⟨(hp.pairwise_iff fun h => h.symm).1 h.apart, fun w hw => h.named w (hp.mem_iff.2 hw)⟩

theorem of_cons {w : String × Value} (h : Independent (w :: ws)) : Independent ws :=
  ⟨(List.pairwise_cons.1 h.apart).2, fun w' hw => h.named w' (List.mem_cons_of_mem w hw)⟩

theorem nil : Independent [] := ⟨.nil, nofun⟩

theorem singleton {w : String × Value} (h : Path.EndsInName (segments w.1)) : Independent [w] :=
  ⟨List.pairwise_singleton _ w, fun _ hw => List.mem_singleton.1 hw ▸ h⟩

theorem append (h : Independent ws) (h' : Independent vs)
    (ha : ∀ w ∈ ws, ∀ v ∈ vs, Apart (segments w.1) (segments v.1)) : Independent (ws ++ vs) where
  apart := List.pairwise_append.2 ⟨h.apart, h'.apart, ha⟩
  named w hw := by
    rcases List.mem_append.1 hw with hw | hw
    · exact h.named w hw
    · exact h'.named w hw

end Independent

namespace Value

variable {ws vs : List (String × Value)} {v w : Value}

theorem writeAll_append (ws vs : List (String × Value)) (v : Value) :
    writeAll (ws ++ vs) v = writeAll ws v >>= writeAll vs :=
  List.foldlM_append

theorem writeAll_cons_eq_ok {e : String × Value} :
    writeAll (e :: ws) v = .ok w ↔
      ∃ m, write e.2 (segments e.1) v = (m, none) ∧ writeAll ws m = .ok w := by
  rw [writeAll, List.foldlM_cons]
  simp only [← setOrError_eq_ok_iff]
  cases v.setOrError e.1 e.2 with
  | error e => simp [Bind.bind, Except.bind]
  | ok m => simp [Bind.bind, Except.bind, writeAll]

/-- What is apart from all writes is as it was. -/
theorem follow_writeAll_of_apart (h : writeAll ws v = .ok w) {q : List String}
    (hq : ∀ e ∈ ws, Apart (segments e.1) q) : w.follow q = v.follow q := by
  induction ws generalizing v with
  | nil => exact Except.ok.inj h ▸ rfl
  | cons e rest ih =>
    obtain ⟨m, hm, h⟩ := writeAll_cons_eq_ok.1 h
    rw [ih h fun e' he => hq e' (List.mem_cons_of_mem e he),
      follow_write_of_apart (hq e List.mem_cons_self) hm]

/-- Independent writes go through in any order, and leave the same value. -/
theorem writeAll_perm (hp : ws.Perm vs) (hi : Independent ws) (h : writeAll ws v = .ok w) :
    writeAll vs v = .ok w := by
  induction hp generalizing v w with
  | nil => exact h
  | cons e _ ih =>
    obtain ⟨m, hm, h⟩ := writeAll_cons_eq_ok.1 h
    exact writeAll_cons_eq_ok.2 ⟨m, hm, ih hi.of_cons h⟩
  | swap e e' ws =>
    obtain ⟨m, hm, h⟩ := writeAll_cons_eq_ok.1 h
    obtain ⟨u, hu, h⟩ := writeAll_cons_eq_ok.1 h
    have hapart := (List.pairwise_cons.1 hi.apart).1 e List.mem_cons_self
    obtain ⟨m', hm', hu'⟩ := write_swap hapart (hi.named e' List.mem_cons_self) hm hu
    exact writeAll_cons_eq_ok.2 ⟨m', hm', writeAll_cons_eq_ok.2 ⟨u, hu', h⟩⟩
  | trans hp _ ih ih' => exact ih' (hi.perm hp) (ih hi h)

end Value

section Initials

variable {ctx : Context} {nodes : List Node}

/-- The keys of a scope and their initial values. -/
def Context.initials (ctx : Context) (nodes : List Node) : List (String × Value) :=
  (ctx.scope nodes).map fun o => (o.ownKey, ctx.initialOf o)

theorem outcome_initialValues_eq_writeAll (ctx : Context) (nodes : List Node) :
    (initialValues ctx nodes).outcome = Value.writeAll (ctx.initials nodes) .empty := by
  rw [outcome_initialValues, Value.writeAll, Context.initials, List.foldlM_map]
  rfl

/-- Initial values are written to names that are apart, if every key has a segment. -/
theorem independent_initials (hc : CleanScope ctx nodes)
    (hk : ∀ o ∈ ctx.scope nodes, o.segments ≠ []) : Independent (ctx.initials nodes) where
  apart := by
    rw [Context.initials, List.pairwise_map]
    refine hc.disjoint.imp_of_mem fun {a b} ha _ hab => ?_
    exact Path.apart_of_not_isPrefix (hc.named a ha) hab.1 hab.2
  named w hw := by
    obtain ⟨o, ho, rfl⟩ := List.mem_map.1 hw
    exact .of_forall (hk o ho) (hc.named o ho)

end Initials

end FormLogic
