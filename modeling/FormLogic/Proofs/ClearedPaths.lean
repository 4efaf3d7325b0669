import FormLogic.Proofs.LocatedVisit
import FormLogic.Proofs.Settling

/-!
# Nothing changes unlogged

Whatever the types of a registry put in the place of a value, it is put there by a write
that is logged. So a resolution leaves every place alone that is apart from all cleared
paths, and none of them is listed twice.
-/
namespace FormLogic

open FormLogic.Path (Apart segments)
open Visibility

namespace Visibility

variable {ctx : Context} {nodes : List Node} {before : Value} {outcome : Outcome}

/-- A pass leaves alone what is apart from the paths it logs. -/
theorem follow_of_run (h : (run ctx nodes before).outcome = .ok outcome) {q : List String}
    (hq : ∀ p ∈ outcome.cleared, Apart (segments p) q) :
    outcome.values.follow q = before.follow q := by
  obtain ⟨ws, hws, -⟩ := wrote_of_sweep (sweep_of_run h)
  have hcleared : outcome.cleared = ws.map (·.1) := hws.cleared_eq.trans (List.nil_append _)
  refine hws.follow_of_apart fun w hw => hq w.1 ?_
  rw [hcleared]
  exact List.mem_map_of_mem hw

/-- A pass that logs nothing leaves the values as they are. -/
theorem eq_of_cleared_nil (h : (run ctx nodes before).outcome = .ok outcome)
    (hlog : outcome.cleared = []) : outcome.values = before := by
  have hwhole : outcome.values.follow [] = before.follow [] :=
    follow_of_run h fun p hp => by rw [hlog] at hp; cases hp
  exact Option.some.inj hwhole

end Visibility

namespace Engine

section Frame

variable {engine : Engine} {values : Value} {rounds : List Round} {last : Round}

/-- So do all passes of a history, of which each begins with what is there at the end. -/
theorem HistoryFrom.follow_eq {r : Settled} (h : History engine values rounds last r)
    {q : List String} (hq : ∀ p ∈ r.cleared, Apart (segments p) q) :
    r.values.follow q = values.follow q ∧
      ∀ round ∈ rounds ++ [last], r.values.follow q = round.before.follow q := by
  rw [h.values_eq]
  refine h.ran.unchanged (f := fun v => v.follow q) fun round hr => ?_
  exact follow_of_run (h.ran.outcome_of_mem round hr) fun p hp =>
    hq p (h.mem_cleared.2 ⟨round, hr, hp⟩)

theorem HistoryFrom.nodup_cleared {r : Settled} (h : History engine values rounds last r) :
    r.cleared.Nodup := by
  rw [h.cleared_eq]
  exact nodup_addPaths List.nodup_nil

/-- The cleared paths of a resolution are distinct, and a value apart from all of them is as it was
given. -/
theorem kept_apart_from_cleared {r : Resolution} (h : (engine.resolve values).outcome = .ok r) :
    r.cleared.Nodup ∧
      (∀ q : String, (∀ p ∈ r.cleared, Apart (segments p) (segments q)) →
        r.values.get? q = values.get? q) ∧
      (r.cleared = [] → r.values = values) := by
  obtain ⟨⟨rounds, last, hist⟩, -, -⟩ := exists_history h
  refine ⟨hist.nodup_cleared, fun q hq => (hist.follow_eq hq).1, fun hnil => ?_⟩
  -- The whole is the value below no segments.
  have hwhole : r.values.follow [] = values.follow [] :=
    (hist.follow_eq fun p hp => by rw [hnil] at hp; cases hp).1
  exact Option.some.inj hwhole

end Frame

namespace Sealed

/-- Whatever is stored becomes `true`. -/
def sealType : NodeType where
  kind := .leaf
  applyVisibility := some fun _ _ _ => some (.bool true)
  validator := some fun _ _ => pure { label := "seal" }

def engine : Engine where
  schema := ⟨[{ type := "seal", key := some "seal" }]⟩
  context := ⟨Registry.standard.register "seal" sealType, Conditions.declarative, none⟩
  maxPasses := 3
  maxPasses_pos := by decide

def values : Value := .obj [("seal", .bool false), ("text", .str "Dear Ada")]

theorem exists_resolution : ∃ r, (engine.resolve values).outcome = .ok r ∧
    r.cleared = ["seal"] :=
  Noted.exists_of_toOption (engine.resolve values) (fun r => r.cleared) (by decide)

end Sealed

open Sealed in
/-- The letter is sealed, and its text is left alone. -/
theorem kept_apart_from_cleared_sealed : ∃ r, (engine.resolve values).outcome = .ok r ∧
    r.cleared = ["seal"] ∧ r.values.get? "text" = some (.str "Dear Ada") := by
  obtain ⟨r, hr, hcleared⟩ := exists_resolution
  have hread : values.get? "text" = some (.str "Dear Ada") := by rfl
  refine ⟨r, hr, hcleared, ((kept_apart_from_cleared hr).2.1 "text" ?_).trans hread⟩
  intro p hp
  rw [hcleared, List.mem_singleton] at hp
  subst hp
  exact Path.apart_of_not_isPrefix (by decide) (by decide) (by decide)

end Engine
end FormLogic
