import FormLogic.Validation.Tracker
import Mathlib.Data.List.Nodup

/-!
# The history of a tracker

The calls made on a tracker are recorded as events, the newest first. A ticket is current
when the newest event that begins or forgets its path is the one that issued it, and the
result of a path is told by the newest event that accepts one for it or forgets it. Tickets
are finished here in any order, late, never or again and again. Generations count the
validations begun, so that a machine word holds them while fewer than 2^64 have begun.
-/
namespace FormLogic.Tracker

/-- A call on a tracker, with what came of it. -/
inductive Event where
  | begun (ticket : Ticket)
  | finished (ticket : Ticket) (result : ValidationResult) (accepted : Bool)
  | forgotten (path : String)

namespace Event

/-- The path that a call is about. -/
def path : Event → String
  | begun ticket | finished ticket _ _ => ticket.path
  | forgotten path => path

def isBegun : Event → Bool
  | begun _ => true
  | finished .. | forgotten _ => false

def ticket? : Event → Option Ticket
  | begun ticket => some ticket
  | finished .. | forgotten _ => none

def result? : Event → Option ValidationResult
  | finished _ result _ => some result
  | begun _ | forgotten _ => none

/-- The call decides which ticket of the path is current: it begins or forgets the path. -/
def decidesTicket (p : String) : Event → Bool
  | begun ticket => ticket.path == p
  | forgotten path => path == p
  | finished .. => false

/-- The call decides what the result of the path is: it is accepted for the path or forgets it. -/
def decidesResult (p : String) : Event → Bool
  | finished ticket _ accepted => accepted && ticket.path == p
  | forgotten path => path == p
  | begun _ => false

theorem decidesTicket_of_ne {e : Event} {p : String} (h : e.path ≠ p) :
    e.decidesTicket p = false := by
  cases e with
  | begun | forgotten => exact beq_eq_false_iff_ne.2 h
  | finished => rfl

theorem decidesResult_of_ne {e : Event} {p : String} (h : e.path ≠ p) :
    e.decidesResult p = false := by
  cases e with
  | begun => rfl
  | finished ticket result accepted =>
    have hp : (ticket.path == p) = false := beq_eq_false_iff_ne.2 h
    rw [decidesResult, hp, Bool.and_false]
  | forgotten => exact beq_eq_false_iff_ne.2 h

end Event

/-- The ticket that was begun last for a path, unless the path was forgotten since. -/
def newest? (p : String) (past : List Event) : Option Ticket :=
  (past.find? (Event.decidesTicket p)).bind Event.ticket?

/-- The result that was accepted last for a path, unless the path was forgotten since. -/
def accepted? (p : String) (past : List Event) : Option ValidationResult :=
  (past.find? (Event.decidesResult p)).bind Event.result?

/-- Calls made one after the other on a new tracker, the newest first. A ticket comes from a call
that began it, and may be finished any number of times after that. -/
inductive Run : List Event → Tracker → Prop
  | fresh : Run [] {}
  | start {past : List Event} {t : Tracker} (h : Run past t) (path : String) (value : Value) :
      Run (.begun (t.start path value).1 :: past) (t.start path value).2
  | finish {past : List Event} {t : Tracker} {ticket : Ticket} (h : Run past t)
      (ht : .begun ticket ∈ past) (result : ValidationResult) (current : Option Value) :
      Run (.finished ticket result (t.finish ticket result current).1 :: past)
        (t.finish ticket result current).2
  | forget {past : List Event} {t : Tracker} (h : Run past t) (path : String) :
      Run (.forgotten path :: past) (t.forget path)

section Entries

variable {α : Type}

theorem lookup_dropped (path q : String) (entries : List (String × α)) :
    (entries.filter fun entry => entry.1 != path).lookup q =
      if q = path then none else entries.lookup q := by
  induction entries with
  | nil => simp
  | cons entry rest ih =>
    obtain ⟨k, a⟩ := entry
    rw [List.filter_cons]
    by_cases hk : k = path
    · subst hk
      rw [if_neg (by simp), ih]
      by_cases hq : q = k
      · rw [if_pos hq, if_pos hq]
      · rw [if_neg hq, if_neg hq, List.lookup_cons, beq_eq_false_iff_ne.2 hq]
    · rw [if_pos (by simpa using hk), List.lookup_cons, List.lookup_cons, ih]
      by_cases hq : q = k
      · simp [hq, hk]
      · simp [beq_eq_false_iff_ne.2 hq]

theorem lookup_assign (path q : String) (a : α) (entries : List (String × α)) :
    (assign path a entries).lookup q = if q = path then some a else entries.lookup q := by
  rw [assign, List.lookup_cons]
  by_cases hq : q = path
  · simp [hq]
  · simp only [beq_eq_false_iff_ne.2 hq, lookup_dropped, if_neg hq]

end Entries

/-- A ticket is current when it is the newest of its path and the value is as it was. -/
theorem isCurrent_iff {t : Tracker} {ticket : Ticket} {current : Option Value} :
    t.isCurrent ticket current = true ↔ t.latest.lookup ticket.path = some ticket.generation ∧
      ∃ v, current = some v ∧ (v == ticket.value) = true := by
  rw [isCurrent, Bool.and_eq_true, beq_iff_eq]
  cases current <;> simp

theorem finish_fst (t : Tracker) (ticket : Ticket) (result : ValidationResult)
    (current : Option Value) :
    (t.finish ticket result current).1 = t.isCurrent ticket current := by
  rw [finish]
  split
  · next h => exact h.symm
  · next h => exact (eq_false_of_ne_true h).symm

theorem finish_of_accepted {t : Tracker} {ticket : Ticket} {result : ValidationResult}
    {current : Option Value} (h : (t.finish ticket result current).1 = true) :
    (t.finish ticket result current).2 =
      { t with results := assign ticket.path result t.results } := by
  rw [finish_fst] at h
  rw [finish, if_pos h]

theorem finish_of_rejected {t : Tracker} {ticket : Ticket} {result : ValidationResult}
    {current : Option Value} (h : (t.finish ticket result current).1 = false) :
    (t.finish ticket result current).2 = t := by
  rw [finish_fst] at h
  rw [finish, if_neg (by rw [h]; decide)]

section Calls

variable (p path : String) (ticket : Ticket) (result : ValidationResult) (past : List Event)

/-- The newest call is the one found if it decides. -/
theorem find?_cons_bind {α : Type} (decides : Event → Bool) (f : Event → Option α) (e : Event) :
    ((e :: past).find? decides).bind f =
      if decides e = true then f e else (past.find? decides).bind f := by
  rw [List.find?_cons]
  cases decides e <;> rfl

theorem newest?_begun : newest? p (.begun ticket :: past) =
    if p = ticket.path then some ticket else newest? p past := by
  rw [newest?, find?_cons_bind]
  simp only [Event.decidesTicket, beq_iff_eq, @eq_comm _ p]
  rfl

theorem newest?_forgotten : newest? p (.forgotten path :: past) =
    if p = path then none else newest? p past := by
  rw [newest?, find?_cons_bind]
  simp only [Event.decidesTicket, beq_iff_eq, @eq_comm _ p]
  rfl

theorem accepted?_finished : accepted? p (.finished ticket result true :: past) =
    if p = ticket.path then some result else accepted? p past := by
  rw [accepted?, find?_cons_bind]
  simp only [Event.decidesResult, Bool.true_and, beq_iff_eq, @eq_comm _ p]
  rfl

theorem accepted?_forgotten : accepted? p (.forgotten path :: past) =
    if p = path then none else accepted? p past := by
  rw [accepted?, find?_cons_bind]
  simp only [Event.decidesResult, beq_iff_eq, @eq_comm _ p]
  rfl

end Calls

/-- What the calls of a history have made of a tracker. -/
structure Recorded (past : List Event) (t : Tracker) : Prop where
  generation_eq : t.generation = past.countP Event.isBegun
  /-- No ticket issued so far is newer than the generation reached. -/
  issued : ∀ ticket, .begun ticket ∈ past → ticket.generation ≤ t.generation
  /-- A later ticket is of a later generation, whatever its path. -/
  ascending : (past.filterMap Event.ticket?).Pairwise fun a b => b.generation < a.generation
  latest_eq : ∀ p, t.latest.lookup p = (newest? p past).map Ticket.generation
  result_eq : ∀ p, t.result? p = accepted? p past

namespace Recorded

variable {past : List Event} {t : Tracker}

theorem fresh : Recorded [] {} :=
  ⟨rfl, nofun, List.Pairwise.nil, fun _ => rfl, fun _ => rfl⟩

theorem start (h : Recorded past t) (path : String) (value : Value) :
    Recorded (.begun (t.start path value).1 :: past) (t.start path value).2 where
  generation_eq := by
    rw [List.countP_cons, ← h.generation_eq]
    rfl
  issued ticket hm := by
    rcases List.mem_cons.1 hm with he | hm
    · obtain rfl := Event.begun.inj he
      exact Nat.le_refl _
    · exact Nat.le_succ_of_le (h.issued ticket hm)
  ascending := by
    refine List.pairwise_cons.2 ⟨fun ticket hm => ?_, h.ascending⟩
    obtain ⟨e, he, ht⟩ := List.mem_filterMap.1 hm
    cases e with
    | begun old =>
      obtain rfl := Option.some.inj ht
      exact Nat.lt_succ_of_le (h.issued old he)
    | finished | forgotten => cases ht
  latest_eq p := by
    rw [newest?_begun, apply_ite (Option.map Ticket.generation), ← h.latest_eq p]
    exact lookup_assign path p _ t.latest
  result_eq p := h.result_eq p

theorem finish (h : Recorded past t) (ticket : Ticket) (result : ValidationResult)
    (current : Option Value) :
    Recorded (.finished ticket result (t.finish ticket result current).1 :: past)
      (t.finish ticket result current).2 := by
  cases ha : (t.finish ticket result current).1 with
  | false =>
    rw [finish_of_rejected ha]
    exact ⟨h.generation_eq, fun issued hm => h.issued issued (by simpa using hm), h.ascending,
      h.latest_eq, h.result_eq⟩
  | true =>
    rw [finish_of_accepted ha]
    refine ⟨h.generation_eq, fun issued hm => h.issued issued (by simpa using hm), h.ascending,
      h.latest_eq, fun p => ?_⟩
    rw [accepted?_finished, ← h.result_eq p]
    exact lookup_assign ticket.path p result t.results

theorem forget (h : Recorded past t) (path : String) :
    Recorded (.forgotten path :: past) (t.forget path) where
  generation_eq := h.generation_eq
  issued ticket hm := h.issued ticket (by simpa using hm)
  ascending := h.ascending
  latest_eq p := by
    rw [newest?_forgotten, apply_ite (Option.map Ticket.generation), ← h.latest_eq p]
    exact lookup_dropped path p t.latest
  result_eq p := by
    rw [accepted?_forgotten, ← h.result_eq p]
    exact lookup_dropped path p t.results

end Recorded

section History

variable {past later earlier : List Event} {t t' : Tracker} {ticket : Ticket} {p : String}

/-- What every call preserves holds after any calls. -/
theorem recorded_of_run (h : Run past t) : Recorded past t := by
  induction h with
  | fresh => exact .fresh
  | start _ path value ih => exact ih.start path value
  | finish _ _ result current ih => exact ih.finish _ result current
  | forget _ path ih => exact ih.forget path

theorem newest?_eq_some_iff : newest? p past = some ticket ↔ ticket.path = p ∧
    ∃ later earlier, past = later ++ .begun ticket :: earlier ∧
      ∀ e ∈ later, e.decidesTicket p = false := by
  rw [newest?, Option.bind_eq_some_iff]
  constructor
  · rintro ⟨e, he, ht⟩
    obtain ⟨hp, later, earlier, hpast, hlater⟩ := List.find?_eq_some_iff_append.1 he
    cases e with
    | begun issued =>
      obtain rfl := Option.some.inj ht
      exact ⟨eq_of_beq hp, later, earlier, hpast, fun e hm => by simpa using hlater e hm⟩
    | finished | forgotten => cases ht
  · rintro ⟨hp, later, earlier, hpast, hlater⟩
    exact ⟨.begun ticket, List.find?_eq_some_iff_append.2
      ⟨beq_iff_eq.2 hp, later, earlier, hpast, fun e hm => by simp [hlater e hm]⟩, rfl⟩

theorem accepted?_eq_some_iff {r : ValidationResult} : accepted? p past = some r ↔
    ∃ later ticket earlier, past = later ++ .finished ticket r true :: earlier ∧ ticket.path = p ∧
      ∀ e ∈ later, e.decidesResult p = false := by
  rw [accepted?, Option.bind_eq_some_iff]
  constructor
  · rintro ⟨e, he, hr⟩
    obtain ⟨hp, later, earlier, hpast, hlater⟩ := List.find?_eq_some_iff_append.1 he
    cases e with
    | finished ticket result accepted =>
      obtain rfl := Option.some.inj hr
      obtain ⟨rfl, hp⟩ := Bool.and_eq_true_iff.1 hp
      exact ⟨later, ticket, earlier, hpast, eq_of_beq hp, fun e hm => by simpa using hlater e hm⟩
    | begun | forgotten => cases hr
  · rintro ⟨later, ticket, earlier, hpast, hp, hlater⟩
    exact ⟨.finished ticket r true, List.find?_eq_some_iff_append.2
      ⟨by simp [Event.decidesResult, hp], later, earlier, hpast, fun e hm => by simp [hlater e hm]⟩,
      rfl⟩

theorem mem_begun_iff : .begun ticket ∈ past ↔ ticket ∈ past.filterMap Event.ticket? := by
  rw [List.mem_filterMap]
  constructor
  · exact fun h => ⟨_, h, rfl⟩
  · rintro ⟨e, he, ht⟩
    cases e with
    | begun issued => exact Option.some.inj ht ▸ he
    | finished | forgotten => cases ht

/-- No two tickets are of one generation. -/
theorem Recorded.eq_of_generation (h : Recorded past t) {other : Ticket}
    (ht : .begun ticket ∈ past) (ho : .begun other ∈ past)
    (hg : other.generation = ticket.generation) : other = ticket := by
  have hnodup : ((past.filterMap Event.ticket?).map Ticket.generation).Nodup :=
    List.pairwise_map.2 (h.ascending.imp fun hlt => Nat.ne_of_gt hlt)
  exact List.inj_on_of_nodup_map hnodup (mem_begun_iff.1 ho) (mem_begun_iff.1 ht) hg

/-- A ticket is current when its path was neither begun again nor forgotten, and the value is as it
was. -/
theorem Recorded.isCurrent_iff (h : Recorded past t) (ht : .begun ticket ∈ past)
    {current : Option Value} :
    t.isCurrent ticket current = true ↔ newest? ticket.path past = some ticket ∧
      ∃ v, current = some v ∧ (v == ticket.value) = true := by
  rw [Tracker.isCurrent_iff, h.latest_eq, Option.map_eq_some_iff]
  refine and_congr_left fun _ => ⟨?_, fun hn => ⟨ticket, hn, rfl⟩⟩
  rintro ⟨other, hn, hg⟩
  obtain ⟨-, later, earlier, hpast, -⟩ := newest?_eq_some_iff.1 hn
  have ho : .begun other ∈ past := by simp [hpast]
  exact h.eq_of_generation ht ho hg ▸ hn

/-- A ticket is begun once, and so what decides over its path later leaves it behind. -/
theorem Recorded.newest?_ne (h : Recorded (later ++ .begun ticket :: earlier) t)
    (hd : ∃ e ∈ later, e.decidesTicket p = true) :
    newest? p (later ++ .begun ticket :: earlier) ≠ some ticket := by
  intro hn
  obtain ⟨e, he⟩ := Option.isSome_iff_exists.1 (List.find?_isSome.2 hd)
  rw [newest?, List.find?_append, he] at hn
  -- The newest event that decides is a later one, and it issued this ticket.
  have hissued : ticket ∈ later.filterMap Event.ticket? :=
    List.mem_filterMap.2 ⟨e, List.mem_of_find?_eq_some he, hn⟩
  have hasc := h.ascending
  rw [List.filterMap_append, List.pairwise_append] at hasc
  exact Nat.lt_irrefl _ (hasc.2.2 ticket hissued ticket List.mem_cons_self)

theorem find?_append_of_forall {decides : Event → Bool} (h : ∀ e ∈ later, decides e = false) :
    (later ++ past).find? decides = past.find? decides := by
  have hnone : later.find? decides = none := List.find?_eq_none.2 fun e he => by simp [h e he]
  rw [List.find?_append, hnone, Option.none_or]

/-- Calls for other paths decide nothing. -/
theorem newest?_of_elsewhere (h : ∀ e ∈ later, e.path ≠ p) :
    newest? p (later ++ past) = newest? p past := by
  rw [newest?, find?_append_of_forall fun e he => Event.decidesTicket_of_ne (h e he), newest?]

theorem accepted?_of_elsewhere (h : ∀ e ∈ later, e.path ≠ p) :
    accepted? p (later ++ past) = accepted? p past := by
  rw [accepted?, find?_append_of_forall fun e he => Event.decidesResult_of_ne (h e he), accepted?]

/-- Whatever calls were made before, in whatever order: the generation counts the validations begun,
and the result of a path is the one accepted last since the path was last forgotten. A ticket is
accepted exactly when it is the last one begun for its path, the path was not forgotten since, and
the value is present and as it was; a rejected ticket leaves the tracker as it is. So a ticket is of
no use any more once its path was begun again or forgotten, and calls for other paths change neither
the result of a path nor the answer to any of its tickets. -/
theorem last_write_wins (h : Run past t) :
    t.generation = past.countP Event.isBegun ∧
    (∀ path r, t.result? path = some r ↔
      ∃ later ticket earlier, past = later ++ .finished ticket r true :: earlier ∧
        ticket.path = path ∧ ∀ e ∈ later, e.decidesResult path = false) ∧
    (∀ ticket, .begun ticket ∈ past → ∀ result current,
      ((t.finish ticket result current).1 = true ↔
        (∃ later earlier, past = later ++ .begun ticket :: earlier ∧
          ∀ e ∈ later, e.decidesTicket ticket.path = false) ∧
        ∃ v, current = some v ∧ (v == ticket.value) = true) ∧
      ((t.finish ticket result current).1 = false → (t.finish ticket result current).2 = t)) ∧
    (∀ later ticket earlier, past = later ++ .begun ticket :: earlier →
      (∃ e ∈ later, e.decidesTicket ticket.path = true) →
      ∀ result current, (t.finish ticket result current).1 = false) ∧
    ∀ later t', Run (later ++ past) t' → ∀ path, (∀ e ∈ later, e.path ≠ path) →
      t'.result? path = t.result? path ∧
      ∀ issued, .begun issued ∈ past → issued.path = path → ∀ result current,
        (t'.finish issued result current).1 = (t.finish issued result current).1 := by
  have hrec := recorded_of_run h
  refine ⟨hrec.generation_eq, fun path r => ?_,
    fun ticket ht result current => ⟨?_, finish_of_rejected⟩,
    fun later ticket earlier hpast hd result current => ?_,
    fun later t' h' path hother => ⟨?_, fun issued hi hpath result current => ?_⟩⟩
  · rw [hrec.result_eq, accepted?_eq_some_iff]
  · rw [finish_fst, hrec.isCurrent_iff ht, newest?_eq_some_iff]
    simp only [true_and]
  · subst hpast
    rw [finish_fst]
    refine eq_false_of_ne_true fun hcurrent => ?_
    obtain ⟨hn, -⟩ := (hrec.isCurrent_iff (by simp)).1 hcurrent
    exact hrec.newest?_ne hd hn
  · rw [(recorded_of_run h').result_eq, hrec.result_eq, accepted?_of_elsewhere hother]
  · subst hpath
    rw [finish_fst, finish_fst, Bool.eq_iff_iff, hrec.isCurrent_iff hi,
      (recorded_of_run h').isCurrent_iff (List.mem_append_right _ hi), newest?_of_elsewhere hother]

end History

namespace BegunAgain

def first : Ticket := ⟨"vin", 1, .str "abc"⟩

def elsewhere : Ticket := ⟨"plate", 2, .null⟩

def second : Ticket := ⟨"vin", 3, .str "abc"⟩

def valid : ValidationResult := { path := "vin", issues := [] }

def past : List Event :=
  [.finished second valid true, .begun second, .forgotten "vin", .begun elsewhere, .begun first]

def tracker : Tracker where
  generation := 3
  latest := [("vin", 3), ("plate", 2)]
  results := [("vin", valid)]

theorem run : Run past tracker :=
  .finish (.start (.forget (.start (.start .fresh "vin" (.str "abc")) "plate" .null) "vin") "vin"
    (.str "abc")) List.mem_cons_self valid (some (.str "abc"))

end BegunAgain

open BegunAgain in
/-- The ticket from before the path was forgotten is rejected, though the value is the same; the one
begun since is accepted once more. -/
theorem last_write_wins_begunAgain :
    (tracker.finish first valid (some (.str "abc"))).1 = false ∧
      (tracker.finish second valid (some (.str "abc"))).1 = true := by
  obtain ⟨-, -, hcurrent, hstale, -⟩ := last_write_wins run
  constructor
  · exact hstale [.finished second valid true, .begun second, .forgotten "vin", .begun elsewhere]
      first [] rfl ⟨.forgotten "vin", by simp, by decide⟩ valid (some (.str "abc"))
  · have hsecond : .begun second ∈ past := by simp [past]
    refine (hcurrent second hsecond valid (some (.str "abc"))).1.2 ⟨⟨[.finished second valid true],
      [.forgotten "vin", .begun elsewhere, .begun first], rfl, ?_⟩, _, rfl, by decide⟩
    intro e he
    obtain rfl := List.mem_singleton.1 he
    rfl

end FormLogic.Tracker
