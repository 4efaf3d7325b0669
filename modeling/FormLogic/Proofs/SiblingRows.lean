import FormLogic.Proofs.AddressablePaths
import FormLogic.Proofs.BesideRow
import FormLogic.Proofs.DistinctPaths
import Mathlib.Data.List.Infix
import Mathlib.Data.List.Pairwise

/-!
# Rows do not reach into their siblings

Two passes over values that differ in one row of a list, which no condition reads, show and
hide the same outside of that row, reset the same paths there and leave the same values. So
one person's row tells nothing about the rows of the others, nor about the rest of the form.
-/
namespace FormLogic

open FormLogic.Path (Apart segments)
open Visibility

/-- No condition reads what a node owns, something in it, or something that it lies in. -/
def Node.Unread (r : Node) (nodes : List Node) : Prop :=
  ∀ n, Node.Within nodes n → ∀ source ∈ n.conditional.bind Conditional.source?,
    ¬ Path.segments source <+: r.segments ∧ ¬ r.segments <+: Path.segments source

instance (r : Node) (nodes : List Node) : Decidable (r.Unread nodes) :=
  decidable_of_iff (∀ n ∈ nodes, n.all (fun m => decide
      (∀ source ∈ m.conditional.bind Conditional.source?,
        ¬ Path.segments source <+: r.segments ∧ ¬ r.segments <+: Path.segments source)) = true)
    (by simp only [Node.forall_within_iff, Node.Unread, decide_eq_true_iff])

namespace Visibility

variable {ctx : Context} {nodes : List Node} {r : Node} {index : Nat} {v w : Value}

/-- Conditions that read elsewhere read alike what differs in a row. -/
theorem ReadAlike.of_unread (hn : ∀ s ∈ r.segments, Path.index? s = none) (hr : r.Unread nodes)
    (h : SameBesideRow r.ownKey index v w) : ReadAlike nodes v w := fun n hw source hs => by
  obtain ⟨hsr, hrs⟩ := hr n hw source hs
  refine h.apart _ ?_
  rw [Path.segments_row]
  exact (Path.apart_of_not_isPrefix hn hrs hsr).of_isPrefix (List.prefix_append _ _) List.prefix_rfl

section Paths

variable {before : Value} {outcome : Outcome} {l : Location}

/-- In a clean schema all paths are plain. -/
theorem plain_path (hs : ctx.registry = Registry.standard) (hc : Clean ctx nodes)
    (h : (run ctx nodes before).outcome = .ok outcome) (hl : l.In outcome.tree) :
    Path.Plain (segments l.self.path) := by
  have hstep : ∀ {l : Location}, l.In outcome.tree → Path.Plain (segments (l.place before).base) →
      Path.Plain (segments l.self.path) := fun {l} hl hbase => by
    obtain ⟨s, s', va⟩ := exists_visitAt hs hc h hl
    rw [va.visited.segments_path]
    refine hbase.append ?_
    split
    · next ho =>
      refine .of_names (va.clean.scope.named _ ?_)
      rw [Context.scope_singleton, Context.owners_of_owns ho]
      exact List.mem_cons_self
    · exact .of_names nofun
  induction hl with
  | top hi => exact hstep (.top hi) (.of_names nofun)
  | child ha hi ih => exact hstep (.child ha hi) ih
  | @inRow above index row i ha hr hi ih =>
    refine hstep (.inRow ha hr hi) ?_
    rw [Location.place, Place.base_inRow, Path.segments_row]
    exact ih.append (.numeral index)

/-- An instance in rows stands below the path of a node of the top-level scope. -/
theorem exists_scope_of_inRow (h : (run ctx nodes before).outcome = .ok outcome)
    (hl : l.In outcome.tree) (hr : l.rowPath? ≠ none) :
    ∃ o ∈ ctx.scope nodes, o.segments <+: segments l.self.path ∧
      o.segments.length < (segments l.self.path).length := by
  have hbelow : ∀ {o : Node} {p q : List String}, o.segments <+: p ∧ o.segments.length < p.length →
      p <+: q → o.segments <+: q ∧ o.segments.length < q.length := fun hp hpq =>
    ⟨hp.1.trans hpq, Nat.lt_of_lt_of_le hp.2 hpq.length_le⟩
  induction hl with
  | top => exact absurd rfl hr
  | @child above i ha hi ih =>
    obtain ⟨o, ho, hp⟩ := ih hr
    have hpath := path_prefix_child h ha hi
    exact ⟨o, ho, hbelow hp hpath⟩
  | @inRow above index row i ha hrow hi ih =>
    have hpath := path_prefix_inRow h ha hrow hi
    rw [Path.segments_row] at hpath
    by_cases hrows : above.rowPath? = none
    · obtain ⟨_, _, _, -, hv⟩ := exists_visited h ha
      obtain ⟨_, _, -, -, ho, -⟩ := hv.sweep_rows hrow
      obtain ⟨hscope, hkey⟩ := owner_of_outside h ha hrows (hv.ownsValue_eq.trans ho)
      have hsegments : above.self.node.segments = segments above.self.path := by
        rw [Node.segments, hkey, Option.getD_some]
      exact ⟨_, hscope, hbelow (by simp [hsegments]) hpath⟩
    · obtain ⟨o, ho, hp⟩ := ih hrows
      exact ⟨o, ho, hbelow (hbelow hp (List.prefix_append _ _)) hpath⟩

/-- What else a top-level scope owns is apart from a node of it. -/
theorem eq_or_apart_of_mem_scope (hc : CleanScope ctx nodes) (hr : r ∈ ctx.scope nodes) {o : Node}
    (ho : o ∈ ctx.scope nodes) : o = r ∨ Apart r.segments o.segments := by
  have hsymm : Std.Symm fun a b : Node =>
      ¬ a.segments <+: b.segments ∧ ¬ b.segments <+: a.segments := ⟨fun _ _ h => h.symm⟩
  by_cases he : o = r
  · exact Or.inl he
  · obtain ⟨hro, hor⟩ := hc.disjoint.forall hr ho (Ne.symm he)
    exact Or.inr (Path.apart_of_not_isPrefix (hc.named r hr) hro hor)

/-- Besides the list itself, all values outside of a row stand apart from it. -/
theorem apart_of_outsideRow (hs : ctx.registry = Registry.standard) (hc : Clean ctx nodes)
    (hr : r ∈ ctx.scope nodes) (h : (run ctx nodes before).outcome = .ok outcome)
    (hl : l.In outcome.tree) (ho : l.self.ownsValue = true) (hp : l.self.path ≠ r.ownKey)
    (hout : Path.outsideRow r.ownKey index l.self.path = true) :
    Apart (segments (Path.row r.ownKey index)) (segments l.self.path) := by
  rw [Path.outsideRow_eq_true_iff] at hout
  have hrow : Path.Plain (segments (Path.row r.ownKey index)) := by
    rw [Path.segments_row]
    exact (Path.Plain.of_names (hc.scope.named r hr)).append (.numeral index)
  refine hrow.apart (plain_path hs hc h hl) hout fun hway => ?_
  rw [Path.segments_row, List.prefix_concat_iff, ← Path.segments_row] at hway
  rcases hway with heq | hlist
  · exact hout (heq ▸ List.prefix_rfl)
  · -- A path that leads to the list is that of the list, as the keys of a scope are disjoint.
    have hlead : ∀ o ∈ ctx.scope nodes, o.segments <+: segments l.self.path → o = r :=
      fun o ho hway => (eq_or_apart_of_mem_scope hc.scope hr ho).resolve_right fun hapart =>
        Path.not_apart_of_isPrefix (hway.trans hlist) hapart.symm
    by_cases hrows : l.rowPath? = none
    · obtain ⟨hscope, hkey⟩ := owner_of_outside h hl hrows ho
      refine hp ?_
      rw [← hlead _ hscope (by rw [Node.segments, hkey, Option.getD_some]), Node.ownKey_eq hkey]
    · obtain ⟨o, ho, hway, hlen⟩ := exists_scope_of_inRow h hl hrows
      rw [hlead o ho hway] at hlen
      exact absurd hlist.length_le (Nat.not_le_of_lt hlen)

/-- What a pass leaves at a place apart from a row is told without what it writes in the row. -/
theorem follow_of_apart_row (hs : ctx.registry = Registry.standard) (hc : Clean ctx nodes)
    (h : (run ctx nodes before).outcome = .ok outcome) {path : String} {q : List String}
    (hq : Path.Plain q) (hapart : Apart (segments (Path.row path index)) q) :
    outcome.values.follow q =
      ((passPlan ctx before nodes).writes.filter fun e => Path.outsideRow path index e.1).foldl
        (Value.readAfter q) (before.follow q) := by
  obtain ⟨hvalues, -, hcleared⟩ := (run_eq_ok_iff hs hc).1 h
  rw [Value.follow_writeAll hq (fun e he => ?_) hvalues,
    Value.foldl_readAfter_filter fun e _ hin => ?_]
  · rw [Bool.eq_false_iff, ne_eq, Path.outsideRow_eq_true_iff, not_not] at hin
    exact hapart.of_isPrefix hin List.prefix_rfl
  · have hmem : e.1 ∈ outcome.cleared := hcleared ▸ List.mem_map_of_mem he
    obtain ⟨l, hl, -, hpath⟩ := exists_owner_of_mem_cleared h hmem
    exact hpath ▸ plain_path hs hc h hl

end Paths

/-- Passes over values that differ in one row of a list, which no condition reads, agree outside of
the row: on what is hidden, on the values besides the list, on its other rows, and on the paths that
are reset. -/
theorem pass_beside_row (hs : ctx.registry = Registry.standard)
    (hd : ctx.conditions = Conditions.declarative) (hc : Clean ctx nodes)
    (hr : r ∈ ctx.scope nodes) (hk : ctx.kindOf r = some .repeater) (hu : r.Unread nodes)
    (h : SameBesideRow r.ownKey index v w) {o o' : Outcome}
    (ho : (run ctx nodes v).outcome = .ok o) (ho' : (run ctx nodes w).outcome = .ok o') :
    o'.tree.map (Instance.withoutRow r.ownKey index) =
        o.tree.map (Instance.withoutRow r.ownKey index) ∧
      (∀ i ∈ Instance.flattenAll o.tree, i.ownsValue = true → i.path ≠ r.ownKey →
        Path.outsideRow r.ownKey index i.path = true →
        o'.values.get? i.path = o.values.get? i.path) ∧
      (∀ k ≠ index, o'.values.get? (Path.row r.ownKey k) = o.values.get? (Path.row r.ownKey k)) ∧
      o'.cleared.filter (Path.outsideRow r.ownKey index) =
        o.cleared.filter (Path.outsideRow r.ownKey index) := by
  have hnames := hc.scope.named r hr
  have hread : ReadAlike nodes v w := .of_unread hnames hu h
  have hplan : ∀ n ∈ nodes, SamePlan r.ownKey index (planOf ctx w n {} {})
      (planOf ctx v n {} {}) := fun n hn =>
    .of_scope hs hd hk h n (fun m hm => eq_or_apart_of_mem_scope hc.scope hr
      (Context.mem_scope_of_mem hn hm)) (hread.of_mem hn) rfl
  obtain ⟨hresult, hwrites⟩ := SamePlan.all hplan
  have hvalue : ∀ {q}, Path.Plain q → Apart (segments (Path.row r.ownKey index)) q →
      o'.values.follow q = o.values.follow q := fun {q} hq hapart => by
    rw [follow_of_apart_row hs hc ho hq hapart, follow_of_apart_row hs hc ho' hq hapart,
      h.apart q hapart, passPlan, passPlan, hwrites]
  obtain ⟨-, htree, hcleared⟩ := (run_eq_ok_iff hs hc).1 ho
  obtain ⟨-, htree', hcleared'⟩ := (run_eq_ok_iff hs hc).1 ho'
  refine ⟨?_, fun i hi hown hp hout => ?_, fun k hne => ?_, ?_⟩
  · rw [htree, htree']
    exact hresult
  · obtain ⟨l, hl, rfl⟩ := Location.mem_flattenAll_iff.1 hi
    exact hvalue (plain_path hs hc ho hl) (apart_of_outsideRow hs hc hr ho hl hown hp hout)
  · refine hvalue ?_ ?_ <;> simp only [Path.segments_row]
    · exact (Path.Plain.of_names hnames).append (.numeral k)
    · exact (Path.apart_append_iff _ _ _).2 (Path.apart_rows hne.symm)
  · rw [hcleared, hcleared', List.filter_map, List.filter_map]
    exact congrArg (List.map _) hwrites

namespace Picnic

def context : Context := ⟨Registry.standard, Conditions.declarative, none⟩

def vegan : Node := { type := "checkbox", key := some "vegan" }

/-- Asked of vegans only. -/
def dish : Node :=
  ({ type := "textfield", key := some "dish" } : Node).withConditional true "vegan" (.bool true)

def guests : Node := { type := "editgrid", key := some "guests", components := [vegan, dish] }

def place : Node := { type := "textfield", key := some "place" }

def form : List Node := [{ type := "panel", components := [guests] }, place]

def guest (vegan : Bool) (dish : String) : Value :=
  .obj [("dish", .str dish), ("vegan", .bool vegan)]

def values (first : Value) : Value :=
  .obj [("guests", .arr [first, guest false "pie"]), ("place", .str "park")]

theorem scope_form : context.scope form = [guests, place] := rfl

theorem sameBesideRow (first other : Value) :
    SameBesideRow guests.ownKey 0 (values first) (values other) :=
  @sameBesideRow_of_set _ _ _ _ other [first, guest false "pie"] rfl (Nat.zero_lt_succ 1) rfl

theorem exists_outcome_vegan : ∃ o,
    (run context form (values (guest true "tofu"))).outcome = .ok o ∧
      o.cleared = ["guests.1.dish"] :=
  Noted.exists_of_toOption (run context form (values (guest true "tofu"))) (·.cleared)
    (by decide +kernel)

theorem exists_outcome_other : ∃ o,
    (run context form (values (guest false "ham"))).outcome = .ok o ∧
      o.cleared = ["guests.0.dish", "guests.1.dish"] :=
  Noted.exists_of_toOption (run context form (values (guest false "ham"))) (·.cleared)
    (by decide +kernel)

end Picnic

open Picnic in
/-- Whether the first guest is a vegan matters to the dish of that guest only. -/
theorem pass_beside_row_picnic : ∃ o o',
    (run context form (values (guest true "tofu"))).outcome = .ok o ∧
    (run context form (values (guest false "ham"))).outcome = .ok o' ∧
    o.cleared = ["guests.1.dish"] ∧ o'.cleared = ["guests.0.dish", "guests.1.dish"] ∧
    o'.tree.map (Instance.withoutRow "guests" 0) = o.tree.map (Instance.withoutRow "guests" 0) ∧
    o'.values.get? (Path.row "guests" 1) = o.values.get? (Path.row "guests" 1) ∧
    o'.cleared.filter (Path.outsideRow "guests" 0) =
      o.cleared.filter (Path.outsideRow "guests" 0) := by
  obtain ⟨o, ho, hcleared⟩ := exists_outcome_vegan
  obtain ⟨o', ho', hcleared'⟩ := exists_outcome_other
  obtain ⟨htree, -, hrows, hsame⟩ := @pass_beside_row context form guests 0 _ _ rfl rfl (by decide)
    (by rw [scope_form]; exact List.mem_cons_self) (by decide) (by decide) (sameBesideRow _ _)
    o o' ho ho'
  exact ⟨o, o', ho, ho', hcleared, hcleared', htree, hrows 1 (by decide), hsame⟩

end Visibility
end FormLogic
