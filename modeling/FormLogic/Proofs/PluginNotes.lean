import FormLogic.Proofs.AddressablePaths
import FormLogic.Proofs.DecidableTrees
import FormLogic.Proofs.FlatValidation
import FormLogic.Proofs.KeptNotes
import FormLogic.Proofs.ValidatorParts

/-!
# Notes of plugin checks that nobody runs

Validators take a note of the plugin checks that a node names when there is no collaborator to
run them. A fresh sink keeps one note for each list of checks, for the first shown instance that
asks for it. Where a path belongs the note has the key of that instance: outside rows that is the
same text, and inside it never is.
-/
namespace FormLogic

open Visibility

/-- The plugin checks that a node names, in one text. -/
def Attributes.pluginList (a : Attributes) : String := ",".intercalate a.validate.plugins

/-- The shown instances with a value whose nodes name plugin checks, in the order of the tree. -/
def asking (is : List Instance) : List Instance :=
  (shownOwners is).filter fun i => !i.node.validate.plugins.isEmpty

/-- Of each list of plugin checks the first instance that asks for it. -/
def firstAsking (is : List Instance) : List Instance :=
  (asking is).eraseDupsBy fun i j => i.node.pluginList == j.node.pluginList

/-- The note of the plugin checks of an instance. -/
def Instance.pluginNote (i : Instance) (path : String) : Diagnostic :=
  .missingPlugins i.node.validate.plugins path

/-- What the validators of a tree note: each instance that asks, under its key. -/
def keyedNotes (is : List Instance) : List Diagnostic :=
  (asking is).map fun i => i.pluginNote (i.node.key?.getD "")

theorem notes_pluginRefinement (n : Node) : (Standard.pluginRefinement n none).notes =
    if n.validate.plugins.isEmpty then [] else
      [.missingPlugins n.validate.plugins (n.key?.getD "")] := by
  unfold Standard.pluginRefinement
  split <;> rfl

section Asking

variable {i : Instance}

theorem keyedNotes_cons (i : Instance) (is : List Instance) :
    keyedNotes (i :: is) = keyedNotes [i] ++ keyedNotes is := by
  simp only [keyedNotes, asking, shownOwners, Instance.filter_flattenAll_cons _ i is,
    List.filter_append, List.map_append]

theorem keyedNotes_of_not_owns (ho : i.ownsValue = false) (hc : i.children = [])
    (hr : i.rows = []) : keyedNotes [i] = [] := by
  rw [keyedNotes, asking, shownOwners_of_not_owns ho hc hr]
  rfl

theorem keyedNotes_of_container (ho : i.ownsValue = false) (hr : i.rows = []) :
    keyedNotes [i] = keyedNotes i.children := by
  rw [keyedNotes, asking, shownOwners_of_container ho hr]
  rfl

/-- An instance with a value asks before those in its rows. -/
theorem keyedNotes_of_owns (hh : i.hidden = false) (ho : i.ownsValue = true)
    (hc : i.children = []) : keyedNotes [i] =
      (Standard.pluginRefinement i.node none).notes ++ i.rows.flatMap keyedNotes := by
  rw [keyedNotes, asking, shownOwners_of_owns hh ho hc, List.filter_cons, List.filter_flatMap,
    notes_pluginRefinement]
  cases i.node.validate.plugins.isEmpty with
  | true => exact List.map_flatMap
  | false => exact congrArg _ List.map_flatMap

end Asking

theorem mem_shownOwners_of_mem_firstAsking {is : List Instance} {i : Instance}
    (h : i ∈ firstAsking is) : i ∈ shownOwners is :=
  (List.mem_filter.1 (mem_of_mem_eraseDupsBy h)).1

theorem ownsValue_of_mem_firstAsking {is : List Instance} {i : Instance}
    (h : i ∈ firstAsking is) : i.ownsValue = true :=
  (Bool.and_eq_true _ _ ▸ (List.mem_filter.1 (mem_shownOwners_of_mem_firstAsking h)).2).1

theorem exists_location_of_mem_firstAsking {is : List Instance} {i : Instance}
    (h : i ∈ firstAsking is) : ∃ l : Location, l.In is ∧ l.self = i :=
  Location.mem_flattenAll_iff.1 (List.mem_filter.1 (mem_shownOwners_of_mem_firstAsking h)).1

section Validators

variable {ctx : Context}

/-- The validator of a node takes the note of its plugin checks, and no other. -/
def NotesOwn (ctx : Context) (n : Node) : Prop :=
  ∀ v?, (Instance.ownValidator ctx n).outcome = .ok v? →
    (Instance.ownValidator ctx n).notes = (Standard.pluginRefinement n none).notes

theorem notesOwn_of_judges (hcol : ctx.collaborator = none) {n : Node} {t : NodeType}
    {isEmpty : Option Value → Bool} {rules : Node → Except FormError (List Rule)}
    (ht : ctx.typeOf n = some t) (hj : Judges t isEmpty rules) : NotesOwn ctx n := by
  intro v? h
  unfold Instance.ownValidator at h ⊢
  simp only [ht, hj.validator_eq, hcol] at h ⊢
  obtain ⟨w, hw, -⟩ := Noted.outcome_bind_eq_ok.1 h
  obtain ⟨base, hbase, hrules⟩ := Noted.outcome_bind_eq_ok.1 hw
  obtain ⟨rs, hrs, -⟩ := Noted.outcome_bind_eq_ok.1 hrules
  obtain ⟨refinement, hrefinement, -⟩ := Noted.outcome_bind_eq_ok.1 hbase
  have hbuild : (Standard.validatorWith rules n none).notes =
      (Standard.baseValidator n none).notes :=
    (Noted.notes_bind hbase _).trans
      ((congrArg _ (Noted.notes_bind hrs _)).trans (List.append_nil _))
  have hnotes : (Standard.baseValidator n none).notes =
      (Standard.pluginRefinement n none).notes :=
    (Noted.notes_bind hrefinement _).trans (List.append_nil _)
  rw [Noted.notes_bind hw, hbuild, hnotes]
  exact List.append_nil _

/-- Entering the validators of an instance notes what asks at and below it. -/
def NotesAsking (ctx : Context) (i : Instance) : Prop :=
  ∀ (base : String) (entered m : ValidatorMap), (i.enter ctx base entered).outcome = .ok m →
    (i.enter ctx base entered).notes = keyedNotes [i]

theorem notes_enterAll {is : List Instance} (h : ∀ i ∈ is, NotesAsking ctx i) {base : String}
    {entered m : ValidatorMap} (hm : (Instance.enterAll ctx base is entered).outcome = .ok m) :
    (Instance.enterAll ctx base is entered).notes = keyedNotes is := by
  induction is generalizing entered with
  | nil => rfl
  | cons i rest ih =>
    rw [Instance.enterAll] at hm ⊢
    obtain ⟨m', hi, hm⟩ := Noted.outcome_bind_eq_ok.1 hm
    rw [Noted.notes_bind hi, h i List.mem_cons_self _ _ _ hi,
      ih (fun j hj => h j (List.mem_cons_of_mem i hj)) hm, ← keyedNotes_cons]

theorem notes_enterRows {rows : List (List Instance)}
    (h : ∀ row ∈ rows, ∀ i ∈ row, NotesAsking ctx i) {path : String} {index : Nat}
    {maps : List ValidatorMap}
    (hm : (Instance.enterRows ctx path index rows).outcome = .ok maps) :
    (Instance.enterRows ctx path index rows).notes = rows.flatMap keyedNotes := by
  induction rows generalizing index maps with
  | nil => rfl
  | cons row rest ih =>
    rw [Instance.enterRows] at hm ⊢
    obtain ⟨m, hrow, hm⟩ := Noted.outcome_bind_eq_ok.1 hm
    obtain ⟨more, hrest, -⟩ := Noted.outcome_bind_eq_ok.1 hm
    rw [Noted.notes_bind hrow, Noted.notes_bind hrest, notes_enterAll (h row List.mem_cons_self)
      hrow, ih (fun r hr => h r (List.mem_cons_of_mem row hr)) hrest, List.flatMap_cons]
    exact congrArg _ (List.append_nil _)

section Instances

variable {i : Instance}

theorem notesAsking_of_leaf (hh : i.hidden = false) (hk : i.kind = some .leaf)
    (hc : i.children = []) (hr : i.rows = [])
    (hown : i.ownsValue = true → NotesOwn ctx i.node) : NotesAsking ctx i := by
  intro base entered m hm
  rw [enter_of_leaf hh hk] at hm ⊢
  split at hm
  · next ho =>
    obtain ⟨v?, hv, -⟩ := Noted.outcome_bind_eq_ok.1 hm
    rw [if_pos ho, Noted.notes_bind hv, hown ho v? hv, keyedNotes_of_owns hh ho hc, hr]
    cases v? <;> rfl
  · next ho =>
    rw [if_neg ho, keyedNotes_of_not_owns (eq_false_of_ne_true ho) hc hr]
    rfl

theorem notesAsking_of_repeater (hh : i.hidden = false) (hk : i.kind = some .repeater)
    (ho : i.ownsValue = true) (hc : i.children = []) (hown : NotesOwn ctx i.node)
    (hrows : ∀ row ∈ i.rows, ∀ c ∈ row, NotesAsking ctx c) : NotesAsking ctx i := by
  intro base entered m hm
  rw [enter_of_repeater hh hk, if_pos ho] at hm ⊢
  obtain ⟨v?, hv, hm⟩ := Noted.outcome_bind_eq_ok.1 hm
  obtain ⟨maps, hmaps, -⟩ := Noted.outcome_bind_eq_ok.1 hm
  rw [Noted.notes_bind hv, Noted.notes_bind hmaps, hown v? hv, notes_enterRows hrows hmaps,
    keyedNotes_of_owns hh ho hc]
  exact congrArg _ (List.append_nil _)

end Instances

section Pass

variable {nodes : List Node} {before : Value} {outcome : Outcome}

theorem notesAsking_of_in (hs : ctx.registry = Registry.standard) (hcol : ctx.collaborator = none)
    (h : (run ctx nodes before).outcome = .ok outcome) {l : Location} (hl : l.In outcome.tree) :
    NotesAsking ctx l.self := by
  generalize hi : l.self = i
  induction i using Instance.induction generalizing l with
  | step i ihChildren ihRows =>
    subst hi
    obtain ⟨_, _, _, -, hv⟩ := exists_visited h hl
    have hown : l.self.ownsValue = true → NotesOwn ctx l.self.node := by
      intro ho
      obtain ⟨t, ht, htk⟩ := Context.exists_typeOf_of_owns (hv.ownsValue_eq ▸ ho)
      obtain ⟨isEmpty, rules, hj⟩ := Context.judges_of_typeOf hs ht htk
      exact notesOwn_of_judges hcol ht hj
    cases hh : l.self.hidden with
    | true =>
      have hnone : shownOwners [l.self] = [] :=
        filter_eq_nil_of_hidden h (fun i hi => by simp [hi]) hl hh
      intro base entered m _
      rw [enter_of_hidden hh, keyedNotes, asking, hnone]
      rfl
    | false =>
      cases hv.shaped with
      | container hk ho hcn hr =>
        intro base entered m hm
        rw [enter_of_container hh hk] at hm ⊢
        rw [notes_enterAll (fun c hc => ihChildren c hc (.child hl hc) rfl) hm,
          keyedNotes_of_container ho hr]
      | leaf hk hcn hr => exact notesAsking_of_leaf hh hk hcn hr hown
      | keyless hk ho hcn hr =>
        intro base entered m _
        rw [enter_of_repeater hh hk, ho, keyedNotes_of_not_owns ho hcn hr]
        rfl
      | repeater hk ho hcn =>
        refine notesAsking_of_repeater hh hk ho hcn (hown ho) fun row hrow c hc => ?_
        obtain ⟨index, hindex⟩ := List.mem_iff_getElem?.1 hrow
        exact ihRows row hrow c hc (.inRow hl hindex hc) rfl

/-- The validators of the tree of a pass note what asks in it. -/
theorem notes_validatorsOf (hs : ctx.registry = Registry.standard)
    (hcol : ctx.collaborator = none) (h : (run ctx nodes before).outcome = .ok outcome)
    {m : ValidatorMap} (hm : (validatorsOf ctx outcome.tree).outcome = .ok m) :
    (validatorsOf ctx outcome.tree).notes = keyedNotes outcome.tree :=
  notes_enterAll (fun _ hi => notesAsking_of_in hs hcol h (.top hi)) hm

end Pass

end Validators

section Paths

variable {ctx : Context} {nodes : List Node} {before : Value} {outcome : Outcome} {l : Location}

/-- Below a row the path begins with that of the row, which is not empty. -/
theorem base_of_rowPath? (h : (run ctx nodes before).outcome = .ok outcome)
    (hl : l.In outcome.tree) {row : String} (hr : l.rowPath? = some row) :
    (l.place before).base = row ∧ row ≠ "" := by
  induction hl with
  | top => cases hr
  | @child above i ha hi ih =>
    obtain ⟨hbase, hne⟩ := ih hr
    obtain ⟨_, _, _, -, hv⟩ := exists_visited h ha
    refine ⟨?_, hne⟩
    rw [Location.place, hv.path_eq,
      Place.base_inside _ (owns_of_container (hv.sweep_children hi).1), hbase]
  | @inRow above index row i ha hrow hi =>
    obtain rfl := Option.some.inj hr
    refine ⟨rfl, fun he => ?_⟩
    have hlen := Path.length_lt_row above.self.path index
    rw [he] at hlen
    exact absurd hlen (Nat.not_lt_zero _)

/-- The key of an instance with a value is its path just when it is in no row. -/
theorem key_eq_path_iff (h : (run ctx nodes before).outcome = .ok outcome)
    (hl : l.In outcome.tree) (ho : l.self.ownsValue = true) :
    l.self.node.key?.getD "" = l.self.path ↔ l.rowPath? = none := by
  constructor
  · intro hpath
    cases hr : l.rowPath? with
    | none => rfl
    | some row =>
      obtain ⟨hbase, hne⟩ := base_of_rowPath? h hl hr
      obtain ⟨_, _, _, -, hv⟩ := exists_visited h hl
      obtain ⟨key, hkey, hkne, hjoin⟩ := (l.place before).exists_key (hv.ownsValue_eq ▸ ho)
      rw [hkey, hv.path_eq, hjoin, hbase, Path.join, if_neg hne, if_neg hkne] at hpath
      have hlen := congrArg String.length hpath
      simp at hlen
  · intro hr
    rw [(owner_of_outside h hl hr ho).2]
    rfl

end Paths

namespace Engine

section Resolution

variable {engine : Engine} {values : Value} {r : Resolution}

/-- The notes of plugin checks that a fresh sink keeps of a resolution. -/
def keptPluginNotes (engine : Engine) (values : Value) : List Diagnostic :=
  (Diagnostics.recordAll {} (engine.resolve values).notes).entries.filter
    (·.kind == .missingPluginValidator)

/-- Over the standard types a resolution notes the unknown types that its passes meet, and then what
asks for plugin checks in its tree. -/
theorem notes_resolve_keyed (hs : engine.context.registry = Registry.standard)
    (hcol : engine.context.collaborator = none) (h : (engine.resolve values).outcome = .ok r) :
    ∃ rounds last, History engine values rounds last r.toSettled ∧
      (engine.resolve values).notes =
        ((rounds ++ [last]).flatMap fun round => unknownNotes round.outcome.tree) ++
          keyedNotes r.tree := by
  obtain ⟨rounds, last, hist, hnotes⟩ := notes_resolve h
  have hlast := hist.ran.outcome_of_mem last (by simp)
  have hvalidators := (exists_history h).2.1
  have htree := hist.tree_eq
  rw [htree] at hvalidators hnotes ⊢
  rw [notes_validatorsOf hs hcol hlast hvalidators] at hnotes
  exact ⟨rounds, last, hist, hnotes⟩

/-- The passes take no notes of this kind, and of those of the validators the first of each list is
kept. -/
theorem keptPluginNotes_eq (hs : engine.context.registry = Registry.standard)
    (hcol : engine.context.collaborator = none) (h : (engine.resolve values).outcome = .ok r) :
    engine.keptPluginNotes values =
      (firstAsking r.tree).map fun i => i.pluginNote (i.node.key?.getD "") := by
  obtain ⟨rounds, last, -, hnotes⟩ := notes_resolve_keyed hs hcol h
  have hpasses : ((rounds ++ [last]).flatMap fun round => unknownNotes round.outcome.tree).filter
      (·.kind == .missingPluginValidator) = [] := by
    refine List.filter_eq_nil_iff.2 fun d hd => ?_
    obtain ⟨round, -, hd⟩ := List.mem_flatMap.1 hd
    obtain ⟨i, -, rfl⟩ := List.mem_map.1 hd
    exact nofun
  have hkeyed : (keyedNotes r.tree).filter (·.kind == .missingPluginValidator) =
      keyedNotes r.tree := by
    refine List.filter_eq_self.2 fun d hd => ?_
    obtain ⟨i, -, rfl⟩ := List.mem_map.1 hd
    rfl
  rw [keptPluginNotes, Diagnostics.filter_kind_recordAll, hnotes, List.filter_append, hpasses,
    hkeyed, List.nil_append, keyedNotes, eraseDupsBy_map]
  rfl

/-- A fresh sink keeps one note for each list of checks, in the order in which shown instances first
ask for them and under the key of the first. It has the path of that instance, as a note should,
just when none of these instances is in a row. -/
theorem plugin_notes_at_paths_iff (hs : engine.context.registry = Registry.standard)
    (hcol : engine.context.collaborator = none) (h : (engine.resolve values).outcome = .ok r) :
    engine.keptPluginNotes values =
        (firstAsking r.tree).map (fun i => i.pluginNote (i.node.key?.getD "")) ∧
      (engine.keptPluginNotes values = (firstAsking r.tree).map (fun i => i.pluginNote i.path) ↔
        ∀ l : Location, l.In r.tree → l.self ∈ firstAsking r.tree → l.rowPath? = none) := by
  have hkept := keptPluginNotes_eq hs hcol h
  refine ⟨hkept, ?_⟩
  obtain ⟨⟨_, last, hist⟩, -, -⟩ := exists_history h
  have hlast := hist.ran.outcome_of_mem last (by simp)
  rw [hkept, List.map_inj_left, hist.tree_eq]
  constructor
  · intro hpaths l hl hfirst
    refine (key_eq_path_iff hlast hl (ownsValue_of_mem_firstAsking hfirst)).1 ?_
    exact congrArg Diagnostic.path (hpaths l.self hfirst)
  · intro houtside i hi
    obtain ⟨l, hl, rfl⟩ := exists_location_of_mem_firstAsking hi
    rw [(key_eq_path_iff hlast hl (ownsValue_of_mem_firstAsking hi)).2 (houtside l hl hi)]

end Resolution

namespace Garage

def plate : Node :=
  { type := "textfield", key := some "plate", validate := { plugins := ["vin"] } }

def owner : Node :=
  { type := "textfield", key := some "owner", validate := { plugins := ["person", "adult"] } }

def trailers : Node := { type := "editgrid", key := some "trailers", components := [plate, owner] }

def engine (nodes : List Node) : Engine where
  schema := ⟨nodes⟩
  context := ⟨Registry.standard, Conditions.declarative, none⟩
  maxPasses := 2
  maxPasses_pos := Nat.two_pos

/-- A car with one trailer. -/
def values : Value := .obj [("plate", .str "C 1"), ("trailers", .arr [.obj
  [("owner", .str "Ada"), ("plate", .str "T 1")]])]

def plateInstance (path : String) : Instance :=
  { node := plate, kind := some .leaf, path, hidden := false }

def ownerInstance : Instance :=
  { node := owner, kind := some .leaf, path := "trailers.0.owner", hidden := false }

def trailersInstance : Instance :=
  { node := trailers, kind := some .repeater, path := "trailers", hidden := false
    rows := [[plateInstance "trailers.0.plate", ownerInstance]] }

theorem exists_resolution :
    ∃ r, ((engine [plate, trailers]).resolve values).outcome = .ok r ∧
      r.tree = [plateInstance "plate", trailersInstance] :=
  Noted.exists_of_toOption ((engine [plate, trailers]).resolve values) (fun r => r.tree)
    (by decide +kernel)

theorem firstAsking_eq : firstAsking [plateInstance "plate", trailersInstance] =
    [plateInstance "plate", ownerInstance] := by decide +kernel

end Garage

open Garage in
/-- The plate of the car is checked like that of the trailer and asks first. The owner of the
trailer is noted under a key that is no path. -/
theorem plugin_notes_at_paths_iff_garage :
    ∃ r, ((engine [plate, trailers]).resolve values).outcome = .ok r ∧
      (engine [plate, trailers]).keptPluginNotes values =
        [.missingPlugins ["vin"] "plate", .missingPlugins ["person", "adult"] "owner"] ∧
      (engine [plate, trailers]).keptPluginNotes values ≠
        (firstAsking r.tree).map fun i => i.pluginNote i.path := by
  obtain ⟨r, hr, htree⟩ := exists_resolution
  obtain ⟨hkept, hpaths⟩ := plugin_notes_at_paths_iff rfl rfl hr
  refine ⟨r, hr, ?_, fun h => ?_⟩
  · rw [hkept, htree, firstAsking_eq]
    rfl
  · have howner : Location.In r.tree (.inRow (.top trailersInstance) 0 ownerInstance) := by
      rw [htree]
      exact .inRow (.top (List.mem_cons_of_mem _ List.mem_cons_self)) rfl
        (List.mem_cons_of_mem _ List.mem_cons_self)
    have hfirst : ownerInstance ∈ firstAsking r.tree := by
      rw [htree, firstAsking_eq]
      exact List.mem_cons_of_mem _ List.mem_cons_self
    cases hpaths.1 h _ howner hfirst

open Garage in
/-- Where no car asks before it the trailer asks first, and both of its notes name keys. -/
theorem keys_for_paths : ∃ r, ((engine [trailers]).resolve values).outcome = .ok r ∧
    (firstAsking r.tree).map (fun i => i.pluginNote i.path) =
      [.missingPlugins ["vin"] "trailers.0.plate",
        .missingPlugins ["person", "adult"] "trailers.0.owner"] ∧
    (engine [trailers]).keptPluginNotes values =
      [.missingPlugins ["vin"] "plate", .missingPlugins ["person", "adult"] "owner"] := by
  obtain ⟨r, hr, htree⟩ : ∃ r, ((engine [trailers]).resolve values).outcome = .ok r ∧
      r.tree = [trailersInstance] :=
    Noted.exists_of_toOption ((engine [trailers]).resolve values) (fun r => r.tree)
      (by decide +kernel)
  exact ⟨r, hr, by rw [htree]; decide +kernel, by decide +kernel⟩

end Engine
end FormLogic
