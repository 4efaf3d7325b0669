import FormLogic.Proofs.StandardTypes
import FormLogic.Proofs.PassInversion
import FormLogic.Resolve.Validators

/-!
# What the validators of the standard types judge

The validator of a standard type takes from its node whether a value is required or asked for,
and agrees with the type on what is not filled in: a blank value is empty, and a
required value that is empty and not blank fails a rule.
-/
namespace FormLogic

/-- Rules without row maps. -/
def FlatRules (rules : List Rule) : Prop := ∀ r ∈ rules, ∀ maps, r ≠ .rows maps

namespace FlatRules

theorem nil : FlatRules [] := nofun

theorem cons {r : Rule} {rules : List Rule} (hr : ∀ maps, r ≠ .rows maps) (h : FlatRules rules) :
    FlatRules (r :: rules) := by
  intro r' hr'
  rcases List.mem_cons.1 hr' with rfl | hr'
  · exact hr
  · exact h r' hr'

theorem append {rules more : List Rule} (h : FlatRules rules) (hm : FlatRules more) :
    FlatRules (rules ++ more) := by
  intro r hr
  rcases List.mem_append.1 hr with hr | hr
  · exact h r hr
  · exact hm r hr

/-- A walk that passes over every rule without rows passes over flat rules. -/
theorem walk_append {α : Type} {walk : List Rule → α}
    (hw : ∀ {r rest}, (∀ maps, r ≠ .rows maps) → walk (r :: rest) = walk rest)
    {rules : List Rule} (h : FlatRules rules) (more : List Rule) :
    walk (rules ++ more) = walk more := by
  induction rules with
  | nil => rfl
  | cons r rest ih =>
    rw [List.cons_append, hw (h r List.mem_cons_self)]
    exact ih fun r' hr' => h r' (List.mem_cons_of_mem r hr')

theorem ite {c : Prop} [Decidable c] {rules more : List Rule} (h : FlatRules rules)
    (hm : FlatRules more) : FlatRules (if c then rules else more) := by
  split
  · exact h
  · exact hm

theorem bounded {α : Type} {rule : α → Rule} (h : ∀ a maps, rule a ≠ .rows maps)
    (bound : Option α) : FlatRules (Standard.bounded rule bound) := by
  cases bound with
  | none => exact nil
  | some a => exact cons (h a) nil

theorem itemCounts (n : Node) : FlatRules (Standard.itemCounts n) :=
  (bounded (by simp) _).append (bounded (by simp) _)

theorem listRules (n : Node) : FlatRules (Standard.listRules n) := (itemCounts n).cons nofun

theorem textRules {n : Node} {rules : List Rule} (h : Standard.textRules n = .ok rules) :
    FlatRules rules := by
  have hlengths : FlatRules (.shape .string :: (Standard.bounded .minLength n.validate.minLength ++
      Standard.bounded .maxLength n.validate.maxLength)) :=
    ((bounded (by simp) _).append (bounded (by simp) _)).cons nofun
  unfold Standard.textRules at h
  split at h
  · exact Except.ok.inj h ▸ hlengths
  · split at h
    · exact Except.ok.inj h ▸ hlengths.append (nil.cons nofun)
    · cases h

theorem emailRules {n : Node} {rules : List Rule}
    (h : (do let rules ← Standard.textRules n; pure (rules ++ [.email])) = Except.ok rules) :
    FlatRules rules := by
  cases ht : Standard.textRules n with
  | error e => rw [ht] at h; cases h
  | ok base =>
    rw [ht] at h
    exact Except.ok.inj h ▸ (textRules ht).append (nil.cons (by simp))

theorem numberRules (n : Node) : FlatRules (Standard.numberRules n) :=
  ((bounded (by simp) _).append (bounded (by simp) _)).cons (by simp)

theorem rowRules (n : Node) : FlatRules (Standard.rowRules n) :=
  (append (ite (nil.cons (by simp)) nil) (bounded (by simp) _)).cons (by simp)

end FlatRules

/-- How the validator of a type judges what the type counts as not filled in. -/
structure Judges (t : NodeType) (isEmpty : Option Value → Bool)
    (rules : Node → Except FormError (List Rule)) : Prop where
  isEmpty_eq : t.isEmpty = some fun _ => isEmpty
  validator_eq : t.validator = some (Standard.validatorWith rules)
  blank : ∀ v, Value.isBlank v = true → isEmpty v = true
  of_repeater : t.kind = .repeater → isEmpty = Value.isBlank
  flat : ∀ {n rs}, rules n = .ok rs → FlatRules rs
  rejects : ∀ {n : Node} {rs x}, rules n = .ok rs → n.validate.required = true →
    isEmpty (some x) = true → Value.isBlank (some x) = false → ∃ r ∈ rs, r.accepts x = false

namespace Judges

/-- Where only blank values are empty, no rule is needed to reject others. -/
theorem of_isBlank {t : NodeType} {rules : Node → Except FormError (List Rule)}
    (he : t.isEmpty = some fun _ => Value.isBlank)
    (hv : t.validator = some (Standard.validatorWith rules))
    (hf : ∀ {n rs}, rules n = .ok rs → FlatRules rs) : Judges t Value.isBlank rules where
  isEmpty_eq := he
  validator_eq := hv
  blank _ h := h
  of_repeater _ := rfl
  flat := hf
  rejects _ _ he hb := by rw [he] at hb; cases hb

theorem of_scalarLeaf {rules : Node → Except FormError (List Rule)}
    (hf : ∀ {n rs}, rules n = .ok rs → FlatRules rs) :
    Judges (Standard.scalarLeaf rules) Value.isBlank (Standard.ruledBy rules) := by
  refine of_isBlank rfl rfl fun {n rs} h => ?_
  unfold Standard.ruledBy at h
  split at h
  · exact Except.ok.inj h ▸ FlatRules.listRules n
  · exact hf h

theorem checkbox : Judges Standard.checkbox (fun v => !Standard.isTicked v) fun n =>
    .ok (.shape .boolean :: if n.validate.required then [.mustBeTrue] else []) := by
  refine ⟨rfl, rfl, fun v hb => ?_, nofun, fun {n rs} h => ?_,
    fun {n rs x} h hr he _ => ⟨.mustBeTrue, ?_, ?_⟩⟩
  · cases v with
    | none => rfl
    | some x => cases x <;> simp_all [Value.isBlank, Standard.isTicked, Value.isTrue]
  · rw [← Except.ok.inj h]
    exact (FlatRules.ite (FlatRules.nil.cons (by simp)) FlatRules.nil).cons (by simp)
  · rw [← Except.ok.inj h, hr]
    simp
  · simpa [Standard.isTicked, Rule.accepts] using he

theorem selectBoxes : Judges Standard.selectBoxes (fun v => !(v.map Value.anyChecked).getD false)
    fun n => .ok (.shape .object :: if n.validate.required then [.anyChecked] else []) := by
  refine ⟨rfl, rfl, fun v hb => ?_, nofun, fun {n rs} h => ?_,
    fun {n rs x} h hr he _ => ⟨.anyChecked, ?_, ?_⟩⟩
  · cases v with
    | none => rfl
    | some x => cases x <;> simp_all [Value.isBlank, Value.anyChecked]
  · rw [← Except.ok.inj h]
    exact (FlatRules.ite (FlatRules.nil.cons (by simp)) FlatRules.nil).cons (by simp)
  · rw [← Except.ok.inj h, hr]
    simp
  · simpa [Rule.accepts] using he

end Judges

/-- Every standard type with a stored value has a validator that judges so. -/
theorem exists_judges {tag : String} {t : NodeType} (h : Registry.standard.lookup tag = some t)
    (hk : t.kind.ownsPath = true) : ∃ isEmpty rules, Judges t isEmpty rules := by
  rcases standard_cases h with rfl | rfl | rfl | rfl | rfl | rfl | rfl | rfl | rfl | rfl | rfl
  · exact ⟨_, _, .of_scalarLeaf fun h => FlatRules.textRules h⟩
  · exact ⟨_, _, .of_scalarLeaf fun h => FlatRules.emailRules h⟩
  · exact ⟨_, _, .of_scalarLeaf fun h => Except.ok.inj h ▸ FlatRules.numberRules _⟩
  · exact ⟨_, _, .of_scalarLeaf fun h => Except.ok.inj h ▸ FlatRules.nil⟩
  · exact ⟨_, _, .checkbox⟩
  · exact ⟨_, _, .selectBoxes⟩
  · exact ⟨_, _, .of_isBlank rfl rfl fun h => Except.ok.inj h ▸ FlatRules.listRules _⟩
  · exact ⟨_, _, .of_isBlank rfl rfl fun h => Except.ok.inj h ▸ FlatRules.nil.cons (by simp)⟩
  · cases hk
  · cases hk
  · exact ⟨_, _, .of_isBlank rfl rfl fun h => Except.ok.inj h ▸ FlatRules.rowRules _⟩

/-- The type of a node adds to its validator which values are empty, and nothing else. -/
theorem NodeType.exists_withEmptiness (t : NodeType) (n : Node) (v : Validator) :
    ∃ emptyWhen, t.withEmptiness n v = { v with emptyWhen } := by
  cases v
  unfold withEmptiness
  split
  · split
    · exact ⟨_, rfl⟩
    · exact ⟨_, rfl⟩
  · exact ⟨_, rfl⟩

/-- A validator takes from its node whether the value is required or asked for, its rules, and which
values are empty. -/
structure IsValidatorOf (n : Node) (isEmpty : Option Value → Bool)
    (rules : Node → Except FormError (List Rule)) (v : Validator) : Prop where
  optional : v.isOptional = !n.validate.required
  soft : v.isSoftRequired = n.validate.softRequired
  rules : rules n = .ok v.rules
  emptyWhen : v.emptyWhen =
    if n.validate.softRequired then some fun x => isEmpty (some x) else none

theorem isValidatorOf_withEmptiness {t : NodeType} {isEmpty : Option Value → Bool}
    {rules : Node → Except FormError (List Rule)} (hj : Judges t isEmpty rules) {n : Node}
    {v : Validator} (ho : v.isOptional = !n.validate.required)
    (hs : v.isSoftRequired = n.validate.softRequired) (hr : rules n = .ok v.rules)
    (he : v.emptyWhen = none) : IsValidatorOf n isEmpty rules (t.withEmptiness n v) := by
  simp only [NodeType.withEmptiness, hj.isEmpty_eq]
  cases hsoft : n.validate.softRequired with
  | true =>
    rw [if_pos (hs.trans hsoft)]
    exact ⟨ho, hs, hr, by rw [hsoft]; rfl⟩
  | false =>
    rw [if_neg (by rw [hs, hsoft]; decide)]
    exact ⟨ho, hs, hr, by rw [hsoft, he]; rfl⟩

/-- The validator that is built for a node of a standard type. -/
theorem exists_validator {ctx : Context} {n : Node} {t : NodeType} {isEmpty : Option Value → Bool}
    {rules : Node → Except FormError (List Rule)} (ht : ctx.typeOf n = some t)
    (hj : Judges t isEmpty rules) {v? : Option Validator}
    (h : (Instance.ownValidator ctx n).outcome = .ok v?) :
    ∃ v, v? = some v ∧ IsValidatorOf n isEmpty rules v := by
  unfold Instance.ownValidator at h
  simp only [ht, hj.validator_eq] at h
  obtain ⟨w, hw, h⟩ := Noted.outcome_bind_eq_ok.1 h
  obtain rfl := Noted.outcome_pure_eq_ok.1 h
  obtain ⟨base, hbase, hw⟩ := Noted.outcome_bind_eq_ok.1 hw
  obtain ⟨rs, hrs, hw⟩ := Noted.outcome_bind_eq_ok.1 hw
  obtain rfl := Noted.outcome_pure_eq_ok.1 hw
  obtain ⟨refinement, -, hbase⟩ := Noted.outcome_bind_eq_ok.1 hbase
  obtain rfl := Noted.outcome_pure_eq_ok.1 hbase
  exact ⟨_, rfl, isValidatorOf_withEmptiness hj rfl rfl hrs rfl⟩

end FormLogic
