import FormLogic.Proofs.FlatValidation
import FormLogic.Proofs.UnrefinedValidators

/-!
# What asking for a value adds

A node that asks for a value without requiring it is to get warnings for it and to keep its
errors. A validator that finds a value empty and asks for it gives the warning alone, without
looking at the rules. For most types only blank values are empty, and those meet no rule. A
tick or an object of options is also empty when it is of another shape, and then the error
about its shape is lost.
-/
namespace FormLogic

/-- Whether a value is asked for and not required. -/
def Node.withSoftRequired (n : Node) (soft : Bool) : Node :=
  { n with validate := { n.validate with softRequired := soft } }

def Instance.withSoftRequired (i : Instance) (soft : Bool) : Instance :=
  { i with node := i.node.withSoftRequired soft }

/-- The validator that is entered for an instance, seen from `base`. -/
def Instance.built (ctx : Context) (base : String) (i : Instance) :
    Except FormError (Option Validator) :=
  (i.enter ctx base []).outcome.map fun m => m.find? (Path.relative base i.path)

/-- The same validator, but asking for a value, with which values are empty. -/
def Validator.asking (empty : Value → Bool) (v : Validator) : Validator :=
  { v with isSoftRequired := true, emptyWhen := some empty }

/-- The shape of the values of a type that counts values of other shapes as empty. -/
def shapeOfFilled? : String → Option Shape
  | "checkbox" => some .boolean
  | "selectboxes" => some .object
  | _ => none

/-- Of the value at a path, the second validator finds what the first does, with the same errors and
the same verdict: all it may add is warnings. -/
structure OnlyWarnsMore (v v' : Validator) (path : String) (value : Option Value) : Prop where
  errors_eq : (v'.check path value).filter Issue.isError = (v.check path value).filter Issue.isError
  sublist : (v.check path value).Sublist (v'.check path value)
  isValid_eq : (v'.validate path value).isValid = (v.validate path value).isValid

/-- A type whose rules do not look at whether a value is asked for, and of which a value that is
empty and not blank passes the rules of an optional node just if it is of the given shape. -/
structure Asks (t : NodeType) (shape? : Option Shape) (isEmpty : Option Value → Bool)
    (rules : Node → Except FormError (List Rule)) : Prop extends Judges t isEmpty rules where
  rules_eq : ∀ (n : Node) (soft : Bool), rules (n.withSoftRequired soft) = rules n
  fits_of_not_empty : ∀ x, isEmpty (some x) = false → ∀ s ∈ shape?, s.fits x = true
  accepts_iff : ∀ {n : Node} {rs x}, rules n = .ok rs → n.validate.required = false →
    isEmpty (some x) = true → Value.isBlank (some x) = false →
      ((∀ r ∈ rs, r.accepts x = true) ↔ ∀ s ∈ shape?, s.fits x = true)

namespace Asks

theorem of_isBlank {t : NodeType} {rules : Node → Except FormError (List Rule)}
    (hj : Judges t Value.isBlank rules)
    (hr : ∀ (n : Node) (soft : Bool), rules (n.withSoftRequired soft) = rules n) :
    Asks t none Value.isBlank rules where
  toJudges := hj
  rules_eq := hr
  fits_of_not_empty _ _ := nofun
  accepts_iff _ _ he hb := by rw [he] at hb; cases hb

/-- A type with one rule about shape, and another for nodes that require a value. -/
theorem of_shape {t : NodeType} {isEmpty : Option Value → Bool} {s : Shape} {r : Rule}
    (hj : Judges t isEmpty fun n => .ok (.shape s :: if n.validate.required then [r] else []))
    (hf : ∀ x, isEmpty (some x) = false → s.fits x = true) :
    Asks t (some s) isEmpty
      fun n => .ok (.shape s :: if n.validate.required then [r] else []) where
  toJudges := hj
  rules_eq _ _ := rfl
  fits_of_not_empty x hx _ hs := Option.some.inj hs ▸ hf x hx
  accepts_iff {n rs x} h hr _ _ := by
    rw [hr] at h
    cases h
    simp [Rule.accepts]

theorem checkbox : ∃ isEmpty rules,
    Asks Standard.checkbox (shapeOfFilled? "checkbox") isEmpty rules := by
  refine ⟨_, _, of_shape Judges.checkbox fun x hx => ?_⟩
  cases x <;> simp_all [Standard.isTicked, Value.isTrue, Shape.fits]

theorem selectBoxes : ∃ isEmpty rules,
    Asks Standard.selectBoxes (shapeOfFilled? "selectboxes") isEmpty rules := by
  refine ⟨_, _, of_shape Judges.selectBoxes fun x hx => ?_⟩
  cases x <;> simp_all [Value.anyChecked, Shape.fits]

end Asks

/-- Every standard type with a stored value asks so. -/
theorem exists_asks {tag : String} {t : NodeType} (h : Registry.standard.lookup tag = some t)
    (hk : t.kind.ownsPath = true) : ∃ isEmpty rules, Asks t (shapeOfFilled? tag) isEmpty rules := by
  have hm := Registry.mem_types_of_lookup h
  simp only [Standard.types, List.mem_append, List.mem_map, List.mem_cons, Prod.mk.injEq,
    List.not_mem_nil, or_false] at hm
  rcases hm with (((((⟨a, ha, rfl, rfl⟩ | ⟨rfl, rfl⟩) | ⟨a, ha, rfl, rfl⟩) |
    ⟨rfl, rfl⟩ | ⟨rfl, rfl⟩ | ⟨rfl, rfl⟩ | ⟨rfl, rfl⟩ | ⟨rfl, rfl⟩) | ⟨a, -, -, rfl⟩) |
    ⟨-, rfl⟩) | ⟨a, ha, rfl, rfl⟩
  · have hnone : shapeOfFilled? a = none := by
      rcases ha with rfl | rfl | rfl | rfl | rfl | rfl | rfl | rfl <;> rfl
    exact hnone ▸ ⟨_, _, .of_isBlank (.of_scalarLeaf fun h => FlatRules.textRules h) fun _ _ => rfl⟩
  · exact ⟨_, _, .of_isBlank (.of_scalarLeaf fun h => FlatRules.emailRules h) fun _ _ => rfl⟩
  · have hnone : shapeOfFilled? a = none := by
      rcases ha with rfl | rfl <;> rfl
    exact hnone ▸ ⟨_, _, .of_isBlank
      (.of_scalarLeaf fun h => Except.ok.inj h ▸ FlatRules.numberRules _) fun _ _ => rfl⟩
  · exact ⟨_, _, .of_isBlank (.of_scalarLeaf fun h => Except.ok.inj h ▸ FlatRules.nil)
      fun _ _ => rfl⟩
  · exact Asks.checkbox
  · exact Asks.selectBoxes
  · exact ⟨_, _, .of_isBlank
      (.of_isBlank rfl rfl fun h => Except.ok.inj h ▸ FlatRules.listRules _) fun _ _ => rfl⟩
  · exact ⟨_, _, .of_isBlank
      (.of_isBlank rfl rfl fun h => Except.ok.inj h ▸ FlatRules.nil.cons (by simp)) fun _ _ => rfl⟩
  · cases hk
  · cases hk
  · have hnone : shapeOfFilled? a = none := by
      rcases ha with rfl | rfl <;> rfl
    exact hnone ▸ ⟨_, _, .of_isBlank
      (.of_isBlank rfl rfl fun h => Except.ok.inj h ▸ FlatRules.rowRules _) fun _ _ => rfl⟩

section Building

variable {ctx : Context} {t : NodeType} {shape? : Option Shape} {isEmpty : Option Value → Bool}
  {rules : Node → Except FormError (List Rule)}

theorem ownValidator_asking (ha : Asks t shape? isEmpty rules) {n : Node}
    (ht : ctx.typeOf n = some t) :
    Instance.ownValidator ctx (n.withSoftRequired true) =
      Option.map (Validator.asking fun x => isEmpty (some x)) <$>
        Instance.ownValidator ctx (n.withSoftRequired false) := by
  have ht' : ∀ soft, ctx.typeOf (n.withSoftRequired soft) = some t := fun _ => ht
  simp only [Instance.ownValidator, ht', ha.validator_eq, Standard.validatorWith, ha.rules_eq,
    Standard.baseValidator, map_bind, bind_assoc, map_pure, pure_bind, Option.map_some,
    NodeType.withEmptiness, ha.isEmpty_eq]
  rfl

theorem built_of_leaf {i : Instance} (base : String) (hh : i.hidden = false)
    (hk : i.kind = some .leaf) (ho : i.ownsValue = true) :
    i.built ctx base = (Instance.ownValidator ctx i.node).outcome := by
  rw [Instance.built, enter_of_leaf hh hk, if_pos ho, Noted.outcome_bind]
  cases (Instance.ownValidator ctx i.node).outcome with
  | error e => rfl
  | ok v? =>
    cases v? with
    | none => rfl
    | some v => exact congrArg Except.ok (if_pos rfl)

theorem built_of_repeater {i : Instance} (base : String) (hh : i.hidden = false)
    (hk : i.kind = some .repeater) (ho : i.ownsValue = true) :
    i.built ctx base = (do
      let v? ← (Instance.ownValidator ctx i.node).outcome
      let maps ← (Instance.enterRows ctx i.path 0 i.rows).outcome
      pure (some ((v?.getD (Instance.bareValidator i.node)).and (.rows maps)))) := by
  rw [Instance.built, enter_of_repeater hh hk, if_pos ho, Noted.outcome_bind]
  cases (Instance.ownValidator ctx i.node).outcome with
  | error e => rfl
  | ok v? =>
    change (((Instance.enterRows ctx i.path 0 i.rows >>= _ : Noted ValidatorMap).outcome).map _) = _
    rw [Noted.outcome_bind]
    cases (Instance.enterRows ctx i.path 0 i.rows).outcome with
    | error e => rfl
    | ok maps => exact congrArg Except.ok (if_pos rfl)

end Building

namespace Validator

variable {v : Validator} {empty : Value → Bool} {path : String} {value : Option Value}

theorem due_asking : (v.asking empty).due path value = v.due path value := by
  rw [due_eq, due_eq]
  rfl

theorem isValid_validate (v : Validator) (path : String) (value : Option Value) :
    (v.validate path value).isValid = (((v.check path value).filter Issue.isError).isEmpty &&
      ((v.due path value).filterMap Due.issue?).all fun i => !i.isError) := by
  rw [validate, ValidationResult.isValid, List.all_append]
  congr 1
  induction v.check path value with
  | nil => rfl
  | cons i rest ih => cases h : i.isError <;> simp [h, ih]

theorem onlyWarnsMore_of_errors
    (he : ((v.asking empty).check path value).filter Issue.isError =
      (v.check path value).filter Issue.isError)
    (hs : (v.check path value).Sublist ((v.asking empty).check path value)) :
    OnlyWarnsMore v (v.asking empty) path value :=
  ⟨he, hs, by rw [isValid_validate, isValid_validate, he, due_asking]⟩

theorem check_asking_of_filled (hs : v.isSoftRequired = false) {x : Value}
    (hf : Value.filled? value = some x) :
    (v.asking empty).check path value =
      if v.isOptional && empty x then [v.recommendedAt path] else v.check path value := by
  have hd : v.deemsEmpty x = false := by simp [deemsEmpty, hs]
  have hd' : (v.asking empty).deemsEmpty x = (v.isOptional && empty x) := by
    simp [deemsEmpty, asking]
  simp only [check_eq, hf, hd, hd', Bool.false_eq_true, if_false]
  rfl

/-- Nothing but a warning is added to what is found in a blank value. -/
theorem onlyWarnsMore_of_blank (hs : v.isSoftRequired = false)
    (hf : Value.filled? value = none) : OnlyWarnsMore v (v.asking empty) path value := by
  have hc : v.check path value = v.blankIssues path := by rw [check_eq, hf]
  have hc' : (v.asking empty).check path value = (v.asking empty).blankIssues path := by
    rw [check_eq, hf]
  cases ho : v.isOptional with
  | false =>
    have he : (v.asking empty).blankIssues path = v.blankIssues path := by
      simp [blankIssues, asking, ho, errorAt]
    exact onlyWarnsMore_of_errors (by rw [hc, hc', he]) (by rw [hc, hc', he])
  | true =>
    have hnil : v.blankIssues path = [] := by simp [blankIssues, ho, hs]
    have hrec : (v.asking empty).blankIssues path = [v.recommendedAt path] := by
      simp [blankIssues, asking, ho, recommendedAt]
    refine onlyWarnsMore_of_errors ?_ ?_
    · rw [hc, hc', hnil, hrec]
      rfl
    · rw [hc, hnil]
      exact List.nil_sublist _

/-- Of a value that is filled in and counts as empty, only the warning is left. So nothing else
changes just if the value passes all rules. -/
theorem onlyWarnsMore_iff_of_empty (hs : v.isSoftRequired = false) (ho : v.isOptional = true)
    (hflat : FlatRules v.rules) {x : Value} (hf : Value.filled? value = some x)
    (he : empty x = true) :
    OnlyWarnsMore v (v.asking empty) path value ↔ ∀ r ∈ v.rules, r.accepts x = true := by
  have hd : v.deemsEmpty x = false := by simp [deemsEmpty, hs]
  have hc : v.check path value = v.ownErrors path x := by
    simp [check_of_flat hflat, selfIssues, hf, hd]
  have hc' : (v.asking empty).check path value = [v.recommendedAt path] := by
    simp [check_asking_of_filled hs hf, ho, he]
  rw [← @ownErrors_eq_nil_iff v path]
  constructor
  · intro h
    have herrors := h.errors_eq
    rw [hc, hc', List.filter_eq_self.2 fun i hi => (isError_of_mem_ownErrors hi).1] at herrors
    exact herrors.symm
  · intro hnil
    refine onlyWarnsMore_of_errors ?_ ?_
    · rw [hc, hc', hnil]
      rfl
    · rw [hc, hnil]
      exact List.nil_sublist _

end Validator

section Main

variable {ctx : Context} {t : NodeType} {shape? : Option Shape} {isEmpty : Option Value → Bool}
  {rules : Node → Except FormError (List Rule)}

/-- A validator built for a node that does not ask for a value: its rules are those of the node, or
only blank values are empty. -/
structure BuiltPlain (n : Node) (isEmpty : Option Value → Bool)
    (rules : Node → Except FormError (List Rule)) (v : Validator) : Prop where
  optional : v.isOptional = !n.validate.required
  soft : v.isSoftRequired = false
  rules : isEmpty = Value.isBlank ∨ rules n = .ok v.rules

theorem exists_ownValidator (ha : Asks t shape? isEmpty rules) {n : Node}
    (ht : ctx.typeOf n = some t) :
    (∃ e, (Instance.ownValidator ctx (n.withSoftRequired false)).outcome = .error e ∧
      (Instance.ownValidator ctx (n.withSoftRequired true)).outcome = .error e) ∨
    ∃ v, (Instance.ownValidator ctx (n.withSoftRequired false)).outcome = .ok (some v) ∧
      (Instance.ownValidator ctx (n.withSoftRequired true)).outcome =
        .ok (some (v.asking fun x => isEmpty (some x))) ∧
      IsValidatorOf (n.withSoftRequired false) isEmpty rules v := by
  rw [ownValidator_asking ha ht, ← bind_pure_comp, Noted.outcome_bind]
  cases hv : (Instance.ownValidator ctx (n.withSoftRequired false)).outcome with
  | error e => exact Or.inl ⟨e, rfl, rfl⟩
  | ok v? =>
    obtain ⟨v, rfl, hvalidator⟩ :=
      exists_validator (n := n.withSoftRequired false) ht ha.toJudges hv
    exact Or.inr ⟨v, rfl, rfl, hvalidator⟩

/-- Asking for a value changes nothing about whether a validator is built. -/
theorem exists_built (ha : Asks t shape? isEmpty rules) {i : Instance}
    (ht : ctx.typeOf i.node = some t) (hk : i.kind = some t.kind) (hh : i.hidden = false)
    (ho : i.ownsValue = true) (base : String) :
    (∃ e, (i.withSoftRequired false).built ctx base = .error e ∧
      (i.withSoftRequired true).built ctx base = .error e) ∨
    ∃ v, (i.withSoftRequired false).built ctx base = .ok (some v) ∧
      (i.withSoftRequired true).built ctx base =
        .ok (some (v.asking fun x => isEmpty (some x))) ∧
      BuiltPlain i.node isEmpty rules v := by
  have hhidden : ∀ soft, (i.withSoftRequired soft).hidden = false := fun _ => hh
  have howns : ∀ soft, (i.withSoftRequired soft).ownsValue = true := fun _ => ho
  have hown := exists_ownValidator ha ht
  cases hkind : t.kind with
  | leaf =>
    have hleaf : ∀ soft, (i.withSoftRequired soft).kind = some .leaf := fun _ => hkind ▸ hk
    rw [built_of_leaf base (hhidden false) (hleaf false) (howns false),
      built_of_leaf base (hhidden true) (hleaf true) (howns true)]
    refine hown.imp_right fun ⟨v, hv, hv', hvalidator⟩ => ⟨v, hv, hv', ?_⟩
    exact ⟨hvalidator.optional, hvalidator.soft,
      Or.inr (ha.rules_eq i.node false ▸ hvalidator.rules)⟩
  | repeater =>
    have hrepeater : ∀ soft, (i.withSoftRequired soft).kind = some .repeater :=
      fun _ => hkind ▸ hk
    rw [built_of_repeater base (hhidden false) (hrepeater false) (howns false),
      built_of_repeater base (hhidden true) (hrepeater true) (howns true)]
    simp only [Instance.withSoftRequired]
    rcases hown with ⟨e, hv, hv'⟩ | ⟨v, hv, hv', hvalidator⟩
    · rw [hv, hv']
      exact Or.inl ⟨e, rfl, rfl⟩
    · rw [hv, hv']
      -- The rows are entered with their own nodes, whatever the repeater asks for.
      cases (Instance.enterRows ctx i.path 0 i.rows).outcome with
      | error e => exact Or.inl ⟨e, rfl, rfl⟩
      | ok maps =>
        exact Or.inr ⟨v.and (.rows maps), rfl, rfl, hvalidator.optional, hvalidator.soft,
          Or.inl (ha.of_repeater hkind)⟩
  | group | layout =>
    rw [Instance.ownsValue, hk, hkind] at ho
    cases ho

/-- A validator that asks for a value finds no less than one that does not, unless the value is of
another shape than the type asks for and not required. -/
theorem onlyWarnsMore_asking_iff (ha : Asks t shape? isEmpty rules) {n : Node} {v : Validator}
    (hv : BuiltPlain n isEmpty rules v) (path : String) (value : Option Value) :
    OnlyWarnsMore v (v.asking fun x => isEmpty (some x)) path value ↔
      (n.validate.required = true ∨
        ∀ x, Value.filled? value = some x → ∀ s ∈ shape?, s.fits x = true) := by
  rcases Validator.filled?_cases value with ⟨-, hf⟩ | ⟨x, rfl, hb, hf⟩
  · exact iff_of_true (Validator.onlyWarnsMore_of_blank hv.soft hf)
      (Or.inr fun x hx => by rw [hf] at hx; cases hx)
  · have hfits : (∀ y, Value.filled? (some x) = some y → ∀ s ∈ shape?, s.fits y = true) ↔
        ∀ s ∈ shape?, s.fits x = true := by simp [hf]
    rw [hfits]
    cases hempty : !n.validate.required && isEmpty (some x) with
    | false =>
      -- The value does not count as empty, and both find the same.
      have hc : (v.asking fun x => isEmpty (some x)).check path (some x) =
          v.check path (some x) := by
        rw [Validator.check_asking_of_filled hv.soft hf, hv.optional, hempty]
        rfl
      refine iff_of_true (Validator.onlyWarnsMore_of_errors (by rw [hc]) (by rw [hc])) ?_
      cases hr : n.validate.required with
      | true => exact Or.inl rfl
      | false => exact Or.inr (ha.fits_of_not_empty x (by simpa [hr] using hempty))
    | true =>
      rw [Bool.and_eq_true, Bool.not_eq_true'] at hempty
      obtain ⟨hr, hempty⟩ := hempty
      have hrules : rules n = .ok v.rules :=
        hv.rules.resolve_left fun hblank => by rw [hblank, hb] at hempty; cases hempty
      rw [Validator.onlyWarnsMore_iff_of_empty hv.soft (by rw [hv.optional, hr]; rfl)
        (ha.flat hrules) hf hempty, ha.accepts_iff hrules hr hempty hb, hr]
      simp

/-- A value that is asked for, with the validators of a standard type: either neither validator is
built, or the one that asks adds warnings alone to what the other finds, unless the value is not
required and is a tick or options of another shape. -/
theorem onlyWarnsMore_iff (hs : ctx.registry = Registry.standard) {i : Instance}
    (hk : i.kind = ctx.kindOf i.node) (hh : i.hidden = false) (ho : i.ownsValue = true)
    (base : String) :
    (∃ e, (i.withSoftRequired false).built ctx base = .error e ∧
      (i.withSoftRequired true).built ctx base = .error e) ∨
    ∃ v v', (i.withSoftRequired false).built ctx base = .ok (some v) ∧
      (i.withSoftRequired true).built ctx base = .ok (some v') ∧
      ∀ path value, OnlyWarnsMore v v' path value ↔
        (i.node.validate.required = true ∨ ∀ x, Value.filled? value = some x →
          ∀ s ∈ shapeOfFilled? i.node.type, s.fits x = true) := by
  have howns : ctx.owns i.node = true := by rw [Context.owns, ← hk]; exact ho
  obtain ⟨t, ht, htk⟩ := Context.exists_typeOf_of_owns howns
  have hlookup : Registry.standard.lookup i.node.type = some t := by rw [← hs]; exact ht
  obtain ⟨isEmpty, rules, ha⟩ := exists_asks hlookup htk
  have hkind : i.kind = some t.kind := by rw [hk, Context.kindOf, ht]; rfl
  rcases exists_built ha ht hkind hh ho base with hfails | ⟨v, hv, hv', hplain⟩
  · exact Or.inl hfails
  · exact Or.inr ⟨v, _, hv, hv', onlyWarnsMore_asking_iff ha hplain⟩

end Main

namespace Ticked

def context : Context := ⟨Registry.standard, Conditions.declarative, none⟩

def tick : Instance where
  node := { type := "checkbox", key := some "a" }
  kind := some .leaf
  path := "a"
  hidden := false

def plain : Validator := { label := "a", isOptional := true, rules := [.shape .boolean] }

def asking : Validator := plain.asking fun x => !Standard.isTicked (some x)

theorem built_plain : (tick.withSoftRequired false).built context "" = .ok (some plain) := rfl

theorem built_asking : (tick.withSoftRequired true).built context "" = .ok (some asking) := rfl

/-- What is found in a text: that it is no tick, or that a tick is recommended. -/
theorem check_eq : plain.check "a" (some (.str "yes")) =
      [⟨"a", "a must be true or false", .error⟩] ∧
    asking.check "a" (some (.str "yes")) = [⟨"a", "a is recommended", .warning⟩] :=
  ⟨by decide, by decide⟩

end Ticked

open Ticked in
/-- Here the error about the shape of the text is lost. -/
theorem onlyWarnsMore_iff_ticked : ∃ v v',
    (tick.withSoftRequired false).built context "" = .ok (some v) ∧
      (tick.withSoftRequired true).built context "" = .ok (some v') ∧
      ¬ OnlyWarnsMore v v' "a" (some (.str "yes")) ∧
      OnlyWarnsMore v v' "a" (some (.bool false)) := by
  rcases @onlyWarnsMore_iff context rfl tick rfl rfl rfl "" with
    ⟨e, he, -⟩ | ⟨v, v', hv, hv', hiff⟩
  · rw [built_plain] at he
    cases he
  · refine ⟨v, v', hv, hv', fun h => ?_, (hiff "a" _).2 (Or.inr fun x hx s hs => ?_)⟩
    · rcases (hiff "a" _).1 h with hr | hfits
      · cases hr
      · exact absurd (hfits (.str "yes") rfl .boolean rfl) (by decide)
    · cases hx
      cases hs
      rfl

/-- Asking for a value can lose an error. -/
theorem error_lost :
    ¬ ∀ (ctx : Context) (i : Instance) (v v' : Validator), ctx.registry = Registry.standard →
      i.kind = ctx.kindOf i.node → i.hidden = false → i.ownsValue = true →
      (i.withSoftRequired false).built ctx "" = .ok (some v) →
      (i.withSoftRequired true).built ctx "" = .ok (some v') →
      ∀ path value,
        (v'.check path value).filter Issue.isError = (v.check path value).filter Issue.isError := by
  intro hall
  have h := hall Ticked.context Ticked.tick _ _ rfl rfl rfl rfl Ticked.built_plain
    Ticked.built_asking "a" (some (.str "yes"))
  rw [Ticked.check_eq.1, Ticked.check_eq.2] at h
  cases h

end FormLogic
