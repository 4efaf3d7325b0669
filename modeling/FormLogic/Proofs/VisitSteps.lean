import FormLogic.Proofs.PassInversion

/-!
# The steps of a visit

A visit resolves the path and the state of a node, and then goes one of four ways: a leaf
is applied to its value, a repeater checks its template, is applied and visits its rows, a
repeater without a key does nothing, and a container visits its children.
-/
namespace FormLogic.Visibility

section Steps

variable {ctx : Context} {before : Value} {n : Node} {t : NodeType} (place : Place)
  (inherited : HideState)

/-- The instance that a visit makes, its children and rows apart. -/
def Place.instanceOf (place : Place) (ctx : Context) (before : Value) (n : Node)
    (inherited : HideState) : Instance where
  node := n
  kind := ctx.kindOf n
  path := place.pathOf ctx n
  hidden := (place.stateOf ctx before n inherited).hidden

/-- Apply a type to the value of a node, unless the values are kept. -/
def Place.applyTo (place : Place) (ctx : Context) (before : Value) (t : NodeType) (n : Node)
    (inherited : HideState) : Pass Unit :=
  if ctx.owns n && !place.keep then
    apply t n (place.pathOf ctx n) (place.stateOf ctx before n inherited)
  else pure ()

/-- Note a node whose type is unknown. -/
def noteUnknown (ctx : Context) (n : Node) (path : String) : Pass Unit :=
  if (ctx.typeOf n).isNone then StateT.lift (Noted.note (.unknownType n.type path)) else pure ()

theorem visit_of_leaf (ht : ctx.typeOf n = some t) (hk : t.kind = .leaf) :
    visit ctx before n place inherited = (do
      place.applyTo ctx before t n inherited
      pure (place.instanceOf ctx before n inherited)) := by
  have hkind : (ctx.typeOf n).map (·.kind) = ctx.kindOf n := rfl
  rw [visit.eq_1, Node.recurse_eq]
  simp only [hkind]
  simp only [ht, hk]
  rw [Place.applyTo]
  change (if ctx.owns n && !place.keep then _ else _) = _
  split
  · rfl
  · rw [pure_bind]
    rfl

theorem visit_of_keyless (ht : ctx.typeOf n = some t) (hk : t.kind = .repeater)
    (ho : ctx.owns n = false) :
    visit ctx before n place inherited = pure (place.instanceOf ctx before n inherited) := by
  have hkind : (ctx.typeOf n).map (·.kind) = ctx.kindOf n := rfl
  rw [visit.eq_1, Node.recurse_eq]
  simp only [hkind]
  simp only [ht, hk]
  change (if ctx.owns n then _ else _) = _
  rw [ho]
  rfl

theorem visit_of_repeater (ht : ctx.typeOf n = some t) (hk : t.kind = .repeater)
    (ho : ctx.owns n = true) :
    visit ctx before n place inherited = (do
      checkTemplate ctx n (place.pathOf ctx n)
      place.applyTo ctx before t n inherited
      let progress ← get
      let rows ← (List.range (rowCount progress.values (place.pathOf ctx n))).mapM fun index =>
        n.children.mapM fun c => visit ctx before c
          (place.inRow before (place.pathOf ctx n)
            (place.stateOf ctx before n inherited).hidden index)
          (place.stateOf ctx before n inherited)
      pure { place.instanceOf ctx before n inherited with rows }) := by
  have hkind : (ctx.typeOf n).map (·.kind) = ctx.kindOf n := rfl
  rw [visit.eq_1, Node.recurse_eq, ← visit.eq_1]
  simp only [hkind]
  simp only [ht, hk, List.mapM_map]
  change (if ctx.owns n then _ else _) = _
  rw [if_pos ho, Place.applyTo, ho, Bool.true_and]
  refine bind_congr fun _ => ?_
  split
  · rfl
  · rw [pure_bind]
    rfl

theorem visit_of_container (hk : (ctx.kindOf n).map Kind.ownsPath ≠ some true) :
    visit ctx before n place inherited = (do
      noteUnknown ctx n (place.pathOf ctx n)
      let children ← n.children.mapM fun c => visit ctx before c
        (place.inside (place.pathOf ctx n)) (place.stateOf ctx before n inherited)
      pure { place.instanceOf ctx before n inherited with children }) := by
  have hkind : (ctx.typeOf n).map (·.kind) = ctx.kindOf n := rfl
  rw [visit.eq_1, Node.recurse_eq, ← visit.eq_1, noteUnknown]
  simp only [hkind]
  cases ht : ctx.typeOf n with
  | none =>
    simp only [List.mapM_map]
    rfl
  | some t =>
    have hkt := Context.kindOf_of_typeOf ht
    cases htk : t.kind with
    | leaf | repeater => simp [hkt, htk, Kind.ownsPath] at hk
    | group | layout =>
      simp only [htk, List.mapM_map, Option.isNone_some, Bool.false_eq_true, if_false, pure_bind]
      rfl

end Steps

/-- The way that a visit of a node goes. -/
inductive Way (ctx : Context) (n : Node) : Prop
  | leaf {t : NodeType} (ht : ctx.typeOf n = some t) (hk : t.kind = .leaf)
  | keyless {t : NodeType} (ht : ctx.typeOf n = some t) (hk : t.kind = .repeater)
      (ho : ctx.owns n = false)
  | repeater {t : NodeType} (ht : ctx.typeOf n = some t) (hk : t.kind = .repeater)
      (ho : ctx.owns n = true)
  | container (hk : (ctx.kindOf n).map Kind.ownsPath ≠ some true)

theorem way (ctx : Context) (n : Node) : Way ctx n := by
  cases ht : ctx.typeOf n with
  | none => exact .container (by simp [Context.kindOf, ht])
  | some t =>
    cases hk : t.kind with
    | leaf => exact .leaf ht hk
    | repeater =>
      cases ho : ctx.owns n with
      | false => exact .keyless ht hk ho
      | true => exact .repeater ht hk ho
    | group | layout => exact .container (by simp [Context.kindOf, ht, hk, Kind.ownsPath])

end FormLogic.Visibility
