import FormLogic.Resolve.Visibility

/-!
# Deciding what a form comes to

Values, schemas and instance trees are compared constructor by constructor, and so what
a computation on a small form gives is decided by running it. The `==` of values is
coarser, since it takes the two floating zeros for one.
-/
namespace FormLogic

mutual
def Value.decEq : (v w : Value) → Decidable (v = w)
  | .null, .null => .isTrue rfl
  | .bool a, .bool b => decidable_of_iff (a = b) (by simp)
  | .num a, .num b => decidable_of_iff (a = b) (by simp)
  | .str a, .str b => decidable_of_iff (a = b) (by simp)
  | .arr a, .arr b =>
    have := decEqItems a b
    decidable_of_iff (a = b) (by simp)
  | .obj a, .obj b =>
    have := decEqFields a b
    decidable_of_iff (a = b) (by simp)
  | .null, .bool _ | .null, .num _ | .null, .str _ | .null, .arr _ | .null, .obj _
  | .bool _, .null | .bool _, .num _ | .bool _, .str _ | .bool _, .arr _ | .bool _, .obj _
  | .num _, .null | .num _, .bool _ | .num _, .str _ | .num _, .arr _ | .num _, .obj _
  | .str _, .null | .str _, .bool _ | .str _, .num _ | .str _, .arr _ | .str _, .obj _
  | .arr _, .null | .arr _, .bool _ | .arr _, .num _ | .arr _, .str _ | .arr _, .obj _
  | .obj _, .null | .obj _, .bool _ | .obj _, .num _ | .obj _, .str _ | .obj _, .arr _ =>
    .isFalse (by simp)
def Value.decEqItems : (a b : List Value) → Decidable (a = b)
  | [], [] => .isTrue rfl
  | [], _ :: _ | _ :: _, [] => .isFalse (by simp)
  | v :: a, w :: b =>
    have := Value.decEq v w
    have := decEqItems a b
    decidable_of_iff (v = w ∧ a = b) (by simp)
def Value.decEqFields : (a b : Fields) → Decidable (a = b)
  | [], [] => .isTrue rfl
  | [], _ :: _ | _ :: _, [] => .isFalse (by simp)
  | (k, v) :: a, (l, w) :: b =>
    have := Value.decEq v w
    have := decEqFields a b
    decidable_of_iff ((k = l ∧ v = w) ∧ a = b) (by simp)
end

instance : DecidableEq Value := Value.decEq

deriving instance DecidableEq for Conditional, Demands, Attributes

mutual
def Node.decEq : (n m : Node) → Decidable (n = m)
  | ⟨a, ns, cs⟩, ⟨b, ms, ds⟩ =>
    have := Node.decEqAll ns ms
    have := Column.decEqAll cs ds
    decidable_of_iff (a = b ∧ ns = ms ∧ cs = ds) (by simp)
def Node.decEqAll : (ns ms : List Node) → Decidable (ns = ms)
  | [], [] => .isTrue rfl
  | [], _ :: _ | _ :: _, [] => .isFalse (by simp)
  | n :: ns, m :: ms =>
    have := Node.decEq n m
    have := Node.decEqAll ns ms
    decidable_of_iff (n = m ∧ ns = ms) (by simp)
def Column.decEq : (c d : Column) → Decidable (c = d)
  | ⟨ns, a⟩, ⟨ms, b⟩ =>
    have := Node.decEqAll ns ms
    decidable_of_iff (ns = ms ∧ a = b) (by simp)
def Column.decEqAll : (cs ds : List Column) → Decidable (cs = ds)
  | [], [] => .isTrue rfl
  | [], _ :: _ | _ :: _, [] => .isFalse (by simp)
  | c :: cs, d :: ds =>
    have := Column.decEq c d
    have := Column.decEqAll cs ds
    decidable_of_iff (c = d ∧ cs = ds) (by simp)
end

instance : DecidableEq Node := Node.decEq

mutual
def Instance.decEq : (i j : Instance) → Decidable (i = j)
  | ⟨n, k, p, h, is, r⟩, ⟨m, l, q, g, js, s⟩ =>
    have := Instance.decEqAll is js
    have := Instance.decEqRows r s
    decidable_of_iff (n = m ∧ k = l ∧ p = q ∧ h = g ∧ is = js ∧ r = s) (by simp)
def Instance.decEqAll : (is js : List Instance) → Decidable (is = js)
  | [], [] => .isTrue rfl
  | [], _ :: _ | _ :: _, [] => .isFalse (by simp)
  | i :: is, j :: js =>
    have := Instance.decEq i j
    have := Instance.decEqAll is js
    decidable_of_iff (i = j ∧ is = js) (by simp)
def Instance.decEqRows : (r s : List (List Instance)) → Decidable (r = s)
  | [], [] => .isTrue rfl
  | [], _ :: _ | _ :: _, [] => .isFalse (by simp)
  | is :: r, js :: s =>
    have := Instance.decEqAll is js
    have := Instance.decEqRows r s
    decidable_of_iff (is = js ∧ r = s) (by simp)
end

instance : DecidableEq Instance := Instance.decEq

deriving instance DecidableEq for Visibility.Outcome

/-- Whether a computation gives a result is told without comparing errors. -/
instance decidableEqOk {ε α : Type} [DecidableEq α] (x : Except ε α) (a : α) :
    Decidable (x = .ok a) :=
  match x with
  | .error _ => .isFalse (by simp)
  | .ok b => decidable_of_iff (b = a) (by simp)

end FormLogic
