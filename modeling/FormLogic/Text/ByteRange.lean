import FormLogic.Text.CharSet

/-!
# Character ranges as ranges of bytes

In UTF-8 a range of characters is a union of rows of byte ranges: a row stands for all
characters whose first byte lies in its first range, whose second byte in its second, and
so on. A range is cut wherever a byte of its last character would not run through all its
values for each value of the bytes before it.
-/
namespace FormLogic

/-- The bytes from `low` to `high`. -/
structure ByteRange where
  low : UInt8
  high : UInt8
deriving DecidableEq, Repr, Inhabited

namespace CharRange

def encode (n : Nat) : List UInt8 :=
  let tail (shift : Nat) : UInt8 := (0x80 + n / shift % 64).toUInt8
  if n < 0x80 then [n.toUInt8]
  else if n < 0x800 then [(0xC0 + n / 64).toUInt8, tail 1]
  else if n < 0x10000 then [(0xE0 + n / 4096).toUInt8, tail 64, tail 1]
  else [(0xF0 + n / 262144).toUInt8, tail 4096, tail 64, tail 1]

/-- The part of a range between two bounds. -/
def clip? (r : CharRange) (low high : Nat) : Option CharRange := r.meet? ⟨low, high⟩

/-- The parts of a range whose characters take equally many bytes, without surrogates. -/
def byLength (r : CharRange) : List CharRange :=
  [r.clip? 0 0x7F, r.clip? 0x80 0x7FF, r.clip? 0x800 0xD7FF, r.clip? 0xE000 0xFFFF,
    r.clip? 0x10000 0x10FFFF].filterMap id

/-- Where a range is cut because it begins inside a block of code points or ends inside another. -/
def cutAt? (low high block : Nat) : Option Nat :=
  if low / block = high / block then none
  else if low % block ≠ 0 then some ((low / block + 1) * block)
  else if high % block ≠ block - 1 then some (high / block * block)
  else none

/-- The first cut for blocks of sixty-four characters, and for the blocks made of such blocks. ASCII
characters have no second byte. -/
def cut? (low high : Nat) : Option Nat :=
  if high ≤ low ∨ high < 0x80 then none
  else (cutAt? low high 64).or ((cutAt? low high 4096).or (cutAt? low high 262144))

theorem lt_of_cutAt? {low high block cut : Nat} (hb : 0 < block) (h : low < high)
    (hc : cutAt? low high block = some cut) : low < cut ∧ cut ≤ high := by
  have hlow := Nat.div_add_mod low block
  have hhigh := Nat.div_add_mod high block
  have hmod := Nat.mod_lt low hb
  have hle : low / block ≤ high / block := Nat.div_le_div_right (Nat.le_of_lt h)
  unfold cutAt? at hc
  split at hc
  · cases hc
  · rename_i hne
    have hlt : low / block + 1 ≤ high / block := by omega
    have hmul := Nat.mul_le_mul_left block hlt
    rw [Nat.mul_add, Nat.mul_one] at hmul
    split at hc
    · obtain rfl := Option.some.inj hc
      rw [Nat.add_mul, Nat.one_mul, Nat.mul_comm (low / block)]
      omega
    · split at hc
      · obtain rfl := Option.some.inj hc
        rw [Nat.mul_comm (high / block)]
        omega
      · cases hc

theorem lt_of_cut? {low high cut : Nat} (h : cut? low high = some cut) :
    low < cut ∧ cut ≤ high := by
  unfold cut? at h
  split at h
  · cases h
  · rename_i hlt
    have hlt : low < high := by omega
    rcases Option.or_eq_some_iff.1 h with h | ⟨_, h⟩
    · exact lt_of_cutAt? (by decide) hlt h
    rcases Option.or_eq_some_iff.1 h with h | ⟨_, h⟩
    all_goals exact lt_of_cutAt? (by decide) hlt h

/-- The pieces of a range of characters that take equally many bytes, each of which is one row. -/
def pieces (low high : Nat) : List CharRange :=
  match _h : cut? low high with
  | none => [⟨low, high⟩]
  | some cut => pieces low (cut - 1) ++ pieces cut high
termination_by high - low
decreasing_by
  all_goals
    have := lt_of_cut? _h
    omega

/-- The rows of byte ranges that stand for a range, in ascending order. -/
def byteRows (r : CharRange) : List (List ByteRange) :=
  (r.byLength.flatMap fun part => pieces part.low part.high).map fun piece =>
    ((encode piece.low).zip (encode piece.high)).map fun ends => ⟨ends.1, ends.2⟩

end CharRange

/-- The rows of byte ranges that stand for a set. -/
def CharSet.byteRows (s : CharSet) : List (List ByteRange) := s.ranges.flatMap CharRange.byteRows

end FormLogic
