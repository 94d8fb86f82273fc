import UnifiedAttestation.Shrubs.Tree

/-! The level search computes the owner of a leaf, and the affected indices are
exactly those whose owner changes.
-/

set_option autoImplicit false

namespace UnifiedAttestation.Shrubs

open Forest (lastLeft Owner)

/-- The root over the 0-based position `p` at level `l`. -/
def ownerRoot (p l : Nat) : Root := ⟨l, p / 2 ^ l * 2 ^ l + 1, (p / 2 ^ l + 1) * 2 ^ l⟩

theorem rootBlock_eq {count : Nat} (positive : 0 < count) :
    (if count % 2 = 1 then count else count - 1) = lastLeft count + 1 := by
  unfold lastLeft
  split <;> omega

theorem span_iff {p size block : Nat} (positive : 0 < size) :
    (block * size + 1 ≤ p + 1 ∧ p + 1 ≤ (block + 1) * size) ↔ p / size = block := by
  rw [Nat.div_eq_iff positive, Nat.succ_mul]
  omega

theorem findOwnerRootLoop_owner {n p l k : Nat} (owner : Owner n p l) (from_k : k ≤ l) :
    findOwnerRootLoop (p + 1) n k (2 ^ k) = some (ownerRoot p l) := by
  induction height : l - k generalizing k with
  | zero =>
    obtain rfl : k = l := by omega
    have size := Nat.two_pow_pos k
    have fits : 2 ^ k ≤ n := (Nat.div_pos_iff.mp owner.reached).2
    rw [findOwnerRootLoop, if_neg (by omega), if_pos fits]
    simp only [rootBlock_eq owner.reached, Nat.add_sub_cancel, ← owner.covers]
    rw [if_neg (Nat.ne_of_gt owner.reached), if_pos ((span_iff size).mpr rfl)]
    rfl
  | succ height ih =>
    have size := Nat.two_pow_pos k
    have top : 2 ^ l ≤ n := (Nat.div_pos_iff.mp owner.reached).2
    have double : 2 ^ k * 2 ≤ n := calc
      2 ^ k * 2 = 2 ^ (k + 1) := (Nat.pow_succ 2 k).symm
      _ ≤ 2 ^ l := Nat.pow_le_pow_right (by decide) (by omega)
      _ ≤ n := top
    have count : 0 < n / 2 ^ k := Nat.div_pos (by omega) size
    have elsewhere : ¬ p / 2 ^ k = lastLeft (n / 2 ^ k) := owner.lowest k (by omega)
    rw [findOwnerRootLoop, if_neg (by omega), if_pos (by omega)]
    simp only [rootBlock_eq count, Nat.add_sub_cancel]
    rw [if_neg (Nat.ne_of_gt count), if_neg (mt (span_iff size).mp elsewhere), if_neg (by omega),
      ← Nat.pow_succ]
    exact ih (by omega) (by omega)

theorem findOwnerRoot_owner {n p l : Nat} (owner : Owner n p l) (inside : p < n) :
    findOwnerRoot (p + 1) n = some (ownerRoot p l) := by
  rw [findOwnerRoot, if_pos (by omega)]
  simpa using findOwnerRootLoop_owner owner (Nat.zero_le l)

/-- Two counts give a position the same owner root exactly when they give it the
same owner level. -/
theorem findOwnerRoot_eq_iff {n m p l k : Nat} (first : Owner n p l) (second : Owner m p k)
    (inside : p < n) (inside' : p < m) : findOwnerRoot (p + 1) n = findOwnerRoot (p + 1) m ↔ l = k := by
  rw [findOwnerRoot_owner first inside, findOwnerRoot_owner second inside']
  constructor
  · intro same
    exact congrArg Root.level (Option.some.inj same)
  · rintro rfl
    rfl

theorem affectedIndicesLoop_eq {n m : Nat} {indices : List Nat}
    (valid : ∀ i ∈ indices, 1 ≤ i ∧ i ≤ n ∧ i ≤ m) :
    affectedIndicesLoop n m indices =
      some (indices.filter fun i => findOwnerRoot i n ≠ findOwnerRoot i m) := by
  induction indices with
  | nil => rfl
  | cons i rest ih =>
    obtain ⟨low, high, high'⟩ := valid i (by simp)
    obtain ⟨p, rfl⟩ : ∃ p, i = p + 1 := ⟨i - 1, by omega⟩
    obtain ⟨l, first⟩ := Owner.exists (n := n) (p := p) (by omega)
    obtain ⟨k, second⟩ := Owner.exists (n := m) (p := p) (by omega)
    have tail := ih fun j member => valid j (by simp [member])
    have oldRoot := findOwnerRoot_owner first (by omega)
    have newRoot := findOwnerRoot_owner second (by omega)
    simp only [affectedIndicesLoop, oldRoot, newRoot, tail, List.filter_cons, Option.bind_eq_bind,
      Option.bind_some, ne_eq, Option.some.injEq, decide_not]
    split <;> split <;> simp_all

/-- The affected indices are the old indices whose owner root changes, in order. -/
theorem affectedIndices_eq {oldTotal : Nat} (inserted : Nat) (positive : 0 < oldTotal) :
    affectedIndices oldTotal inserted =
      some ((List.range' 1 oldTotal).filter fun i =>
        findOwnerRoot i oldTotal ≠ findOwnerRoot i (oldTotal + inserted)) := by
  rw [affectedIndices, if_neg (by omega)]
  split
  · rename_i none
    simp [none]
  · apply affectedIndicesLoop_eq
    intro i member
    have := List.mem_range'_1.mp member
    omega

end UnifiedAttestation.Shrubs
