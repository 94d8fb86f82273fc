import UnifiedAttestation.Forest.Openings

/-! Commitments that keep one entry per layer: the last left child.

The owner of a leaf is the lowest layer whose kept entry stands over the leaf.
Every leaf has exactly one owner, and the kept entries determine the leaves when
the hash is injective and the leaves are distinct.
-/

set_option autoImplicit false

namespace Forest

variable {α : Type} (hash : α → α → α)

/-- Position of the last left child in a layer of `n` entries. -/
def lastLeft (n : Nat) : Nat := 2 * ((n - 1) / 2)

theorem lastLeft_lt {n : Nat} (positive : 0 < n) : lastLeft n < n := by
  unfold lastLeft; omega

theorem lastLeft_of_odd {n : Nat} (odd : n % 2 = 1) : lastLeft n = n - 1 := by
  unfold lastLeft; omega

theorem lastLeft_of_even {n : Nat} (even : n % 2 = 0) : lastLeft n = n - 2 := by
  unfold lastLeft; omega

/-- Layer `l` is the lowest one whose last left entry stands over position `p`. -/
structure Owner (n p l : Nat) : Prop where
  covers : p / 2 ^ l = lastLeft (n / 2 ^ l)
  reached : 0 < n / 2 ^ l
  lowest : ∀ j < l, p / 2 ^ j ≠ lastLeft (n / 2 ^ j)

theorem Owner.complete {n p l : Nat} (owner : Owner n p l) : p / 2 ^ l < n / 2 ^ l :=
  owner.covers ▸ lastLeft_lt owner.reached

theorem Owner.unique {n p l l' : Nat} (owner : Owner n p l) (other : Owner n p l') : l = l' := by
  rcases Nat.lt_trichotomy l l' with less | same | more
  · exact absurd owner.covers (other.lowest l less)
  · exact same
  · exact absurd other.covers (owner.lowest l' more)

theorem Owner.zero_iff {n p : Nat} : Owner n p 0 ↔ p = lastLeft n ∧ 0 < n := by
  constructor
  · intro owner
    exact ⟨by simpa using owner.covers, by simpa using owner.reached⟩
  · rintro ⟨covers, positive⟩
    exact ⟨by simpa using covers, by simpa using positive, by simp⟩

theorem Owner.succ_iff {n p l : Nat} :
    Owner n p (l + 1) ↔ p ≠ lastLeft n ∧ Owner (n / 2) (p / 2) l := by
  have shift : ∀ m k : Nat, m / 2 ^ (k + 1) = m / 2 / 2 ^ k := by
    intro m k
    rw [Nat.div_div_eq_div_mul, Nat.pow_succ, Nat.mul_comm 2]
  constructor
  · intro owner
    refine ⟨by simpa using owner.lowest 0 (Nat.succ_pos l), ?_, ?_, ?_⟩
    · simpa only [shift] using owner.covers
    · simpa only [shift] using owner.reached
    · intro j below
      simpa only [shift] using owner.lowest (j + 1) (Nat.succ_lt_succ below)
  · rintro ⟨ground, owner⟩
    refine ⟨by simpa only [shift] using owner.covers, by simpa only [shift] using owner.reached, ?_⟩
    intro j below
    cases j with
    | zero => simpa using ground
    | succ j => simpa only [shift] using owner.lowest j (Nat.lt_of_succ_lt_succ below)

/-- Every position below the count has an owner. -/
theorem Owner.exists {n p : Nat} (inside : p < n) : ∃ l, Owner n p l := by
  induction n using Nat.strongRecOn generalizing p with
  | ind n ih =>
    by_cases ground : p = lastLeft n
    · exact ⟨0, Owner.zero_iff.mpr ⟨ground, by omega⟩⟩
    · have upper : p / 2 < n / 2 := by unfold lastLeft at ground; omega
      obtain ⟨l, owner⟩ := ih (n / 2) (by omega) upper
      exact ⟨l + 1, Owner.succ_iff.mpr ⟨ground, owner⟩⟩

/-- The list keeps, for every layer, exactly its last left entry. -/
def Commits (xs root : List α) : Prop :=
  ∀ k : Nat, root[k]? = (layer hash k xs)[lastLeft (xs.length / 2 ^ k)]?

theorem Commits.unique {xs root other : List α} (first : Commits hash xs root)
    (second : Commits hash xs other) : root = other :=
  List.ext_getElem? fun k => (first k).trans (second k).symm

theorem Commits.nil : Commits hash ([] : List α) [] := by
  intro k
  rw [List.getElem?_eq_none (by simp), List.getElem?_eq_none (by simp)]

/-- A commitment is its bottom entry followed by a commitment to the pairs. -/
theorem Commits.cons_iff {xs root : List α} {bottom : α} :
    Commits hash xs (bottom :: root) ↔
      xs[lastLeft xs.length]? = some bottom ∧ Commits hash (pairUp hash xs) root := by
  have shift : ∀ k : Nat, xs.length / 2 ^ (k + 1) = (pairUp hash xs).length / 2 ^ k := by
    intro k
    rw [pairUp_length, Nat.div_div_eq_div_mul, Nat.pow_succ, Nat.mul_comm 2]
  constructor
  · intro commits
    refine ⟨by simpa using (commits 0).symm, fun k => ?_⟩
    have entry := commits (k + 1)
    rwa [List.getElem?_cons_succ, shift, layer] at entry
  · rintro ⟨ground, commits⟩ k
    cases k with
    | zero => simpa using ground.symm
    | succ k => rw [List.getElem?_cons_succ, shift, layer]; exact commits k

theorem Commits.bottom {xs root : List α} (commits : Commits hash xs root) :
    root[0]? = xs[lastLeft xs.length]? := by
  simpa using commits 0

theorem Commits.present {xs root : List α} (commits : Commits hash xs root) {i m : Nat} (low : i ≤ m)
    (reached : 0 < xs.length / 2 ^ m) : ∃ entry, root[i]? = some entry := by
  have level : 0 < xs.length / 2 ^ i := Nat.lt_of_lt_of_le reached
    (Nat.div_le_div_left (Nat.pow_le_pow_right (by decide) low) (Nat.two_pow_pos i))
  rw [commits i, List.getElem?_eq_getElem (by rw [layer_length]; exact lastLeft_lt level)]
  exact ⟨_, rfl⟩

/-- The entry kept for the owner's layer stands over the owned position. -/
theorem Commits.owner {xs root : List α} (commits : Commits hash xs root) {p l : Nat}
    (owner : Owner xs.length p l) : root[l]? = (layer hash l xs)[p / 2 ^ l]? := by
  rw [commits l, owner.covers]

theorem Commits.mem_iff {xs root : List α} (commits : Commits hash xs root) {value : α} :
    value ∈ root ↔ ∃ k : Nat, (layer hash k xs)[lastLeft (xs.length / 2 ^ k)]? = some value := by
  rw [List.mem_iff_getElem?]
  exact exists_congr fun k => by rw [commits k]

/-- The upper part of a commitment commits to the layer it starts at. -/
theorem Commits.layer {xs root : List α} (commits : Commits hash xs root) (k : Nat) :
    Commits hash (layer hash k xs) (root.drop k) := by
  intro i
  rw [List.getElem?_drop, commits (k + i), layer_add, layer_length, Nat.div_div_eq_div_mul, Nat.pow_add]

theorem Commits.eq_nil_iff {xs root : List α} (commits : Commits hash xs root) :
    root = [] ↔ xs = [] := by
  constructor
  · rintro rfl
    by_contra occupied
    have positive : 0 < xs.length := List.length_pos_of_ne_nil occupied
    have bottom := commits.bottom
    rw [List.getElem?_eq_getElem (lastLeft_lt positive)] at bottom
    simp at bottom
  · rintro rfl
    exact commits.unique hash (Commits.nil hash)

/-- Between an even and an odd list over the same pairs the bottom entry decides:
the even one repeats a paired leaf, which distinct odd leaves cannot. -/
theorem bottom_parity {xs ys : List α} {bottom : α} {h : Nat} (even : xs.length = 2 * h)
    (odd : ys.length = 2 * h + 1) (common : xs.take (2 * h) = ys.take (2 * h)) (distinct : ys.Nodup)
    (atX : xs[lastLeft xs.length]? = some bottom) (atY : ys[lastLeft ys.length]? = some bottom) :
    False := by
  rw [even, lastLeft_of_even (by omega)] at atX
  rw [odd, lastLeft_of_odd (by omega)] at atY
  have positive : 0 < h := by
    have := (List.getElem?_eq_some_iff.mp atX).1
    omega
  have paired : ys[2 * h - 2]? = some bottom := by
    have entry := congrArg (fun l => l[2 * h - 2]?) common
    simp only [List.getElem?_take, show 2 * h - 2 < 2 * h by omega, if_true] at entry
    rw [← entry, atX]
  have repeated := (List.getElem?_inj (i := 2 * h - 2) (by omega) distinct).mp (paired.trans atY.symm)
  omega

/-- The kept entries determine distinct leaves. -/
theorem Commits.binding (injective : Function.Injective2 hash) {xs ys root : List α}
    (first : Commits hash xs root) (second : Commits hash ys root)
    (left : xs.Nodup) (right : ys.Nodup) : xs = ys := by
  induction root generalizing xs ys with
  | nil => rw [(first.eq_nil_iff hash).mp rfl, (second.eq_nil_iff hash).mp rfl]
  | cons bottom root ih =>
    obtain ⟨atX, firstUp⟩ := (Commits.cons_iff hash).mp first
    obtain ⟨atY, secondUp⟩ := (Commits.cons_iff hash).mp second
    have pairs := ih firstUp secondUp (pairUp_nodup hash injective left) (pairUp_nodup hash injective right)
    have counts : ys.length / 2 = xs.length / 2 := by
      simpa only [pairUp_length] using (congrArg List.length pairs).symm
    have common := pairUp_injective hash injective pairs
    rw [counts] at common
    rcases Nat.mod_two_eq_zero_or_one xs.length with evenX | oddX <;>
      rcases Nat.mod_two_eq_zero_or_one ys.length with evenY | oddY
    · rwa [List.take_of_length_le (by omega), List.take_of_length_le (by omega)] at common
    · exact (bottom_parity (by omega) (by omega) common right atX atY).elim
    · exact (bottom_parity (by omega) (by omega) common.symm left atY atX).elim
    · have bound : xs.length = ys.length := by omega
      rw [← bound, ← atX, lastLeft_of_odd oddX] at atY
      apply List.ext_getElem?
      intro i
      rcases Nat.lt_trichotomy i (xs.length - 1) with paired | last | beyond
      · have entry := congrArg (fun l => l[i]?) common
        simpa only [List.getElem?_take, show i < 2 * (xs.length / 2) by omega, if_true] using entry
      · rw [last, atY]
      · rw [List.getElem?_eq_none (by omega), List.getElem?_eq_none (by omega)]

end Forest
