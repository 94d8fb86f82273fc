import UnifiedAttestation.Forest.Layers

/-! Openings: the siblings met on the way up from a leaf, and the climb that
recomputes an ancestor from them.
-/

set_option autoImplicit false

namespace Forest

variable {α : Type} (hash : α → α → α)

def siblingIndex (p : Nat) : Nat := if p % 2 = 1 then p - 1 else p + 1

/-- The siblings of position `p` on the lowest `l` layers. -/
def siblings : Nat → List α → Nat → List α
  | 0, _, _ => []
  | l + 1, xs, p => xs[siblingIndex p]?.toList ++ siblings l (pairUp hash xs) (p / 2)

/-- For each of the lowest `l` layers, whether the ancestor of `p` is a left child. -/
def leftTags : Nat → Nat → List Bool
  | 0, _ => []
  | l + 1, p => (p % 2 == 0) :: leftTags l (p / 2)

/-- Recompute an ancestor; a `true` tag puts the sibling on the right. -/
def climb : α → List α → List Bool → α
  | value, sibling :: path, true :: tags => climb (hash value sibling) path tags
  | value, sibling :: path, false :: tags => climb (hash sibling value) path tags
  | value, _, _ => value

@[simp] theorem leftTags_length (l p : Nat) : (leftTags l p).length = l := by
  induction l generalizing p with
  | zero => rfl
  | succ l ih => simp [leftTags, ih]

theorem div_two_complete {l n p : Nat} (complete : p / 2 ^ (l + 1) < n / 2 ^ (l + 1)) :
    p / 2 / 2 ^ l < n / 2 / 2 ^ l := by
  rwa [Nat.div_div_eq_div_mul, Nat.div_div_eq_div_mul, Nat.mul_comm 2, ← Nat.pow_succ]

theorem complete_of_le {l m n p : Nat} (low : l ≤ m) (complete : p / 2 ^ m < n / 2 ^ m) : p / 2 ^ l < n / 2 ^ l := by
  by_contra outside
  have pushed := Nat.div_le_div_right (c := 2 ^ (m - l)) (Nat.le_of_not_lt outside)
  rw [Nat.div_div_eq_div_mul, Nat.div_div_eq_div_mul, ← Nat.pow_add, Nat.add_sub_cancel' low] at pushed
  exact absurd complete (Nat.not_lt.mpr pushed)

/-- Inside a complete block both children of a pair exist. -/
theorem pair_complete {l n p : Nat} (complete : p / 2 ^ (l + 1) < n / 2 ^ (l + 1)) : p / 2 < n / 2 := by
  have upper := div_two_complete complete
  by_contra outside
  exact absurd (Nat.div_le_div_right (c := 2 ^ l) (Nat.le_of_not_lt outside)) (Nat.not_le.mpr upper)

theorem siblingIndex_lt {n p : Nat} (complete : p / 2 < n / 2) : siblingIndex p < n := by
  unfold siblingIndex
  split <;> omega

theorem siblings_length {l : Nat} {xs : List α} {p : Nat}
    (complete : p / 2 ^ l < xs.length / 2 ^ l) : (siblings hash l xs p).length = l := by
  induction l generalizing xs p with
  | zero => rfl
  | succ l ih =>
    have inside := siblingIndex_lt (pair_complete complete)
    have rest : (siblings hash l (pairUp hash xs) (p / 2)).length = l :=
      ih (by rw [pairUp_length]; exact div_two_complete complete)
    simp only [siblings, List.getElem?_eq_getElem inside, Option.toList_some, List.singleton_append,
      List.length_cons, rest]

/-- The siblings are entries of the layers, one of each. -/
theorem siblings_getElem? {l k p : Nat} {xs : List α} (complete : p / 2 ^ l < xs.length / 2 ^ l) (below : k < l) :
    (siblings hash l xs p)[k]? = (layer hash k xs)[siblingIndex (p / 2 ^ k)]? := by
  induction l generalizing xs p k with
  | zero => exact absurd below (Nat.not_lt_zero k)
  | succ l ih =>
    have inside := siblingIndex_lt (pair_complete complete)
    have upper : p / 2 / 2 ^ l < (pairUp hash xs).length / 2 ^ l := by
      rw [pairUp_length]; exact div_two_complete complete
    simp only [siblings, List.getElem?_eq_getElem inside, Option.toList_some, List.singleton_append]
    cases k with
    | zero => simp [inside]
    | succ k =>
      rw [List.getElem?_cons_succ, ih upper (by omega), layer, Nat.div_div_eq_div_mul, Nat.pow_succ, Nat.mul_comm 2]

theorem leftTags_getElem? {l k : Nat} (below : k < l) (p : Nat) : (leftTags l p)[k]? = some (!p.testBit k) := by
  induction l generalizing k p with
  | zero => exact absurd below (Nat.not_lt_zero k)
  | succ l ih =>
    rw [leftTags]
    cases k with
    | zero => rcases Nat.mod_two_eq_zero_or_one p with even | odd <;> simp [Nat.testBit_zero, *]
    | succ k => rw [List.getElem?_cons_succ, ih (by omega), Nat.testBit_succ]

/-- A complete block keeps its openings when leaves are appended. -/
theorem siblings_of_grows {l : Nat} {xs ys : List α} {p : Nat} (grows : xs <+: ys)
    (complete : p / 2 ^ l < xs.length / 2 ^ l) : siblings hash l ys p = siblings hash l xs p := by
  induction l generalizing xs ys p with
  | zero => rfl
  | succ l ih =>
    have inside := siblingIndex_lt (pair_complete complete)
    have rest := ih (pairUp_grows hash grows) (p := p / 2)
      (by rw [pairUp_length]; exact div_two_complete complete)
    simp only [siblings, rest]
    obtain ⟨more, rfl⟩ := grows
    rw [List.getElem?_append_left inside]

theorem siblingIndex_add_even (m p : Nat) : siblingIndex (2 * m + p) = 2 * m + siblingIndex p := by
  unfold siblingIndex
  split <;> split <;> omega

theorem two_pow_succ_mul_add_div (l q p : Nat) : (2 ^ (l + 1) * q + p) / 2 = 2 ^ l * q + p / 2 := by
  rw [Nat.pow_succ, Nat.mul_comm (2 ^ l) 2, Nat.mul_assoc]
  omega

/-- Openings do not depend on the blocks before an aligned start. -/
theorem siblings_drop (l q : Nat) (xs : List α) (p : Nat) :
    siblings hash l (xs.drop (2 ^ l * q)) p = siblings hash l xs (2 ^ l * q + p) := by
  induction l generalizing xs p with
  | zero => rfl
  | succ l ih =>
    have even : 2 ^ (l + 1) * q = 2 * (2 ^ l * q) := by
      rw [Nat.pow_succ, Nat.mul_comm (2 ^ l) 2, Nat.mul_assoc]
    simp only [siblings, two_pow_succ_mul_add_div, ← ih, List.getElem?_drop]
    rw [even, siblingIndex_add_even, pairUp_drop]

theorem leftTags_add (l q p : Nat) : leftTags l (2 ^ l * q + p) = leftTags l p := by
  induction l generalizing p with
  | zero => rfl
  | succ l ih =>
    have parity : (2 ^ (l + 1) * q + p) % 2 = p % 2 := by
      rw [Nat.pow_succ, Nat.mul_comm (2 ^ l) 2, Nat.mul_assoc]
      omega
    simp only [leftTags, two_pow_succ_mul_add_div, ih, parity]

/-- Climbing along its siblings takes a leaf to the entry above it. -/
theorem climb_siblings {l : Nat} {xs : List α} {p : Nat} {leaf : α} (at_p : xs[p]? = some leaf)
    (complete : p / 2 ^ l < xs.length / 2 ^ l) :
    (layer hash l xs)[p / 2 ^ l]? = some (climb hash leaf (siblings hash l xs p) (leftTags l p)) := by
  induction l generalizing xs p leaf with
  | zero => simpa [siblings, leftTags, climb] using at_p
  | succ l ih =>
    have inside := siblingIndex_lt (pair_complete complete)
    have upper : p / 2 / 2 ^ l < (pairUp hash xs).length / 2 ^ l := by
      rw [pairUp_length]; exact div_two_complete complete
    have index : p / 2 ^ (l + 1) = p / 2 / 2 ^ l := by
      rw [Nat.div_div_eq_div_mul, Nat.pow_succ, Nat.mul_comm 2]
    rw [index, layer]
    simp only [siblings, leftTags, List.getElem?_eq_getElem inside, Option.toList_some,
      List.singleton_append]
    rcases Nat.mod_two_eq_zero_or_one p with even | odd
    · have sib : siblingIndex p = 2 * (p / 2) + 1 := by simp only [siblingIndex]; split <;> omega
      have parent : (pairUp hash xs)[p / 2]? = some (hash leaf xs[siblingIndex p]) := by
        rw [pairUp_getElem?, show 2 * (p / 2) = p by omega, at_p]
        simp only [Option.bind_some]
        rw [List.getElem?_eq_getElem (show p + 1 < xs.length by omega)]
        simp only [Option.map_some, sib, show 2 * (p / 2) + 1 = p + 1 by omega]
      simpa [even, climb] using ih parent upper
    · have sib : siblingIndex p = 2 * (p / 2) := by simp only [siblingIndex]; split <;> omega
      have parent : (pairUp hash xs)[p / 2]? = some (hash xs[siblingIndex p] leaf) := by
        rw [pairUp_getElem?, show 2 * (p / 2) + 1 = p by omega, at_p,
          List.getElem?_eq_getElem (show 2 * (p / 2) < xs.length by omega)]
        simp only [Option.bind_some, Option.map_some, sib]
      simpa [odd, climb] using ih parent upper

/-- The aligned block of `2 ^ m` leaves over position `p`. -/
def block (m p : Nat) (xs : List α) : List α := (xs.drop (2 ^ m * (p / 2 ^ m))).take (2 ^ m)

theorem block_grows (m p : Nat) (xs : List α) : block m p xs <+: xs.drop (2 ^ m * (p / 2 ^ m)) :=
  List.take_prefix _ _

theorem block_length {m p : Nat} {xs : List α} (complete : p / 2 ^ m < xs.length / 2 ^ m) :
    (block m p xs).length = 2 ^ m := by
  have fits := (Nat.le_div_iff_mul_le (Nat.two_pow_pos m)).mp complete
  rw [Nat.succ_mul, Nat.mul_comm] at fits
  simp only [block, List.length_take, List.length_drop]
  omega

theorem block_offset {i m : Nat} (low : i ≤ m) (p : Nat) :
    2 ^ m * (p / 2 ^ m) = 2 ^ i * (2 ^ (m - i) * (p / 2 ^ m)) := by
  rw [← Nat.mul_assoc, ← Nat.pow_add, Nat.add_sub_cancel' low]

theorem block_position {i m : Nat} (low : i ≤ m) (p : Nat) :
    p / 2 ^ i = 2 ^ (m - i) * (p / 2 ^ m) + p % 2 ^ m / 2 ^ i := by
  conv_lhs => rw [← Nat.div_add_mod p (2 ^ m), block_offset low, Nat.mul_add_div (Nat.two_pow_pos i)]

theorem block_inside {i m p : Nat} (low : i ≤ m) : p % 2 ^ m / 2 ^ i < 2 ^ m / 2 ^ i := by
  have below := Nat.mod_lt p (Nat.two_pow_pos m)
  rw [Nat.pow_div low (by decide), Nat.div_lt_iff_lt_mul (Nat.two_pow_pos i), ← Nat.pow_add,
    Nat.sub_add_cancel low]
  exact below

/-- Seen from inside its block a position has the same ancestors. -/
theorem layer_block {i m p : Nat} {xs : List α} (low : i ≤ m)
    (complete : p / 2 ^ m < xs.length / 2 ^ m) :
    (layer hash i (block m p xs))[p % 2 ^ m / 2 ^ i]? = (layer hash i xs)[p / 2 ^ i]? := by
  have inside : p % 2 ^ m / 2 ^ i < (block m p xs).length / 2 ^ i := by
    rw [block_length complete]; exact block_inside low
  rw [← layer_getElem?_of_grows hash i (block_grows m p xs) inside, block_offset low, layer_drop,
    List.getElem?_drop, ← block_position low]

/-- Seen from inside its block a position has the same siblings. -/
theorem siblings_block {l m p : Nat} {xs : List α} (low : l ≤ m)
    (complete : p / 2 ^ m < xs.length / 2 ^ m) :
    siblings hash l (block m p xs) (p % 2 ^ m) = siblings hash l xs p := by
  have inside : p % 2 ^ m / 2 ^ l < (block m p xs).length / 2 ^ l := by
    rw [block_length complete]; exact block_inside low
  rw [← siblings_of_grows hash (block_grows m p xs) inside, block_offset low, siblings_drop,
    ← block_offset low, Nat.div_add_mod]

theorem leftTags_block {l m : Nat} (low : l ≤ m) (p : Nat) : leftTags l (p % 2 ^ m) = leftTags l p := by
  conv_rhs => rw [← Nat.div_add_mod p (2 ^ m), block_offset low, leftTags_add]

theorem climb_append {first : List α} {tags : List Bool} (same : first.length = tags.length)
    (value : α) (path : List α) (more : List Bool) :
    climb hash value (first ++ path) (tags ++ more) = climb hash (climb hash value first tags) path more := by
  induction first generalizing value tags with
  | nil =>
    cases tags with
    | nil => rfl
    | cons tag tags => simp at same
  | cons sibling first ih =>
    cases tags with
    | nil => simp at same
    | cons tag tags =>
      have rest : first.length = tags.length := by simpa using same
      cases tag <;> simpa only [List.cons_append, climb] using ih rest _

theorem layer_succ_children {e i : Nat} {xs : List α} {value : α}
    (entry : (layer hash (e + 1) xs)[i]? = some value) :
    ∃ left right, (layer hash e xs)[2 * i]? = some left ∧ (layer hash e xs)[2 * i + 1]? = some right ∧
      hash left right = value := by
  rw [layer_succ, pairUp_getElem?, Option.bind_eq_some_iff] at entry
  obtain ⟨left, atLeft, entry⟩ := entry
  rw [Option.map_eq_some_iff] at entry
  obtain ⟨right, atRight, same⟩ := entry
  exact ⟨left, right, atLeft, atRight, same⟩

/-- With an injective hash a climb that ends at an entry started at one of its
descendants, as many layers down as the path is long. -/
theorem climb_descends (injective : Function.Injective2 hash) {xs : List α} {e i : Nat} {value : α}
    {path : List α} {tags : List Bool} (same : path.length = tags.length)
    (ends : (layer hash (e + path.length) xs)[i]? = some (climb hash value path tags)) :
    ∃ start : Nat, (layer hash e xs)[start]? = some value := by
  induction path generalizing e value tags with
  | nil => exact ⟨i, by cases tags <;> simpa [climb] using ends⟩
  | cons sibling path ih =>
    cases tags with
    | nil => simp at same
    | cons tag tags =>
      have rest : path.length = tags.length := by simpa using same
      have height : e + (sibling :: path).length = (e + 1) + path.length := by
        simp only [List.length_cons]; omega
      rw [height] at ends
      cases tag with
      | true =>
        obtain ⟨start, parent⟩ := ih rest ends
        obtain ⟨left, right, atLeft, -, hashed⟩ := layer_succ_children hash parent
        exact ⟨2 * start, by rw [atLeft, (injective hashed).1]⟩
      | false =>
        obtain ⟨start, parent⟩ := ih rest ends
        obtain ⟨left, right, -, atRight, hashed⟩ := layer_succ_children hash parent
        exact ⟨2 * start + 1, by rw [atRight, (injective hashed).2]⟩

end Forest
