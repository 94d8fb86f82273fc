import UnifiedAttestation.Shrubs.Building
import UnifiedAttestation.Shrubs.Owners

/-! Path lookup ends at the owner root.

The search stops at the first node on the way up that has the value of the root
of its level, or of the bottom root. When no such value occurs below the owner
the result is the opening of the leaf up to its owner root.
-/

set_option autoImplicit false

namespace UnifiedAttestation.Shrubs

open Forest (pairUp layer lastLeft Commits Owner siblings leftTags climb Inner)

section Intervals

theorem largestPowerTwoLoop_spec {n i : Nat} (fits : 2 ^ i ≤ n) :
    ∃ m, largestPowerTwoLoop n (2 ^ i) = 2 ^ m ∧ 2 ^ m ≤ n ∧ n < 2 ^ (m + 1) := by
  induction height : n - 2 ^ i using Nat.strongRecOn generalizing i with
  | ind height ih =>
    have size := Nat.two_pow_pos i
    rw [largestPowerTwoLoop]
    split
    · rename_i more
      have next : 2 ^ (i + 1) ≤ n := by rw [Nat.pow_succ]; omega
      rw [Nat.mul_comm, ← Nat.pow_succ]
      exact ih _ (by rw [Nat.pow_succ]; omega) next rfl
    · rename_i done
      exact ⟨i, rfl, fits, by rw [Nat.pow_succ]; omega⟩

theorem largestPowerTwoLeq_spec {n : Nat} (positive : 0 < n) :
    ∃ m, largestPowerTwoLeq n = some (2 ^ m) ∧ 2 ^ m ≤ n ∧ n < 2 ^ (m + 1) := by
  obtain ⟨m, value, low, high⟩ := largestPowerTwoLoop_spec (n := n) (i := 0) (by rw [pow_zero]; exact positive)
  exact ⟨m, by rw [largestPowerTwoLeq, if_pos positive, ← value, pow_zero], low, high⟩

variable {α : Type}

/-- The greedy interval over a position is its block at a set bit of the count. -/
theorem findIntervalLoop_block {arr : List α} {p start remaining t : Nat} (aligned : 2 ^ t ∣ start)
    (small : remaining < 2 ^ t) (total : start + remaining = arr.length) (after : start ≤ p)
    (inside : p < arr.length) :
    ∃ m, arr.length / 2 ^ m % 2 = 1 ∧ p / 2 ^ m = arr.length / 2 ^ m - 1 ∧
      findIntervalLoop arr p start remaining =
        some (if m = 0 then none else some (Forest.block m p arr, p % 2 ^ m)) := by
  -- The loop takes the blocks of `arr.length` from the largest down, so each starts at a
  -- multiple of twice its size: `aligned` with `small` is what a round keeps of that.
  induction remaining using Nat.strongRecOn generalizing start t with
  | ind remaining ih =>
    obtain ⟨m, found, low, high⟩ := largestPowerTwoLeq_spec (n := remaining) (by omega)
    have size := Nat.two_pow_pos m
    have below : m + 1 ≤ t := (Nat.pow_lt_pow_iff_right (by decide)).mp (Nat.lt_of_le_of_lt low small)
    obtain ⟨blocks, evenly⟩ : 2 ^ (m + 1) ∣ start := (Nat.pow_dvd_pow 2 below).trans aligned
    have at_start : start = 2 ^ m * (2 * blocks) := by rw [evenly, Nat.pow_succ, Nat.mul_assoc]
    rw [Nat.pow_succ] at high
    have count : arr.length / 2 ^ m = 2 * blocks + 1 := by
      have last : remaining / 2 ^ m = 1 := (Nat.div_eq_iff size).mpr ⟨by omega, by omega⟩
      rw [← total, at_start, Nat.mul_add_div size, last]
    rw [findIntervalLoop, if_pos (by omega)]
    split
    · rename_i panics; rw [found] at panics; cases panics
    · rename_i intervalLen again
      obtain rfl := Option.some.inj (found.symm.trans again)
      by_cases here : start ≤ p ∧ p < start + 2 ^ m
      · have index : p / 2 ^ m = 2 * blocks := by
          rw [Nat.div_eq_iff size, Nat.mul_comm _ (2 ^ m), ← at_start]
          omega
        have offset : p - start = p % 2 ^ m := by
          have split := Nat.div_add_mod p (2 ^ m)
          rw [index, ← at_start] at split
          omega
        refine ⟨m, by omega, by omega, ?_⟩
        rw [if_pos here]
        by_cases single : m = 0
        · simp [single]
        · have wide : 2 ^ m ≠ 1 := by
            intro one
            exact single (Nat.pow_right_injective (Nat.le_refl 2) (one.trans (pow_zero 2).symm))
          rw [if_neg wide, if_pos (by omega), if_neg single, Forest.block, index, ← at_start, offset]
      · rw [if_neg here, if_neg (by omega)]
        refine ih (remaining - 2 ^ m) (by omega) (t := m) ⟨2 * blocks + 1, ?_⟩ (by omega) (by omega) (by omega)
        rw [at_start, Nat.mul_succ]

end Intervals

theorem tag_eq (v : Nat) : (!(v % 2 == 1)) = (v % 2 == 0) := by
  rcases Nat.mod_two_eq_zero_or_one v with even | odd <;> simp [*]

section Paths
variable {α : Type} (hash : α → α → α)

/-- The layers above `leaves[v]` stop at height `s`: no lower node has the value
of its root or of the bottom root, and the node at `s` is its root or the top. -/
structure StopsAt (root leaves : List α) (j v e s : Nat) : Prop where
  height : leaves.length = 2 ^ e
  inside : v < 2 ^ e
  positive : 0 < s
  low : s ≤ e
  bottom : ∃ entry, root[0]? = some entry
  roots : ∀ i < e, ∃ entry, root[j + i]? = some entry
  apart : ∀ i < s, (layer hash i leaves)[v / 2 ^ i]? ≠ root[0]?
  above : ∀ i < s, 0 < i → (layer hash i leaves)[v / 2 ^ i]? ≠ root[j + i]?
  stops : s < e → (layer hash s leaves)[v / 2 ^ s]? = root[j + s]?

variable {hash} {root leaves : List α}

theorem StopsAt.up {j v e s : Nat} (stop : StopsAt hash root leaves j v (e + 1) (s + 1)) (more : 0 < s) :
    StopsAt hash root (pairUp hash leaves) (j + 1) (v / 2) e s := by
  have shift : ∀ k, v / 2 ^ (k + 1) = v / 2 / 2 ^ k := by
    intro k
    rw [Nat.div_div_eq_div_mul, Nat.pow_succ, Nat.mul_comm 2]
  have index : ∀ k, j + (k + 1) = j + 1 + k := by omega
  refine ⟨?height, ?inside, more, Nat.le_of_succ_le_succ stop.low, stop.bottom, ?roots, ?apart, ?above, ?stops⟩
  case height =>
    rw [Forest.pairUp_length, stop.height, Nat.pow_succ, Nat.mul_div_cancel _ (by decide)]
  case inside =>
    have := stop.inside
    rw [Nat.pow_succ] at this
    omega
  case roots =>
    intro i below
    have := stop.roots (i + 1) (by omega)
    rwa [index] at this
  case apart =>
    intro i below
    have := stop.apart (i + 1) (by omega)
    rwa [shift, layer] at this
  case above =>
    intro i below positive
    have := stop.above (i + 1) (by omega) (by omega)
    rwa [shift, index, layer] at this
  case stops =>
    intro below
    have := stop.stops (by omega)
    rwa [shift, index, layer] at this

variable [DecidableEq α]

theorem atBottomRoot_false {v : Nat} (bottom : ∃ entry, root[0]? = some entry) (inside : v < leaves.length)
    (apart : leaves[v]? ≠ root[0]?) : atBottomRoot root leaves v = some false := by
  obtain ⟨entry, found⟩ := bottom
  rw [List.getElem?_eq_getElem inside, found] at apart
  unfold atBottomRoot
  rw [found, List.getElem?_eq_getElem inside]
  split
  · simpa [eq_comm] using apart
  · rfl

theorem findShrubsPath_bottom {v : Nat} (wide : 2 ≤ leaves.length) (inside : v < leaves.length)
    (here : leaves[v]? = root[0]?) (j : Nat) : findShrubsPath hash root leaves j v = some none := by
  have at_bottom : atBottomRoot root leaves v = some true := by
    rw [List.getElem?_eq_getElem inside] at here
    rw [atBottomRoot, if_pos wide, ← here, List.getElem?_eq_getElem inside]
    simp
  rw [findShrubsPath, at_bottom]

section Step
variable {v : Nat} {sibling : α} (start : atBottomRoot root leaves v = some false)
  (inside : v < leaves.length) (found : leaves[Forest.siblingIndex v]? = some sibling)
include start inside found

theorem findShrubsPath_top (narrow : (pairUp hash leaves).length < 2) (j : Nat) :
    findShrubsPath hash root leaves j v = some (some ([sibling], [v % 2 == 0])) := by
  unfold Forest.siblingIndex at found
  rw [findShrubsPath, start]
  simp only [if_neg (Nat.not_le.mpr inside), tag_eq, found, dif_neg (Nat.not_le.mpr narrow)]

theorem findShrubsPath_last {node : α} {j : Nat} (wide : 2 ≤ (pairUp hash leaves).length)
    (parent : (pairUp hash leaves)[v / 2]? = some node) (kept : root[j + 1]? = some node) :
    findShrubsPath hash root leaves j v = some (some ([sibling], [v % 2 == 0])) := by
  unfold Forest.siblingIndex at found
  rw [findShrubsPath, start]
  simp only [if_neg (Nat.not_le.mpr inside), tag_eq, found, dif_pos wide, parent, kept, if_true]

theorem findShrubsPath_next {node entry : α} {j : Nat} (wide : 2 ≤ (pairUp hash leaves).length)
    (parent : (pairUp hash leaves)[v / 2]? = some node) (kept : root[j + 1]? = some entry)
    (distinct : node ≠ entry) :
    findShrubsPath hash root leaves j v =
      (findShrubsPath hash root (pairUp hash leaves) (j + 1) (v / 2)).map
        (Option.map fun (path, tags) => (sibling :: path, (v % 2 == 0) :: tags)) := by
  unfold Forest.siblingIndex at found
  rw [findShrubsPath, start]
  simp only [if_neg (Nat.not_le.mpr inside), tag_eq, found, dif_pos wide, parent, kept, if_neg distinct]

end Step

/-- The search returns the siblings and the tags up to the stop. -/
theorem findShrubsPath_stops {j v e s : Nat} (stop : StopsAt hash root leaves j v e s) :
    findShrubsPath hash root leaves j v = some (some (siblings hash s leaves v, leftTags s v)) := by
  induction s generalizing leaves j v e with
  | zero => exact absurd stop.positive (by decide)
  | succ s ih =>
    obtain ⟨e, rfl⟩ : ∃ e', e = e' + 1 := ⟨e - 1, by have := stop.low; omega⟩
    have height := stop.height
    have half : (pairUp hash leaves).length = 2 ^ e := by
      rw [Forest.pairUp_length, height, Nat.pow_succ, Nat.mul_div_cancel _ (by decide)]
    have inside : v < leaves.length := height ▸ stop.inside
    rw [Nat.pow_succ] at height
    have sibling := List.getElem?_eq_getElem (Forest.siblingIndex_lt (n := leaves.length) (p := v) (by omega))
    have start : atBottomRoot root leaves v = some false :=
      atBottomRoot_false stop.bottom inside (by simpa using stop.apart 0 (by omega))
    rw [siblings, leftTags, sibling]
    by_cases top : e = 0
    · obtain rfl : s = 0 := by have := stop.low; omega
      rw [findShrubsPath_top start inside sibling (by rw [half, top]; decide)]
      rfl
    · have wide : 2 ≤ 2 ^ e := Nat.pow_le_pow_right (n := 2) (by decide) (show 1 ≤ e by omega)
      obtain ⟨entry, kept⟩ := stop.roots 1 (by omega)
      have node := List.getElem?_eq_getElem (l := pairUp hash leaves) (i := v / 2) (by omega)
      by_cases last : s = 0
      · subst last
        have reached := stop.stops (by omega)
        simp only [Nat.zero_add, pow_one, layer] at reached
        rw [findShrubsPath_last start inside sibling (by omega) node (reached.symm.trans node)]
        rfl
      · have distinct := stop.above 1 (by omega) (by decide)
        simp only [pow_one, layer] at distinct
        rw [node, kept, ne_eq, Option.some.injEq] at distinct
        rw [findShrubsPath_next start inside sibling (by omega) node kept distinct, ih (stop.up (by omega))]
        rfl

end Paths

section Device
variable {α : Type} (hash : α → α → α)

/-- The path and the tags that open position `p` up to level `l`. -/
def openingAt (xs : List α) (p l : Nat) : Option (List α) × Option (List Bool) :=
  if l = 0 then (none, none) else (some (siblings hash l xs p), some (leftTags l p))

/-- Level `l` owns position `p`, and no node below it repeats the bottom root or
the root of its own level. -/
structure Settles (xs root : List α) (p l : Nat) : Prop where
  owner : Owner xs.length p l
  apart : ∀ i < l, (layer hash i xs)[p / 2 ^ i]? ≠ root[0]?
  above : ∀ i < l, (layer hash i xs)[p / 2 ^ i]? ≠ root[i]?

variable {hash} {xs root : List α} {p l : Nat}

theorem Settles.stopsAt (settles : Settles hash xs root p l) (commits : Commits hash xs root) {m : Nat}
    (above : 0 < l) (low : l ≤ m) (complete : p / 2 ^ m < xs.length / 2 ^ m) :
    StopsAt hash root (Forest.block m p xs) 0 (p % 2 ^ m) m l := by
  have reached := Nat.lt_of_le_of_lt (Nat.zero_le _) complete
  refine ⟨Forest.block_length complete, Nat.mod_lt _ (Nat.two_pow_pos m), above, low,
    commits.present hash (Nat.zero_le m) reached, ?_, ?_, ?_, ?_⟩
  · intro i below
    rw [Nat.zero_add]
    exact commits.present hash (by omega) reached
  · intro i below
    rw [Forest.layer_block hash (by omega) complete]
    exact settles.apart i below
  · intro i below _
    rw [Forest.layer_block hash (by omega) complete, Nat.zero_add]
    exact settles.above i below
  · intro _
    rw [Forest.layer_block hash low complete, Nat.zero_add, commits.owner hash settles.owner]

variable [DecidableEq α]

/-- A lookup that settles returns the opening of the first occurrence of the leaf
up to its owner root. -/
theorem findDeviceShrubsPathTag_settles (commits : Commits hash xs root) {leaf : α}
    (first : xs.findIdx? (fun x => x = leaf) = some p) (settles : Settles hash xs root p l) :
    findDeviceShrubsPathTag hash root xs leaf = some (openingAt hash xs p l) := by
  obtain ⟨inside, -, -⟩ := List.findIdx?_eq_some_iff_getElem.mp first
  obtain ⟨m, odd, last, interval⟩ := findIntervalLoop_block (Nat.dvd_zero (2 ^ xs.length))
    Nat.lt_two_pow_self (Nat.zero_add xs.length) (Nat.zero_le p) inside
  have complete : p / 2 ^ m < xs.length / 2 ^ m := by
    rw [last]
    exact Nat.sub_one_lt fun zero => by simp [zero] at odd
  have low : l ≤ m := by
    by_contra high
    exact settles.owner.lowest m (by omega) (by rw [last, Forest.lastLeft_of_odd odd])
  rw [findDeviceShrubsPathTag, findIntervalIndex, first]
  simp only [interval]
  by_cases single : m = 0
  · obtain rfl : l = 0 := by omega
    simp [single, openingAt]
  · simp only [if_neg single]
    by_cases ground : l = 0
    · subst ground
      have here : (Forest.block m p xs)[p % 2 ^ m]? = root[0]? := by
        have inBlock := Forest.layer_block hash (Nat.zero_le m) complete
        simp only [pow_zero, Nat.div_one, Forest.layer_zero] at inBlock
        rw [inBlock, commits.owner hash settles.owner]
        simp
      have length := Forest.block_length complete
      have wide : 2 ≤ 2 ^ m := Nat.pow_le_pow_right (n := 2) (by decide) (show 1 ≤ m by omega)
      rw [findShrubsPath_bottom (by omega) (by rw [length]; exact Nat.mod_lt _ (by omega)) here]
      simp [openingAt]
    · rw [findShrubsPath_stops (settles.stopsAt commits (by omega) low complete),
        Forest.siblings_block hash low complete, Forest.leftTags_block low, openingAt, if_neg ground]

/-- A lookup in a tree that has roots never panics. -/
theorem findShrubsPath_total (rooted : root ≠ []) {leaves : List α} {j v : Nat} (inside : v < leaves.length) :
    ∃ found, findShrubsPath hash root leaves j v = some found := by
  induction size : leaves.length using Nat.strongRecOn generalizing leaves j v with
  | ind n ih =>
    subst size
    have tested : ∃ bottom, atBottomRoot root leaves v = some bottom := by
      unfold atBottomRoot
      split
      · rw [List.getElem?_eq_getElem (List.length_pos_of_ne_nil rooted), List.getElem?_eq_getElem inside]
        exact ⟨_, rfl⟩
      · exact ⟨false, rfl⟩
    obtain ⟨bottom, tested⟩ := tested
    rw [findShrubsPath, tested]
    cases bottom with
    | true => exact ⟨none, rfl⟩
    | false =>
      simp only
      rw [if_neg (Nat.not_le.mpr inside)]
      split
      · exact ⟨none, rfl⟩
      · split
        · rename_i wide
          split
          · split
            · exact ⟨_, rfl⟩
            · rw [Forest.pairUp_length] at wide
              have up : v / 2 < (pairUp hash leaves).length := by
                rename_i node entry at_node at_entry different
                exact (List.getElem?_eq_some_iff.mp at_node).1
              obtain ⟨found, rest⟩ := ih _ (by rw [Forest.pairUp_length]; omega) up rfl
              rw [rest]
              exact ⟨_, rfl⟩
          · exact ⟨none, rfl⟩
        · exact ⟨_, rfl⟩

theorem findDeviceShrubsPathTag_total (rooted : root ≠ []) {leaf : α} (member : leaf ∈ xs) :
    ∃ opening, findDeviceShrubsPathTag hash root xs leaf = some opening := by
  obtain ⟨p, first⟩ : ∃ p, xs.findIdx? (fun x => x = leaf) = some p := by
    rw [← Option.isSome_iff_exists, List.findIdx?_isSome]
    simpa using member
  obtain ⟨inside, -, -⟩ := List.findIdx?_eq_some_iff_getElem.mp first
  obtain ⟨m, odd, last, interval⟩ := findIntervalLoop_block (Nat.dvd_zero (2 ^ xs.length))
    Nat.lt_two_pow_self (Nat.zero_add xs.length) (Nat.zero_le p) inside
  have complete : p / 2 ^ m < xs.length / 2 ^ m := by
    rw [last]
    exact Nat.sub_one_lt fun zero => by simp [zero] at odd
  rw [findDeviceShrubsPathTag, findIntervalIndex, first]
  simp only [interval]
  by_cases single : m = 0
  · simp [single]
  · simp only [if_neg single]
    have local_inside : p % 2 ^ m < (Forest.block m p xs).length := by
      rw [Forest.block_length complete]
      exact Nat.mod_lt _ (Nat.two_pow_pos m)
    obtain ⟨found, path⟩ : ∃ found, findShrubsPath hash root (Forest.block m p xs) 0 (p % 2 ^ m) = some found :=
      findShrubsPath_total rooted local_inside
    rw [path]
    cases found with
    | none => exact ⟨_, rfl⟩
    | some opening => exact ⟨_, rfl⟩

end Device

end UnifiedAttestation.Shrubs
