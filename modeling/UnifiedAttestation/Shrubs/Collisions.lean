import UnifiedAttestation.Shrubs.Membership
import Mathlib.Data.Nat.Find
import Mathlib.Tactic.Push

/-! Lookups among leaves of anyone's choice.

A leaf may repeat another one or have the value of an inner node. The search for
a path compares the node of every level with the bottom root, so a node on the way
up that has its value ends the search without a path.
-/

set_option autoImplicit false

namespace UnifiedAttestation.Shrubs

open Forest (pairUp layer lastLeft Commits siblings leftTags climb)

section Search
variable {α : Type} [DecidableEq α] {hash : α → α → α} {root leaves : List α}

/-- A search that passes the levels below `s` ends without a path when it does so at `s`. -/
theorem findShrubsPath_none_of_layer {j v e s : Nat} (height : leaves.length = 2 ^ e) (inside : v < 2 ^ e) (low : s < e)
    (bottom : ∃ entry, root[0]? = some entry) (roots : ∀ i < e, ∃ entry, root[j + i]? = some entry)
    (apart : ∀ i < s, (layer hash i leaves)[v / 2 ^ i]? ≠ root[0]?)
    (above : ∀ i < s, (layer hash (i + 1) leaves)[v / 2 ^ (i + 1)]? ≠ root[j + (i + 1)]?)
    (stuck : findShrubsPath hash root (layer hash s leaves) (j + s) (v / 2 ^ s) = some none) :
    findShrubsPath hash root leaves j v = some none := by
  induction s with
  | zero => simpa using stuck
  | succ s ih =>
    refine ih (by omega) (fun i below => apart i (by omega)) (fun i below => above i (by omega)) ?_
    obtain ⟨m, rfl⟩ : ∃ m, e = m + 2 + s := ⟨e - s - 2, by omega⟩
    have length : (layer hash s leaves).length = 2 ^ (m + 2) := by
      rw [Forest.layer_length, height, Nat.pow_add, Nat.mul_div_cancel _ (Nat.two_pow_pos s)]
    have half : (pairUp hash (layer hash s leaves)).length = 2 ^ (m + 1) := by
      rw [Forest.pairUp_length, length, Nat.pow_succ, Nat.mul_div_cancel _ (by decide)]
    have wide : 2 ≤ 2 ^ (m + 1) := Nat.pow_le_pow_right (n := 2) (by decide) (show 1 ≤ m + 1 by omega)
    have double : 2 ^ (m + 2) = 2 ^ (m + 1) * 2 := Nat.pow_succ 2 (m + 1)
    have here : v / 2 ^ s < 2 ^ (m + 2) := by
      rw [Nat.div_lt_iff_lt_mul (Nat.two_pow_pos s), ← Nat.pow_add]
      exact inside
    have within : v / 2 ^ s < (layer hash s leaves).length := by
      rw [length]
      exact here
    have start := atBottomRoot_false bottom within (apart s (by omega))
    have paired : v / 2 ^ s / 2 < (layer hash s leaves).length / 2 := by omega
    have sibling := List.getElem?_eq_getElem (Forest.siblingIndex_lt paired)
    have node := List.getElem?_eq_getElem (l := pairUp hash (layer hash s leaves)) (i := v / 2 ^ s / 2) (by omega)
    obtain ⟨entry, kept⟩ := roots (s + 1) (by omega)
    have distinct := above s (by omega)
    rw [kept, Forest.layer_succ, Nat.pow_succ, ← Nat.div_div_eq_div_mul, node, ne_eq, Option.some.injEq] at distinct
    rw [Nat.pow_succ, ← Nat.div_div_eq_div_mul, Forest.layer_succ, ← Nat.add_assoc] at stuck
    rw [findShrubsPath_next (j := j + s) start within sibling (by omega) node kept distinct, stuck]
    rfl

end Search

section Device
variable {α : Type} (hash : α → α → α)

/-- On the way up from position `p`, a node with the value of the bottom root comes no
lower than some node with the value of the root of its own level. -/
def ClearWay (xs root : List α) (p : Nat) : Prop :=
  ∀ i, 0 < i → (layer hash i xs)[p / 2 ^ i]? = root[0]? →
    ∃ k, 0 < k ∧ k ≤ i ∧ (layer hash k xs)[p / 2 ^ k]? = root[k]?

variable {hash} {xs root : List α} {leaf : α} {p m : Nat}

theorem Commits.block_top (commits : Commits hash xs root) (odd : xs.length / 2 ^ m % 2 = 1)
    (last : p / 2 ^ m = xs.length / 2 ^ m - 1) : (layer hash m xs)[p / 2 ^ m]? = root[m]? := by
  rw [commits m, last, Forest.lastLeft_of_odd odd]

variable [DecidableEq α]

theorem findDeviceShrubsPathTag_block (first : xs.findIdx? (fun x => x = leaf) = some p) :
    ∃ m, xs.length / 2 ^ m % 2 = 1 ∧ p / 2 ^ m = xs.length / 2 ^ m - 1 ∧
      findDeviceShrubsPathTag hash root xs leaf =
        if m = 0 then some (none, none)
        else (findShrubsPath hash root (Forest.block m p xs) 0 (p % 2 ^ m)).map fun found =>
          (found.map Prod.fst, found.map Prod.snd) := by
  obtain ⟨inside, -, -⟩ := List.findIdx?_eq_some_iff_getElem.mp first
  obtain ⟨m, odd, last, interval⟩ := findIntervalLoop_block (Nat.dvd_zero (2 ^ xs.length))
    Nat.lt_two_pow_self (Nat.zero_add xs.length) (Nat.zero_le p) inside
  refine ⟨m, odd, last, ?_⟩
  rw [findDeviceShrubsPathTag, findIntervalIndex, first]
  simp only [interval]
  by_cases single : m = 0
  · simp [single]
  · simp only [if_neg single]
    rcases findShrubsPath hash root (Forest.block m p xs) 0 (p % 2 ^ m) with _ | _ | ⟨path, tag⟩ <;> rfl

theorem find_hidden (commits : Commits hash xs root) (first : xs.findIdx? (fun x => x = leaf) = some p)
    (apart : root[0]? ≠ some leaf) (hidden : ¬ ClearWay hash xs root p) :
    findDeviceShrubsPathTag hash root xs leaf = some (none, none) := by
  obtain ⟨m, odd, last, result⟩ := @findDeviceShrubsPathTag_block α hash xs root leaf p _ first
  obtain ⟨inside, here, -⟩ := List.findIdx?_eq_some_iff_getElem.mp first
  have at_p : xs[p]? = some leaf := by rw [List.getElem?_eq_getElem inside, of_decide_eq_true here]
  have top := Commits.block_top commits odd last
  have positive : 0 < xs.length / 2 ^ m := Nat.pos_of_ne_zero fun zero => by simp [zero] at odd
  have complete : p / 2 ^ m < xs.length / 2 ^ m := by omega
  rw [result]
  by_cases single : m = 0
  · rw [if_pos single]
  · rw [if_neg single]
    -- the lowest node of that value above the leaf lies below the top of the block
    have found : ∃ d, 0 < d ∧ (layer hash d xs)[p / 2 ^ d]? = root[0]? ∧
        ∀ k, 0 < k → k ≤ d → (layer hash k xs)[p / 2 ^ k]? ≠ root[k]? := by
      simp only [ClearWay] at hidden
      push Not at hidden
      exact hidden
    classical
    obtain ⟨above, equal, distinct⟩ := Nat.find_spec found
    have lowest := fun i below => Nat.find_min (m := i) found below
    generalize Nat.find found = d at above equal distinct lowest
    have low : d < m := by
      by_contra high
      exact distinct m (Nat.pos_of_ne_zero single) (Nat.le_of_not_lt high) top
    have stuck : findShrubsPath hash root (Forest.block m p xs) 0 (p % 2 ^ m) = some none := by
      have length := Forest.block_length complete
      refine findShrubsPath_none_of_layer (s := d) length (Nat.mod_lt _ (Nat.two_pow_pos m)) low
        (commits.present hash (Nat.zero_le m) positive) ?_ ?_ ?_ ?_
      · intro i below
        rw [Nat.zero_add]
        exact commits.present hash (by omega) positive
      · intro i below
        rw [Forest.layer_block hash (by omega) complete]
        rcases Nat.eq_zero_or_pos i with rfl | some
        · simpa [at_p] using apart.symm
        · exact fun same => lowest i below ⟨some, same, fun k first high => distinct k first (by omega)⟩
      · intro i below
        rw [Forest.layer_block hash (by omega) complete, Nat.zero_add]
        exact distinct (i + 1) (by omega) (by omega)
      · have wide : 2 ≤ (layer hash d (Forest.block m p xs)).length := by
          obtain ⟨k, rfl⟩ : ∃ k, m = k + 1 + d := ⟨m - d - 1, by omega⟩
          rw [Forest.layer_length, length, Nat.pow_add, Nat.mul_div_cancel _ (Nat.two_pow_pos d)]
          exact Nat.pow_le_pow_right (n := 2) (by decide) (show 1 ≤ k + 1 by omega)
        have here := Forest.layer_block hash low.le complete
        rw [equal] at here
        have within : p % 2 ^ m / 2 ^ d < (layer hash d (Forest.block m p xs)).length := by
          rw [Forest.layer_length, length]
          exact Forest.block_inside low.le
        exact findShrubsPath_bottom wide within here (0 + d)
    rw [stuck]
    rfl

theorem find_bottom (first : xs.findIdx? (fun x => x = leaf) = some p)
    (bottom : root[0]? = some leaf) :
    ∃ opening, findDeviceShrubsPathTag hash root xs leaf = some opening ∧ MembershipCheck hash root leaf opening := by
  obtain ⟨m, odd, last, result⟩ := @findDeviceShrubsPathTag_block α hash xs root leaf p _ first
  obtain ⟨inside, here, -⟩ := List.findIdx?_eq_some_iff_getElem.mp first
  have at_p : xs[p]? = some leaf := by rw [List.getElem?_eq_getElem inside, of_decide_eq_true here]
  refine ⟨(none, none), ?_, bottom⟩
  rw [result]
  by_cases single : m = 0
  · rw [if_pos single]
  · have positive : 0 < xs.length / 2 ^ m := Nat.pos_of_ne_zero fun zero => by simp [zero] at odd
    have complete : p / 2 ^ m < xs.length / 2 ^ m := by omega
    have length := Forest.block_length complete
    have wide : 2 ≤ 2 ^ m := Nat.pow_le_pow_right (n := 2) (by decide) (show 1 ≤ m by omega)
    have inBlock := Forest.layer_block hash (Nat.zero_le m) complete
    simp only [pow_zero, Nat.div_one, Forest.layer_zero] at inBlock
    have within : p % 2 ^ m < (Forest.block m p xs).length := by
      rw [length]
      exact Nat.mod_lt _ (Nat.two_pow_pos m)
    rw [if_neg single, findShrubsPath_bottom (by omega) within (by rw [inBlock, at_p, bottom])]
    rfl

theorem find_clear (commits : Commits hash xs root) (first : xs.findIdx? (fun x => x = leaf) = some p)
    (apart : root[0]? ≠ some leaf) (clear : ClearWay hash xs root p) :
    ∃ opening, findDeviceShrubsPathTag hash root xs leaf = some opening ∧ MembershipCheck hash root leaf opening := by
  obtain ⟨m, odd, last, result⟩ := @findDeviceShrubsPathTag_block α hash xs root leaf p _ first
  obtain ⟨inside, here, -⟩ := List.findIdx?_eq_some_iff_getElem.mp first
  have at_p : xs[p]? = some leaf := by rw [List.getElem?_eq_getElem inside, of_decide_eq_true here]
  have top := Commits.block_top commits odd last
  have reached : 0 < xs.length / 2 ^ m := Nat.pos_of_ne_zero fun zero => by simp [zero] at odd
  have complete : p / 2 ^ m < xs.length / 2 ^ m := by omega
  have tall : 0 < m := by
    refine Nat.pos_of_ne_zero fun zero => apart ?_
    subst zero
    simpa [at_p] using top.symm
  -- The lowest such node: the search can stop nowhere below it.
  have found : ∃ s, 0 < s ∧ (layer hash s xs)[p / 2 ^ s]? = root[s]? := ⟨m, tall, top⟩
  obtain ⟨positive, stop⟩ := Nat.find_spec found
  have low : Nat.find found ≤ m := Nat.find_min' found ⟨tall, top⟩
  have lowest := fun i below => Nat.find_min (m := i) found below
  generalize Nat.find found = s at positive stop low lowest
  have stops : StopsAt hash root (Forest.block m p xs) 0 (p % 2 ^ m) m s := by
    refine ⟨Forest.block_length complete, Nat.mod_lt _ (Nat.two_pow_pos m), positive, low,
      commits.present hash (Nat.zero_le m) reached, ?roots, ?apart, ?above, ?stops⟩
    case roots =>
      intro i below
      rw [Nat.zero_add]
      exact commits.present hash (by omega) reached
    case apart =>
      intro i below same
      rw [Forest.layer_block hash (by omega) complete] at same
      rcases Nat.eq_zero_or_pos i with rfl | above
      · exact apart (by simpa [at_p] using same.symm)
      · obtain ⟨k, first, high, equal⟩ := clear i above same
        exact lowest k (by omega) ⟨first, equal⟩
    case above =>
      intro i below above same
      rw [Forest.layer_block hash (by omega) complete, Nat.zero_add] at same
      exact lowest i below ⟨above, same⟩
    case stops =>
      intro _
      rw [Forest.layer_block hash low complete, Nat.zero_add, stop]
  have under : p / 2 ^ s < xs.length / 2 ^ s := Forest.complete_of_le low complete
  refine ⟨(some (siblings hash s xs p), some (leftTags s p)), ?_, ?_, ?_⟩
  · rw [result, if_neg (by omega), findShrubsPath_stops stops, Forest.siblings_block hash low complete,
      Forest.leftTags_block low]
    rfl
  · rw [Forest.siblings_length hash under, Forest.leftTags_length]
  · rw [Forest.climb_siblings hash at_p under] at stop
    exact List.mem_of_getElem? stop.symm

theorem find_hidden_fifth {a b c d : α} (fresh : c ≠ a ∧ c ≠ b) (apart : hash c d ≠ c)
    (distinct : hash c d ≠ hash a b) :
    findDeviceShrubsPathTag hash (createBatchDevices hash [] [a, b, c, d, hash c d]) [a, b, c, d, hash c d] c =
      some (none, none) := by
  have commits := createBatchDevices_commits hash [a, b, c, d, hash c d]
  have bottom : (createBatchDevices hash [] [a, b, c, d, hash c d])[0]? = some (hash c d) := by
    simpa [lastLeft] using commits 0
  have upper : (createBatchDevices hash [] [a, b, c, d, hash c d])[1]? = some (hash a b) := by
    simpa [lastLeft, layer, pairUp] using commits 1
  refine find_hidden (p := 2) commits ?_ ?_ ?_
  · simp [List.findIdx?_cons, fresh.1.symm, fresh.2.symm]
  · rw [bottom]
    exact fun same => apart (Option.some.inj same)
  · intro clear
    obtain ⟨k, first, last, same⟩ := clear 1 (by decide) bottom.symm
    obtain rfl : k = 1 := by omega
    rw [upper] at same
    exact distinct (Option.some.inj same)

/-- The lookup of a leaf passes the membership check exactly when the leaf is the bottom root
or has a clear way up. -/
theorem findDeviceShrubsPathTag_checks_iff {xs : List α} {leaf : α} (member : leaf ∈ xs) :
    (∃ opening, findDeviceShrubsPathTag hash (createBatchDevices hash [] xs) xs leaf = some opening ∧
        MembershipCheck hash (createBatchDevices hash [] xs) leaf opening) ↔
      (createBatchDevices hash [] xs)[0]? = some leaf ∨
        ClearWay hash xs (createBatchDevices hash [] xs) (xs.idxOf leaf) := by
  have commits := createBatchDevices_commits hash xs
  have first : xs.findIdx? (fun x => x = leaf) = some (xs.idxOf leaf) := by
    have found := List.findIdx?_eq_some_of_exists (p := fun x => decide (x = leaf)) ⟨leaf, member, decide_eq_true rfl⟩
    rw [found, List.idxOf]
    rfl
  constructor
  · rintro ⟨opening, found, checks⟩
    refine or_iff_not_imp_left.mpr fun apart => ?_
    by_contra hidden
    rw [find_hidden commits first apart hidden] at found
    obtain rfl := Option.some.inj found
    exact apart checks
  · intro clear
    by_cases bottom : (createBatchDevices hash [] xs)[0]? = some leaf
    · exact find_bottom first bottom
    · exact find_clear commits first bottom (clear.resolve_left bottom)

theorem findDeviceShrubsPathTag_checks_iff_third :
    (∃ opening, findDeviceShrubsPathTag Nat.pair (createBatchDevices Nat.pair [] [1, 2, 1, 7]) [1, 2, 1, 7] 2 =
        some opening ∧ MembershipCheck Nat.pair (createBatchDevices Nat.pair [] [1, 2, 1, 7]) 2 opening) ↔
      (createBatchDevices Nat.pair [] [1, 2, 1, 7])[0]? = some 2 ∨
        ClearWay Nat.pair [1, 2, 1, 7] (createBatchDevices Nat.pair [] [1, 2, 1, 7]) ([1, 2, 1, 7].idxOf 2) :=
  findDeviceShrubsPathTag_checks_iff (by decide)

theorem findDeviceShrubsPathTag_hidden :
    3 ∈ [1, 2, 3, 4, 19] ∧
      ¬ ∃ opening, findDeviceShrubsPathTag Nat.pair (createBatchDevices Nat.pair [] [1, 2, 3, 4, 19]) [1, 2, 3, 4, 19]
          3 = some opening ∧
        MembershipCheck Nat.pair (createBatchDevices Nat.pair [] [1, 2, 3, 4, 19]) 3 opening := by
  have found := @find_hidden_fifth Nat Nat.pair _ 1 2 3 4 (by decide) (by decide) (by decide)
  have bottom : (createBatchDevices Nat.pair [] [1, 2, 3, 4, 19])[0]? = some 19 := by
    simpa [lastLeft] using createBatchDevices_commits Nat.pair [1, 2, 3, 4, 19] 0
  refine ⟨by decide, ?_⟩
  rintro ⟨opening, same, checks⟩
  obtain rfl := Option.some.inj (found.symm.trans same)
  rw [MembershipCheck, bottom] at checks
  cases checks

end Device

end UnifiedAttestation.Shrubs
