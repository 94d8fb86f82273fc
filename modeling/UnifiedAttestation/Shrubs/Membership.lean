import UnifiedAttestation.Shrubs.Lookup

/-! Membership of a leaf in a root list, and how long a path stays good.

An opening found in one tree keeps climbing to a kept root as long as the owner
root of the position does not change. With an injective hash and leaves apart from
the inner nodes every lookup settles at the owner of its own leaf.
-/

set_option autoImplicit false

namespace UnifiedAttestation.Shrubs

open Forest (pairUp layer lastLeft Commits Owner siblings leftTags climb Inner)

theorem pair_injective2 : Function.Injective2 Nat.pair := fun _ _ _ _ same => Nat.pair_eq_pair.mp same

section Openings
variable {α : Type} (hash : α → α → α)

/-- The membership half of the attestation circuit: the path climbs to some root,
or without a path the leaf is the bottom root. -/
def MembershipCheck (root : List α) (leaf : α) : Option (List α) × Option (List Bool) → Prop
  | (some path, some tag) => path.length = tag.length ∧ climb hash leaf path tag ∈ root
  | (none, none) => root[0]? = some leaf
  | _ => False

instance [DecidableEq α] (root : List α) (leaf : α) (opening : Option (List α) × Option (List Bool)) :
    Decidable (MembershipCheck hash root leaf opening) :=
  match opening with
  | (some path, some tag) =>
    inferInstanceAs (Decidable (path.length = tag.length ∧ climb hash leaf path tag ∈ root))
  | (none, none) => inferInstanceAs (Decidable (root[0]? = some leaf))
  | (some _, none) => isFalse id
  | (none, some _) => isFalse id

variable {hash} {xs zs root : List α} {leaf : α} {p i l : Nat}

/-- An opening taken in an earlier tree is good for every position under the same
owner root of the grown tree. -/
theorem openingAt_check (grows : xs <+: zs) (commits : Commits hash zs root) (at_p : xs[p]? = some leaf)
    (complete : p / 2 ^ l < xs.length / 2 ^ l) (owner : Owner zs.length i l) (shared : p / 2 ^ l = i / 2 ^ l) :
    MembershipCheck hash root leaf (openingAt hash xs p l) := by
  have entry : root[l]? = (layer hash l xs)[p / 2 ^ l]? := by
    rw [commits.owner hash owner, ← shared, Forest.layer_getElem?_of_grows hash l grows complete]
  unfold openingAt
  split
  · rename_i ground
    subst ground
    simpa [MembershipCheck, at_p] using entry
  · rw [Forest.climb_siblings hash at_p complete] at entry
    refine ⟨?_, List.mem_of_getElem? entry⟩
    rw [Forest.siblings_length hash complete, Forest.leftTags_length]

theorem openingAt_of_grows (grows : xs <+: zs) (complete : p / 2 ^ l < xs.length / 2 ^ l) :
    openingAt hash zs p l = openingAt hash xs p l := by
  unfold openingAt
  rw [Forest.siblings_of_grows hash grows complete]

theorem openingAt_level {k : Nat} (complete : p / 2 ^ l < xs.length / 2 ^ l)
    (complete' : p / 2 ^ k < zs.length / 2 ^ k) (same : openingAt hash xs p l = openingAt hash zs p k) :
    l = k := by
  unfold openingAt at same
  split at same <;> split at same
  · omega
  · simp at same
  · simp at same
  · have paths := congrArg (fun o => o.1.map List.length) same
    simpa [Forest.siblings_length hash complete, Forest.siblings_length hash complete'] using paths

/-- Distinct leaves apart from the inner nodes settle at their owner. -/
theorem settles_of_distinct (injective : Function.Injective2 hash) (commits : Commits hash xs root)
    (distinct : xs.Nodup) (apart : ∀ leaf ∈ xs, ¬ Inner hash xs leaf) (owner : Owner xs.length p l)
    (inside : p < xs.length) : Settles hash xs root p l := by
  have elsewhere : ∀ j < l, (layer hash j xs)[p / 2 ^ j]? ≠ root[j]? := by
    intro j below same
    have here : p / 2 ^ j < (layer hash j xs).length := by
      rw [Forest.layer_length]
      exact Forest.complete_of_le below.le owner.complete
    rw [commits j] at same
    exact owner.lowest j below
      ((List.getElem?_inj here (Forest.layer_nodup hash injective j distinct)).mp same)
  refine ⟨owner, fun j below same => ?_, elsewhere⟩
  rcases Nat.eq_zero_or_pos j with rfl | above
  · exact elsewhere 0 below same
  · have positive : 0 < xs.length := by omega
    have bottom := commits.bottom
    rw [List.getElem?_eq_getElem (Forest.lastLeft_lt positive)] at bottom
    exact apart _ (List.getElem_mem _) (Inner.of_getElem? hash above (same.trans bottom))

/-- The root list binds distinct leaves, their order and their number. -/
theorem createBatchDevices_binding {ys : List α} (injective : Function.Injective2 hash)
    (distinct : xs.Nodup) (distinct' : ys.Nodup)
    (same : createBatchDevices hash [] xs = createBatchDevices hash [] ys) : xs = ys :=
  (createBatchDevices_commits hash xs).binding hash injective
    (same ▸ createBatchDevices_commits hash ys) distinct distinct'

theorem createBatchDevices_binding_split :
    createBatchDevices Nat.pair [] ([6] ++ [2, 4]) = createBatchDevices Nat.pair [] ([6, 2] ++ [4]) ∧
      [6] ++ [2, 4] = [6, 2] ++ [4] :=
  ⟨rfl, createBatchDevices_binding pair_injective2 (by decide) (by decide) rfl⟩

end Openings

section Soundness
variable {α : Type} {hash : α → α → α} {xs root : List α} {value : α}

/-- A path that checks against the root list leads from a leaf, from an inner
node, or from below a leaf that it passes on the way up. -/
theorem membership_origin (injective : Function.Injective2 hash) (commits : Commits hash xs root)
    {opening : Option (List α) × Option (List Bool)} (checks : MembershipCheck hash root value opening) :
    value ∈ xs ∨ Inner hash xs value ∨
      ∃ path tag, path ≠ [] ∧ path.length = tag.length ∧ climb hash value path tag ∈ xs := by
  match opening, checks with
  | (none, none), bottom =>
    simp only [MembershipCheck] at bottom
    rw [commits.bottom] at bottom
    exact Or.inl (List.mem_of_getElem? bottom)
  | (some path, some tag), ⟨same, kept⟩ =>
    obtain ⟨k, entry⟩ := (commits.mem_iff hash).mp kept
    rcases Nat.le_total path.length k with short | long
    · obtain ⟨e, rfl⟩ : ∃ e, k = e + path.length := ⟨k - path.length, by omega⟩
      obtain ⟨start, found⟩ := Forest.climb_descends hash injective same entry
      rcases Nat.eq_zero_or_pos e with rfl | above
      · exact Or.inl (List.mem_of_getElem? found)
      · exact Or.inr (Or.inl (Inner.of_getElem? hash above found))
    · -- the last `k` steps climb from a leaf, the first ones end at it
      have cut := List.take_append_drop (path.length - k) path
      have cutTag := List.take_append_drop (path.length - k) tag
      have firsts : (path.take (path.length - k)).length = (tag.take (path.length - k)).length := by
        simp only [List.length_take]; omega
      have rests : (path.drop (path.length - k)).length = (tag.drop (path.length - k)).length := by
        simp only [List.length_drop]; omega
      have height : 0 + (path.drop (path.length - k)).length = k := by
        simp only [List.length_drop]; omega
      rw [← cut, ← cutTag, Forest.climb_append hash firsts] at entry
      obtain ⟨start, found⟩ := Forest.climb_descends hash injective rests (e := 0) (by rw [height]; exact entry)
      have leaf := List.mem_of_getElem? found
      by_cases whole : path.take (path.length - k) = []
      · rw [whole] at leaf
        exact Or.inl (by simpa [climb] using leaf)
      · exact Or.inr (Or.inr ⟨_, _, whole, firsts, leaf⟩)

/-- Every entry of a layer has an opening to the root list. -/
theorem layer_entry_opens (commits : Commits hash xs root) {k i : Nat}
    (entry : (layer hash k xs)[i]? = some value) :
    ∃ path tag, path.length = tag.length ∧ climb hash value path tag ∈ root := by
  have inside := (List.getElem?_eq_some_iff.mp entry).1
  obtain ⟨l, owner⟩ := Owner.exists inside
  have upper := commits.layer hash k
  have top := upper.owner hash owner
  rw [Forest.climb_siblings hash entry owner.complete] at top
  refine ⟨siblings hash l (layer hash k xs) i, leftTags l i, ?_, ?_⟩
  · rw [Forest.siblings_length hash owner.complete, Forest.leftTags_length]
  · exact List.mem_of_mem_drop (List.mem_of_getElem? top)

/-- Paths of the prover's choice prove exactly the leaves when the value is a leaf,
or is no inner node and lies below no leaf. -/
theorem membership_sound_iff (injective : Function.Injective2 hash) (commits : Commits hash xs root) :
    (∀ opening, MembershipCheck hash root value opening → value ∈ xs) ↔
      value ∈ xs ∨ (¬ Inner hash xs value ∧
        ∀ path tag, path ≠ [] → path.length = tag.length → climb hash value path tag ∉ xs) := by
  constructor
  · intro sound
    refine or_iff_not_imp_left.mpr fun outside => ⟨?_, ?_⟩
    · rintro ⟨k, -, member⟩
      obtain ⟨i, entry⟩ := List.mem_iff_getElem?.mp member
      obtain ⟨path, tag, same, kept⟩ := layer_entry_opens commits entry
      exact outside (sound (some path, some tag) ⟨same, kept⟩)
    · intro path tag _ same leaf
      obtain ⟨i, entry⟩ := List.mem_iff_getElem?.mp leaf
      obtain ⟨more, moreTag, same', kept⟩ := layer_entry_opens (k := 0) commits entry
      refine outside (sound (some (path ++ more), some (tag ++ moreTag)) ⟨?_, ?_⟩)
      · rw [List.length_append, List.length_append, same, same']
      · rwa [Forest.climb_append hash same]
  · rintro (leaf | ⟨outer, apart⟩) opening checks
    · exact leaf
    · rcases membership_origin injective commits checks with leaf | inner | ⟨path, tag, occupied, same, leaf⟩
      · exact leaf
      · exact absurd inner outer
      · exact absurd leaf (apart path tag occupied same)

end Soundness

section Lookups
variable {α : Type} [DecidableEq α] {hash : α → α → α} {xs : List α} {leaf : α} {p : Nat}

theorem first_occurrence (distinct : xs.Nodup) (at_p : xs[p]? = some leaf) :
    xs.findIdx? (fun x => x = leaf) = some p := by
  obtain ⟨inside, here⟩ := List.getElem?_eq_some_iff.mp at_p
  refine List.findIdx?_eq_some_iff_getElem.mpr ⟨inside, by simpa using here, fun j below => ?_⟩
  simp only [decide_eq_true_eq]
  intro same
  have := (distinct.getElem_inj_iff).mp (same.trans here.symm)
  omega

/-- Every leaf of a tree with distinct leaves apart from its inner nodes gets the
opening up to its owner root. -/
theorem find_of_distinct (injective : Function.Injective2 hash) (distinct : xs.Nodup)
    (apart : ∀ leaf ∈ xs, ¬ Inner hash xs leaf) (at_p : xs[p]? = some leaf) :
    ∃ l, Owner xs.length p l ∧
      findDeviceShrubsPathTag hash (createBatchDevices hash [] xs) xs leaf = some (openingAt hash xs p l) := by
  have inside := (List.getElem?_eq_some_iff.mp at_p).1
  obtain ⟨l, owner⟩ := Owner.exists inside
  have commits := createBatchDevices_commits hash xs
  exact ⟨l, owner, findDeviceShrubsPathTag_settles commits (first_occurrence distinct at_p)
    (settles_of_distinct injective commits distinct apart owner inside)⟩

/-- The lookup of the leaf at a 1-based position opens it up to the root that the
owner arithmetic names, inside the span of that root. -/
theorem findDeviceShrubsPathTag_findOwnerRoot (injective : Function.Injective2 hash) (distinct : xs.Nodup)
    (apart : ∀ leaf ∈ xs, ¬ Inner hash xs leaf) {i : Nat} (low : 1 ≤ i) (at_i : xs[i - 1]? = some leaf) :
    ∃ level left right, findOwnerRoot i xs.length = some ⟨level, left, right⟩ ∧
      (level = 0 → findDeviceShrubsPathTag hash (createBatchDevices hash [] xs) xs leaf = some (none, none) ∧
        (createBatchDevices hash [] xs)[0]? = some leaf) ∧
      (level ≠ 0 → ∃ path tag,
        findDeviceShrubsPathTag hash (createBatchDevices hash [] xs) xs leaf = some (some path, some tag) ∧
        path.length = level ∧ tag.length = level ∧
        (∀ k < level, ∃ sibling, path[k]? = some sibling ∧
          (layer hash k ((xs.drop (left - 1)).take (right + 1 - left)))[Forest.siblingIndex ((i - left) / 2 ^ k)]? =
            some sibling) ∧
        (∀ k < level, tag[k]? = some (!(i - 1).testBit k)) ∧
        (createBatchDevices hash [] xs)[level]? = some (climb hash leaf path tag)) := by
  obtain ⟨p, rfl⟩ : ∃ p, i = p + 1 := ⟨i - 1, by omega⟩
  rw [Nat.add_sub_cancel] at at_i
  obtain ⟨l, owner, found⟩ := find_of_distinct injective distinct apart at_i
  have commits := createBatchDevices_commits hash xs
  have inside := (List.getElem?_eq_some_iff.mp at_i).1
  have complete := owner.complete
  have entry : (createBatchDevices hash [] xs)[l]? = (layer hash l xs)[p / 2 ^ l]? := commits.owner hash owner
  rw [Forest.climb_siblings hash at_i complete] at entry
  -- the span of the owner root is the block of the position
  have offset : p + 1 - (p / 2 ^ l * 2 ^ l + 1) = p % 2 ^ l := by
    have split := Nat.div_add_mod p (2 ^ l)
    rw [Nat.mul_comm] at split
    omega
  have span : (xs.drop (p / 2 ^ l * 2 ^ l + 1 - 1)).take ((p / 2 ^ l + 1) * 2 ^ l + 1 - (p / 2 ^ l * 2 ^ l + 1)) =
      Forest.block l p xs := by
    rw [Nat.add_sub_cancel, Nat.succ_mul, Forest.block, Nat.mul_comm (2 ^ l)]
    congr 1
    omega
  refine ⟨l, _, _, findOwnerRoot_owner owner inside, ?_, ?_⟩
  · rintro rfl
    exact ⟨found, entry⟩
  · intro above
    rw [openingAt, if_neg above] at found
    refine ⟨_, _, found, Forest.siblings_length hash complete, Forest.leftTags_length l p, ?_, ?_, entry⟩
    · intro k below
      rw [span, offset, ← Forest.siblings_block hash (Nat.le_refl l) complete]
      have whole : p % 2 ^ l / 2 ^ l < (Forest.block l p xs).length / 2 ^ l := by
        rw [Forest.block_length complete]
        exact Forest.block_inside (Nat.le_refl l)
      have within : k < (siblings hash l (Forest.block l p xs) (p % 2 ^ l)).length := by
        rw [Forest.siblings_length hash whole]
        exact below
      have here := Forest.siblings_getElem? hash whole below
      rw [List.getElem?_eq_getElem within] at here ⊢
      exact ⟨_, rfl, here.symm⟩
    · intro k below
      exact Forest.leftTags_getElem? below p

theorem findDeviceShrubsPathTag_findOwnerRoot_third :
    ∃ level left right, findOwnerRoot 3 5 = some ⟨level, left, right⟩ ∧
      (level = 0 → findDeviceShrubsPathTag Nat.pair (createBatchDevices Nat.pair [] [3, 8, 1, 9, 5]) [3, 8, 1, 9, 5] 1 =
        some (none, none) ∧ (createBatchDevices Nat.pair [] [3, 8, 1, 9, 5])[0]? = some 1) ∧
      (level ≠ 0 → ∃ path tag,
        findDeviceShrubsPathTag Nat.pair (createBatchDevices Nat.pair [] [3, 8, 1, 9, 5]) [3, 8, 1, 9, 5] 1 =
          some (some path, some tag) ∧ path.length = level ∧ tag.length = level ∧
        (∀ k < level, ∃ sibling, path[k]? = some sibling ∧
          (layer Nat.pair k (([3, 8, 1, 9, 5].drop (left - 1)).take (right + 1 - left)))[
            Forest.siblingIndex ((3 - left) / 2 ^ k)]? = some sibling) ∧
        (∀ k < level, tag[k]? = some (!(3 - 1).testBit k)) ∧
        (createBatchDevices Nat.pair [] [3, 8, 1, 9, 5])[level]? = some (climb Nat.pair 1 path tag)) :=
  @findDeviceShrubsPathTag_findOwnerRoot Nat _ Nat.pair [3, 8, 1, 9, 5] 1 pair_injective2 (by decide) (by decide) 3
    (by decide) rfl

variable (hash) in
/-- The opening of the first occurrence of the leaf, up to its owner root in the tree
over `xs`. -/
def Current (xs : List α) (leaf : α) (opening : Option (List α) × Option (List Bool)) : Prop :=
  ∃ p l, xs.findIdx? (fun x => x = leaf) = some p ∧ Owner xs.length p l ∧ opening = openingAt hash xs p l

theorem Current.check {root : List α} {opening : Option (List α) × Option (List Bool)} (commits : Commits hash xs root)
    (current : Current hash xs leaf opening) : MembershipCheck hash root leaf opening := by
  obtain ⟨p, l, first, owner, rfl⟩ := current
  obtain ⟨inside, here, -⟩ := List.findIdx?_eq_some_iff_getElem.mp first
  have at_p : xs[p]? = some leaf := by rw [List.getElem?_eq_getElem inside, of_decide_eq_true here]
  exact openingAt_check (List.prefix_refl xs) commits at_p owner.complete owner rfl

theorem findIdx?_of_grows {zs : List α} (grows : xs <+: zs) (first : xs.findIdx? (fun x => x = leaf) = some p) :
    zs.findIdx? (fun x => x = leaf) = some p := by
  obtain ⟨more, rfl⟩ := grows
  rw [List.findIdx?_append, first]
  rfl

/-- An opening stays current while the owner root of the first occurrence does. -/
theorem Current.grow {zs : List α} {opening : Option (List α) × Option (List Bool)} (grows : xs <+: zs)
    (kept : ∀ p, zs.findIdx? (fun x => x = leaf) = some p →
      findOwnerRoot (p + 1) xs.length = findOwnerRoot (p + 1) zs.length)
    (current : Current hash xs leaf opening) : Current hash zs leaf opening := by
  obtain ⟨p, l, first, owner, rfl⟩ := current
  have first' := findIdx?_of_grows grows first
  have inside := (List.findIdx?_eq_some_iff_getElem.mp first).1
  have inside' := (List.findIdx?_eq_some_iff_getElem.mp first').1
  obtain ⟨k, owner'⟩ := Owner.exists inside'
  obtain rfl := (findOwnerRoot_eq_iff owner owner' inside inside').mp (kept p first')
  exact ⟨p, l, first', owner', (openingAt_of_grows grows owner.complete).symm⟩

theorem find_current {root : List α} (commits : Commits hash xs root) {l : Nat}
    (first : xs.findIdx? (fun x => x = leaf) = some p) (settles : Settles hash xs root p l) :
    ∃ opening, findDeviceShrubsPathTag hash root xs leaf = some opening ∧ Current hash xs leaf opening :=
  ⟨_, findDeviceShrubsPathTag_settles commits first settles, p, l, first, settles.owner, rfl⟩

/-- An old index is affected exactly when its lookup result changes. -/
theorem affectedIndices_exact {ys : List α} {i : Nat} (injective : Function.Injective2 hash)
    (distinct : (xs ++ ys).Nodup) (apart : ∀ leaf ∈ xs ++ ys, ¬ Inner hash (xs ++ ys) leaf)
    (low : 1 ≤ i) (at_i : xs[i - 1]? = some leaf) :
    ∃ affected old new, affectedIndices xs.length ys.length = some affected ∧
      findDeviceShrubsPathTag hash (createBatchDevices hash [] xs) xs leaf = some old ∧
      findDeviceShrubsPathTag hash (createBatchDevices hash [] (xs ++ ys)) (xs ++ ys) leaf = some new ∧
      (i ∈ affected ↔ old ≠ new) := by
  obtain ⟨p, rfl⟩ : ∃ p, i = p + 1 := ⟨i - 1, by omega⟩
  rw [Nat.add_sub_cancel] at at_i
  have grows : xs <+: xs ++ ys := List.prefix_append xs ys
  have inside : p < xs.length := (List.getElem?_eq_some_iff.mp at_i).1
  have inside' : p < (xs ++ ys).length := by rw [List.length_append]; omega
  have at_i' : (xs ++ ys)[p]? = some leaf := by rw [List.getElem?_append_left inside]; exact at_i
  obtain ⟨l, owner, found⟩ := find_of_distinct injective (List.Nodup.of_append_left distinct)
    (fun leaf member inner => apart leaf (by simp [member]) (inner.of_grows hash grows)) at_i
  obtain ⟨k, owner', found'⟩ := find_of_distinct injective distinct apart at_i'
  refine ⟨_, _, _, affectedIndices_eq ys.length (by omega), found, found', ?_⟩
  have levels := findOwnerRoot_eq_iff owner owner' inside inside'
  rw [List.length_append] at levels
  have member : p + 1 ∈ List.range' 1 xs.length := List.mem_range'_1.mpr ⟨by omega, by omega⟩
  rw [List.mem_filter, decide_eq_true_eq, ne_eq, levels, and_iff_right member]
  refine not_congr ⟨?_, fun same => openingAt_level owner.complete owner'.complete same⟩
  rintro rfl
  exact (openingAt_of_grows grows owner.complete).symm

theorem affectedIndices_exact_fifth :
    ∃ affected old new, affectedIndices 5 2 = some affected ∧
      findDeviceShrubsPathTag Nat.pair (createBatchDevices Nat.pair [] [3, 8, 1, 9, 5]) [3, 8, 1, 9, 5] 5 =
        some old ∧
      findDeviceShrubsPathTag Nat.pair (createBatchDevices Nat.pair [] [3, 8, 1, 9, 5, 11, 12])
        [3, 8, 1, 9, 5, 11, 12] 5 = some new ∧
      (5 ∈ affected ↔ old ≠ new) :=
  @affectedIndices_exact Nat _ Nat.pair [3, 8, 1, 9, 5] 5 [11, 12] 5 pair_injective2 (by decide) (by decide)
    (by decide) rfl

end Lookups

end UnifiedAttestation.Shrubs
