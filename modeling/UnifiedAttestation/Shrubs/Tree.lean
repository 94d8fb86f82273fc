import UnifiedAttestation.Forest.Commitment

/-! The shrubs accumulator: building, inserting, owner roots and path lookup.

The scalar type and its two-to-one hash stay arbitrary. Vectors are lists, and an
assertion, an index out of range or an underflow ends a call without a value.
-/

set_option autoImplicit false

namespace UnifiedAttestation.Shrubs

open Forest (pairUp)

/-- What a call returns; `none` is a panic. -/
abbrev Returned (β : Type) := Option β

section Arithmetic

/-- A kept root: its level and the 1-based span of leaves below it. -/
structure Root where
  level : Nat
  left : Nat
  right : Nat
  deriving DecidableEq, Repr

def findOwnerRootLoop (index total level blockSize : Nat) : Returned Root :=
  -- `total / block_size` divides by zero
  if blockSize = 0 then none
  else if blockSize ≤ total then
    let layerCount := total / blockSize
    if layerCount = 0 then none
    else
      let rootBlock := if layerCount % 2 = 1 then layerCount else layerCount - 1
      let left := (rootBlock - 1) * blockSize + 1
      let right := rootBlock * blockSize
      if left ≤ index ∧ index ≤ right then some ⟨level, left, right⟩
      else if total / 2 < blockSize then none
      else findOwnerRootLoop index total (level + 1) (blockSize * 2)
  else none
termination_by total + 1 - blockSize

/-- The root that owns a 1-based leaf index. -/
def findOwnerRoot (index total : Nat) : Returned Root :=
  if 1 ≤ index ∧ index ≤ total then findOwnerRootLoop index total 0 1 else none

def affectedIndicesLoop (oldTotal newTotal : Nat) : List Nat → Returned (List Nat)
  | [] => some []
  | index :: rest => do
    let oldRoot ← findOwnerRoot index oldTotal
    let newRoot ← findOwnerRoot index newTotal
    let affected ← affectedIndicesLoop oldTotal newTotal rest
    some (if oldRoot ≠ newRoot then index :: affected else affected)

/-- The old 1-based indices whose owner root changes after an insertion. -/
def affectedIndices (oldTotal inserted : Nat) : Returned (List Nat) :=
  if oldTotal = 0 then none
  else if inserted = 0 then some []
  else affectedIndicesLoop oldTotal (oldTotal + inserted) (List.range' 1 oldTotal)

def trailingZeros (x : Nat) : Nat :=
  if x = 0 then 64 else if x % 2 = 1 then 0 else trailingZeros (x / 2) + 1
termination_by x

theorem clear_lowest_lt {x : Nat} (positive : x ≠ 0) : x &&& (x - 1) < x :=
  Nat.lt_of_le_of_lt Nat.and_le_right (by omega)

/-- The set bits of `x`, lowest first. -/
def exponentsOfTwo (x : Nat) : List Int :=
  if positive : x = 0 then [] else (trailingZeros x : Int) :: exponentsOfTwo (x &&& (x - 1))
termination_by x
decreasing_by exact clear_lowest_lt positive

-- the shift loop starts at one; a zero would never leave it
def largestPowerTwoLoop (n p : Nat) : Nat :=
  if 0 < p ∧ p ≤ n / 2 then largestPowerTwoLoop n (2 * p) else p
termination_by n - p

theorem largestPowerTwoLoop_pos {n p : Nat} (positive : 0 < p) : 0 < largestPowerTwoLoop n p := by
  induction p using largestPowerTwoLoop.induct (n := n) with
  | case1 p more ih =>
    rw [largestPowerTwoLoop, if_pos more]
    exact ih (by omega)
  | case2 p done => rwa [largestPowerTwoLoop, if_neg done]

def largestPowerTwoLeq (n : Nat) : Returned Nat :=
  if 0 < n then some (largestPowerTwoLoop n 1) else none

theorem largestPowerTwoLeq_pos {n p : Nat} (found : largestPowerTwoLeq n = some p) : 0 < p := by
  simp only [largestPowerTwoLeq, Option.ite_none_right_eq_some, Option.some.injEq] at found
  exact found.2 ▸ largestPowerTwoLoop_pos Nat.one_pos

end Arithmetic

section Building
variable {α : Type} (hash : α → α → α)

/-- Build the root list of the leaves onto `root`. -/
def createBatchDevices (root leaves : List α) : List α :=
  if occupied : leaves.length = 0 then root
  else
    let temp := pairUp hash leaves
    let lastI := if leaves.length % 2 = 0 then leaves.length - 2 else leaves.length - 1
    have inside : lastI < leaves.length := by simp only [lastI]; split <;> omega
    let root := root ++ [leaves[lastI]]
    if temp.isEmpty then root else createBatchDevices root temp
termination_by leaves.length
decreasing_by simp only [Forest.pairUp_length]; omega

/-- The pending left node that the next level starts with, and the advanced
index into the exponents. -/
def pendingRoot (tRoot : List α) (k : Int) (exps : List Int) (ll : Nat) : Returned (List α × Nat) :=
  if exps[ll]? = some (k + 2) then
    if 0 ≤ k + 2 then tRoot[(k + 2).toNat]?.map fun node => ([node], ll + 1) else none
  else some ([], ll)

/-- Overwrite or push the root of level `k` with the last left node of the level. -/
def storeRoot (tRoot vect : List α) (k : Int) : Returned (List α) :=
  let drop := if vect.length % 2 = 0 then 2 else 1
  -- `vect.len() - 2` underflows on an empty level
  if vect.length < drop then none
  else vect[vect.length - drop]?.map fun node =>
    if k.toNat < tRoot.length then tRoot.set k.toNat node else tRoot ++ [node]

theorem storeRoot_nil (tRoot : List α) (k : Int) : storeRoot tRoot [] k = none := by
  simp [storeRoot]

theorem pendingRoot_bound {tRoot : List α} {k : Int} {exps : List Int} {ll next : Nat} {pending : List α}
    (taken : pendingRoot tRoot k exps ll = some (pending, next)) :
    (pending = [] ∧ next = ll) ∨ (pending.length = 1 ∧ next = ll + 1 ∧ ll < exps.length) := by
  unfold pendingRoot at taken
  split at taken
  · rename_i here
    have inside := (List.getElem?_eq_some_iff.mp here).1
    split at taken
    · simp only [Option.map_eq_some_iff, Prod.mk.injEq] at taken
      obtain ⟨node, -, rfl, rfl⟩ := taken
      exact Or.inr ⟨rfl, rfl, inside⟩
    · simp at taken
  · simp only [Option.some.injEq, Prod.mk.injEq] at taken
    exact Or.inl ⟨taken.1.symm, taken.2.symm⟩

/-- Insert one level of new nodes and recurse on the level above. -/
def insertShrubsTree (tRoot vect : List α) (k : Int) (exps : List Int) (ll : Nat) : Returned (List α) :=
  match _taken : pendingRoot tRoot k exps ll with
  | none => none
  | some (pending, next) =>
    match stored : storeRoot tRoot vect (k + 1) with
    | none => none
    | some tRoot' =>
      let temp := pending ++ pairUp hash vect
      if temp.isEmpty then some tRoot' else insertShrubsTree tRoot' temp (k + 1) exps next
termination_by vect.length + (exps.length - ll)
decreasing_by
  have occupied : 0 < vect.length := by
    cases vect with
    | nil => simp [storeRoot_nil] at stored
    | cons _ _ => simp
  simp only [List.length_append, Forest.pairUp_length]
  rcases pendingRoot_bound _taken with ⟨rfl, rfl⟩ | ⟨single, rfl, inside⟩
  · simp only [List.length_nil]; omega
  · omega

/-- Insert a batch of leaves below the roots of the old leaves. -/
def insertBatchDevices (root oldLeaves newLeaves : List α) : Returned (List α) :=
  let exps := exponentsOfTwo oldLeaves.length
  match exps[0]? with
  | none => none
  | some lowest =>
    if lowest = 0 then
      match root[0]? with
      | none => none
      | some pending => insertShrubsTree hash root (pending :: newLeaves) (-1) exps 1
    else insertShrubsTree hash root newLeaves (-1) exps 0

end Building

section Lookup
variable {α : Type} [DecidableEq α] (hash : α → α → α)

/-- The first test of `find_shrubs_path`: is the node the bottom root? -/
def atBottomRoot (root leaves : List α) (value : Nat) : Returned Bool :=
  if 2 ≤ leaves.length then
    match root[0]?, leaves[value]? with
    | some bottom, some leaf => some (bottom = leaf)
    | _, _ => none
  else some false

/-- Siblings and direction tags from `leaves[value]` up to the first node that
equals the root of its level; `some none` where the source returns `None`. -/
def findShrubsPath (root leaves : List α) (j value : Nat) : Returned (Option (List α × List Bool)) :=
  match atBottomRoot root leaves value with
  | none => none
  | some true => some none
  | some false =>
    if leaves.length ≤ value then some none
    else
      let tag := !(value % 2 == 1)
      match leaves[if value % 2 = 1 then value - 1 else value + 1]? with
      | none => some none
      | some sibling =>
        let temp := pairUp hash leaves
        if _wide : 2 ≤ temp.length then
          let val := value / 2
          let nextJ := j + 1
          match temp[val]?, root[nextJ]? with
          | some node, some entry =>
            if node = entry then some (some ([sibling], [tag]))
            else (findShrubsPath root temp nextJ val).map
              (Option.map fun (path, tags) => (sibling :: path, tag :: tags))
          | _, _ => some none
        else some (some ([sibling], [tag]))
termination_by leaves.length
decreasing_by
  simp only [temp, Forest.pairUp_length] at _wide ⊢
  omega

def findIntervalLoop (arr : List α) (targetIndex start remaining : Nat) : Returned (Option (List α × Nat)) :=
  if 0 < remaining then
    match _found : largestPowerTwoLeq remaining with
    | none => none
    | some intervalLen =>
      let stop := start + intervalLen
      if start ≤ targetIndex ∧ targetIndex < stop then
        if intervalLen = 1 then some none
        else if stop ≤ arr.length then
          some (some ((arr.drop start).take intervalLen, targetIndex - start))
        else none
      else if remaining < intervalLen then none
      else findIntervalLoop arr targetIndex stop (remaining - intervalLen)
  else some none
termination_by remaining
decreasing_by
  have := largestPowerTwoLeq_pos _found
  omega

/-- The power-of-two interval of the leaves that holds the first occurrence of
the target, with its local index. -/
def findIntervalIndex (arr : List α) (target : α) : Returned (Option (List α × Nat)) :=
  match arr.findIdx? (fun x => x = target) with
  | none => some none
  | some targetIndex => findIntervalLoop arr targetIndex 0 arr.length

/-- The path and the tags of a leaf, both absent at a root boundary. -/
def findDeviceShrubsPathTag (root leaves : List α) (leaf : α) :
    Returned (Option (List α) × Option (List Bool)) :=
  match findIntervalIndex leaves leaf with
  | none => none
  | some none => some (none, none)
  | some (some (vect, index)) =>
    match findShrubsPath hash root vect 0 index with
    | none => none
    | some none => some (none, none)
    | some (some (path, tag)) => some (some path, some tag)

end Lookup

end UnifiedAttestation.Shrubs
