import UnifiedAttestation.Shrubs.Tree
import Mathlib.Data.Nat.Bitwise
import Mathlib.Data.Nat.Pairing

/-! Building and inserting produce the same commitment.

The invariant of an insertion at level `j`: below `j` the list already keeps the
entries of the grown tree, from `j` on still those of the old tree, and the new
nodes of the level start at the old pending left child if there is one.
-/

set_option autoImplicit false

namespace UnifiedAttestation.Shrubs

open Forest (pairUp layer lastLeft Commits layer_length layer_getElem?_of_grows)

section Exponents

theorem trailingZeros_odd {x : Nat} (odd : x % 2 = 1) : trailingZeros x = 0 := by
  rw [trailingZeros, if_neg (by omega), if_pos odd]

theorem trailingZeros_double {x : Nat} (positive : x ≠ 0) :
    trailingZeros (2 * x) = trailingZeros x + 1 := by
  rw [trailingZeros, if_neg (by omega), if_neg (by omega), Nat.mul_div_cancel_left _ (by decide)]

theorem clear_lowest_odd (x : Nat) : (2 * x + 1) &&& (2 * x + 1 - 1) = 2 * x := by
  apply Nat.eq_of_testBit_eq
  intro i
  rw [Nat.testBit_and, Nat.add_sub_cancel]
  cases i with
  | zero => simp
  | succ i => simp [Nat.testBit_succ, show (2 * x + 1) / 2 = x by omega]

theorem clear_lowest_double (x : Nat) :
    (2 * x) &&& (2 * x - 1) = 2 * (x &&& (x - 1)) := by
  apply Nat.eq_of_testBit_eq
  intro i
  rw [Nat.testBit_and]
  cases i with
  | zero => simp
  | succ i =>
    have half : (2 * x - 1) / 2 = x - 1 := by omega
    simp [Nat.testBit_succ, half, Nat.testBit_and]

theorem exponentsOfTwo_zero : exponentsOfTwo 0 = [] := by
  rw [exponentsOfTwo, dif_pos rfl]

theorem exponentsOfTwo_double (x : Nat) :
    exponentsOfTwo (2 * x) = (exponentsOfTwo x).map (· + 1) := by
  induction x using Nat.strongRecOn with
  | ind x ih =>
    by_cases zero : x = 0
    · subst zero
      simp [exponentsOfTwo_zero]
    · rw [exponentsOfTwo, dif_neg (by omega), clear_lowest_double, ih _ (clear_lowest_lt zero),
        trailingZeros_double zero]
      conv_rhs => rw [exponentsOfTwo, dif_neg zero]
      simp

theorem exponentsOfTwo_odd (x : Nat) :
    exponentsOfTwo (2 * x + 1) = 0 :: (exponentsOfTwo x).map (· + 1) := by
  rw [exponentsOfTwo, dif_neg (by omega), clear_lowest_odd, exponentsOfTwo_double,
    trailingZeros_odd (by omega)]
  rfl

/-- The exponents of `n` from bit `j` on. -/
def exponentsFrom (n j : Nat) : List Int := (exponentsOfTwo (n / 2 ^ j)).map (· + (j : Int))

theorem exponentsFrom_step (n j : Nat) :
    exponentsFrom n j =
      if n / 2 ^ j % 2 = 1 then (j : Int) :: exponentsFrom n (j + 1) else exponentsFrom n (j + 1) := by
  have half : n / 2 ^ (j + 1) = n / 2 ^ j / 2 := by
    rw [Nat.div_div_eq_div_mul, Nat.pow_succ]
  have shift : (fun e : Int => e + 1 + (j : Int)) = fun e => e + ((j + 1 : Nat) : Int) := by
    funext e; omega
  unfold exponentsFrom
  rw [half]
  rcases Nat.mod_two_eq_zero_or_one (n / 2 ^ j) with even | odd
  · rw [if_neg (by omega)]
    conv_lhs => rw [show n / 2 ^ j = 2 * (n / 2 ^ j / 2) by omega, exponentsOfTwo_double]
    rw [List.map_map]
    exact congrArg (List.map · _) shift
  · rw [if_pos odd]
    conv_lhs => rw [show n / 2 ^ j = 2 * (n / 2 ^ j / 2) + 1 by omega, exponentsOfTwo_odd]
    rw [List.map_cons, List.map_map, Int.zero_add]
    exact congrArg (List.cons _ <| List.map · _) shift

theorem exponentsOfTwo_nonneg {x : Nat} {e : Int} (member : e ∈ exponentsOfTwo x) : 0 ≤ e := by
  induction x using exponentsOfTwo.induct with
  | case1 => simp [exponentsOfTwo_zero] at member
  | case2 x positive ih =>
    rw [exponentsOfTwo, dif_neg positive, List.mem_cons] at member
    rcases member with rfl | rest
    · omega
    · exact ih rest

theorem exponentsFrom_ge {n j : Nat} {e : Int} (member : e ∈ exponentsFrom n j) : (j : Int) ≤ e := by
  obtain ⟨low, lowMember, rfl⟩ := List.mem_map.mp member
  have := exponentsOfTwo_nonneg lowMember
  omega

/-- Reading the exponent under the cursor tests the bit of the level. -/
theorem exponentsFrom_cursor {n j ll : Nat} {exps : List Int} (cursor : exps.drop ll = exponentsFrom n j) :
    exps[ll]? = some (j : Int) ↔ n / 2 ^ j % 2 = 1 := by
  rw [← List.head?_drop, cursor, exponentsFrom_step]
  split
  · rename_i odd
    simp [odd]
  · rename_i even
    simp only [even, iff_false]
    intro first
    have := exponentsFrom_ge (List.mem_of_head? first)
    omega

theorem exponentsFrom_next {n j ll : Nat} {exps : List Int} (cursor : exps.drop ll = exponentsFrom n j) :
    exps.drop (if n / 2 ^ j % 2 = 1 then ll + 1 else ll) = exponentsFrom n (j + 1) := by
  rw [exponentsFrom_step] at cursor
  split
  · rename_i odd
    rw [if_pos odd] at cursor
    rw [← List.tail_drop, cursor, List.tail_cons]
  · rename_i even
    rwa [if_neg even] at cursor

end Exponents

section Create
variable {α : Type} (hash : α → α → α)

@[simp] theorem createBatchDevices_nil (root : List α) : createBatchDevices hash root [] = root := by
  rw [createBatchDevices]
  rfl

theorem createBatchDevices_step (root : List α) {leaves : List α} (occupied : leaves ≠ []) :
    ∃ bottom, leaves[lastLeft leaves.length]? = some bottom ∧
      createBatchDevices hash root leaves =
        createBatchDevices hash (root ++ [bottom]) (pairUp hash leaves) := by
  have positive : 0 < leaves.length := List.length_pos_of_ne_nil occupied
  have index : (if leaves.length % 2 = 0 then leaves.length - 2 else leaves.length - 1) =
      lastLeft leaves.length := by
    unfold lastLeft; split <;> omega
  refine ⟨_, List.getElem?_eq_getElem (Forest.lastLeft_lt positive), ?_⟩
  rw [createBatchDevices, dif_neg (by omega)]
  simp only [index]
  split
  · rename_i ended
    rw [List.isEmpty_iff.mp ended, createBatchDevices_nil]
  · rfl

@[simp] theorem createBatchDevices_single (leaf : α) : createBatchDevices hash [] [leaf] = [leaf] := by
  rw [createBatchDevices]
  rfl

theorem createBatchDevices_append (root leaves : List α) :
    createBatchDevices hash root leaves = root ++ createBatchDevices hash [] leaves := by
  induction leaves using Forest.pairUp_induction hash generalizing root with
  | nil => simp
  | pairs leaves occupied ih =>
    obtain ⟨bottom, atBottom, step⟩ := createBatchDevices_step hash root occupied
    obtain ⟨bottom', atBottom', step'⟩ := createBatchDevices_step hash [] occupied
    obtain rfl := Option.some.inj (atBottom.symm.trans atBottom')
    rw [step, step', ih (root ++ [bottom]), ih ([] ++ [bottom])]
    simp only [List.nil_append, List.append_assoc]

/-- A tree built onto an empty root list commits to its leaves. -/
theorem createBatchDevices_commits (leaves : List α) :
    Commits hash leaves (createBatchDevices hash [] leaves) := by
  induction leaves using Forest.pairUp_induction hash with
  | nil => rw [createBatchDevices_nil]; exact Commits.nil hash
  | pairs leaves occupied ih =>
    obtain ⟨bottom, atBottom, step⟩ := createBatchDevices_step hash [] occupied
    rw [step, createBatchDevices_append]
    exact (Commits.cons_iff hash).mpr ⟨atBottom, ih⟩

end Create

section Insert
variable {α : Type} (hash : α → α → α)

/-- What holds when an insertion of leaves that grows `xs` to `zs` enters level `j`. -/
structure InsertAt (xs zs : List α) (j : Nat) (tRoot vect : List α) (exps : List Int) (ll : Nat) : Prop where
  grown : ∀ i < j, tRoot[i]? = (layer hash i zs)[lastLeft (zs.length / 2 ^ i)]?
  kept : ∀ i, j ≤ i → tRoot[i]? = (layer hash i xs)[lastLeft (xs.length / 2 ^ i)]?
  fresh : vect = (layer hash j zs).drop (2 * (xs.length / 2 ^ j / 2))
  occupied : vect ≠ []
  cursor : exps.drop ll = exponentsFrom xs.length (j + 1)

variable {hash} {xs zs tRoot vect : List α} {exps : List Int} {j ll : Nat}

theorem insertShrubsTree_step {tRoot' pending : List α} {k : Int} {next : Nat}
    (taken : pendingRoot tRoot k exps ll = some (pending, next))
    (stored : storeRoot tRoot vect (k + 1) = some tRoot') :
    insertShrubsTree hash tRoot vect k exps ll =
      if (pending ++ pairUp hash vect).isEmpty then some tRoot'
      else insertShrubsTree hash tRoot' (pending ++ pairUp hash vect) (k + 1) exps next := by
  rw [insertShrubsTree]
  split
  · rename_i panics
    rw [taken] at panics; cases panics
  · rename_i again
    rw [taken] at again; cases again
    split
    · rename_i panics
      rw [stored] at panics; cases panics
    · rename_i again
      rw [stored] at again; cases again
      rfl

theorem InsertAt.level_occupied (inv : InsertAt hash xs zs j tRoot vect exps ll) :
    2 * (xs.length / 2 ^ j / 2) < zs.length / 2 ^ j := by
  have positive := List.length_pos_of_ne_nil inv.occupied
  rw [inv.fresh, List.length_drop, layer_length] at positive
  omega

/-- All levels below the current one are already in the list. -/
theorem InsertAt.le_length (inv : InsertAt hash xs zs j tRoot vect exps ll) : j ≤ tRoot.length := by
  by_contra short
  have entry := inv.grown tRoot.length (by omega)
  have level : 0 < zs.length / 2 ^ tRoot.length :=
    Nat.lt_of_lt_of_le (Nat.lt_of_le_of_lt (Nat.zero_le _) inv.level_occupied)
      (Nat.div_le_div_left (Nat.pow_le_pow_right (by decide) (by omega)) (Nat.two_pow_pos _))
  rw [List.getElem?_eq_none (Nat.le_refl _),
    List.getElem?_eq_getElem (by rw [layer_length]; exact Forest.lastLeft_lt level)] at entry
  simp at entry

theorem InsertAt.pending (inv : InsertAt hash xs zs j tRoot vect exps ll) (grows : xs <+: zs) :
    ∃ pending next, pendingRoot tRoot ((j : Int) - 1) exps ll = some (pending, next) ∧
      pending ++ pairUp hash vect = (layer hash (j + 1) zs).drop (2 * (xs.length / 2 ^ (j + 1) / 2)) ∧
      exps.drop next = exponentsFrom xs.length (j + 2) := by
  have level : (j : Int) - 1 + 2 = ((j + 1 : Nat) : Int) := by omega
  have half : xs.length / 2 ^ (j + 1) = xs.length / 2 ^ j / 2 := by
    rw [Nat.div_div_eq_div_mul, Nat.pow_succ]
  have pairs : pairUp hash vect = (layer hash (j + 1) zs).drop (xs.length / 2 ^ (j + 1)) := by
    rw [inv.fresh, Forest.pairUp_drop, Forest.layer_succ, half]
  have next := exponentsFrom_next inv.cursor
  unfold pendingRoot
  rw [level]
  by_cases odd : xs.length / 2 ^ (j + 1) % 2 = 1
  · have inside : xs.length / 2 ^ (j + 1) - 1 < xs.length / 2 ^ (j + 1) :=
      Nat.sub_one_lt fun zero => by simp [zero] at odd
    have entry : tRoot[j + 1]? = (layer hash (j + 1) zs)[xs.length / 2 ^ (j + 1) - 1]? := by
      rw [inv.kept (j + 1) (by omega), Forest.lastLeft_of_odd odd,
        layer_getElem?_of_grows hash (j + 1) grows inside]
    have bound : xs.length / 2 ^ (j + 1) - 1 < (layer hash (j + 1) zs).length := by
      have := Nat.div_le_div_right (c := 2 ^ (j + 1)) grows.length_le
      rw [layer_length]; omega
    rw [List.getElem?_eq_getElem bound] at entry
    rw [if_pos ((exponentsFrom_cursor inv.cursor).mpr odd), if_pos (by omega), Int.toNat_natCast, entry]
    refine ⟨_, _, rfl, ?_, by simpa only [odd, if_true] using next⟩
    rw [pairs, Nat.two_mul_odd_div_two odd,
      List.drop_eq_getElem_cons bound, Nat.sub_add_cancel (by omega)]
    rfl
  · rw [if_neg (mt (exponentsFrom_cursor inv.cursor).mp odd)]
    refine ⟨[], ll, rfl, ?_, by simpa only [odd, if_false] using next⟩
    rw [pairs, Nat.mul_div_cancel' (Nat.dvd_of_mod_eq_zero (Nat.mod_two_ne_one.mp odd)), List.nil_append]

theorem InsertAt.stored (inv : InsertAt hash xs zs j tRoot vect exps ll) :
    ∃ tRoot', storeRoot tRoot vect j = some tRoot' ∧
      ∀ i, tRoot'[i]? = if i = j then (layer hash j zs)[lastLeft (zs.length / 2 ^ j)]? else tRoot[i]? := by
  have level := inv.level_occupied
  have count : vect.length = zs.length / 2 ^ j - 2 * (xs.length / 2 ^ j / 2) := by
    rw [inv.fresh, List.length_drop, layer_length]
  have last : vect[vect.length - if vect.length % 2 = 0 then 2 else 1]? =
      (layer hash j zs)[lastLeft (zs.length / 2 ^ j)]? := by
    have index : 2 * (xs.length / 2 ^ j / 2) + (vect.length - if vect.length % 2 = 0 then 2 else 1) =
        lastLeft (zs.length / 2 ^ j) := by
      unfold lastLeft; split <;> omega
    rw [← index, ← List.getElem?_drop, ← inv.fresh]
  have found : lastLeft (zs.length / 2 ^ j) < (layer hash j zs).length := by
    rw [layer_length]; exact Forest.lastLeft_lt (by omega)
  unfold storeRoot
  simp only [last, List.getElem?_eq_getElem found, Option.map_some, Int.toNat_natCast]
  rw [if_neg (by split <;> omega)]
  refine ⟨_, rfl, fun i => ?_⟩
  have reached := inv.le_length
  split
  · rename_i inside
    rw [List.getElem?_set]
    split
    · rename_i here
      subst here
      simp
    · rename_i other
      rw [if_neg (Ne.symm other)]
  · have full : tRoot.length = j := by omega
    subst full
    rcases Nat.lt_trichotomy i tRoot.length with below | rfl | above
    · rw [List.getElem?_append_left below, if_neg (by omega)]
    · simp
    · rw [if_neg (by omega), List.getElem?_eq_none (by simp; omega), List.getElem?_eq_none (by omega)]

/-- Levels that receive no node keep their entry. -/
theorem unchanged_level (grows : xs <+: zs) {i j : Nat} (above : j ≤ i)
    (same : zs.length / 2 ^ j = xs.length / 2 ^ j) :
    (layer hash i xs)[lastLeft (xs.length / 2 ^ i)]? = (layer hash i zs)[lastLeft (zs.length / 2 ^ i)]? := by
  have counts : zs.length / 2 ^ i = xs.length / 2 ^ i := by
    rw [← Nat.add_sub_cancel' above, Nat.pow_add, ← Nat.div_div_eq_div_mul, same, Nat.div_div_eq_div_mul]
  rw [counts]
  by_cases empty : xs.length / 2 ^ i = 0
  · rw [List.getElem?_eq_none (by rw [layer_length]; omega), List.getElem?_eq_none (by rw [layer_length]; omega)]
  · exact (layer_getElem?_of_grows hash i grows (Forest.lastLeft_lt (Nat.pos_of_ne_zero empty))).symm

/-- An insertion that enters a level under the invariant returns, and the list
it returns commits to the grown tree. -/
theorem InsertAt.commits (inv : InsertAt hash xs zs j tRoot vect exps ll) (grows : xs <+: zs) :
    ∃ root, insertShrubsTree hash tRoot vect ((j : Int) - 1) exps ll = some root ∧ Commits hash zs root := by
  induction level : zs.length / 2 ^ j using Nat.strongRecOn generalizing j tRoot vect ll with
  | ind count ih =>
    obtain ⟨pending, next, taken, temp, cursor⟩ := inv.pending grows
    obtain ⟨tRoot', stored, entries⟩ := inv.stored
    have occupied := inv.level_occupied
    have half : zs.length / 2 ^ (j + 1) = zs.length / 2 ^ j / 2 := by
      rw [Nat.div_div_eq_div_mul, Nat.pow_succ]
    have grown : ∀ i < j + 1, tRoot'[i]? = (layer hash i zs)[lastLeft (zs.length / 2 ^ i)]? := by
      intro i below
      rw [entries i]
      split
      · rename_i here; rw [here]
      · exact inv.grown i (by omega)
    have kept : ∀ i, j + 1 ≤ i → tRoot'[i]? = (layer hash i xs)[lastLeft (xs.length / 2 ^ i)]? := by
      intro i above
      rw [entries i, if_neg (by omega)]
      exact inv.kept i (by omega)
    rw [insertShrubsTree_step taken (by rwa [Int.sub_add_cancel]), Int.sub_add_cancel]
    split
    · rename_i ended
      refine ⟨tRoot', rfl, fun i => ?_⟩
      rcases Nat.lt_or_ge i (j + 1) with below | above
      · exact grown i below
      · have short := congrArg List.length (List.isEmpty_iff.mp ended)
        rw [temp, List.length_drop, layer_length, List.length_nil] at short
        have lengths := Nat.div_le_div_right (c := 2 ^ (j + 1)) grows.length_le
        rw [kept i above]
        exact unchanged_level grows above (by omega)
    · rename_i more
      have step : InsertAt hash xs zs (j + 1) tRoot' (pending ++ pairUp hash vect) exps next :=
        ⟨grown, kept, temp, fun nil => more (by rw [nil]; rfl), cursor⟩
      have up : (j : Int) = ((j + 1 : Nat) : Int) - 1 := by omega
      rw [up]
      exact ih _ (by omega) step rfl

/-- One batch inserted under a committed root list returns the root list of the
grown tree. -/
theorem insertBatchDevices_commits {ys root : List α} (committed : Commits hash xs root)
    (occupied : xs ≠ []) (batch : ys ≠ []) :
    ∃ root', insertBatchDevices hash root xs ys = some root' ∧ Commits hash (xs ++ ys) root' := by
  have positive : 0 < xs.length := List.length_pos_of_ne_nil occupied
  have whole : exponentsOfTwo xs.length = exponentsFrom xs.length 0 := by simp [exponentsFrom]
  have step := exponentsFrom_step xs.length 0
  have grows : xs <+: xs ++ ys := List.prefix_append xs ys
  simp only [pow_zero, Nat.div_one, Nat.zero_add] at step
  unfold insertBatchDevices
  rw [whole]
  by_cases odd : xs.length % 2 = 1
  · have bound : xs.length - 1 < xs.length := by omega
    have bottom := committed.bottom
    rw [Forest.lastLeft_of_odd odd, List.getElem?_eq_getElem bound] at bottom
    rw [if_pos odd] at step
    have inv : InsertAt hash xs (xs ++ ys) 0 root (xs[xs.length - 1] :: ys) (exponentsFrom xs.length 0) 1 := by
      refine ⟨by simp, fun i _ => committed i, ?_, by simp, by rw [step]; rfl⟩
      rw [pow_zero, Nat.div_one, Nat.two_mul_odd_div_two odd, Forest.layer_zero,
        List.drop_append_of_le_length (by omega), List.drop_eq_getElem_cons bound,
        Nat.sub_add_cancel positive, List.drop_length, List.cons_append, List.nil_append]
    simp only [step, List.getElem?_cons_zero, bottom]
    rw [← step]
    exact inv.commits grows
  · rw [if_neg odd] at step
    have inv : InsertAt hash xs (xs ++ ys) 0 root ys (exponentsFrom xs.length 0) 0 := by
      refine ⟨by simp, fun i _ => committed i, ?_, batch, by rw [step]; rfl⟩
      rw [pow_zero, Nat.div_one, Nat.mul_div_cancel' (Nat.dvd_of_mod_eq_zero (Nat.mod_two_ne_one.mp odd)),
        Forest.layer_zero, List.drop_left]
    have first : ∃ lowest rest, exponentsFrom xs.length 0 = lowest :: rest := by
      rw [← whole, exponentsOfTwo, dif_neg (by omega)]
      exact ⟨_, _, rfl⟩
    obtain ⟨lowest, rest, split⟩ := first
    have above : 1 ≤ lowest := exponentsFrom_ge (n := xs.length) (j := 1) (by rw [← step, split]; simp)
    simp only [split, List.getElem?_cons_zero, show lowest ≠ 0 by omega, if_false]
    rw [← split]
    exact inv.commits grows

variable (hash)

/-- Insert the batches one after another; the old leaves of each call are
everything inserted before it. -/
def insertBatches (root oldLeaves : List α) : List (List α) → Returned (List α)
  | [] => some root
  | newLeaves :: rest =>
    (insertBatchDevices hash root oldLeaves newLeaves).bind fun root' =>
      insertBatches root' (oldLeaves ++ newLeaves) rest

theorem insertBatches_commits {root : List α} {batches : List (List α)} (committed : Commits hash xs root)
    (occupied : xs ≠ []) (nonempty : ∀ batch ∈ batches, batch ≠ []) :
    ∃ root', insertBatches hash root xs batches = some root' ∧ Commits hash (xs ++ batches.flatten) root' := by
  induction batches generalizing xs root with
  | nil => exact ⟨root, rfl, by simpa using committed⟩
  | cons batch rest ih =>
    obtain ⟨next, inserted, grown⟩ :=
      insertBatchDevices_commits committed occupied (nonempty batch (by simp))
    obtain ⟨final, finished, commits⟩ :=
      ih grown (by simp [occupied]) (fun other member => nonempty other (by simp [member]))
    refine ⟨final, ?_, ?_⟩
    · rw [insertBatches, inserted, Option.bind_some, finished]
    · rwa [List.flatten_cons, ← List.append_assoc]

/-- Inserting batch by batch ends with the root list built from scratch. -/
theorem insertBatches_eq_create {xs : List α} {batches : List (List α)} (occupied : xs ≠ [])
    (nonempty : ∀ batch ∈ batches, batch ≠ []) :
    insertBatches hash (createBatchDevices hash [] xs) xs batches =
      some (createBatchDevices hash [] (xs ++ batches.flatten)) := by
  obtain ⟨root, inserted, commits⟩ :=
    insertBatches_commits hash (createBatchDevices_commits hash xs) occupied nonempty
  rw [inserted, commits.unique hash (createBatchDevices_commits hash _)]

theorem insertBatches_eq_create_mixed :
    insertBatches Nat.pair (createBatchDevices Nat.pair [] [4, 2, 9]) [4, 2, 9] [[1], [7, 7, 5]] =
      some (createBatchDevices Nat.pair [] [4, 2, 9, 1, 7, 7, 5]) :=
  insertBatches_eq_create Nat.pair (by decide) (by decide)

end Insert

end UnifiedAttestation.Shrubs
