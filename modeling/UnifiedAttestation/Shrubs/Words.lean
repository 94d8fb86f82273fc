import UnifiedAttestation.Shrubs.Owners

/-! The search for an owner root in machine words.

No operation of a round leaves the words while a block fits into the total, since only a
block of at most half the total is doubled. So the search is the one on numbers, and ends
with the lowest last left block that covers the index.
-/

set_option autoImplicit false

namespace Checked

/-! Arithmetic on numbers up to a limit: a result that does not fit is missing, and so are
a negative one and a quotient by zero. -/

def add (limit a b : Nat) : Option Nat := if a + b ≤ limit then some (a + b) else none

def sub (a b : Nat) : Option Nat := if b ≤ a then some (a - b) else none

def mul (limit a b : Nat) : Option Nat := if a * b ≤ limit then some (a * b) else none

def div (a b : Nat) : Option Nat := if b = 0 then none else some (a / b)

section
variable {limit a b c : Nat}

theorem mul_eq_some : mul limit a b = some c ↔ a * b ≤ limit ∧ a * b = c := by
  simp [mul]

theorem div_eq_some : div a b = some c ↔ b ≠ 0 ∧ a / b = c := by
  simp [div]

theorem add_fits (fits : a + b ≤ limit) : add limit a b = some (a + b) := if_pos fits

theorem sub_fits (below : b ≤ a) : sub a b = some (a - b) := if_pos below

theorem mul_fits (fits : a * b ≤ limit) : mul limit a b = some (a * b) := if_pos fits

theorem div_fits (nonzero : b ≠ 0) : div a b = some (a / b) := if_neg nonzero

end

end Checked

namespace UnifiedAttestation.Shrubs

open Forest (lastLeft Owner)

section Machine

/-- The widths of `usize`, which depend on the target. -/
inductive Width where
  | sixteen | thirtyTwo | sixtyFour
  deriving DecidableEq, Repr

def Width.bits : Width → Nat
  | .sixteen => 16
  | .thirtyTwo => 32
  | .sixtyFour => 64

/-- `usize::MAX` -/
def Width.max (width : Width) : Nat := 2 ^ width.bits - 1

/-- `u32::MAX` -/
def u32Max : Nat := 2 ^ 32 - 1

/-- What a round of the search ends with: a root, the end of the loop, or another round. -/
inductive Turn where
  | owner (root : Root)
  | leave
  | next (level blockSize : Nat)
  deriving DecidableEq, Repr

/-- The last block of a layer that is a left child, counted from one. -/
def Words.rootBlock (layerCount : Nat) : Returned Nat :=
  if layerCount % 2 = 1 then some layerCount else Checked.sub layerCount 1

/-- One round of the search; a missing result of an operation is a panic. -/
def Words.turn (width : Width) (index total level blockSize : Nat) : Returned Turn := do
  let layerCount ← Checked.div total blockSize
  if layerCount = 0 then some .leave
  else
    let rootBlock ← Words.rootBlock layerCount
    let earlier ← Checked.sub rootBlock 1
    let before ← Checked.mul width.max earlier blockSize
    let left ← Checked.add width.max before 1
    let right ← Checked.mul width.max rootBlock blockSize
    if left ≤ index ∧ index ≤ right then some (.owner ⟨level, left, right⟩)
    else if total / 2 < blockSize then some .leave
    else
      let doubled ← Checked.mul width.max blockSize 2
      let level ← Checked.add u32Max level 1
      some (.next level doubled)

/-- Another round has twice the block size. -/
theorem Words.turn_next {width : Width} {index total level blockSize level' blockSize' : Nat}
    (turned : Words.turn width index total level blockSize = some (.next level' blockSize')) :
    0 < blockSize ∧ blockSize * 2 = blockSize' := by
  simp only [Words.turn, Option.bind_eq_bind, Option.bind_eq_some_iff, Checked.div_eq_some] at turned
  obtain ⟨layerCount, ⟨nonzero, _⟩, turned⟩ := turned
  refine ⟨Nat.pos_of_ne_zero nonzero, ?_⟩
  split at turned
  · cases turned
  · simp only [Option.bind_eq_some_iff] at turned
    obtain ⟨_, _, _, _, _, _, _, _, _, _, turned⟩ := turned
    split at turned
    · cases turned
    split at turned
    · cases turned
    simp only [Option.bind_eq_some_iff, Checked.mul_eq_some, Option.some.injEq, Turn.next.injEq] at turned
    obtain ⟨_, ⟨_, rfl⟩, _, _, _, doubled⟩ := turned
    exact doubled

def Words.findOwnerRootLoop (width : Width) (index total level blockSize : Nat) : Returned Root :=
  if _more : blockSize ≤ total then
    match _turned : Words.turn width index total level blockSize with
    | none => none
    | some (.owner root) => some root
    -- behind the loop stands `unreachable!`
    | some .leave => none
    | some (.next level' blockSize') => Words.findOwnerRootLoop width index total level' blockSize'
  else none
termination_by total + 1 - blockSize
decreasing_by
  have doubled := Words.turn_next _turned
  omega

/-- The root that owns a 1-based leaf index, in words of some width. -/
def Words.findOwnerRoot (width : Width) (index total : Nat) : Returned Root :=
  if 1 ≤ index ∧ index ≤ total then Words.findOwnerRootLoop width index total 0 1 else none

end Machine

section Blocks

/-- The last left block of a level: as many leaves as the level says, behind a multiple of
twice as many, where the next such block does not fit. -/
structure LastLeft (total : Nat) (root : Root) : Prop where
  positive : 1 ≤ root.left
  ordered : root.left ≤ root.right
  inside : root.right ≤ total
  size : root.right - root.left + 1 = 2 ^ root.level
  aligned : 2 ^ (root.level + 1) ∣ root.left - 1
  last : total < root.right + 2 ^ (root.level + 1)

def Root.Covers (root : Root) (index : Nat) : Prop := root.left ≤ index ∧ index ≤ root.right

instance (root : Root) (index : Nat) : Decidable (root.Covers index) := inferInstanceAs (Decidable (_ ∧ _))

/-- The block that a round tests. -/
def lastLeftRoot (total level : Nat) : Root :=
  ⟨level, lastLeft (total / 2 ^ level) * 2 ^ level + 1, (lastLeft (total / 2 ^ level) + 1) * 2 ^ level⟩

variable {total level p : Nat} {root : Root}

theorem lastLeftRoot_covers_iff {index : Nat} : (lastLeftRoot total level).Covers index ↔
    lastLeft (total / 2 ^ level) * 2 ^ level + 1 ≤ index ∧ index ≤ (lastLeft (total / 2 ^ level) + 1) * 2 ^ level :=
  Iff.rfl

theorem lastLeftRoot_covers :
    (lastLeftRoot total level).Covers (p + 1) ↔ p / 2 ^ level = lastLeft (total / 2 ^ level) :=
  span_iff (Nat.two_pow_pos level)

theorem lastLeftRoot_lastLeft (reached : 0 < total / 2 ^ level) : LastLeft total (lastLeftRoot total level) := by
  have size := Nat.two_pow_pos level
  have block : (lastLeft (total / 2 ^ level) + 1) * 2 ^ level = lastLeft (total / 2 ^ level) * 2 ^ level + 2 ^ level :=
    Nat.succ_mul _ _
  constructor
  case positive => exact Nat.le_add_left 1 _
  case ordered =>
    simp only [lastLeftRoot, block]
    omega
  case inside => calc
    (lastLeft (total / 2 ^ level) + 1) * 2 ^ level ≤ total / 2 ^ level * 2 ^ level :=
      Nat.mul_le_mul_right _ (Forest.lastLeft_lt reached)
    _ ≤ total := Nat.div_mul_le_self total (2 ^ level)
  case size =>
    simp only [lastLeftRoot, block]
    omega
  case aligned =>
    refine ⟨(total / 2 ^ level - 1) / 2, ?_⟩
    simp only [lastLeftRoot, lastLeft, Nat.add_sub_cancel, Nat.pow_succ]
    rw [Nat.mul_comm (2 ^ level) 2, Nat.mul_assoc, Nat.mul_assoc, Nat.mul_comm (2 ^ level)]
  case last => calc
    total < (total / 2 ^ level + 1) * 2 ^ level := (Nat.div_lt_iff_lt_mul size).mp (Nat.lt_succ_self _)
    _ ≤ (lastLeft (total / 2 ^ level) + 1 + 2) * 2 ^ level := by
      apply Nat.mul_le_mul_right
      unfold lastLeft
      omega
    _ = (lastLeft (total / 2 ^ level) + 1) * 2 ^ level + 2 ^ (level + 1) := by
      rw [Nat.add_mul, Nat.pow_succ, Nat.mul_comm 2]

/-- Each level that fits into the total has one last left block. -/
theorem lastLeft_iff : LastLeft total root ↔ 0 < total / 2 ^ root.level ∧ root = lastLeftRoot total root.level := by
  constructor
  · rintro ⟨positive, ordered, inside, size, ⟨pairs, aligned⟩, last⟩
    have block := Nat.two_pow_pos root.level
    rw [Nat.pow_succ] at aligned last
    have low : (2 * pairs + 1) * 2 ^ root.level = root.right := by
      rw [Nat.add_mul, Nat.one_mul, Nat.mul_comm 2, Nat.mul_assoc, Nat.mul_comm pairs, Nat.mul_comm 2]
      omega
    have high : (2 * pairs + 3) * 2 ^ root.level = root.right + 2 ^ root.level * 2 := by
      rw [← low, Nat.add_mul, Nat.add_mul]
      omega
    have count : 2 * pairs + 1 ≤ total / 2 ^ root.level := (Nat.le_div_iff_mul_le block).mpr (low ▸ inside)
    have count' : total / 2 ^ root.level < 2 * pairs + 3 := (Nat.div_lt_iff_lt_mul block).mpr (high ▸ last)
    have here : lastLeft (total / 2 ^ root.level) = 2 * pairs := by
      unfold lastLeft
      omega
    refine ⟨by omega, ?_⟩
    obtain ⟨level, left, right⟩ := root
    simp only at positive aligned low ordered size
    have before : 2 * pairs * 2 ^ level + 2 ^ level = right := (Nat.succ_mul (2 * pairs) (2 ^ level)).symm.trans low
    simp only [lastLeftRoot, here, Root.mk.injEq, true_and]
    exact ⟨by omega, low.symm⟩
  · rintro ⟨reached, same⟩
    rw [same]
    exact lastLeftRoot_lastLeft reached

end Blocks

section Rounds
variable {width : Width} {index total level : Nat}

theorem Width.bits_le (width : Width) : width.bits ≤ 64 := by
  cases width <;> decide

/-- The level of a block that fits into a word is far from the end of a `u32`. -/
theorem level_lt (fits : 2 ^ level ≤ width.max) : level < u32Max := by
  have wide := width.bits_le
  have below : 2 ^ level < 2 ^ width.bits := Nat.lt_of_le_pred (Nat.two_pow_pos width.bits) fits
  have low : level < width.bits := (Nat.pow_lt_pow_iff_right (by decide)).mp below
  rw [u32Max]
  omega

theorem Words.rootBlock_eq {count : Nat} (positive : 0 < count) :
    Words.rootBlock count = some (lastLeft count + 1) := by
  rw [Words.rootBlock, ← Shrubs.rootBlock_eq positive]
  by_cases odd : count % 2 = 1
  · rw [if_pos odd, if_pos odd]
  · rw [if_neg odd, if_neg odd, Checked.sub_fits positive]

/-- Where a block fits into the total, no operation of a round overflows, and the round
tests the last left block of its level. -/
theorem Words.turn_eq (fits : 2 ^ level ≤ total) (held : total ≤ width.max) :
    Words.turn width index total level (2 ^ level) = some (
      if (lastLeftRoot total level).Covers index then .owner (lastLeftRoot total level)
      else if total / 2 < 2 ^ level then .leave
      else .next (level + 1) (2 ^ (level + 1))) := by
  have size := Nat.two_pow_pos level
  have reached : 0 < total / 2 ^ level := Nat.div_pos fits size
  have inside : (lastLeft (total / 2 ^ level) + 1) * 2 ^ level ≤ total := (lastLeftRoot_lastLeft reached).inside
  have spread : (lastLeft (total / 2 ^ level) + 1) * 2 ^ level = lastLeft (total / 2 ^ level) * 2 ^ level + 2 ^ level :=
    Nat.succ_mul _ _
  have earlier : Checked.sub (lastLeft (total / 2 ^ level) + 1) 1 = some (lastLeft (total / 2 ^ level)) :=
    Checked.sub_fits (Nat.le_add_left 1 _)
  have before : lastLeft (total / 2 ^ level) * 2 ^ level ≤ width.max := by omega
  have left : lastLeft (total / 2 ^ level) * 2 ^ level + 1 ≤ width.max := by omega
  have right : (lastLeft (total / 2 ^ level) + 1) * 2 ^ level ≤ width.max := Nat.le_trans inside held
  rw [Words.turn, Checked.div_fits (Nat.ne_of_gt size)]
  simp only [Option.bind_eq_bind, Option.bind_some, if_neg (Nat.ne_of_gt reached), Words.rootBlock_eq reached, earlier,
    Checked.mul_fits before, Checked.add_fits left, Checked.mul_fits right, ← lastLeftRoot_covers_iff]
  by_cases here : (lastLeftRoot total level).Covers index
  · rw [if_pos here, if_pos here, lastLeftRoot]
  by_cases last : total / 2 < 2 ^ level
  · rw [if_neg here, if_neg here, if_pos last, if_pos last]
  · -- The block is at most half the total, so twice the block still fits.
    have doubled : 2 ^ level * 2 ≤ width.max := by omega
    have counted : level + 1 ≤ u32Max := level_lt (Nat.le_trans fits held)
    rw [if_neg here, if_neg here, if_neg last, if_neg last, Checked.mul_fits doubled, Option.bind_some,
      Checked.add_fits counted, Option.bind_some, Nat.pow_succ]

theorem Words.findOwnerRootLoop_turn {blockSize : Nat} {turn : Turn} (fits : blockSize ≤ total)
    (turned : Words.turn width index total level blockSize = some turn) :
    Words.findOwnerRootLoop width index total level blockSize =
      match turn with
      | .owner root => some root
      | .leave => none
      | .next level' blockSize' => Words.findOwnerRootLoop width index total level' blockSize' := by
  rw [Words.findOwnerRootLoop, dif_pos fits]
  split
  · next panics => cases turned.symm.trans panics
  · next again =>
    cases turned.symm.trans again
    rfl
  · next again =>
    cases turned.symm.trans again
    rfl
  · next again =>
    cases turned.symm.trans again
    rfl

/-- Where the numbers fit into words, the loop does in words what it does on numbers. -/
theorem Words.findOwnerRootLoop_eq (fits : 2 ^ level ≤ total) (held : total ≤ width.max) :
    Words.findOwnerRootLoop width index total level (2 ^ level) = Shrubs.findOwnerRootLoop index total level (2 ^ level) := by
  -- The loop ends since the block size doubles; what it is short of the total shrinks.
  induction rounds : total - 2 ^ level using Nat.strongRecOn generalizing level with
  | ind rounds ih =>
    have size := Nat.two_pow_pos level
    have reached : 0 < total / 2 ^ level := Nat.div_pos fits size
    have turned := @Words.turn_eq width index total level fits held
    rw [Shrubs.findOwnerRootLoop, if_neg (by omega), if_pos fits]
    simp only [Shrubs.rootBlock_eq reached, Nat.add_sub_cancel, ← lastLeftRoot_covers_iff]
    rw [if_neg (Nat.ne_of_gt reached)]
    by_cases here : (lastLeftRoot total level).Covers index
    · rw [if_pos here] at turned
      rw [if_pos here]
      exact Words.findOwnerRootLoop_turn fits turned
    by_cases last : total / 2 < 2 ^ level
    · rw [if_neg here, if_pos last] at turned
      rw [if_neg here, if_pos last]
      exact Words.findOwnerRootLoop_turn fits turned
    · rw [if_neg here, if_neg last] at turned
      rw [if_neg here, if_neg last, ← Nat.pow_succ]
      have double : 2 ^ (level + 1) = 2 ^ level * 2 := Nat.pow_succ 2 level
      calc
        Words.findOwnerRootLoop width index total level (2 ^ level) =
            Words.findOwnerRootLoop width index total (level + 1) (2 ^ (level + 1)) :=
          Words.findOwnerRootLoop_turn fits turned
        _ = Shrubs.findOwnerRootLoop index total (level + 1) (2 ^ (level + 1)) :=
          ih _ (by omega) (by omega) rfl

/-- The search in words is the search on numbers, for every total that is a word. -/
theorem Words.findOwnerRoot_eq (held : total ≤ width.max) :
    Words.findOwnerRoot width index total = Shrubs.findOwnerRoot index total := by
  rw [Words.findOwnerRoot, Shrubs.findOwnerRoot]
  by_cases inside : 1 ≤ index ∧ index ≤ total
  · have fits : 2 ^ 0 ≤ total := Nat.le_trans inside.1 inside.2
    rw [if_pos inside, if_pos inside]
    exact Words.findOwnerRootLoop_eq fits held
  · rw [if_neg inside, if_neg inside]

end Rounds

section Lowest
variable {width : Width} {index total : Nat}

theorem ownerRoot_eq {p l : Nat} (owner : Owner total p l) : ownerRoot p l = lastLeftRoot total l := by
  rw [ownerRoot, lastLeftRoot, owner.covers]

/-- For every index up to the total the search returns a root, without a panic. It is the
last left block of the lowest level whose last left block covers the index. -/
theorem findOwnerRoot_lowest (positive : 1 ≤ index) (inside : index ≤ total) (held : total ≤ width.max) :
    ∃ root, Words.findOwnerRoot width index total = some root ∧ LastLeft total root ∧ root.Covers index ∧
      ∀ other, LastLeft total other → other.Covers index → root.level ≤ other.level := by
  obtain ⟨p, rfl⟩ : ∃ p, index = p + 1 := ⟨index - 1, by omega⟩
  obtain ⟨l, owner⟩ := Owner.exists (n := total) (p := p) inside
  refine ⟨lastLeftRoot total l, ?_, lastLeftRoot_lastLeft owner.reached, lastLeftRoot_covers.mpr owner.covers, ?_⟩
  · rw [Words.findOwnerRoot_eq held, findOwnerRoot_owner owner inside, ownerRoot_eq owner]
  · intro other last covers
    obtain ⟨_, same⟩ := lastLeft_iff.mp last
    rw [same, lastLeftRoot_covers] at covers
    by_contra below
    exact owner.lowest other.level (by simpa [lastLeftRoot] using below) covers

/-- The largest total doubles the block size to the last word that can be doubled. -/
theorem findOwnerRoot_lowest_full :
    ∃ root, Words.findOwnerRoot .sixtyFour 1 (2 ^ 64 - 1) = some root ∧ LastLeft (2 ^ 64 - 1) root ∧ root.Covers 1 ∧
      ∀ other, LastLeft (2 ^ 64 - 1) other → other.Covers 1 → root.level ≤ other.level :=
  findOwnerRoot_lowest (by decide) (by decide) (by decide)

end Lowest

end UnifiedAttestation.Shrubs
