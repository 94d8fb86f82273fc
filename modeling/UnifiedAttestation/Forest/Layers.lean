import Mathlib.Algebra.Group.Nat.Defs
import Mathlib.Data.List.Basic
import Mathlib.Data.List.Nodup
import Mathlib.Logic.Function.Basic

/-! Layers of perfect binary hash trees over a list of leaves.

Layer zero is the list of leaves and each further layer pairs up adjacent
entries; an unpaired last entry is dropped. An entry of layer `k` is the root of
the perfect tree over one aligned block of `2 ^ k` leaves.
-/

set_option autoImplicit false

namespace Forest

variable {α : Type} (hash : α → α → α)

/-- Hash adjacent pairs; an unpaired last element is dropped. -/
def pairUp : List α → List α
  | a :: b :: rest => hash a b :: pairUp rest
  | [_] => []
  | [] => []

@[simp] theorem pairUp_length (xs : List α) : (pairUp hash xs).length = xs.length / 2 := by
  induction xs using pairUp.induct with
  | case1 a b rest ih => simp only [pairUp, List.length_cons, ih]; omega
  | case2 a => simp [pairUp]
  | case3 => simp [pairUp]

/-- Induction up the layers: from the pairs of a list to the list. -/
theorem pairUp_induction {motive : List α → Prop} (nil : motive [])
    (pairs : ∀ xs, xs ≠ [] → motive (pairUp hash xs) → motive xs) (xs : List α) : motive xs := by
  induction count : xs.length using Nat.strongRecOn generalizing xs with
  | ind n ih =>
    by_cases empty : xs = []
    · exact empty ▸ nil
    · have positive := List.length_pos_of_ne_nil empty
      exact pairs xs empty (ih _ (by rw [pairUp_length]; omega) _ rfl)

theorem pairUp_getElem? (xs : List α) (i : Nat) :
    (pairUp hash xs)[i]? = xs[2 * i]?.bind fun a => xs[2 * i + 1]?.map (hash a) := by
  induction xs using pairUp.induct generalizing i with
  | case1 a b rest ih =>
    cases i with
    | zero => simp [pairUp]
    | succ i =>
      have left : 2 * (i + 1) = 2 * i + 1 + 1 := by omega
      simp only [pairUp, List.getElem?_cons_succ, ih i, left]
  | case2 a => cases i <;> simp [pairUp, Nat.mul_add]
  | case3 => simp [pairUp]

theorem pairUp_drop (xs : List α) (n : Nat) :
    pairUp hash (xs.drop (2 * n)) = (pairUp hash xs).drop n := by
  apply List.ext_getElem?
  intro i
  simp only [pairUp_getElem?, List.getElem?_drop]
  rw [show 2 * n + 2 * i = 2 * (n + i) by omega, show 2 * n + (2 * i + 1) = 2 * (n + i) + 1 by omega]

/-- Appending leaves keeps every pair that was already complete. -/
theorem pairUp_grows {xs ys : List α} (grows : xs <+: ys) : pairUp hash xs <+: pairUp hash ys := by
  obtain ⟨more, rfl⟩ := grows
  induction xs using pairUp.induct with
  | case1 a b rest ih => simpa only [List.cons_append, pairUp, List.prefix_cons_inj] using ih
  | case2 a => simp [pairUp]
  | case3 => simp [pairUp]

/-- An injective hash lets the complete pairs of a list be read back. -/
theorem pairUp_injective (injective : Function.Injective2 hash) {xs ys : List α}
    (same : pairUp hash xs = pairUp hash ys) :
    xs.take (2 * (xs.length / 2)) = ys.take (2 * (ys.length / 2)) := by
  induction xs using pairUp.induct generalizing ys with
  | case1 a b rest ih =>
    match ys, same with
    | c :: d :: tail, same =>
      simp only [pairUp, List.cons.injEq] at same
      obtain ⟨rfl, rfl⟩ := injective same.1
      have rests := ih same.2
      rw [show 2 * ((a :: b :: rest).length / 2) = 2 * (rest.length / 2) + 2 by
          simp only [List.length_cons]; omega,
        show 2 * ((a :: b :: tail).length / 2) = 2 * (tail.length / 2) + 2 by
          simp only [List.length_cons]; omega]
      simp only [List.take_succ_cons, rests]
  | case2 a =>
    match ys, same with
    | [], _ => simp
    | [_], _ => simp
  | case3 =>
    match ys, same with
    | [], _ => simp
    | [_], _ => simp

theorem pairUp_nodup (injective : Function.Injective2 hash) {xs : List α} (distinct : xs.Nodup) :
    (pairUp hash xs).Nodup := by
  rw [List.nodup_iff_getElem?_ne_getElem?]
  intro i j less bound same
  simp only [pairUp_length] at bound
  simp only [pairUp_getElem?] at same
  have b0 : 2 * i < xs.length := by omega
  have b1 : 2 * i + 1 < xs.length := by omega
  have b2 : 2 * j < xs.length := by omega
  have b3 : 2 * j + 1 < xs.length := by omega
  simp only [List.getElem?_eq_getElem b0, List.getElem?_eq_getElem b1,
    List.getElem?_eq_getElem b2, List.getElem?_eq_getElem b3, Option.bind_some, Option.map_some,
    Option.some.injEq] at same
  have positions := distinct.getElem_inj_iff.mp (injective same).1
  omega

/-- Layer `k` of the forest over the leaves. -/
def layer : Nat → List α → List α
  | 0, xs => xs
  | k + 1, xs => layer k (pairUp hash xs)

@[simp] theorem layer_zero (xs : List α) : layer hash 0 xs = xs := rfl

theorem layer_succ (k : Nat) (xs : List α) : layer hash (k + 1) xs = pairUp hash (layer hash k xs) := by
  induction k generalizing xs with
  | zero => rfl
  | succ k ih => exact ih (pairUp hash xs)

theorem layer_add (k l : Nat) (xs : List α) :
    layer hash (k + l) xs = layer hash l (layer hash k xs) := by
  induction k generalizing xs with
  | zero => rw [Nat.zero_add]; rfl
  | succ k ih => rw [Nat.add_right_comm]; exact ih (pairUp hash xs)

@[simp] theorem layer_length (k : Nat) (xs : List α) : (layer hash k xs).length = xs.length / 2 ^ k := by
  induction k generalizing xs with
  | zero => simp
  | succ k ih =>
    rw [layer, ih, pairUp_length, Nat.div_div_eq_div_mul, Nat.pow_succ, Nat.mul_comm 2]

theorem layer_drop (k n : Nat) (xs : List α) :
    layer hash k (xs.drop (2 ^ k * n)) = (layer hash k xs).drop n := by
  induction k generalizing xs with
  | zero => simp
  | succ k ih =>
    rw [layer, Nat.pow_succ, Nat.mul_comm (2 ^ k) 2, Nat.mul_assoc, pairUp_drop, ih]
    rfl

theorem layer_grows (k : Nat) {xs ys : List α} (grows : xs <+: ys) :
    layer hash k xs <+: layer hash k ys := by
  induction k generalizing xs ys with
  | zero => exact grows
  | succ k ih => exact ih (pairUp_grows hash grows)

theorem layer_getElem?_of_grows (k : Nat) {xs ys : List α} (grows : xs <+: ys) {i : Nat}
    (complete : i < xs.length / 2 ^ k) : (layer hash k ys)[i]? = (layer hash k xs)[i]? := by
  obtain ⟨more, split⟩ := layer_grows hash k grows
  rw [← split, List.getElem?_append_left (by rwa [layer_length])]

theorem layer_nodup (injective : Function.Injective2 hash) (k : Nat) {xs : List α}
    (distinct : xs.Nodup) : (layer hash k xs).Nodup := by
  induction k generalizing xs with
  | zero => exact distinct
  | succ k ih => exact ih (pairUp_nodup hash injective distinct)

/-- The value is an entry of some layer above the leaves. -/
def Inner (xs : List α) (value : α) : Prop :=
  ∃ k, 0 < k ∧ value ∈ layer hash k xs

theorem Inner.of_getElem? {xs : List α} {value : α} {k i : Nat} (above : 0 < k)
    (entry : (layer hash k xs)[i]? = some value) : Inner hash xs value :=
  ⟨k, above, List.mem_of_getElem? entry⟩

theorem Inner.of_grows {xs ys : List α} (grows : xs <+: ys) {value : α} (inner : Inner hash xs value) :
    Inner hash ys value := by
  obtain ⟨k, above, member⟩ := inner
  exact ⟨k, above, (layer_grows hash k grows).subset member⟩

/-- Layers as high as the number of leaves are empty. -/
theorem inner_iff_bounded {xs : List α} {value : α} :
    Inner hash xs value ↔ ∃ k < xs.length, 0 < k ∧ value ∈ layer hash k xs := by
  constructor
  · rintro ⟨k, above, member⟩
    refine ⟨k, ?_, above, member⟩
    by_contra high
    have empty : (layer hash k xs).length = 0 := by
      rw [layer_length]
      exact Nat.div_eq_of_lt (Nat.lt_of_le_of_lt (Nat.le_of_not_lt high) Nat.lt_two_pow_self)
    simp [List.length_eq_zero_iff.mp empty] at member
  · rintro ⟨k, -, above, member⟩
    exact ⟨k, above, member⟩

instance [DecidableEq α] (xs : List α) (value : α) : Decidable (Inner hash xs value) :=
  decidable_of_iff _ (inner_iff_bounded hash).symm

end Forest
