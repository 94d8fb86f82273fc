import UnifiedAttestation.Shrubs.Membership
import UnifiedAttestation.Toolkit.Messages
import UnifiedAttestation.Toolkit.Reference

/-! The attestation circuit: its synthesis, and the statement it proves.

The public inputs are allocated as public key, roots, authorized information, time
and period; the secret key, the measurement and the path are witnesses. The tags
are constants, so they are part of the shape.
-/

set_option autoImplicit false

namespace UnifiedAttestation.Attester

open Wire (Bytes Outcome)
open Gadgets (Var Constraint System Synthesis Failure newInput newWitness enforce enforceOneOf fail)
open Forest (climb Inner)
open Shrubs (createBatchDevices MembershipCheck)
open Toolkit

section Membership
variable {α : Type}

/-- The membership half: some root over the opened leaf, or without an opening the
leaf is the bottom root. -/
def membershipConstraint (path : Option (List α)) (tag : Option (List Bool)) (leaf : Var) (root : List Var) :
    Synthesis α Unit :=
  match path with
  | some pathValues =>
    match tag with
    | some tagValues =>
      if pathValues.length = tagValues.length then do
        let path ← pathValues.mapM newWitness
        enforceOneOf (climb Var.hashed leaf path tagValues) root
      else fail .unsatisfiable
    | none => fail .unsatisfiable
  | none =>
    match tag with
    | some _ => fail .unsatisfiable
    | none =>
      match root[0]? with
      | some bottom => enforce (.equal leaf bottom)
      | none => fail .panic

/-- Path and tags come together and have one length. -/
def Paired (path : Option (List α)) (tag : Option (List Bool)) : Prop :=
  path.map List.length = tag.map List.length

instance (path : Option (List α)) (tag : Option (List Bool)) : Decidable (Paired path tag) :=
  inferInstanceAs (Decidable (_ = _))

def leafVar : Var := .hashed (.hashed (.witness 1) (.witness 0)) (.input 0)

def rootVars (count : Nat) : List Var := (List.range' 1 count).map .input

def pathVars (count : Nat) : List Var := (List.range' 2 count).map .witness

/-- The constraint that the membership half adds. -/
def membership (count : Nat) (path : Option (List α)) (tag : Option (List Bool)) : Constraint :=
  match path with
  | some path => .oneOf (climb Var.hashed leafVar (pathVars path.length) (tag.getD [])) (rootVars count)
  | none => .equal leafVar (.input 1)

theorem rootVars_succ (count : Nat) :
    rootVars (count + 1) = .input 1 :: (List.range' 2 count).map .input := by
  rw [rootVars, List.range'_succ, List.map_cons]

/-- The membership constraint is added to the system, or the synthesis fails. -/
theorem membershipConstraint_run {path : Option (List α)} {tag : Option (List Bool)} (count : Nat)
    {system : System α} (start : system.witnesses.length = 2) :
    membershipConstraint path tag leafVar (rootVars (count + 1)) system =
      if Paired path tag then
        .ok ((), { system with
          witnesses := system.witnesses ++ path.getD []
          constraints := system.constraints ++ [membership (count + 1) path tag] })
      else .error .unsatisfiable := by
  cases path with
  | some path =>
    cases tag with
    | some tag =>
      by_cases same : path.length = tag.length
      · have paired : Paired (some path) (some tag) := congrArg some same
        rw [if_pos paired, membershipConstraint, if_pos same]
        change ((path.mapM newWitness) system).bind _ = _
        rw [Gadgets.mapM_newWitness, start, rootVars_succ]
        simp only [membership, rootVars_succ, pathVars, Option.getD_some]
        rfl
      · have unpaired : ¬ Paired (some path) (some tag) := fun paired => same (Option.some.inj paired)
        rw [if_neg unpaired, membershipConstraint, if_neg same]
        rfl
    | none => rfl
  | none =>
    cases tag with
    | some tag => rfl
    | none =>
      have paired : Paired (none : Option (List α)) none := rfl
      rw [rootVars_succ, if_pos paired, Option.getD_none, List.append_nil]
      rfl

end Membership

section Circuit
variable {S : Suite}

variable (S) in
structure AttestationCircuit where
  pk : S.Scalar
  sk : S.Scalar
  ar : S.Scalar
  time : S.Scalar
  period : S.Scalar
  output : S.Scalar
  root : List S.Scalar
  path : Option (List S.Scalar)
  tag : Option (List Bool)

def generateConstraints (c : AttestationCircuit S) : Synthesis S.Scalar Unit := do
  let sk ← newWitness c.sk
  let ar ← newWitness c.ar
  let pk ← newInput c.pk
  let root ← c.root.mapM newInput
  let output ← newInput c.output
  let time ← newInput c.time
  let period ← newInput c.period
  let m := Var.hashed ar sk
  let leaf := Var.hashed m pk
  membershipConstraint c.path c.tag leaf root
  let result1 := Var.hashed pk ar
  let result2 := Var.hashed result1 time
  let result := Var.hashed result2 period
  enforce (.equal output result)

/-- The system of the circuit, synthesised from scratch. -/
def synthesize (c : AttestationCircuit S) : Except Failure (System S.Scalar) :=
  (generateConstraints c (System.empty _)).map Prod.snd

/-- The leaf the circuit recomputes. -/
def AttestationCircuit.leaf (c : AttestationCircuit S) : S.Scalar := S.hash (S.hash c.ar c.sk) c.pk

def AttestationCircuit.publicInputs (c : AttestationCircuit S) : List S.Scalar :=
  [c.pk] ++ c.root ++ [c.output] ++ [c.time] ++ [c.period]

def AttestationCircuit.secrets (c : AttestationCircuit S) : List S.Scalar := [c.sk, c.ar] ++ c.path.getD []

/-- The output variable carries the authorized information. -/
def commitment (count : Nat) : Constraint :=
  .equal (.input (1 + count)) (.hashed (.hashed (.hashed (.input 0) (.witness 1))
    (.input (1 + count + 1))) (.input (1 + count + 2)))

/-- The circuit synthesises exactly when path and tags are paired. -/
theorem synthesize_eq {c : AttestationCircuit S} (rooted : c.root ≠ []) :
    synthesize c =
      if Paired c.path c.tag then
        .ok ⟨c.publicInputs, c.secrets, [membership c.root.length c.path c.tag, commitment c.root.length]⟩
      else .error .unsatisfiable := by
  have roots := Gadgets.mapM_newInput c.root ⟨[c.pk], [c.sk, c.ar], []⟩
  have run : generateConstraints c (System.empty _) =
      ((c.root.mapM newInput) ⟨[c.pk], [c.sk, c.ar], []⟩).bind fun rooted =>
        (membershipConstraint c.path c.tag leafVar rooted.1
          { rooted.2 with inputs := rooted.2.inputs ++ [c.output] ++ [c.time] ++ [c.period] }).bind fun checked =>
          enforce (.equal (.input rooted.2.inputs.length) (.hashed (.hashed (.hashed (.input 0) (.witness 1))
            (.input (rooted.2.inputs ++ [c.output]).length))
            (.input (rooted.2.inputs ++ [c.output] ++ [c.time]).length))) checked.2 := rfl
  obtain ⟨count, length⟩ : ∃ count, c.root.length = count + 1 :=
    ⟨c.root.length - 1, by have := List.length_pos_of_ne_nil rooted; omega⟩
  have vars : (List.range' [c.pk].length c.root.length).map Var.input = rootVars (count + 1) := by
    rw [length]
    rfl
  rw [synthesize, run, roots]
  simp only [Except.bind, vars]
  rw [membershipConstraint_run count rfl]
  by_cases paired : Paired c.path c.tag
  · simp only [if_pos paired, enforce, length, Except.map, List.length_append, commitment]
    rfl
  · simp only [if_neg paired]
    rfl

end Circuit

section Statement
variable {S : Suite} {c : AttestationCircuit S}

/-- Climbing over variables climbs over their values. -/
theorem value_climb {α : Type} {hash : α → α → α} {inputs witnesses : List α} {path : List Var} {values : List α}
    {tags : List Bool} {var : Var} {value : α} (known : var.value hash inputs witnesses = some value)
    (same : path.map (Var.value hash inputs witnesses) = values.map some) :
    (climb Var.hashed var path tags).value hash inputs witnesses = some (climb hash value values tags) := by
  induction path generalizing values tags var value with
  | nil =>
    cases values with
    | nil => cases tags <;> simpa [climb] using known
    | cons _ _ => simp at same
  | cons sibling path ih =>
    cases values with
    | nil => simp at same
    | cons first values =>
      simp only [List.map_cons, List.cons.injEq] at same
      cases tags with
      | nil => simpa [climb] using known
      | cons tag tags =>
        cases tag with
        | true => exact ih (by simp [Var.value, known, same.1]) same.2
        | false => exact ih (by simp [Var.value, known, same.1]) same.2

theorem value_leafVar : leafVar.value S.hash c.publicInputs c.secrets = some c.leaf := by
  simp [leafVar, Var.value, AttestationCircuit.publicInputs, AttestationCircuit.secrets, AttestationCircuit.leaf]

theorem value_rootVars :
    (rootVars c.root.length).map (Var.value S.hash c.publicInputs c.secrets) = c.root.map some := by
  have split : c.publicInputs = [c.pk] ++ c.root ++ [c.output, c.time, c.period] := by
    simp [AttestationCircuit.publicInputs]
  rw [split]
  exact Gadgets.value_inputs S.hash [c.pk] c.root [c.output, c.time, c.period] c.secrets

theorem membership_holds_iff (rooted : c.root ≠ []) (paired : Paired c.path c.tag) :
    (membership c.root.length c.path c.tag).Holds S.hash c.publicInputs c.secrets ↔
      MembershipCheck S.hash c.root c.leaf (c.path, c.tag) := by
  cases opened : c.path with
  | some path =>
    cases tagged : c.tag with
    | none => rw [opened, tagged] at paired; cases paired
    | some tag =>
      rw [opened, tagged] at paired
      have secrets : c.secrets = [c.sk, c.ar] ++ path ++ [] := by
        rw [AttestationCircuit.secrets, opened, Option.getD_some, List.append_nil]
      have values : (pathVars path.length).map (Var.value S.hash c.publicInputs c.secrets) = path.map some := by
        rw [secrets]
        exact Gadgets.value_witnesses S.hash c.publicInputs [c.sk, c.ar] path []
      rw [membership, Option.getD_some,
        Gadgets.oneOf_holds_iff S.hash (value_climb value_leafVar values) value_rootVars]
      exact (and_iff_right (Option.some.inj paired)).symm
  | none =>
    cases tagged : c.tag with
    | some tag => rw [opened, tagged] at paired; cases paired
    | none =>
      rw [membership, Gadgets.equal_holds_iff S.hash value_leafVar, MembershipCheck]
      have bottom : (Var.input 1).value S.hash c.publicInputs c.secrets = c.root[0]? := by
        cases roots : c.root with
        | nil => exact absurd roots rooted
        | cons first rest => simp [Var.value, AttestationCircuit.publicInputs, roots]
      rw [bottom]

theorem commitment_holds_iff :
    (commitment c.root.length).Holds S.hash c.publicInputs c.secrets ↔
      S.hash (S.hash (S.hash c.pk c.ar) c.time) c.period = c.output := by
  have output : (Var.input (1 + c.root.length)).value S.hash c.publicInputs c.secrets = some c.output := by
    simp [Var.value, AttestationCircuit.publicInputs, Nat.add_comm 1]
  rw [commitment, Gadgets.equal_holds_iff S.hash output]
  simp [Var.value, AttestationCircuit.publicInputs, AttestationCircuit.secrets, Nat.add_comm 1]

theorem membershipCheck_paired {α : Type} {hash : α → α → α} {root : List α} {leaf : α}
    {path : Option (List α)} {tag : Option (List Bool)} (checks : MembershipCheck hash root leaf (path, tag)) :
    Paired path tag := by
  cases path with
  | some path =>
    cases tag with
    | some tag => exact congrArg some checks.1
    | none => exact checks.elim
  | none =>
    cases tag with
    | some tag => exact checks.elim
    | none => rfl

/-- The synthesised system is satisfied exactly when the opening checks against the
roots and the output is the authorized information. -/
theorem synthesize_satisfied_iff (rooted : c.root ≠ []) :
    (∃ system, synthesize c = .ok system ∧ system.Satisfied S.hash) ↔
      MembershipCheck S.hash c.root c.leaf (c.path, c.tag) ∧
        S.hash (S.hash (S.hash c.pk c.ar) c.time) c.period = c.output := by
  rw [synthesize_eq rooted]
  by_cases paired : Paired c.path c.tag
  · rw [if_pos paired, ← membership_holds_iff rooted paired, ← commitment_holds_iff]
    simp [System.satisfied_iff]
  · rw [if_neg paired]
    constructor
    · rintro ⟨_, fails, _⟩
      cases fails
    · rintro ⟨checks, _⟩
      exact absurd (membershipCheck_paired checks) paired

variable (c) in
/-- The first constraint of the synthesised system, the one on membership, is met. -/
def AttestationCircuit.MembershipHolds : Prop :=
  ∃ system, synthesize c = .ok system ∧
    ∃ constraint ∈ system.constraints.head?, constraint.Holds S.hash system.inputs system.witnesses

theorem membershipHolds_iff (rooted : c.root ≠ []) :
    c.MembershipHolds ↔ MembershipCheck S.hash c.root c.leaf (c.path, c.tag) := by
  rw [AttestationCircuit.MembershipHolds, synthesize_eq rooted]
  by_cases paired : Paired c.path c.tag
  · rw [if_pos paired, ← membership_holds_iff rooted paired]
    simp
  · rw [if_neg paired]
    constructor
    · rintro ⟨_, fails, _⟩
      cases fails
    · intro checks
      exact absurd (membershipCheck_paired checks) paired

end Statement

section Soundness
variable {S : Suite} {leaves : List S.Scalar}

/-- The membership constraints prove a leaf of the tree exactly when the recomputed
value is one, or is no inner node and lies below no leaf. -/
theorem membershipHolds_sound_iff (injective : Function.Injective2 S.hash) (occupied : leaves ≠ [])
    (c : AttestationCircuit S) :
    (∀ path tag, ({ c with root := createBatchDevices S.hash [] leaves, path, tag } :
        AttestationCircuit S).MembershipHolds → S.hash (S.hash c.ar c.sk) c.pk ∈ leaves) ↔
      S.hash (S.hash c.ar c.sk) c.pk ∈ leaves ∨
        (¬ Inner S.hash leaves (S.hash (S.hash c.ar c.sk) c.pk) ∧
          ∀ path tag, path ≠ [] → path.length = tag.length →
            climb S.hash (S.hash (S.hash c.ar c.sk) c.pk) path tag ∉ leaves) := by
  have commits := Shrubs.createBatchDevices_commits S.hash leaves
  have rooted : createBatchDevices S.hash [] leaves ≠ [] := mt (commits.eq_nil_iff S.hash).mp occupied
  rw [← Shrubs.membership_sound_iff injective commits]
  constructor
  · rintro sound ⟨path, tag⟩ checks
    exact sound path tag ((membershipHolds_iff rooted).mpr checks)
  · intro sound path tag holds
    exact sound (path, tag) ((membershipHolds_iff rooted).mp holds)

theorem membershipHolds_sound_iff_registered :
    [Nat.pair (Nat.pair 2 1) 3, 40] ≠ [] ∧
      ∀ path tag, ({ pk := 3, sk := 1, ar := 2, time := 0, period := 0, output := 0, root :=
        createBatchDevices reference.hash [] [Nat.pair (Nat.pair 2 1) 3, 40], path, tag } :
        AttestationCircuit reference).MembershipHolds →
          Nat.pair (Nat.pair 2 1) 3 ∈ [Nat.pair (Nat.pair 2 1) 3, 40] :=
  ⟨List.cons_ne_nil _ _, (@membershipHolds_sound_iff reference [Nat.pair (Nat.pair 2 1) 3, 40] reference_hash_injective
    (List.cons_ne_nil _ _) ⟨3, 1, 2, 0, 0, 0, [], none, none⟩).mpr (Or.inl List.mem_cons_self)⟩

/-- A leaf of somebody else's choice that was built over the value lets it pass. -/
theorem membershipHolds_below_leaf :
    Function.Injective2 reference.hash ∧ ∃ (leaves : List Nat) (c : AttestationCircuit reference), leaves ≠ [] ∧
      c.root = createBatchDevices reference.hash [] leaves ∧ c.MembershipHolds ∧
      Nat.pair (Nat.pair c.ar c.sk) c.pk ∉ leaves :=
  ⟨reference_hash_injective, [Nat.pair (Nat.pair (Nat.pair 2 1) 3) 7],
    ⟨3, 1, 2, 0, 0, 0, [Nat.pair (Nat.pair (Nat.pair 2 1) 3) 7], some [7], some [true]⟩,
    List.cons_ne_nil _ _, (Shrubs.createBatchDevices_single _ _).symm,
    (membershipHolds_iff (List.cons_ne_nil _ _)).mpr ⟨rfl, List.mem_cons_self⟩, by decide⟩

end Soundness

end UnifiedAttestation.Attester
