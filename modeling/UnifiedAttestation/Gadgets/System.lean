import Mathlib.Data.Fintype.Pi
import Mathlib.Data.List.OfFn
import Mathlib.Data.List.Range
import Mathlib.Logic.Equiv.List
import Mathlib.Tactic.DeriveEncodable

/-! Constraint systems with a two-to-one hash gadget.

Synthesis allocates instance and witness variables with their values and collects
constraints over them. The shape of a system is what remains without the values;
a setup sees the shape only.
-/

set_option autoImplicit false

namespace Gadgets

/-- An allocated variable, or the output of a hash gadget. -/
inductive Var where
  | input (index : Nat)
  | witness (index : Nat)
  | hashed (left right : Var)
  deriving DecidableEq, Repr

inductive Constraint where
  | equal (left right : Var)
  /-- The variable equals one of the choices. -/
  | oneOf (var : Var) (choices : List Var)
  deriving DecidableEq, Repr

structure Shape where
  inputs : Nat
  witnesses : Nat
  constraints : List Constraint
  deriving DecidableEq, Repr

deriving instance Encodable for Var, Constraint, Shape

structure System (α : Type) where
  inputs : List α
  witnesses : List α
  constraints : List Constraint

/-- The errors of a synthesis, and a panic inside it. -/
inductive Failure where
  | unsatisfiable
  | assignmentMissing
  | panic
  deriving DecidableEq, Repr

section Semantics
variable {α : Type} (hash : α → α → α)

def Var.value (inputs witnesses : List α) : Var → Option α
  | .input index => inputs[index]?
  | .witness index => witnesses[index]?
  | .hashed left right => do
    let l ← left.value inputs witnesses
    let r ← right.value inputs witnesses
    some (hash l r)

def Constraint.Holds (inputs witnesses : List α) : Constraint → Prop
  | .equal left right => ∃ value ∈ left.value hash inputs witnesses,
      right.value hash inputs witnesses = some value
  | .oneOf var choices => ∃ value ∈ var.value hash inputs witnesses,
      ∃ choice ∈ choices, choice.value hash inputs witnesses = some value

theorem getElem?_middle (before values after : List α) {i : Nat} (inside : i < values.length) :
    (before ++ values ++ after)[before.length + i]? = some values[i] := by
  rw [List.append_assoc, List.getElem?_append_right (Nat.le_add_right _ _), Nat.add_sub_cancel_left,
    List.getElem?_append_left inside, List.getElem?_eq_getElem inside]

/-- Variables allocated in a row have the values they were allocated with. -/
theorem value_inputs (before values after witnesses : List α) :
    ((List.range' before.length values.length).map Var.input).map
      (Var.value hash (before ++ values ++ after) witnesses) = values.map some := by
  apply List.ext_getElem
  · simp
  · intro i left right
    simpa [Var.value] using getElem?_middle before values after (i := i) (by simpa using right)

theorem value_witnesses (inputs before values after : List α) :
    ((List.range' before.length values.length).map Var.witness).map
      (Var.value hash inputs (before ++ values ++ after)) = values.map some := by
  apply List.ext_getElem
  · simp
  · intro i left right
    simpa [Var.value] using getElem?_middle before values after (i := i) (by simpa using right)

/-- A choice with the value exists exactly when it is one of the choices' values. -/
theorem oneOf_holds_iff {inputs witnesses : List α} {var : Var} {choices : List Var} {value : α} {values : List α}
    (known : var.value hash inputs witnesses = some value)
    (choose : choices.map (Var.value hash inputs witnesses) = values.map some) :
    (Constraint.oneOf var choices).Holds hash inputs witnesses ↔ value ∈ values := by
  have member : some value ∈ choices.map (Var.value hash inputs witnesses) ↔ value ∈ values := by
    rw [choose]
    simp
  rw [← member, List.mem_map]
  simp [Constraint.Holds, known]

theorem equal_holds_iff {inputs witnesses : List α} {left right : Var} {value : α}
    (known : left.value hash inputs witnesses = some value) :
    (Constraint.equal left right).Holds hash inputs witnesses ↔
      right.value hash inputs witnesses = some value := by
  simp [Constraint.Holds, known]

/-- The assignment has the shape's variable counts and meets every constraint. -/
structure Shape.Satisfied (shape : Shape) (inputs witnesses : List α) : Prop where
  inputCount : inputs.length = shape.inputs
  witnessCount : witnesses.length = shape.witnesses
  met : ∀ constraint ∈ shape.constraints, constraint.Holds hash inputs witnesses

/-- The inputs belong to the relation the shape stands for. -/
def Shape.Satisfiable (shape : Shape) (inputs : List α) : Prop :=
  ∃ witnesses, shape.Satisfied hash inputs witnesses

instance [DecidableEq α] (inputs witnesses : List α) (constraint : Constraint) :
    Decidable (constraint.Holds hash inputs witnesses) :=
  match constraint with
  | .equal left right => inferInstanceAs (Decidable (∃ value ∈ left.value hash inputs witnesses,
      right.value hash inputs witnesses = some value))
  | .oneOf var choices => inferInstanceAs (Decidable (∃ value ∈ var.value hash inputs witnesses,
      ∃ choice ∈ choices, choice.value hash inputs witnesses = some value))

instance [DecidableEq α] (shape : Shape) (inputs witnesses : List α) :
    Decidable (shape.Satisfied hash inputs witnesses) :=
  decidable_of_iff (inputs.length = shape.inputs ∧ witnesses.length = shape.witnesses ∧
      ∀ constraint ∈ shape.constraints, constraint.Holds hash inputs witnesses)
    ⟨fun ⟨i, w, c⟩ => ⟨i, w, c⟩, fun ⟨i, w, c⟩ => ⟨i, w, c⟩⟩

/-- Over a finite field the witnesses can be tried out. -/
instance [Fintype α] [DecidableEq α] (shape : Shape) (inputs : List α) :
    Decidable (shape.Satisfiable hash inputs) :=
  decidable_of_iff (∃ w : Fin shape.witnesses → α, shape.Satisfied hash inputs (List.ofFn w))
    ⟨fun ⟨w, satisfied⟩ => ⟨_, satisfied⟩, fun ⟨witnesses, satisfied⟩ => by
      obtain ⟨inputs, witnessCount, constraints⟩ := shape
      obtain rfl := satisfied.witnessCount
      exact ⟨witnesses.get, by rwa [List.ofFn_get]⟩⟩

def System.shape (system : System α) : Shape :=
  ⟨system.inputs.length, system.witnesses.length, system.constraints⟩

/-- The values the system was synthesised with meet its constraints. -/
def System.Satisfied (system : System α) : Prop :=
  system.shape.Satisfied hash system.inputs system.witnesses

instance [DecidableEq α] (system : System α) : Decidable (system.Satisfied hash) :=
  inferInstanceAs (Decidable (system.shape.Satisfied hash system.inputs system.witnesses))

theorem System.satisfied_iff (system : System α) :
    system.Satisfied hash ↔
      ∀ constraint ∈ system.constraints, constraint.Holds hash system.inputs system.witnesses :=
  ⟨fun satisfied => satisfied.met, fun met => ⟨rfl, rfl, met⟩⟩

end Semantics

section Synthesis
variable {α : Type}

abbrev Synthesis (α β : Type) := StateT (System α) (Except Failure) β

def System.empty (α : Type) : System α := ⟨[], [], []⟩

def newInput (value : α) : Synthesis α Var := fun system =>
  .ok (.input system.inputs.length, { system with inputs := system.inputs ++ [value] })

def newWitness (value : α) : Synthesis α Var := fun system =>
  .ok (.witness system.witnesses.length, { system with witnesses := system.witnesses ++ [value] })

def enforce (constraint : Constraint) : Synthesis α Unit := fun system =>
  .ok ((), { system with constraints := system.constraints ++ [constraint] })

def fail {β : Type} (failure : Failure) : Synthesis α β := fun _ => .error failure

/-- Disjoin the equalities with the choices and enforce the result; over no choice
the disjunction is a constant and there is nothing to enforce it on. -/
def enforceOneOf (var : Var) : List Var → Synthesis α Unit
  | [] => fail .assignmentMissing
  | choices => enforce (.oneOf var choices)

/-- Allocating one value after the other numbers the variables in order, wherever the values are kept. -/
theorem mapM_allocate {allocate : α → Synthesis α Var} (count : System α → Nat) (keep : System α → List α → System α)
    (var : Nat → Var) (allocates : ∀ value system, allocate value system = .ok (var (count system), keep system [value]))
    (none : ∀ system, keep system [] = system)
    (more : ∀ system value values, keep (keep system [value]) values = keep system (value :: values))
    (counts : ∀ system value, count (keep system [value]) = count system + 1) (values : List α) (system : System α) :
    values.mapM allocate system = .ok ((List.range' (count system) values.length).map var, keep system values) := by
  induction values generalizing system with
  | nil =>
    rw [none]
    rfl
  | cons value values ih =>
    rw [List.mapM_cons]
    change (allocate value system).bind _ = _
    rw [allocates]
    change (values.mapM allocate (keep system [value])).bind _ = _
    rw [ih, counts, more]
    rfl

theorem mapM_newInput (values : List α) (system : System α) :
    values.mapM newInput system =
      .ok ((List.range' system.inputs.length values.length).map .input,
        { system with inputs := system.inputs ++ values }) :=
  mapM_allocate (fun system => system.inputs.length) (fun system values => { system with inputs := system.inputs ++ values })
    .input (fun _ _ => rfl) (fun _ => by rw [List.append_nil]) (fun _ _ _ => by rw [List.append_assoc, List.singleton_append])
    (fun _ _ => List.length_append) values system

theorem mapM_newWitness (values : List α) (system : System α) :
    values.mapM newWitness system =
      .ok ((List.range' system.witnesses.length values.length).map .witness,
        { system with witnesses := system.witnesses ++ values }) :=
  mapM_allocate (fun system => system.witnesses.length) (fun system values => { system with witnesses := system.witnesses ++ values })
    .witness (fun _ _ => rfl) (fun _ => by rw [List.append_nil]) (fun _ _ _ => by rw [List.append_assoc, List.singleton_append])
    (fun _ _ => List.length_append) values system

end Synthesis

end Gadgets
