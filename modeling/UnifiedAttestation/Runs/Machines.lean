import Mathlib.Data.List.Induction
import Mathlib.Logic.Relation

/-! Runs of a machine whose steps are chosen by labels.

The labels stand for the scheduler and the environment. A condition on the state
before a step and its label selects the runs a result is about. A measure that every
permitted step decreases bounds the length of all runs, and a run that goes on for as
long as it can ends in a state without permitted steps.

A chain is the run of a machine that takes in one item after the other. A step that
tells its arguments apart and never gives the start value makes the value of a chain
determine its items. Both are asked only of the steps that are taken.
-/

set_option autoImplicit false

namespace Runs

section Reaching
variable {State Label : Type} (step : State → Label → Option State)

/-- One step with a permitted label. -/
def Step (permits : State → Label → Prop) (s t : State) : Prop :=
  ∃ label, permits s label ∧ step s label = some t

def Reaches (permits : State → Label → Prop) : State → State → Prop :=
  Relation.ReflTransGen (Step step permits)

variable {step} {permits : State → Label → Prop} {start s : State}

theorem Reaches.invariant {I : State → Prop} (reached : Reaches step permits start s) (initially : I start)
    (preserved : ∀ s label t, I s → permits s label → step s label = some t → I t) : I s := by
  induction reached with
  | refl => exact initially
  | tail _ last ih =>
    obtain ⟨label, permitted, stepped⟩ := last
    exact preserved _ label _ ih permitted stepped

/-- An invariant of all permitted runs may be used at each of their steps. -/
theorem Reaches.with_invariant {I : State → Prop} (reached : Reaches step permits start s)
    (initially : I start)
    (preserved : ∀ s label t, I s → permits s label → step s label = some t → I t) :
    Reaches step (fun s label => I s ∧ permits s label) start s := by
  induction reached with
  | refl => exact Relation.ReflTransGen.refl
  | tail before last ih =>
    obtain ⟨label, permitted, stepped⟩ := last
    have here := Reaches.invariant before initially preserved
    exact ih.tail ⟨label, ⟨here, permitted⟩, stepped⟩

theorem Reaches.mono {weaker : State → Label → Prop} (reached : Reaches step permits start s)
    (implies : ∀ s label, permits s label → weaker s label) : Reaches step weaker start s := by
  refine Relation.ReflTransGen.mono ?_ _ _ reached
  rintro s t ⟨label, permitted, stepped⟩
  exact ⟨label, implies s label permitted, stepped⟩

/-- A run along a list of labels, evaluated with tests of its steps and of its end. -/
theorem reaches_of_labels {labels : List Label} {test : State → Label → Bool} {check : State → Bool}
    (sound : ∀ s label, test s label = true → permits s label)
    (passes : (labels.foldlM (fun s label => if test s label then step s label else none) start).any check = true) :
    ∃ s, Reaches step permits start s ∧ check s = true := by
  induction labels generalizing start with
  | nil => exact ⟨start, Relation.ReflTransGen.refl, passes⟩
  | cons label labels ih =>
    rw [List.foldlM_cons] at passes
    by_cases tested : test start label = true
    · rw [if_pos tested] at passes
      cases stepped : step start label with
      | none => simp [stepped] at passes
      | some next =>
        rw [stepped] at passes
        obtain ⟨s, later, checked⟩ := ih passes
        exact ⟨s, Relation.ReflTransGen.head ⟨label, sound _ _ tested, stepped⟩ later, checked⟩
    · rw [if_neg tested] at passes
      cases passes

end Reaching

section Resting
variable {State Label : Type} {step : State → Label → Option State} {permits : State → Label → Prop}

/-- A run with the number of its steps. -/
inductive Takes (step : State → Label → Option State) (permits : State → Label → Prop) (start : State) :
    Nat → State → Prop where
  | refl : Takes step permits start 0 start
  | tail {n : Nat} {s t : State} : Takes step permits start n s → Step step permits s t →
    Takes step permits start (n + 1) t

def AtRest (step : State → Label → Option State) (permits : State → Label → Prop) (s : State) : Prop :=
  ∀ label, permits s label → step s label = none

/-- Permitted steps keep an invariant, and decrease the measure of a state with it. -/
structure Decreases (step : State → Label → Option State) (permits : State → Label → Prop) (I : State → Prop)
    (measure : State → Nat) : Prop where
  preserved : ∀ s label t, I s → permits s label → step s label = some t → I t
  smaller : ∀ s label t, I s → permits s label → step s label = some t → measure t < measure s

variable {I : State → Prop} {measure : State → Nat} {start s : State}

theorem Takes.reaches {n : Nat} (takes : Takes step permits start n s) : Reaches step permits start s := by
  induction takes with
  | refl => exact Relation.ReflTransGen.refl
  | tail _ last ih => exact ih.tail last

theorem Decreases.bounds (decreases : Decreases step permits I measure) (initially : I start) {n : Nat}
    (takes : Takes step permits start n s) : n + measure s ≤ measure start := by
  induction takes with
  | refl => exact Nat.le_of_eq (Nat.zero_add _)
  | tail before last ih =>
    obtain ⟨label, permitted, stepped⟩ := last
    have here := before.reaches.invariant initially decreases.preserved
    have less := decreases.smaller _ _ _ here permitted stepped
    omega

theorem Decreases.reaches_rest (decreases : Decreases step permits I measure) (initially : I start) :
    ∃ s, Reaches step permits start s ∧ AtRest step permits s := by
  induction left : measure start using Nat.strongRecOn generalizing start with
  | ind n ih =>
    by_cases rests : AtRest step permits start
    · exact ⟨start, Relation.ReflTransGen.refl, rests⟩
    · obtain ⟨label, moves⟩ := Classical.not_forall.mp rests
      obtain ⟨permitted, stepped⟩ := Classical.not_imp.mp moves
      obtain ⟨t, stepped⟩ := Option.ne_none_iff_exists'.mp stepped
      have less := decreases.smaller _ _ _ initially permitted stepped
      obtain ⟨s, later, rests⟩ := ih (measure t) (left ▸ less) (decreases.preserved _ _ _ initially permitted stepped) rfl
      exact ⟨s, Relation.ReflTransGen.head ⟨label, permitted, stepped⟩ later, rests⟩

end Resting

end Runs

namespace Chains

section
variable {State Item : Type} (extend : State → Item → State) (start : State)

def value (items : List Item) : State := items.foldl extend start

/-- The chain takes the item in at the state. -/
def Takes (items : List Item) (state : State) (item : Item) : Prop :=
  ∃ front back, items = front ++ item :: back ∧ state = value extend start front

variable {extend} {start}

theorem value_concat (items : List Item) (item : Item) :
    value extend start (items ++ [item]) = extend (value extend start items) item := by
  rw [value, List.foldl_append]
  rfl

theorem takes_last (items : List Item) (item : Item) :
    Takes extend start (items ++ [item]) (value extend start items) item :=
  ⟨items, [], rfl, rfl⟩

theorem Takes.concat {items : List Item} {state : State} {item : Item} (taken : Takes extend start items state item)
    (last : Item) : Takes extend start (items ++ [last]) state item := by
  obtain ⟨front, back, rfl, same⟩ := taken
  exact ⟨front, back ++ [last], by simp, same⟩

/-- What a chain takes in, step by step. -/
def steps (extend : State → Item → State) : State → List Item → List (State × Item)
  | _, [] => []
  | state, item :: items => (state, item) :: steps extend (extend state item) items

theorem Takes.mem_steps {items : List Item} {state : State} {item : Item} (taken : Takes extend start items state item) :
    (state, item) ∈ steps extend start items := by
  obtain ⟨front, back, rfl, rfl⟩ := taken
  induction front generalizing start with
  | nil => exact List.mem_cons_self
  | cons first front ih => exact List.mem_cons_of_mem _ (@ih (extend start first))

theorem Takes.mem {items : List Item} {state : State} {item : Item} (taken : Takes extend start items state item) :
    item ∈ items := by
  obtain ⟨front, back, rfl, _⟩ := taken
  exact List.mem_append_right front List.mem_cons_self

/-- What holds of the start and is kept by all steps holds of every value. -/
theorem value_invariant {I : State → Prop} (initially : I start) (kept : ∀ state item, I state → I (extend state item))
    (items : List Item) : I (value extend start items) := by
  induction items using List.reverseRecOn with
  | nil => exact initially
  | append_singleton items item ih =>
    rw [value_concat]
    exact kept _ item ih

theorem Takes.invariant {I : State → Prop} (initially : I start)
    (kept : ∀ state item, I state → I (extend state item)) {items : List Item} {state : State} {item : Item}
    (taken : Takes extend start items state item) : I state := by
  obtain ⟨front, _, _, rfl⟩ := taken
  exact value_invariant initially kept front

/-- Two chains with one value have the same items. -/
theorem eq_of_value_eq {items items' : List Item}
    (apart : ∀ state item state' item', Takes extend start items state item → Takes extend start items' state' item' →
      extend state item = extend state' item' → state = state' ∧ item = item')
    (fresh : ∀ state item, Takes extend start items state item → extend state item ≠ start)
    (fresh' : ∀ state item, Takes extend start items' state item → extend state item ≠ start)
    (same : value extend start items = value extend start items') : items = items' := by
  -- From the end: the last steps agree, so they were taken at one value with one item.
  induction items using List.reverseRecOn generalizing items' with
  | nil =>
    cases items' using List.reverseRecOn with
    | nil => rfl
    | append_singleton items' item' =>
      rw [value_concat] at same
      exact absurd same.symm (fresh' _ item' (takes_last items' item'))
  | append_singleton items item ih =>
    cases items' using List.reverseRecOn with
    | nil =>
      rw [value_concat] at same
      exact absurd same (fresh _ item (takes_last items item))
    | append_singleton items' item' =>
      rw [value_concat, value_concat] at same
      obtain ⟨before, rfl⟩ := apart _ _ _ _ (takes_last items item) (takes_last items' item') same
      have earlier : items = items' := ih
        (fun state item state' item' taken taken' => apart state item state' item' (taken.concat _) (taken'.concat _))
        (fun state item taken => fresh state item (taken.concat _))
        (fun state item taken => fresh' state item (taken.concat _)) before
      rw [earlier]

end

end Chains
