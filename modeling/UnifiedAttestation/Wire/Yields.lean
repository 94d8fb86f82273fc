import UnifiedAttestation.Wire.Reader

/-! What a computation yields, with all three ways to end.

It returns a value exactly when its input fits and nothing panics, and it panics exactly
under a condition of its own. A sequence panics where a first part does, or a second one
behind a first that fits.
-/

set_option autoImplicit false

namespace Wire

/-- Where the panic condition fails, the outcome is the value if the input fits and an
error if not; where it holds, the outcome is a panic. -/
structure Yields {β : Type} (outcome : Outcome β) (fits panics : Prop) (value : β) : Prop where
  panic : outcome = .error .panic ↔ panics
  ok : ∀ result, outcome = .ok result ↔ (fits ∧ ¬ panics) ∧ result = value

/-- An item that panics comes after items that all fit. -/
def Reached {ι : Type} (fits panics : ι → Prop) (items : List ι) : Prop :=
  ∃ front item back, items = front ++ item :: back ∧ (∀ earlier ∈ front, fits earlier) ∧ panics item

section Reached
variable {ι : Type} {fits panics : ι → Prop}

theorem reached_nil : ¬ Reached fits panics [] := by
  rintro ⟨front, item, back, split, _⟩
  cases front <;> cases split

theorem reached_cons {item : ι} {rest : List ι} :
    Reached fits panics (item :: rest) ↔ panics item ∨ fits item ∧ Reached fits panics rest := by
  constructor
  · rintro ⟨front, at_panic, back, split, before, panicking⟩
    cases front with
    | nil =>
      cases split
      exact .inl panicking
    | cons first front =>
      cases split
      have fit := List.forall_mem_cons.mp before
      exact .inr ⟨fit.1, front, at_panic, back, rfl, fit.2, panicking⟩
  · rintro (panicking | ⟨fit, front, at_panic, back, rfl, before, panicking⟩)
    · exact ⟨[], item, rest, rfl, by simp, panicking⟩
    · exact ⟨item :: front, at_panic, back, rfl, List.forall_mem_cons.mpr ⟨fit, before⟩, panicking⟩

end Reached

namespace Yields
variable {β γ : Type} {outcome : Outcome β} {fits panics fits' panics' : Prop} {value : β}

theorem congr (yields : Yields outcome fits panics value) (same : fits ↔ fits') (same' : panics ↔ panics') :
    Yields outcome fits' panics' value := by
  rwa [← propext same, ← propext same']

theorem pure_ok (value : β) : Yields (.ok value) True False value where
  panic := by simp
  ok result := by simp [eq_comm]

theorem bail (message : String) (value : β) : Yields (Wire.bail message) False False value where
  panic := by simp [Wire.bail]
  ok result := by simp [Wire.bail]

theorem orBail (message : String) (found : Option β) (default : β) :
    Yields (Wire.orBail message found) (∃ value, found = some value) False (found.getD default) := by
  cases found with
  | none => exact (bail message default).congr (by simp) Iff.rfl
  | some value => exact (pure_ok value).congr (by simp) Iff.rfl

theorem ensure (condition : Prop) [Decidable condition] (chain : List String) :
    Yields (Wire.ensure condition (.error chain : Fault)) condition False () := by
  by_cases holds : condition
  · exact Yields.congr (by simpa only [Wire.ensure, if_pos holds] using pure_ok ()) (by simp [holds]) Iff.rfl
  · constructor <;> simp [Wire.ensure, holds]

theorem bind {next : β → Outcome γ} {value' : γ} (first : Yields outcome fits panics value)
    (second : fits → ¬ panics → Yields (next value) fits' panics' value') :
    Yields (outcome >>= next) (fits ∧ fits') (panics ∨ fits ∧ panics') value' := by
  cases result : outcome with
  | error fault =>
    -- The first part did not fit or panicked, and the second one does not run.
    have refused : ¬ (fits ∧ ¬ panics) := by
      intro fit
      rw [(first.ok value).mpr ⟨fit, rfl⟩] at result
      cases result
    have panicking : fault = .panic ↔ panics := by rw [← first.panic, result, Except.error.injEq]
    constructor
    · constructor
      · intro ended
        cases ended
        exact .inl (panicking.mp rfl)
      · rintro (held | ⟨fit, _⟩)
        · rw [panicking.mpr held]
          rfl
        · by_cases held : panics
          · rw [panicking.mpr held]
            rfl
          · exact absurd ⟨fit, held⟩ refused
    · intro after
      constructor
      · intro ended
        cases ended
      · rintro ⟨⟨⟨fit, _⟩, calm⟩, _⟩
        exact absurd ⟨fit, fun held => calm (.inl held)⟩ refused
  | ok found =>
    obtain ⟨⟨fit, calm⟩, rfl⟩ := (first.ok found).mp result
    have rest := second fit calm
    constructor
    · rw [ok_bind, rest.panic]
      simp [fit, calm]
    · intro after
      rw [ok_bind, rest.ok]
      simp [fit, calm]

theorem map {f : β → γ} (yields : Yields outcome fits panics value) : Yields (outcome.map f) fits panics (f value) := by
  have both : Yields (outcome >>= fun found => .ok (f found)) (fits ∧ True) (panics ∨ fits ∧ False) (f value) :=
    yields.bind fun _ _ => pure_ok (f value)
  have same : outcome.map f = outcome >>= fun found => .ok (f found) := by cases outcome <;> rfl
  rw [same]
  exact both.congr (by simp) (by simp)

/-- Items that are read one after the other. -/
theorem mapM {ι : Type} {read : ι → Outcome β} {fits panics : ι → Prop} {value : ι → β} (items : List ι)
    (each : ∀ item ∈ items, Yields (read item) (fits item) (panics item) (value item)) :
    Yields (items.mapM read) (∀ item ∈ items, fits item) (Reached fits panics items) (items.map value) := by
  induction items with
  | nil => exact (pure_ok []).congr (by simp) (by simp [reached_nil])
  | cons item rest ih =>
    have all := List.forall_mem_cons.mp each
    rw [List.mapM_cons]
    refine Yields.congr ?_ List.forall_mem_cons.symm reached_cons.symm
    refine all.1.bind fun _ _ => ?_
    refine ((ih all.2).map (f := fun values => value item :: values))

/-- A computation that never panics on what it should handle does exactly what its documentation says. -/
theorem faithful_iff (yields : Yields outcome fits panics value) :
    (outcome ≠ .error .panic ∧ ∀ result, outcome = .ok result ↔ fits ∧ result = value) ↔ ¬ panics := by
  constructor
  · rintro ⟨calm, _⟩ held
    exact calm (yields.panic.mpr held)
  · intro calm
    refine ⟨fun ended => calm (yields.panic.mp ended), fun result => ?_⟩
    rw [yields.ok]
    simp [calm]

end Yields

end Wire
