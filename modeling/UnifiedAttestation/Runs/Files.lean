import Mathlib.Data.List.AList
import Mathlib.Logic.Function.Basic

/-! A directory in which tasks write files under fresh names.

A task keeps the file it has written pending until it either gives it to the kept ones
or removes it again. Files that were there before are never touched.
-/

set_option autoImplicit false

namespace Files

variable {Name Id Content : Type} [DecidableEq Name]

theorem lookup_insert_eq_some {map : AList fun _ : Name => Content} {file : Name} {content : Content} {name : Name}
    {held : Content} :
    (map.insert file content).lookup name = some held ↔
      name = file ∧ content = held ∨ name ≠ file ∧ map.lookup name = some held := by
  by_cases same : name = file
  · subst same
    simp [AList.lookup_insert]
  · simp [AList.lookup_insert_ne same, same]

/-- The files of a directory: earlier ones, one for each kept id and one for each
pending one. -/
structure Owned (name : Id → Name) (earlier directory : AList fun _ : Name => Content) (kept : Id → Prop)
    (fits : Id → Content → Prop) (pending : Nat → Option (Id × Content)) : Prop where
  names : ∀ file, file ∈ directory ↔
    file ∈ earlier ∨ (∃ id, kept id ∧ file = name id) ∨ ∃ task id content, pending task = some (id, content) ∧ file = name id
  unchanged : ∀ file ∈ earlier, directory.lookup file = earlier.lookup file
  keeps : ∀ id, kept id → name id ∉ earlier ∧ ∃ content, directory.lookup (name id) = some content ∧ fits id content
  waits : ∀ task id content, pending task = some (id, content) →
    name id ∉ earlier ∧ ¬ kept id ∧ directory.lookup (name id) = some content
  distinct : ∀ task task' id content content', pending task = some (id, content) →
    pending task' = some (id, content') → task = task'

variable {name : Id → Name} {earlier directory : AList fun _ : Name => Content} {kept kept' : Id → Prop}
variable {fits : Id → Content → Prop} {pending : Nat → Option (Id × Content)}
variable {task : Nat} {id : Id} {content : Content}

theorem pending_started {task t : Nat} {file held : Id × Content} :
    Function.update pending task (some file) t = some held ↔
      t = task ∧ file = held ∨ t ≠ task ∧ pending t = some held := by
  by_cases same : t = task
  · subst same
    simp
  · simp [same]

theorem pending_settled {task t : Nat} {held : Id × Content} :
    Function.update pending task none t = some held ↔ t ≠ task ∧ pending t = some held := by
  by_cases same : t = task
  · subst same
    simp
  · simp [same]

theorem Owned.initial : Owned name earlier earlier (fun _ => False) fits (fun _ => none) where
  names _ := by simp
  unchanged _ _ := rfl
  keeps _ absurd := absurd.elim
  waits _ _ _ absurd := by cases absurd
  distinct _ _ _ _ _ absurd := by cases absurd

/-- A file under a fresh name is pending. -/
theorem Owned.written (owned : Owned name earlier directory kept fits pending)
    (fresh : name id ∉ directory) (idle : pending task = none) :
    Owned name earlier (directory.insert (name id) content) kept fits
      (Function.update pending task (some (id, content))) := by
  -- Nobody else's file has the new name: all of theirs are in the directory already.
  have other : ∀ {file}, file ∈ directory → file ≠ name id := fun held same => fresh (same ▸ held)
  have keptFile : ∀ {i}, kept i → name i ∈ directory := fun held => (owned.names _).mpr (.inr (.inl ⟨_, held, rfl⟩))
  have pendingFile : ∀ {t i c}, pending t = some (i, c) → name i ∈ directory := fun held =>
    (owned.names _).mpr (.inr (.inr ⟨_, _, _, held, rfl⟩))
  have earlierFile : ∀ {file}, file ∈ earlier → file ∈ directory := fun held => (owned.names _).mpr (.inl held)
  constructor
  case names =>
    intro file
    rw [AList.mem_insert, owned.names]
    constructor
    · rintro (rfl | held | held | ⟨t, i, c, held, rfl⟩)
      · exact .inr (.inr ⟨task, id, content, pending_started.mpr (.inl ⟨rfl, rfl⟩), rfl⟩)
      · exact .inl held
      · exact .inr (.inl held)
      · have differs : t ≠ task := by
          rintro rfl
          cases idle.symm.trans held
        exact .inr (.inr ⟨t, i, c, pending_started.mpr (.inr ⟨differs, held⟩), rfl⟩)
    · rintro (held | held | ⟨t, i, c, held, rfl⟩)
      · exact .inr (.inl held)
      · exact .inr (.inr (.inl held))
      · rcases pending_started.mp held with ⟨_, new⟩ | ⟨_, held⟩
        · cases new
          exact .inl rfl
        · exact .inr (.inr (.inr ⟨t, i, c, held, rfl⟩))
  case unchanged =>
    intro file held
    rw [AList.lookup_insert_ne (other (earlierFile held)), owned.unchanged file held]
  case keeps =>
    intro i held
    rw [AList.lookup_insert_ne (other (keptFile held))]
    exact owned.keeps i held
  case waits =>
    intro t i c held
    rcases pending_started.mp held with ⟨_, new⟩ | ⟨_, held⟩
    · cases new
      exact ⟨fun there => fresh (earlierFile there), fun there => fresh (keptFile there), AList.lookup_insert _⟩
    · rw [AList.lookup_insert_ne (other (pendingFile held))]
      exact owned.waits t i c held
  case distinct =>
    intro t t' i c c' held held'
    rcases pending_started.mp held with ⟨rfl, new⟩ | ⟨_, before⟩
    · cases new
      rcases pending_started.mp held' with ⟨rfl, _⟩ | ⟨_, before⟩
      · rfl
      · exact absurd (pendingFile before) fresh
    · rcases pending_started.mp held' with ⟨rfl, new⟩ | ⟨_, before'⟩
      · cases new
        exact absurd (pendingFile before) fresh
      · exact owned.distinct t t' i c c' before before'

/-- A pending file becomes the kept file of its id. -/
theorem Owned.kept_pending {fits' : Id → Content → Prop} (owned : Owned name earlier directory kept fits pending)
    (held : pending task = some (id, content)) (keeps : ∀ i, kept' i ↔ i = id ∨ kept i) (itself : fits' id content)
    (still : ∀ i c, kept i → fits i c → fits' i c) :
    Owned name earlier directory kept' fits' (Function.update pending task none) := by
  constructor
  case names =>
    intro file
    rw [owned.names]
    constructor
    · rintro (there | ⟨i, there, rfl⟩ | ⟨t, i, c, there, rfl⟩)
      · exact .inl there
      · exact .inr (.inl ⟨i, (keeps i).mpr (.inr there), rfl⟩)
      · by_cases same : t = task
        · subst same
          cases held.symm.trans there
          exact .inr (.inl ⟨id, (keeps id).mpr (.inl rfl), rfl⟩)
        · exact .inr (.inr ⟨t, i, c, pending_settled.mpr ⟨same, there⟩, rfl⟩)
    · rintro (there | ⟨i, there, rfl⟩ | ⟨t, i, c, there, rfl⟩)
      · exact .inl there
      · rcases (keeps i).mp there with rfl | there
        · exact .inr (.inr ⟨task, i, content, held, rfl⟩)
        · exact .inr (.inl ⟨i, there, rfl⟩)
      · exact .inr (.inr ⟨t, i, c, (pending_settled.mp there).2, rfl⟩)
  case unchanged => exact owned.unchanged
  case keeps =>
    intro i there
    rcases (keeps i).mp there with rfl | there
    · obtain ⟨new, _, file⟩ := owned.waits task i content held
      exact ⟨new, content, file, itself⟩
    · obtain ⟨new, c, file, fit⟩ := owned.keeps i there
      exact ⟨new, c, file, still i c there fit⟩
  case waits =>
    intro t i c there
    obtain ⟨differs, there⟩ := pending_settled.mp there
    obtain ⟨new, notKept, file⟩ := owned.waits t i c there
    refine ⟨new, fun now => ?_, file⟩
    rcases (keeps i).mp now with rfl | now
    · exact differs (owned.distinct t task i c content there held)
    · exact notKept now
  case distinct =>
    intro t t' i c c' there there'
    exact owned.distinct t t' i c c' (pending_settled.mp there).2 (pending_settled.mp there').2

/-- A pending file is removed. -/
theorem Owned.removed (owned : Owned name earlier directory kept fits pending) (injective : Function.Injective name)
    (held : pending task = some (id, content)) :
    Owned name earlier (directory.erase (name id)) kept fits (Function.update pending task none) := by
  obtain ⟨new, notKept, _⟩ := owned.waits task id content held
  have otherKept : ∀ {i}, kept i → name i ≠ name id := fun there same => notKept (injective same ▸ there)
  have otherPending : ∀ {t i c}, t ≠ task → pending t = some (i, c) → name i ≠ name id := by
    intro t i c differs there same
    obtain rfl := injective same
    exact differs (owned.distinct t task i c content there held)
  constructor
  case names =>
    intro file
    rw [AList.mem_erase, owned.names]
    constructor
    · rintro ⟨differs, there | there | ⟨t, i, c, there, rfl⟩⟩
      · exact .inl there
      · exact .inr (.inl there)
      · -- Only the task of the file was waiting with this name.
        have another : t ≠ task := by
          rintro rfl
          cases held.symm.trans there
          exact differs rfl
        exact .inr (.inr ⟨t, i, c, pending_settled.mpr ⟨another, there⟩, rfl⟩)
    · rintro (there | ⟨i, there, rfl⟩ | ⟨t, i, c, there, rfl⟩)
      · exact ⟨fun same => new (same ▸ there), .inl there⟩
      · exact ⟨otherKept there, .inr (.inl ⟨i, there, rfl⟩)⟩
      · obtain ⟨differs, there⟩ := pending_settled.mp there
        exact ⟨otherPending differs there, .inr (.inr ⟨t, i, c, there, rfl⟩)⟩
  case unchanged =>
    intro file there
    have differs : file ≠ name id := fun same => new (same ▸ there)
    rw [AList.lookup_erase_ne differs, owned.unchanged file there]
  case keeps =>
    intro i there
    rw [AList.lookup_erase_ne (otherKept there)]
    exact owned.keeps i there
  case waits =>
    intro t i c there
    obtain ⟨differs, there⟩ := pending_settled.mp there
    rw [AList.lookup_erase_ne (otherPending differs there)]
    exact owned.waits t i c there
  case distinct =>
    intro t t' i c c' there there'
    exact owned.distinct t t' i c c' (pending_settled.mp there).2 (pending_settled.mp there').2

end Files
