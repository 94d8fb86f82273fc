import UnifiedAttestation.Grpc.Reference
import UnifiedAttestation.Runs.Files
import UnifiedAttestation.Runs.Machines

/-! The component registry under concurrent requests.

A `register` or `evaluate` call is a small program whose steps are the sections under
the lock of the registry and the file operations between them. Any number of calls
interleave; the fresh id that a step may draw is part of its label.
-/

set_option autoImplicit false

namespace UnifiedAttestation.Grpc

open Wire (Bytes)

section Host

/-- The engine, the digest and the configured trust of the component host. -/
structure WasmHost where
  sha256Hex : Bytes → String
  fromBinary : Bytes → Except String Component
  allowUnsigned : Bool
  trustedHashes : List String

structure RegistryState where
  byId : AList fun _ : String => String
  byHash : AList fun _ : String => String
  compiled : AList fun _ : String => Component

def RegistryState.default : RegistryState := ⟨∅, ∅, ∅⟩

def RegistryState.insert (state : RegistryState) (id sha : String) (component : Component) : RegistryState where
  byId := state.byId.insert id sha
  byHash := state.byHash.insert sha id
  compiled := state.compiled.insert id component

/-- The registry directory: what each of its files holds. -/
abbrev Directory := AList fun _ : String => Bytes

def fileName (id : String) : String := id ++ ".wasm"

theorem fileName_injective : Function.Injective fileName := by
  intro id id' same
  have chars := congrArg String.toList same
  simp only [fileName, String.toList_append] at chars
  exact String.toList_inj.mp (List.append_cancel_right chars)

structure Evaluation where
  componentId : String
  evidence : Bytes
  expectedReportData : Option Bytes
  expectedInitDataHash : Option Bytes

inductive Request where
  | register (componentBytes : Bytes)
  | evaluate (evaluation : Evaluation)

end Host

section Machine
variable (K : Crates) (H : WasmHost)

/-- A call between two of its steps, named after the step that comes next; the last
constructor of each kind holds what the call has returned. -/
inductive Call where
  | register (componentBytes : Bytes)
  | compile (componentBytes : Bytes)
  | persist (componentBytes : Bytes) (component : Component)
  | insert (componentBytes : Bytes) (component : Component) (id : String)
  | removeFile (componentBytes : Bytes) (id existing : String)
  | registered (componentBytes : Bytes) (result : Except String String)
  | evaluate (evaluation : Evaluation)
  | run (evaluation : Evaluation) (component : Component)
  | evaluated (evaluation : Evaluation) (result : Except String (EvaluateOutcome K))

structure Shared where
  registry : RegistryState
  directory : Directory

variable {K}

/-- One step of a call. -/
def proceed (s : Shared) (id : String) : Call K → Option (Shared × Call K)
  | .register bytes =>
    let sha := H.sha256Hex bytes
    -- whitelist first, then the cache under the read lock
    if H.allowUnsigned = false ∧ sha ∉ H.trustedHashes then
      some (s, .registered bytes (.error s!"untrusted wasm component: sha256={sha}"))
    else match s.registry.byHash.lookup sha with
      | some existing => some (s, .registered bytes (.ok existing))
      | none => some (s, .compile bytes)
  | .compile bytes =>
    match H.fromBinary bytes with
    | .ok component => some (s, .persist bytes component)
    | .error _ => some (s, .registered bytes (.error "compile wasm component"))
  | .persist bytes component =>
    some ({ s with directory := s.directory.insert (fileName id) bytes }, .insert bytes component id)
  | .insert bytes component id =>
    let sha := H.sha256Hex bytes
    match s.registry.byHash.lookup sha with
    | some existing => some (s, .removeFile bytes id existing)
    | none => some ({ s with registry := s.registry.insert id sha component }, .registered bytes (.ok id))
  | .removeFile bytes id existing =>
    some ({ s with directory := s.directory.erase (fileName id) }, .registered bytes (.ok existing))
  | .registered _ _ => none
  | .evaluate evaluation =>
    match s.registry.compiled.lookup evaluation.componentId with
    | some component => some (s, .run evaluation component)
    | none => some (s, .evaluated evaluation (.error s!"unknown component_id {evaluation.componentId}"))
  | .run evaluation component =>
    some (s, .evaluated evaluation (Grpc.evaluate (fun _ => some component) evaluation.componentId
      evaluation.evidence evaluation.expectedReportData evaluation.expectedInitDataHash))
  | .evaluated _ _ => none

variable (K)

structure Process where
  shared : Shared
  calls : List (Call K)

/-- The process as it starts, with the files of earlier ones. -/
def Process.start (earlier : Directory) : Process K := ⟨⟨.default, earlier⟩, []⟩

variable {K}

inductive Event where
  | call (request : Request)
  | step (call : Nat) (id : String)

def Request.begun : Request → Call K
  | .register bytes => .register bytes
  | .evaluate evaluation => .evaluate evaluation

def Process.step (p : Process K) : Event → Option (Process K)
  | .call request => some { p with calls := p.calls ++ [request.begun] }
  | .step n id => do
    let call ← p.calls[n]?
    let (shared, next) ← proceed H p.shared id call
    some { shared, calls := p.calls.set n next }

/-- A drawn id names no file of the directory yet. -/
def Fresh (p : Process K) : Event → Prop
  | .call _ => True
  | .step _ id => fileName id ∉ p.shared.directory

instance (p : Process K) (event : Event) : Decidable (Fresh p event) :=
  match event with
  | .call _ => .isTrue trivial
  | .step _ id => inferInstanceAs (Decidable (fileName id ∉ p.shared.directory))

/-- The call works on a registration. -/
def Call.registering : Call K → Bool
  | .register _ | .compile _ | .persist _ _ | .insert _ _ _ | .removeFile _ _ _ => true
  | _ => false

/-- The file that a call has written and not yet given to the registry or removed. -/
def Call.file : Call K → Option (String × Bytes)
  | .insert bytes _ id | .removeFile bytes id _ => some (id, bytes)
  | _ => none

def Process.pending (p : Process K) (n : Nat) : Option (String × Bytes) := p.calls[n]?.bind Call.file

def WasmHost.Admits (sha : String) : Prop := H.allowUnsigned = true ∨ sha ∈ H.trustedHashes

/-- What a call has established so far, over the registry as it is now. -/
def Call.Sound (state : RegistryState) : Call K → Prop
  | .register _ | .evaluate _ => True
  | .compile bytes => H.Admits (H.sha256Hex bytes)
  | .persist bytes component | .insert bytes component _ =>
    H.Admits (H.sha256Hex bytes) ∧ H.fromBinary bytes = .ok component
  | .removeFile bytes _ existing => state.byHash.lookup (H.sha256Hex bytes) = some existing
  | .registered bytes result => ∀ id, result = .ok id → state.byHash.lookup (H.sha256Hex bytes) = some id
  | .run evaluation component => state.compiled.lookup evaluation.componentId = some component
  | .evaluated evaluation result => ∀ outcome, result = .ok outcome →
    ∃ component, state.compiled.lookup evaluation.componentId = some component ∧
      Grpc.evaluate (fun _ => some component) evaluation.componentId evaluation.evidence evaluation.expectedReportData
        evaluation.expectedInitDataHash = .ok outcome

/-- The maps of the registry agree. -/
structure RegistryState.Agrees (state : RegistryState) : Prop where
  inverse : ∀ id sha, state.byId.lookup id = some sha ↔ state.byHash.lookup sha = some id
  keys : ∀ id, id ∈ state.compiled ↔ id ∈ state.byId
  component : ∀ id component, state.compiled.lookup id = some component →
    ∃ bytes, state.byId.lookup id = some (H.sha256Hex bytes) ∧ H.fromBinary bytes = .ok component
  trusted : ∀ sha ∈ state.byHash, H.Admits sha

structure Process.Invariant (earlier : Directory) (p : Process K) : Prop where
  agrees : p.shared.registry.Agrees H
  sound : ∀ call ∈ p.calls, call.Sound H p.shared.registry
  files : Files.Owned fileName earlier p.shared.directory (fun id => id ∈ p.shared.registry.byId)
    (fun id bytes => p.shared.registry.byId.lookup id = some (H.sha256Hex bytes)) p.pending

end Machine

section Maps
variable {K : Crates} {H : WasmHost} {state later : RegistryState}

/-- Nothing is removed or rebound. -/
structure RegistryState.Extends (state later : RegistryState) : Prop where
  byId : ∀ id sha, state.byId.lookup id = some sha → later.byId.lookup id = some sha
  byHash : ∀ sha id, state.byHash.lookup sha = some id → later.byHash.lookup sha = some id
  compiled : ∀ id component, state.compiled.lookup id = some component → later.compiled.lookup id = some component

theorem RegistryState.Extends.refl (state : RegistryState) : state.Extends state :=
  ⟨fun _ _ held => held, fun _ _ held => held, fun _ _ held => held⟩

theorem RegistryState.Extends.trans {last : RegistryState} (first : state.Extends later) (second : later.Extends last) :
    state.Extends last where
  byId id sha held := second.byId id sha (first.byId id sha held)
  byHash sha id held := second.byHash sha id (first.byHash sha id held)
  compiled id component held := second.compiled id component (first.compiled id component held)

theorem RegistryState.default_agrees : RegistryState.default.Agrees H where
  inverse _ _ := by simp [RegistryState.default]
  keys _ := by simp [RegistryState.default]
  component _ _ held := by simp [RegistryState.default] at held
  trusted _ held := absurd held (AList.notMem_empty _)

theorem RegistryState.insert_extends {id sha : String} (component : Component) (agrees : state.Agrees H)
    (newId : id ∉ state.byId) (newHash : state.byHash.lookup sha = none) :
    state.Extends (state.insert id sha component) where
  byId i h held := by
    have known : i ∈ state.byId := AList.lookup_isSome.mp (by simp [held])
    exact Files.lookup_insert_eq_some.mpr (.inr ⟨fun same => newId (same ▸ known), held⟩)
  byHash h i held := by
    refine Files.lookup_insert_eq_some.mpr (.inr ⟨fun same => ?_, held⟩)
    rw [same, newHash] at held
    cases held
  compiled i c held := by
    have known : i ∈ state.byId := (agrees.keys i).mp (AList.lookup_isSome.mp (by simp [held]))
    exact Files.lookup_insert_eq_some.mpr (.inr ⟨fun same => newId (same ▸ known), held⟩)

/-- A component under a new id and a new hash leaves the maps in agreement. -/
theorem RegistryState.insert_agrees {id : String} {bytes : Bytes} {component : Component} (agrees : state.Agrees H)
    (newId : id ∉ state.byId) (newHash : state.byHash.lookup (H.sha256Hex bytes) = none)
    (admits : H.Admits (H.sha256Hex bytes)) (compiles : H.fromBinary bytes = .ok component) :
    (state.insert id (H.sha256Hex bytes) component).Agrees H := by
  constructor
  case inverse =>
    intro i h
    simp only [RegistryState.insert, Files.lookup_insert_eq_some, agrees.inverse]
    constructor
    · rintro (⟨rfl, rfl⟩ | ⟨_, held⟩)
      · exact .inl ⟨rfl, rfl⟩
      · refine .inr ⟨fun same => ?_, held⟩
        rw [same, newHash] at held
        cases held
    · rintro (⟨rfl, rfl⟩ | ⟨_, held⟩)
      · exact .inl ⟨rfl, rfl⟩
      · have known : i ∈ state.byId := AList.lookup_isSome.mp (by simp [(agrees.inverse i h).mpr held])
        exact .inr ⟨fun same => newId (same ▸ known), held⟩
  case keys =>
    intro i
    simp only [RegistryState.insert, AList.mem_insert, agrees.keys]
  case component =>
    intro i c held
    rcases Files.lookup_insert_eq_some.mp held with ⟨rfl, rfl⟩ | ⟨_, before⟩
    · exact ⟨bytes, AList.lookup_insert _, compiles⟩
    · obtain ⟨source, named, built⟩ := agrees.component i c before
      exact ⟨source, (RegistryState.insert_extends component agrees newId newHash).byId _ _ named, built⟩
  case trusted =>
    intro h held
    rcases (AList.mem_insert _).mp held with rfl | before
    · exact admits
    · exact agrees.trusted h before

theorem Call.Sound.mono {call : Call K} (sound : call.Sound H state) (extension : state.Extends later) :
    call.Sound H later := by
  cases call with
  | register | evaluate => trivial
  | compile | persist | insert => exact sound
  | removeFile bytes id existing => exact extension.byHash _ _ sound
  | registered bytes result => exact fun id returned => extension.byHash _ _ (sound id returned)
  | run evaluation component => exact extension.compiled _ _ sound
  | evaluated evaluation result =>
    intro outcome returned
    obtain ⟨component, held, ran⟩ := sound outcome returned
    exact ⟨component, extension.compiled _ _ held, ran⟩

end Maps

section Steps
variable {K : Crates} {H : WasmHost} {earlier : Directory} {p : Process K}

/-- What one step of a call does to the state that the calls share. -/
structure Advanced (H : WasmHost) (earlier : Directory) (p : Process K) (n : Nat) (shared : Shared) (next : Call K) :
    Prop where
  agrees : shared.registry.Agrees H
  extension : p.shared.registry.Extends shared.registry
  sound : next.Sound H shared.registry
  files : Files.Owned fileName earlier shared.directory (fun id => id ∈ shared.registry.byId)
    (fun id bytes => shared.registry.byId.lookup id = some (H.sha256Hex bytes))
    (Function.update p.pending n next.file)

theorem Process.pending_of_call {n : Nat} {call : Call K} (here : p.calls[n]? = some call) :
    p.pending n = call.file := by
  simp [Process.pending, here]

/-- A step that leaves the registry and the directory as they are. -/
theorem Process.Invariant.unmoved {n : Nat} {call next : Call K} (invariant : p.Invariant H earlier)
    (here : p.calls[n]? = some call) (file : next.file = call.file) (sound : next.Sound H p.shared.registry) :
    Advanced H earlier p n p.shared next where
  agrees := invariant.agrees
  extension := .refl _
  sound := sound
  files := by
    rw [file, ← Process.pending_of_call here, Function.update_eq_self]
    exact invariant.files

theorem Process.Invariant.proceed {n : Nat} {call next : Call K} {id : String} {shared : Shared}
    (invariant : p.Invariant H earlier) (here : p.calls[n]? = some call) (fresh : fileName id ∉ p.shared.directory)
    (proceeds : Grpc.proceed H p.shared id call = some (shared, next)) : Advanced H earlier p n shared next := by
  have established := invariant.sound call (List.mem_of_getElem? here)
  cases call with
  | registered | evaluated => cases proceeds
  | register bytes =>
    simp only [Grpc.proceed] at proceeds
    split at proceeds
    case isTrue =>
      cases proceeds
      exact invariant.unmoved here rfl nofun
    case isFalse admitted =>
      cases found : p.shared.registry.byHash.lookup (H.sha256Hex bytes) with
      | some existing =>
        rw [found] at proceeds
        cases proceeds
        refine invariant.unmoved here rfl fun id returned => ?_
        cases returned
        exact found
      | none =>
        rw [found] at proceeds
        cases proceeds
        refine invariant.unmoved here rfl ?_
        show H.allowUnsigned = true ∨ H.sha256Hex bytes ∈ H.trustedHashes
        by_contra refused
        rw [not_or, Bool.not_eq_true] at refused
        exact admitted refused
  | compile bytes =>
    simp only [Grpc.proceed] at proceeds
    cases compiles : H.fromBinary bytes with
    | ok component =>
      rw [compiles] at proceeds
      cases proceeds
      exact invariant.unmoved here rfl ⟨established, compiles⟩
    | error e =>
      rw [compiles] at proceeds
      cases proceeds
      exact invariant.unmoved here rfl nofun
  | persist bytes component =>
    cases proceeds
    exact ⟨invariant.agrees, .refl _, established,
      invariant.files.written fresh (Process.pending_of_call here)⟩
  | insert bytes component own =>
    obtain ⟨admits, compiles⟩ := established
    obtain ⟨_, newId, _⟩ := invariant.files.waits n own bytes (Process.pending_of_call here)
    simp only [Grpc.proceed] at proceeds
    cases found : p.shared.registry.byHash.lookup (H.sha256Hex bytes) with
    | some existing =>
      -- another call was faster
      rw [found] at proceeds
      cases proceeds
      exact invariant.unmoved here rfl found
    | none =>
      rw [found] at proceeds
      cases proceeds
      have extension := RegistryState.insert_extends component invariant.agrees newId found
      refine ⟨RegistryState.insert_agrees invariant.agrees newId found admits compiles, extension, ?_, ?_⟩
      · intro id returned
        cases returned
        exact AList.lookup_insert _
      · exact invariant.files.kept_pending (Process.pending_of_call here) (fun i => AList.mem_insert _)
          (AList.lookup_insert _) fun i content _ named => extension.byId i _ named
  | removeFile bytes own existing =>
    cases proceeds
    refine ⟨invariant.agrees, .refl _, fun id returned => ?_,
      invariant.files.removed fileName_injective (Process.pending_of_call here)⟩
    cases returned
    exact established
  | evaluate evaluation =>
    simp only [Grpc.proceed] at proceeds
    cases found : p.shared.registry.compiled.lookup evaluation.componentId with
    | some component =>
      rw [found] at proceeds
      cases proceeds
      exact invariant.unmoved here rfl found
    | none =>
      rw [found] at proceeds
      cases proceeds
      exact invariant.unmoved here rfl nofun
  | run evaluation component =>
    cases proceeds
    exact invariant.unmoved here rfl fun outcome returned => ⟨component, established, returned⟩

theorem Process.pending_append (request : Request) :
    Process.pending ⟨p.shared, p.calls ++ [request.begun]⟩ = p.pending := by
  funext n
  have noFile : (request.begun : Call K).file = none := by cases request <;> rfl
  rcases Nat.lt_trichotomy n p.calls.length with before | here | after
  · simp [Process.pending, List.getElem?_append_left before]
  · subst here
    simp [Process.pending, noFile]
  · have none : p.calls[n]? = none := List.getElem?_eq_none (Nat.le_of_lt after)
    have end_ : (p.calls ++ [request.begun])[n]? = Option.none := List.getElem?_eq_none (by simp; omega)
    simp [Process.pending, none, end_]

theorem Process.pending_set {n : Nat} {call : Call K} (here : p.calls[n]? = some call) (shared : Shared)
    (next : Call K) : Process.pending ⟨shared, p.calls.set n next⟩ = Function.update p.pending n next.file := by
  obtain ⟨bound, _⟩ := List.getElem?_eq_some_iff.mp here
  funext m
  by_cases same : m = n
  · subst same
    simp [Process.pending, bound]
  · simp [Process.pending, List.getElem?_set_ne (Ne.symm same), same]

/-- The two shapes of a step of the process. -/
theorem Process.step_cases {q : Process K} {event : Event} (stepped : p.step H event = some q) :
    (∃ request, event = .call request ∧ q = ⟨p.shared, p.calls ++ [request.begun]⟩) ∨
    ∃ n id call shared next, event = .step n id ∧ p.calls[n]? = some call ∧
      proceed H p.shared id call = some (shared, next) ∧ q = ⟨shared, p.calls.set n next⟩ := by
  cases event with
  | call request =>
    cases stepped
    exact .inl ⟨request, rfl, rfl⟩
  | step n id =>
    simp only [Process.step, Option.bind_eq_bind, Option.bind_eq_some_iff] at stepped
    obtain ⟨call, here, ⟨shared, next⟩, proceeds, same⟩ := stepped
    cases same
    exact .inr ⟨n, id, call, shared, next, rfl, here, proceeds, rfl⟩

theorem Process.start_invariant : (Process.start K earlier).Invariant H earlier where
  agrees := RegistryState.default_agrees
  sound _ absurd := by cases absurd
  files := by
    have none : ∀ id, (id ∈ (Process.start K earlier).shared.registry.byId) = False := fun id => by
      simp [Process.start, RegistryState.default, AList.notMem_empty]
    simp only [none]
    exact Files.Owned.initial

theorem Process.Invariant.step {q : Process K} {event : Event} (invariant : p.Invariant H earlier)
    (fresh : Fresh p event) (stepped : p.step H event = some q) :
    q.Invariant H earlier ∧ p.shared.registry.Extends q.shared.registry := by
  rcases Process.step_cases stepped with ⟨request, rfl, rfl⟩ | ⟨n, id, call, shared, next, rfl, here, proceeds, rfl⟩
  · refine ⟨⟨invariant.agrees, fun call listed => ?_, ?_⟩, .refl _⟩
    · rcases List.mem_append.mp listed with before | new
      · exact invariant.sound call before
      · cases List.mem_singleton.mp new
        cases request <;> trivial
    · rw [Process.pending_append]
      exact invariant.files
  · have advanced := invariant.proceed here fresh proceeds
    refine ⟨⟨advanced.agrees, fun call listed => ?_, ?_⟩, advanced.extension⟩
    · rcases List.mem_or_eq_of_mem_set listed with before | rfl
      · exact (invariant.sound call before).mono advanced.extension
      · exact advanced.sound
    · rw [Process.pending_set here]
      exact advanced.files

end Steps

section Reached
variable {K : Crates} {H : WasmHost} {earlier : Directory} {p : Process K}

/-- Reached from the start with fresh ids. -/
abbrev Process.Reached (H : WasmHost) (earlier : Directory) (p : Process K) : Prop :=
  Runs.Reaches (Process.step H) Fresh (Process.start K earlier) p

theorem Process.Reached.invariant (reached : p.Reached H earlier) : p.Invariant H earlier :=
  Runs.Reaches.invariant reached Process.start_invariant fun _ _ _ invariant fresh stepped =>
    (invariant.step fresh stepped).1

theorem Process.Invariant.extends {q : Process K} (invariant : p.Invariant H earlier)
    (reaches : Runs.Reaches (Process.step H) Fresh p q) : p.shared.registry.Extends q.shared.registry := by
  have both : q.Invariant H earlier ∧ p.shared.registry.Extends q.shared.registry := by
    refine Runs.Reaches.invariant reaches
      (I := fun q => q.Invariant H earlier ∧ p.shared.registry.Extends q.shared.registry)
      ⟨invariant, .refl _⟩ ?_
    intro s event t before fresh stepped
    obtain ⟨after, extension⟩ := before.1.step fresh stepped
    exact ⟨after, before.2.trans extension⟩
  exact both.2

/-- The id belongs to a registered component, compiled from admitted bytes. -/
def RegistryState.Registered (H : WasmHost) (state : RegistryState) (id : String) : Prop :=
  ∃ bytes component, state.byId.lookup id = some (H.sha256Hex bytes) ∧ state.compiled.lookup id = some component ∧
    H.fromBinary bytes = .ok component ∧ H.Admits (H.sha256Hex bytes)

theorem RegistryState.Agrees.registered {state : RegistryState} {id : String} {component : Component}
    (agrees : state.Agrees H) (held : state.compiled.lookup id = some component) : state.Registered H id := by
  obtain ⟨bytes, named, compiles⟩ := agrees.component id component held
  have listed : H.sha256Hex bytes ∈ state.byHash :=
    AList.lookup_isSome.mp (by simp [(agrees.inverse id _).mp named])
  exact ⟨bytes, component, named, held, compiles, agrees.trusted _ listed⟩

/-- The files of the directory once no registration is under way: the earlier ones,
unchanged, and exactly one for each registered id. -/
structure Process.Filed (H : WasmHost) (earlier : Directory) (p : Process K) : Prop where
  unchanged : ∀ file ∈ earlier, p.shared.directory.lookup file = earlier.lookup file
  present : ∀ id sha, p.shared.registry.byId.lookup id = some sha → fileName id ∉ earlier ∧
    ∃ bytes, p.shared.directory.lookup (fileName id) = some bytes ∧ H.sha256Hex bytes = sha
  no_other : ∀ file ∈ p.shared.directory, file ∉ earlier →
    ∃ id ∈ p.shared.registry.byId, file = fileName id ∧ ∀ id', file = fileName id' → id' = id

theorem Process.Invariant.filed (invariant : p.Invariant H earlier)
    (idle : ∀ call ∈ p.calls, call.registering = false) : p.Filed H earlier := by
  have nothing : ∀ n, p.pending n = none := by
    intro n
    cases here : p.calls[n]? with
    | none => simp [Process.pending, here]
    | some call =>
      rw [Process.pending_of_call here]
      have quiet := idle call (List.mem_of_getElem? here)
      cases call with
      | register | compile | persist | insert | removeFile => cases quiet
      | registered | evaluate | run | evaluated => rfl
  constructor
  case unchanged => exact invariant.files.unchanged
  case present =>
    intro id sha named
    obtain ⟨new, bytes, file, fits⟩ := invariant.files.keeps id (AList.lookup_isSome.mp (by simp [named]))
    exact ⟨new, bytes, file, Option.some.inj (fits.symm.trans named)⟩
  case no_other =>
    intro file listed new
    rcases (invariant.files.names file).mp listed with old | ⟨id, held, rfl⟩ | ⟨n, id, bytes, waiting, _⟩
    · exact absurd old new
    · exact ⟨id, held, rfl, fun id' same => (fileName_injective same).symm⟩
    · rw [nothing n] at waiting
      cases waiting

/-- What holds of the registry in every reachable state. -/
structure Process.Accounted (H : WasmHost) (earlier : Directory) (p : Process K) : Prop where
  agrees : p.shared.registry.Agrees H
  same_id : ∀ bytes bytes' id id', bytes = bytes' → .registered bytes (.ok id) ∈ p.calls →
    .registered bytes' (.ok id') ∈ p.calls → id = id'
  kept : ∀ q, Runs.Reaches (Process.step H) Fresh p q → p.shared.registry.Extends q.shared.registry
  filed : (∀ call ∈ p.calls, call.registering = false) → p.Filed H earlier
  running : ∀ evaluation component, .run evaluation component ∈ p.calls →
    p.shared.registry.compiled.lookup evaluation.componentId = some component ∧
      p.shared.registry.Registered H evaluation.componentId
  evaluated : ∀ evaluation outcome, .evaluated evaluation (.ok outcome) ∈ p.calls →
    outcome.componentId = evaluation.componentId ∧ p.shared.registry.Registered H evaluation.componentId
  issued : ∀ (A : AppState K) (R : Registered) (W : World K) (req : VerifyRequest) (response : VerifyResponse),
    R.compiled = p.shared.registry.compiled.lookup → A.verify R W req = .ok response →
      p.shared.registry.Registered H response.wasmComponentId

/-- The registry in every interleaving of `register` and `evaluate` calls. -/
theorem registry_accounted (reached : p.Reached H earlier) : p.Accounted H earlier := by
  have invariant := reached.invariant
  constructor
  case agrees => exact invariant.agrees
  case same_id =>
    rintro bytes _ id id' rfl returned returned'
    have first := invariant.sound _ returned id rfl
    have second := invariant.sound _ returned' id' rfl
    exact Option.some.inj (first.symm.trans second)
  case kept => exact fun q reaches => invariant.extends reaches
  case filed => exact invariant.filed
  case running =>
    intro evaluation component running
    have held : p.shared.registry.compiled.lookup evaluation.componentId = some component :=
      invariant.sound _ running
    exact ⟨held, invariant.agrees.registered held⟩
  case evaluated =>
    intro evaluation outcome returned
    obtain ⟨component, held, ran⟩ := invariant.sound _ returned outcome rfl
    obtain ⟨same, _⟩ := evaluate_ok ran
    exact ⟨same, invariant.agrees.registered held⟩
  case issued =>
    intro A R W req response compiled answered
    obtain ⟨ear, accepted, rest⟩ := Wire.bind_eq_ok.mp answered
    obtain ⟨text, _, same⟩ := Wire.bind_eq_ok.mp rest
    cases same
    obtain ⟨tee, componentId, _, _, appraised⟩ := AppState.appraise_ok accepted
    obtain ⟨_, component, _, held, _⟩ := evaluate_ok appraised.evaluated
    rw [compiled] at held
    have registered := invariant.agrees.registered held
    rwa [← appraised.component_id] at registered

end Reached

section Racing

/-- A component without parts: it compiles, and has no verifier to instantiate. -/
def emptyComponent : Bytes := [0x00, 0x61, 0x73, 0x6d, 0x0d, 0x00, 0x01, 0x00]

def emptyComponentSha : String := "24eaf3439a60c96764c4f2c92a0a81b52bd4fe5d5b91f090184a0f6486b1bf29"

def racingHost : WasmHost where
  sha256Hex bytes := if bytes = emptyComponent then emptyComponentSha else hexEncode bytes
  fromBinary bytes :=
    if bytes = emptyComponent then .ok fun _ _ _ => .error "instantiate component" else .error "compile wasm component"
  allowUnsigned := false
  trustedHashes := [emptyComponentSha]

def firstId : String := "7f1d8a52-3f0e-4a57-9a53-0c9c1c1be0f1"

def secondId : String := "c2a6be0d-55b6-4d0e-8d5a-3a1a34e8a7d2"

/-- Two first submissions of one component, of which the second is enlisted, and then
an evaluation with it. -/
def racingEvents : List Event := [
  .call (.register emptyComponent), .call (.register emptyComponent),
  .step 0 "", .step 1 "", .step 0 "", .step 1 "",
  .step 0 firstId, .step 1 secondId, .step 1 "", .step 0 "", .step 0 "",
  .call (.evaluate ⟨secondId, [], none, none⟩), .step 2 "", .step 2 ""]

def returnedIds (p : Process (referenceCrates [])) : List String :=
  p.calls.filterMap fun
    | .registered _ (.ok id) => some id
    | _ => none

theorem registry_accounted_racing :
    ∃ p : Process (referenceCrates []), returnedIds p = [secondId, secondId] ∧
      p.shared.directory.keys = [fileName secondId] ∧ p.Accounted racingHost ∅ := by
  obtain ⟨p, reached, ended⟩ := @Runs.reaches_of_labels _ _ (Process.step racingHost) Fresh
    (Process.start (referenceCrates []) ∅) racingEvents
    (fun p event => decide (Fresh p event))
    (fun p => decide (returnedIds p = [secondId, secondId] ∧ p.shared.directory.keys = [fileName secondId]))
    (fun _ _ tested => of_decide_eq_true tested) (by decide)
  obtain ⟨ids, files⟩ := of_decide_eq_true ended
  exact ⟨p, ids, files, registry_accounted reached⟩

end Racing

end UnifiedAttestation.Grpc
