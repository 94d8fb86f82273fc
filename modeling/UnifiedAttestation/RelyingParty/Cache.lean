import UnifiedAttestation.Attester.Session
import UnifiedAttestation.RelyingParty.Listener
import UnifiedAttestation.Runs.Machines

/-! The context that the relying party caches, in a file and in memory.

Every accepted connection has a task of its own. A task that received a context first writes
the file and then, in a second step, the shared state. The scheduler picks the tasks in any
order. Writes succeed, and each of them is one step.
-/

set_option autoImplicit false

namespace UnifiedAttestation.RelyingParty

open Wire (Bytes context)
open Toolkit
open Attester (loadPublicContext tcpReadFrame_short)

section Receiving
variable (S : Suite)

/-- The context that a frame brings. -/
def receivedContext (payload : Bytes) : Option (PublicContext S) :=
  match tcpReadFrame payload with
  | .error _ => none
  | .ok message =>
    if startsWith message msgPublicContext then
      (context "decode PublicContext failed" (decodePublicContextMessage S message)).toOption
    else none

variable {S}

/-- What a connection writes, to the file and to the state, is the context that it brings. -/
theorem handle_effects (now : Option Duration) (cached : Option (PublicContext S)) (payload : Bytes) :
    (handle now cached payload).written = (receivedContext S payload).map (encodePublicContext S) ∧
      (handle now cached payload).cached = (receivedContext S payload).or cached := by
  unfold handle receivedContext
  cases tcpReadFrame payload with
  | error fault => exact ⟨rfl, rfl⟩
  | ok message =>
    simp only
    split
    · cases context "decode PublicContext failed" (decodePublicContextMessage S message) with
      | error fault => exact ⟨rfl, rfl⟩
      | ok ctx => exact ⟨rfl, rfl⟩
    · split
      · cases checkEvidence now message with
        | error fault => exact ⟨rfl, rfl⟩
        | ok evidence => cases cached <;> exact ⟨rfl, rfl⟩
      · exact ⟨rfl, rfl⟩

theorem receivedContext_encode (trips : S.RoundTrips) {ctx : PublicContext S}
    (short : (encodePublicContextMessage S ctx).length ≤ maxTcpFrameLen) :
    receivedContext S (encodePublicContextMessage S ctx) = some ctx := by
  have inside : (encodePublicContext S ctx).length ≤ maxTcpFrameLen := by
    simp only [encodePublicContextMessage, encodeTypedMessage, List.length_append] at short
    omega
  have decoded := decodePublicContextMessage_encode trips (Nat.le_trans short (by decide))
    (publicContext_held_of_short inside)
  have typed : startsWith (encodePublicContextMessage S ctx) msgPublicContext = true := startsWith_typed _ _
  simp only [receivedContext, tcpReadFrame_short short, typed, decoded, if_true, Wire.context_ok]
  rfl

end Receiving

section Machine
variable (S : Suite)

/-- How far the task of a connection has come. -/
inductive Stage where
  | accepted (payload : Bytes)
  | saved (ctx : PublicContext S)
  | finished

/-- The listener's tasks in the order of their connections, the two copies of the context,
and which task got the newest context that the verifier has published. -/
structure Cache where
  tasks : List (Stage S)
  file : Option Bytes
  cached : Option (PublicContext S)
  newest : Option (Nat × PublicContext S)

/-- `connect` stands for everybody but the verifier. -/
inductive Label where
  | publish (ctx : PublicContext S)
  | connect (payload : Bytes)
  | serve (task : Nat)
  | store (task : Nat)

variable {S}

/-- The state that `run` starts from, with the file as an earlier run has left it. -/
def Cache.start (file : Option Bytes) : Cache S where
  tasks := []
  file
  cached := (loadPublicContext S file).toOption
  newest := none

def step (s : Cache S) : Label S → Option (Cache S)
  | .publish ctx => some { s with
      tasks := s.tasks ++ [.accepted (encodePublicContextMessage S ctx)]
      newest := some (s.tasks.length, ctx) }
  | .connect payload => some { s with tasks := s.tasks ++ [.accepted payload] }
  | .serve task =>
    match s.tasks[task]? with
    | some (.accepted payload) =>
      match receivedContext S payload with
      | some ctx => some { s with
          tasks := s.tasks.set task (.saved ctx)
          file := some (encodePublicContext S ctx) }
      | none => some { s with tasks := s.tasks.set task .finished }
    | _ => none
  | .store task =>
    match s.tasks[task]? with
    | some (.saved ctx) => some { s with tasks := s.tasks.set task .finished, cached := some ctx }
    | _ => none

/-- What a task does first: it writes the file if it was sent a context, and ends if not. -/
theorem step_serve {s t : Cache S} {task : Nat} (stepped : step s (.serve task) = some t) :
    ∃ payload, s.tasks[task]? = some (.accepted payload) ∧
      (receivedContext S payload = none ∧ t = { s with tasks := s.tasks.set task .finished } ∨
        ∃ ctx, receivedContext S payload = some ctx ∧ t = { s with
          tasks := s.tasks.set task (.saved ctx)
          file := some (encodePublicContext S ctx) }) := by
  simp only [step] at stepped
  split at stepped
  · next payload arrived =>
    refine ⟨payload, arrived, ?_⟩
    split at stepped
    · next ctx received => exact .inr ⟨ctx, received, (Option.some.inj stepped).symm⟩
    · next refused => exact .inl ⟨refused, (Option.some.inj stepped).symm⟩
  · cases stepped

theorem step_store {s t : Cache S} {task : Nat} (stepped : step s (.store task) = some t) :
    ∃ ctx, s.tasks[task]? = some (.saved ctx) ∧
      t = { s with tasks := s.tasks.set task .finished, cached := some ctx } := by
  simp only [step] at stepped
  split at stepped
  · next ctx saved => exact ⟨ctx, saved, (Option.some.inj stepped).symm⟩
  · cases stepped

/-- A connection that is handled at once leaves what `handle` says. -/
theorem step_alone (now : Option Duration) {s : Cache S} {task : Nat} {payload : Bytes}
    (arrived : s.tasks[task]? = some (.accepted payload)) :
    let t : Cache S := { s with
      tasks := s.tasks.set task .finished
      file := (handle now s.cached payload).written.or s.file
      cached := (handle now s.cached payload).cached }
    step s (.serve task) = some t ∨ ∃ between, step s (.serve task) = some between ∧ step between (.store task) = some t := by
  obtain ⟨written, kept⟩ := handle_effects now s.cached payload
  have inside : task < s.tasks.length := (List.getElem?_eq_some_iff.mp arrived).1
  rw [written, kept]
  cases received : receivedContext S payload with
  | none =>
    left
    simp only [step, arrived, received]
    rfl
  | some ctx =>
    right
    have served : step s (.serve task) = some { s with
        tasks := s.tasks.set task (.saved ctx)
        file := some (encodePublicContext S ctx) } := by
      simp only [step, arrived, received]
    refine ⟨_, served, ?_⟩
    simp only [step, List.getElem?_set_self inside, List.set_set]
    rfl

def Stage.hasSaved : Stage S → Bool
  | .accepted _ => false
  | _ => true

def Stage.hasFinished : Stage S → Bool
  | .finished => true
  | _ => false

/-- Whether the newest context is with another task that has already come so far. -/
def Cache.overtaken (s : Cache S) (reached : Stage S → Bool) (task : Nat) : Bool :=
  s.newest.any fun newest => newest.1 != task && s.tasks[newest.1]?.any reached

/-- The context that a task is about to write to the file. -/
def Cache.toSave (s : Cache S) (task : Nat) : Option (PublicContext S) :=
  match s.tasks[task]? with
  | some (.accepted payload) => receivedContext S payload
  | _ => none

/-- Nobody writes the file or the state after the task of the newest context has. -/
def InOrder (s : Cache S) : Label S → Prop
  | .publish ctx => (encodePublicContextMessage S ctx).length ≤ maxTcpFrameLen
  | .connect _ => True
  | .serve task => s.toSave task = none ∨ s.overtaken Stage.hasSaved task = false
  | .store task => s.overtaken Stage.hasFinished task = false

instance (s : Cache S) (label : Label S) : Decidable (InOrder s label) := by
  cases label <;> unfold InOrder <;> infer_instance

/-- File and memory hold the newest context. -/
def Cache.Converged (s : Cache S) : Prop :=
  ∀ task ctx, s.newest = some (task, ctx) → s.file = some (encodePublicContext S ctx) ∧ s.cached = some ctx

def Cache.Quiet (s : Cache S) : Prop := ∀ stage ∈ s.tasks, stage = .finished

end Machine

section Order
variable {S : Suite}

/-- What the task of the newest context has written so far is there. -/
inductive Kept (file : Option Bytes) (cached : Option (PublicContext S)) (ctx : PublicContext S) : Stage S → Prop where
  | accepted (short : (encodePublicContextMessage S ctx).length ≤ maxTcpFrameLen) :
    Kept file cached ctx (.accepted (encodePublicContextMessage S ctx))
  | saved (held : file = some (encodePublicContext S ctx)) : Kept file cached ctx (.saved ctx)
  | finished (held : file = some (encodePublicContext S ctx)) (known : cached = some ctx) :
    Kept file cached ctx .finished

def Cache.Current (s : Cache S) : Prop :=
  ∀ newest ctx, s.newest = some (newest, ctx) → ∃ stage, s.tasks[newest]? = some stage ∧ Kept s.file s.cached ctx stage

/-- What another task does leaves the newest one where it is. -/
theorem Cache.Current.other {s : Cache S} (current : s.Current) {task newest : Nat} {ctx : PublicContext S}
    (named : s.newest = some (newest, ctx)) (apart : task ≠ newest) (stage : Stage S) :
    ∃ held, s.tasks[newest]? = some held ∧ (s.tasks.set task stage)[newest]? = some held ∧
      Kept s.file s.cached ctx held := by
  obtain ⟨held, found, kept⟩ := current newest ctx named
  exact ⟨held, found, by rw [List.getElem?_set_ne apart, found], kept⟩

theorem not_reached {s : Cache S} {task newest : Nat} {ctx : PublicContext S} {held : Stage S}
    {reached : Stage S → Bool} (free : s.overtaken reached task = false) (named : s.newest = some (newest, ctx))
    (apart : task ≠ newest) (found : s.tasks[newest]? = some held) : reached held = false := by
  simpa [Cache.overtaken, named, found, Ne.symm apart] using free

theorem step_current (trips : S.RoundTrips) {s t : Cache S} {label : Label S} (current : s.Current)
    (ordered : InOrder s label) (stepped : step s label = some t) : t.Current := by
  cases label with
  | publish ctx =>
    obtain rfl := Option.some.inj stepped
    intro newest ctx' named
    obtain ⟨rfl, rfl⟩ := Prod.mk.inj (Option.some.inj named)
    exact ⟨_, List.getElem?_concat_length, .accepted ordered⟩
  | connect payload =>
    obtain rfl := Option.some.inj stepped
    intro newest ctx named
    obtain ⟨stage, found, kept⟩ := current newest ctx named
    have inside : newest < s.tasks.length := (List.getElem?_eq_some_iff.mp found).1
    exact ⟨stage, (List.getElem?_append_left inside).trans found, kept⟩
  | serve task =>
    obtain ⟨payload, arrived, ended | ⟨ctx', received, rfl⟩⟩ := step_serve stepped
    · obtain ⟨refused, rfl⟩ := ended
      intro newest ctx named
      by_cases apart : task = newest
      · -- the newest context is never refused
        subst apart
        obtain ⟨stage, found, kept⟩ := current task ctx named
        cases arrived.symm.trans found
        cases kept with
        | accepted short =>
          rw [receivedContext_encode trips short] at refused
          cases refused
      · obtain ⟨held, -, still, kept⟩ := current.other named apart .finished
        exact ⟨held, still, kept⟩
    · intro newest ctx named
      by_cases apart : task = newest
      · subst apart
        obtain ⟨stage, found, kept⟩ := current task ctx named
        cases arrived.symm.trans found
        cases kept with
        | accepted short =>
          obtain rfl := Option.some.inj ((receivedContext_encode trips short).symm.trans received)
          exact ⟨_, List.getElem?_set_self (List.getElem?_eq_some_iff.mp arrived).1, .saved rfl⟩
      · obtain ⟨held, found, still, kept⟩ := current.other named apart (.saved ctx')
        -- In order, an older context is saved only before the newest one is.
        have free : s.overtaken Stage.hasSaved task = false := by
          refine ordered.resolve_left ?_
          simp only [Cache.toSave, arrived, received]
          exact Option.some_ne_none ctx'
        cases kept with
        | accepted short => exact ⟨_, still, .accepted short⟩
        | saved | finished => cases not_reached free named apart found
  | store task =>
    obtain ⟨ctx', saved, rfl⟩ := step_store stepped
    intro newest ctx named
    by_cases apart : task = newest
    · subst apart
      obtain ⟨stage, found, kept⟩ := current task ctx named
      cases saved.symm.trans found
      cases kept with
      | saved held => exact ⟨_, List.getElem?_set_self (List.getElem?_eq_some_iff.mp saved).1, .finished held rfl⟩
    · obtain ⟨held, found, still, kept⟩ := current.other named apart .finished
      cases kept with
      | accepted short => exact ⟨_, still, .accepted short⟩
      | saved file => exact ⟨_, still, .saved file⟩
      | finished => cases not_reached ordered named apart found

/-- In runs in which nobody writes after the task of the newest context, file and memory hold
that context once all tasks have finished. -/
theorem cache_converges (trips : S.RoundTrips) {file : Option Bytes} {s : Cache S}
    (reached : Runs.Reaches step InOrder (Cache.start file) s) (quiet : s.Quiet) : s.Converged := by
  have current : s.Current := by
    refine reached.invariant ?_ fun s label t current ordered stepped => step_current trips current ordered stepped
    intro newest ctx named
    cases named
  intro newest ctx named
  obtain ⟨stage, found, kept⟩ := current newest ctx named
  obtain rfl := quiet stage (List.mem_of_getElem? found)
  cases kept with
  | finished held known => exact ⟨held, known⟩

/-- Only the verifier connects, and its tasks run in any order. -/
def OnlyPublished (_ : Cache S) : Label S → Prop
  | .publish ctx => (encodePublicContextMessage S ctx).length ≤ maxTcpFrameLen
  | .connect _ => False
  | .serve _ | .store _ => True

instance (s : Cache S) (label : Label S) : Decidable (OnlyPublished s label) := by
  cases label <;> unfold OnlyPublished <;> infer_instance

end Order

section Sample

def olderContext : PublicContext reference := ⟨[(1 : Nat)], [9]⟩

def newerContext : PublicContext reference := ⟨[(1 : Nat), (2 : Nat)], [9]⟩

/-- All tasks have finished and the newer context was the last one; file and memory hold these. -/
def Cache.endsWith (file cached : PublicContext reference) (s : Cache reference) : Bool :=
  s.tasks.all Stage.hasFinished &&
    (s.newest.map fun newest => encodePublicContext reference newest.2) == some (encodePublicContext reference newerContext) &&
    s.file == some (encodePublicContext reference file) &&
    (s.cached.map (encodePublicContext reference)) == some (encodePublicContext reference cached)

theorem Cache.endsWith_iff {file cached : PublicContext reference} {s : Cache reference} :
    s.endsWith file cached = true ↔ s.Quiet ∧
      (s.newest.map fun newest => encodePublicContext reference newest.2) =
        some (encodePublicContext reference newerContext) ∧
      s.file = some (encodePublicContext reference file) ∧
      s.cached.map (encodePublicContext reference) = some (encodePublicContext reference cached) := by
  have finished : ∀ stage : Stage reference, stage.hasFinished = true ↔ stage = .finished := by
    intro stage
    cases stage <;> simp [Stage.hasFinished]
  simp only [Cache.endsWith, Cache.Quiet, Bool.and_eq_true, List.all_eq_true, beq_iff_eq, finished, and_assoc]

/-- Of two copies that are not both the newer one, one is stale. -/
theorem Cache.endsWith_stale {file cached : PublicContext reference} {s : Cache reference}
    (ended : s.endsWith file cached = true)
    (stale : encodePublicContext reference file ≠ encodePublicContext reference newerContext ∨
      encodePublicContext reference cached ≠ encodePublicContext reference newerContext) : s.Quiet ∧ ¬ s.Converged := by
  obtain ⟨quiet, newest, held, known⟩ := Cache.endsWith_iff.mp ended
  refine ⟨quiet, fun converged => ?_⟩
  obtain ⟨⟨task, ctx⟩, named, same⟩ := Option.map_eq_some_iff.mp newest
  obtain ⟨held', known'⟩ := converged task ctx named
  rw [held', Option.some.injEq] at held
  rw [known', Option.map_some, Option.some.injEq] at known
  rcases stale with stale | stale
  · exact stale (held.symm.trans same)
  · exact stale (known.symm.trans same)

/-- Tasks overlap, and evidence is served in between. -/
theorem cache_converges_overlapping :
    ∃ s : Cache reference, s.tasks.length = 3 ∧ s.newest.isSome = true ∧ s.Converged := by
  obtain ⟨s, reached, ended⟩ := @Runs.reaches_of_labels _ _ (step (S := reference)) InOrder (Cache.start none)
    [.publish olderContext, .publish newerContext, .connect msgEvidence, .serve 0, .serve 1, .store 0, .serve 2, .store 1]
    (fun s label => decide (InOrder s label))
    (fun s => s.endsWith newerContext newerContext && s.tasks.length == 3 && s.newest.isSome)
    (fun _ _ => of_decide_eq_true) (by decide)
  rw [Bool.and_eq_true, Bool.and_eq_true, beq_iff_eq] at ended
  have quiet := (Cache.endsWith_iff.mp ended.1.1).1
  exact ⟨s, ended.1.2, ended.2, cache_converges reference_roundTrips reached quiet⟩

/-- The task of the older context runs last, or stores what it had written before. -/
theorem cache_overtaken :
    (∃ s : Cache reference, Runs.Reaches step OnlyPublished (Cache.start none) s ∧ s.Quiet ∧ ¬ s.Converged ∧
      s.file = some (encodePublicContext reference olderContext) ∧
      s.cached.map (encodePublicContext reference) = some (encodePublicContext reference olderContext)) ∧
    ∃ s : Cache reference, Runs.Reaches step OnlyPublished (Cache.start none) s ∧ s.Quiet ∧ ¬ s.Converged ∧
      s.file = some (encodePublicContext reference newerContext) ∧
      s.cached.map (encodePublicContext reference) = some (encodePublicContext reference olderContext) := by
  have differ : encodePublicContext reference olderContext ≠ encodePublicContext reference newerContext := by
    decide
  constructor
  · obtain ⟨s, reached, ended⟩ := @Runs.reaches_of_labels _ _ (step (S := reference)) OnlyPublished (Cache.start none)
      [.publish olderContext, .publish newerContext, .serve 1, .store 1, .serve 0, .store 0]
      (fun s label => decide (OnlyPublished s label)) (fun s => s.endsWith olderContext olderContext)
      (fun _ _ => of_decide_eq_true) (by decide)
    obtain ⟨quiet, stale⟩ := s.endsWith_stale ended (.inl differ)
    obtain ⟨-, -, held, known⟩ := Cache.endsWith_iff.mp ended
    exact ⟨s, reached, quiet, stale, held, known⟩
  · obtain ⟨s, reached, ended⟩ := @Runs.reaches_of_labels _ _ (step (S := reference)) OnlyPublished (Cache.start none)
      [.publish olderContext, .publish newerContext, .serve 0, .serve 1, .store 1, .store 0]
      (fun s label => decide (OnlyPublished s label)) (fun s => s.endsWith newerContext olderContext)
      (fun _ _ => of_decide_eq_true) (by decide)
    obtain ⟨quiet, stale⟩ := s.endsWith_stale ended (.inr differ)
    obtain ⟨-, -, held, known⟩ := Cache.endsWith_iff.mp ended
    exact ⟨s, reached, quiet, stale, held, known⟩

end Sample

end UnifiedAttestation.RelyingParty
