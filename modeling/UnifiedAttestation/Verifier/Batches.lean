import UnifiedAttestation.Verifier.Daemon
import UnifiedAttestation.Toolkit.Reference
import UnifiedAttestation.Shrubs.Owners
import UnifiedAttestation.Shrubs.Building

/-! Nobody who was queued is lost or processed twice.

Every critical section keeps the tree, its leaves and the sessions in step, and a
batch splits the positions of all sessions into affected, unaffected and new ones.
-/

set_option autoImplicit false

namespace UnifiedAttestation.Verifier

open Shrubs (Returned affectedIndices findOwnerRoot createBatchDevices insertBatchDevices)
open Toolkit

section Positions

/-- Growing from `old` to `total` leaves gives the position another owner root. -/
def Moves (old total p : Nat) : Prop := findOwnerRoot (p + 1) old ≠ findOwnerRoot (p + 1) total

instance (old total p : Nat) : Decidable (Moves old total p) := inferInstanceAs (Decidable (_ ≠ _))

theorem mapM_pred (positions : List Nat) :
    ((positions.map (1 + ·)).mapM fun index => if 0 < index then some (index - 1) else none) = some positions := by
  induction positions with
  | nil => rfl
  | cons p rest ih => simp [ih]

theorem affectedOld_eq (oldTotal inserted : Nat) :
    affectedOld oldTotal inserted = some ((List.range oldTotal).filter (Moves oldTotal (oldTotal + inserted))) := by
  unfold affectedOld
  split
  · rename_i none
    simp [none]
  · rename_i some
    have positions : List.range' 1 oldTotal = (List.range oldTotal).map (1 + ·) := by
      rw [List.range_eq_range', List.map_add_range']
    rw [Shrubs.affectedIndices_eq inserted (Nat.pos_of_ne_zero some), positions, List.filter_map]
    refine (mapM_pred _).trans ?_
    congr 2
    funext p
    simp only [Function.comp, Moves, Nat.add_comm 1 p]
    rfl

theorem foldl_set_getElem? (affected : List Nat) (flags : List Bool) (p : Nat) :
    (affected.foldl (fun flags index => flags.set index true) flags)[p]? =
      if p ∈ affected ∧ p < flags.length then some true else flags[p]? := by
  induction affected generalizing flags with
  | nil => simp
  | cons index rest ih =>
    simp only [List.foldl_cons, ih, List.length_set, List.getElem?_set, List.mem_cons]
    by_cases here : p = index
    · subst here
      by_cases inside : p < flags.length
      · simp [inside]
      · simp [inside]
    · simp [here, Ne.symm here]

theorem needsPathRefresh_getElem? {oldTotal p : Nat} (affected : List Nat) (inside : p < oldTotal) :
    (needsPathRefresh oldTotal affected)[p]? = some (decide (p ∈ affected)) := by
  rw [needsPathRefresh, foldl_set_getElem?, List.length_replicate, List.getElem?_replicate, if_pos inside]
  by_cases member : p ∈ affected
  · simp [member, inside]
  · simp [member]

variable {S : Suite}

theorem withoutRefresh_eq {oldTotal : Nat} (affected : List Nat) {snapshots : List (AttesterSnapshot S)}
    (inside : ∀ snapshot ∈ snapshots, snapshot.1 < oldTotal) :
    withoutRefresh (needsPathRefresh oldTotal affected) snapshots =
      some (snapshots.filter fun snapshot => snapshot.1 ∉ affected) := by
  induction snapshots with
  | nil => rfl
  | cons snapshot rest ih =>
    obtain ⟨index, item⟩ := snapshot
    have tail := ih fun other member => inside other (List.mem_cons_of_mem _ member)
    have mark := needsPathRefresh_getElem? affected (inside (index, item) List.mem_cons_self)
    simp only [withoutRefresh, mark, tail, Option.bind_eq_bind, Option.bind_some, List.filter_cons]
    by_cases member : index ∈ affected <;> simp [member]

theorem mem_snapshotsAt {active : List (AttesterSession S)} {indices : List Nat} {snapshot : AttesterSnapshot S} :
    snapshot ∈ snapshotsAt active indices ↔ snapshot.1 ∈ indices ∧ active[snapshot.1]? = some snapshot.2 := by
  obtain ⟨index, item⟩ := snapshot
  simp only [snapshotsAt, List.mem_filterMap, Option.map_eq_some_iff, Prod.mk.injEq]
  constructor
  · rintro ⟨_, member, _, found, rfl, rfl⟩
    exact ⟨member, found⟩
  · rintro ⟨member, found⟩
    exact ⟨index, member, item, found, rfl, rfl⟩

theorem snapshotsAt_indices {active : List (AttesterSession S)} {indices : List Nat}
    (inside : ∀ index ∈ indices, index < active.length) : (snapshotsAt active indices).map Prod.fst = indices := by
  induction indices with
  | nil => rfl
  | cons index rest ih =>
    have here := inside index List.mem_cons_self
    have tail := ih fun other member => inside other (List.mem_cons_of_mem _ member)
    rw [snapshotsAt] at tail ⊢
    simp [List.getElem?_eq_getElem here, tail]

theorem mem_mapIdx_mk {active : List (AttesterSession S)} {snapshot : AttesterSnapshot S} :
    snapshot ∈ active.mapIdx Prod.mk ↔ active[snapshot.1]? = some snapshot.2 := by
  obtain ⟨index, item⟩ := snapshot
  simp only [List.mem_mapIdx, List.getElem?_eq_some_iff]
  constructor
  · rintro ⟨i, inside, same⟩
    obtain ⟨rfl, rfl⟩ := Prod.mk.inj same
    exact ⟨inside, rfl⟩
  · rintro ⟨inside, rfl⟩
    exact ⟨index, inside, rfl⟩

theorem mapIdx_mk_indices (active : List (AttesterSession S)) :
    (active.mapIdx Prod.mk).map Prod.fst = List.range active.length := by
  apply List.ext_getElem
  · simp
  · intro i _ _
    simp

end Positions

section Sections
variable {S : Suite}

/-- The sessions, the leaves and the roots belong together. -/
structure VerifierState.Consistent (state : VerifierState S) : Prop where
  aligned : state.active.map (fun session => session.merkleLeaf) = state.oldLeaves
  created : state.hasCreatedTree = true ↔ state.oldLeaves ≠ []
  root : state.root = createBatchDevices S.hash [] state.oldLeaves

/-- All snapshots of a batch, in the order they are served. -/
def Batch.snapshots (batch : Batch S) : List (AttesterSnapshot S) :=
  batch.affectedOldSnapshots ++ batch.unaffectedOldSnapshots ++ batch.newSnapshots

/-- A batch that grows the first `old` of the sessions to all of them. -/
structure Formed (verifierPk : S.VerifyingKey) (sessions : List (AttesterSession S)) (old : Nat)
    (batch : Batch S) : Prop where
  leaves : batch.leaves = sessions.map fun session => session.merkleLeaf
  root : batch.root = createBatchDevices S.hash [] batch.leaves
  context : batch.publicContext = ⟨batch.root, verifierPk⟩
  grows : old < sessions.length
  affected : batch.affectedOldSnapshots.map Prod.fst = (List.range old).filter (Moves old sessions.length)
  unaffected :
    batch.unaffectedOldSnapshots.map Prod.fst = (List.range old).filter fun p => ¬ Moves old sessions.length p
  fresh : batch.newSnapshots.map Prod.fst = List.range' old (sessions.length - old)
  items : ∀ snapshot ∈ batch.snapshots, sessions[snapshot.1]? = some snapshot.2

theorem insertLeaves_eq {state : VerifierState S} (consistent : state.Consistent) {batchLeaves : List S.Scalar}
    (occupied : batchLeaves ≠ []) :
    insertLeaves state batchLeaves = some { state with
      root := createBatchDevices S.hash [] (state.oldLeaves ++ batchLeaves)
      oldLeaves := state.oldLeaves ++ batchLeaves
      hasCreatedTree := true } := by
  unfold insertLeaves
  split
  · rename_i created
    have commits := Shrubs.createBatchDevices_commits S.hash state.oldLeaves
    obtain ⟨root, inserted, grown⟩ :=
      Shrubs.insertBatchDevices_commits commits (consistent.created.mp created) occupied
    rw [consistent.root, inserted, grown.unique S.hash (Shrubs.createBatchDevices_commits S.hash _), Option.map_some,
      created]
  · rfl

theorem processBatch_idle (verifierPk : S.VerifyingKey) {state : VerifierState S} (idle : state.pending = []) :
    processBatch verifierPk state = some ({ state with batchTimerRunning := false }, none) := by
  rw [processBatch, idle]
  rfl

/-- With attesters pending the critical section activates all of them in one batch. -/
theorem processBatch_formed (verifierPk : S.VerifyingKey) {state : VerifierState S} (consistent : state.Consistent)
    (occupied : state.pending ≠ []) :
    ∃ next batch, processBatch verifierPk state = some (next, some batch) ∧ next.Consistent ∧
      next.active = state.active ++ state.pending ∧ next.pending = [] ∧ next.batchTimerRunning = false ∧
      batch.leaves = next.oldLeaves ∧ Formed verifierPk (state.active ++ state.pending) state.active.length batch := by
  have nonempty : ¬ state.pending.isEmpty = true := by simpa using occupied
  have leaves : state.pending.map (fun item => item.merkleLeaf) ≠ [] := by simpa using occupied
  have emptied : VerifierState.Consistent { state with pending := [], batchTimerRunning := false } :=
    ⟨consistent.aligned, consistent.created, consistent.root⟩
  have inserted := insertLeaves_eq emptied leaves
  have more : 0 < state.pending.length := List.length_pos_of_ne_nil occupied
  have old : (state.active ++ state.pending).take state.active.length = state.active := List.take_left
  have total : (state.active ++ state.pending).length = state.active.length + state.pending.length :=
    List.length_append
  have inOld : ∀ snapshot ∈ state.active.mapIdx Prod.mk, snapshot.1 < state.active.length := by
    intro snapshot member
    exact (List.getElem?_eq_some_iff.mp (mem_mapIdx_mk.mp member)).1
  rw [processBatch, if_neg nonempty]
  simp only [inserted, affectedOld_eq, Option.bind_eq_bind, Option.bind_some, old,
    withoutRefresh_eq _ inOld]
  refine ⟨_, _, rfl, ?_, rfl, rfl, rfl, rfl, ?_⟩
  · refine ⟨?_, ?_, rfl⟩
    · rw [List.map_append, consistent.aligned]
    · simp [leaves]
  · refine ⟨?_, rfl, rfl, by omega, ?_, ?_, ?_, ?_⟩
    · rw [List.map_append, consistent.aligned]
    · rw [snapshotsAt_indices, total]
      intro p member
      have := List.mem_range.mp (List.mem_filter.mp member).1
      omega
    · -- The old sessions that only get the context are those whose paths do not move.
      have split : ((state.active.mapIdx Prod.mk).filter fun snapshot => snapshot.1 ∉
          (List.range state.active.length).filter (Moves state.active.length (state.active.length + state.pending.length))) =
          (state.active.mapIdx Prod.mk).filter
            ((fun p => decide ¬ Moves state.active.length (state.active.length + state.pending.length) p) ∘ Prod.fst) := by
        apply List.filter_congr
        intro snapshot member
        simp [inOld snapshot member]
      rw [split, ← List.filter_map, mapIdx_mk_indices, total]
    · rw [snapshotsAt_indices, total, Nat.add_sub_cancel_left]
      intro p member
      have := List.mem_range'_1.mp member
      omega
    · intro snapshot member
      simp only [Batch.snapshots, List.mem_append] at member
      rcases member with (member | member) | member
      · exact (mem_snapshotsAt.mp member).2
      · have inside := inOld snapshot (List.mem_filter.mp member).1
        rw [List.getElem?_append_left inside]
        exact mem_mapIdx_mk.mp (List.mem_filter.mp member).1
      · exact (mem_snapshotsAt.mp member).2

/-- Every session is in exactly one of the three lists of a batch. -/
theorem Formed.partition {verifierPk : S.VerifyingKey} {sessions : List (AttesterSession S)} {old : Nat}
    {batch : Batch S} (formed : Formed verifierPk sessions old batch) :
    (batch.snapshots.map Prod.fst).Perm (List.range sessions.length) := by
  have whole : List.range sessions.length = List.range old ++ List.range' old (sessions.length - old) := by
    have joined := List.range'_append_1 (s := 0) (m := old) (n := sessions.length - old)
    rw [Nat.zero_add, Nat.add_sub_cancel' formed.grows.le] at joined
    rw [List.range_eq_range', List.range_eq_range', joined]
  rw [Batch.snapshots, List.map_append, List.map_append, formed.affected, formed.unaffected, formed.fresh, whole]
  apply List.Perm.append_right
  simpa using List.filter_append_perm (fun p => decide (Moves old sessions.length p)) (List.range old)

end Sections

section Frames
variable {S : Suite}

/-- A session as it was queued. -/
def AttesterSession.fresh (session : AttesterSession S) : AttesterSession S := { session with response := none }

theorem map_modify {α β : Type} (f : α → β) (g : α → α) (same : ∀ a, f (g a) = f a) (items : List α) (i : Nat) :
    (items.modify i g).map f = items.map f := by
  apply List.ext_getElem?
  intro k
  rw [List.getElem?_map, List.getElem?_map, List.getElem?_modify]
  by_cases here : i = k
  · cases found : items[k]? <;> simp [here, same]
  · cases found : items[k]? <;> simp [here]

/-- Storing responses changes nothing but the responses. -/
theorem storeResponses_map {β : Type} (f : AttesterSession S → β)
    (blind : ∀ session response, f { session with response } = f session) (active : List (AttesterSession S))
    (computed : List (ComputedResponse S)) : (storeResponses active computed).map f = active.map f := by
  induction computed generalizing active with
  | nil => rfl
  | cons result rest ih =>
    rw [storeResponses, List.foldl_cons]
    exact (ih _).trans (map_modify f _ (fun session => blind session _) active result.index)

variable {config : Config S} {daemon next : Daemon S}

theorem act_frame {now : Nat → Duration} {draw : Nat → Draw S} {index : Nat} {task : Task S} {action : Action S}
    {rest : List (Action S)} (moved : act config now draw daemon index task action rest = next) :
    ∃ active, next.state = { daemon.state with active } ∧ next.timers = daemon.timers ∧
      next.queued = daemon.queued ∧ ∀ {β : Type} (f : AttesterSession S → β),
        (∀ session response, f { session with response } = f session) →
        active.map f = daemon.state.active.map f := by
  subst moved
  cases action with
  | respond snapshots =>
    simp only [act]
    split
    · exact ⟨_, rfl, rfl, rfl, fun _ _ => rfl⟩
    · exact ⟨_, rfl, rfl, rfl, fun f blind => storeResponses_map f blind _ _⟩
  | send socket update => exact ⟨_, rfl, rfl, rfl, fun _ _ => rfl⟩
  | publish addr => exact ⟨_, rfl, rfl, rfl, fun _ _ => rfl⟩

theorem step_act {index : Nat} {now : Nat → Duration} {draw : Nat → Draw S}
    (stepped : step config daemon (.act index now draw) = some next) :
    ∃ task action rest, daemon.tasks[index]? = some task ∧ task.todo = action :: rest ∧
      act config now draw daemon index task action rest = next := by
  simp only [step] at stepped
  split at stepped
  · cases stepped
  · rename_i task found
    split at stepped
    · cases stepped
    · rename_i action rest todo
      exact ⟨task, action, rest, found, todo, Option.some.inj stepped⟩

theorem step_process {timer : Nat} (stepped : step config daemon (.process timer) = some next) :
    ∃ state batch, timer < daemon.timers.length ∧
      processBatch config.verifierKey.verifyingKey daemon.state = some (state, batch) ∧
      next = { daemon with
        state
        timers := daemon.timers.eraseIdx timer
        tasks := daemon.tasks ++ (batch.map fun batch => ⟨batch, batch.todo config⟩).toList } := by
  simp only [step, Option.ite_none_right_eq_some, Option.map_eq_some_iff, Prod.exists] at stepped
  obtain ⟨due, state, batch, processed, rfl⟩ := stepped
  exact ⟨state, batch, (List.getElem?_eq_some_iff.mp due).1, processed, rfl⟩

end Frames

section Accounting
variable {S : Suite} {config : Config S} {daemon next : Daemon S}

/-- What holds between the sessions, the timer and the tree at any time. -/
structure Accounted (daemon : Daemon S) : Prop where
  consistent : daemon.state.Consistent
  waiting : daemon.state.pending ≠ [] → daemon.state.batchTimerRunning = true
  timer : daemon.timers.length = if daemon.state.batchTimerRunning then 1 else 0
  sessions : (daemon.state.active ++ daemon.state.pending).map AttesterSession.fresh = daemon.queued
  numbered : daemon.queued.map (fun session => session.socket) = List.range daemon.queued.length

theorem init_accounted : Accounted (Daemon.init S) where
  consistent := ⟨rfl, by simp [Daemon.init, VerifierState.new], by simp [Daemon.init, VerifierState.new]⟩
  waiting occupied := absurd rfl occupied
  timer := rfl
  sessions := rfl
  numbered := rfl

theorem Accounted.queue (accounted : Accounted daemon) {devInfor : DeviceClientInfor S} {attesterAddr : String}
    (stepped : step config daemon (.queue devInfor attesterAddr) = some next) : Accounted next := by
  obtain ⟨consistent, waiting, timer, sessions, numbered⟩ := accounted
  have numbered' : (daemon.queued ++ [newSession daemon.queued.length devInfor attesterAddr]).map
      (fun session => session.socket) = List.range (daemon.queued.length + 1) := by
    rw [List.map_append, numbered, List.range_succ]
    rfl
  have sessions' : (daemon.state.active ++ (daemon.state.pending ++
      [newSession daemon.queued.length devInfor attesterAddr])).map AttesterSession.fresh =
      daemon.queued ++ [newSession daemon.queued.length devInfor attesterAddr] := by
    rw [← List.append_assoc, List.map_append, sessions]
    rfl
  simp only [step, queueAttester] at stepped
  split at stepped
  · rename_i running
    obtain rfl := Option.some.inj stepped
    exact ⟨⟨consistent.aligned, consistent.created, consistent.root⟩, fun _ => running, timer, sessions',
      by simpa using numbered'⟩
  · rename_i idle
    obtain rfl := Option.some.inj stepped
    have none : daemon.timers.length = 0 := timer.trans (if_neg idle)
    refine ⟨⟨consistent.aligned, consistent.created, consistent.root⟩, fun _ => rfl, ?_, sessions',
      by simpa using numbered'⟩
    simp [none]

/-- The critical section runs through and accounts for everybody who was pending. -/
theorem Accounted.process (accounted : Accounted daemon) {timer : Nat}
    (stepped : step config daemon (.process timer) = some next) : Accounted next := by
  obtain ⟨state, batch, due, processed, rfl⟩ := step_process stepped
  obtain ⟨consistent, waiting, timers, sessions, numbered⟩ := accounted
  have running : daemon.state.batchTimerRunning = true := by
    by_contra idle
    rw [if_neg idle] at timers
    omega
  rw [if_pos running] at timers
  have erased : (daemon.timers.eraseIdx timer).length = 0 := by
    rw [List.length_eraseIdx_of_lt due]
    omega
  by_cases idle : daemon.state.pending = []
  · rw [processBatch_idle _ idle] at processed
    obtain ⟨rfl, rfl⟩ := Prod.mk.inj (Option.some.inj processed)
    exact ⟨⟨consistent.aligned, consistent.created, consistent.root⟩, fun occupied => absurd idle occupied,
      erased, sessions, numbered⟩
  · obtain ⟨state', batch', processed', consistent', active, pending, stopped, -, -⟩ :=
      processBatch_formed config.verifierKey.verifyingKey consistent idle
    rw [processed'] at processed
    obtain ⟨rfl, rfl⟩ := Prod.mk.inj (Option.some.inj processed)
    refine ⟨consistent', fun occupied => absurd pending occupied, ?_, ?_, numbered⟩
    · rw [if_neg (by simp [stopped])]
      exact erased
    · simp only [active, pending, List.append_nil]
      exact sessions

theorem Accounted.act (accounted : Accounted daemon) {index : Nat} {now : Nat → Duration} {draw : Nat → Draw S}
    (stepped : step config daemon (.act index now draw) = some next) : Accounted next := by
  obtain ⟨task, action, rest, -, -, moved⟩ := step_act stepped
  obtain ⟨active, state, timers, queued, blind⟩ := act_frame moved
  obtain ⟨consistent, waiting, timer, sessions, numbered⟩ := accounted
  refine ⟨?consistent, ?waiting, ?timer, ?sessions, ?numbered⟩
  case consistent =>
    rw [state]
    refine ⟨?_, consistent.created, consistent.root⟩
    exact (blind (fun session => session.merkleLeaf) fun _ _ => rfl).trans consistent.aligned
  case waiting =>
    rw [state]
    exact waiting
  case timer =>
    rw [state, timers]
    exact timer
  case sessions =>
    rw [state, queued, ← sessions, List.map_append, List.map_append, blind AttesterSession.fresh fun _ _ => rfl]
  case numbered =>
    rw [queued]
    exact numbered

theorem Accounted.step (accounted : Accounted daemon) {label : Label S}
    (stepped : step config daemon label = some next) : Accounted next := by
  cases label with
  | queue devInfor attesterAddr => exact accounted.queue stepped
  | spawn timer | elapse timer =>
    -- the timer moves on and stays the only one
    simp only [Verifier.step, Option.ite_none_right_eq_some] at stepped
    obtain ⟨-, stepped⟩ := stepped
    obtain rfl := Option.some.inj stepped
    exact ⟨accounted.consistent, accounted.waiting, by simpa using accounted.timer, accounted.sessions,
      accounted.numbered⟩
  | process timer => exact accounted.process stepped
  | act index now draw => exact accounted.act stepped

theorem Reached.accounted {permits : Daemon S → Label S → Prop}
    (reached : Runs.Reaches (step config) permits (Daemon.init S) daemon) : Accounted daemon :=
  reached.invariant init_accounted fun _ _ _ accounted _ stepped => accounted.step stepped

theorem Accounted.socket (accounted : Accounted daemon) {i : Nat} {session : AttesterSession S}
    (found : (daemon.state.active ++ daemon.state.pending)[i]? = some session) : session.socket = i := by
  have queued := congrArg (fun sessions => (sessions.map fun session => session.socket)[i]?) accounted.sessions
  simp only [accounted.numbered, List.getElem?_map, found, Option.map_some] at queued
  obtain ⟨_, same⟩ := List.getElem?_eq_some_iff.mp queued.symm
  rw [List.getElem_range] at same
  exact same.symm

/-- The connections an action serves. -/
def Action.targets : Action S → List Nat
  | .respond snapshots => snapshots.map fun snapshot => snapshot.2.socket
  | .send socket _ => [socket]
  | .publish _ => []

theorem Batch.todo_targets (config : Config S) (batch : Batch S) :
    (batch.todo config).flatMap Action.targets = batch.snapshots.map fun snapshot => snapshot.2.socket := by
  have sends : (batch.unaffectedOldSnapshots.map fun snapshot => Action.send snapshot.2.socket
      (Update.context batch.publicContext (encodePublicContextMessage S batch.publicContext))).flatMap Action.targets =
        batch.unaffectedOldSnapshots.map fun snapshot => snapshot.2.socket := by
    rw [List.flatMap_map]
    exact List.map_eq_flatMap.symm
  have publishes : (config.relyingPartyAddrs.map Action.publish).flatMap (@Action.targets S) = [] := by
    simp [List.flatMap_map, Action.targets]
  simp only [Batch.todo, Batch.snapshots, List.flatMap_append, List.map_append, sends, publishes, List.append_nil]
  simp [Action.targets]

/-- Every reachable state accounts for all sessions, and its next critical section
serves every active session exactly once. -/
theorem reachable_accounted
    (reached : Runs.Reaches (step config) (fun _ _ => True) (Daemon.init S) daemon) :
    Accounted daemon ∧ ∃ state batch,
      processBatch config.verifierKey.verifyingKey daemon.state = some (state, batch) ∧
      (daemon.state.pending ≠ [] → batch ≠ none) ∧
      ∀ formed ∈ batch, (formed.snapshots.map Prod.fst).Perm (List.range state.active.length) ∧
        (∀ snapshot ∈ formed.snapshots, state.active[snapshot.1]? = some snapshot.2) ∧
        ((formed.todo config).flatMap Action.targets).Perm (List.range state.active.length) := by
  have accounted := Reached.accounted reached
  refine ⟨accounted, ?_⟩
  by_cases idle : daemon.state.pending = []
  · exact ⟨_, none, processBatch_idle _ idle, fun occupied => absurd idle occupied, fun _ absent => by cases absent⟩
  · obtain ⟨state, batch, processed, -, active, -, -, -, formed⟩ :=
      processBatch_formed config.verifierKey.verifyingKey accounted.consistent idle
    refine ⟨state, some batch, processed, fun _ => Option.some_ne_none _, ?_⟩
    rintro _ ⟨⟩
    rw [active]
    refine ⟨formed.partition, formed.items, ?_⟩
    rw [Batch.todo_targets]
    have sockets : batch.snapshots.map (fun snapshot => snapshot.2.socket) = batch.snapshots.map Prod.fst := by
      apply List.map_congr_left
      intro snapshot member
      exact accounted.socket (formed.items snapshot member)
    rw [sockets]
    exact formed.partition

end Accounting

section Sample

def sampleConfig : Config reference := ⟨⟨byteKey 0, List.replicate 32 0, rfl⟩, ["127.0.0.1:7002"]⟩

/-- A submission of the key with that byte, for any leaf. -/
def sampleSubmission (byte : UInt8) (leaf : Nat) : DeviceClientInfor reference :=
  ⟨List.replicate 32 byte, "m", leaf, Duration.fromSecs 0 (by decide), responsePeriod⟩

/-- The submissions arrive, the timer runs off and their batch is formed. -/
def sampleBatch (submissions : List (DeviceClientInfor reference)) : List (Label reference) :=
  submissions.map (fun devInfor => .queue devInfor "127.0.0.1:9000") ++ [.spawn 0, .elapse 0, .process 0]

def sampleDraw : Draw reference := ⟨byteKey 1, List.replicate 12 0, rfl⟩

def sampleActs (task count : Nat) : List (Label reference) :=
  List.replicate count (.act task (fun _ => Duration.fromSecs 0 (by decide)) fun _ => sampleDraw)

theorem reachable_accounted_second :
    ∃ daemon : Daemon reference, (daemon.state.active.length = 1 ∧ daemon.state.pending.length = 1) ∧
      Accounted daemon := by
  obtain ⟨daemon, reached, sizes⟩ := @Runs.reaches_of_labels _ _ (step sampleConfig) (fun _ _ => True)
    (Daemon.init reference) (sampleBatch [sampleSubmission 1 3] ++ [.queue (sampleSubmission 2 8) "b"]) (fun _ _ => true)
    (fun daemon => decide (daemon.state.active.length = 1 ∧ daemon.state.pending.length = 1))
    (fun _ _ _ => trivial) (by decide)
  exact ⟨daemon, of_decide_eq_true sizes, (reachable_accounted reached).1⟩

end Sample

end UnifiedAttestation.Verifier
