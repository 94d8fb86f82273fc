import UnifiedAttestation.Toolkit.Submissions
import UnifiedAttestation.Shrubs.Tree
import UnifiedAttestation.Runs.Machines

/-! The verifier's daemon: its shared state, the critical sections of its tasks and
the machine in which they interleave.

Connections are numbered in the order their attesters are queued, and deliver what
is written to them. The copies of the responses on disk are left out, as nothing
reads them, and the clock of the daemon is after the epoch.
-/

set_option autoImplicit false

namespace UnifiedAttestation.Verifier

open Wire (Bytes Outcome Fault toBeBytes bail context orPanic)
open Shrubs (Returned affectedIndices createBatchDevices insertBatchDevices findDeviceShrubsPathTag)
open Toolkit

section Sessions
variable (S : Suite)

structure AttesterSession where
  socket : Nat
  devInfor : DeviceClientInfor S
  merkleLeaf : S.Scalar
  response : Option (ResponseDeviceInfor S)
  attesterAddr : String

structure VerifierState where
  root : List S.Scalar
  oldLeaves : List S.Scalar
  pending : List (AttesterSession S)
  active : List (AttesterSession S)
  hasCreatedTree : Bool
  batchTimerRunning : Bool

def VerifierState.new : VerifierState S := ⟨[], [], [], [], false, false⟩

abbrev AttesterSnapshot := Nat × AttesterSession S

/-- What one critical section hands to the rest of its task. -/
structure Batch where
  affectedOldSnapshots : List (AttesterSnapshot S)
  unaffectedOldSnapshots : List (AttesterSnapshot S)
  newSnapshots : List (AttesterSnapshot S)
  root : List S.Scalar
  leaves : List S.Scalar
  publicContext : PublicContext S

structure ComputedResponse where
  index : Nat
  socket : Nat
  attesterAddr : String
  response : ResponseDeviceInfor S
  encrypted : Bytes

/-- A frame to an attester, with what was encoded into it. -/
inductive Update where
  | response (devRes : ResponseDeviceInfor S) (publicContext : PublicContext S) (frame : Bytes)
  | context (publicContext : PublicContext S) (frame : Bytes)

end Sessions

/-- The part of `handle_request` before the attester is queued. -/
def handleRequest (S : Suite) (now : Option Duration) (payload : Bytes) : Outcome (DeviceClientInfor S) := do
  let message ← tcpReadFrame payload
  if startsWith message msgDeviceInfor then do
    let signedDevInfor ← context "decode signed attester DeviceClientInfor failed"
      (decodeSignedDeviceClientInforMessage message)
    let devInfor ← context "verify attester DeviceClientInfor signature failed"
      (verifySignedDeviceClientInforWire S signedDevInfor)
    context "verify DeviceClientInfor freshness failed" (verifyDeviceClientInforFreshness now devInfor)
    pure devInfor
  else bail ("unknown hydra message type: " ++ debugFront message)

section Locked
variable {S : Suite}

def newSession (socket : Nat) (devInfor : DeviceClientInfor S) (attesterAddr : String) : AttesterSession S where
  socket := socket
  devInfor := devInfor
  merkleLeaf := devInfor.merkleLeaf
  response := none
  attesterAddr := attesterAddr

/-- The critical section of `queue_attester`, and whether a timer is to be started. -/
def queueAttester (state : VerifierState S) (session : AttesterSession S) : VerifierState S × Bool :=
  let state := { state with pending := state.pending ++ [session] }
  if state.batchTimerRunning then (state, false) else ({ state with batchTimerRunning := true }, true)

/-- Insert the leaves of a batch into the tree, or build it from all leaves. -/
def insertLeaves (state : VerifierState S) (batchLeaves : List S.Scalar) : Returned (VerifierState S) :=
  if state.hasCreatedTree then
    (insertBatchDevices S.hash state.root state.oldLeaves batchLeaves).map fun root =>
      { state with root, oldLeaves := state.oldLeaves ++ batchLeaves }
  else
    let oldLeaves := state.oldLeaves ++ batchLeaves
    some { state with oldLeaves, root := createBatchDevices S.hash [] oldLeaves, hasCreatedTree := true }

/-- The 0-based positions of the old attesters whose owner root changes. -/
def affectedOld (oldTotal inserted : Nat) : Returned (List Nat) :=
  if oldTotal = 0 then some []
  else do
    let indices ← affectedIndices oldTotal inserted
    indices.mapM fun index => if 0 < index then some (index - 1) else none

def needsPathRefresh (oldTotal : Nat) (affected : List Nat) : List Bool :=
  affected.foldl (fun flags index => flags.set index true) (List.replicate oldTotal false)

def snapshotsAt (active : List (AttesterSession S)) (indices : List Nat) : List (AttesterSnapshot S) :=
  indices.filterMap fun index => active[index]?.map fun item => (index, item)

/-- The snapshots whose position is not marked. -/
def withoutRefresh (needs : List Bool) : List (AttesterSnapshot S) → Returned (List (AttesterSnapshot S))
  | [] => some []
  | (index, item) :: rest => do
    let marked ← needs[index]?
    let kept ← withoutRefresh needs rest
    if marked then some kept else some ((index, item) :: kept)

/-- The critical section of `process_batch`. -/
def processBatch (verifierPk : S.VerifyingKey) (state : VerifierState S) :
    Returned (VerifierState S × Option (Batch S)) :=
  if state.pending.isEmpty then some ({ state with batchTimerRunning := false }, none)
  else do
    let oldTotal := state.active.length
    let pending := state.pending
    let inserted := pending.length
    let batchLeaves := pending.map fun item => item.merkleLeaf
    let tree ← insertLeaves { state with pending := [], batchTimerRunning := false } batchLeaves
    let state := { tree with active := tree.active ++ pending }
    let affected ← affectedOld oldTotal inserted
    let unaffectedOldSnapshots ←
      withoutRefresh (needsPathRefresh oldTotal affected) ((state.active.take oldTotal).mapIdx Prod.mk)
    let batch : Batch S :=
      { affectedOldSnapshots := snapshotsAt state.active affected
        unaffectedOldSnapshots
        newSnapshots := snapshotsAt state.active (List.range' oldTotal inserted)
        root := state.root
        leaves := state.oldLeaves
        publicContext := ⟨state.root, verifierPk⟩ }
    some (state, some batch)

end Locked

section Responses
variable {S : Suite}

/-- The message that `verifier_compute_sig` puts together. -/
def verifierSigningBytes (deviceTime : ResponseDeviceInfor S) (deviceAuthorInfor : S.Scalar) : Bytes :=
  S.pointBytes deviceTime.verifyingKey ++ S.showScalar deviceAuthorInfor ++
    toBeBytes 8 deviceTime.timestamp.secs ++ toBeBytes 8 deviceTime.period.secs

def verifierComputeSig (verifierKey : KeyInfor S) (deviceTime : ResponseDeviceInfor S)
    (deviceAuthorInfor : S.Scalar) : S.Signature :=
  S.sign verifierKey.signingKey (verifierSigningBytes deviceTime deviceAuthorInfor)

def buildEncryptedAttesterResponse (verifierKey : KeyInfor S) (now : Duration) (draw : Draw S) (index : Nat)
    (item : AttesterSession S) (root leaves : List S.Scalar) (publicContext : PublicContext S) :
    Outcome (ComputedResponse S) := do
  let devRes := item.response.getD (ResponseDeviceInfor.new S now item.devInfor.verifyingKey)
  let devRes := { devRes with attesterAddr := item.attesterAddr }
  let (shrubsPath, shrubsTag) ← orPanic (findDeviceShrubsPathTag S.hash root leaves item.merkleLeaf)
  let devRes := { devRes with shrubsPath, shrubsTag }
  let deviceAuthorInfor := generateDeviceAuthoriedInfor S item.devInfor devRes
  let sig := verifierComputeSig verifierKey devRes deviceAuthorInfor
  let devRes := { devRes with sig := some sig }
  let encrypted ← encodeEncryptedVerifierResponse S draw devRes publicContext item.devInfor.verifyingKey
  pure { index, socket := item.socket, attesterAddr := item.attesterAddr, response := devRes, encrypted }

/-- All responses of a batch: failed ones are dropped, one that panics takes the task down. -/
def computeResponses (build : AttesterSnapshot S → Outcome (ComputedResponse S)) :
    List (AttesterSnapshot S) → Returned (List (ComputedResponse S))
  | [] => some []
  | snapshot :: rest =>
    match build snapshot with
    | .error .panic => none
    | .error (.error _) => computeResponses build rest
    | .ok computed => (computeResponses build rest).map (computed :: ·)

def storeResponses (active : List (AttesterSession S)) (computed : List (ComputedResponse S)) :
    List (AttesterSession S) :=
  computed.foldl
    (fun active result => active.modify result.index fun session => { session with response := some result.response })
    active

end Responses

section Machine
variable (S : Suite)

/-- A timer that has not yet reached the critical section of `process_batch`. -/
inductive Timer where
  | spawning
  | sleeping
  | elapsed
  deriving DecidableEq

inductive Action where
  | respond (snapshots : List (AttesterSnapshot S))
  | send (socket : Nat) (update : Update S)
  | publish (addr : String)

/-- What is left to do of a `process_batch` call after its critical section. -/
structure Task where
  batch : Batch S
  todo : List (Action S)

structure Config where
  verifierKey : KeyInfor S
  relyingPartyAddrs : List String

structure Daemon where
  state : VerifierState S
  timers : List Timer
  tasks : List (Task S)
  /-- The frames written to attesters, oldest first. -/
  outbox : List (Nat × Update S)
  published : List (String × PublicContext S)
  /-- All sessions as they were queued, oldest first. -/
  queued : List (AttesterSession S)

def Daemon.init : Daemon S := ⟨VerifierState.new S, [], [], [], [], []⟩

/-- The scheduler's and the environment's choices. -/
inductive Label where
  | queue (devInfor : DeviceClientInfor S) (attesterAddr : String)
  | spawn (timer : Nat)
  | elapse (timer : Nat)
  | process (timer : Nat)
  | act (task : Nat) (now : Nat → Duration) (draw : Nat → Draw S)

end Machine

section Step
variable {S : Suite}

/-- The rest of `process_batch`, in its order. -/
def Batch.todo (config : Config S) (batch : Batch S) : List (Action S) :=
  let refresh := Update.context batch.publicContext (encodePublicContextMessage S batch.publicContext)
  [.respond batch.affectedOldSnapshots] ++
  batch.unaffectedOldSnapshots.map (fun snapshot => .send snapshot.2.socket refresh) ++
  config.relyingPartyAddrs.map .publish ++
  [.respond batch.newSnapshots]

/-- The frames of `compute_store_and_send_responses`. -/
def sendJobs (publicContext : PublicContext S) (computed : List (ComputedResponse S)) : List (Action S) :=
  computed.map fun result => .send result.socket (.response result.response publicContext result.encrypted)

/-- One step of a task: storing under the lock, one frame, or one relying party. -/
def act (config : Config S) (now : Nat → Duration) (draw : Nat → Draw S) (daemon : Daemon S) (index : Nat)
    (task : Task S) : Action S → List (Action S) → Daemon S
  | .respond snapshots, rest =>
    let build := fun (snapshot : AttesterSnapshot S) =>
      buildEncryptedAttesterResponse config.verifierKey (now snapshot.1) (draw snapshot.1) snapshot.1 snapshot.2
        task.batch.root task.batch.leaves task.batch.publicContext
    match computeResponses build snapshots with
    | none => { daemon with tasks := daemon.tasks.set index { task with todo := [] } }
    | some computed =>
      { daemon with
        state := { daemon.state with active := storeResponses daemon.state.active computed }
        tasks := daemon.tasks.set index { task with todo := sendJobs task.batch.publicContext computed ++ rest } }
  | .send socket update, rest =>
    { daemon with
      outbox := daemon.outbox ++ [(socket, update)]
      tasks := daemon.tasks.set index { task with todo := rest } }
  | .publish addr, rest =>
    { daemon with
      published := daemon.published ++ [(addr, task.batch.publicContext)]
      tasks := daemon.tasks.set index { task with todo := rest } }

/-- One atomic step of the daemon. -/
def step (config : Config S) (daemon : Daemon S) : Label S → Option (Daemon S)
  | .queue devInfor attesterAddr =>
    let session := newSession daemon.queued.length devInfor attesterAddr
    let (state, start) := queueAttester daemon.state session
    some
      { daemon with
        state
        timers := if start then daemon.timers ++ [.spawning] else daemon.timers
        queued := daemon.queued ++ [session] }
  | .spawn timer =>
    if daemon.timers[timer]? = some .spawning then
      some { daemon with timers := daemon.timers.set timer .sleeping }
    else none
  | .elapse timer =>
    if daemon.timers[timer]? = some .sleeping then
      some { daemon with timers := daemon.timers.set timer .elapsed }
    else none
  | .process timer =>
    if daemon.timers[timer]? = some .elapsed then
      (processBatch config.verifierKey.verifyingKey daemon.state).map fun (state, batch) =>
        { daemon with
          state
          timers := daemon.timers.eraseIdx timer
          tasks := daemon.tasks ++ (batch.map fun batch => ⟨batch, batch.todo config⟩).toList }
    else none
  | .act index now draw =>
    match daemon.tasks[index]? with
    | none => none
    | some task =>
      match task.todo with
      | [] => none
      | action :: rest => some (act config now draw daemon index task action rest)

end Step

end UnifiedAttestation.Verifier
