import UnifiedAttestation.Protocol.Completeness

/-! A session directory that is read while it is written.

The attester's task writes the files of a frame one after another. A separate process reads
the configuration first and the context after it, at any moments. A write and a read are one
step each.
-/

set_option autoImplicit false

namespace UnifiedAttestation.Protocol

open Wire (Bytes Outcome)
open Forest (Inner)
open Shrubs (MembershipCheck)
open Toolkit
open Attester (SessionFile SessionDir DeviceConfigInfor AttestationCircuit)
open Verifier (Update Daemon Config Label AttesterSession Delivered Tended InOrder lastResponse sampleDraw)

section Machine

/-- The directory, what its writer still has to do, and what a reader holds. A task that has
crashed leaves behind what it did not write any more. -/
structure Shared where
  files : SessionDir
  frames : List Bytes
  writes : List (SessionFile × Bytes)
  running : Bool
  config : Option Bytes
  loaded : Option (Bytes × Bytes)

def Shared.start (frames : List Bytes) : Shared where
  files := SessionDir.empty
  frames
  writes := []
  running := true
  config := none
  loaded := none

inductive Move where
  | receive
  | write
  | crash
  | loadConfig
  | loadContext
  deriving DecidableEq, Repr

variable (S : Suite)

def move (devKey : KeyInfor S) (devInfor : DeviceClientInfor S) (s : Shared) : Move → Option Shared
  | .receive =>
    match s.running, s.writes, s.frames with
    | true, [], frame :: frames =>
      match Attester.readResponse S devKey devInfor frame with
      | .ok writes => some { s with frames, writes }
      | .error _ => some { s with frames, running := false }
    | _, _, _ => none
  | .write =>
    match s.running, s.writes with
    | true, (file, bytes) :: writes => some { s with files := Function.update s.files file (some bytes), writes }
    | _, _ => none
  | .crash => some { s with running := false }
  | .loadConfig =>
    match s.files .devConfig with
    | some config => some { s with config := some config }
    | none => none
  | .loadContext =>
    match s.config, s.files .publicContext with
    | some config, some publicContext => some { s with config := none, loaded := some (config, publicContext) }
    | _, _ => none

/-- The reader gets a context only while the configuration is still the one it has read, and
not while or after a response is half stored, its context without its configuration. -/
def Settled (s : Shared) : Move → Prop
  | .loadContext => s.config = s.files .devConfig ∧ s.writes.map Prod.fst ≠ [.devConfig]
  | _ => True

instance (s : Shared) (label : Move) : Decidable (Settled s label) := by
  cases label <;> unfold Settled <;> infer_instance

variable {S} {devKey : KeyInfor S} {devInfor : DeviceClientInfor S}

theorem writes_done (files : SessionDir) (frames : List Bytes) (writes : List (SessionFile × Bytes))
    (config : Option Bytes) (loaded : Option (Bytes × Bytes)) (permits : Shared → Move → Prop)
    (writing : ∀ s, permits s .write) :
    Runs.Reaches (move S devKey devInfor) permits ⟨files, frames, writes, true, config, loaded⟩
      ⟨files.save writes, frames, [], true, config, loaded⟩ := by
  induction writes generalizing files with
  | nil => exact Relation.ReflTransGen.refl
  | cons write writes ih => exact Relation.ReflTransGen.head ⟨.write, writing _, rfl⟩ (ih _)

theorem move_loadConfig {s t : Shared} (stepped : move S devKey devInfor s .loadConfig = some t) :
    ∃ config, s.files .devConfig = some config ∧ t = { s with config := some config } := by
  simp only [move] at stepped
  split at stepped
  · next config found => exact ⟨config, found, (Option.some.inj stepped).symm⟩
  · cases stepped

theorem move_loadContext {s t : Shared} (stepped : move S devKey devInfor s .loadContext = some t) :
    ∃ config publicContext, s.config = some config ∧ s.files .publicContext = some publicContext ∧
      t = { s with config := none, loaded := some (config, publicContext) } := by
  simp only [move] at stepped
  split at stepped
  · next config publicContext read found =>
    exact ⟨config, publicContext, read, found, (Option.some.inj stepped).symm⟩
  · cases stepped

theorem move_loaded {s t : Shared} {label : Move} (other : label ≠ .loadContext)
    (stepped : move S devKey devInfor s label = some t) : t.loaded = s.loaded := by
  cases label with
  | receive =>
    simp only [move] at stepped
    split at stepped
    · split at stepped <;> exact Option.some.inj stepped ▸ rfl
    · cases stepped
  | write =>
    simp only [move] at stepped
    split at stepped
    · exact Option.some.inj stepped ▸ rfl
    · cases stepped
  | crash => exact Option.some.inj stepped ▸ rfl
  | loadConfig =>
    obtain ⟨config, -, rfl⟩ := move_loadConfig stepped
    rfl
  | loadContext => exact absurd rfl other

/-- A frame that is handled at once leaves the files that `readResponseAndPersist` leaves. -/
theorem receive_persists {s : Shared} {frame : Bytes} {frames : List Bytes} {session : SessionDir}
    (running : s.running = true) (idle : s.writes = []) (next : s.frames = frame :: frames)
    (persisted : Attester.readResponseAndPersist S devKey devInfor s.files frame = .ok session) :
    Runs.Reaches (move S devKey devInfor) Settled s { s with files := session, frames } := by
  obtain ⟨files, waiting, writes, alive, config, loaded⟩ := s
  subst running idle next
  obtain ⟨writes, read, rfl⟩ := Wire.map_eq_ok.mp persisted
  refine Relation.ReflTransGen.head ⟨.receive, trivial, ?_⟩
    (writes_done files frames writes config loaded Settled fun _ => trivial)
  simp only [move, read]

end Machine

section Consistency
variable {S : Suite}

/-- What the reader has loaded opens a leaf under the loaded roots, and evidence is made from it. -/
def Consistent (S : Suite) (loaded : Bytes × Bytes) : Prop :=
  ∃ devConfig publicContext, Attester.loadDeviceConfigInfor S (some loaded.1) = .ok devConfig ∧
    Attester.loadPublicContext S (some loaded.2) = .ok publicContext ∧
    MembershipCheck S.hash publicContext.root
      (AttestationCircuit.new S devConfig publicContext.root devConfig.merklePath devConfig.merkleTag).leaf
      (devConfig.merklePath, devConfig.merkleTag) ∧
    ∀ seed seed' now, ∃ evidence,
      Attester.generateDeviceEvidenceFromConfig S seed seed' (some now) publicContext.root devConfig = .ok evidence

/-- Updates as a verifier sends them to one attester: readable, signed, the first one a response,
and the last response of every front part opens the leaf under the roots of its last update. -/
structure Valid (devKey : KeyInfor S) (devInfor : DeviceClientInfor S) (updates : List (Update S)) : Prop where
  readable : ∀ update ∈ updates, Readable devKey update
  short : ∀ update ∈ updates, update.frame.length ≤ maxTcpFrameLen
  signed : ∀ update ∈ updates, ∀ devRes ∈ update.devRes, devRes.sig.isSome = true
  roomy : ∀ update ∈ updates, ∀ devRes ∈ update.devRes, (Attester.encodeDeviceConfigInfor S
    (DeviceConfigInfor.new S devKey devInfor devRes)).length ≤ isizeMax
  opens : ∀ front update, front ++ [update] <+: updates → update.publicContext.root ≠ [] ∧
    ∃ devRes, lastResponse (front ++ [update]) = some devRes ∧
      MembershipCheck S.hash update.publicContext.root devInfor.merkleLeaf (devRes.shrubsPath, devRes.shrubsTag)

variable {devKey : KeyInfor S} {measure : String} {submitted : Duration} {updates front : List (Update S)}

theorem mem_of_lastResponse {devRes : ResponseDeviceInfor S} (last : lastResponse updates = some devRes) :
    ∃ update ∈ updates, update.devRes = some devRes :=
  List.mem_filterMap.mp (List.mem_of_getLast? last)

/-- Both files that are loaded are those of a front part of the updates. -/
structure Holds (devKey : KeyInfor S) (devInfor : DeviceClientInfor S) (files : SessionDir)
    (front : List (Update S)) : Prop where
  config : files .devConfig = filesAfter devKey devInfor SessionDir.empty front .devConfig
  context : files .publicContext = filesAfter devKey devInfor SessionDir.empty front .publicContext

/-- They are consistent then. -/
theorem Valid.consistent (trips : S.RoundTrips) (cipher : S.CipherComplete) (groth : S.GrothComplete)
    (valid : Valid devKey (generateDeviceClientInfor S measure submitted devKey) updates) (inside : front <+: updates)
    {files : SessionDir} (holds : Holds devKey (generateDeviceClientInfor S measure submitted devKey) files front)
    {config publicContext : Bytes} (configured : files .devConfig = some config)
    (known : files .publicContext = some publicContext) : Consistent S (config, publicContext) := by
  rw [holds.config] at configured
  rw [holds.context] at known
  obtain ⟨final, last⟩ := @filesAfter_stored S devKey (generateDeviceClientInfor S measure submitted devKey) front
  obtain ⟨devRes, answered, rfl⟩ := Option.map_eq_some_iff.mp (last.symm.trans configured)
  obtain ⟨update, latest, rfl⟩ := Option.map_eq_some_iff.mp (final.symm.trans known)
  obtain ⟨before, rfl⟩ := List.getLast?_eq_some_iff.mp latest
  obtain ⟨rooted, devRes', answered', checks⟩ := valid.opens before update inside
  obtain rfl := Option.some.inj (answered.symm.trans answered')
  obtain ⟨response, sent, carried⟩ := mem_of_lastResponse answered
  have member : update ∈ updates := inside.subset (by simp)
  have member' : response ∈ updates := inside.subset sent
  obtain ⟨sig, signed⟩ := Option.isSome_iff_exists.mp (valid.signed response member' devRes carried)
  have fits := (context_length_le trips cipher (valid.readable update member)).trans (valid.short update member)
  have held : (DeviceConfigInfor.new S devKey (generateDeviceClientInfor S measure submitted devKey) devRes).Held := by
    cases response with
    | context _ _ => cases carried
    | response other context frame =>
      obtain rfl := Option.some.inj carried
      obtain ⟨draw, encoded⟩ := valid.readable _ member'
      exact (held_of_short ((encodeVerifierResponse_length_le trips cipher encoded).trans (valid.short _ member'))).1
  refine ⟨_, _, Attester.loadDeviceConfigInfor_encode trips (valid.roomy response member' devRes carried) held,
    Attester.loadPublicContext_encode trips (fits.trans (by decide)) (publicContext_held_of_short fits), checks, ?_⟩
  intro seed seed' now
  have leaf : MembershipCheck S.hash update.publicContext.root
      (AttestationCircuit.new S
        (DeviceConfigInfor.new S devKey (generateDeviceClientInfor S measure submitted devKey) devRes)
        update.publicContext.root devRes.shrubsPath devRes.shrubsTag).leaf
      (devRes.shrubsPath, devRes.shrubsTag) := checks
  obtain ⟨proof, vk, reply, -, generated, -⟩ :=
    Attester.generateDeviceEvidenceFromConfig_succeeds groth rfl rooted leaf rfl signed seed seed' now
  exact ⟨_, generated⟩

/-- How much of the updates is in the directory. -/
inductive Progress (devKey : KeyInfor S) (devInfor : DeviceClientInfor S) (updates : List (Update S)) (s : Shared) :
    Prop where
  | idle (front rest : List (Update S)) (all : updates = front ++ rest) (frames : s.frames = rest.map Update.frame)
      (writes : s.writes = []) (holds : Holds devKey devInfor s.files front)
  | begun (front : List (Update S)) (update : Update S) (rest : List (Update S)) (all : updates = front ++ update :: rest)
      (frames : s.frames = rest.map Update.frame) (writes : s.writes = filesOf devKey devInfor update)
      (holds : Holds devKey devInfor s.files front)
  /-- The copy of a response is there, which nobody reads. -/
  | copied (front : List (Update S)) (devRes : ResponseDeviceInfor S) (publicContext : PublicContext S) (frame : Bytes)
      (rest : List (Update S)) (all : updates = front ++ .response devRes publicContext frame :: rest)
      (frames : s.frames = rest.map Update.frame)
      (writes : s.writes = [(.publicContext, encodePublicContext S publicContext),
        (.devConfig, Attester.encodeDeviceConfigInfor S (DeviceConfigInfor.new S devKey devInfor devRes))])
      (holds : Holds devKey devInfor s.files front)
  /-- The context of a response is there and its configuration is not. -/
  | torn (front : List (Update S)) (devRes : ResponseDeviceInfor S) (publicContext : PublicContext S) (frame : Bytes)
      (rest : List (Update S)) (all : updates = front ++ .response devRes publicContext frame :: rest)
      (frames : s.frames = rest.map Update.frame)
      (writes : s.writes =
        [(.devConfig, Attester.encodeDeviceConfigInfor S (DeviceConfigInfor.new S devKey devInfor devRes))])
      (context : s.files .publicContext = some (encodePublicContext S publicContext))

theorem filesAfter_concat (devKey : KeyInfor S) (devInfor : DeviceClientInfor S) (front : List (Update S))
    (update : Update S) : filesAfter devKey devInfor SessionDir.empty (front ++ [update]) =
      (filesAfter devKey devInfor SessionDir.empty front).save (filesOf devKey devInfor update) := by
  rw [filesAfter, filesAfter, List.foldl_concat]

variable {devInfor : DeviceClientInfor S} {s t : Shared}

theorem filesOf_ne_nil (update : Update S) : filesOf devKey devInfor update ≠ [] := by
  cases update <;> exact List.cons_ne_nil _ _

theorem Progress.receive (trips : S.RoundTrips) (cipher : S.CipherComplete) (valid : Valid devKey devInfor updates)
    (progress : Progress devKey devInfor updates s) (stepped : move S devKey devInfor s .receive = some t) :
    Progress devKey devInfor updates t := by
  simp only [move] at stepped
  split at stepped
  case h_2 => cases stepped
  next frame frames running idle next =>
  cases progress with
  | idle front rest all waiting writes holds =>
    cases rest with
    | nil =>
      rw [next] at waiting
      cases waiting
    | cons update rest =>
      rw [next, List.map_cons, List.cons.injEq] at waiting
      obtain ⟨rfl, rfl⟩ := waiting
      have member : update ∈ updates := by simp [all]
      have read := @readResponse_update S devKey devInfor trips cipher update (valid.readable update member)
        (valid.short update member)
      rw [read] at stepped
      obtain rfl := Option.some.inj stepped
      exact .begun front update rest all rfl rfl holds
  | begun front update rest all waiting writes holds => exact absurd (writes.symm.trans idle) (filesOf_ne_nil update)
  | copied front devRes publicContext frame rest all waiting writes holds => cases writes.symm.trans idle
  | torn front devRes publicContext frame rest all waiting writes context => cases writes.symm.trans idle

/-- Only the second file of a response leaves the directory between two updates. -/
theorem Progress.write (progress : Progress devKey devInfor updates s)
    (stepped : move S devKey devInfor s .write = some t) : Progress devKey devInfor updates t := by
  simp only [move] at stepped
  split at stepped
  case h_2 => cases stepped
  next file bytes writes running next =>
  obtain rfl := Option.some.inj stepped
  cases progress with
  | idle front rest all frames writes holds => cases writes.symm.trans next
  | begun front update rest all frames writes holds =>
    cases update with
    | context publicContext frame =>
      cases writes.symm.trans next
      refine .idle (front ++ [.context publicContext frame]) rest (by simp [all]) frames rfl ⟨?_, ?_⟩
      · rw [filesAfter_concat]
        exact holds.config
      · rw [filesAfter_concat]
        rfl
    | response devRes publicContext frame =>
      cases writes.symm.trans next
      exact .copied front devRes publicContext frame rest all frames rfl ⟨holds.config, holds.context⟩
  | copied front devRes publicContext frame rest all frames writes holds =>
    cases writes.symm.trans next
    exact .torn front devRes publicContext frame rest all frames rfl rfl
  | torn front devRes publicContext frame rest all frames writes context =>
    cases writes.symm.trans next
    refine .idle (front ++ [.response devRes publicContext frame]) rest (by simp [all]) frames rfl ⟨?_, ?_⟩
    · rw [filesAfter_concat]
      rfl
    · rw [filesAfter_concat]
      exact context

/-- What does not touch the directory leaves it where it is. -/
theorem Progress.other (progress : Progress devKey devInfor updates s) (files : t.files = s.files)
    (frames : t.frames = s.frames) (writes : t.writes = s.writes) : Progress devKey devInfor updates t := by
  cases progress with
  | idle front rest all waiting idle holds =>
    exact .idle front rest all (frames.trans waiting) (writes.trans idle) (files ▸ holds)
  | begun front update rest all waiting pending holds =>
    exact .begun front update rest all (frames.trans waiting) (writes.trans pending) (files ▸ holds)
  | copied front devRes publicContext frame rest all waiting pending holds =>
    exact .copied front devRes publicContext frame rest all (frames.trans waiting) (writes.trans pending) (files ▸ holds)
  | torn front devRes publicContext frame rest all waiting pending context =>
    exact .torn front devRes publicContext frame rest all (frames.trans waiting) (writes.trans pending) (files ▸ context)

/-- Unless a response is half stored, the two files are those of one front part. -/
theorem Progress.holds (progress : Progress devKey devInfor updates s) (whole : s.writes.map Prod.fst ≠ [.devConfig]) :
    ∃ front, front <+: updates ∧ Holds devKey devInfor s.files front := by
  cases progress with
  | idle front rest all _ _ holds => exact ⟨front, ⟨rest, all.symm⟩, holds⟩
  | begun front update rest all _ _ holds => exact ⟨front, ⟨_, all.symm⟩, holds⟩
  | copied front _ _ _ _ all _ _ holds => exact ⟨front, ⟨_, all.symm⟩, holds⟩
  | torn _ _ _ _ _ _ _ writes _ => exact absurd (congrArg (List.map Prod.fst) writes) whole

/-- A stored configuration has a stored context, even of a half stored response. -/
theorem Progress.present (progress : Progress devKey devInfor updates s) (stored : s.files .devConfig ≠ none) :
    s.files .publicContext ≠ none := by
  have whole : ∀ front, Holds devKey devInfor s.files front → s.files .publicContext ≠ none := by
    intro front holds
    obtain ⟨final, last⟩ := @filesAfter_stored S devKey devInfor front
    rw [holds.config, last, ne_eq, Option.map_eq_none_iff] at stored
    obtain ⟨devRes, answered⟩ := Option.ne_none_iff_exists'.mp stored
    obtain ⟨update, sent, -⟩ := mem_of_lastResponse answered
    rw [holds.context, final, ne_eq, Option.map_eq_none_iff, List.getLast?_eq_none_iff]
    exact List.ne_nil_of_mem sent
  cases progress with
  | idle front _ _ _ _ holds => exact whole front holds
  | begun front _ _ _ _ _ holds => exact whole front holds
  | copied front _ _ _ _ _ _ _ holds => exact whole front holds
  | torn _ _ _ _ _ _ _ _ context =>
    rw [context]
    exact Option.some_ne_none _

theorem Progress.step (trips : S.RoundTrips) (cipher : S.CipherComplete) (valid : Valid devKey devInfor updates)
    (progress : Progress devKey devInfor updates s) {label : Move}
    (stepped : move S devKey devInfor s label = some t) : Progress devKey devInfor updates t := by
  cases label with
  | receive => exact progress.receive trips cipher valid stepped
  | write => exact progress.write stepped
  | crash =>
    obtain rfl := Option.some.inj stepped
    exact progress.other rfl rfl rfl
  | loadConfig =>
    obtain ⟨config, -, rfl⟩ := move_loadConfig stepped
    exact progress.other rfl rfl rfl
  | loadContext =>
    obtain ⟨config, publicContext, -, -, rfl⟩ := move_loadContext stepped
    exact progress.other rfl rfl rfl

/-- In runs in which the context is read while the configuration is the one that was read and
no response is half stored, everything that is loaded is consistent. -/
theorem session_consistent (trips : S.RoundTrips) (cipher : S.CipherComplete) (groth : S.GrothComplete)
    (valid : Valid devKey (generateDeviceClientInfor S measure submitted devKey) updates)
    (reached : Runs.Reaches (move S devKey (generateDeviceClientInfor S measure submitted devKey))
      Settled (Shared.start (updates.map Update.frame)) s) :
    (s.files .devConfig ≠ none → s.files .publicContext ≠ none) ∧ ∀ loaded ∈ s.loaded, Consistent S loaded := by
  suffices both : Progress devKey (generateDeviceClientInfor S measure submitted devKey) updates s ∧
      ∀ loaded ∈ s.loaded, Consistent S loaded from ⟨both.1.present, both.2⟩
  refine reached.invariant (I := fun s => Progress devKey (generateDeviceClientInfor S measure submitted devKey)
    updates s ∧ ∀ loaded ∈ s.loaded, Consistent S loaded) ?_ ?_
  · exact ⟨.idle [] updates rfl rfl rfl ⟨rfl, rfl⟩, fun loaded absent => by cases absent⟩
  rintro s label t ⟨progress, consistent⟩ settled stepped
  refine ⟨progress.step trips cipher valid stepped, ?_⟩
  by_cases other : label = .loadContext
  · subst other
    obtain ⟨config, publicContext, read, known, rfl⟩ := move_loadContext stepped
    rintro loaded ⟨⟩
    obtain ⟨front, inside, holds⟩ := progress.holds settled.2
    exact valid.consistent trips cipher groth inside holds (settled.1.symm.trans read) known
  · exact move_loaded other stepped ▸ consistent

end Consistency

section Daemon
variable {S : Suite} {config : Config S} {daemon : Daemon S}

/-- What the daemon sends to an honest attester is valid when the leaves are distinct. -/
theorem sent_valid (trips : S.RoundTrips) (cipher : S.CipherComplete) (injective : Function.Injective2 S.hash)
    (reached : Runs.Reaches (Verifier.step config) InOrder (Daemon.init S) daemon)
    (distinct : daemon.state.oldLeaves.Nodup)
    (apart : ∀ leaf ∈ daemon.state.oldLeaves, ¬ Inner S.hash daemon.state.oldLeaves leaf)
    {session : AttesterSession S} (member : session ∈ daemon.state.active) {measure : String} {submitted : Duration}
    {devKey : KeyInfor S} (own : session.devInfor = generateDeviceClientInfor S measure submitted devKey)
    (short : ∀ update ∈ daemon.sent session.socket, update.frame.length ≤ maxTcpFrameLen)
    (roomy : ∀ update ∈ daemon.sent session.socket, ∀ devRes ∈ update.devRes, (Attester.encodeDeviceConfigInfor S
      (DeviceConfigInfor.new S devKey session.devInfor devRes)).length ≤ isizeMax) :
    Valid devKey (generateDeviceClientInfor S measure submitted devKey) (daemon.sent session.socket) := by
  have tended := Verifier.Reached.tended trips cipher reached
  have key : session.devInfor.verifyingKey = devKey.verifyingKey := own ▸ rfl
  obtain ⟨first, delivered, registered, enrolled, readable⟩ := Reached.attended trips cipher reached member key
  rw [← own]
  refine ⟨readable, short, ?_, roomy, ?_⟩
  · intro update sent devRes carried
    obtain ⟨j, found⟩ := List.mem_iff_getElem?.mp sent
    obtain ⟨task, session', -, -, -, serves⟩ := delivered.serves j update found
    cases update with
    | context _ _ => cases carried
    | response other context frame =>
      obtain rfl := Option.some.inj carried
      rw [serves.2.2.sig]
      rfl
  · rintro front update ⟨rest, split⟩
    have here : (daemon.sent session.socket)[front.length]? = some update := by
      rw [← split, List.append_assoc, List.getElem?_append_right (Nat.le_refl _), Nat.sub_self]
      rfl
    have taken : (daemon.sent session.socket).take (front.length + 1) = front ++ [update] := by
      rw [← split]
      exact List.take_left' (by simp)
    obtain ⟨task, session', devRes, found, registered', last, context, checks⟩ :=
      delivered.checks_at tended.recorded (allFaithful_of_distinct tended injective distinct apart) here
    obtain rfl := Option.some.inj (registered'.symm.trans registered)
    obtain ⟨root, rooted⟩ := tended.rooted found
    rw [← context] at root
    exact ⟨root ▸ rooted, devRes, taken ▸ last, root ▸ enrolled ▸ checks⟩

end Daemon

section Sample

/-- The leaves of three devices; the updates below are for the first. -/
def sampleLeaves : List Nat := [(sampleDevice 1).merkleLeaf, (sampleDevice 2).merkleLeaf, (sampleDevice 3).merkleLeaf]

def sampleContext (count : Nat) : PublicContext reference :=
  ⟨Shrubs.createBatchDevices Nat.pair [] (sampleLeaves.take count), [9]⟩

def sampleResponse (count : Nat) : ResponseDeviceInfor reference :=
  let leaves := sampleLeaves.take count
  let opening := (Shrubs.findDeviceShrubsPathTag Nat.pair (Shrubs.createBatchDevices Nat.pair [] leaves) leaves
    (sampleDevice 1).merkleLeaf).getD (none, none)
  { verifyingKey := (sampleKey 1).verifyingKey
    attesterAddr := "127.0.0.1:9000"
    timestamp := Duration.fromSecs 1 (by decide)
    period := seconds 60
    sig := some [7]
    shrubsPath := opening.1
    shrubsTag := opening.2 }

def sampleFrame (count : Nat) : Bytes :=
  (encodeEncryptedVerifierResponse reference sampleDraw (sampleResponse count) (sampleContext count)
    (sampleKey 1).verifyingKey).toOption.getD []

/-- The third leaf moves the first one, the second does not. -/
def sampleUpdates : List (Update reference) :=
  [.response (sampleResponse 1) (sampleContext 1) (sampleFrame 1),
    .context (sampleContext 2) (encodePublicContextMessage reference (sampleContext 2)),
    .response (sampleResponse 3) (sampleContext 3) (sampleFrame 3)]

theorem sampleFrame_sent (count : Nat) :
    encodeEncryptedVerifierResponse reference sampleDraw (sampleResponse count) (sampleContext count)
      (sampleKey 1).verifyingKey = .ok (sampleFrame count) := by
  obtain ⟨frame, sent⟩ := encodeEncryptedVerifierResponse_succeeds reference_roundTrips reference_cipherComplete
    sampleDraw (sampleResponse count) (sampleContext count) (sampleKey 1).verifyingKey
  rw [sampleFrame, sent]
  rfl

theorem sampleUpdates_valid : Valid (sampleKey 1) (sampleDevice 1) sampleUpdates where
  readable := by
    simp only [sampleUpdates, List.forall_mem_cons]
    exact ⟨⟨sampleDraw, sampleFrame_sent 1⟩, rfl, ⟨sampleDraw, sampleFrame_sent 3⟩, fun _ absent => by cases absent⟩
  short := by decide +kernel
  signed := by decide
  roomy := by decide +kernel
  opens := by
    rintro front update ⟨rest, split⟩
    rcases front with _ | ⟨first, _ | ⟨second, _ | ⟨third, front⟩⟩⟩
    · obtain ⟨rfl, -⟩ := List.cons.inj split
      exact ⟨by decide +kernel, sampleResponse 1, rfl, by decide +kernel⟩
    · obtain ⟨rfl, later⟩ := List.cons.inj split
      obtain ⟨rfl, -⟩ := List.cons.inj later
      exact ⟨by decide +kernel, sampleResponse 1, rfl, by decide +kernel⟩
    · obtain ⟨rfl, later⟩ := List.cons.inj split
      obtain ⟨rfl, latest⟩ := List.cons.inj later
      obtain ⟨rfl, -⟩ := List.cons.inj latest
      exact ⟨by decide +kernel, sampleResponse 3, rfl, by decide +kernel⟩
    · have long := congrArg List.length split
      simp only [sampleUpdates, List.length_append, List.length_cons, List.length_nil] at long
      omega

def sampleConfig : DeviceConfigInfor reference :=
  DeviceConfigInfor.new reference (sampleKey 1) (sampleDevice 1) (sampleResponse 1)

def sampleHandled : List Move := [.receive, .write, .write, .write, .receive, .write]

/-- The reader comes while a refresh is still to be written. -/
theorem session_consistent_refreshed :
    ∃ (s : Shared) (loaded : Bytes × Bytes), s.loaded = some loaded ∧ s.writes ≠ [] ∧ Consistent reference loaded := by
  obtain ⟨s, reached, ended⟩ := @Runs.reaches_of_labels _ _ (move reference (sampleKey 1) (sampleDevice 1)) Settled
    (Shared.start (sampleUpdates.map Update.frame))
    [.receive, .write, .write, .write, .loadConfig, .receive, .loadContext]
    (fun s label => decide (Settled s label)) (fun s => decide (s.loaded.isSome = true ∧ s.writes ≠ []))
    (fun _ _ => of_decide_eq_true) (by decide +kernel)
  obtain ⟨some, waiting⟩ := of_decide_eq_true ended
  obtain ⟨loaded, held⟩ := Option.isSome_iff_exists.mp some
  exact ⟨s, loaded, held, waiting, (session_consistent reference_roundTrips reference_cipherComplete
    reference_grothComplete sampleUpdates_valid reached).2 loaded held⟩

/-- The first configuration does not open the leaf under the roots of the second response. -/
theorem sampleConfig_stale : ¬ Consistent reference
    (Attester.encodeDeviceConfigInfor reference sampleConfig, encodePublicContext reference (sampleContext 3)) := by
  rintro ⟨devConfig, publicContext, configured, known, checks, -⟩
  have held : ∀ path ∈ (sampleResponse 1).shrubsPath, 32 * path.length ≤ isizeMax := by decide +kernel
  have config : Attester.loadDeviceConfigInfor reference (some (Attester.encodeDeviceConfigInfor reference sampleConfig)) =
      .ok sampleConfig :=
    Attester.loadDeviceConfigInfor_encode reference_roundTrips (by decide +kernel) held
  have context : Attester.loadPublicContext reference (some (encodePublicContext reference (sampleContext 3))) =
      .ok (sampleContext 3) :=
    Attester.loadPublicContext_encode reference_roundTrips (by decide +kernel)
      (publicContext_held_of_short (by decide +kernel))
  obtain rfl := Except.ok.inj (config.symm.trans configured)
  obtain rfl := Except.ok.inj (context.symm.trans known)
  exact absurd checks (by decide +kernel)

/-- A second response is handled between the two loads, or the task crashes between its
context and its configuration. -/
theorem session_torn :
    Valid (sampleKey 1) (sampleDevice 1) sampleUpdates ∧ sampleLeaves.Nodup ∧
      ∀ moves ∈ [sampleHandled ++ [.loadConfig, .receive, .write, .write, .write, .loadContext],
          sampleHandled ++ [.receive, .write, .write, .crash, .loadConfig, .loadContext]],
        ∃ s, moves.foldlM (move reference (sampleKey 1) (sampleDevice 1))
            (Shared.start (sampleUpdates.map Update.frame)) = some s ∧
          ∃ loaded, s.loaded = some loaded ∧ ¬ Consistent reference loaded := by
  refine ⟨sampleUpdates_valid, by decide, fun moves member => ?_⟩
  have ends : ∀ moves ∈ [sampleHandled ++ [.loadConfig, .receive, .write, .write, .write, .loadContext],
      sampleHandled ++ [.receive, .write, .write, .crash, .loadConfig, .loadContext]],
      ((moves.foldlM (move reference (sampleKey 1) (sampleDevice 1))
        (Shared.start (sampleUpdates.map Update.frame))).map Shared.loaded) =
        some (some (Attester.encodeDeviceConfigInfor reference sampleConfig,
          encodePublicContext reference (sampleContext 3))) := by
    decide +kernel
  obtain ⟨s, reached, loaded⟩ := Option.map_eq_some_iff.mp (ends moves member)
  exact ⟨s, reached, _, loaded, sampleConfig_stale⟩

end Sample

end UnifiedAttestation.Protocol
