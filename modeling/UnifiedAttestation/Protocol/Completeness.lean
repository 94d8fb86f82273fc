import UnifiedAttestation.Attester.Session
import UnifiedAttestation.RelyingParty.Listener
import UnifiedAttestation.Verifier.Sequential

/-! An honest attester is accepted.

Its submission is queued as it was made, the frames it is sent build a session
directory, and evidence from that directory passes every check of a relying party
that holds the same context.
-/

set_option autoImplicit false

namespace UnifiedAttestation.Protocol

open Wire (Bytes Outcome)
open Forest (Inner)
open Shrubs (MembershipCheck)
open Toolkit
open Attester (SessionFile SessionDir DeviceConfigInfor AttestationCircuit)
open RelyingParty (Endorsed Fresh Passes verifierMessage verificationSuccess)
open Verifier (Daemon Config AttesterSession Label Update Answers Serves InOrder Sequential AllFaithful Recorded
  Accounted Tended Delivered lastResponse newSession handleRequest)

section Submission
variable {S : Suite}

/-- The frame an attester submits. -/
def submission (devInfor : DeviceClientInfor S) (devKey : KeyInfor S) : Bytes :=
  encodeSignedDeviceClientInforMessage (signDeviceClientInforToWire S devInfor devKey)

/-- An honest submission is queued as it was made, unless its time is up. -/
theorem handleRequest_submission (ecdsa : S.EcdsaComplete) (trips : S.RoundTrips) {now : Option Duration}
    {devInfor : DeviceClientInfor S} {devKey : KeyInfor S} (own : devInfor.verifyingKey = devKey.verifyingKey)
    (short : (submission devInfor devKey).length ≤ maxTcpFrameLen) :
    handleRequest S now (submission devInfor devKey) =
      (Wire.context "verify DeviceClientInfor freshness failed" (verifyDeviceClientInforFreshness now devInfor)).map
        fun _ => devInfor := by
  have typed : startsWith (submission devInfor devKey) msgDeviceInfor = true := startsWith_typed _ _
  rw [handleRequest, Attester.tcpReadFrame_short short, Wire.ok_bind, if_pos typed, submission,
    decodeSignedDeviceClientInforMessage_encode (Nat.le_trans short (by decide)), Wire.context_ok, Wire.ok_bind,
    verifySignedDeviceClientInforWire_sign trips ecdsa own, Wire.context_ok, Wire.ok_bind]
  cases Wire.context "verify DeviceClientInfor freshness failed" (verifyDeviceClientInforFreshness now devInfor) <;> rfl

theorem queued_submission (ecdsa : S.EcdsaComplete) (trips : S.RoundTrips) {now : Option Duration}
    {devInfor queued : DeviceClientInfor S} {devKey : KeyInfor S} (own : devInfor.verifyingKey = devKey.verifyingKey)
    (accepted : handleRequest S now (submission devInfor devKey) = .ok queued) : queued = devInfor := by
  have short : (submission devInfor devKey).length ≤ maxTcpFrameLen := by
    by_contra long
    rw [handleRequest, tcpReadFrame, if_pos (Nat.lt_of_not_le long)] at accepted
    cases accepted
  rw [handleRequest_submission ecdsa trips own short] at accepted
  cases fresh : Wire.context "verify DeviceClientInfor freshness failed"
      (verifyDeviceClientInforFreshness now devInfor) with
  | error fault => rw [fresh] at accepted; cases accepted
  | ok _ => rw [fresh] at accepted; exact (Except.ok.inj accepted).symm

end Submission

section Enrolment
variable {S : Suite} {config : Config S} {daemon next : Daemon S}

theorem step_queued {label : Label S} (accounted : Accounted daemon)
    (stepped : Verifier.step config daemon label = some next) :
    next.queued = daemon.queued ∨
      ∃ devInfor addr, next.queued = daemon.queued ++ [newSession daemon.queued.length devInfor addr] := by
  cases label with
  | queue devInfor attesterAddr =>
    simp only [Verifier.step, Verifier.queueAttester] at stepped
    split at stepped <;> exact Or.inr ⟨devInfor, attesterAddr, Option.some.inj stepped ▸ rfl⟩
  | spawn timer | elapse timer =>
    simp only [Verifier.step, Option.ite_none_right_eq_some] at stepped
    exact Or.inl (Option.some.inj stepped.2 ▸ rfl)
  | process timer => exact Or.inl (Verifier.process_cases accounted stepped).2.1
  | act index now draw =>
    obtain ⟨task, action, rest, -, -, moved⟩ := Verifier.step_act stepped
    obtain ⟨active, -, -, queued, -⟩ := Verifier.act_frame moved
    exact Or.inl queued

/-- Every session registers the leaf of its own submission. -/
theorem Reached.enrolled {permits : Daemon S → Label S → Prop}
    (reached : Runs.Reaches (Verifier.step config) permits (Daemon.init S) daemon) :
    ∀ session ∈ daemon.queued, session.merkleLeaf = session.devInfor.merkleLeaf := by
  have run := reached.with_invariant Verifier.init_accounted fun _ _ _ accounted _ stepped => accounted.step stepped
  refine run.invariant (I := fun daemon => ∀ session ∈ daemon.queued, session.merkleLeaf = session.devInfor.merkleLeaf)
    (fun _ absent => by cases absent) ?_
  rintro before label after enrolled ⟨accounted, -⟩ stepped session member
  rcases step_queued accounted stepped with same | ⟨devInfor, addr, more⟩
  · exact enrolled session (same ▸ member)
  · rw [more] at member
    rcases List.mem_append.mp member with old | new
    · exact enrolled session old
    · rw [List.mem_singleton.mp new]
      rfl

/-- The leaves of a batch are a front part of all leaves registered by now. -/
theorem leaves_grow (tended : Tended config daemon) {k : Nat} {batch : Verifier.Batch S}
    (found : daemon.batches[k]? = some batch) : batch.leaves <+: daemon.state.oldLeaves := by
  have within := tended.recorded.within batch (List.mem_of_getElem? found)
  have all : daemon.queued.map (fun session => session.merkleLeaf) =
      daemon.state.oldLeaves ++ daemon.state.pending.map (fun session => session.merkleLeaf) := by
    rw [← tended.accounted.sessions, List.map_map, ← tended.accounted.consistent.aligned, ← List.map_append]
    rfl
  rw [tended.recorded.leaves found, all, List.take_append_of_le_length]
  · exact List.take_prefix _ _
  · rw [← tended.accounted.consistent.aligned, List.length_map]
    exact within

theorem allFaithful_of_distinct (tended : Tended config daemon) (injective : Function.Injective2 S.hash)
    (distinct : daemon.state.oldLeaves.Nodup)
    (apart : ∀ leaf ∈ daemon.state.oldLeaves, ¬ Inner S.hash daemon.state.oldLeaves leaf) : AllFaithful daemon := by
  intro k batch found
  have grows := leaves_grow tended found
  refine Verifier.faithful_of_distinct injective (distinct.sublist grows.sublist) ?_ _
  intro leaf member inner
  exact apart leaf (grows.subset member) (Inner.of_grows S.hash grows inner)

end Enrolment

section Frames
variable {S : Suite}

/-- The frame carries what is recorded with it, for the device's key. -/
def Readable (devKey : KeyInfor S) : Update S → Prop
  | .response devRes publicContext frame =>
    ∃ draw, encodeEncryptedVerifierResponse S draw devRes publicContext devKey.verifyingKey = .ok frame
  | .context publicContext frame => frame = encodePublicContextMessage S publicContext

/-- The files an update makes the attester write. -/
def filesOf (devKey : KeyInfor S) (devInfor : DeviceClientInfor S) : Update S → List (SessionFile × Bytes)
  | .response devRes publicContext _ =>
    [(.devRes, encodeResponseDeviceInfor S devRes), (.publicContext, encodePublicContext S publicContext),
      (.devConfig, Attester.encodeDeviceConfigInfor S (DeviceConfigInfor.new S devKey devInfor devRes))]
  | .context publicContext _ => [(.publicContext, encodePublicContext S publicContext)]

def filesAfter (devKey : KeyInfor S) (devInfor : DeviceClientInfor S) (session : SessionDir)
    (updates : List (Update S)) : SessionDir :=
  updates.foldl (fun session update => session.save (filesOf devKey devInfor update)) session

variable {devKey : KeyInfor S} {devInfor : DeviceClientInfor S}

theorem readResponse_update (trips : S.RoundTrips) (cipher : S.CipherComplete) {update : Update S}
    (readable : Readable devKey update) (short : update.frame.length ≤ maxTcpFrameLen) :
    Attester.readResponse S devKey devInfor update.frame = .ok (filesOf devKey devInfor update) := by
  cases update with
  | response devRes publicContext frame =>
    obtain ⟨draw, sent⟩ := readable
    exact Attester.readResponse_response trips devKey devInfor cipher sent short
  | context publicContext frame =>
    obtain rfl : frame = encodePublicContextMessage S publicContext := readable
    exact Attester.readResponse_context trips devKey devInfor short

theorem readResponseAndPersist_update (trips : S.RoundTrips) (cipher : S.CipherComplete) {update : Update S}
    (readable : Readable devKey update) (short : update.frame.length ≤ maxTcpFrameLen) (session : SessionDir) :
    Attester.readResponseAndPersist S devKey devInfor session update.frame =
      .ok (session.save (filesOf devKey devInfor update)) := by
  rw [Attester.readResponseAndPersist, readResponse_update trips cipher readable short]
  rfl

theorem follow_updates (trips : S.RoundTrips) (cipher : S.CipherComplete) {updates : List (Update S)}
    (readable : ∀ update ∈ updates, Readable devKey update)
    (short : ∀ update ∈ updates, update.frame.length ≤ maxTcpFrameLen) (session : SessionDir) :
    Attester.follow S devKey devInfor session (updates.map Update.frame) =
      filesAfter devKey devInfor session updates := by
  induction updates generalizing session with
  | nil => rfl
  | cons update rest ih =>
    have head := @readResponseAndPersist_update _ _ devInfor trips cipher update
      (readable update List.mem_cons_self) (short update List.mem_cons_self) session
    have tail := ih (fun other member => readable other (List.mem_cons_of_mem _ member))
      (fun other member => short other (List.mem_cons_of_mem _ member))
    rw [List.map_cons, Attester.follow, head]
    exact tail _

/-- A client that can read all its frames ends with the files of all of them. -/
theorem run_updates (trips : S.RoundTrips) (cipher : S.CipherComplete) {updates : List (Update S)}
    (readable : ∀ update ∈ updates, Readable devKey update)
    (short : ∀ update ∈ updates, update.frame.length ≤ maxTcpFrameLen) :
    Attester.run S devKey devInfor (updates.map Update.frame) =
      .ok (filesAfter devKey devInfor SessionDir.empty updates) := by
  cases updates with
  | nil => rfl
  | cons update rest =>
    have head := @readResponseAndPersist_update _ _ devInfor trips cipher update
      (readable update List.mem_cons_self) (short update List.mem_cons_self) SessionDir.empty
    have tail := @follow_updates _ _ devInfor trips cipher rest
      (fun other member => readable other (List.mem_cons_of_mem _ member))
      (fun other member => short other (List.mem_cons_of_mem _ member))
    rw [List.map_cons, Attester.run, head, Wire.context_ok, Wire.ok_bind, tail]
    rfl

/-- The stored context is that of the last update, the stored configuration that of
the last response. -/
theorem filesAfter_stored (updates : List (Update S)) :
    filesAfter devKey devInfor SessionDir.empty updates .publicContext =
        updates.getLast?.map (fun update => encodePublicContext S update.publicContext) ∧
      filesAfter devKey devInfor SessionDir.empty updates .devConfig = (lastResponse updates).map fun devRes =>
        Attester.encodeDeviceConfigInfor S (DeviceConfigInfor.new S devKey devInfor devRes) := by
  induction updates using List.reverseRecOn with
  | nil => exact ⟨rfl, rfl⟩
  | append_singleton before update ih =>
    rw [filesAfter, List.foldl_append, List.getLast?_concat]
    cases update with
    | response devRes publicContext frame =>
      rw [Verifier.lastResponse_concat]
      exact ⟨rfl, rfl⟩
    | context publicContext frame =>
      rw [Verifier.lastResponse_silent (by simp [Update.devRes])]
      exact ⟨rfl, ih.2⟩

end Frames

section Session
variable {S : Suite} {config : Config S} {daemon : Daemon S} {i first : Nat}

/-- A served session that belongs to the device's key can read its updates. -/
theorem readable_of_serves {batch : Verifier.Batch S} {session : AttesterSession S} {update : Update S}
    {devKey : KeyInfor S} (serves : Serves config batch session update)
    (own : session.devInfor.verifyingKey = devKey.verifyingKey) : Readable devKey update := by
  cases update with
  | response devRes publicContext frame =>
    obtain ⟨-, rfl, answers⟩ := serves
    obtain ⟨draw, sent⟩ := answers.encrypted
    exact ⟨draw, own ▸ sent⟩
  | context publicContext frame => exact serves.2.2

/-- The context of a readable frame is shorter than the frame. -/
theorem context_length_le (trips : S.RoundTrips) (cipher : S.CipherComplete) {update : Update S} {devKey : KeyInfor S}
    (readable : Readable devKey update) :
    (encodePublicContext S update.publicContext).length ≤ update.frame.length := by
  cases update with
  | response devRes publicContext frame =>
    obtain ⟨draw, sent⟩ := readable
    have inside := encodeVerifierResponse_length_le trips cipher sent
    simp only [encodeVerifierResponse, List.length_append, appendLenBytes_length] at inside
    simp only [Update.publicContext, Update.frame]
    omega
  | context publicContext frame =>
    obtain rfl : frame = encodePublicContextMessage S publicContext := readable
    simp only [Update.publicContext, Update.frame, encodePublicContextMessage, encodeTypedMessage, List.length_append]
    omega

/-- What the daemon keeps and sends for a session of the attester with this key. -/
structure Attended (config : Config S) (daemon : Daemon S) (session : AttesterSession S) (devKey : KeyInfor S)
    (first : Nat) : Prop where
  delivered : Delivered config daemon session.socket first
  registered : daemon.queued[session.socket]? = some session.fresh
  enrolled : session.merkleLeaf = session.devInfor.merkleLeaf
  readable : ∀ update ∈ daemon.sent session.socket, Readable devKey update

theorem Reached.attended (trips : S.RoundTrips) (cipher : S.CipherComplete)
    (ordered : Runs.Reaches (Verifier.step config) InOrder (Daemon.init S) daemon) {session : AttesterSession S}
    (member : session ∈ daemon.state.active) {devKey : KeyInfor S}
    (own : session.devInfor.verifyingKey = devKey.verifyingKey) :
    ∃ first, Attended config daemon session devKey first := by
  have tended := Verifier.Reached.tended trips cipher ordered
  obtain ⟨i, active⟩ := List.mem_iff_getElem?.mp member
  have inside := (List.getElem?_eq_some_iff.mp active).1
  obtain ⟨first, delivered⟩ := Verifier.Reached.delivered trips cipher ordered i inside
  have registered := tended.session active
  obtain rfl : session.socket = i := tended.accounted.socket ((List.getElem?_append_left inside).trans active)
  refine ⟨first, delivered, registered, Reached.enrolled ordered session.fresh (List.mem_of_getElem? registered), ?_⟩
  intro update written
  obtain ⟨j, found⟩ := List.mem_iff_getElem?.mp written
  obtain ⟨task, session', -, registered', -, serves⟩ := delivered.serves j update found
  obtain rfl := Option.some.inj (registered'.symm.trans registered)
  exact readable_of_serves serves own

theorem answered_of_delivered (delivered : Delivered config daemon i first) {devRes : ResponseDeviceInfor S}
    (last : lastResponse (daemon.sent i) = some devRes) :
    ∃ batch session publicContext frame, daemon.queued[i]? = some session ∧
      Answers config batch session devRes frame ∧ .response devRes publicContext frame ∈ daemon.sent i := by
  obtain ⟨update, written, carried⟩ := List.mem_filterMap.mp (List.mem_of_getLast? last)
  obtain ⟨j, found⟩ := List.mem_iff_getElem?.mp written
  obtain ⟨task, session, -, registered, -, serves⟩ := delivered.serves j update found
  cases update with
  | response devRes' publicContext frame =>
    obtain rfl := Option.some.inj carried
    exact ⟨task.batch, session, publicContext, frame, registered, serves.2.2, written⟩
  | context publicContext frame => cases carried

/-- What the directory that an attester has stored is good for. -/
structure Usable (config : Config S) (session : AttesterSession S) (devRes : ResponseDeviceInfor S)
    (publicContext : PublicContext S) (stored : SessionDir) (devConfig : DeviceConfigInfor S) : Prop where
  loaded : Attester.loadDeviceConfigInfor S (stored .devConfig) = .ok devConfig
  context : Attester.loadPublicContext S (stored .publicContext) = .ok publicContext
  leaf : (AttestationCircuit.new S devConfig publicContext.root devConfig.merklePath devConfig.merkleTag).leaf =
    session.merkleLeaf
  authorized : devConfig.authorizedInfor = generateDeviceAuthoriedInfor S session.devInfor devRes
  /-- Whatever is drawn and whenever it happens, evidence is made and accepted. -/
  evidence : ∀ seed seed' now, ∃ reply sig,
    Attester.generateDeviceEvidenceFromConfig S seed seed' (some now) publicContext.root devConfig = .ok (reply, sig) ∧
    Attester.sendEvidenceFromSession S seed seed' (some now) stored = .ok (encodeEvidenceMessage S reply sig) ∧
    (∃ system, Attester.synthesize (AttestationCircuit.new S devConfig publicContext.root devConfig.merklePath
      devConfig.merkleTag) = .ok system ∧ reply.genPublicInputs publicContext.root = system.inputs) ∧
    reply.sig = S.sign config.verifierKey.signingKey (verifierMessage reply) ∧
    Endorsed config.verifierKey.verifyingKey reply ∧
    ((encodeEvidenceMessage S reply sig).length ≤ maxTcpFrameLen → ∀ clock, Fresh (some clock) reply →
      Passes (some clock) publicContext reply sig ∧
      (RelyingParty.handle (some clock) (some publicContext) (encodeEvidenceMessage S reply sig)).replies =
        [verificationSuccess])

/-- A configuration built from an answered submission makes accepted evidence. -/
theorem usable_of_answers (ecdsa : S.EcdsaComplete) (groth : S.GrothComplete) (trips : S.RoundTrips)
    {batch : Verifier.Batch S} {session : AttesterSession S} {devRes : ResponseDeviceInfor S} {frame : Bytes}
    {publicContext : PublicContext S} {stored : SessionDir} {devKey : KeyInfor S} {measure : String}
    {submitted : Duration} (answers : Answers config batch session devRes frame)
    (honest : session.devInfor = generateDeviceClientInfor S measure submitted devKey)
    (enrolled : session.merkleLeaf = session.devInfor.merkleLeaf) (rooted : publicContext.root ≠ [])
    (checks : MembershipCheck S.hash publicContext.root session.merkleLeaf (devRes.shrubsPath, devRes.shrubsTag))
    (loaded : Attester.loadDeviceConfigInfor S (stored .devConfig) =
      .ok (DeviceConfigInfor.new S devKey session.devInfor devRes))
    (read : Attester.loadPublicContext S (stored .publicContext) = .ok publicContext) :
    Usable config session devRes publicContext stored (DeviceConfigInfor.new S devKey session.devInfor devRes) := by
  -- The circuit recomputes the leaf and the authorization from what the attester kept.
  have leaf : (AttestationCircuit.new S (DeviceConfigInfor.new S devKey session.devInfor devRes) publicContext.root
      devRes.shrubsPath devRes.shrubsTag).leaf = session.merkleLeaf := by
    rw [enrolled, honest]
    rfl
  have own : devRes.verifyingKey = devKey.verifyingKey := by
    rw [answers.verifyingKey, honest]
    rfl
  have authorized : (DeviceConfigInfor.new S devKey session.devInfor devRes).authorizedInfor =
      generateDeviceAuthoriedInfor S session.devInfor devRes := by
    rw [honest]
    rfl
  refine ⟨loaded, read, leaf, authorized, fun seed seed' now => ?_⟩
  obtain ⟨proof, vk, reply, made, generated, inputs, proved⟩ :=
    Attester.generateDeviceEvidenceFromConfig_succeeds groth rfl rooted (leaf ▸ checks) rfl answers.sig seed seed' now
  have fields := Except.ok.inj made
  have signed : reply.sig = S.sign config.verifierKey.signingKey (verifierMessage reply) := by
    rw [← fields, Verifier.verifierComputeSig, Verifier.verifierSigningBytes, own, ← authorized]
    rfl
  refine ⟨reply, _, generated, ?_, inputs, signed, ?_, fun fits clock fresh => ?_⟩
  · simp only [Attester.sendEvidenceFromSession, loaded, read, Wire.context_ok, Wire.ok_bind, generated]
    rfl
  · rw [Endorsed, signed, config.verifierKey.paired]
    exact ecdsa.accepts _ _
  · have paired : (DeviceConfigInfor.new S devKey session.devInfor devRes).verifyingKey =
        S.verifyingKey (DeviceConfigInfor.new S devKey session.devInfor devRes).signingKey := devKey.paired
    rw [paired] at made
    have acknowledged := RelyingParty.handle_signed ecdsa trips made fits fresh proved
    obtain ⟨-, reply', sig', decoded, passes⟩ := RelyingParty.handle_success_iff.mp acknowledged
    rw [decodeEvidenceMessage_encode trips (Nat.le_trans fits (by decide))] at decoded
    obtain ⟨rfl, rfl⟩ := Prod.mk.inj (Except.ok.inj decoded)
    exact ⟨passes, RelyingParty.handle_answers_once acknowledged⟩

end Session

section Completeness
variable {S : Suite} {config : Config S} {daemon : Daemon S}

/-- Whatever an honest attester was sent over a sequence of batches, the directory it
stored makes evidence that a relying party with the same context acknowledges. The
batches run one after another, or overlap without overtaking each other. -/
theorem honest_attester_acknowledged (ecdsa : S.EcdsaComplete) (cipher : S.CipherComplete) (groth : S.GrothComplete)
    (trips : S.RoundTrips) (injective : Function.Injective2 S.hash)
    (reached : Runs.Reaches (Verifier.step config) Sequential (Daemon.init S) daemon ∨
      Runs.Reaches (Verifier.step config) InOrder (Daemon.init S) daemon)
    (distinct : daemon.state.oldLeaves.Nodup)
    (apart : ∀ leaf ∈ daemon.state.oldLeaves, ¬ Inner S.hash daemon.state.oldLeaves leaf)
    {session : AttesterSession S} (member : session ∈ daemon.state.active) {measure : String} {submitted : Duration}
    {devKey : KeyInfor S} {received : Option Duration}
    (honest : handleRequest S received (submission (generateDeviceClientInfor S measure submitted devKey) devKey) =
      .ok session.devInfor)
    (answered : daemon.sent session.socket ≠ [])
    (short : ∀ update ∈ daemon.sent session.socket, update.frame.length ≤ maxTcpFrameLen)
    (roomy : ∀ devRes ∈ lastResponse (daemon.sent session.socket), (Attester.encodeDeviceConfigInfor S
      (DeviceConfigInfor.new S devKey session.devInfor devRes)).length ≤ isizeMax) :
    ∃ devRes publicContext stored devConfig,
      Attester.run S devKey (generateDeviceClientInfor S measure submitted devKey)
        ((daemon.sent session.socket).map Update.frame) = .ok stored ∧
      lastResponse (daemon.sent session.socket) = some devRes ∧
      (daemon.sent session.socket).getLast?.map Update.publicContext = some publicContext ∧
      Usable config session devRes publicContext stored devConfig := by
  have own : session.devInfor = generateDeviceClientInfor S measure submitted devKey :=
    queued_submission ecdsa trips rfl honest
  rw [← own]
  -- Batches that run one after another are a case of batches in order.
  have ordered : Runs.Reaches (Verifier.step config) InOrder (Daemon.init S) daemon := by
    rcases reached with sequential | inOrder
    · exact (Verifier.Reached.inOrder sequential fun _ _ permitted => permitted).mono fun _ _ permitted => permitted.1
    · exact inOrder
  have tended := Verifier.Reached.tended trips cipher ordered
  have key : session.devInfor.verifyingKey = devKey.verifyingKey := own ▸ rfl
  obtain ⟨first, delivered, registered, enrolled, readable⟩ := Reached.attended trips cipher ordered member key
  -- The last answer and the last context come from one batch, whose roots the path opens under.
  obtain ⟨task, session', devRes, update, found, registered', last, final, context, checks⟩ :=
    delivered.checks tended.recorded (allFaithful_of_distinct tended injective distinct apart) answered
  obtain rfl := Option.some.inj (registered'.symm.trans registered)
  obtain ⟨batch, session', responded, frame, registered', answers, carried⟩ := answered_of_delivered delivered last
  obtain rfl := Option.some.inj (registered'.symm.trans registered)
  have root : update.publicContext.root = task.batch.root := context ▸ (tended.rooted found).1
  have rooted : update.publicContext.root ≠ [] := root ▸ (tended.rooted found).2
  have stored := @filesAfter_stored S devKey session.devInfor (daemon.sent session.socket)
  rw [last, final, Option.map_some, Option.map_some] at stored
  have usable : Usable config session.fresh devRes update.publicContext
      (filesAfter devKey session.devInfor SessionDir.empty (daemon.sent session.socket))
      (DeviceConfigInfor.new S devKey session.devInfor devRes) := by
    refine usable_of_answers ecdsa groth trips answers own enrolled rooted (root ▸ checks) ?_ ?_
    · rw [stored.2]
      obtain ⟨draw, sent⟩ := readable _ carried
      have held := held_of_short ((encodeVerifierResponse_length_le trips cipher sent).trans (short _ carried))
      exact Attester.loadDeviceConfigInfor_encode trips (roomy devRes last) held.1
    · rw [stored.1]
      have written := List.mem_of_getLast? final
      have inside := (context_length_le trips cipher (readable update written)).trans (short update written)
      exact Attester.loadPublicContext_encode trips (inside.trans (by decide)) (publicContext_held_of_short inside)
  refine ⟨devRes, update.publicContext, _, DeviceConfigInfor.new S devKey session.devInfor devRes,
    run_updates trips cipher readable short, last, ?_, ?_⟩
  · rw [final, Option.map_some]
  · exact ⟨usable.loaded, usable.context, usable.leaf, usable.authorized, usable.evidence⟩

end Completeness

section Sample

/-- The key whose last byte is the given one. -/
def sampleKey (byte : UInt8) : KeyInfor reference :=
  ⟨⟨List.replicate 31 0 ++ [byte], by simp⟩, List.replicate 31 0 ++ [byte], rfl⟩

def sampleDevice (byte : UInt8) : DeviceClientInfor reference :=
  generateDeviceClientInfor reference "m" (Duration.fromSecs 7 (by decide)) (sampleKey byte)

def sampleFields (devInfor : DeviceClientInfor reference) : Bytes × String × Nat × Duration × Duration :=
  (devInfor.verifyingKey, devInfor.measuredValue, devInfor.merkleLeaf, devInfor.timestamp, devInfor.period)

theorem sampleFields_injective {left right : DeviceClientInfor reference} (same : sampleFields left = sampleFields right) :
    left = right := by
  cases left
  cases right
  simp only [sampleFields, Prod.mk.injEq] at same
  obtain ⟨rfl, rfl, rfl, rfl, rfl⟩ := same
  rfl

/-- Two attesters are served by one batch, the first again when a third one arrives. -/
theorem honest_attester_acknowledged_sample :
    ∃ (daemon : Daemon reference) (session : AttesterSession reference), session ∈ daemon.state.active ∧
      (daemon.sent session.socket).length = 2 ∧
      ∃ devRes publicContext stored devConfig,
        Attester.run reference (sampleKey 2) (sampleDevice 2) ((daemon.sent session.socket).map Update.frame) = .ok stored ∧
        lastResponse (daemon.sent session.socket) = some devRes ∧
        (daemon.sent session.socket).getLast?.map Update.publicContext = some publicContext ∧
        Usable Verifier.sampleConfig session devRes publicContext stored devConfig := by
  obtain ⟨daemon, reached, ended⟩ := @Runs.reaches_of_labels _ _ (Verifier.step Verifier.sampleConfig) Sequential
    (Daemon.init reference)
    (Verifier.sampleBatch [sampleDevice 1, sampleDevice 2] ++ Verifier.sampleActs 0 5 ++
      Verifier.sampleBatch [sampleDevice 3] ++ Verifier.sampleActs 1 6)
    (fun daemon label => Verifier.sampleSequential daemon label)
    (fun daemon => decide ((daemon.state.oldLeaves.Nodup ∧
        ∀ leaf ∈ daemon.state.oldLeaves, ¬ Inner Nat.pair daemon.state.oldLeaves leaf) ∧
      ∃ session ∈ daemon.state.active, sampleFields session.devInfor = sampleFields (sampleDevice 2) ∧
        (daemon.sent session.socket).length = 2 ∧
        (∀ update ∈ daemon.sent session.socket, update.frame.length ≤ maxTcpFrameLen) ∧
        ∀ devRes ∈ lastResponse (daemon.sent session.socket), (Attester.encodeDeviceConfigInfor reference
          (DeviceConfigInfor.new reference (sampleKey 2) session.devInfor devRes)).length ≤ isizeMax))
    (fun _ _ tested => Verifier.sampleSequential_sound tested) (by decide +kernel)
  obtain ⟨⟨distinct, apart⟩, session, member, same, twice, short, roomy⟩ := of_decide_eq_true ended
  have honest : handleRequest reference (some (Duration.fromSecs 9 (by decide)))
      (submission (sampleDevice 2) (sampleKey 2)) = .ok session.devInfor := by
    rw [sampleFields_injective same,
      handleRequest_submission reference_ecdsaComplete reference_roundTrips rfl (by decide +kernel)]
    rfl
  have answered : daemon.sent session.socket ≠ [] := List.ne_nil_of_length_pos (by omega)
  exact ⟨daemon, session, member, twice, honest_attester_acknowledged reference_ecdsaComplete reference_cipherComplete
    reference_grothComplete reference_roundTrips reference_hash_injective (Or.inl reached) distinct apart member honest
    answered short roomy⟩

end Sample

end UnifiedAttestation.Protocol
