import UnifiedAttestation.Protocol.Completeness
import UnifiedAttestation.RelyingParty.Cache
import UnifiedAttestation.RelyingParty.Soundness

/-! The verifier's daemon, one relying party and everybody else, in one machine.

The steps of the daemon and of the listener interleave in any order. Anybody submits
to the verifier and connects to the relying party, with any bytes but a context that the
verifier has not published: that a context is the verifier's is nowhere checked. The
relying party may be restarted, and goes on with the file it has left.
-/

set_option autoImplicit false

namespace UnifiedAttestation.Protocol

open Wire (Bytes)
open Shrubs (createBatchDevices)
open Forest (climb Inner)
open Toolkit
open Verifier (Daemon Config AttesterSession Batch Task Formed Accounted Recorded handleRequest)
open RelyingParty (Cache Stage receivedContext verificationSuccess Passes GrothIdeal termsOf)

section Machine
variable (S : Suite)

/-- Evidence that was acknowledged, with the clock and the context of that moment. -/
structure Acknowledged where
  now : Option Duration
  ctx : PublicContext S
  payload : Bytes

structure Network where
  daemon : Daemon S
  cache : Cache S
  /-- Oldest first. -/
  acknowledged : List (Acknowledged S)

def Network.init : Network S := ⟨Daemon.init S, Cache.start none, []⟩

inductive Event where
  | submit (now : Option Duration) (payload : Bytes) (attesterAddr : String)
  | verifier (label : Verifier.Label S)
  | connect (payload : Bytes)
  | serve (now : Option Duration) (task : Nat)
  | store (task : Nat)
  | restart

variable {S}

/-- The contexts among those that go to the address are connections of the listener. -/
def deliver (addr : String) (cache : Cache S) (sent : List (String × PublicContext S)) : Cache S :=
  sent.foldl
    (fun cache (target, ctx) => if target = addr then (RelyingParty.step cache (.publish ctx)).getD cache else cache) cache

/-- What serving a connection adds to the acknowledged evidence. -/
def acknowledge (now : Option Duration) (cache : Cache S) (task : Nat) : List (Acknowledged S) :=
  match cache.tasks[task]?, cache.cached with
  | some (.accepted payload), some ctx =>
    if (RelyingParty.handle now (some ctx) payload).replies.contains verificationSuccess then [⟨now, ctx, payload⟩] else []
  | _, _ => []

def step (config : Config S) (addr : String) (net : Network S) : Event S → Option (Network S)
  | .submit now payload attesterAddr =>
    match handleRequest S now payload with
    | .error _ => some net
    | .ok devInfor => (Verifier.step config net.daemon (.queue devInfor attesterAddr)).map ({ net with daemon := · })
  | .verifier (.queue _ _) => none
  | .verifier label =>
    (Verifier.step config net.daemon label).map fun daemon =>
      { net with
        daemon
        cache := deliver addr net.cache (daemon.published.drop net.daemon.published.length) }
  | .connect payload => (RelyingParty.step net.cache (.connect payload)).map ({ net with cache := · })
  | .serve now task =>
    (RelyingParty.step net.cache (.serve task)).map fun cache =>
      { net with cache, acknowledged := net.acknowledged ++ acknowledge now net.cache task }
  | .store task => (RelyingParty.step net.cache (.store task)).map ({ net with cache := · })
  | .restart => some { net with cache := Cache.start net.cache.file }

/-- Strangers bring no context, or repeat a message of the verifier. -/
def Permitted (net : Network S) : Event S → Prop
  | .connect payload => receivedContext S payload = none ∨
    ∃ addr ctx, (addr, ctx) ∈ net.daemon.published ∧ payload = encodePublicContextMessage S ctx
  | _ => True

end Machine

section Verifier
variable {S : Suite} {config : Config S} {daemon next : Daemon S}

/-- The context of one of the batches. -/
def Issued (daemon : Daemon S) (ctx : PublicContext S) : Prop :=
  ∃ batch ∈ daemon.batches, batch.publicContext = ctx

/-- What no step of the daemon takes back. -/
structure Grows (daemon next : Daemon S) : Prop where
  queued : daemon.queued <+: next.queued
  batches : daemon.batches <+: next.batches
  published : daemon.published <+: next.published

theorem Grows.refl (daemon : Daemon S) : Grows daemon daemon :=
  ⟨List.prefix_refl _, List.prefix_refl _, List.prefix_refl _⟩

theorem Issued.grow {ctx : PublicContext S} (issued : Issued daemon ctx) (grows : Grows daemon next) :
    Issued next ctx := by
  obtain ⟨batch, member, same⟩ := issued
  exact ⟨batch, grows.batches.subset member, same⟩

/-- A queued submission adds its session and publishes nothing. -/
theorem step_queue {devInfor : DeviceClientInfor S} {attesterAddr : String}
    (stepped : Verifier.step config daemon (.queue devInfor attesterAddr) = some next) :
    next.queued = daemon.queued ++ [Verifier.newSession daemon.queued.length devInfor attesterAddr] ∧
      next.batches = daemon.batches ∧ next.published = daemon.published := by
  simp only [Verifier.step, Verifier.queueAttester] at stepped
  split at stepped
  all_goals
    obtain rfl := Option.some.inj stepped
    exact ⟨rfl, rfl, rfl⟩

/-- The daemon's own steps queue nobody. -/
theorem step_internal {label : Verifier.Label S} (internal : ∀ devInfor addr, label ≠ .queue devInfor addr)
    (stepped : Verifier.step config daemon label = some next) : next.queued = daemon.queued := by
  cases label with
  | queue devInfor attesterAddr => exact absurd rfl (internal devInfor attesterAddr)
  | spawn timer | elapse timer =>
    simp only [Verifier.step, Option.ite_none_right_eq_some] at stepped
    exact Option.some.inj stepped.2 ▸ rfl
  | process timer =>
    obtain ⟨state, batch, -, -, rfl⟩ := Verifier.step_process stepped
    rfl
  | act index now draw =>
    obtain ⟨task, action, rest, -, -, moved⟩ := Verifier.step_act stepped
    obtain ⟨-, -, -, queued, -⟩ := Verifier.act_frame moved
    exact queued

/-- Only the publishing of a task's own context adds to what is published. -/
theorem act_published {now : Nat → Duration} {draw : Nat → Draw S} {index : Nat} {task : Task S}
    {action : Verifier.Action S} {rest : List (Verifier.Action S)}
    (moved : Verifier.act config now draw daemon index task action rest = next) :
    next.published = daemon.published ∨
      ∃ addr, next.published = daemon.published ++ [(addr, task.batch.publicContext)] := by
  subst moved
  cases action with
  | respond snapshots =>
    left
    simp only [Verifier.act]
    split <;> rfl
  | send socket update => exact Or.inl rfl
  | publish addr => exact Or.inr ⟨addr, rfl⟩

/-- A step adds to the sessions, the batches and what is published, and publishes only
contexts of its batches. -/
theorem step_grows {label : Verifier.Label S}
    (stepped : Verifier.step config daemon label = some next) :
    Grows daemon next ∧ ∀ sent ∈ next.published.drop daemon.published.length, Issued next sent.2 := by
  have silent : ∀ {other : Daemon S}, other.published = daemon.published →
      ∀ sent ∈ other.published.drop daemon.published.length, Issued other sent.2 := by
    intro other same sent member
    rw [same, List.drop_length] at member
    cases member
  cases label with
  | queue devInfor attesterAddr =>
    obtain ⟨queued, batches, published⟩ := step_queue stepped
    exact ⟨⟨queued ▸ List.prefix_append _ _, batches ▸ List.prefix_refl _, published ▸ List.prefix_refl _⟩,
      silent published⟩
  | spawn timer | elapse timer =>
    simp only [Verifier.step, Option.ite_none_right_eq_some] at stepped
    obtain rfl := Option.some.inj stepped.2
    exact ⟨⟨List.prefix_refl _, List.prefix_refl _, List.prefix_refl _⟩, silent rfl⟩
  | process timer =>
    obtain ⟨state, batch, -, -, rfl⟩ := Verifier.step_process stepped
    refine ⟨⟨List.prefix_refl _, ?_, List.prefix_refl _⟩, silent rfl⟩
    simp only [Daemon.batches, List.map_append]
    exact List.prefix_append _ _
  | act index now draw =>
    obtain ⟨task, action, rest, found, -, moved⟩ := Verifier.step_act stepped
    have batches := Verifier.act_batches found moved
    obtain ⟨-, -, -, queued, -⟩ := Verifier.act_frame moved
    have kept : daemon.queued <+: next.queued ∧ daemon.batches <+: next.batches :=
      ⟨queued ▸ List.prefix_refl _, batches ▸ List.prefix_refl _⟩
    rcases act_published moved with same | ⟨addr, more⟩
    · exact ⟨⟨kept.1, kept.2, same ▸ List.prefix_refl _⟩, silent same⟩
    · refine ⟨⟨kept.1, kept.2, more ▸ List.prefix_append _ _⟩, ?_⟩
      rw [more, List.drop_left]
      intro sent member
      rw [List.mem_singleton.mp member]
      refine ⟨task.batch, ?_, rfl⟩
      rw [batches]
      exact List.mem_map_of_mem (List.mem_of_getElem? found)

/-- The leaves of all sessions, in the order they were queued. -/
def Network.leaves (net : Network S) : List S.Scalar := net.daemon.queued.map fun session => session.merkleLeaf

/-- An issued context commits to the leaves of the first sessions. -/
theorem Issued.commits (recorded : Recorded config daemon) {ctx : PublicContext S} (issued : Issued daemon ctx) :
    ∃ count, 0 < count ∧ count ≤ daemon.queued.length ∧ ctx = ⟨createBatchDevices S.hash []
      ((daemon.queued.map fun session => session.merkleLeaf).take count), config.verifierKey.verifyingKey⟩ := by
  obtain ⟨batch, member, rfl⟩ := issued
  obtain ⟨k, found⟩ := List.mem_iff_getElem?.mp member
  obtain ⟨sessions, formed, earlier⟩ := recorded.formed k batch found
  have length := formed.leaves_length
  have total := earlier.length_le
  have grows := formed.grows
  rw [List.length_map] at total
  refine ⟨batch.leaves.length, by omega, by omega, ?_⟩
  rw [← recorded.leaves found, ← formed.root, formed.context]

end Verifier

section Listener
variable {S : Suite} {source : PublicContext S → Prop} {cache next : Cache S}

/-- A context from the source, in a frame that is not too long. -/
def Carried (source : PublicContext S → Prop) (ctx : PublicContext S) : Prop :=
  source ctx ∧ (encodePublicContextMessage S ctx).length ≤ maxTcpFrameLen

/-- All contexts of the listener come from the source. -/
structure Fed (source : PublicContext S → Prop) (cache : Cache S) : Prop where
  accepted : ∀ payload, .accepted payload ∈ cache.tasks → ∀ ctx ∈ receivedContext S payload, Carried source ctx
  saved : ∀ ctx, .saved ctx ∈ cache.tasks → Carried source ctx
  file : ∀ bytes ∈ cache.file, ∃ ctx, bytes = encodePublicContext S ctx ∧ Carried source ctx
  cached : ∀ ctx ∈ cache.cached, source ctx

theorem Carried.mono {wider : PublicContext S → Prop} (implies : ∀ ctx, source ctx → wider ctx) {ctx : PublicContext S}
    (carried : Carried source ctx) : Carried wider ctx := ⟨implies ctx carried.1, carried.2⟩

theorem Fed.mono {wider : PublicContext S → Prop} (fed : Fed source cache) (implies : ∀ ctx, source ctx → wider ctx) :
    Fed wider cache where
  accepted payload member ctx received := (fed.accepted payload member ctx received).mono implies
  saved ctx member := (fed.saved ctx member).mono implies
  file bytes held := by
    obtain ⟨ctx, same, carried⟩ := fed.file bytes held
    exact ⟨ctx, same, carried.mono implies⟩
  cached ctx known := implies ctx (fed.cached ctx known)

theorem Fed.start (source : PublicContext S → Prop) : Fed source (Cache.start none) where
  accepted _ member := by cases member
  saved _ member := by cases member
  file _ held := by cases held
  cached _ known := by cases known

/-- A frame of the verifier brings the context that was encoded, or is too long for any. -/
theorem receivedContext_publish (trips : S.RoundTrips) {ctx received : PublicContext S}
    (arrived : receivedContext S (encodePublicContextMessage S ctx) = some received) :
    received = ctx ∧ (encodePublicContextMessage S ctx).length ≤ maxTcpFrameLen := by
  by_cases short : (encodePublicContextMessage S ctx).length ≤ maxTcpFrameLen
  · rw [RelyingParty.receivedContext_encode trips short] at arrived
    exact ⟨(Option.some.inj arrived).symm, short⟩
  · rw [receivedContext, tcpReadFrame, if_pos (Nat.lt_of_not_le short)] at arrived
    cases arrived

/-- A new connection is harmless if what it brings comes from the source. -/
theorem Fed.connection (fed : Fed source cache) {payload : Bytes} {newest : Option (Nat × PublicContext S)}
    (brings : ∀ ctx ∈ receivedContext S payload, Carried source ctx) :
    Fed source { cache with tasks := cache.tasks ++ [.accepted payload], newest } where
  accepted other member := by
    rcases List.mem_append.mp member with old | new
    · exact fed.accepted other old
    · cases List.mem_singleton.mp new
      exact brings
  saved ctx member := by
    rcases List.mem_append.mp member with old | new
    · exact fed.saved ctx old
    · cases List.mem_singleton.mp new
  file := fed.file
  cached := fed.cached

theorem brings_published (trips : S.RoundTrips) {ctx : PublicContext S} (sourced : source ctx) :
    ∀ received ∈ receivedContext S (encodePublicContextMessage S ctx), Carried source received := by
  intro received arrived
  obtain ⟨rfl, short⟩ := receivedContext_publish trips arrived
  exact ⟨sourced, short⟩

theorem Fed.deliver (trips : S.RoundTrips) {addr : String} {sent : List (String × PublicContext S)}
    (sourced : ∀ item ∈ sent, source item.2) (fed : Fed source cache) : Fed source (deliver addr cache sent) := by
  induction sent generalizing cache with
  | nil => exact fed
  | cons item sent ih =>
    obtain ⟨target, ctx⟩ := item
    rw [Protocol.deliver, List.foldl_cons]
    apply ih fun other member => sourced other (List.mem_cons_of_mem _ member)
    simp only
    split
    · exact fed.connection (brings_published trips (sourced (target, ctx) List.mem_cons_self))
    · exact fed

theorem Fed.serve (fed : Fed source cache) {task : Nat} (stepped : RelyingParty.step cache (.serve task) = some next) :
    Fed source next := by
  have fewer : ∀ {stage other : Stage S}, other ∈ cache.tasks.set task stage → other ∈ cache.tasks ∨ other = stage :=
    List.mem_or_eq_of_mem_set
  obtain ⟨payload, arrived, ⟨-, rfl⟩ | ⟨ctx, received, rfl⟩⟩ := RelyingParty.step_serve stepped
  · refine ⟨fun other member => ?_, fun ctx member => ?_, fed.file, fed.cached⟩
    · exact fed.accepted other ((fewer member).resolve_right fun same => by cases same)
    · exact fed.saved ctx ((fewer member).resolve_right fun same => by cases same)
  · have carried := fed.accepted payload (List.mem_of_getElem? arrived) ctx received
    refine ⟨fun other member => ?_, fun other member => ?_, fun bytes held => ?_, fed.cached⟩
    · exact fed.accepted other ((fewer member).resolve_right fun same => by cases same)
    · rcases fewer member with old | same
      · exact fed.saved other old
      · cases same
        exact carried
    · cases Option.some.inj held
      exact ⟨ctx, rfl, carried⟩

theorem Fed.store (fed : Fed source cache) {task : Nat} (stepped : RelyingParty.step cache (.store task) = some next) :
    Fed source next := by
  obtain ⟨ctx, saved, rfl⟩ := RelyingParty.step_store stepped
  have carried := fed.saved ctx (List.mem_of_getElem? saved)
  refine ⟨fun other member => ?_, fun other member => ?_, fed.file, fun other known => ?_⟩
  · exact fed.accepted other ((List.mem_or_eq_of_mem_set member).resolve_right fun same => by cases same)
  · exact fed.saved other ((List.mem_or_eq_of_mem_set member).resolve_right fun same => by cases same)
  · cases Option.some.inj known
    exact carried.1

/-- What a restarted relying party reads back is the context that was saved. -/
theorem Fed.restart (trips : S.RoundTrips) (fed : Fed source cache) : Fed source (Cache.start cache.file) where
  accepted _ member := by cases member
  saved _ member := by cases member
  file := fed.file
  cached ctx known := by
    cases held : cache.file with
    | none =>
      rw [held] at known
      cases known
    | some bytes =>
      obtain ⟨saved, rfl, sourced, short⟩ := fed.file bytes held
      simp only [encodePublicContextMessage, encodeTypedMessage, List.length_append] at short
      have inside : (encodePublicContext S saved).length ≤ maxTcpFrameLen := by omega
      have loaded := Attester.loadPublicContext_encode trips (inside.trans (by decide)) (publicContext_held_of_short inside)
      rw [Cache.start, held, loaded] at known
      cases Option.some.inj known
      exact sourced

end Listener

section Invariant
variable {S : Suite} {config : Config S} {addr : String} {net next : Network S}

/-- The session was queued for a submission that the verifier has accepted. -/
def Submitted (session : AttesterSession S) : Prop :=
  session.merkleLeaf = session.devInfor.merkleLeaf ∧ ∃ now payload, handleRequest S now payload = .ok session.devInfor

/-- All contexts in the network, and all that evidence was acknowledged under, are issued. -/
structure Genuine (config : Config S) (net : Network S) : Prop where
  accounted : Accounted net.daemon
  recorded : Recorded config net.daemon
  submitted : ∀ session ∈ net.daemon.queued, Submitted session
  published : ∀ sent ∈ net.daemon.published, Issued net.daemon sent.2
  fed : Fed (Issued net.daemon) net.cache
  acknowledged : ∀ seen ∈ net.acknowledged, Issued net.daemon seen.ctx ∧
    verificationSuccess ∈ (RelyingParty.handle seen.now (some seen.ctx) seen.payload).replies

theorem init_genuine : Genuine config (Network.init S) where
  accounted := Verifier.init_accounted
  recorded := Verifier.init_recorded
  submitted _ member := by cases member
  published _ member := by cases member
  fed := Fed.start _
  acknowledged _ member := by cases member

/-- The daemon steps, and what it publishes goes to the listener. -/
theorem Genuine.verifier (trips : S.RoundTrips) (genuine : Genuine config net) {label : Verifier.Label S}
    {daemon : Daemon S} (stepped : Verifier.step config net.daemon label = some daemon)
    (submitted : ∀ session ∈ daemon.queued, Submitted session) :
    Genuine config { net with
      daemon
      cache := deliver addr net.cache (daemon.published.drop net.daemon.published.length) } := by
  obtain ⟨grows, sourced⟩ := step_grows stepped
  obtain ⟨more, whole⟩ := grows.published
  have kept := fun ctx (issued : Issued net.daemon ctx) => Issued.grow issued grows
  refine ⟨genuine.accounted.step stepped, genuine.recorded.step genuine.accounted stepped, submitted, ?published,
    (genuine.fed.mono kept).deliver trips sourced, ?acknowledged⟩
  case published =>
    intro sent member
    rw [← whole] at member
    rcases List.mem_append.mp member with old | new
    · exact kept _ (genuine.published sent old)
    · refine sourced sent ?_
      rw [← whole, List.drop_left]
      exact new
  case acknowledged =>
    intro seen member
    exact ⟨kept _ (genuine.acknowledged seen member).1, (genuine.acknowledged seen member).2⟩

theorem acknowledge_replies {now : Option Duration} {cache : Cache S} {task : Nat} {seen : Acknowledged S}
    (member : seen ∈ acknowledge now cache task) : cache.cached = some seen.ctx ∧
      verificationSuccess ∈ (RelyingParty.handle seen.now (some seen.ctx) seen.payload).replies := by
  unfold acknowledge at member
  split at member
  · next payload ctx _ known =>
    split at member
    · next answered =>
      obtain rfl := List.mem_singleton.mp member
      exact ⟨known, List.contains_iff_mem.mp answered⟩
    · cases member
  · cases member

theorem Genuine.step (trips : S.RoundTrips) (genuine : Genuine config net) {event : Event S}
    (permitted : Permitted net event) (stepped : Protocol.step config addr net event = some next) :
    Genuine config next := by
  have listens : ∀ {cache : Cache S}, Fed (Issued net.daemon) cache → Genuine config { net with cache } := fun fed =>
    ⟨genuine.accounted, genuine.recorded, genuine.submitted, genuine.published, fed, genuine.acknowledged⟩
  cases event with
  | submit now payload attesterAddr =>
    simp only [Protocol.step] at stepped
    split at stepped
    · obtain rfl := Option.some.inj stepped
      exact genuine
    · next devInfor accepted =>
      obtain ⟨daemon, queued, rfl⟩ := Option.map_eq_some_iff.mp stepped
      obtain ⟨more, -, unpublished⟩ := step_queue queued
      have submitted : ∀ session ∈ daemon.queued, Submitted session := by
        intro session member
        rw [more] at member
        rcases List.mem_append.mp member with old | new
        · exact genuine.submitted session old
        · rw [List.mem_singleton.mp new]
          exact ⟨rfl, now, payload, accepted⟩
      have moved := @Genuine.verifier S config addr net trips genuine _ _ queued submitted
      rw [unpublished, List.drop_length] at moved
      exact moved
  | verifier label =>
    have internal : ∀ devInfor addr', label ≠ .queue devInfor addr' := by
      rintro devInfor addr' rfl
      cases stepped
    have stepped' : (Verifier.step config net.daemon label).map (fun daemon => { net with
        daemon
        cache := deliver addr net.cache (daemon.published.drop net.daemon.published.length) }) = some next := by
      cases label with
      | queue devInfor addr' => exact absurd rfl (internal devInfor addr')
      | _ => exact stepped
    obtain ⟨daemon, moved, rfl⟩ := Option.map_eq_some_iff.mp stepped'
    have queued := step_internal internal moved
    exact genuine.verifier trips moved fun session member => genuine.submitted session (queued ▸ member)
  | connect payload =>
    obtain rfl := Option.some.inj stepped
    refine listens (genuine.fed.connection ?_)
    rcases permitted with nothing | ⟨addr', ctx, member, rfl⟩
    · rw [nothing]
      intro ctx received
      cases received
    · exact brings_published trips (genuine.published _ member)
  | serve now task =>
    obtain ⟨cache, served, rfl⟩ := Option.map_eq_some_iff.mp stepped
    have fed := genuine.fed.serve served
    refine ⟨genuine.accounted, genuine.recorded, genuine.submitted, genuine.published, fed, fun seen member => ?_⟩
    rcases List.mem_append.mp member with old | new
    · exact genuine.acknowledged seen old
    · obtain ⟨known, answered⟩ := acknowledge_replies new
      exact ⟨genuine.fed.cached _ known, answered⟩
  | store task =>
    obtain ⟨cache, stored, rfl⟩ := Option.map_eq_some_iff.mp stepped
    exact listens (genuine.fed.store stored)
  | restart =>
    obtain rfl := Option.some.inj stepped
    exact listens (genuine.fed.restart trips)

end Invariant

section Soundness
variable {S : Suite} {relationOf : S.GrothKey → List S.Scalar → Prop}
variable {config : Config S} {addr : String} {net : Network S}

/-- The key was set up for an attestation circuit over as many roots. -/
def SetUp (roots : Nat) (vk : S.GrothKey) : Prop :=
  ∃ (c : Attester.AttestationCircuit S) (system : Gadgets.System S.Scalar) (seed : Nat),
    Attester.synthesize c = .ok system ∧ c.root ≠ [] ∧ c.root.length = roots ∧ vk = (S.setup seed system.shape).2

/-- The value is an inner node over the leaves, or lies below one of them. -/
def Beside (leaves : List S.Scalar) (value : S.Scalar) : Prop :=
  Inner S.hash leaves value ∨
    ∃ path tag, path ≠ [] ∧ path.length = tag.length ∧ climb S.hash value path tag ∈ leaves

/-- Over issued roots the attestation statement leads to a session of the verifier. -/
theorem proves_registered (injective : Function.Injective2 S.hash) (genuine : Genuine config net) {count : Nat}
    {terms : RelyingParty.Terms S} (occupied : net.leaves.take count ≠ [])
    (proves : RelyingParty.Proves (createBatchDevices S.hash [] (net.leaves.take count)) terms) :
    ∃ sk ar, S.hash (S.hash (S.hash (scalarOfPoint S terms.pk) ar) (S.ofNat terms.timestamp.secs))
        (S.ofNat terms.period.secs) = terms.authorizedInfor ∧
      ((∃ session ∈ net.daemon.queued, session.merkleLeaf = S.hash (S.hash ar sk) (scalarOfPoint S terms.pk) ∧
          Submitted session) ∨
        Beside (net.leaves.take count) (S.hash (S.hash ar sk) (scalarOfPoint S terms.pk))) := by
  obtain ⟨sk, ar, path, tag, satisfied⟩ := proves
  have commits := Shrubs.createBatchDevices_commits S.hash (net.leaves.take count)
  have rooted := mt (commits.eq_nil_iff S.hash).mp occupied
  obtain ⟨checks, authorized⟩ := (Attester.synthesize_satisfied_iff rooted).mp satisfied
  refine ⟨sk, ar, authorized, ?_⟩
  rcases Shrubs.membership_origin injective commits checks with leaf | inner | below
  · left
    obtain ⟨session, queued, same⟩ := List.mem_map.mp (List.mem_of_mem_take leaf)
    exact ⟨session, queued, same, genuine.submitted session queued⟩
  · exact Or.inr (Or.inl inner)
  · exact Or.inr (Or.inr below)

/-- Whatever was acknowledged in any run, it was under roots over the first sessions of the
verifier, and a key of the circuit shows a leaf that a session of it has submitted. -/
theorem acknowledged_registered (trips : S.RoundTrips) (injective : Function.Injective2 S.hash)
    (ideal : GrothIdeal S relationOf) (reached : Runs.Reaches (step config addr) Permitted (Network.init S) net)
    {seen : Acknowledged S} (member : seen ∈ net.acknowledged) :
    ∃ count reply sig, 0 < count ∧ count ≤ net.daemon.queued.length ∧
      seen.ctx = ⟨createBatchDevices S.hash [] (net.leaves.take count), config.verifierKey.verifyingKey⟩ ∧
      decodeEvidenceMessage S seen.payload = .ok (reply, sig) ∧ Passes seen.now seen.ctx reply sig ∧
      (SetUp seen.ctx.root.length reply.vk →
        ∃ sk ar, S.hash (S.hash (S.hash (scalarOfPoint S reply.pk) ar) (S.ofNat reply.timestamp.secs))
            (S.ofNat reply.period.secs) = reply.authorizedInfor ∧
          ((∃ session ∈ net.daemon.queued, session.merkleLeaf = S.hash (S.hash ar sk) (scalarOfPoint S reply.pk) ∧
              Submitted session) ∨
            Beside (net.leaves.take count) (S.hash (S.hash ar sk) (scalarOfPoint S reply.pk)))) := by
  have genuine : Genuine config net :=
    reached.invariant init_genuine fun _ _ _ genuine permitted stepped => genuine.step trips permitted stepped
  obtain ⟨issued, answered⟩ := genuine.acknowledged seen member
  obtain ⟨count, positive, inside, context⟩ := issued.commits genuine.recorded
  obtain ⟨-, reply, sig, decoded, passes⟩ := RelyingParty.handle_success_iff.mp answered
  refine ⟨count, reply, sig, positive, inside, context, decoded, passes, ?_⟩
  rintro ⟨c, system, seed, synthesized, rooted, roots, key⟩
  have occupied : net.leaves.take count ≠ [] := by
    apply List.ne_nil_of_length_pos
    rw [List.length_take, Network.leaves, List.length_map]
    omega
  have related := ideal.sound _ _ _ passes.proved
  rw [key] at related
  have proves := RelyingParty.attestation_key ideal synthesized rooted roots.symm seed (termsOf reply) related
  rw [context] at proves
  exact proves_registered injective genuine occupied proves

end Soundness

section Sample

/-- The shape of the circuit for a single leaf. -/
def singleShape : Gadgets.Shape := ⟨5, 2, [@Attester.membership Nat 1 none none, Attester.commitment 1]⟩

/-- The reference suite with a proof system whose proofs are the witnesses themselves. The
key for a single leaf has a short encoding. -/
abbrev transparent : Suite := { reference with
  ProvingKey := Gadgets.Shape
  GrothKey := Gadgets.Shape
  Proof := List Nat
  setup := fun _ shape => (shape, shape)
  prove := fun _ _ system => if system.Satisfied Nat.pair then some system.witnesses else none
  verifyProof := fun vk inputs proof =>
    if inputs.length = vk.inputs then some (decide (vk.Satisfied Nat.pair inputs proof)) else none
  proofBytes := fun proof => natBytes (Encodable.encode proof)
  proofOf := fun bytes => Encodable.decode (Wire.fromBytesBe bytes)
  grothKeyBytes := fun vk => if vk = singleShape then [] else 0 :: natBytes (Encodable.encode vk)
  grothKeyOf := fun bytes =>
    match bytes with
    | [] => some singleShape
    | _ :: bytes => Encodable.decode (Wire.fromBytesBe bytes) }

theorem transparent_roundTrips : transparent.RoundTrips where
  scalar := reference_roundTrips.scalar
  key := reference_roundTrips.key
  keyLength := reference_roundTrips.keyLength
  point _ := rfl
  signature _ := rfl
  proof value := by
    change Encodable.decode (Wire.fromBytesBe (natBytes (Encodable.encode value))) = some value
    rw [fromBytesBe_natBytes, Encodable.encodek]
  grothKey value := by
    by_cases single : value = singleShape
    · simp only [single, if_true]
    · simp only [if_neg single, fromBytesBe_natBytes, Encodable.encodek]

theorem transparent_grothIdeal :
    GrothIdeal transparent fun vk inputs => Gadgets.Shape.Satisfiable transparent.hash vk inputs where
  setup _ _ _ := Iff.rfl
  sound vk inputs proof verified := by
    change (if inputs.length = vk.inputs then some (decide (vk.Satisfied Nat.pair inputs proof)) else none) = some true
      at verified
    split at verified
    · exact ⟨proof, of_decide_eq_true (Option.some.inj verified)⟩
    · cases verified
  complete vk inputs satisfiable := by
    obtain ⟨witnesses, satisfied⟩ := satisfiable
    exact ⟨witnesses, (if_pos satisfied.inputCount).trans (congrArg some (decide_eq_true satisfied))⟩

def transparentKey (byte : UInt8) : KeyInfor transparent := ⟨byteKey byte, (byteKey byte).val, rfl⟩

def transparentConfig : Config transparent := ⟨transparentKey 0, ["127.0.0.1:7002"]⟩

def transparentDevice : DeviceClientInfor transparent := generateDeviceClientInfor transparent "m" (seconds 7) (transparentKey 1)

/-- The circuit of the only attester, whose leaf is the bottom root. -/
def transparentCircuit : Attester.AttestationCircuit transparent where
  pk := scalarOfPoint transparent (transparentKey 1).verifyingKey
  sk := scalarOfKey transparent (transparentKey 1).signingKey
  ar := scalarOfText transparent "m"
  time := transparent.ofNat 10
  period := transparent.ofNat 20
  output := generateVerifierAuthoriedInfor transparent (scalarOfText transparent "m")
    (scalarOfPoint transparent (transparentKey 1).verifyingKey) (transparent.ofNat 10) (transparent.ofNat 20)
  root := [transparentDevice.merkleLeaf]
  path := none
  tag := none

theorem transparentCircuit_synthesizes : ∃ system, Attester.synthesize transparentCircuit = .ok system ∧
    system.shape = singleShape :=
  ⟨_, (Attester.synthesize_eq (List.cons_ne_nil _ _)).trans (if_pos rfl), rfl⟩

def transparentReply : EvidenceReply transparent where
  proof := transparentCircuit.secrets
  vk := singleShape
  sig := []
  pk := (transparentKey 1).verifyingKey
  timestamp := seconds 10
  period := seconds 20
  authorizedInfor := transparentCircuit.output
  timestampAttester := seconds 50
  periodAttester := evidenceReplyAttesterPeriod
  proofTimestampPeriodSignature := signProofTimestampPeriod transparent (transparentKey 1).signingKey
    transparentCircuit.secrets (seconds 50) evidenceReplyAttesterPeriod

def transparentEvidence : Bytes :=
  encodeEvidenceMessage transparent transparentReply
    (transparent.sign (transparentKey 1).signingKey transparentReply.toSigningBytesAllFields)

def transparentDraw : Draw transparent := ⟨byteKey 1, List.replicate 12 0, zeroNonce_length⟩

/-- A submission is queued and its batch published, and the attester's evidence comes after a restart. -/
def transparentEvents : List (Event transparent) :=
  [.submit (some (seconds 9)) (submission transparentDevice (transparentKey 1)) "127.0.0.1:9000",
    .verifier (.spawn 0), .verifier (.elapse 0), .verifier (.process 0),
    .verifier (.act 0 (fun _ => seconds 0) fun _ => transparentDraw),
    .verifier (.act 0 (fun _ => seconds 0) fun _ => transparentDraw),
    .serve none 0, .store 0, .restart, .connect transparentEvidence, .serve (some (seconds 60)) 0]

def Event.brings : Event transparent → Bool
  | .connect payload => (receivedContext transparent payload).isNone
  | _ => true

theorem Event.brings_permitted (net : Network transparent) {event : Event transparent} (brings : event.brings = true) :
    Permitted net event := by
  cases event with
  | connect payload => exact Or.inl (Option.isNone_iff_eq_none.mp brings)
  | _ => trivial

theorem acknowledged_registered_restarted :
    ∃ (net : Network transparent) (seen : Acknowledged transparent), seen ∈ net.acknowledged ∧
      seen.payload = transparentEvidence ∧ SetUp (S := transparent) seen.ctx.root.length singleShape ∧
      ∃ count reply sig, 0 < count ∧ count ≤ net.daemon.queued.length ∧
        seen.ctx = ⟨createBatchDevices transparent.hash [] (net.leaves.take count),
          transparentConfig.verifierKey.verifyingKey⟩ ∧
        decodeEvidenceMessage transparent seen.payload = .ok (reply, sig) ∧ Passes seen.now seen.ctx reply sig ∧
        (SetUp (S := transparent) seen.ctx.root.length reply.vk →
          ∃ sk ar, transparent.hash (transparent.hash (transparent.hash (scalarOfPoint transparent reply.pk) ar)
              (transparent.ofNat reply.timestamp.secs)) (transparent.ofNat reply.period.secs) = reply.authorizedInfor ∧
            ((∃ session ∈ net.daemon.queued, session.merkleLeaf =
                transparent.hash (transparent.hash ar sk) (scalarOfPoint transparent reply.pk) ∧ Submitted session) ∨
              Beside (S := transparent) (net.leaves.take count)
                (transparent.hash (transparent.hash ar sk) (scalarOfPoint transparent reply.pk)))) := by
  obtain ⟨net, reached, ended⟩ := @Runs.reaches_of_labels _ _ (step transparentConfig "127.0.0.1:7002") Permitted
    (Network.init transparent) transparentEvents (fun _ event => event.brings)
    (fun net => net.acknowledged.any fun seen => seen.payload == transparentEvidence && seen.ctx.root.length == 1)
    (fun net _ => Event.brings_permitted net) (by decide +kernel)
  obtain ⟨seen, member, same⟩ := List.any_eq_true.mp ended
  rw [Bool.and_eq_true, beq_iff_eq, beq_iff_eq] at same
  refine ⟨net, seen, member, same.1, ?_, acknowledged_registered transparent_roundTrips reference_hash_injective
    transparent_grothIdeal reached member⟩
  obtain ⟨system, synthesized, shape⟩ := transparentCircuit_synthesizes
  exact ⟨transparentCircuit, system, 0, synthesized, List.cons_ne_nil _ _, same.2.symm, shape.symm⟩

end Sample

end UnifiedAttestation.Protocol
