import UnifiedAttestation.Verifier.Batches
import UnifiedAttestation.Toolkit.RoundTrips
import UnifiedAttestation.Shrubs.Lookup

/-! What the tasks of the daemon compute, store and have left to send.

Responses to one batch are built from its snapshots alone, so what a task still has
to do is described by its batch and the sessions as they were queued.
-/

set_option autoImplicit false

namespace UnifiedAttestation.Verifier

open Wire (Bytes Outcome)
open Shrubs (createBatchDevices findDeviceShrubsPathTag)
open Toolkit

section Responses
variable {S : Suite}

/-- The response opens the session's leaf in the batch's tree and is signed for it. -/
structure Answers (config : Config S) (batch : Batch S) (session : AttesterSession S)
    (devRes : ResponseDeviceInfor S) (frame : Bytes) : Prop where
  opening : findDeviceShrubsPathTag S.hash batch.root batch.leaves session.merkleLeaf =
    some (devRes.shrubsPath, devRes.shrubsTag)
  verifyingKey : devRes.verifyingKey = session.devInfor.verifyingKey
  sig : devRes.sig = some (verifierComputeSig config.verifierKey devRes
    (generateDeviceAuthoriedInfor S session.devInfor devRes))
  encrypted : ∃ draw,
    encodeEncryptedVerifierResponse S draw devRes batch.publicContext session.devInfor.verifyingKey = .ok frame

/-- A stored response is for the session's own key. -/
def AttesterSession.Keyed (session : AttesterSession S) : Prop :=
  ∀ devRes ∈ session.response, devRes.verifyingKey = session.devInfor.verifyingKey

variable (trips : S.RoundTrips) (cipher : S.CipherComplete) {config : Config S} {batch : Batch S}
include trips cipher

theorem buildEncryptedAttesterResponse_answers (now : Duration) (draw : Draw S) (index : Nat)
    {item : AttesterSession S} (keyed : item.Keyed) (rooted : batch.root ≠ []) (member : item.merkleLeaf ∈ batch.leaves) :
    ∃ computed, buildEncryptedAttesterResponse config.verifierKey now draw index item batch.root batch.leaves
        batch.publicContext = .ok computed ∧
      computed.index = index ∧ computed.socket = item.socket ∧
      Answers config batch item computed.response computed.encrypted := by
  obtain ⟨⟨shrubsPath, shrubsTag⟩, found⟩ :
      ∃ opening, findDeviceShrubsPathTag S.hash batch.root batch.leaves item.merkleLeaf = some opening :=
    Shrubs.findDeviceShrubsPathTag_total rooted member
  let known := item.response.getD (ResponseDeviceInfor.new S now item.devInfor.verifyingKey)
  let opened : ResponseDeviceInfor S := { known with attesterAddr := item.attesterAddr, shrubsPath, shrubsTag }
  let sig := verifierComputeSig config.verifierKey opened (generateDeviceAuthoriedInfor S item.devInfor opened)
  let devRes : ResponseDeviceInfor S := { opened with sig := some sig }
  obtain ⟨frame, sent⟩ := encodeEncryptedVerifierResponse_succeeds trips cipher draw devRes batch.publicContext
    item.devInfor.verifyingKey
  refine ⟨⟨index, item.socket, item.attesterAddr, devRes, frame⟩, ?_, rfl, rfl, ?_⟩
  · simp only [buildEncryptedAttesterResponse, found, Wire.orPanic_some, Wire.ok_bind]
    rw [show encodeEncryptedVerifierResponse S draw _ batch.publicContext item.devInfor.verifyingKey = .ok frame
      from sent]
    rfl
  · refine ⟨found, ?_, rfl, draw, sent⟩
    change known.verifyingKey = item.devInfor.verifyingKey
    cases stored : item.response with
    | none => simp only [known, stored, Option.getD_none, ResponseDeviceInfor.new]
    | some devRes =>
      simp only [known, stored, Option.getD_some]
      exact keyed devRes stored

end Responses

section Storing
variable {S : Suite}

/-- A computed response is the answer to its snapshot. -/
structure Computed (config : Config S) (batch : Batch S) (snapshot : AttesterSnapshot S)
    (result : ComputedResponse S) : Prop where
  index : result.index = snapshot.1
  socket : result.socket = snapshot.2.socket
  answers : Answers config batch snapshot.2 result.response result.encrypted

theorem computeResponses_eq {config : Config S} {batch : Batch S}
    {build : AttesterSnapshot S → Outcome (ComputedResponse S)} {snapshots : List (AttesterSnapshot S)}
    (builds : ∀ snapshot ∈ snapshots, ∃ result, build snapshot = .ok result ∧ Computed config batch snapshot result) :
    ∃ computed, computeResponses build snapshots = some computed ∧
      List.Forall₂ (Computed config batch) snapshots computed := by
  induction snapshots with
  | nil => exact ⟨[], rfl, .nil⟩
  | cons snapshot rest ih =>
    obtain ⟨result, built, answered⟩ := builds snapshot List.mem_cons_self
    obtain ⟨computed, tail, answers⟩ := ih fun other member => builds other (List.mem_cons_of_mem _ member)
    refine ⟨result :: computed, ?_, .cons answered answers⟩
    simp only [computeResponses, built, tail, Option.map_some]

theorem storeResponses_other {computed : List (ComputedResponse S)} {i : Nat}
    (elsewhere : ∀ result ∈ computed, result.index ≠ i) (active : List (AttesterSession S)) :
    (storeResponses active computed)[i]? = active[i]? := by
  induction computed generalizing active with
  | nil => rfl
  | cons result rest ih =>
    have here := elsewhere result List.mem_cons_self
    have tail := ih fun other member => elsewhere other (List.mem_cons_of_mem _ member)
    rw [storeResponses, List.foldl_cons]
    exact (tail _).trans (List.getElem?_modify_ne _ _ here)

/-- Each session keeps the response computed for its position. -/
theorem storeResponses_at {computed : List (ComputedResponse S)} {result : ComputedResponse S}
    (distinct : (computed.map fun other => other.index).Nodup) (member : result ∈ computed)
    (active : List (AttesterSession S)) :
    (storeResponses active computed)[result.index]? =
      active[result.index]?.map fun session => { session with response := some result.response } := by
  induction computed generalizing active with
  | nil => cases member
  | cons first rest ih =>
    obtain ⟨apart, distinct'⟩ := List.nodup_cons.mp distinct
    rw [storeResponses, List.foldl_cons]
    rcases List.mem_cons.mp member with rfl | later
    · have others : ∀ other ∈ rest, other.index ≠ result.index := by
        intro other inside same
        exact apart (List.mem_map.mpr ⟨other, inside, same⟩)
      refine (storeResponses_other others _).trans ?_
      rw [List.getElem?_modify_eq]
      rfl
    · have different : first.index ≠ result.index := by
        intro same
        exact apart (List.mem_map.mpr ⟨result, later, same.symm⟩)
      refine (ih distinct' later _).trans ?_
      rw [List.getElem?_modify_ne _ _ different]

end Storing

section History
variable {S : Suite} {config : Config S} {daemon next : Daemon S}

/-- The batches of the daemon, oldest first. -/
def Daemon.batches (daemon : Daemon S) : List (Batch S) := daemon.tasks.map fun task => task.batch

/-- How many sessions the first `k` batches cover. -/
def covered (batches : List (Batch S)) : Nat → Nat
  | 0 => 0
  | k + 1 => (batches[k]?.map fun batch => batch.leaves.length).getD 0

/-- Every batch grows the sessions covered before it, and the last one covers all
that are active. -/
structure Recorded (config : Config S) (daemon : Daemon S) : Prop where
  formed : ∀ k batch, daemon.batches[k]? = some batch → ∃ sessions,
    Formed config.verifierKey.verifyingKey sessions (covered daemon.batches k) batch ∧
      sessions.map AttesterSession.fresh <+: daemon.queued
  newest : daemon.state.active.length = covered daemon.batches daemon.batches.length
  within : ∀ batch ∈ daemon.batches, batch.leaves.length ≤ daemon.state.active.length

theorem covered_append {batches more : List (Batch S)} {k : Nat} (inside : k ≤ batches.length) :
    covered (batches ++ more) k = covered batches k := by
  cases k with
  | zero => rfl
  | succ k => simp only [covered, List.getElem?_append_left (Nat.lt_of_succ_le inside)]

theorem covered_last (batches : List (Batch S)) (batch : Batch S) :
    covered (batches ++ [batch]) (batches ++ [batch]).length = batch.leaves.length := by
  rw [List.length_append, List.length_singleton, covered, List.getElem?_append_right (Nat.le_refl _)]
  simp

theorem concat_cases {α : Type} {items : List α} {k : Nat} {new other : α} (there : (items ++ [new])[k]? = some other) :
    (k < items.length ∧ items[k]? = some other) ∨ (k = items.length ∧ other = new) := by
  have inside := (List.getElem?_eq_some_iff.mp there).1
  rw [List.length_append, List.length_singleton] at inside
  rcases Nat.lt_or_eq_of_le (Nat.le_of_lt_succ inside) with old | rfl
  · rw [List.getElem?_append_left old] at there
    exact Or.inl ⟨old, there⟩
  · rw [List.getElem?_concat_length] at there
    exact Or.inr ⟨rfl, (Option.some.inj there).symm⟩

theorem map_set_same {α β : Type} {items : List α} {i : Nat} {old new : α} (f : α → β)
    (found : items[i]? = some old) (same : f new = f old) : (items.set i new).map f = items.map f := by
  apply List.ext_getElem?
  intro k
  rw [List.getElem?_map, List.getElem?_map, List.getElem?_set]
  by_cases here : i = k
  · subst here
    rw [if_pos rfl, if_pos (List.getElem?_eq_some_iff.mp found).1, found, Option.map_some, Option.map_some, same]
  · rw [if_neg here]

theorem act_tasks {now : Nat → Duration} {draw : Nat → Draw S} {index : Nat} {task : Task S} {action : Action S}
    {rest : List (Action S)} (moved : act config now draw daemon index task action rest = next) :
    ∃ todo, next.tasks = daemon.tasks.set index { task with todo } := by
  subst moved
  cases action with
  | respond snapshots =>
    simp only [act]
    split
    · exact ⟨_, rfl⟩
    · exact ⟨_, rfl⟩
  | send socket update => exact ⟨_, rfl⟩
  | publish addr => exact ⟨_, rfl⟩

theorem act_batches {now : Nat → Duration} {draw : Nat → Draw S} {index : Nat} {task : Task S} {action : Action S}
    {rest : List (Action S)} (found : daemon.tasks[index]? = some task)
    (moved : act config now draw daemon index task action rest = next) : next.batches = daemon.batches := by
  obtain ⟨todo, tasks⟩ := act_tasks moved
  rw [Daemon.batches, tasks]
  exact map_set_same _ found rfl

/-- A critical section finds nobody waiting, or starts the task of one more batch. -/
theorem process_cases (accounted : Accounted daemon) {timer : Nat}
    (stepped : step config daemon (.process timer) = some next) :
    next.outbox = daemon.outbox ∧ next.queued = daemon.queued ∧
      ((next.tasks = daemon.tasks ∧ next.state = { daemon.state with batchTimerRunning := false }) ∨
        ∃ batch, next.tasks = daemon.tasks ++ [⟨batch, batch.todo config⟩] ∧ daemon.state.pending ≠ [] ∧
          next.state.active = daemon.state.active ++ daemon.state.pending ∧ next.state.pending = [] ∧
          Formed config.verifierKey.verifyingKey (daemon.state.active ++ daemon.state.pending)
            daemon.state.active.length batch) := by
  obtain ⟨state, batch, -, processed, rfl⟩ := step_process stepped
  refine ⟨rfl, rfl, ?_⟩
  by_cases idle : daemon.state.pending = []
  · rw [processBatch_idle _ idle] at processed
    obtain ⟨rfl, rfl⟩ := Prod.mk.inj (Option.some.inj processed)
    exact Or.inl ⟨List.append_nil _, rfl⟩
  · obtain ⟨state', batch', processed', -, active, pending, -, -, whole⟩ :=
      processBatch_formed config.verifierKey.verifyingKey accounted.consistent idle
    rw [processed'] at processed
    obtain ⟨rfl, rfl⟩ := Prod.mk.inj (Option.some.inj processed)
    exact Or.inr ⟨batch', rfl, idle, active, pending, whole⟩

theorem Formed.leaves_length {verifierPk : S.VerifyingKey} {sessions : List (AttesterSession S)} {old : Nat}
    {batch : Batch S} (formed : Formed verifierPk sessions old batch) : batch.leaves.length = sessions.length := by
  rw [formed.leaves, List.length_map]

theorem Recorded.process (recorded : Recorded config daemon) (accounted : Accounted daemon) {timer : Nat}
    (stepped : step config daemon (.process timer) = some next) : Recorded config next := by
  obtain ⟨formed, newest, within⟩ := recorded
  obtain ⟨-, queued, ⟨tasks, state⟩ | ⟨batch, tasks, -, active, -, whole⟩⟩ := process_cases accounted stepped
  · have batches : next.batches = daemon.batches := by rw [Daemon.batches, tasks, Daemon.batches]
    refine ⟨?_, ?_, ?_⟩ <;> rw [batches]
    · rw [queued]
      exact formed
    · rw [state]
      exact newest
    · rw [state]
      exact within
  · have batches : next.batches = daemon.batches ++ [batch] := by
      rw [Daemon.batches, tasks, List.map_append]
      rfl
    have total := whole.leaves_length
    refine ⟨?_, ?_, ?_⟩ <;> rw [batches]
    · intro k later found
      rw [queued]
      rcases concat_cases found with ⟨old, before⟩ | ⟨rfl, rfl⟩
      · rw [covered_append old.le]
        exact formed k later before
      · rw [covered_append (Nat.le_refl _), ← newest]
        exact ⟨_, whole, accounted.sessions ▸ List.prefix_refl _⟩
    · rw [active]
      exact total.symm.trans (covered_last _ _).symm
    · intro other member
      rw [active]
      rcases List.mem_append.mp member with old | new
      · rw [List.length_append]
        exact Nat.le_add_right_of_le (within other old)
      · rw [List.mem_singleton.mp new, total]

theorem init_recorded : Recorded config (Daemon.init S) where
  formed _ _ absent := by cases absent
  newest := rfl
  within _ absent := by cases absent

theorem Recorded.step (recorded : Recorded config daemon) (accounted : Accounted daemon) {label : Label S}
    (stepped : step config daemon label = some next) : Recorded config next := by
  cases label with
  | queue devInfor attesterAddr =>
    obtain ⟨formed, newest, within⟩ := recorded
    have grown : ∀ k batch, daemon.batches[k]? = some batch → ∃ sessions,
        Formed config.verifierKey.verifyingKey sessions (covered daemon.batches k) batch ∧
          sessions.map AttesterSession.fresh <+:
            daemon.queued ++ [newSession daemon.queued.length devInfor attesterAddr] := by
      intro k batch found
      obtain ⟨sessions, whole, earlier⟩ := formed k batch found
      exact ⟨sessions, whole, earlier.trans (List.prefix_append _ _)⟩
    simp only [Verifier.step, queueAttester] at stepped
    split at stepped
    · obtain rfl := Option.some.inj stepped
      exact ⟨grown, newest, within⟩
    · obtain rfl := Option.some.inj stepped
      exact ⟨grown, newest, within⟩
  | spawn timer | elapse timer =>
    simp only [Verifier.step, Option.ite_none_right_eq_some] at stepped
    obtain rfl := Option.some.inj stepped.2
    exact ⟨recorded.formed, recorded.newest, recorded.within⟩
  | process timer => exact recorded.process accounted stepped
  | act index now draw =>
    obtain ⟨task, action, rest, found, -, moved⟩ := step_act stepped
    have batches := act_batches found moved
    obtain ⟨active, state, -, queued, blind⟩ := act_frame moved
    have length : active.length = daemon.state.active.length := by
      have units := congrArg List.length (blind (fun _ => ()) fun _ _ => rfl)
      simpa using units
    refine ⟨?_, ?_, ?_⟩ <;> rw [batches]
    · rw [queued]
      exact recorded.formed
    · rw [state]
      exact length.trans recorded.newest
    · rw [state]
      exact fun batch member => length.symm ▸ recorded.within batch member

/-- The leaves of a batch are those of the first sessions queued. -/
theorem Recorded.leaves (recorded : Recorded config daemon) {k : Nat} {batch : Batch S}
    (found : daemon.batches[k]? = some batch) :
    batch.leaves = (daemon.queued.map fun session => session.merkleLeaf).take batch.leaves.length := by
  obtain ⟨sessions, formed, earlier⟩ := recorded.formed k batch found
  have leaves : (sessions.map AttesterSession.fresh).map (fun session => session.merkleLeaf) = batch.leaves := by
    rw [formed.leaves, List.map_map]
    rfl
  obtain ⟨later, whole⟩ := earlier
  rw [← whole, List.map_append, leaves, List.take_left]

/-- The positions of the sessions that a batch answers with a full response. -/
def Batch.refreshed (batch : Batch S) : List Nat :=
  (batch.affectedOldSnapshots ++ batch.newSnapshots).map Prod.fst

theorem Formed.mem_refreshed {verifierPk : S.VerifyingKey} {sessions : List (AttesterSession S)} {old i : Nat}
    {batch : Batch S} (formed : Formed verifierPk sessions old batch) :
    i ∈ batch.refreshed ↔ i < batch.leaves.length ∧ (old ≤ i ∨ Moves old batch.leaves.length i) := by
  have grows := formed.grows
  rw [Batch.refreshed, List.map_append, formed.affected, formed.fresh, formed.leaves_length, List.mem_append,
    List.mem_filter, List.mem_range, List.mem_range'_1, decide_eq_true_eq]
  constructor
  · rintro (⟨below, moves⟩ | ⟨new, inside⟩)
    · exact ⟨by omega, Or.inr moves⟩
    · exact ⟨by omega, Or.inl new⟩
  · rintro ⟨inside, new | moves⟩
    · exact Or.inr ⟨new, by omega⟩
    · by_cases below : i < old
      · exact Or.inl ⟨below, moves⟩
      · exact Or.inr ⟨Nat.le_of_not_lt below, by omega⟩

/-- An unaffected session keeps its owner root and gets no response. -/
theorem Formed.unaffected_not_refreshed {verifierPk : S.VerifyingKey} {sessions : List (AttesterSession S)}
    {old : Nat} {batch : Batch S} (formed : Formed verifierPk sessions old batch) {snapshot : AttesterSnapshot S}
    (member : snapshot ∈ batch.unaffectedOldSnapshots) : snapshot.1 ∉ batch.refreshed := by
  have position := List.mem_map_of_mem (f := Prod.fst) member
  rw [formed.unaffected, List.mem_filter, List.mem_range, decide_eq_true_eq] at position
  rw [formed.mem_refreshed, formed.leaves_length]
  rintro ⟨-, new | moves⟩
  · omega
  · exact position.2 moves

end History

section Tasks
variable {S : Suite}

/-- What a batch owes a session: a response to the refreshed ones, the context to the others. -/
def Serves (config : Config S) (batch : Batch S) (session : AttesterSession S) : Update S → Prop
  | .response devRes publicContext frame =>
    session.socket ∈ batch.refreshed ∧ publicContext = batch.publicContext ∧ Answers config batch session devRes frame
  | .context publicContext frame =>
    session.socket ∉ batch.refreshed ∧ publicContext = batch.publicContext ∧
      frame = encodePublicContextMessage S publicContext

/-- The connections a task still serves. -/
def Task.targets (task : Task S) : List Nat := task.todo.flatMap Action.targets

/-- The snapshot is one of the sessions queued and waits for a response of the batch. -/
structure Asks (queued : List (AttesterSession S)) (batch : Batch S) (snapshot : AttesterSnapshot S) : Prop where
  refreshed : snapshot.1 ∈ batch.refreshed
  socket : snapshot.2.socket = snapshot.1
  keyed : snapshot.2.Keyed
  queued : queued[snapshot.1]? = some snapshot.2.fresh
  registered : snapshot.2.merkleLeaf ∈ batch.leaves

/-- A task has one store or send left for each connection it still serves. -/
structure Owes (config : Config S) (queued : List (AttesterSession S)) (task : Task S) : Prop where
  distinct : task.targets.Nodup
  rooted : task.batch.root ≠ []
  inside : ∀ i ∈ task.targets, i < task.batch.leaves.length
  responds : ∀ snapshots, .respond snapshots ∈ task.todo → ∀ snapshot ∈ snapshots, Asks queued task.batch snapshot
  sends : ∀ socket update, .send socket update ∈ task.todo →
    ∃ session, queued[socket]? = some session ∧ session.socket = socket ∧ Serves config task.batch session update

variable {config : Config S} {queued : List (AttesterSession S)} {task : Task S} {action : Action S}
  {rest : List (Action S)}

theorem Owes.grow (owes : Owes config queued task) (more : List (AttesterSession S)) :
    Owes config (queued ++ more) task := by
  have kept : ∀ {i : Nat} {session : AttesterSession S}, queued[i]? = some session →
      (queued ++ more)[i]? = some session := by
    intro i session found
    rw [List.getElem?_append_left (List.getElem?_eq_some_iff.mp found).1, found]
  refine ⟨owes.distinct, owes.rooted, owes.inside, ?_, ?_⟩
  · intro snapshots waiting snapshot member
    have asks := owes.responds snapshots waiting snapshot member
    exact ⟨asks.refreshed, asks.socket, asks.keyed, kept asks.queued, asks.registered⟩
  · intro socket update waiting
    obtain ⟨session, found, same, serves⟩ := owes.sends socket update waiting
    exact ⟨session, kept found, same, serves⟩

theorem Task.targets_cons (todo : task.todo = action :: rest) :
    task.targets = action.targets ++ rest.flatMap Action.targets := by
  rw [Task.targets, todo, List.flatMap_cons]

/-- A finished action leaves the others of the task. -/
theorem Owes.tail (owes : Owes config queued task) (todo : task.todo = action :: rest) :
    Owes config queued { task with todo := rest } := by
  have targets := Task.targets_cons todo
  have distinct := owes.distinct
  rw [targets] at distinct
  refine ⟨(List.nodup_append.mp distinct).2.1, owes.rooted, ?_, ?_, ?_⟩
  · intro i member
    exact owes.inside i (targets ▸ List.mem_append_right _ member)
  · intro snapshots waiting
    exact owes.responds snapshots (todo ▸ List.mem_cons_of_mem _ waiting)
  · intro socket update waiting
    exact owes.sends socket update (todo ▸ List.mem_cons_of_mem _ waiting)

theorem sendJobs_targets {batch : Batch S} {snapshots : List (AttesterSnapshot S)}
    {computed : List (ComputedResponse S)} (answers : List.Forall₂ (Computed config batch) snapshots computed) :
    (sendJobs batch.publicContext computed).flatMap Action.targets =
      snapshots.map fun snapshot => snapshot.2.socket := by
  induction answers with
  | nil => rfl
  | cons answered _ ih =>
    rw [sendJobs] at ih ⊢
    simp only [List.map_cons, List.flatMap_cons, ih, Action.targets, answered.socket]
    rfl

theorem mem_sendJobs {batch : Batch S} {snapshots : List (AttesterSnapshot S)}
    {computed : List (ComputedResponse S)} (answers : List.Forall₂ (Computed config batch) snapshots computed)
    {result : ComputedResponse S} (member : result ∈ computed) :
    ∃ snapshot ∈ snapshots, Computed config batch snapshot result := by
  induction answers with
  | nil => cases member
  | cons answered _ ih =>
    rcases List.mem_cons.mp member with rfl | later
    · exact ⟨_, List.mem_cons_self, answered⟩
    · obtain ⟨snapshot, inside, computed⟩ := ih later
      exact ⟨snapshot, List.mem_cons_of_mem _ inside, computed⟩

/-- Stored responses are left to send, to the sessions that asked. -/
theorem Owes.respond {snapshots : List (AttesterSnapshot S)} {computed : List (ComputedResponse S)}
    (owes : Owes config queued task) (todo : task.todo = .respond snapshots :: rest)
    (answers : List.Forall₂ (Computed config task.batch) snapshots computed) :
    Owes config queued { task with todo := sendJobs task.batch.publicContext computed ++ rest } := by
  have tail := owes.tail todo
  have same : (sendJobs task.batch.publicContext computed ++ rest).flatMap Action.targets = task.targets := by
    rw [Task.targets_cons todo, List.flatMap_append, sendJobs_targets answers]
    rfl
  refine ⟨?distinct, owes.rooted, ?inside, ?responds, ?sends⟩
  case distinct =>
    rw [Task.targets, same]
    exact owes.distinct
  case inside =>
    rw [Task.targets, same]
    exact owes.inside
  case responds =>
    intro others waiting
    rcases List.mem_append.mp waiting with sending | later
    · obtain ⟨result, -, different⟩ := List.mem_map.mp sending
      cases different
    · exact tail.responds others later
  case sends =>
    intro socket update waiting
    rcases List.mem_append.mp waiting with sending | later
    · obtain ⟨result, member, sent⟩ := List.mem_map.mp sending
      obtain ⟨snapshot, inside, answered⟩ := mem_sendJobs answers member
      cases sent
      have asks := owes.responds snapshots (todo ▸ List.mem_cons_self) snapshot inside
      refine ⟨snapshot.2.fresh, ?_, answered.socket.symm, ?_, rfl, ?_⟩
      · rw [answered.socket, asks.socket]
        exact asks.queued
      · change snapshot.2.socket ∈ task.batch.refreshed
        rw [asks.socket]
        exact asks.refreshed
      · obtain ⟨opening, verifyingKey, sig, encrypted⟩ := answered.answers
        exact ⟨opening, verifyingKey, sig, encrypted⟩
    · exact tail.sends socket update later

theorem Formed.targets_perm {verifierPk : S.VerifyingKey} {sessions : List (AttesterSession S)} {old : Nat}
    {batch : Batch S} (formed : Formed verifierPk sessions old batch) (config : Config S)
    (numbered : ∀ (i : Nat) (session : AttesterSession S), sessions[i]? = some session → session.socket = i) :
    (⟨batch, batch.todo config⟩ : Task S).targets.Perm (List.range sessions.length) := by
  have sockets : batch.snapshots.map (fun snapshot => snapshot.2.socket) = batch.snapshots.map Prod.fst := by
    apply List.map_congr_left
    intro snapshot member
    exact numbered _ _ (formed.items snapshot member)
  rw [Task.targets, Batch.todo_targets, sockets]
  exact formed.partition

/-- The task of a new batch owes one update to every session. -/
theorem Formed.owes {sessions : List (AttesterSession S)} {old : Nat} {batch : Batch S}
    (formed : Formed config.verifierKey.verifyingKey sessions old batch)
    (whole : sessions.map AttesterSession.fresh = queued)
    (numbered : ∀ (i : Nat) (session : AttesterSession S), sessions[i]? = some session → session.socket = i)
    (keyed : ∀ session ∈ sessions, session.Keyed) : Owes config queued ⟨batch, batch.todo config⟩ := by
  have targets := formed.targets_perm config numbered
  have freshened : ∀ snapshot ∈ batch.snapshots, queued[snapshot.1]? = some snapshot.2.fresh := by
    intro snapshot member
    rw [← whole, List.getElem?_map, formed.items snapshot member, Option.map_some]
  -- Both kinds of snapshot the batch answers were taken from sessions behind its leaves.
  have asks : ∀ snapshot ∈ batch.affectedOldSnapshots ++ batch.newSnapshots, Asks queued batch snapshot := by
    intro snapshot refreshed
    have member : snapshot ∈ batch.snapshots := by
      simp only [Batch.snapshots, List.mem_append] at refreshed ⊢
      tauto
    have found := formed.items snapshot member
    refine ⟨List.mem_map_of_mem refreshed, numbered _ _ found, keyed _ (List.mem_of_getElem? found),
      freshened snapshot member, ?_⟩
    rw [formed.leaves]
    exact List.mem_map_of_mem (List.mem_of_getElem? found)
  refine ⟨targets.nodup_iff.mpr List.nodup_range, ?rooted, ?inside, ?responds, ?sends⟩
  case rooted =>
    change batch.root ≠ []
    rw [formed.root]
    have occupied : batch.leaves ≠ [] := by
      rw [← List.length_pos_iff, formed.leaves_length]
      exact Nat.zero_lt_of_lt formed.grows
    exact mt ((Shrubs.createBatchDevices_commits S.hash _).eq_nil_iff S.hash).mp occupied
  case inside =>
    intro i member
    rw [formed.leaves_length]
    exact List.mem_range.mp (targets.mem_iff.mp member)
  case responds =>
    intro snapshots waiting snapshot member
    apply asks
    simp only [Batch.todo, List.mem_append, List.mem_singleton, List.mem_map, Action.respond.injEq] at waiting
    rcases waiting with ((rfl | ⟨_, _, different⟩) | ⟨_, _, different⟩) | rfl
    · exact List.mem_append_left _ member
    · cases different
    · cases different
    · exact List.mem_append_right _ member
  case sends =>
    intro socket update waiting
    simp only [Batch.todo, List.mem_append, List.mem_singleton, List.mem_map] at waiting
    rcases waiting with ((different | ⟨snapshot, unaffected, sent⟩) | ⟨_, _, different⟩) | different
    · cases different
    · cases sent
      have member : snapshot ∈ batch.snapshots :=
        List.mem_append_left _ (List.mem_append_right _ unaffected)
      have socket := numbered _ _ (formed.items snapshot member)
      refine ⟨snapshot.2.fresh, ?_, rfl, ?_, rfl, rfl⟩
      · rw [socket]
        exact freshened snapshot member
      · change snapshot.2.socket ∉ batch.refreshed
        rw [socket]
        exact formed.unaffected_not_refreshed unaffected
    · cases different
    · cases different

end Tasks

section Running
variable {S : Suite} {config : Config S} {daemon next : Daemon S}

/-- What holds of the tasks of any run: what each still owes, and that only active
sessions are served. -/
structure Tended (config : Config S) (daemon : Daemon S) : Prop where
  accounted : Accounted daemon
  recorded : Recorded config daemon
  keyed : ∀ session ∈ daemon.state.active, session.Keyed
  waiting : ∀ session ∈ daemon.state.pending, session.response = none
  owes : ∀ task ∈ daemon.tasks, Owes config daemon.queued task
  outbox : ∀ entry ∈ daemon.outbox, entry.1 < daemon.state.active.length

theorem init_tended : Tended config (Daemon.init S) where
  accounted := init_accounted
  recorded := init_recorded
  keyed _ absent := by cases absent
  waiting _ absent := by cases absent
  owes _ absent := by cases absent
  outbox _ absent := by cases absent

theorem Tended.within (tended : Tended config daemon) {task : Task S} (member : task ∈ daemon.tasks) :
    task.batch.leaves.length ≤ daemon.state.active.length :=
  tended.recorded.within task.batch (List.mem_map_of_mem member)

/-- The session at a position is the one queued there. -/
theorem Tended.session (tended : Tended config daemon) {i : Nat} {session : AttesterSession S}
    (found : daemon.state.active[i]? = some session) : daemon.queued[i]? = some session.fresh := by
  rw [← tended.accounted.sessions, List.getElem?_map,
    List.getElem?_append_left (List.getElem?_eq_some_iff.mp found).1, found, Option.map_some]

variable (trips : S.RoundTrips) (cipher : S.CipherComplete)
include trips cipher

/-- Responses of a task are computed, stored and turned into sends without a failure. -/
theorem act_respond {task : Task S} {queued : List (AttesterSession S)} (owes : Owes config queued task)
    {snapshots : List (AttesterSnapshot S)} {rest : List (Action S)} (todo : task.todo = .respond snapshots :: rest)
    (now : Nat → Duration) (draw : Nat → Draw S) (daemon : Daemon S) (index : Nat) :
    ∃ computed, List.Forall₂ (Computed config task.batch) snapshots computed ∧
      act config now draw daemon index task (.respond snapshots) rest =
        { daemon with
          state := { daemon.state with active := storeResponses daemon.state.active computed }
          tasks := daemon.tasks.set index { task with todo := sendJobs task.batch.publicContext computed ++ rest } } := by
  have builds : ∀ snapshot ∈ snapshots, ∃ result,
      buildEncryptedAttesterResponse config.verifierKey (now snapshot.1) (draw snapshot.1) snapshot.1 snapshot.2
        task.batch.root task.batch.leaves task.batch.publicContext = .ok result ∧
        Computed config task.batch snapshot result := by
    intro snapshot member
    have asks := owes.responds snapshots (todo ▸ List.mem_cons_self) snapshot member
    obtain ⟨result, built, index, socket, answers⟩ := buildEncryptedAttesterResponse_answers trips
      cipher (now snapshot.1) (draw snapshot.1) snapshot.1 asks.keyed owes.rooted asks.registered
    exact ⟨result, built, index, socket, answers⟩
  obtain ⟨computed, all, answers⟩ := computeResponses_eq builds
  refine ⟨computed, answers, ?_⟩
  simp only [act, all]

omit trips cipher in
theorem Owes.indices {task : Task S} {queued : List (AttesterSession S)} (owes : Owes config queued task)
    {snapshots : List (AttesterSnapshot S)} {rest : List (Action S)} (todo : task.todo = .respond snapshots :: rest)
    {computed : List (ComputedResponse S)} (answers : List.Forall₂ (Computed config task.batch) snapshots computed) :
    computed.map (fun result => result.index) = snapshots.map (fun snapshot => snapshot.2.socket) ∧
      (computed.map fun result => result.index).Nodup := by
  have asks := owes.responds snapshots (todo ▸ List.mem_cons_self)
  have same : computed.map (fun result => result.index) = snapshots.map (fun snapshot => snapshot.2.socket) := by
    clear todo
    induction answers with
    | nil => rfl
    | cons answered _ ih =>
      have head := asks _ List.mem_cons_self
      have tail := ih fun snapshot member => asks snapshot (List.mem_cons_of_mem _ member)
      rw [List.map_cons, List.map_cons, answered.index, head.socket, tail]
  have distinct := owes.distinct
  rw [Task.targets_cons todo] at distinct
  exact ⟨same, same ▸ (List.nodup_append.mp distinct).1⟩

omit trips cipher in
/-- A stored session either has the response computed for it or is the one before. -/
theorem storeResponses_session {active : List (AttesterSession S)} {computed : List (ComputedResponse S)}
    (distinct : (computed.map fun result => result.index).Nodup) {i : Nat} {stored : AttesterSession S}
    (found : (storeResponses active computed)[i]? = some stored) :
    ∃ session, active[i]? = some session ∧
      ((∃ result ∈ computed, result.index = i ∧ stored = { session with response := some result.response }) ∨
        ((∀ result ∈ computed, result.index ≠ i) ∧ stored = session)) := by
  by_cases here : ∃ result ∈ computed, result.index = i
  · obtain ⟨result, member, rfl⟩ := here
    rw [storeResponses_at distinct member, Option.map_eq_some_iff] at found
    obtain ⟨session, before, rfl⟩ := found
    exact ⟨session, before, Or.inl ⟨result, member, rfl, rfl⟩⟩
  · have elsewhere : ∀ result ∈ computed, result.index ≠ i := fun result member same => here ⟨result, member, same⟩
    rw [storeResponses_other elsewhere] at found
    exact ⟨stored, found, Or.inr ⟨elsewhere, rfl⟩⟩

theorem Tended.act (tended : Tended config daemon) {index : Nat} {now : Nat → Duration} {draw : Nat → Draw S}
    (stepped : step config daemon (.act index now draw) = some next) : Tended config next := by
  have accounted := tended.accounted.step stepped
  have recorded := tended.recorded.step tended.accounted stepped
  obtain ⟨task, action, rest, found, todo, moved⟩ := step_act stepped
  have member := List.mem_of_getElem? found
  have owes := tended.owes task member
  have others : ∀ {task' : Task S}, Owes config daemon.queued task' →
      ∀ other ∈ daemon.tasks.set index task', Owes config daemon.queued other := by
    intro task' owes' other inside
    rcases List.mem_or_eq_of_mem_set inside with old | rfl
    · exact tended.owes other old
    · exact owes'
  cases action with
  | respond snapshots =>
    obtain ⟨computed, answers, outcome⟩ := act_respond trips cipher owes todo now draw daemon index
    obtain ⟨-, distinct⟩ := owes.indices todo answers
    rw [outcome] at moved
    subst moved
    have units := congrArg List.length
      (storeResponses_map (fun _ => ()) (fun _ _ => rfl) daemon.state.active computed)
    simp only [List.length_map] at units
    refine ⟨accounted, recorded, ?_, tended.waiting, others (owes.respond todo answers), ?_⟩
    · intro stored inside
      obtain ⟨i, found⟩ := List.mem_iff_getElem?.mp inside
      obtain ⟨session, before, ⟨result, computedFor, rfl, rfl⟩ | ⟨-, rfl⟩⟩ :=
        storeResponses_session distinct found
      · -- The snapshot that was answered is one of this session, as it was queued.
        obtain ⟨snapshot, asked, answered⟩ := mem_sendJobs answers computedFor
        have asks := owes.responds snapshots (todo ▸ List.mem_cons_self) snapshot asked
        have same : session.fresh = snapshot.2.fresh := by
          have queued := tended.session before
          rw [answered.index, asks.queued] at queued
          exact (Option.some.inj queued).symm
        have device : session.fresh.devInfor = snapshot.2.fresh.devInfor := by rw [same]
        rintro devRes ⟨⟩
        exact answered.answers.verifyingKey.trans (congrArg DeviceClientInfor.verifyingKey device.symm)
      · exact tended.keyed stored (List.mem_of_getElem? before)
    · intro entry sent
      rw [show (storeResponses daemon.state.active computed).length = daemon.state.active.length from units]
      exact tended.outbox entry sent
  | send socket update =>
    subst moved
    refine ⟨accounted, recorded, tended.keyed, tended.waiting, others (owes.tail todo), ?_⟩
    intro entry sent
    rcases List.mem_append.mp sent with old | new
    · exact tended.outbox entry old
    · rw [List.mem_singleton.mp new]
      have served : socket ∈ task.targets := by
        rw [Task.targets_cons todo]
        exact List.mem_append_left _ (List.mem_singleton_self socket)
      exact Nat.lt_of_lt_of_le (owes.inside socket served) (tended.within member)
  | publish addr =>
    subst moved
    exact ⟨accounted, recorded, tended.keyed, tended.waiting, others (owes.tail todo), tended.outbox⟩

theorem Tended.step (tended : Tended config daemon) {label : Label S}
    (stepped : step config daemon label = some next) : Tended config next := by
  have accounted := tended.accounted.step stepped
  have recorded := tended.recorded.step tended.accounted stepped
  cases label with
  | queue devInfor attesterAddr =>
    have waiting : ∀ session ∈ daemon.state.pending ++ [newSession daemon.queued.length devInfor attesterAddr],
        session.response = none := by
      intro session member
      rcases List.mem_append.mp member with old | new
      · exact tended.waiting session old
      · rw [List.mem_singleton.mp new]
        rfl
    have owes : ∀ task ∈ daemon.tasks,
        Owes config (daemon.queued ++ [newSession daemon.queued.length devInfor attesterAddr]) task :=
      fun task member => (tended.owes task member).grow _
    simp only [Verifier.step, queueAttester] at stepped
    split at stepped
    · obtain rfl := Option.some.inj stepped
      exact ⟨accounted, recorded, tended.keyed, waiting, owes, tended.outbox⟩
    · obtain rfl := Option.some.inj stepped
      exact ⟨accounted, recorded, tended.keyed, waiting, owes, tended.outbox⟩
  | spawn timer | elapse timer =>
    simp only [Verifier.step, Option.ite_none_right_eq_some] at stepped
    obtain rfl := Option.some.inj stepped.2
    exact ⟨accounted, recorded, tended.keyed, tended.waiting, tended.owes, tended.outbox⟩
  | process timer =>
    obtain ⟨outbox, queued, ⟨tasks, state⟩ | ⟨batch, tasks, -, active, pending, formed⟩⟩ :=
      process_cases tended.accounted stepped
    · refine ⟨accounted, recorded, ?_, ?_, ?_, ?_⟩
      · rw [state]
        exact tended.keyed
      · rw [state]
        exact tended.waiting
      · rw [tasks, queued]
        exact tended.owes
      · rw [outbox, state]
        exact tended.outbox
    · -- A session that waited has no response yet, so it has no key to be wrong about.
      have keyed : ∀ session ∈ daemon.state.active ++ daemon.state.pending, session.Keyed := by
        intro session member
        rcases List.mem_append.mp member with old | new
        · exact tended.keyed session old
        · intro devRes stored
          rw [tended.waiting session new] at stored
          cases stored
      refine ⟨accounted, recorded, active ▸ keyed, ?_, ?_, ?_⟩
      · rw [pending]
        exact fun _ absent => by cases absent
      · rw [tasks, queued]
        intro task member
        rcases List.mem_append.mp member with old | new
        · exact tended.owes task old
        · rw [List.mem_singleton.mp new]
          exact formed.owes tended.accounted.sessions (fun _ _ found => tended.accounted.socket found) keyed
      · rw [outbox, active, List.length_append]
        exact fun entry sent => Nat.lt_add_right _ (tended.outbox entry sent)
  | act index now draw => exact tended.act trips cipher stepped

theorem Reached.tended {permits : Daemon S → Label S → Prop}
    (reached : Runs.Reaches (Verifier.step config) permits (Daemon.init S) daemon) : Tended config daemon :=
  reached.invariant init_tended fun _ _ _ tended _ stepped => tended.step trips cipher stepped

end Running

end UnifiedAttestation.Verifier
