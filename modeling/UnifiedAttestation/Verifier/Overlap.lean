import UnifiedAttestation.Verifier.Delivery
import UnifiedAttestation.Shrubs.Membership

/-! Overlapping batches, and what every attester can prove meanwhile.

A response opens the first occurrence of a leaf, and is sent again when the owner
root of the session's own position changes. Both agree for leaves that occur once.
-/

set_option autoImplicit false

namespace UnifiedAttestation.Verifier

open Forest (Inner)
open Shrubs (createBatchDevices findOwnerRoot findDeviceShrubsPathTag MembershipCheck Current Settles)
open Toolkit

section Conditions
variable {α : Type} [DecidableEq α]

/-- A batch that grows `old` leaves to `leaves` answers its sessions well: the lookups
it makes settle, and the leaf of a session it does not answer keeps the owner root of
its first occurrence. -/
structure Faithful (hash : α → α → α) (old : Nat) (leaves : List α) : Prop where
  settles : ∀ i leaf p, leaves[i]? = some leaf → leaves.findIdx? (fun x => x = leaf) = some p →
    old ≤ i ∨ Moves old leaves.length i → ∃ l, Settles hash leaves (createBatchDevices hash [] leaves) p l
  kept : ∀ i leaf p, leaves[i]? = some leaf → leaves.findIdx? (fun x => x = leaf) = some p →
    i < old → ¬ Moves old leaves.length i → ¬ Moves old leaves.length p

theorem faithful_of_distinct {hash : α → α → α} {leaves : List α} (injective : Function.Injective2 hash)
    (distinct : leaves.Nodup) (apart : ∀ leaf ∈ leaves, ¬ Inner hash leaves leaf) (old : Nat) :
    Faithful hash old leaves where
  settles i leaf p at_i first _ := by
    obtain rfl := Option.some.inj ((Shrubs.first_occurrence distinct at_i).symm.trans first)
    have inside := (List.getElem?_eq_some_iff.mp at_i).1
    obtain ⟨l, owner⟩ := Forest.Owner.exists inside
    exact ⟨l, Shrubs.settles_of_distinct injective (Shrubs.createBatchDevices_commits hash leaves) distinct apart owner
      inside⟩
  kept i leaf p at_i first _ stays := by
    obtain rfl := Option.some.inj ((Shrubs.first_occurrence distinct at_i).symm.trans first)
    exact stays

end Conditions

section History
variable {S : Suite} {config : Config S} {daemon next : Daemon S} {i first : Nat}

/-- The next critical section forms a batch that answers its sessions well. -/
def FaithfulBatch (daemon : Daemon S) : Label S → Prop
  | .process _ =>
    Faithful S.hash daemon.state.active.length
      (daemon.state.oldLeaves ++ daemon.state.pending.map fun session => session.merkleLeaf)
  | _ => True

/-- All batches so far answer their sessions well. -/
def AllFaithful (daemon : Daemon S) : Prop :=
  ∀ k batch, daemon.batches[k]? = some batch → Faithful S.hash (covered daemon.batches k) batch.leaves

theorem AllFaithful.step (faithful : AllFaithful daemon) (accounted : Accounted daemon)
    (recorded : Recorded config daemon) {label : Label S} (permitted : FaithfulBatch daemon label)
    (stepped : step config daemon label = some next) : AllFaithful next := by
  cases label with
  | queue devInfor attesterAddr =>
    simp only [Verifier.step, queueAttester] at stepped
    split at stepped <;> exact Option.some.inj stepped ▸ faithful
  | spawn timer | elapse timer =>
    simp only [Verifier.step, Option.ite_none_right_eq_some] at stepped
    exact Option.some.inj stepped.2 ▸ faithful
  | process timer =>
    obtain ⟨-, -, ⟨tasks, -⟩ | ⟨batch, tasks, -, -, -, formed⟩⟩ := process_cases accounted stepped
    · have batches : next.batches = daemon.batches := by rw [Daemon.batches, tasks, Daemon.batches]
      rw [AllFaithful, batches]
      exact faithful
    · have batches : next.batches = daemon.batches ++ [batch] := by
        rw [Daemon.batches, tasks, List.map_append]
        rfl
      intro k later found
      rw [batches] at found ⊢
      rcases concat_cases found with ⟨old, before⟩ | ⟨rfl, rfl⟩
      · rw [covered_append old.le]
        exact faithful k later before
      · rw [covered_append (Nat.le_refl _), ← recorded.newest, formed.leaves, List.map_append,
          accounted.consistent.aligned]
        exact permitted
  | act index now draw =>
    obtain ⟨task, action, rest, found, -, moved⟩ := step_act stepped
    rw [AllFaithful, act_batches found moved]
    exact faithful

theorem Recorded.leaf (recorded : Recorded config daemon) {k : Nat} {batch : Batch S} {session : AttesterSession S}
    (found : daemon.batches[k]? = some batch) (registered : daemon.queued[i]? = some session)
    (inside : i < batch.leaves.length) : batch.leaves[i]? = some session.merkleLeaf := by
  rw [recorded.leaves found, List.getElem?_take_of_lt inside, List.getElem?_map, registered, Option.map_some]

theorem Recorded.grows (recorded : Recorded config daemon) {k : Nat} {batch later : Batch S}
    (found : daemon.batches[k]? = some batch) (found' : daemon.batches[k + 1]? = some later) :
    batch.leaves <+: later.leaves := by
  obtain ⟨sessions, formed, -⟩ := recorded.formed _ _ found'
  have longer := formed.grows
  simp only [covered, found, Option.map_some, Option.getD_some, ← formed.leaves_length] at longer
  rw [recorded.leaves found, recorded.leaves found']
  exact List.take_prefix_take_left longer.le

theorem Delivered.first_refreshed (delivered : Delivered config daemon i first) (recorded : Recorded config daemon)
    {task : Task S} (found : daemon.tasks[first]? = some task) : i ∈ task.batch.refreshed := by
  have batch : daemon.batches[first]? = some task.batch := by
    rw [Daemon.batches, List.getElem?_map, found, Option.map_some]
  obtain ⟨sessions, formed, -⟩ := recorded.formed first task.batch batch
  rw [formed.mem_refreshed]
  refine ⟨(delivered.covers first task found).mpr (Nat.le_refl _), Or.inl ?_⟩
  cases before : first with
  | zero => exact Nat.zero_le _
  | succ k =>
    have inside := delivered.started
    have earlier : daemon.tasks[k]? = some daemon.tasks[k] := List.getElem?_eq_getElem (by omega)
    have outside := mt (delivered.covers k _ earlier).mp (by omega)
    simp only [covered, Daemon.batches, List.getElem?_map, earlier, Option.map_some, Option.getD_some]
    omega

theorem batch_of_task {k : Nat} {task : Task S} (found : daemon.tasks[k]? = some task) :
    daemon.batches[k]? = some task.batch := by
  rw [Daemon.batches, List.getElem?_map, found, Option.map_some]

theorem Answers.current {k : Nat} {batch : Batch S} {session : AttesterSession S} {devRes : ResponseDeviceInfor S}
    {frame : Wire.Bytes} (answers : Answers config batch session devRes frame) (recorded : Recorded config daemon)
    (faithful : AllFaithful daemon) (found : daemon.batches[k]? = some batch)
    (registered : daemon.queued[i]? = some session) (refreshed : i ∈ batch.refreshed) :
    Current S.hash batch.leaves session.merkleLeaf (devRes.shrubsPath, devRes.shrubsTag) := by
  obtain ⟨sessions, formed, -⟩ := recorded.formed k batch found
  obtain ⟨inside, moved⟩ := formed.mem_refreshed.mp refreshed
  have here := recorded.leaf found registered inside
  obtain ⟨p, occurs⟩ : ∃ p, batch.leaves.findIdx? (fun x => x = session.merkleLeaf) = some p := by
    rw [← Option.isSome_iff_exists, List.findIdx?_isSome]
    simpa using List.mem_of_getElem? here
  obtain ⟨l, settles⟩ := (faithful k batch found).settles i _ p here occurs moved
  obtain ⟨opening, lookup, current⟩ :=
    Shrubs.find_current (Shrubs.createBatchDevices_commits S.hash batch.leaves) occurs settles
  rw [← formed.root, answers.opening] at lookup
  obtain rfl := Option.some.inj lookup
  exact current

theorem Delivered.current (delivered : Delivered config daemon i first) (recorded : Recorded config daemon)
    (faithful : AllFaithful daemon) {n : Nat} (written : n < (daemon.sent i).length) :
    ∃ task session devRes, daemon.tasks[first + n]? = some task ∧ daemon.queued[i]? = some session ∧
      lastResponse ((daemon.sent i).take (n + 1)) = some devRes ∧
      Current S.hash task.batch.leaves session.merkleLeaf (devRes.shrubsPath, devRes.shrubsTag) := by
  induction n with
  | zero =>
    have here := List.getElem?_eq_getElem written
    obtain ⟨task, session, found, registered, socket, serves⟩ := delivered.serves 0 _ here
    have refreshed := delivered.first_refreshed recorded found
    rw [List.take_add_one, here, List.take_zero, List.nil_append]
    cases update : (daemon.sent i)[0] with
    | response devRes publicContext frame =>
      rw [update] at serves
      exact ⟨task, session, devRes, found, registered, rfl,
        serves.2.2.current recorded faithful (batch_of_task found) registered refreshed⟩
    | context publicContext frame =>
      rw [update] at serves
      exact absurd (socket.symm ▸ refreshed) serves.1
  | succ n ih =>
    obtain ⟨before, session, devRes, found, registered, last, current⟩ := ih (by omega)
    have here := List.getElem?_eq_getElem written
    obtain ⟨task, session', found', registered', socket, serves⟩ := delivered.serves (n + 1) _ here
    obtain rfl := Option.some.inj (registered.symm.trans registered')
    rw [List.take_add_one, here]
    cases update : (daemon.sent i)[n + 1] with
    | response devRes publicContext frame =>
      rw [update] at serves
      refine ⟨task, session, devRes, found', registered, lastResponse_concat _ _ _ _, ?_⟩
      exact serves.2.2.current recorded faithful (batch_of_task found') registered (socket ▸ serves.1)
    | context publicContext frame =>
      -- the session is not answered again because its position keeps its owner root
      rw [update] at serves
      have stays := serves.1
      rw [socket] at stays
      have batch := batch_of_task found
      have batch' := batch_of_task found'
      obtain ⟨sessions, formed, -⟩ := recorded.formed _ _ batch'
      have inside := (delivered.covers _ _ found').mpr (by omega)
      have old : covered daemon.batches (first + (n + 1)) = before.batch.leaves.length := by
        rw [← Nat.add_assoc, covered, batch, Option.map_some, Option.getD_some]
      rw [formed.mem_refreshed, old] at stays
      have unmoved : ¬ Moves before.batch.leaves.length task.batch.leaves.length i := fun moves =>
        stays ⟨inside, Or.inr moves⟩
      have known : i < before.batch.leaves.length := (delivered.covers _ _ found).mpr (by omega)
      refine ⟨task, session, devRes, found', registered, ?_, ?_⟩
      · rw [lastResponse_silent (by simp [Update.devRes])]
        exact last
      · refine current.grow (recorded.grows batch batch') fun p occurs => ?_
        have kept := (faithful _ _ batch').kept i _ p (recorded.leaf batch' registered inside) occurs
        rw [old] at kept
        exact not_not.mp (kept known unmoved)

theorem Delivered.checks_at (delivered : Delivered config daemon i first) (recorded : Recorded config daemon)
    (faithful : AllFaithful daemon) {n : Nat} {update : Update S} (written : (daemon.sent i)[n]? = some update) :
    ∃ task session devRes, daemon.tasks[first + n]? = some task ∧ daemon.queued[i]? = some session ∧
      lastResponse ((daemon.sent i).take (n + 1)) = some devRes ∧ update.publicContext = task.batch.publicContext ∧
      MembershipCheck S.hash task.batch.root session.merkleLeaf (devRes.shrubsPath, devRes.shrubsTag) := by
  have below := (List.getElem?_eq_some_iff.mp written).1
  obtain ⟨task, session, devRes, found, registered, last, current⟩ := delivered.current recorded faithful below
  obtain ⟨task', session', found', registered', -, serves⟩ := delivered.serves n update written
  obtain rfl := Option.some.inj (found.symm.trans found')
  obtain ⟨sessions, formed, -⟩ := recorded.formed _ _ (batch_of_task found)
  exact ⟨task, session, devRes, found, registered, last, serves.publicContext,
    formed.root ▸ current.check (Shrubs.createBatchDevices_commits S.hash task.batch.leaves)⟩

theorem Delivered.checks (delivered : Delivered config daemon i first) (recorded : Recorded config daemon)
    (faithful : AllFaithful daemon) (written : daemon.sent i ≠ []) :
    ∃ task session devRes update, daemon.tasks[first + (daemon.sent i).length - 1]? = some task ∧
      daemon.queued[i]? = some session ∧ lastResponse (daemon.sent i) = some devRes ∧
      (daemon.sent i).getLast? = some update ∧ update.publicContext = task.batch.publicContext ∧
      MembershipCheck S.hash task.batch.root session.merkleLeaf (devRes.shrubsPath, devRes.shrubsTag) := by
  have positive := List.length_pos_of_ne_nil written
  have index : first + (daemon.sent i).length - 1 = first + ((daemon.sent i).length - 1) := by omega
  have here := List.getLast?_eq_some_getLast written
  obtain ⟨task, session, devRes, found, registered, last, context, checks⟩ :=
    delivered.checks_at recorded faithful (List.getLast?_eq_getElem?.symm.trans here)
  rw [Nat.sub_add_cancel positive, List.take_length] at last
  exact ⟨task, session, devRes, _, index ▸ found, registered, last, here, context, checks⟩

theorem Delivered.finished (delivered : Delivered config daemon i first)
    (finished : ∀ task ∈ daemon.tasks, task.todo = []) : first + (daemon.sent i).length = daemon.tasks.length := by
  by_contra unfinished
  have bounded := delivered.bounded
  have due : first + (daemon.sent i).length < daemon.tasks.length := by omega
  have served := (delivered.pending _ _ (List.getElem?_eq_getElem due)).mpr (Nat.le_refl _)
  rw [Task.targets, finished _ (List.getElem_mem due)] at served
  cases served

theorem Tended.newest (tended : Tended config daemon) {task : Task S}
    (found : daemon.tasks[daemon.tasks.length - 1]? = some task) : task.batch.root = daemon.state.root := by
  have occupied := (List.getElem?_eq_some_iff.mp found).1
  have batch := batch_of_task found
  obtain ⟨sessions, formed, -⟩ := tended.recorded.formed _ _ batch
  have length : daemon.batches.length = daemon.tasks.length - 1 + 1 := by
    rw [Daemon.batches, List.length_map]
    omega
  have total := tended.recorded.newest
  rw [length, covered, batch, Option.map_some, Option.getD_some] at total
  have leaves : task.batch.leaves = daemon.state.oldLeaves := by
    rw [tended.recorded.leaves batch, ← total, ← tended.accounted.sessions, List.map_map, List.map_append,
      ← tended.accounted.consistent.aligned]
    exact List.take_left' (List.length_map _)
  rw [formed.root, leaves, tended.accounted.consistent.root]

theorem Tended.rooted (tended : Tended config daemon) {k : Nat} {task : Task S}
    (found : daemon.tasks[k]? = some task) :
    task.batch.publicContext.root = task.batch.root ∧ task.batch.root ≠ [] := by
  obtain ⟨sessions, formed, -⟩ := tended.recorded.formed _ _ (batch_of_task found)
  refine ⟨by rw [formed.context], ?_⟩
  have occupied : 0 < task.batch.leaves.length := formed.leaves_length ▸ Nat.zero_lt_of_lt formed.grows
  have commits := Shrubs.createBatchDevices_commits S.hash task.batch.leaves
  rw [formed.root]
  exact mt (commits.eq_nil_iff S.hash).mp (List.ne_nil_of_length_pos occupied)

end History

section Runs
variable {S : Suite} {config : Config S} {daemon next : Daemon S}

/-- The stored response opens the session's leaf under the root list, and the attester
was sent that list last. -/
def UpToDate (daemon : Daemon S) (session : AttesterSession S) : Prop :=
  (∃ devRes ∈ session.response,
    MembershipCheck S.hash daemon.state.root session.merkleLeaf (devRes.shrubsPath, devRes.shrubsTag)) ∧
  ∃ update ∈ (daemon.sent session.socket).getLast?, update.publicContext.root = daemon.state.root

/-- The last path and tag sent to the attester check against the last root list sent. -/
def Provable (daemon : Daemon S) (session : AttesterSession S) : Prop :=
  ∃ devRes ∈ lastResponse (daemon.sent session.socket), ∃ update ∈ (daemon.sent session.socket).getLast?,
    MembershipCheck S.hash update.publicContext.root session.merkleLeaf (devRes.shrubsPath, devRes.shrubsTag)

instance (daemon : Daemon S) (session : AttesterSession S) : Decidable (UpToDate daemon session) :=
  inferInstanceAs (Decidable (_ ∧ _))

instance (daemon : Daemon S) (session : AttesterSession S) : Decidable (Provable daemon session) :=
  inferInstanceAs (Decidable (∃ devRes ∈ lastResponse (daemon.sent session.socket), _))

theorem Reached.faithful {permits : Daemon S → Label S → Prop}
    (reached : Runs.Reaches (step config) permits (Daemon.init S) daemon)
    (implies : ∀ daemon label, permits daemon label → FaithfulBatch daemon label) : AllFaithful daemon := by
  have run := reached.with_invariant (I := fun daemon => Accounted daemon ∧ Recorded config daemon)
    ⟨init_accounted, init_recorded⟩ fun _ _ _ known _ stepped =>
      ⟨known.1.step stepped, known.2.step known.1 stepped⟩
  refine run.invariant (I := AllFaithful) (fun _ _ absent => by cases absent) ?_
  rintro before label after faithful ⟨⟨accounted, recorded⟩, permitted⟩ stepped
  exact faithful.step accounted recorded (implies before label permitted) stepped

variable (trips : S.RoundTrips) (cipher : S.CipherComplete)
include trips cipher

/-- Batches that overlap in order lose no update: once all tasks have finished, every
session is up to date. -/
theorem overlapping_batches
    (reached : Runs.Reaches (step config) (fun daemon label => InOrder daemon label ∧ FaithfulBatch daemon label)
      (Daemon.init S) daemon) (finished : ∀ task ∈ daemon.tasks, task.todo = []) :
    ∀ session ∈ daemon.state.active, UpToDate daemon session := by
  intro session member
  obtain ⟨i, active⟩ := List.mem_iff_getElem?.mp member
  have tended := Reached.tended trips cipher reached
  have faithful := Reached.faithful reached fun _ _ permitted => permitted.2
  have inside := (List.getElem?_eq_some_iff.mp active).1
  obtain ⟨first, delivered⟩ :=
    Reached.delivered trips cipher (reached.mono fun _ _ permitted => permitted.1) i inside
  have socket := tended.accounted.socket ((List.getElem?_append_left inside).trans active)
  have newest := delivered.finished finished
  have started := delivered.started
  have written : daemon.sent i ≠ [] := by
    rw [← List.length_pos_iff]
    omega
  obtain ⟨task, known, devRes, update, found, registered, last, final, context, checks⟩ :=
    delivered.checks tended.recorded faithful written
  rw [newest] at found
  obtain ⟨sessions, formed, -⟩ := tended.recorded.formed _ _ (batch_of_task found)
  have root := tended.newest found
  obtain rfl := Option.some.inj ((tended.session active).symm.trans registered)
  have stored := delivered.stored session active
  rw [newest, List.getElem?_eq_none (Nat.le_refl _), Option.map_none, Option.getD_none, List.append_nil, last] at stored
  rw [root] at checks
  refine ⟨⟨devRes, stored, checks⟩, update, socket ▸ final, ?_⟩
  rw [context, formed.context, root]

end Runs

section Sample

def sampleFaithful (daemon : Daemon reference) : Label reference → Bool
  | .process _ =>
    let leaves : List Nat := daemon.state.oldLeaves ++ daemon.state.pending.map fun session => session.merkleLeaf
    decide (leaves.Nodup ∧ ∀ leaf ∈ leaves, ¬ Inner Nat.pair leaves leaf)
  | _ => true

theorem sampleFaithful_sound {daemon : Daemon reference} {label : Label reference}
    (tested : sampleFaithful daemon label = true) : FaithfulBatch daemon label := by
  cases label with
  | process timer =>
    obtain ⟨distinct, apart⟩ := of_decide_eq_true tested
    exact faithful_of_distinct reference_hash_injective distinct apart _
  | queue _ _ | spawn _ | elapse _ | act _ _ _ => trivial

theorem overlapping_batches_interleaved :
    ∃ daemon : Daemon reference, daemon.state.active.length = 3 ∧
      ∀ session ∈ daemon.state.active, UpToDate daemon session := by
  obtain ⟨daemon, reached, ended⟩ := @Runs.reaches_of_labels _ _ (step sampleConfig)
    (fun daemon label => InOrder daemon label ∧ FaithfulBatch daemon label) (Daemon.init reference)
    (sampleBatch [sampleSubmission 1 3] ++ sampleActs 0 3 ++ sampleBatch [sampleSubmission 2 8, sampleSubmission 3 9] ++
      sampleActs 0 1 ++ sampleActs 1 6)
    (fun daemon label => decide (InOrder daemon label) && sampleFaithful daemon label)
    (fun daemon => daemon.tasks.all (fun task => task.todo.isEmpty) && daemon.state.active.length == 3)
    (fun _ _ tested => by
      rw [Bool.and_eq_true] at tested
      exact ⟨of_decide_eq_true tested.1, sampleFaithful_sound tested.2⟩) (by decide +kernel)
  rw [Bool.and_eq_true, List.all_eq_true, beq_iff_eq] at ended
  exact ⟨daemon, ended.2, overlapping_batches reference_roundTrips reference_cipherComplete reached
    fun task member => List.isEmpty_iff.mp (ended.1 task member)⟩

/-- The task of the first batch computes and sends after that of the second: its stale
response replaces the newer one, and its stale context is the last one sent. -/
theorem overlapping_batches_overtaken :
    Function.Injective2 reference.hash ∧ ∃ daemon, Runs.Reaches (step sampleConfig) (fun _ _ => True)
        (Daemon.init reference) daemon ∧
      (∀ task ∈ daemon.tasks, task.todo = []) ∧ daemon.state.oldLeaves.Nodup ∧
      ∃ session ∈ daemon.state.active, ∃ devRes ∈ session.response,
        ¬ MembershipCheck reference.hash daemon.state.root session.merkleLeaf (devRes.shrubsPath, devRes.shrubsTag) ∧
        ∃ update ∈ (daemon.sent session.socket).getLast?, update.publicContext.root ≠ daemon.state.root := by
  refine ⟨reference_hash_injective, ?_⟩
  obtain ⟨daemon, reached, ended⟩ := @Runs.reaches_of_labels _ _ (step sampleConfig) (fun _ _ => True)
    (Daemon.init reference)
    (sampleBatch [sampleSubmission 1 3] ++ sampleActs 0 2 ++ sampleBatch [sampleSubmission 2 8, sampleSubmission 3 9] ++
      sampleActs 1 6 ++ sampleActs 0 2)
    (fun _ _ => true)
    (fun daemon => daemon.tasks.all (fun task => task.todo.isEmpty) && decide (daemon.state.oldLeaves.Nodup ∧
      ∃ session ∈ daemon.state.active, ∃ devRes ∈ session.response,
        ¬ MembershipCheck reference.hash daemon.state.root session.merkleLeaf (devRes.shrubsPath, devRes.shrubsTag) ∧
        ∃ update ∈ (daemon.sent session.socket).getLast?, update.publicContext.root ≠ daemon.state.root))
    (fun _ _ _ => trivial) (by decide +kernel)
  rw [Bool.and_eq_true, List.all_eq_true] at ended
  exact ⟨daemon, reached, fun task member => List.isEmpty_iff.mp (ended.1 task member), of_decide_eq_true ended.2⟩

end Sample

end UnifiedAttestation.Verifier
