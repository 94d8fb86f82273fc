import UnifiedAttestation.Verifier.Overlap

/-! Batches that run one after another.

No section of `process_batch` starts before the task of the batch before it has
finished, so the tasks serve every session in order.
-/

set_option autoImplicit false

namespace UnifiedAttestation.Verifier

open Shrubs (MembershipCheck)
open Toolkit

section
variable {S : Suite} {config : Config S} {daemon next : Daemon S}

/-- A batch is formed only after the tasks of all earlier ones. -/
def Sequential (daemon : Daemon S) : Label S → Prop
  | .process _ => ∀ task ∈ daemon.tasks, task.todo = []
  | _ => True

/-- Only the newest task has something left to do. -/
def NewestOnly (daemon : Daemon S) : Prop :=
  ∀ k task, daemon.tasks[k]? = some task → k + 1 < daemon.tasks.length → task.todo = []

theorem NewestOnly.inOrder (newest : NewestOnly daemon) (label : Label S) : InOrder daemon label := by
  cases label with
  | act index now draw =>
    intro task found action _ socket _ earlier before served
    obtain ⟨k, inside, rfl⟩ := List.mem_take_iff_getElem.mp before
    have bound := (List.getElem?_eq_some_iff.mp found).1
    have idle := newest k _ (List.getElem?_eq_getElem (by omega)) (by omega)
    rw [Task.targets, idle] at served
    cases served
  | queue _ _ | spawn _ | elapse _ | process _ => trivial

theorem NewestOnly.step (newest : NewestOnly daemon) (accounted : Accounted daemon) {label : Label S}
    (sequential : Sequential daemon label) (stepped : step config daemon label = some next) : NewestOnly next := by
  cases label with
  | queue devInfor attesterAddr =>
    simp only [Verifier.step, queueAttester] at stepped
    split at stepped <;> exact Option.some.inj stepped ▸ newest
  | spawn timer | elapse timer =>
    simp only [Verifier.step, Option.ite_none_right_eq_some] at stepped
    exact Option.some.inj stepped.2 ▸ newest
  | process timer =>
    obtain ⟨-, -, ⟨tasks, -⟩ | ⟨batch, tasks, -⟩⟩ := process_cases accounted stepped
    · rw [NewestOnly, tasks]
      exact newest
    · intro k task found inside
      rw [tasks] at found inside
      rcases concat_cases found with ⟨old, before⟩ | ⟨rfl, rfl⟩
      · exact sequential task (List.mem_of_getElem? before)
      · rw [List.length_append, List.length_singleton] at inside
        omega
  | act index now draw =>
    obtain ⟨task, action, rest, found, todo, moved⟩ := step_act stepped
    obtain ⟨todo', tasks⟩ := act_tasks moved
    intro k other there inside
    rw [tasks] at there
    rw [tasks, List.length_set] at inside
    rcases set_cases there with ⟨rfl, rfl⟩ | ⟨-, before⟩
    · -- an older task has nothing left to act on
      rw [newest _ task found inside] at todo
      cases todo
    · exact newest k other before inside

theorem Reached.inOrder {permits : Daemon S → Label S → Prop}
    (reached : Runs.Reaches (step config) permits (Daemon.init S) daemon)
    (implies : ∀ daemon label, permits daemon label → Sequential daemon label) :
    Runs.Reaches (step config) (fun daemon label => InOrder daemon label ∧ permits daemon label) (Daemon.init S)
      daemon := by
  have accounted := reached.with_invariant init_accounted fun _ _ _ accounted _ stepped => accounted.step stepped
  have newest := accounted.with_invariant (I := NewestOnly) (fun _ _ absent => by cases absent) ?_
  · exact newest.mono fun _ label known => ⟨known.1.inOrder label, known.2.2⟩
  · rintro before label after newest ⟨accounted, permitted⟩ stepped
    exact newest.step accounted (implies before label permitted) stepped

variable (trips : S.RoundTrips) (cipher : S.CipherComplete)
include trips cipher

/-- Whoever was sent something can prove membership against the last root list sent. -/
theorem provable_of_sent
    (reached : Runs.Reaches (step config) (fun daemon label => InOrder daemon label ∧ FaithfulBatch daemon label)
      (Daemon.init S) daemon) {session : AttesterSession S} (member : session ∈ daemon.state.active)
    (written : daemon.sent session.socket ≠ []) : Provable daemon session := by
  obtain ⟨i, active⟩ := List.mem_iff_getElem?.mp member
  have tended := Reached.tended trips cipher reached
  have faithful := Reached.faithful reached fun _ _ permitted => permitted.2
  have inside := (List.getElem?_eq_some_iff.mp active).1
  obtain ⟨first, delivered⟩ :=
    Reached.delivered trips cipher (reached.mono fun _ _ permitted => permitted.1) i inside
  have socket := tended.accounted.socket ((List.getElem?_append_left inside).trans active)
  rw [socket] at written
  obtain ⟨task, known, devRes, update, found, registered, last, final, context, checks⟩ :=
    delivered.checks tended.recorded faithful written
  obtain ⟨sessions, formed, -⟩ := tended.recorded.formed _ _ (batch_of_task found)
  obtain rfl := Option.some.inj ((tended.session active).symm.trans registered)
  refine ⟨devRes, socket ▸ last, update, socket ▸ final, ?_⟩
  rw [context, formed.context]
  exact checks

/-- After every batch of a sequential run every active session can prove membership. -/
theorem sequential_batches
    (reached : Runs.Reaches (step config) (fun daemon label => Sequential daemon label ∧ FaithfulBatch daemon label)
      (Daemon.init S) daemon) (finished : ∀ task ∈ daemon.tasks, task.todo = []) :
    ∀ session ∈ daemon.state.active, Provable daemon session := by
  intro session member
  have ordered : Runs.Reaches (step config) (fun daemon label => InOrder daemon label ∧ FaithfulBatch daemon label)
      (Daemon.init S) daemon :=
    (Reached.inOrder reached fun _ _ permitted => permitted.1).mono fun _ _ permitted => ⟨permitted.1, permitted.2.2⟩
  refine provable_of_sent trips cipher ordered member ?_
  obtain ⟨i, active⟩ := List.mem_iff_getElem?.mp member
  have inside := (List.getElem?_eq_some_iff.mp active).1
  have accounted := Reached.accounted reached
  obtain ⟨first, delivered⟩ :=
    Reached.delivered trips cipher (ordered.mono fun _ _ permitted => permitted.1) i inside
  have newest := delivered.finished finished
  have started := delivered.started
  rw [accounted.socket ((List.getElem?_append_left inside).trans active), ← List.length_pos_iff]
  omega

end

section Sample

def sampleSequential (daemon : Daemon reference) : Label reference → Bool
  | .process _ => daemon.tasks.all fun task => task.todo.isEmpty
  | _ => true

theorem sampleSequential_sound {daemon : Daemon reference} {label : Label reference}
    (tested : sampleSequential daemon label = true) : Sequential daemon label := by
  cases label with
  | process timer => exact fun task member => List.isEmpty_iff.mp (List.all_eq_true.mp tested task member)
  | queue _ _ | spawn _ | elapse _ | act _ _ _ => trivial

theorem sequential_batches_grown :
    ∃ daemon : Daemon reference, daemon.state.active.length = 4 ∧
      ∀ session ∈ daemon.state.active, Provable daemon session := by
  obtain ⟨daemon, reached, ended⟩ := @Runs.reaches_of_labels _ _ (step sampleConfig)
    (fun daemon label => Sequential daemon label ∧ FaithfulBatch daemon label) (Daemon.init reference)
    (sampleBatch [sampleSubmission 1 3, sampleSubmission 2 4] ++ sampleActs 0 5 ++
      sampleBatch [sampleSubmission 3 8, sampleSubmission 4 9] ++ sampleActs 1 7)
    (fun daemon label => sampleSequential daemon label && sampleFaithful daemon label)
    (fun daemon => daemon.tasks.all (fun task => task.todo.isEmpty) && daemon.state.active.length == 4)
    (fun _ _ tested => by
      rw [Bool.and_eq_true] at tested
      exact ⟨sampleSequential_sound tested.1, sampleFaithful_sound tested.2⟩) (by decide +kernel)
  rw [Bool.and_eq_true, List.all_eq_true, beq_iff_eq] at ended
  exact ⟨daemon, ended.2, sequential_batches reference_roundTrips reference_cipherComplete reached
    fun task member => List.isEmpty_iff.mp (ended.1 task member)⟩

/-- Two attesters with one leaf both get the opening of the first, which the next batch
sends again to the first attester only. -/
theorem sequential_batches_repeated :
    ∃ daemon, Runs.Reaches (step sampleConfig) Sequential (Daemon.init reference) daemon ∧
      (∀ task ∈ daemon.tasks, task.todo = []) ∧ ∃ session ∈ daemon.state.active,
        ∃ devRes ∈ lastResponse (daemon.sent session.socket), ∃ update ∈ (daemon.sent session.socket).getLast?,
          ¬ MembershipCheck reference.hash update.publicContext.root session.merkleLeaf
            (devRes.shrubsPath, devRes.shrubsTag) := by
  obtain ⟨daemon, reached, ended⟩ := @Runs.reaches_of_labels _ _ (step sampleConfig) Sequential (Daemon.init reference)
    (sampleBatch [sampleSubmission 1 3, sampleSubmission 2 3] ++ sampleActs 0 5 ++
      sampleBatch [sampleSubmission 3 8] ++ sampleActs 1 6)
    (fun daemon label => sampleSequential daemon label)
    (fun daemon => daemon.tasks.all (fun task => task.todo.isEmpty) &&
      decide (∃ session ∈ daemon.state.active,
        ∃ devRes ∈ lastResponse (daemon.sent session.socket), ∃ update ∈ (daemon.sent session.socket).getLast?,
          ¬ MembershipCheck reference.hash update.publicContext.root session.merkleLeaf
            (devRes.shrubsPath, devRes.shrubsTag)))
    (fun _ _ tested => sampleSequential_sound tested) (by decide +kernel)
  rw [Bool.and_eq_true, List.all_eq_true] at ended
  exact ⟨daemon, reached, fun task member => List.isEmpty_iff.mp (ended.1 task member), of_decide_eq_true ended.2⟩

end Sample

end UnifiedAttestation.Verifier
