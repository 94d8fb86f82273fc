import UnifiedAttestation.Verifier.Overlap

/-! The daemon comes to rest when no more attesters are queued, under any schedule.

A timer takes three steps, a task at most one for every session and relying party and two
more. At rest everybody is active, and nobody was left out of a batch or served twice.
-/

set_option autoImplicit false

namespace UnifiedAttestation.Verifier

open Shrubs (createBatchDevices)
open Toolkit

section Work
variable {S : Suite}

/-- The daemon takes the step by itself. -/
def Label.Internal : Label S → Prop
  | .queue _ _ => False
  | .spawn _ | .elapse _ | .process _ | .act _ _ _ => True

def Timer.work : Timer → Nat
  | .spawning => 3
  | .sleeping => 2
  | .elapsed => 1

def Action.work : Action S → Nat
  | .respond snapshots => 1 + snapshots.length
  | .send _ _ | .publish _ => 1

def Task.work (task : Task S) : Nat := (task.todo.map Action.work).sum

/-- The work of the task that the pending attesters will make necessary. -/
def VerifierState.work (config : Config S) (state : VerifierState S) : Nat :=
  if state.pending = [] then 0
  else state.active.length + state.pending.length + config.relyingPartyAddrs.length + 2

def Daemon.work (config : Config S) (daemon : Daemon S) : Nat :=
  (daemon.timers.map Timer.work).sum + daemon.state.work config + (daemon.tasks.map Task.work).sum

theorem sum_set {items : List Nat} {i old : Nat} (found : items[i]? = some old) (new : Nat) :
    (items.set i new).sum + old = items.sum + new := by
  induction items generalizing i with
  | nil => cases found
  | cons item rest ih =>
    cases i with
    | zero =>
      obtain rfl := Option.some.inj found
      simp only [List.set_cons_zero, List.sum_cons]
      omega
    | succ i =>
      have tail := ih found
      simp only [List.set_cons_succ, List.sum_cons]
      omega

theorem sum_eraseIdx {items : List Nat} {i old : Nat} (found : items[i]? = some old) :
    (items.eraseIdx i).sum + old = items.sum := by
  induction items generalizing i with
  | nil => cases found
  | cons item rest ih =>
    cases i with
    | zero =>
      obtain rfl := Option.some.inj found
      rw [List.eraseIdx_cons_zero, List.sum_cons]
      omega
    | succ i =>
      have tail := ih found
      simp only [List.eraseIdx_cons_succ, List.sum_cons]
      omega

theorem sum_map_set {α : Type} (work : α → Nat) {items : List α} {i : Nat} {old : α} (found : items[i]? = some old)
    (new : α) : ((items.set i new).map work).sum + work old = (items.map work).sum + work new := by
  rw [List.map_set]
  exact sum_set (by rw [List.getElem?_map, found, Option.map_some]) _

/-- Responses are computed for no more sessions than were asked for. -/
theorem computeResponses_length {build : AttesterSnapshot S → Wire.Outcome (ComputedResponse S)}
    {snapshots : List (AttesterSnapshot S)} {computed : List (ComputedResponse S)}
    (all : computeResponses build snapshots = some computed) : computed.length ≤ snapshots.length := by
  induction snapshots generalizing computed with
  | nil =>
    obtain rfl := Option.some.inj all
    exact Nat.le_refl _
  | cons snapshot rest ih =>
    rw [computeResponses] at all
    split at all
    · cases all
    · exact Nat.le_succ_of_le (ih all)
    · obtain ⟨tail, found, rfl⟩ := Option.map_eq_some_iff.mp all
      exact Nat.succ_le_succ (ih found)

theorem sendJobs_work (publicContext : PublicContext S) (computed : List (ComputedResponse S)) :
    ((sendJobs publicContext computed).map Action.work).sum = computed.length := by
  induction computed with
  | nil => rfl
  | cons result rest ih =>
    rw [sendJobs] at ih ⊢
    simp only [List.map_cons, List.sum_cons, ih, Action.work, List.length_cons]
    omega

theorem sum_ones {α : Type} (items : List α) (action : α → Action S) (one : ∀ item, (action item).work = 1) :
    ((items.map action).map Action.work).sum = items.length := by
  induction items with
  | nil => rfl
  | cons item rest ih =>
    simp only [List.map_cons, List.sum_cons, ih, one, List.length_cons]
    omega

theorem Batch.todo_work (config : Config S) (batch : Batch S) :
    (⟨batch, batch.todo config⟩ : Task S).work =
      batch.snapshots.length + config.relyingPartyAddrs.length + 2 := by
  simp only [Task.work, Batch.todo, Batch.snapshots, List.map_append, List.sum_append, List.map_cons, List.map_nil,
    List.sum_cons, List.sum_nil, Action.work, List.length_append]
  rw [sum_ones _ _ fun _ => rfl, sum_ones _ _ fun _ => rfl]
  omega

theorem Formed.snapshots_length {verifierPk : S.VerifyingKey} {sessions : List (AttesterSession S)} {old : Nat}
    {batch : Batch S} (formed : Formed verifierPk sessions old batch) : batch.snapshots.length = sessions.length := by
  have positions := formed.partition.length_eq
  rwa [List.length_map, List.length_range] at positions

variable {config : Config S} {daemon next : Daemon S}

theorem act_work {now : Nat → Duration} {draw : Nat → Draw S} {index : Nat}
    (stepped : step config daemon (.act index now draw) = some next) : next.work config < daemon.work config := by
  obtain ⟨task, action, rest, found, todo, moved⟩ := step_act stepped
  obtain ⟨active, state, timers, -, blind⟩ := act_frame moved
  have units := congrArg List.length (blind (fun _ => ()) fun _ _ => rfl)
  rw [List.length_map, List.length_map] at units
  have same : next.state.work config = daemon.state.work config := by
    rw [state, VerifierState.work, VerifierState.work, units]
  have before : task.work = action.work + (rest.map Action.work).sum := by
    rw [Task.work, todo, List.map_cons, List.sum_cons]
  have shorter : ∀ later : List (Action S), next.tasks = daemon.tasks.set index { task with todo := later } →
      (later.map Action.work).sum < task.work → next.work config < daemon.work config := by
    intro later tasks less
    have total := sum_map_set Task.work found { task with todo := later }
    have after : Task.work { task with todo := later } = (later.map Action.work).sum := rfl
    rw [Daemon.work, Daemon.work, timers, same, tasks]
    omega
  subst moved
  cases action with
  | respond snapshots =>
    simp only [act] at shorter ⊢
    split
    · rename_i none
      rw [none] at shorter
      exact shorter [] rfl (by rw [before, Action.work]; simp)
    · rename_i computed all
      rw [all] at shorter
      refine shorter _ rfl ?_
      have length := computeResponses_length all
      rw [List.map_append, List.sum_append, sendJobs_work, before, Action.work]
      omega
  | send socket update => exact shorter rest rfl (by rw [before, Action.work]; omega)
  | publish addr => exact shorter rest rfl (by rw [before, Action.work]; omega)

theorem process_work (accounted : Accounted daemon) {timer : Nat}
    (stepped : step config daemon (.process timer) = some next) : next.work config < daemon.work config := by
  have due : daemon.timers[timer]? = some .elapsed ∧ next.timers = daemon.timers.eraseIdx timer := by
    simp only [step, Option.ite_none_right_eq_some, Option.map_eq_some_iff, Prod.exists] at stepped
    obtain ⟨due, _, _, -, rfl⟩ := stepped
    exact ⟨due, rfl⟩
  have timers : (next.timers.map Timer.work).sum + 1 = (daemon.timers.map Timer.work).sum := by
    have worked : (daemon.timers.map Timer.work)[timer]? = some 1 := by
      rw [List.getElem?_map, due.1]
      rfl
    rw [due.2, ← List.eraseIdx_map]
    exact sum_eraseIdx worked
  obtain ⟨-, -, ⟨tasks, state⟩ | ⟨batch, tasks, occupied, active, pending, formed⟩⟩ := process_cases accounted stepped
  · have same : next.state.work config = daemon.state.work config := by rw [state, VerifierState.work, VerifierState.work]
    rw [Daemon.work, Daemon.work, tasks, same]
    omega
  · have nothing : next.state.work config = 0 := if_pos pending
    have everybody : daemon.state.work config = _ := if_neg occupied
    have batched := batch.todo_work config
    have length := formed.snapshots_length
    rw [List.length_append] at length
    rw [Daemon.work, Daemon.work, tasks, List.map_append, List.sum_append, nothing, everybody, List.map_singleton,
      List.sum_singleton, batched, length]
    omega

/-- Every step that the daemon takes by itself leaves less to do. -/
theorem step_work (accounted : Accounted daemon) {label : Label S} (own : label.Internal)
    (stepped : step config daemon label = some next) : next.work config < daemon.work config := by
  cases label with
  | queue devInfor attesterAddr => cases own
  | spawn timer =>
    simp only [step, Option.ite_none_right_eq_some] at stepped
    obtain ⟨found, stepped⟩ := stepped
    obtain rfl := Option.some.inj stepped
    have total := sum_map_set Timer.work found .sleeping
    simp only [Daemon.work, Timer.work] at total ⊢
    omega
  | elapse timer =>
    simp only [step, Option.ite_none_right_eq_some] at stepped
    obtain ⟨found, stepped⟩ := stepped
    obtain rfl := Option.some.inj stepped
    have total := sum_map_set Timer.work found .elapsed
    simp only [Daemon.work, Timer.work] at total ⊢
    omega
  | process timer => exact process_work accounted stepped
  | act index now draw => exact act_work stepped

theorem decreases : Runs.Decreases (step config) (fun _ label => label.Internal) Accounted (Daemon.work (S := S) config) where
  preserved _ _ _ accounted _ stepped := accounted.step stepped
  smaller _ _ _ accounted own stepped := step_work accounted own stepped

/-- While a timer runs or a task is not done, the daemon can take a step. -/
theorem idle_of_rest (accounted : Accounted daemon)
    (rests : Runs.AtRest (step config) (fun _ label => label.Internal) daemon) :
    daemon.timers = [] ∧ daemon.state.pending = [] ∧ ∀ task ∈ daemon.tasks, task.todo = [] := by
  have timers : daemon.timers = [] := by
    cases running : daemon.timers with
    | nil => rfl
    | cons timer others =>
      have first : daemon.timers[0]? = some timer := by
        rw [running]
        rfl
      cases timer with
      | spawning =>
        have stuck := rests (.spawn 0) trivial
        simp [step, first] at stuck
      | sleeping =>
        have stuck := rests (.elapse 0) trivial
        simp [step, first] at stuck
      | elapsed =>
        have stuck := rests (.process 0) trivial
        simp only [step, first, if_true, Option.map_eq_none_iff] at stuck
        by_cases idle : daemon.state.pending = []
        · rw [processBatch_idle _ idle] at stuck
          cases stuck
        · obtain ⟨state, batch, processed, -⟩ :=
            processBatch_formed config.verifierKey.verifyingKey accounted.consistent idle
          rw [processed] at stuck
          cases stuck
  refine ⟨timers, ?_, ?_⟩
  · by_contra occupied
    have length := accounted.timer
    rw [if_pos (accounted.waiting occupied), timers] at length
    cases length
  · intro task member
    obtain ⟨index, found⟩ := List.mem_iff_getElem?.mp member
    cases todo : task.todo with
    | nil => rfl
    | cons action rest =>
      have stuck := rests (.act index (fun _ => ⟨0, 0, by decide, by decide⟩)
        fun _ => ⟨config.verifierKey.signingKey, List.replicate 12 0, rfl⟩) trivial
      simp [step, found, todo] at stuck

end Work

section Ledgers
variable {S : Suite} {config : Config S} {daemon next : Daemon S} {i index : Nat}

/-- What is entered for a task moves from what it owes to what is paid. -/
theorem pay {β : Type} (owed : Task S → List β) {tasks : List (Task S)} {task task' : Task S} {entries : List β}
    (found : tasks[index]? = some task) (paid : owed task = entries ++ owed task') (ledger : List β) :
    (ledger ++ tasks.flatMap owed).Perm (ledger ++ entries ++ (tasks.set index task').flatMap owed) := by
  rw [List.append_assoc]
  apply List.Perm.append_left
  induction tasks generalizing index with
  | nil => cases found
  | cons first rest ih =>
    cases index with
    | zero =>
      obtain rfl := Option.some.inj found
      rw [List.set_cons_zero, List.flatMap_cons, List.flatMap_cons, paid, List.append_assoc]
    | succ index =>
      have tail := (ih found).append_left (owed first)
      rw [List.set_cons_succ, List.flatMap_cons, List.flatMap_cons]
      refine tail.trans ?_
      rw [← List.append_assoc, ← List.append_assoc]
      exact List.perm_append_comm.append_right _

/-- The batch of a task that still has to serve a session. -/
def Task.owes (i : Nat) (task : Task S) : List (Batch S) := if i ∈ task.targets then [task.batch] else []

/-- The contexts that a task still has to send to relying parties. -/
def Action.publishes (publicContext : PublicContext S) : Action S → List (String × PublicContext S)
  | .publish addr => [(addr, publicContext)]
  | .respond _ | .send _ _ => []

def Task.publishes (task : Task S) : List (String × PublicContext S) :=
  task.todo.flatMap (Action.publishes task.batch.publicContext)

/-- The batches whose trees hold the leaf of a session. -/
def Daemon.covering (daemon : Daemon S) (i : Nat) : List (Batch S) :=
  daemon.batches.filter fun batch => i < batch.leaves.length

/-- Every frame to a session is an update of one batch. -/
def Pays (config : Config S) (daemon : Daemon S) (i : Nat) (batches : List (Batch S)) : Prop :=
  List.Forall₂ (fun batch update => ∃ session, daemon.queued[i]? = some session ∧ Serves config batch session update)
    batches (daemon.sent i)

/-- The batches over a session are those that have served it and those that still have to. -/
structure Balanced (config : Config S) (daemon : Daemon S) : Prop where
  served : ∀ i, ∃ batches, Pays config daemon i batches ∧
    (batches ++ daemon.tasks.flatMap (Task.owes i)).Perm (daemon.covering i)
  published : (daemon.published ++ daemon.tasks.flatMap Task.publishes).Perm
    (daemon.batches.flatMap fun batch => config.relyingPartyAddrs.map fun addr => (addr, batch.publicContext))

theorem Pays.grow {batches : List (Batch S)} (pays : Pays config daemon i batches) (sent : next.sent i = daemon.sent i)
    (queued : daemon.queued <+: next.queued) : Pays config next i batches := by
  rw [Pays, sent]
  refine pays.imp fun batch update known => ?_
  obtain ⟨session, registered, serves⟩ := known
  refine ⟨session, ?_, serves⟩
  obtain ⟨more, whole⟩ := queued
  rw [← whole]
  exact (List.getElem?_append_left (List.getElem?_eq_some_iff.mp registered).1).trans registered

theorem init_balanced : Balanced config (Daemon.init S) where
  served _ := ⟨[], .nil, .refl _⟩
  published := .refl _

theorem todo_publishes (config : Config S) (batch : Batch S) :
    (⟨batch, batch.todo config⟩ : Task S).publishes =
      config.relyingPartyAddrs.map fun addr => (addr, batch.publicContext) := by
  have contexts : ∀ snapshots : List (AttesterSnapshot S), (snapshots.map fun snapshot =>
      Action.send snapshot.2.socket (Update.context batch.publicContext
        (encodePublicContextMessage S batch.publicContext))).flatMap (Action.publishes batch.publicContext) = [] := by
    intro snapshots
    rw [List.flatMap_map]
    exact List.flatMap_eq_nil_iff.mpr fun _ _ => rfl
  have parties : (config.relyingPartyAddrs.map Action.publish).flatMap (Action.publishes (S := S) batch.publicContext) =
      config.relyingPartyAddrs.map fun addr => (addr, batch.publicContext) := by
    rw [List.flatMap_map]
    exact List.map_eq_flatMap.symm
  simp only [Task.publishes, Batch.todo, List.flatMap_append, contexts, parties, List.flatMap_cons, List.flatMap_nil,
    Action.publishes, List.append_nil, List.nil_append]

/-- The task of a new batch owes an update to every session, and the context to every
relying party. -/
theorem Balanced.process (balanced : Balanced config daemon) (tended : Tended config daemon) {timer : Nat}
    (stepped : step config daemon (.process timer) = some next) : Balanced config next := by
  have published : next.published = daemon.published := by
    obtain ⟨_, _, -, -, rfl⟩ := step_process stepped
    rfl
  obtain ⟨outbox, queued, ⟨tasks, -⟩ | ⟨batch, tasks, -, -, -, formed⟩⟩ := process_cases tended.accounted stepped
  all_goals
    have sent : ∀ i, next.sent i = daemon.sent i := fun i => by rw [Daemon.sent, outbox, Daemon.sent]
  · refine ⟨fun i => ?_, ?_⟩
    · obtain ⟨batches, pays, sums⟩ := balanced.served i
      refine ⟨batches, pays.grow (sent i) (queued ▸ List.prefix_refl _), ?_⟩
      rw [Daemon.covering, Daemon.batches, tasks]
      exact sums
    · rw [published, Daemon.batches, tasks]
      exact balanced.published
  · have batches : next.batches = daemon.batches ++ [batch] := by
      rw [Daemon.batches, tasks, List.map_append]
      rfl
    refine ⟨fun i => ?_, ?_⟩
    · obtain ⟨served, pays, sums⟩ := balanced.served i
      refine ⟨served, pays.grow (sent i) (queued ▸ List.prefix_refl _), ?_⟩
      have newest : Task.owes i ⟨batch, batch.todo config⟩ = [batch].filter fun batch => i < batch.leaves.length := by
        have inside := (formed.targets_perm config fun _ _ found => tended.accounted.socket found).mem_iff (a := i)
        rw [List.mem_range, ← formed.leaves_length] at inside
        by_cases covers : i < batch.leaves.length
        · rw [Task.owes, if_pos (inside.mpr covers)]
          exact (List.filter_eq_self.mpr (by simpa using covers)).symm
        · rw [Task.owes, if_neg (mt inside.mp covers)]
          exact (List.filter_eq_nil_iff.mpr (by simpa using covers)).symm
      rw [Daemon.covering, batches, tasks, List.flatMap_append, List.flatMap_singleton, newest, List.filter_append,
        ← List.append_assoc]
      exact sums.append_right _
    · rw [published, batches, tasks, List.flatMap_append, List.flatMap_append, List.flatMap_singleton,
        List.flatMap_singleton, todo_publishes, ← List.append_assoc]
      exact balanced.published.append_right _

variable (trips : S.RoundTrips) (cipher : S.CipherComplete)
include trips cipher

theorem Balanced.act (balanced : Balanced config daemon) (tended : Tended config daemon) {now : Nat → Duration}
    {draw : Nat → Draw S} (stepped : step config daemon (.act index now draw) = some next) : Balanced config next := by
  obtain ⟨task, action, rest, found, todo, moved⟩ := step_act stepped
  have owes := tended.owes task (List.mem_of_getElem? found)
  have batches := act_batches found moved
  have targets := Task.targets_cons todo
  have publishes : task.publishes =
      action.publishes task.batch.publicContext ++ rest.flatMap (Action.publishes task.batch.publicContext) := by
    rw [Task.publishes, todo, List.flatMap_cons]
  -- What an action pays is what the rest of its task no longer owes.
  have settled : ∀ later : List (Action S), next.tasks = daemon.tasks.set index { task with todo := later } →
      next.queued = daemon.queued →
      next.published = daemon.published ++ action.publishes task.batch.publicContext →
      later.flatMap (Action.publishes task.batch.publicContext) =
        rest.flatMap (Action.publishes task.batch.publicContext) →
      (∀ i, ∃ paid, task.owes i = paid ++ Task.owes i { task with todo := later } ∧ ∀ before,
        Pays config daemon i before → Pays config next i (before ++ paid)) → Balanced config next := by
    intro later tasks queued published same each
    refine ⟨fun i => ?_, ?_⟩
    · obtain ⟨before, pays, sums⟩ := balanced.served i
      obtain ⟨paid, split, grows⟩ := each i
      refine ⟨before ++ paid, grows before pays, ?_⟩
      rw [Daemon.covering, batches, tasks]
      exact (pay (Task.owes i) found split before).symm.trans sums
    · rw [published, batches, tasks]
      refine (pay Task.publishes found ?_ daemon.published).symm.trans balanced.published
      rw [publishes, ← same]
      rfl
  have kept : ∀ later : List (Action S), (later.flatMap Action.targets = task.targets) → next.outbox = daemon.outbox →
      next.queued = daemon.queued → ∀ i, ∃ paid, task.owes i = paid ++ Task.owes i { task with todo := later } ∧
        ∀ before, Pays config daemon i before → Pays config next i (before ++ paid) := by
    intro later same outbox queued i
    refine ⟨[], ?_, fun before pays => ?_⟩
    · rw [List.nil_append, Task.owes, Task.owes, ← same]
      rfl
    · rw [List.append_nil]
      exact pays.grow (by rw [Daemon.sent, outbox, Daemon.sent]) (queued ▸ List.prefix_refl _)
  cases action with
  | respond snapshots =>
    obtain ⟨computed, answers, outcome⟩ := act_respond trips cipher owes todo now draw daemon index
    rw [outcome] at moved
    subst moved
    have silent : (sendJobs task.batch.publicContext computed).flatMap (Action.publishes task.batch.publicContext) = [] := by
      rw [sendJobs, List.flatMap_map]
      exact List.flatMap_eq_nil_iff.mpr fun _ _ => rfl
    refine settled _ rfl rfl (List.append_nil _).symm (by rw [List.flatMap_append, silent, List.nil_append]) ?_
    refine kept _ ?_ rfl rfl
    rw [targets, List.flatMap_append, sendJobs_targets answers]
    rfl
  | send socket update =>
    subst moved
    refine settled rest rfl rfl (List.append_nil _).symm rfl fun i => ?_
    have sent := sent_concat (i := i) daemon socket update (daemon.tasks.set index { task with todo := rest })
    by_cases here : socket = i
    · subst here
      have once : socket ∉ Task.targets { task with todo := rest } := by
        have distinct := owes.distinct
        rw [targets] at distinct
        exact (List.nodup_cons.mp distinct).1
      refine ⟨[task.batch], ?_, fun before pays => ?_⟩
      · have due : socket ∈ task.targets := targets ▸ List.mem_append_left _ (List.mem_singleton_self socket)
        rw [Task.owes, if_pos due, Task.owes, if_neg once, List.append_nil]
      · obtain ⟨session, registered, -, serves⟩ := owes.sends socket update (todo ▸ List.mem_cons_self)
        rw [if_pos rfl] at sent
        have last : List.Forall₂ (fun batch update => ∃ session, daemon.queued[socket]? = some session ∧
            Serves config batch session update) [task.batch] [update] := .cons ⟨session, registered, serves⟩ .nil
        have all := List.rel_append pays last
        change List.Forall₂ _ (before ++ [task.batch]) (daemon.sent socket ++ [update]) at all
        rwa [← sent] at all
    · refine ⟨[], ?_, fun before pays => ?_⟩
      · have others : i ∈ task.targets ↔ i ∈ Task.targets { task with todo := rest } := by
          rw [targets]
          simp [Action.targets, Task.targets, Ne.symm here]
        simp only [Task.owes, others, List.nil_append]
      · rw [if_neg here, List.append_nil] at sent
        rw [List.append_nil]
        exact pays.grow sent (List.prefix_refl _)
  | publish addr =>
    subst moved
    refine settled rest rfl rfl rfl rfl (kept rest ?_ rfl rfl)
    rw [targets]
    rfl

theorem Balanced.step (balanced : Balanced config daemon) (tended : Tended config daemon) {label : Label S}
    (stepped : step config daemon label = some next) : Balanced config next := by
  cases label with
  | queue devInfor attesterAddr =>
    have grown : ∀ state timers, Balanced config { daemon with
        state, timers
        queued := daemon.queued ++ [newSession daemon.queued.length devInfor attesterAddr] } := by
      intro state timers
      refine ⟨fun i => ?_, balanced.published⟩
      obtain ⟨batches, pays, sums⟩ := balanced.served i
      exact ⟨batches, pays.grow rfl (List.prefix_append _ _), sums⟩
    simp only [Verifier.step, queueAttester] at stepped
    split at stepped <;> exact Option.some.inj stepped ▸ grown _ _
  | spawn timer | elapse timer =>
    simp only [Verifier.step, Option.ite_none_right_eq_some] at stepped
    obtain rfl := Option.some.inj stepped.2
    exact ⟨balanced.served, balanced.published⟩
  | process timer => exact balanced.process tended stepped
  | act index now draw => exact balanced.act trips cipher tended stepped

theorem Reached.balanced {permits : Daemon S → Label S → Prop}
    (reached : Runs.Reaches (Verifier.step config) permits (Daemon.init S) daemon) : Balanced config daemon := by
  have run := reached.with_invariant init_tended fun _ _ _ tended _ stepped => tended.step trips cipher stepped
  refine run.invariant (I := Balanced config) init_balanced ?_
  rintro before label after balanced ⟨tended, -⟩ stepped
  exact balanced.step trips cipher tended stepped

end Ledgers

section Rest
variable {S : Suite} {config : Config S} {daemon next : Daemon S}

/-- Nothing is left to do: everybody is active in the tree and was sent exactly one update
of each batch over their leaf, and every relying party the context of each batch. -/
structure Rested (config : Config S) (daemon : Daemon S) : Prop where
  timers : daemon.timers = []
  tasks : ∀ task ∈ daemon.tasks, task.todo = []
  active : daemon.state.active.map AttesterSession.fresh = daemon.queued
  root : daemon.state.root = createBatchDevices S.hash [] (daemon.queued.map fun session => session.merkleLeaf)
  newest : daemon.queued ≠ [] → ∃ batch ∈ daemon.batches,
    batch.leaves = daemon.queued.map fun session => session.merkleLeaf
  updates : ∀ i, ∃ batches, Pays config daemon i batches ∧ batches.Perm (daemon.covering i)
  published : daemon.published.Perm
    (daemon.batches.flatMap fun batch => config.relyingPartyAddrs.map fun addr => (addr, batch.publicContext))

theorem Tended.rested (tended : Tended config daemon) (balanced : Balanced config daemon)
    (rests : Runs.AtRest (Verifier.step config) (fun _ label => label.Internal) daemon) : Rested config daemon := by
  obtain ⟨timers, pending, tasks⟩ := idle_of_rest tended.accounted rests
  have nothing : ∀ {β : Type} (owed : Task S → List β), (∀ task ∈ daemon.tasks, owed task = []) →
      daemon.tasks.flatMap owed = [] := fun owed none => List.flatMap_eq_nil_iff.mpr none
  have active : daemon.state.active.map AttesterSession.fresh = daemon.queued := by
    have sessions := tended.accounted.sessions
    rwa [pending, List.append_nil] at sessions
  have leaves : daemon.state.oldLeaves = daemon.queued.map fun session => session.merkleLeaf := by
    rw [← active, List.map_map, ← tended.accounted.consistent.aligned]
    rfl
  refine ⟨timers, tasks, active, ?root, ?newest, ?updates, ?published⟩
  case root => rw [tended.accounted.consistent.root, leaves]
  case newest =>
    intro occupied
    have length := congrArg List.length active
    rw [List.length_map, tended.recorded.newest] at length
    have some_batch := List.length_pos_of_ne_nil occupied
    cases last : daemon.batches.length with
    | zero =>
      rw [last] at length
      simp only [covered] at length
      omega
    | succ k =>
      have inside : k < daemon.batches.length := by omega
      have found := List.getElem?_eq_getElem inside
      rw [last, covered, found, Option.map_some, Option.getD_some] at length
      refine ⟨daemon.batches[k], List.getElem_mem inside, ?_⟩
      rw [tended.recorded.leaves found, length]
      exact List.take_of_length_le (Nat.le_of_eq (List.length_map _))
  case updates =>
    intro i
    obtain ⟨batches, pays, sums⟩ := balanced.served i
    have done : daemon.tasks.flatMap (Task.owes i) = [] := by
      refine nothing _ fun task member => if_neg ?_
      rw [Task.targets, tasks task member]
      exact List.not_mem_nil
    rw [done, List.append_nil] at sums
    exact ⟨batches, pays, sums⟩
  case published =>
    have done : daemon.tasks.flatMap Task.publishes = [] := by
      refine nothing _ fun task member => ?_
      rw [Task.publishes, tasks task member]
      rfl
    have sums := balanced.published
    rwa [done, List.append_nil] at sums

theorem Internal.queued {label : Label S} (own : label.Internal) (stepped : step config daemon label = some next) :
    next.queued = daemon.queued := by
  cases label with
  | queue devInfor attesterAddr => cases own
  | spawn timer | elapse timer =>
    simp only [step, Option.ite_none_right_eq_some] at stepped
    obtain rfl := Option.some.inj stepped.2
    rfl
  | process timer =>
    obtain ⟨_, _, -, -, rfl⟩ := step_process stepped
    rfl
  | act index now draw =>
    obtain ⟨_, _, _, -, -, moved⟩ := step_act stepped
    obtain ⟨-, -, -, queued, -⟩ := act_frame moved
    exact queued

/-- When no more attesters are queued, no schedule keeps the daemon from coming to rest
within its work, and wherever it rests everybody queued has been served. -/
theorem comes_to_rest (trips : S.RoundTrips) (cipher : S.CipherComplete)
    (reached : Runs.Reaches (step config) (fun _ _ => True) (Daemon.init S) daemon) :
    (∀ n next, Runs.Takes (step config) (fun _ label => label.Internal) daemon n next →
        n + next.work config ≤ daemon.work config) ∧
      (∃ next, Runs.Reaches (step config) (fun _ label => label.Internal) daemon next ∧
        Runs.AtRest (step config) (fun _ label => label.Internal) next) ∧
      ∀ next, Runs.Reaches (step config) (fun _ label => label.Internal) daemon next →
        Runs.AtRest (step config) (fun _ label => label.Internal) next →
        next.queued = daemon.queued ∧ Rested config next := by
  have accounted := Reached.accounted reached
  refine ⟨fun n next takes => decreases.bounds accounted takes, decreases.reaches_rest accounted, ?_⟩
  intro next later rests
  have whole := reached.trans (later.mono fun _ _ _ => trivial)
  have queued : next.queued = daemon.queued :=
    later.invariant (I := fun other => other.queued = daemon.queued) rfl fun _ _ _ same own stepped =>
      (Internal.queued own stepped).trans same
  exact ⟨queued, (Reached.tended trips cipher whole).rested (Reached.balanced trips cipher whole) rests⟩

/-- Two attesters have been queued, the second one behind the first batch. -/
theorem comes_to_rest_sample : ∃ daemon next : Daemon reference,
    daemon.work sampleConfig = 12 ∧ daemon.tasks.length = 1 ∧ daemon.state.pending.length = 1 ∧
      Runs.Reaches (step sampleConfig) (fun _ label => label.Internal) daemon next ∧ Rested sampleConfig next ∧
      next.queued.length = 2 := by
  obtain ⟨daemon, reached, stopped⟩ := @Runs.reaches_of_labels _ _ (step sampleConfig) (fun _ _ => True)
    (Daemon.init reference)
    (sampleBatch [sampleSubmission 1 3] ++ [.queue (sampleSubmission 2 8) "127.0.0.1:7001"]) (fun _ _ => true)
    (fun daemon => decide (daemon.work sampleConfig = 12 ∧ daemon.tasks.length = 1 ∧ daemon.state.pending.length = 1 ∧
      daemon.queued.length = 2)) (fun _ _ _ => trivial) (by decide)
  obtain ⟨work, tasks, pending, queued⟩ := of_decide_eq_true stopped
  obtain ⟨-, ⟨next, later, rests⟩, served⟩ := comes_to_rest reference_roundTrips reference_cipherComplete reached
  obtain ⟨same, rested⟩ := served next later rests
  exact ⟨daemon, next, work, tasks, pending, later, rested, same ▸ queued⟩

end Rest

end UnifiedAttestation.Verifier
