import UnifiedAttestation.Verifier.Tasks

/-! Delivery to one attester.

As long as no task stores or sends for a session before the tasks of earlier batches
have, a session gets exactly one update of every batch, in the order of the batches.
-/

set_option autoImplicit false

namespace UnifiedAttestation.Verifier

open Toolkit

section Updates
variable {S : Suite}

def Update.devRes : Update S → Option (ResponseDeviceInfor S)
  | .response devRes _ _ => some devRes
  | .context _ _ => none

def Update.publicContext : Update S → PublicContext S
  | .response _ publicContext _ => publicContext
  | .context publicContext _ => publicContext

def Update.frame : Update S → Wire.Bytes
  | .response _ _ frame => frame
  | .context _ frame => frame

theorem Serves.publicContext {config : Config S} {batch : Batch S} {session : AttesterSession S} {update : Update S}
    (serves : Serves config batch session update) : update.publicContext = batch.publicContext := by
  cases update with
  | response devRes publicContext frame => exact serves.2.1
  | context publicContext frame => exact serves.2.1

/-- The frames written to a connection, oldest first. -/
def Daemon.sent (daemon : Daemon S) (socket : Nat) : List (Update S) :=
  (daemon.outbox.filter fun entry => entry.1 = socket).map Prod.snd

def lastResponse (updates : List (Update S)) : Option (ResponseDeviceInfor S) :=
  (updates.filterMap Update.devRes).getLast?

/-- The frame an action is about to write to the connection. -/
def Action.toward (socket : Nat) : Action S → Option (Update S)
  | .send other update => if other = socket then some update else none
  | .respond _ => none
  | .publish _ => none

def Task.sends (task : Task S) (socket : Nat) : List (Update S) := task.todo.filterMap (Action.toward socket)

theorem lastResponse_silent {updates : List (Update S)} (silent : ∀ update ∈ updates, update.devRes = none)
    (before : List (Update S)) : lastResponse (before ++ updates) = lastResponse before := by
  rw [lastResponse, List.filterMap_append, List.filterMap_eq_nil_iff.mpr silent, List.append_nil, lastResponse]

theorem lastResponse_concat (before : List (Update S)) (devRes : ResponseDeviceInfor S)
    (publicContext : PublicContext S) (frame : Wire.Bytes) :
    lastResponse (before ++ [.response devRes publicContext frame]) = some devRes := by
  rw [lastResponse, List.filterMap_append, List.getLast?_append]
  rfl

theorem toward_targets {socket : Nat} {actions : List (Action S)} (absent : socket ∉ actions.flatMap Action.targets) :
    actions.filterMap (Action.toward socket) = [] := by
  apply List.filterMap_eq_nil_iff.mpr
  intro action member
  cases action with
  | send other update =>
    have different : other ≠ socket := by
      rintro rfl
      exact absent (List.mem_flatMap.mpr ⟨_, member, List.mem_singleton_self other⟩)
    exact if_neg different
  | respond _ => rfl
  | publish _ => rfl

theorem toward_sendJobs (publicContext : PublicContext S) {computed : List (ComputedResponse S)}
    (distinct : (computed.map fun result => result.socket).Nodup) {result : ComputedResponse S}
    (member : result ∈ computed) :
    (sendJobs publicContext computed).filterMap (Action.toward result.socket) =
      [.response result.response publicContext result.encrypted] := by
  induction computed with
  | nil => cases member
  | cons first rest ih =>
    obtain ⟨apart, distinct'⟩ := List.nodup_cons.mp distinct
    rw [sendJobs, List.map_cons, List.filterMap_cons, ← sendJobs]
    rcases List.mem_cons.mp member with rfl | later
    · have none : (sendJobs publicContext rest).filterMap (Action.toward result.socket) = [] := by
        apply toward_targets
        rw [sendJobs, List.flatMap_map]
        intro inside
        obtain ⟨other, there, same⟩ := List.mem_flatMap.mp inside
        exact apart (List.mem_map.mpr ⟨other, there, (List.mem_singleton.mp same).symm⟩)
      rw [none]
      simp only [Action.toward, if_true]
    · have different : first.socket ≠ result.socket := by
        intro same
        exact apart (List.mem_map.mpr ⟨result, later, same.symm⟩)
      simp only [Action.toward, if_neg different]
      exact ih distinct' later

/-- A new task has nothing but contexts to write before it computes. -/
theorem Batch.todo_silent (config : Config S) (batch : Batch S) (socket : Nat) :
    ∀ update ∈ (⟨batch, batch.todo config⟩ : Task S).sends socket, update.devRes = none := by
  intro update waiting
  obtain ⟨action, member, written⟩ := List.mem_filterMap.mp waiting
  simp only [Batch.todo, List.mem_append, List.mem_singleton, List.mem_map] at member
  rcases member with ((rfl | ⟨snapshot, -, rfl⟩) | ⟨addr, -, rfl⟩) | rfl
  · cases written
  · simp only [Action.toward, Option.ite_none_right_eq_some, Option.some.injEq] at written
    rw [← written.2]
    rfl
  · cases written
  · cases written

end Updates

section Order
variable {S : Suite}

/-- The step serves no connection that an earlier batch still has to serve. -/
def InOrder (daemon : Daemon S) : Label S → Prop
  | .act index _ _ =>
    ∀ task ∈ daemon.tasks[index]?, ∀ action ∈ task.todo.head?, ∀ socket ∈ action.targets,
      ∀ earlier ∈ daemon.tasks.take index, socket ∉ earlier.targets
  | _ => True

instance (daemon : Daemon S) (label : Label S) : Decidable (InOrder daemon label) :=
  match label with
  | .act index _ _ =>
    inferInstanceAs (Decidable (∀ task ∈ daemon.tasks[index]?, ∀ action ∈ task.todo.head?, ∀ socket ∈ action.targets,
      ∀ earlier ∈ daemon.tasks.take index, socket ∉ earlier.targets))
  | .queue _ _ | .spawn _ | .elapse _ | .process _ => isTrue trivial

/-- How far the batches have got with one session: those from `first` on cover it,
and it was sent one update of each of them up to the one that is due. -/
structure Delivered (config : Config S) (daemon : Daemon S) (i first : Nat) : Prop where
  started : first < daemon.tasks.length
  covers : ∀ k task, daemon.tasks[k]? = some task → (i < task.batch.leaves.length ↔ first ≤ k)
  bounded : first + (daemon.sent i).length ≤ daemon.tasks.length
  pending : ∀ k task, daemon.tasks[k]? = some task → (i ∈ task.targets ↔ first + (daemon.sent i).length ≤ k)
  serves : ∀ j update, (daemon.sent i)[j]? = some update → ∃ task session,
    daemon.tasks[first + j]? = some task ∧ daemon.queued[i]? = some session ∧ session.socket = i ∧
      Serves config task.batch session update
  silent : ∀ k task, daemon.tasks[k]? = some task → first + (daemon.sent i).length < k →
    ∀ update ∈ task.sends i, update.devRes = none
  stored : ∀ session, daemon.state.active[i]? = some session → session.response =
    lastResponse (daemon.sent i ++ ((daemon.tasks[first + (daemon.sent i).length]?.map fun task =>
      task.sends i).getD []))

variable {config : Config S} {daemon next : Daemon S} {i first index : Nat}

theorem set_cases {α : Type} {items : List α} {k : Nat} {new other : α}
    (there : (items.set index new)[k]? = some other) :
    (k = index ∧ other = new) ∨ (k ≠ index ∧ items[k]? = some other) := by
  by_cases here : index = k
  · subst here
    have inside := (List.getElem?_eq_some_iff.mp there).1
    rw [List.length_set] at inside
    rw [List.getElem?_set_self inside] at there
    exact Or.inl ⟨rfl, (Option.some.inj there).symm⟩
  · rw [List.getElem?_set_ne here] at there
    exact Or.inr ⟨Ne.symm here, there⟩

theorem sent_concat (daemon : Daemon S) (socket : Nat) (update : Update S) (tasks : List (Task S)) :
    ({ daemon with outbox := daemon.outbox ++ [(socket, update)], tasks } : Daemon S).sent i =
      daemon.sent i ++ if socket = i then [update] else [] := by
  simp only [Daemon.sent, List.filter_append, List.map_append]
  by_cases here : socket = i <;> simp [here]

/-- In order, the task that serves a session is the one that is due. -/
theorem Delivered.turn (delivered : Delivered config daemon i first) {now : Nat → Duration} {draw : Nat → Draw S}
    (inOrder : InOrder daemon (.act index now draw)) {task : Task S} {action : Action S} {rest : List (Action S)}
    (found : daemon.tasks[index]? = some task) (todo : task.todo = action :: rest) (served : i ∈ action.targets) :
    index = first + (daemon.sent i).length := by
  have waits : i ∈ task.targets := by
    rw [Task.targets_cons todo]
    exact List.mem_append_left _ served
  have low := (delivered.pending index task found).mp waits
  by_contra late
  have inside := (List.getElem?_eq_some_iff.mp found).1
  have due : first + (daemon.sent i).length < daemon.tasks.length := by omega
  have earlier := (delivered.pending _ _ (List.getElem?_eq_getElem due)).mpr (Nat.le_refl _)
  refine inOrder task found action (by rw [todo]; rfl) i served _ ?_ earlier
  rw [List.mem_take_iff_getElem]
  exact ⟨_, by omega, rfl⟩

/-- A step of a task that does not serve the session leaves it where it is. -/
theorem Delivered.other (delivered : Delivered config daemon i first) {task task' : Task S}
    (found : daemon.tasks[index]? = some task) (tasks : next.tasks = daemon.tasks.set index task')
    (batch : task'.batch = task.batch) (targets : i ∈ task'.targets ↔ i ∈ task.targets)
    (sends : task'.sends i = task.sends i) (sent : next.sent i = daemon.sent i)
    (queued : next.queued = daemon.queued) (active : next.state.active[i]? = daemon.state.active[i]?) :
    Delivered config next i first := by
  have inside := (List.getElem?_eq_some_iff.mp found).1
  -- No task looks different from connection `i`, whichever of them moved.
  have back : ∀ (k : Nat) (other : Task S), next.tasks[k]? = some other → ∃ old : Task S, daemon.tasks[k]? = some old ∧
      other.batch = old.batch ∧ (i ∈ other.targets ↔ i ∈ old.targets) ∧ other.sends i = old.sends i := by
    intro k other there
    rw [tasks] at there
    rcases set_cases there with ⟨rfl, rfl⟩ | ⟨-, before⟩
    · exact ⟨task, found, batch, targets, sends⟩
    · exact ⟨other, before, rfl, Iff.rfl, rfl⟩
  have length : next.tasks.length = daemon.tasks.length := by rw [tasks, List.length_set]
  refine ⟨?started, ?covers, ?bounded, ?pending, ?serves, ?silent, ?stored⟩
  case started =>
    rw [length]
    exact delivered.started
  case covers =>
    intro k other there
    obtain ⟨old, before, same, -, -⟩ := back k other there
    rw [same]
    exact delivered.covers k old before
  case bounded =>
    rw [sent, length]
    exact delivered.bounded
  case pending =>
    intro k other there
    obtain ⟨old, before, -, same, -⟩ := back k other there
    rw [same, sent]
    exact delivered.pending k old before
  case serves =>
    rw [sent, queued]
    intro j update written
    obtain ⟨old, session, before, registered, socket, serves⟩ := delivered.serves j update written
    by_cases here : index = first + j
    · subst here
      obtain rfl := Option.some.inj (found.symm.trans before)
      refine ⟨task', session, ?_, registered, socket, batch ▸ serves⟩
      rw [tasks, List.getElem?_set_self inside]
    · refine ⟨old, session, ?_, registered, socket, serves⟩
      rw [tasks, List.getElem?_set_ne here]
      exact before
  case silent =>
    intro k other there
    obtain ⟨old, before, -, -, same⟩ := back k other there
    rw [same, sent]
    exact delivered.silent k old before
  case stored =>
    intro session there
    rw [active] at there
    rw [sent, delivered.stored session there]
    congr 2
    generalize first + (daemon.sent i).length = due
    rw [tasks]
    by_cases here : index = due
    · subst here
      rw [List.getElem?_set_self inside, found, Option.map_some, Option.map_some, sends]
    · rw [List.getElem?_set_ne here]

/-- The due task has written its update to the session. -/
theorem Delivered.send (delivered : Delivered config daemon i first) (owes : ∀ task ∈ daemon.tasks,
    Owes config daemon.queued task) {task : Task S} {update : Update S} {rest : List (Action S)}
    (found : daemon.tasks[first + (daemon.sent i).length]? = some task) (todo : task.todo = .send i update :: rest) :
    Delivered config
      { daemon with
        outbox := daemon.outbox ++ [(i, update)]
        tasks := daemon.tasks.set (first + (daemon.sent i).length) { task with todo := rest } } i first := by
  have owed := owes task (List.mem_of_getElem? found)
  have inside := (List.getElem?_eq_some_iff.mp found).1
  have sent := sent_concat (i := i) daemon i update
    (daemon.tasks.set (first + (daemon.sent i).length) { task with todo := rest })
  rw [if_pos rfl] at sent
  have length : (daemon.sent i ++ [update]).length = (daemon.sent i).length + 1 := List.length_append
  -- A task writes to a connection once, so what remains of it leaves `i` alone.
  have once : i ∉ ({ task with todo := rest } : Task S).targets := by
    have distinct := owed.distinct
    rw [Task.targets_cons todo] at distinct
    exact (List.nodup_cons.mp distinct).1
  have written : task.sends i = [update] := by
    rw [Task.sends, todo, List.filterMap_cons, toward_targets once]
    simp only [Action.toward, if_true]
  refine ⟨?started, ?covers, ?bounded, ?pending, ?serves, ?silent, ?stored⟩
  case started =>
    rw [List.length_set]
    exact delivered.started
  case covers =>
    intro k other there
    rcases set_cases there with ⟨rfl, rfl⟩ | ⟨-, before⟩
    · exact delivered.covers _ task found
    · exact delivered.covers k other before
  case bounded =>
    rw [sent, length, List.length_set]
    omega
  case pending =>
    intro k other there
    rw [sent, length]
    rcases set_cases there with ⟨rfl, rfl⟩ | ⟨elsewhere, before⟩
    · exact ⟨fun again => absurd again once, fun later => by omega⟩
    · rw [delivered.pending k other before]
      omega
  case serves =>
    intro j sentUpdate written
    rw [sent] at written
    by_cases new : j = (daemon.sent i).length
    · subst new
      rw [List.getElem?_concat_length] at written
      obtain rfl := Option.some.inj written
      obtain ⟨session, registered, socket, serves⟩ := owed.sends i update (todo ▸ List.mem_cons_self)
      refine ⟨{ task with todo := rest }, session, ?_, registered, socket, serves⟩
      exact List.getElem?_set_self inside
    · have old : j < (daemon.sent i).length := by
        have bound := (List.getElem?_eq_some_iff.mp written).1
        omega
      rw [List.getElem?_append_left old] at written
      obtain ⟨other, session, before, rest⟩ := delivered.serves j sentUpdate written
      refine ⟨other, session, ?_, rest⟩
      exact (List.getElem?_set_ne (by omega)).trans before
  case silent =>
    intro k other there late
    rw [sent, length] at late
    refine delivered.silent k other ?_ (by omega)
    rw [← there]
    exact (List.getElem?_set_ne (by omega)).symm
  case stored =>
    intro session there
    have before := delivered.stored session there
    rw [found, Option.map_some, Option.getD_some, written] at before
    rw [before, sent, length, ← Nat.add_assoc, List.getElem?_set_ne (by omega)]
    refine (lastResponse_silent ?_ _).symm
    cases next : daemon.tasks[first + (daemon.sent i).length + 1]? with
    | none => exact fun _ absent => by cases absent
    | some other => exact delivered.silent _ other next (by omega)

/-- The due task has stored its response for the session and is about to write it. -/
theorem Delivered.respond (delivered : Delivered config daemon i first) (owes : ∀ task ∈ daemon.tasks,
    Owes config daemon.queued task) {task : Task S} {snapshots : List (AttesterSnapshot S)} {rest : List (Action S)}
    {computed : List (ComputedResponse S)} (found : daemon.tasks[first + (daemon.sent i).length]? = some task)
    (todo : task.todo = .respond snapshots :: rest)
    (answers : List.Forall₂ (Computed config task.batch) snapshots computed)
    (asked : i ∈ snapshots.map fun snapshot => snapshot.2.socket) :
    Delivered config
      { daemon with
        state := { daemon.state with active := storeResponses daemon.state.active computed }
        tasks := daemon.tasks.set (first + (daemon.sent i).length)
          { task with todo := sendJobs task.batch.publicContext computed ++ rest } } i first := by
  have owed := owes task (List.mem_of_getElem? found)
  have owed' := owed.respond todo answers
  have inside := (List.getElem?_eq_some_iff.mp found).1
  obtain ⟨indices, distinct⟩ := owed.indices todo answers
  have sockets : computed.map (fun result => result.socket) = computed.map (fun result => result.index) := by
    have jobs := sendJobs_targets answers
    rw [sendJobs, List.flatMap_map] at jobs
    rw [indices, ← jobs]
    exact List.map_eq_flatMap
  have same : ({ task with todo := sendJobs task.batch.publicContext computed ++ rest } : Task S).targets =
      task.targets := by
    rw [Task.targets_cons todo, Task.targets, List.flatMap_append, sendJobs_targets answers]
    rfl
  -- `i` is asked about in this step only, and its answer replaces the question.
  have once : i ∉ rest.flatMap Action.targets := by
    have apart := owed.distinct
    rw [Task.targets_cons todo] at apart
    exact fun again => (List.nodup_append.mp apart).2.2 i asked i again rfl
  obtain ⟨result, member, here⟩ : ∃ result ∈ computed, result.index = i := by
    rw [← indices] at asked
    exact List.mem_map.mp asked
  have socket : result.socket = i := by
    obtain ⟨snapshot, inside, answered⟩ := mem_sendJobs answers member
    have asks := owed.responds snapshots (todo ▸ List.mem_cons_self) snapshot inside
    rw [answered.socket, asks.socket, ← answered.index, here]
  have nothing : task.sends i = [] := by
    rw [Task.sends, todo, List.filterMap_cons, toward_targets once]
    rfl
  have something : ({ task with todo := sendJobs task.batch.publicContext computed ++ rest } : Task S).sends i =
      [.response result.response task.batch.publicContext result.encrypted] := by
    rw [Task.sends, List.filterMap_append, toward_targets once, List.append_nil, ← socket]
    exact toward_sendJobs _ (sockets ▸ distinct) member
  refine ⟨?started, ?covers, ?bounded, ?pending, ?serves, ?silent, ?stored⟩
  case started =>
    rw [List.length_set]
    exact delivered.started
  case covers =>
    intro k other there
    rcases set_cases there with ⟨rfl, rfl⟩ | ⟨-, before⟩
    · exact delivered.covers _ task found
    · exact delivered.covers k other before
  case bounded =>
    rw [List.length_set]
    exact delivered.bounded
  case pending =>
    intro k other there
    rcases set_cases there with ⟨rfl, rfl⟩ | ⟨-, before⟩
    · rw [same]
      exact delivered.pending _ task found
    · exact delivered.pending k other before
  case serves =>
    intro j sentUpdate written
    obtain ⟨other, session, before, rest⟩ := delivered.serves j sentUpdate written
    refine ⟨other, session, ?_, rest⟩
    have bound := (List.getElem?_eq_some_iff.mp written).1
    exact (List.getElem?_set_ne (by change j < (daemon.sent i).length at bound; omega)).trans before
  case silent =>
    intro k other there late
    refine delivered.silent k other ?_ late
    rw [← there]
    exact (List.getElem?_set_ne (by change first + (daemon.sent i).length < k at late; omega)).symm
  case stored =>
    intro stored there
    subst here
    rw [show ({ daemon with
        state := { daemon.state with active := storeResponses daemon.state.active computed }
        tasks := daemon.tasks.set (first + (daemon.sent result.index).length)
          { task with todo := sendJobs task.batch.publicContext computed ++ rest } } : Daemon S).sent result.index =
        daemon.sent result.index from rfl, List.getElem?_set_self inside, Option.map_some, Option.getD_some, something,
      lastResponse_concat]
    rw [storeResponses_at distinct member, Option.map_eq_some_iff] at there
    obtain ⟨session, -, rfl⟩ := there
    rfl

end Order

section Runs
variable {S : Suite} {config : Config S} {daemon next : Daemon S} {i first : Nat}

/-- The batch of a critical section is due after the others. -/
theorem Delivered.append (delivered : Delivered config daemon i first) {batch : Batch S}
    (tasks : next.tasks = daemon.tasks ++ [⟨batch, batch.todo config⟩]) (sent : next.sent i = daemon.sent i)
    (queued : next.queued = daemon.queued) (active : next.state.active[i]? = daemon.state.active[i]?)
    (covers : i < batch.leaves.length) (targets : i ∈ (⟨batch, batch.todo config⟩ : Task S).targets) :
    Delivered config next i first := by
  have length : next.tasks.length = daemon.tasks.length + 1 := by rw [tasks, List.length_append, List.length_singleton]
  have started := delivered.started
  have bounded := delivered.bounded
  have back : ∀ (k : Nat) (other : Task S), next.tasks[k]? = some other →
      daemon.tasks[k]? = some other ∨ (k = daemon.tasks.length ∧ other = ⟨batch, batch.todo config⟩) := by
    intro k other there
    rw [tasks] at there
    exact (concat_cases there).imp_left And.right
  refine ⟨by omega, ?covers, by rw [sent]; omega, ?pending, ?serves, ?silent, ?stored⟩
  case covers =>
    intro k other there
    rcases back k other there with old | ⟨rfl, rfl⟩
    · exact delivered.covers k other old
    · exact ⟨fun _ => by omega, fun _ => covers⟩
  case pending =>
    intro k other there
    rw [sent]
    rcases back k other there with old | ⟨rfl, rfl⟩
    · exact delivered.pending k other old
    · exact ⟨fun _ => bounded, fun _ => targets⟩
  case serves =>
    rw [sent, queued]
    intro j update written
    obtain ⟨other, session, before, rest⟩ := delivered.serves j update written
    refine ⟨other, session, ?_, rest⟩
    rw [tasks, List.getElem?_append_left (List.getElem?_eq_some_iff.mp before).1]
    exact before
  case silent =>
    intro k other there late
    rw [sent] at late
    rcases back k other there with old | ⟨rfl, rfl⟩
    · exact delivered.silent k other old late
    · exact batch.todo_silent config i
  case stored =>
    intro session there
    rw [active] at there
    rw [sent, delivered.stored session there]
    -- Where nothing else is due, the new batch is, and it has not answered yet.
    by_cases due : first + (daemon.sent i).length < daemon.tasks.length
    · rw [tasks, List.getElem?_append_left due]
    · obtain last : first + (daemon.sent i).length = daemon.tasks.length := by omega
      rw [last, tasks, List.getElem?_concat_length, List.getElem?_eq_none (Nat.le_refl _)]
      simp only [Option.map_none, Option.getD_none, List.append_nil, Option.map_some, Option.getD_some]
      exact (lastResponse_silent (batch.todo_silent config i) _).symm

/-- A session that was just activated is served by the newest batch first. -/
theorem Tended.start (tended : Tended config daemon) {batch : Batch S}
    (tasks : next.tasks = daemon.tasks ++ [⟨batch, batch.todo config⟩]) (outbox : next.outbox = daemon.outbox)
    (active : next.state.active = daemon.state.active ++ daemon.state.pending)
    (new : daemon.state.active.length ≤ i) (covers : i < batch.leaves.length)
    (targets : i ∈ (⟨batch, batch.todo config⟩ : Task S).targets) :
    Delivered config next i daemon.tasks.length := by
  have length : next.tasks.length = daemon.tasks.length + 1 := by rw [tasks, List.length_append, List.length_singleton]
  have nothing : next.sent i = [] := by
    rw [Daemon.sent, outbox, List.map_eq_nil_iff, List.filter_eq_nil_iff]
    intro entry written
    have served := tended.outbox entry written
    simp only [decide_eq_true_eq]
    omega
  -- Every earlier batch was cut before session `i` existed.
  have old : ∀ (k : Nat) (other : Task S), next.tasks[k]? = some other → k < daemon.tasks.length →
      ¬ i < other.batch.leaves.length ∧ i ∉ other.targets := by
    intro k other there below
    rw [tasks, List.getElem?_append_left below] at there
    have member := List.mem_of_getElem? there
    have outside : ¬ i < other.batch.leaves.length := by
      have := tended.within member
      omega
    exact ⟨outside, fun served => outside ((tended.owes other member).inside i served)⟩
  have last : ∀ (k : Nat) (other : Task S), next.tasks[k]? = some other → daemon.tasks.length ≤ k →
      other = ⟨batch, batch.todo config⟩ := by
    intro k other there above
    rw [tasks] at there
    rcases concat_cases there with ⟨below, -⟩ | ⟨-, newest⟩
    · omega
    · exact newest
  refine ⟨by omega, ?covers, by simp [nothing, length], ?pending, ?serves, ?silent, ?stored⟩
  case covers =>
    intro k other there
    by_cases below : k < daemon.tasks.length
    · exact ⟨fun inside => absurd inside (old k other there below).1, fun above => by omega⟩
    · rw [last k other there (by omega)]
      exact ⟨fun _ => by omega, fun _ => covers⟩
  case pending =>
    intro k other there
    rw [nothing]
    by_cases below : k < daemon.tasks.length
    · exact ⟨fun served => absurd served (old k other there below).2, fun above => by
        rw [List.length_nil] at above
        omega⟩
    · rw [last k other there (by omega)]
      exact ⟨fun _ => by rw [List.length_nil]; omega, fun _ => targets⟩
  case serves =>
    rw [nothing]
    exact fun j update absent => by cases absent
  case silent =>
    intro k other there late
    rw [nothing, List.length_nil] at late
    rw [last k other there (by omega)]
    exact batch.todo_silent config i
  case stored =>
    intro session there
    rw [active, List.getElem?_append_right new] at there
    rw [tended.waiting session (List.mem_of_getElem? there), nothing, List.length_nil, Nat.add_zero, tasks,
      List.getElem?_concat_length, Option.map_some, Option.getD_some, lastResponse_silent (batch.todo_silent config i)]
    rfl

variable (trips : S.RoundTrips) (cipher : S.CipherComplete)
include trips cipher

theorem Delivered.act (delivered : Delivered config daemon i first) (tended : Tended config daemon) {index : Nat}
    {now : Nat → Duration} {draw : Nat → Draw S} (inOrder : InOrder daemon (.act index now draw))
    (stepped : step config daemon (.act index now draw) = some next) : Delivered config next i first := by
  obtain ⟨task, action, rest, found, todo, moved⟩ := step_act stepped
  have owes := tended.owes task (List.mem_of_getElem? found)
  cases action with
  | respond snapshots =>
    obtain ⟨computed, answers, outcome⟩ := act_respond trips cipher owes todo now draw daemon index
    obtain ⟨indices, distinct⟩ := owes.indices todo answers
    have jobs := sendJobs_targets answers
    rw [outcome] at moved
    subst moved
    by_cases asked : i ∈ snapshots.map fun snapshot => snapshot.2.socket
    · obtain rfl := delivered.turn inOrder found todo asked
      exact delivered.respond tended.owes found todo answers asked
    · refine delivered.other found rfl rfl ?_ ?_ rfl rfl ?_
      · rw [Task.targets_cons todo, Task.targets, List.flatMap_append, jobs]
        rfl
      · rw [Task.sends, Task.sends, todo, List.filterMap_append, List.filterMap_cons,
          toward_targets (by rw [jobs]; exact asked)]
        rfl
      · apply storeResponses_other
        intro result member here
        rw [← indices] at asked
        exact asked (List.mem_map.mpr ⟨result, member, here⟩)
  | send socket update =>
    subst moved
    by_cases here : socket = i
    · subst here
      obtain rfl := delivered.turn inOrder found todo (List.mem_singleton_self socket)
      exact delivered.send tended.owes found todo
    · refine delivered.other found rfl rfl ?_ ?_ ?_ rfl rfl
      · rw [Task.targets_cons todo]
        simp [Action.targets, Task.targets, Ne.symm here]
      · rw [Task.sends, Task.sends, todo, List.filterMap_cons]
        simp only [Action.toward, if_neg here]
      · exact (sent_concat daemon socket update _).trans (by rw [if_neg here, List.append_nil])
  | publish addr =>
    subst moved
    refine delivered.other found rfl rfl ?_ ?_ rfl rfl rfl
    · rw [Task.targets_cons todo]
      rfl
    · rw [Task.sends, Task.sends, todo, List.filterMap_cons]
      rfl

/-- One step in order keeps every session in step with the batches. -/
theorem Delivered.step (tended : Tended config daemon)
    (delivered : ∀ i < daemon.state.active.length, ∃ first, Delivered config daemon i first) {label : Label S}
    (inOrder : InOrder daemon label) (stepped : step config daemon label = some next) :
    ∀ i < next.state.active.length, ∃ first, Delivered config next i first := by
  intro i inside
  cases label with
  | queue devInfor attesterAddr =>
    -- A queued attester changes no active session, whether a timer is started or not.
    have kept : ∀ {first : Nat}, Delivered config daemon i first → ∀ state timers, state.active = daemon.state.active →
        Delivered config { daemon with
          state, timers
          queued := daemon.queued ++ [newSession daemon.queued.length devInfor attesterAddr] } i first := by
      intro first old state timers same
      refine ⟨old.started, old.covers, old.bounded, old.pending, ?_, old.silent, same ▸ old.stored⟩
      intro j update written
      obtain ⟨task, session, there, registered, rest⟩ := old.serves j update written
      exact ⟨task, session, there,
        (List.getElem?_append_left (List.getElem?_eq_some_iff.mp registered).1).trans registered, rest⟩
    simp only [Verifier.step, queueAttester] at stepped
    split at stepped <;> obtain rfl := Option.some.inj stepped
    · obtain ⟨first, old⟩ := delivered i inside
      exact ⟨first, kept old _ _ rfl⟩
    · obtain ⟨first, old⟩ := delivered i inside
      exact ⟨first, kept old _ _ rfl⟩
  | spawn timer | elapse timer =>
    simp only [Verifier.step, Option.ite_none_right_eq_some] at stepped
    obtain rfl := Option.some.inj stepped.2
    obtain ⟨first, old⟩ := delivered i inside
    exact ⟨first, ⟨old.started, old.covers, old.bounded, old.pending, old.serves, old.silent, old.stored⟩⟩
  | process timer =>
    obtain ⟨outbox, queued, ⟨tasks, state⟩ | ⟨batch, tasks, -, active, -, formed⟩⟩ :=
      process_cases tended.accounted stepped
    · rw [state] at inside
      obtain ⟨first, old⟩ := delivered i inside
      have sent : next.sent i = daemon.sent i := by rw [Daemon.sent, outbox, Daemon.sent]
      refine ⟨first, ?_, ?_, ?_, ?_, ?_, ?_, ?_⟩ <;> (first | rw [sent, tasks, queued] | rw [sent, tasks, state] | rw [sent, tasks] | rw [tasks])
      · exact old.started
      · exact old.covers
      · exact old.bounded
      · exact old.pending
      · exact old.serves
      · exact old.silent
      · exact old.stored
    · have numbered : ∀ (i : Nat) (session : AttesterSession S),
          (daemon.state.active ++ daemon.state.pending)[i]? = some session → session.socket = i :=
        fun _ _ found => tended.accounted.socket found
      have targets := (formed.targets_perm config numbered).mem_iff (a := i)
      rw [active] at inside
      have covers : i < batch.leaves.length := by
        rw [formed.leaves_length]
        exact inside
      have served := targets.mpr (List.mem_range.mpr inside)
      -- A session that was active before gets one more batch, and a new one gets its first.
      by_cases old : i < daemon.state.active.length
      · obtain ⟨first, before⟩ := delivered i old
        refine ⟨first, before.append tasks ?_ queued ?_ covers served⟩
        · rw [Daemon.sent, outbox, Daemon.sent]
        · rw [active, List.getElem?_append_left old]
      · exact ⟨_, tended.start tasks outbox active (Nat.le_of_not_lt old) covers served⟩
  | act index now draw =>
    -- Actions of a task change what sessions hold, never how many there are.
    have length : next.state.active.length = daemon.state.active.length := by
      obtain ⟨task, action, rest, -, -, moved⟩ := step_act stepped
      obtain ⟨active, state, -, -, blind⟩ := act_frame moved
      have units := congrArg List.length (blind (fun _ => ()) fun _ _ => rfl)
      rw [state]
      simpa using units
    rw [length] at inside
    obtain ⟨first, old⟩ := delivered i inside
    exact ⟨first, old.act trips cipher tended inOrder stepped⟩

theorem Reached.delivered
    (reached : Runs.Reaches (Verifier.step config) InOrder (Daemon.init S) daemon) :
    ∀ i < daemon.state.active.length, ∃ first, Delivered config daemon i first := by
  have run := reached.with_invariant init_tended fun _ _ _ tended _ stepped => tended.step trips cipher stepped
  refine run.invariant (I := fun daemon => ∀ i < daemon.state.active.length, ∃ first, Delivered config daemon i first)
    (fun i absent => absurd absent (Nat.not_lt_zero i)) ?_
  rintro before label after delivered ⟨tended, inOrder⟩ stepped
  exact Delivered.step trips cipher tended delivered inOrder stepped

end Runs

end UnifiedAttestation.Verifier
