import TableExchange.Interactive.Channel
import TableExchange.Proofs.Service.Journal

/-!
Journals of what an instance service was asked, and what one read, one write and one check of a task
can do. Keeping a journal changes no answer and no wait.
-/
namespace TableExchange

variable {σ ε : Type}

inductive TaskEvent
  | creating (request : InstanceRequest) (answer : Except Failure InstanceId)
  | reading (id : InstanceId) (task key : String) (answer : Except Failure (Option String))
  | writing (id : InstanceId) (task key value : String) (answer : Except Failure String)
  | checking (id : InstanceId) (task : String) (answer : Except Failure (Option TaskStatus))
  | explaining (id : InstanceId) (task : String) (answer : Except Failure (Option String))
  | stopping (id : InstanceId) (answer : Except Failure Unit)
  | viewing (id : InstanceId) (answer : Except Failure (Option String))

def TaskEvent.failure : TaskEvent → Option Failure
  | creating _ (.error f) | reading _ _ _ (.error f) | writing _ _ _ _ (.error f)
  | checking _ _ (.error f) | explaining _ _ (.error f) | stopping _ (.error f)
  | viewing _ (.error f) => some f
  | _ => none

def InstanceService.journaled (svc : InstanceService σ) :
    InstanceService (σ × List TaskEvent) where
  createInstance r := noted (.creating r) (svc.createInstance r)
  taskInfo i task key := noted (.reading i task key) (svc.taskInfo i task key)
  setTaskInfo i task key value :=
    noted (.writing i task key value) (svc.setTaskInfo i task key value)
  taskStatus i task := noted (.checking i task) (svc.taskStatus i task)
  taskResult i task := noted (.explaining i task) (svc.taskResult i task)
  stopInstance i := noted (.stopping i) (svc.stopInstance i)
  logView i := noted (.viewing i) (svc.logView i)

namespace Exchange

@[simp] theorem plain_sleep (y : Exchange (σ × List ε)) (r : Shutdown.Receiver) (span : Nat) :
    y.plain.sleep r span =
      ((y.sleep r span).1, (y.sleep r span).2.1, (y.sleep r span).2.2.plain) := by
  unfold sleep
  have hshutdown : y.plain.shutdown = y.shutdown := rfl
  have halarm : y.plain.alarmBefore? (y.plain.now + span) = y.alarmBefore? (y.now + span) := rfl
  rw [hshutdown, halarm]
  split
  · rfl
  · cases y.alarmBefore? (y.now + span) <;> rfl

theorem service_sleep (x : Exchange σ) (r : Shutdown.Receiver) (span : Nat) :
    (x.sleep r span).2.2.service = x.service := by
  unfold sleep
  split
  · rfl
  · cases x.alarmBefore? (x.now + span) <;> rfl

@[simp] theorem journal_sleep (y : Exchange (σ × List ε)) (r : Shutdown.Receiver) (span : Nat) :
    (y.sleep r span).2.2.journal = y.journal := by
  unfold sleep
  split
  · rfl
  · cases y.alarmBefore? (y.now + span) <;> rfl

/-- A wait that is not cut short lasts its whole span: no signal is pending and none comes. -/
theorem sleep_through {x x' : Exchange σ} {r r' : Shutdown.Receiver} {span : Nat}
    (h : x.sleep r span = (false, r', x')) :
    r' = r ∧ x' = { x with now := x.now + span } ∧ r.hasUnseen x.shutdown = false ∧
      x.alarmBefore? (x.now + span) = none := by
  unfold sleep at h
  split at h
  · simp at h
  · next hunseen =>
    cases halarm : x.alarmBefore? (x.now + span) with
    | some alarm => simp [halarm] at h
    | none =>
      simp only [halarm, Prod.mk.injEq, true_and] at h
      exact ⟨h.1.symm, h.2.symm, by simpa using hunseen, rfl⟩

end Exchange

namespace TaskChannel

def reading (c : TaskChannel) (key : String) : Except Failure (Option String) → TaskEvent :=
  .reading c.instanceId c.taskName key

def writing (c : TaskChannel) (key value : String) : Except Failure String → TaskEvent :=
  .writing c.instanceId c.taskName key value

def checking (c : TaskChannel) : Except Failure (Option TaskStatus) → TaskEvent :=
  .checking c.instanceId c.taskName

/-- A request for the result of a task that has ended. -/
def explaining (c : TaskChannel) : Except Failure (Option String) → TaskEvent :=
  .explaining c.instanceId c.taskName

def meaning (key : String) : Except Failure (Option String) → Except Failure (Option TaskPayload)
  | .error f => .error f
  | .ok text => decode key text

/-- A read that was answered but brought no status. -/
def Silent (key : String) (answer : Except Failure (Option String)) : Prop :=
  ∃ payload, meaning key answer = .ok payload ∧ payload.bind (·.status) = none

end TaskChannel

/-- The payload with a status that a read brought. -/
def TaskEvent.carried : TaskEvent → Option TaskPayload
  | reading _ _ key answer =>
    (TaskChannel.meaning key answer).toOption.join.filter (·.status.isSome)
  | _ => none

namespace TaskChannel

@[simp] theorem carried_checking (c : TaskChannel) (answer : Except Failure (Option TaskStatus)) :
    (c.checking answer).carried = none := rfl

theorem carried_unread {c : TaskChannel} {key : String} {answer : Except Failure (Option String)}
    {f : Failure} (h : meaning key answer = .error f) : (c.reading key answer).carried = none := by
  simp only [reading, TaskEvent.carried, h]
  rfl

theorem carried_silent {c : TaskChannel} {key : String} {answer : Except Failure (Option String)}
    (h : Silent key answer) : (c.reading key answer).carried = none := by
  obtain ⟨payload, hmeaning, hstatus⟩ := h
  simp only [reading, TaskEvent.carried, hmeaning]
  cases payload with
  | none => rfl
  | some payload =>
    have hnone : payload.status = none := hstatus
    simp [Except.toOption, hnone]

theorem carried_status {c : TaskChannel} {key : String} {answer : Except Failure (Option String)}
    {payload : TaskPayload} {status : ObjectStatus} (h : meaning key answer = .ok (some payload))
    (hstatus : payload.status = some status) : (c.reading key answer).carried = some payload := by
  simp only [reading, TaskEvent.carried, h]
  simp [Except.toOption, hstatus]

/-- A text that cannot be read is a deserialization failure. -/
theorem decode_error {key : String} {text : Option String} {f : Failure}
    (h : decode key text = .error f) : f.kind = .deserialization := by
  unfold decode at h
  split at h
  · simp at h
  · split at h
    · simp at h
    · split at h
      · simp at h
      · obtain rfl := Except.error.inj h
        rfl

/-- A read fails with the service's failure, or because its text cannot be read. -/
theorem meaning_error {c : TaskChannel} {key : String} {answer : Except Failure (Option String)}
    {f : Failure} (h : meaning key answer = .error f) :
    (c.reading key answer).failure = some f ∨ f.kind = .deserialization := by
  cases answer with
  | error g =>
    obtain rfl : g = f := Except.error.inj h
    exact .inl rfl
  | ok text => exact .inr (decode_error h)

theorem read_eq (svc : InstanceService σ) (c : TaskChannel) (key : String) (x : Exchange σ) :
    c.read svc key x =
      (meaning key ((x.count (.channelReads c.instanceId.id key) 1).ask
          (svc.taskInfo c.instanceId c.taskName key)).1,
        ((x.count (.channelReads c.instanceId.id key) 1).ask
          (svc.taskInfo c.instanceId c.taskName key)).2) := by
  unfold read
  rcases (x.count (.channelReads c.instanceId.id key) 1).ask
    (svc.taskInfo c.instanceId c.taskName key) with ⟨answer, x'⟩
  cases answer <;> rfl

theorem read_plain (svc : InstanceService σ) (c : TaskChannel) (key : String)
    (y : Exchange (σ × List TaskEvent)) : c.read svc key y.plain =
      ((c.read svc.journaled key y).1, (c.read svc.journaled key y).2.plain) := by
  rw [read_eq, read_eq]
  rfl

/-- A read is one request, and it answers what the service's answer means. -/
theorem read_noted (svc : InstanceService σ) (c : TaskChannel) (key : String)
    (y : Exchange (σ × List TaskEvent)) :
    ∃ answer, (c.read svc.journaled key y).2.journal = y.journal ++ [c.reading key answer] ∧
      (c.read svc.journaled key y).1 = meaning key answer := by
  rw [read_eq]
  exact ⟨_, rfl, rfl⟩

theorem send_plain (svc : InstanceService σ) (c : TaskChannel) (key value : String)
    (y : Exchange (σ × List TaskEvent)) : c.send svc key value y.plain =
      ((c.send svc.journaled key value y).1, (c.send svc.journaled key value y).2.plain) := rfl

theorem journal_send (svc : InstanceService σ) (c : TaskChannel) (key value : String)
    (y : Exchange (σ × List TaskEvent)) : (c.send svc.journaled key value y).2.journal =
      y.journal ++ [c.writing key value (c.send svc.journaled key value y).1] := rfl

/-- What a check of the task can do: it is one request, and a second one if the task has ended. -/
inductive Checked (c : TaskChannel) : List TaskEvent → Except Failure Unit → Prop
  | unchecked {f : Failure} : Checked c [c.checking (.error f)] (.error f)
  | alive {state : Option TaskStatus} (halive : ∀ s, state = some s → s.isTerminal = false) :
      Checked c [c.checking (.ok state)] (.ok ())
  | unexplained {s : TaskStatus} {f : Failure} (hdead : s.isTerminal = true) :
      Checked c [c.checking (.ok (some s)), c.explaining (.error f)] (.error f)
  | dead {s : TaskStatus} {result : Option String} (hdead : s.isTerminal = true) :
      Checked c [c.checking (.ok (some s)), c.explaining (.ok result)] (.error (c.ended s result))

theorem checked (svc : InstanceService σ) (c : TaskChannel) (y : Exchange (σ × List TaskEvent)) :
    ∃ events, (c.ensureAlive svc.journaled y).2.journal = y.journal ++ events ∧
      Checked c events (c.ensureAlive svc.journaled y).1 := by
  obtain ⟨answer, y₁, hask, -, hnoted⟩ := y.ask_noted (.checking c.instanceId c.taskName)
    (svc.taskStatus c.instanceId c.taskName)
  simp only [ensureAlive, InstanceService.journaled, hask]
  match answer with
  | .error f => exact ⟨_, hnoted, .unchecked⟩
  | .ok none => exact ⟨_, hnoted, .alive (by simp)⟩
  | .ok (some s) =>
    cases hs : s.isTerminal with
    | false =>
      simp only [hs, Bool.false_eq_true, if_false]
      exact ⟨_, hnoted, .alive (by simpa using hs)⟩
    | true =>
      simp only [hs, if_true]
      obtain ⟨result, y₂, hask₁, -, hnoted₁⟩ := y₁.ask_noted
        (.explaining c.instanceId c.taskName) (svc.taskResult c.instanceId c.taskName)
      simp only [hask₁]
      have hboth : y₂.journal =
          y.journal ++ [c.checking (.ok (some s)), c.explaining result] := by
        rw [hnoted₁, hnoted, List.append_assoc]
        rfl
      cases result with
      | error f => exact ⟨_, hboth, .unexplained hs⟩
      | ok result => exact ⟨_, hboth, .dead hs⟩

theorem ensureAlive_plain (svc : InstanceService σ) (c : TaskChannel)
    (y : Exchange (σ × List TaskEvent)) : c.ensureAlive svc y.plain =
      ((c.ensureAlive svc.journaled y).1, (c.ensureAlive svc.journaled y).2.plain) := by
  unfold ensureAlive
  simp only [InstanceService.journaled, Exchange.ask_plain y (.checking c.instanceId c.taskName)]
  rcases y.ask (noted (.checking c.instanceId c.taskName)
    (svc.taskStatus c.instanceId c.taskName)) with ⟨answer, y₁⟩
  match answer with
  | .error f => rfl
  | .ok none => rfl
  | .ok (some s) =>
    cases hs : s.isTerminal with
    | false => simp [hs]
    | true =>
      simp only [hs, if_true, Exchange.ask_plain y₁ (.explaining c.instanceId c.taskName)]
      rcases y₁.ask (noted (.explaining c.instanceId c.taskName)
        (svc.taskResult c.instanceId c.taskName)) with ⟨result, y₂⟩
      cases result <;> rfl

/-- A check fails with the service's failure, or because the task has ended. -/
theorem Checked.fails {c : TaskChannel} {events : List TaskEvent} {f : Failure}
    (h : c.Checked events (.error f)) :
    (∃ e ∈ events, e.failure = some f) ∨ f.kind = .sessionFailed := by
  cases h with
  | unchecked => exact .inl ⟨_, List.mem_singleton_self _, rfl⟩
  | unexplained hdead => exact .inl ⟨_, List.mem_cons_of_mem _ (List.mem_singleton_self _), rfl⟩
  | dead hdead => exact .inr rfl

/-- A check reads no channel. -/
theorem Checked.carried {c : TaskChannel} {events : List TaskEvent} {answer : Except Failure Unit}
    (h : c.Checked events answer) : events.filterMap TaskEvent.carried = [] := by
  cases h <;> rfl

end TaskChannel

/-- A service whose answers to reads are laid down, and whose task runs. After its last answer there
is nothing to read. -/
def InstanceService.taped : InstanceService (List (Except Failure (Option String))) where
  createInstance r tape := (.ok ⟨r.project, "i"⟩, tape)
  taskInfo _ _ _ tape := (tape.headD (.ok none), tape.tail)
  setTaskInfo _ _ _ _ tape := (.ok "", tape)
  taskStatus _ _ tape := (.ok (some .running), tape)
  taskResult _ _ tape := (.ok none, tape)
  stopInstance _ tape := (.ok (), tape)
  logView _ tape := (.ok none, tape)

end TableExchange
