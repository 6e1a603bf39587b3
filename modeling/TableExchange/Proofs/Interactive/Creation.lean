import TableExchange.Memory.Service
import TableExchange.Proofs.Interactive.SessionSteps
import TableExchange.Session.Coordinator

/-!
Creating an interactive session, or attaching to one, on a service that answers in any way. The
instance is created first; a log view that fails, or a start that does, ends the call without a
session for the caller, and the instance is then left as it is.
-/
namespace TableExchange

variable {σ : Type}

def TaskEvent.asksTask : TaskEvent → Bool
  | reading _ _ _ _ | checking _ _ _ | explaining _ _ _ => true
  | _ => false

theorem TaskChannel.Checked.asksTask {c : TaskChannel} {checks : List TaskEvent}
    {answer : Except Failure Unit} (h : c.Checked checks answer) :
    ∀ e ∈ checks, e.asksTask = true := by
  cases h <;> simp [checking, explaining, TaskEvent.asksTask]

namespace InteractiveSession

theorem Probed.asksTask {s s' : InteractiveSession} {events : List TaskEvent}
    {answer : Except Failure Bool} (h : Probed s events answer s') :
    ∀ e ∈ events, e.asksTask = true := by
  cases h with
  | unread hread => exact List.forall_mem_singleton.mpr rfl
  | observed hread hstatus => exact List.forall_mem_singleton.mpr rfl
  | alive hsilent hcheck => exact List.forall_mem_cons.mpr ⟨rfl, hcheck.asksTask⟩
  | halted hsilent hcheck => exact List.forall_mem_cons.mpr ⟨rfl, hcheck.asksTask⟩

theorem Watched.asksTask {s s' : InteractiveSession} {events : List TaskEvent}
    (h : Watched s events s') : ∀ e ∈ events, e.asksTask = true := by
  induction h with
  | start => simp
  | probed _ _ hp ih => exact List.forall_mem_append.mpr ⟨ih, hp.asksTask⟩
  | noticed _ _ ih => exact ih

/-- A failure is that of a request, or says that an answer cannot be read, that the session is over,
or that the wait was cut short. -/
def Explains (events : List TaskEvent) (f : Failure) : Prop :=
  (∃ e ∈ events, e.failure = some f) ∨ f.kind = .deserialization ∨ f.kind = .sessionFailed ∨
    f.kind = .interrupted

theorem Explains.append {events : List TaskEvent} {f : Failure} (h : Explains events f)
    (earlier : List TaskEvent) : Explains (earlier ++ events) f := by
  rcases h with ⟨e, he, hfailure⟩ | hkind
  · exact .inl ⟨e, List.mem_append_right _ he, hfailure⟩
  · exact .inr hkind

section Explains

variable {s s' : InteractiveSession} {events : List TaskEvent} {f : Failure}

theorem Probed.explains (h : Probed s events (.error f) s') : Explains events f := by
  generalize hanswer : Except.error f = answer at h
  cases h with
  | unread hread =>
    obtain rfl := Except.error.inj hanswer
    rcases TaskChannel.meaning_error (c := s.channel) hread with hfailure | hkind
    · exact .inl ⟨_, List.mem_singleton_self _, hfailure⟩
    · exact .inr (.inl hkind)
  | @observed _ payload status hread hstatus =>
    cases status with
    | running => simp [observe] at hanswer
    | other code =>
      simp only [observe, launching] at hanswer
      split at hanswer
      · simp at hanswer
      · split at hanswer
        · simp at hanswer
        · obtain rfl := Except.error.inj hanswer
          exact .inr (.inl rfl)
    | failed | terminated | cancelled =>
      obtain rfl := Except.error.inj hanswer
      exact .inr (.inr (.inl rfl))
  | alive hsilent hcheck => simp at hanswer
  | halted hsilent hcheck =>
    obtain rfl := Except.error.inj hanswer
    rcases hcheck.fails with ⟨e, he, hfailure⟩ | hkind
    · exact .inl ⟨e, List.mem_cons_of_mem _ he, hfailure⟩
    · exact .inr (.inr (.inl hkind))

theorem Asked.explains (h : Asked s events (.error f) s') : Explains events f := by
  generalize hanswer : Except.error f = answer at h
  cases h with
  | runs hphase => simp at hanswer
  | closed hphase =>
    obtain rfl := Except.error.inj hanswer
    exact .inr (.inr (.inl rfl))
  | probed hphase hp =>
    obtain rfl := hanswer
    exact hp.explains

end Explains

/-- A round of a wait asks for what its question asks for. It fails as the question does, or because
it was cut short. -/
theorem waitStep_asks (svc : InstanceService σ) (deadline : Option Nat) (s : InteractiveSession)
    (y : Exchange (σ × List TaskEvent)) :
    (waitStep svc.journaled deadline (s, y)).2.2.journal =
      (s.isStarted svc.journaled y).2.2.journal ∧
    ∀ f, (waitStep svc.journaled deadline (s, y)).1 = some (.error f) →
      (s.isStarted svc.journaled y).1 = .error f ∨ f.kind = .interrupted := by
  have hround := round svc.journaled deadline s y
  refine ⟨?_, ?_⟩
  · obtain ⟨answer, s', y', r, hasked, -, hend⟩ := hround.asked
    rw [hasked]
    rcases hend with hend | ⟨span, -, hend⟩
    · rw [hend]
    · rw [hend, Exchange.journal_sleep]
  · generalize waitStep svc.journaled deadline (s, y) = after at hround
    intro f hf
    cases hround with
    | settled hturn =>
      obtain rfl := Option.some.inj hf
      cases hturn with
      | decided hasked hanswer => exact .inl (by rw [hasked])
    | interrupted hturn hslept =>
      obtain rfl := Except.error.inj (Option.some.inj hf)
      exact .inr rfl
    | paused hturn hslept => simp at hf

/-- A wait fails for a reason that its requests show, or because it was cut short. -/
theorem waitForStart_error (svc : InstanceService σ) (rounds timeoutMs : Nat)
    (s : InteractiveSession) (y : Exchange (σ × List TaskEvent)) :
    ∃ events, (s.waitForStart svc.journaled rounds timeoutMs y).2.2.journal = y.journal ++ events ∧
      ∀ f, (s.waitForStart svc.journaled rounds timeoutMs y).1 = some (.error f) →
        Explains events f := by
  unfold waitForStart
  cases deadline? y.now timeoutMs with
  | none => exact ⟨[], by simp, by simp⟩
  | some deadline =>
    refine settle_keeps
      (Q := fun (o : Option (Except Failure Bool))
          (t : InteractiveSession × Exchange (σ × List TaskEvent)) =>
        ∃ events, t.2.journal = y.journal ++ events ∧
          ∀ f, o = some (.error f) → Explains events f) ?_ rounds (s, y) ?_
    · rintro ⟨s₁, y₁⟩ ⟨events, hjournal, -⟩
      obtain ⟨later, hlater, hasked⟩ := asked svc s₁ y₁
      obtain ⟨hsame, herror⟩ := waitStep_asks svc deadline s₁ y₁
      refine ⟨events ++ later, ?_, ?_⟩
      · rw [hsame, hlater, hjournal, List.append_assoc]
      · intro f hf
        rcases herror f hf with hfailed | hkind
        · rw [hfailed] at hasked
          exact hasked.explains.append events
        · exact .inr (.inr (.inr hkind))
    · exact ⟨[], by simp, by simp⟩

end InteractiveSession

inductive CreationCall
  | create (options : InteractiveOptions)
  | attach (name : String) (settings : Settings) (startTimeoutMs : Option Nat)
      (taskName : Option String)

namespace CreationCall

/-- Makes the call; a wait for the start asks at most `rounds` times. -/
def make (c : Coordinator) (svc : InstanceService σ) (rounds : Nat) :
    CreationCall → Exchange σ → Option (Except Failure InteractiveSession) × Exchange σ
  | create options, x => c.createInteractive svc rounds options x
  | attach name settings startTimeoutMs taskName, x =>
    c.attachInteractive svc rounds name settings startTimeoutMs taskName x

def startTimeoutMs : CreationCall → Option Nat
  | create options => options.startTimeoutMs
  | attach _ _ startTimeoutMs _ => startTimeoutMs

end CreationCall

/-- What a call that creates a session asked for, and its answer. The answer is absent while it
still waits for the start. -/
structure Creation where
  startTimeoutMs : Option Nat
  events : List TaskEvent
  answer : Option (Except Failure InteractiveSession)

def Creation.of (c : Coordinator) (svc : InstanceService σ) (rounds : Nat) (call : CreationCall)
    (x : Exchange σ) : Creation where
  startTimeoutMs := call.startTimeoutMs
  events := (call.make c svc.journaled rounds (x.watched TaskEvent)).2.journal
  answer := (call.make c svc rounds x).1

theorem InteractiveOptions.startTimeoutMs_of_attach {name : String} {settings : Settings}
    {startTimeoutMs : Option Nat} {taskName : Option String} {o : InteractiveOptions}
    (h : attach name settings startTimeoutMs taskName = .ok o) :
    o.startTimeoutMs = startTimeoutMs := by
  unfold attach at h
  split at h
  · simp at h
  · obtain rfl := Except.ok.inj h
    rfl

namespace Coordinator

theorem awaitStart_plain (svc : InstanceService σ) (rounds : Nat) (timeoutMs : Option Nat)
    (s : InteractiveSession) (y : Exchange (σ × List TaskEvent)) :
    awaitStart svc rounds timeoutMs s y.plain =
      ((awaitStart svc.journaled rounds timeoutMs s y).1,
        (awaitStart svc.journaled rounds timeoutMs s y).2.plain) := by
  unfold awaitStart
  cases timeoutMs with
  | none => rfl
  | some t =>
    simp only [InteractiveSession.waitForStart_plain]
    rcases s.waitForStart svc.journaled rounds t y with ⟨answer, s', y'⟩
    match answer with
    | none => rfl
    | some (.error f) => rfl
    | some (.ok started) => rfl

theorem createInteractive_plain (c : Coordinator) (svc : InstanceService σ) (rounds : Nat)
    (o : InteractiveOptions) (y : Exchange (σ × List TaskEvent)) :
    c.createInteractive svc rounds o y.plain =
      ((c.createInteractive svc.journaled rounds o y).1,
        (c.createInteractive svc.journaled rounds o y).2.plain) := by
  unfold createInteractive
  cases o.validate with
  | error f => rfl
  | ok valid =>
    simp only [InstanceService.journaled, Exchange.ask_plain y (.creating (c.instanceRequest o))]
    rcases y.ask (noted (.creating (c.instanceRequest o))
      (svc.createInstance (c.instanceRequest o))) with ⟨answer, y₁⟩
    cases answer with
    | error f => rfl
    | ok id =>
      simp only [Exchange.ask_plain y₁ (.viewing id)]
      rcases y₁.ask (noted (.viewing id) (svc.logView id)) with ⟨view, y₂⟩
      cases view with
      | error f => rfl
      | ok view => exact awaitStart_plain svc rounds _ _ y₂

end Coordinator

theorem CreationCall.make_plain (c : Coordinator) (svc : InstanceService σ) (rounds : Nat)
    (call : CreationCall) (y : Exchange (σ × List TaskEvent)) :
    call.make c svc rounds y.plain = ((call.make c svc.journaled rounds y).1,
      (call.make c svc.journaled rounds y).2.plain) := by
  cases call with
  | create options => exact c.createInteractive_plain svc rounds options y
  | attach name settings startTimeoutMs taskName =>
    simp only [make, Coordinator.attachInteractive]
    cases InteractiveOptions.attach name settings startTimeoutMs taskName with
    | error f => rfl
    | ok options => exact c.createInteractive_plain svc rounds options y

inductive Creation.Made (timeoutMs : Option Nat) :
    List TaskEvent → Option (Except Failure InteractiveSession) → Prop
  | invalid {f : Failure} : Made timeoutMs [] (some (.error f))
  | refused {r : InstanceRequest} {f : Failure} :
      Made timeoutMs [.creating r (.error f)] (some (.error f))
  | unviewed {r : InstanceRequest} {id : InstanceId} {f : Failure} :
      Made timeoutMs [.creating r (.ok id), .viewing id (.error f)] (some (.error f))
  | unwaited {r : InstanceRequest} {id : InstanceId} {view : Option String}
      {s : InteractiveSession} (htimeout : timeoutMs = none) (hid : s.channel.instanceId = id) :
      Made timeoutMs [.creating r (.ok id), .viewing id (.ok view)] (some (.ok s))
  | waited {r : InstanceRequest} {id : InstanceId} {view : Option String}
      {s s' : InteractiveSession} {waits : List TaskEvent}
      {answer : Option (Except Failure InteractiveSession)} (htimeout : timeoutMs ≠ none)
      (hid : s.channel.instanceId = id) (hwatched : s.Watched waits s')
      (hok : ∀ t, answer = some (.ok t) → t = s')
      (herror : ∀ f, answer = some (.error f) → InteractiveSession.Explains waits f) :
      Made timeoutMs (.creating r (.ok id) :: .viewing id (.ok view) :: waits) answer

namespace Coordinator

theorem awaited (svc : InstanceService σ) (rounds : Nat) (timeoutMs : Option Nat)
    {r : InstanceRequest} {id : InstanceId} {view : Option String} {s : InteractiveSession}
    (hid : s.channel.instanceId = id) (hphase : s.phase ≠ .notStarted)
    {y : Exchange (σ × List TaskEvent)}
    (hjournal : y.journal = [.creating r (.ok id), .viewing id (.ok view)]) :
    Creation.Made timeoutMs (awaitStart svc.journaled rounds timeoutMs s y).2.journal
      (awaitStart svc.journaled rounds timeoutMs s y).1 := by
  cases timeoutMs with
  | none =>
    simp only [awaitStart, hjournal]
    exact .unwaited rfl hid
  | some t =>
    obtain ⟨waits, hwaits, hwatched⟩ := InteractiveSession.waited svc rounds t hphase y
    obtain ⟨waits', hsame, herror⟩ := s.waitForStart_error svc rounds t y
    obtain rfl : waits = waits' := List.append_cancel_left (hwaits.symm.trans hsame)
    rw [hjournal] at hwaits
    rcases hwait : s.waitForStart svc.journaled rounds t y with ⟨answer, s', y'⟩
    rw [hwait] at hwaits hwatched herror
    match answer with
    | none =>
      simp only [awaitStart, hwait, hwaits]
      exact .waited (by simp) hid hwatched (by simp) (by simp)
    | some (.error f) =>
      simp only [awaitStart, hwait, hwaits]
      refine .waited (by simp) hid hwatched (by simp) fun g hg => ?_
      obtain rfl := Except.error.inj (Option.some.inj hg)
      exact herror f rfl
    | some (.ok started) =>
      simp only [awaitStart, hwait, hwaits]
      refine .waited (by simp) hid hwatched (fun s₁ hs₁ => ?_) (by simp)
      exact (Except.ok.inj (Option.some.inj hs₁)).symm

theorem created (c : Coordinator) (svc : InstanceService σ) (rounds : Nat)
    (o : InteractiveOptions) (x : Exchange σ) :
    Creation.Made o.startTimeoutMs
      (c.createInteractive svc.journaled rounds o (x.watched TaskEvent)).2.journal
      (c.createInteractive svc.journaled rounds o (x.watched TaskEvent)).1 := by
  unfold createInteractive
  cases o.validate with
  | error f => exact .invalid
  | ok valid =>
    obtain ⟨answer, y₁, hask, -, hcreated⟩ := (x.watched TaskEvent).ask_noted
      (.creating (c.instanceRequest o)) (svc.createInstance (c.instanceRequest o))
    rw [Exchange.journal_watched, List.nil_append] at hcreated
    simp only [InstanceService.journaled, hask]
    cases answer with
    | error f =>
      simp only [hcreated]
      exact .refused
    | ok id =>
      obtain ⟨view, y₂, hask₁, -, hviewed⟩ := y₁.ask_noted (.viewing id) (svc.logView id)
      rw [hcreated] at hviewed
      simp only [hask₁]
      cases view with
      | error f =>
        simp only [hviewed]
        exact .unviewed
      | ok view => exact awaited svc rounds _ rfl (by simp) hviewed

end Coordinator

theorem Creation.made (c : Coordinator) (svc : InstanceService σ) (rounds : Nat)
    (call : CreationCall) (x : Exchange σ) :
    Made (of c svc rounds call x).startTimeoutMs (of c svc rounds call x).events
      (of c svc rounds call x).answer := by
  have hplain := call.make_plain c svc rounds (x.watched TaskEvent)
  rw [Exchange.plain_watched] at hplain
  simp only [of, hplain]
  cases call with
  | create options => exact c.created svc rounds options x
  | attach name settings startTimeoutMs taskName =>
    simp only [CreationCall.make, Coordinator.attachInteractive, CreationCall.startTimeoutMs]
    cases hoptions : InteractiveOptions.attach name settings startTimeoutMs taskName with
    | error f => exact .invalid
    | ok options =>
      have hmade := c.created svc rounds options x
      rwa [InteractiveOptions.startTimeoutMs_of_attach hoptions] at hmade

namespace Creation

/-- The instance was created, but the call failed and did not stop it: nobody has a handle to it. -/
def Leaks (v : Creation) (id : InstanceId) : Prop :=
  (∃ r, .creating r (.ok id) ∈ v.events) ∧ (∃ f, v.answer = some (.error f)) ∧
    ∀ a, .stopping id a ∉ v.events

structure Lawful (v : Creation) : Prop where
  /-- Nothing is asked for before the instance, and there is one instance only. -/
  first : ∀ before r a after, v.events = before ++ .creating r a :: after → before = []
  unstopped : ∀ id a, .stopping id a ∉ v.events
  /-- A session that the caller gets is on the instance that was created for it. -/
  handed : ∀ s, v.answer = some (.ok s) → ∃ r, .creating r (.ok s.channel.instanceId) ∈ v.events
  unviewed : ∀ id f, .viewing id (.error f) ∈ v.events → v.answer = some (.error f)
  /-- An instance is leaked if its log view fails, or if the start is waited for and that fails, for
  a reason that the wait's requests show or by an interrupt; and in no other way. -/
  leaks_iff : ∀ id, v.Leaks id ↔ ∃ r f, v.answer = some (.error f) ∧
    (v.events = [.creating r (.ok id), .viewing id (.error f)] ∨
      v.startTimeoutMs ≠ none ∧ ∃ view waits,
        v.events = .creating r (.ok id) :: .viewing id (.ok view) :: waits ∧
        InteractiveSession.Explains waits f)

variable {v : Creation} {timeoutMs : Option Nat} {events : List TaskEvent}
  {answer : Option (Except Failure InteractiveSession)}

theorem not_mem_of_asksTask {waits : List TaskEvent} (h : ∀ e ∈ waits, e.asksTask = true)
    {e : TaskEvent} (he : e.asksTask = false) : e ∉ waits :=
  fun hmem => by simp [h e hmem] at he

theorem Made.unstopped (h : Made timeoutMs events answer) (id : InstanceId)
    (a : Except Failure Unit) : .stopping id a ∉ events := by
  cases h with
  | waited htimeout hid hwatched hok herror =>
    simpa using not_mem_of_asksTask hwatched.asksTask rfl
  | _ => simp

theorem Made.first (h : Made timeoutMs events answer) {before after : List TaskEvent}
    {r : InstanceRequest} {a : Except Failure InstanceId}
    (hevents : events = before ++ .creating r a :: after) : before = [] := by
  cases before with
  | nil => rfl
  | cons e rest =>
    have hlater : .creating r a ∈ events.tail := by simp [hevents]
    cases h with
    | waited htimeout hid hwatched hok herror =>
      have hwaits := List.mem_of_ne_of_mem (by simp) hlater
      exact absurd hwaits (not_mem_of_asksTask hwatched.asksTask rfl)
    | _ => simp at hlater

theorem Made.handed (h : Made timeoutMs events answer) {s : InteractiveSession}
    (hs : answer = some (.ok s)) : ∃ r, .creating r (.ok s.channel.instanceId) ∈ events := by
  cases h with
  | invalid | refused | unviewed => simp at hs
  | @unwaited r id view s₁ htimeout hid =>
    obtain rfl := Except.ok.inj (Option.some.inj hs)
    exact ⟨r, by simp [hid]⟩
  | @waited r id view s₁ s' waits _ htimeout hid hwatched hok herror =>
    obtain rfl := hok s hs
    exact ⟨r, by simp [hwatched.same.1, hid]⟩

theorem Made.of_unviewed (h : Made timeoutMs events answer) {id : InstanceId} {f : Failure}
    (hview : .viewing id (.error f) ∈ events) : answer = some (.error f) := by
  cases h with
  | unviewed =>
    obtain ⟨-, rfl⟩ : id = _ ∧ f = _ := by simpa using hview
    rfl
  | waited htimeout hid hwatched hok herror =>
    have hnot : TaskEvent.viewing id (.error f) ∉ _ :=
      not_mem_of_asksTask hwatched.asksTask rfl
    simp [hnot] at hview
  | invalid | refused | unwaited => simp at hview

/-- A call that fails once its instance was created has failed at the log view or at the wait. -/
theorem Made.failed (h : Made timeoutMs events answer) {r : InstanceRequest} {id : InstanceId}
    {f : Failure} (hcreated : .creating r (.ok id) ∈ events) (hf : answer = some (.error f)) :
    events = [.creating r (.ok id), .viewing id (.error f)] ∨
      timeoutMs ≠ none ∧ ∃ view waits,
        events = .creating r (.ok id) :: .viewing id (.ok view) :: waits ∧
        InteractiveSession.Explains waits f := by
  cases h with
  | invalid | refused => simp at hcreated
  | unwaited => simp at hf
  | unviewed =>
    obtain ⟨rfl, rfl⟩ : r = _ ∧ id = _ := by simpa using hcreated
    obtain rfl := Except.error.inj (Option.some.inj hf)
    exact .inl rfl
  | waited htimeout hid hwatched hok herror =>
    have hnot : TaskEvent.creating r (.ok id) ∉ _ := not_mem_of_asksTask hwatched.asksTask rfl
    obtain ⟨rfl, rfl⟩ : r = _ ∧ id = _ := by simpa [hnot] using hcreated
    exact .inr ⟨htimeout, _, _, rfl, herror f hf⟩

theorem Made.lawful (h : Made v.startTimeoutMs v.events v.answer) : v.Lawful where
  first _ _ _ _ hevents := h.first hevents
  unstopped := h.unstopped
  handed _ hs := h.handed hs
  unviewed _ _ hview := h.of_unviewed hview
  leaks_iff id := by
    constructor
    · rintro ⟨⟨r, hcreated⟩, ⟨f, hf⟩, -⟩
      exact ⟨r, f, hf, h.failed hcreated hf⟩
    · rintro ⟨r, f, hf, hevents⟩
      refine ⟨⟨r, ?_⟩, ⟨f, hf⟩, h.unstopped id⟩
      rcases hevents with hevents | ⟨-, view, waits, hevents, -⟩
      · simp [hevents]
      · simp [hevents]

end Creation

/-- However a service answers, a creation leaks its instance exactly if the log view fails, or the
wait for the start. -/
theorem creation_lawful (c : Coordinator) (svc : InstanceService σ) (rounds : Nat)
    (call : CreationCall) (x : Exchange σ) : (Creation.of c svc rounds call x).Lawful :=
  (Creation.made c svc rounds call x).lawful

def failedStart : Creation :=
  .of { project := "p" } Memory.hosting 1 (.create { startTimeoutMs := some 30000 })
    { service := { taskStates := [some .failed] } }

/-- The instance of a session that fails to start stays, and nobody can stop it. -/
theorem failed_start_leaks : failedStart.Leaks ⟨"p", "instance-1"⟩ :=
  ⟨⟨_, .head _⟩, ⟨_, rfl⟩, (Creation.made _ _ _ _ _).unstopped _⟩

end TableExchange
