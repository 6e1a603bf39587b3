import TableExchange.Proofs.Interactive.SessionSteps

/-!
Runs of calls on one interactive session, on a service that answers in any way. The phase only goes
forward, what decided the start is on record, a decided start is not asked about again, and the
instance is stopped once.
-/
namespace TableExchange

variable {σ : Type}

/-- A call on a session. A wait asks at most `rounds` times. -/
inductive SessionCall
  | isStarted
  | waitForStart (rounds timeoutMs : Nat)
  | startProgress
  | run (sql : String) (settings : Settings)
  | setInformation (key value : String)
  | stop

inductive SessionAnswer
  | started (answer : Except Failure Bool)
  | waited (answer : Option (Except Failure Bool))
  | progressed (answer : Except Failure (Option LaunchProgress))
  | submitted (answer : Except Failure QueryResults)
  | replied (answer : Except Failure String)
  | stopped (answer : Except Failure Unit)

namespace SessionCall

def make (svc : InstanceService σ) :
    SessionCall → InteractiveSession → Exchange σ →
      SessionAnswer × InteractiveSession × Exchange σ
  | .isStarted, s, x => let r := s.isStarted svc x; (.started r.1, r.2)
  | .waitForStart rounds timeoutMs, s, x =>
    let r := s.waitForStart svc rounds timeoutMs x
    (.waited r.1, r.2)
  | .startProgress, s, x => let r := s.startProgress svc x; (.progressed r.1, r.2)
  | .run sql settings, s, x => let r := s.run svc sql settings x; (.submitted r.1, s, r.2)
  | .setInformation key value, s, x =>
    let r := s.setInformation svc key value x
    (.replied r.1, s, r.2)
  | .stop, s, x => let r := s.stop svc x; (.stopped r.1, r.2)

def asksAboutStart : SessionCall → Bool
  | isStarted | waitForStart _ _ | startProgress => true
  | _ => false

end SessionCall

namespace InteractiveSession

/-- The session as a stop that succeeded leaves it. -/
def ended (s : InteractiveSession) : InteractiveSession :=
  { s with
    stopped := true
    phase := if s.phase.isTerminal then s.phase else .cancelled }

theorem ended_moves {s : InteractiveSession} (hphase : s.phase ≠ .notStarted) :
    s.phase.Moves s.ended.phase := by
  simp only [ended]
  cases hp : s.phase with
  | notStarted => exact absurd hp hphase
  | starting => exact .fail rfl
  | running => exact .cancel
  | terminated => exact .stay _
  | failed => exact .stay _
  | cancelled => exact .stay _

inductive Made (s : InteractiveSession) :
    SessionCall → List TaskEvent → SessionAnswer → InteractiveSession → Prop
  | asked {events : List TaskEvent} {answer : Except Failure Bool} {s' : InteractiveSession}
      (h : Asked s events answer s') : Made s .isStarted events (.started answer) s'
  | waited {rounds timeoutMs : Nat} {events : List TaskEvent}
      {answer : Option (Except Failure Bool)} {s' : InteractiveSession} (h : Watched s events s') :
      Made s (.waitForStart rounds timeoutMs) events (.waited answer) s'
  | progressed {events : List TaskEvent} {answer : Except Failure (Option LaunchProgress)}
      {s' : InteractiveSession} (h : Watched s events s') :
      Made s .startProgress events (.progressed answer) s'
  | submitted {sql : String} {settings : Settings} {reply : Except Failure String}
      {answer : Except Failure QueryResults} :
      Made s (.run sql settings)
        [s.channel.writing TaskChannel.queryKey (queryText sql settings) reply]
        (.submitted answer) s
  | replied {key value : String} {reply : Except Failure String} :
      Made s (.setInformation key value) [s.channel.writing key value reply] (.replied reply) s
  | again (hstopped : s.stopped = true) : Made s .stop [] (.stopped (.ok ())) s
  | refused {f : Failure} (hstopped : s.stopped = false) :
      Made s .stop [.stopping s.channel.instanceId (.error f)] (.stopped (.error f)) s
  | stopped (hstopped : s.stopped = false) :
      Made s .stop [.stopping s.channel.instanceId (.ok ())] (.stopped (.ok ())) s.ended

/-- A run writes its query to the query channel, and makes no other request. -/
theorem submitted (svc : InstanceService σ) (sql : String) (settings : Settings)
    (s : InteractiveSession) (y : Exchange (σ × List TaskEvent)) :
    ∃ reply, (s.run svc.journaled sql settings y).2.journal = y.journal ++
        [s.channel.writing TaskChannel.queryKey (queryText sql settings) reply] ∧
      (s.run svc.journaled sql settings y).1 = reply.map fun _ =>
        { channel := s.channel, pollMs := s.pollMs, receiver := s.receiver } := by
  unfold run
  have hjournal :=
    TaskChannel.journal_send svc s.channel TaskChannel.queryKey (queryText sql settings) y
  rcases hsent : s.channel.send svc.journaled TaskChannel.queryKey (queryText sql settings) y
    with ⟨reply, y₁⟩
  rw [hsent] at hjournal
  cases reply with
  | error f => exact ⟨_, hjournal, rfl⟩
  | ok reply => exact ⟨_, hjournal, rfl⟩

theorem stopMade (svc : InstanceService σ) (s : InteractiveSession)
    (y : Exchange (σ × List TaskEvent)) :
    ∃ events, (s.stop svc.journaled y).2.2.journal = y.journal ++ events ∧
      Made s .stop events (.stopped (s.stop svc.journaled y).1) (s.stop svc.journaled y).2.1 := by
  cases hstopped : s.stopped with
  | true =>
    rw [stop_of_stopped _ _ hstopped]
    exact ⟨[], by simp, .again hstopped⟩
  | false =>
    obtain ⟨answer, y₁, hasked, -, hnoted⟩ := y.ask_noted (.stopping s.channel.instanceId)
      (svc.stopInstance s.channel.instanceId)
    simp only [stop, hstopped, InstanceService.journaled, Bool.false_eq_true, if_false, hasked]
    cases answer with
    | error f => exact ⟨_, hnoted, .refused hstopped⟩
    | ok done => exact ⟨_, hnoted, .stopped hstopped⟩

theorem made (svc : InstanceService σ) (call : SessionCall) {s : InteractiveSession}
    (hphase : s.phase ≠ .notStarted) (y : Exchange (σ × List TaskEvent)) :
    ∃ events, (call.make svc.journaled s y).2.2.journal = y.journal ++ events ∧
      Made s call events (call.make svc.journaled s y).1 (call.make svc.journaled s y).2.1 := by
  cases call with
  | isStarted =>
    obtain ⟨events, hjournal, h⟩ := asked svc s y
    exact ⟨events, hjournal, .asked h⟩
  | waitForStart rounds timeoutMs =>
    obtain ⟨events, hjournal, h⟩ := waited svc rounds timeoutMs hphase y
    exact ⟨events, hjournal, .waited h⟩
  | startProgress =>
    obtain ⟨events, hjournal, h⟩ := progressed svc hphase y
    exact ⟨events, hjournal, .progressed h⟩
  | run sql settings =>
    obtain ⟨reply, hjournal, -⟩ := submitted svc sql settings s y
    exact ⟨_, hjournal, .submitted⟩
  | setInformation key value =>
    exact ⟨_, TaskChannel.journal_send svc s.channel key value y, .replied⟩
  | stop => exact stopMade svc s y

theorem run_plain (svc : InstanceService σ) (sql : String) (settings : Settings)
    (s : InteractiveSession) (y : Exchange (σ × List TaskEvent)) : s.run svc sql settings y.plain =
      ((s.run svc.journaled sql settings y).1, (s.run svc.journaled sql settings y).2.plain) := by
  simp only [run, TaskChannel.send_plain]
  rcases s.channel.send svc.journaled TaskChannel.queryKey (queryText sql settings) y
    with ⟨reply, y₁⟩
  cases reply <;> rfl

theorem make_plain (svc : InstanceService σ) (call : SessionCall) (s : InteractiveSession)
    (y : Exchange (σ × List TaskEvent)) : call.make svc s y.plain =
      ((call.make svc.journaled s y).1, (call.make svc.journaled s y).2.1,
        (call.make svc.journaled s y).2.2.plain) := by
  cases call with
  | isStarted => simp only [SessionCall.make, isStarted_plain]
  | waitForStart rounds timeoutMs => simp only [SessionCall.make, waitForStart_plain]
  | startProgress => simp only [SessionCall.make, startProgress_plain]
  | run sql settings => simp only [SessionCall.make, run_plain]
  | setInformation key value => rfl
  | stop => simp only [SessionCall.make, stop_plain]

structure Proceeds (s : InteractiveSession) (events : List TaskEvent) (s' : InteractiveSession) :
    Prop where
  channel : s'.channel = s.channel
  moves : s.phase.Moves s'.phase
  /-- It runs only once a status with the code of running was read. -/
  runs : s.phase ≠ .running → s'.phase = .running → s.channel.Reported 2 events
  /-- It fails only once a status with the code of failure was read, or none and the task had ended;
  a service that itself blames the session is believed. -/
  fails : s.phase ≠ .failed → s'.phase = .failed →
    (∀ e ∈ events, ∀ f, e.failure = some f → f.kind ≠ .sessionFailed) →
    s.channel.Reported 4 events ∨ s.channel.FoundEnded events
  /-- What was learnt from the start stays once the start is decided. -/
  learnt : s.phase ≠ .starting → s'.startMessage = s.startMessage ∧ s'.progress = s.progress

theorem proceeds_self (s : InteractiveSession) (events : List TaskEvent) :
    Proceeds s events s where
  channel := rfl
  moves := .stay _
  runs hphase hruns := absurd hruns hphase
  fails hphase hfails _ := absurd hfails hphase
  learnt _ := ⟨rfl, rfl⟩

section Proceeds

variable {s s' : InteractiveSession} {call : SessionCall} {events : List TaskEvent}
  {answer : SessionAnswer}

theorem Watched.proceeds (h : Watched s events s') : Proceeds s events s' where
  channel := h.same.1
  moves := h.moves
  runs := h.runs
  fails := h.fails
  learnt hphase := (h.of_decided hphase).2

theorem ended_proceeds (hphase : s.phase ≠ .notStarted) (events : List TaskEvent) :
    Proceeds s events s.ended where
  channel := rfl
  moves := ended_moves hphase
  runs hother hruns := by
    simp only [ended] at hruns
    split at hruns
    · exact absurd hruns hother
    · simp at hruns
  fails hother hfails _ := by
    simp only [ended] at hfails
    split at hfails
    · exact absurd hfails hother
    · simp at hfails
  learnt _ := ⟨rfl, rfl⟩

/-- One question is a row of questions. -/
theorem Asked.watched {verdict : Except Failure Bool} (h : Asked s events verdict s')
    (hphase : s.phase ≠ .notStarted) : Watched s events s' :=
  Watched.start.ask hphase h

/-- A question that fails otherwise than by the session's end leaves the session as it is. -/
theorem Asked.spares {f : Failure} (h : Asked s events (.error f) s')
    (hkind : f.kind ≠ .sessionFailed) : s' = s := by
  cases h with
  | closed hover => rfl
  | probed hphase hp => exact hp.spares hkind

/-- While the session starts a question reads its status. -/
theorem Asked.probes {verdict : Except Failure Bool} (h : Asked s events verdict s')
    (hphase : s.phase = .starting) : Probed s events verdict s' := by
  cases h with
  | runs hruns => simp [hphase] at hruns
  | closed hover => simp [hphase, SessionPhase.isTerminal] at hover
  | probed _ hp => exact hp

theorem Made.probes (h : Made s .isStarted events answer s') (hphase : s.phase = .starting) :
    ∃ verdict, answer = .started verdict ∧ Probed s events verdict s' := by
  cases h with
  | asked ha => exact ⟨_, rfl, ha.probes hphase⟩

theorem Made.proceeds (h : Made s call events answer s') (hphase : s.phase ≠ .notStarted) :
    Proceeds s events s' := by
  cases h with
  | asked ha => exact (ha.watched hphase).proceeds
  | waited hw => exact hw.proceeds
  | progressed hw => exact hw.proceeds
  | submitted => exact proceeds_self s _
  | replied => exact proceeds_self s _
  | again _ => exact proceeds_self s _
  | refused _ => exact proceeds_self s _
  | stopped _ => exact ended_proceeds hphase _

/-- Once the start is decided, no call asks about it. -/
theorem Made.of_decided (h : Made s call events answer s') (hstart : s.phase ≠ .notStarted)
    (hphase : s.phase ≠ .starting) (hcall : call.asksAboutStart = true) : events = [] := by
  cases h with
  | asked ha => exact ((ha.watched hstart).of_decided hphase).1
  | waited hw => exact (hw.of_decided hphase).1
  | progressed hw => exact (hw.of_decided hphase).1
  | _ => simp [SessionCall.asksAboutStart] at hcall

theorem Made.spares {f : Failure} (h : Made s call events (.started (.error f)) s')
    (hkind : f.kind ≠ .sessionFailed) : s' = s := by
  cases h with
  | asked ha => exact ha.spares hkind

/-- Only a stop asks the service to stop. -/
theorem Made.stop_of_stops (h : Made s call events answer s') (hphase : s.phase ≠ .notStarted)
    {e : TaskEvent} (he : e ∈ events) (hstops : e.stops = true) : call = .stop := by
  have hwatched (hw : Watched s events s') : call = .stop := by
    rw [hw.not_stops e he] at hstops
    contradiction
  cases h with
  | asked ha => exact hwatched (ha.watched hphase)
  | waited hw => exact hwatched hw
  | progressed hw => exact hwatched hw
  | submitted =>
    obtain rfl := List.mem_singleton.mp he
    simp [TaskChannel.writing, TaskEvent.stops] at hstops
  | replied =>
    obtain rfl := List.mem_singleton.mp he
    simp [TaskChannel.writing, TaskEvent.stops] at hstops
  | _ => rfl

/-- A stop asks the service as long as none has succeeded. -/
theorem Made.stop_once (h : Made s .stop events answer s') :
    (s.stopped = true ∧ events = [] ∧ answer = .stopped (.ok ())) ∨
      (s.stopped = false ∧
        ∃ a, events = [.stopping s.channel.instanceId a] ∧ answer = .stopped a) := by
  cases h with
  | again hstopped => exact .inl ⟨hstopped, rfl, rfl⟩
  | refused hstopped => exact .inr ⟨hstopped, _, rfl, rfl⟩
  | stopped hstopped => exact .inr ⟨hstopped, _, rfl, rfl⟩

theorem Made.stopped_iff (h : Made s call events answer s') (hphase : s.phase ≠ .notStarted) :
    s'.stopped = true ↔ s.stopped = true ∨ answer = .stopped (.ok ()) := by
  cases h with
  | asked ha => simp [(ha.watched hphase).same.2]
  | waited hw => simp [hw.same.2]
  | progressed hw => simp [hw.same.2]
  | stopped _ => simp [ended]
  | _ => simp_all

end Proceeds

end InteractiveSession

/-- A call with what it found, the requests it made, its answer, and what it left. -/
structure SessionVisit (σ : Type) where
  call : SessionCall
  before : InteractiveSession
  found : Exchange σ
  events : List TaskEvent
  answer : SessionAnswer
  after : InteractiveSession
  left : Exchange σ

def InteractiveSession.visit (svc : InstanceService σ) (call : SessionCall)
    (s : InteractiveSession) (x : Exchange σ) : SessionVisit σ where
  call := call
  before := s
  found := x
  events := (call.make svc.journaled s (x.watched TaskEvent)).2.2.journal
  answer := (call.make svc s x).1
  after := (call.make svc s x).2.1
  left := (call.make svc s x).2.2

theorem InteractiveSession.visit_made (svc : InstanceService σ) (call : SessionCall)
    {s : InteractiveSession} (hphase : s.phase ≠ .notStarted) (x : Exchange σ) :
    Made s call (s.visit svc call x).events (s.visit svc call x).answer
      (s.visit svc call x).after := by
  obtain ⟨events, hjournal, h⟩ := made svc call hphase (x.watched TaskEvent)
  have hplain := make_plain svc call s (x.watched TaskEvent)
  rw [Exchange.plain_watched] at hplain
  rw [Exchange.journal_watched, List.nil_append] at hjournal
  simp only [visit, hjournal, hplain]
  exact h

structure SessionHistory (σ : Type) where
  visits : List (SessionVisit σ)
  session : InteractiveSession

namespace SessionHistory

def take (svc : InstanceService σ) (h : SessionHistory σ) (call : SessionCall × Exchange σ) :
    SessionHistory σ :=
  let v := h.session.visit svc call.1 call.2
  ⟨h.visits ++ [v], v.after⟩

def run (svc : InstanceService σ) (h : SessionHistory σ) (calls : List (SessionCall × Exchange σ)) :
    SessionHistory σ :=
  calls.foldl (take svc) h

def leftBy (session : InteractiveSession) (visits : List (SessionVisit σ)) : InteractiveSession :=
  (visits.getLast?.map (·.after)).getD session

def Decided (visits : List (SessionVisit σ)) : Prop :=
  ∃ v ∈ visits, v.after.phase ≠ .starting

def Stopped (visits : List (SessionVisit σ)) : Prop :=
  ∃ v ∈ visits, v.answer = .stopped (.ok ())

structure Keeps (session : InteractiveSession) (before : List (SessionVisit σ))
    (v : SessionVisit σ) : Prop where
  goesOn : v.before = leftBy session before
  proceeds : v.before.Proceeds v.events v.after
  /-- A question while the session starts reads its status first. -/
  asks : v.call = .isStarted → v.before.phase = .starting → ∃ found checks,
    v.events = v.before.channel.reading TaskChannel.statusKey found :: checks
  /-- A status with the code of running makes the session run. -/
  begins : v.call = .isStarted → v.before.phase = .starting →
    v.before.channel.Reported 2 v.events →
    v.answer = .started (.ok true) ∧ v.after.phase = .running
  /-- A decided start is not asked about again. -/
  asksNoMore : Decided before → v.call.asksAboutStart = true → v.events = []
  /-- What was learnt when the start was decided stays as it was then. -/
  learnt : ∀ u ∈ before, u.after.phase ≠ .starting →
    v.after.startMessage = u.after.startMessage ∧ v.after.progress = u.after.progress
  /-- A question that fails otherwise than by the session's end leaves the session as it is. -/
  spares : ∀ f, v.answer = .started (.error f) → f.kind ≠ .sessionFailed → v.after = v.before
  /-- Until a stop has succeeded, every one is a request, and its answer is the service's. -/
  stops : v.call = .stop → ¬Stopped before →
    ∃ a, v.events = [.stopping session.channel.instanceId a] ∧ v.answer = .stopped a
  /-- After that a stop asks for nothing and leaves all alone. -/
  stopsNoMore : v.call = .stop → Stopped before →
    v.events = [] ∧ v.answer = .stopped (.ok ()) ∧ v.left = v.found
  /-- No other call asks the service to stop. -/
  onlyStops : ∀ e ∈ v.events, e.stops = true → v.call = .stop

structure Tracked (session : InteractiveSession) (h : SessionHistory σ) : Prop where
  lawful : AtEach (Keeps session) h.visits
  current : h.session = leftBy session h.visits
  channel : h.session.channel = session.channel
  begun : h.session.phase ≠ .notStarted
  decided : ∀ u ∈ h.visits, u.after.phase ≠ .starting → h.session.phase ≠ .starting ∧
    h.session.startMessage = u.after.startMessage ∧ h.session.progress = u.after.progress
  stopped : h.session.stopped = true ↔ Stopped h.visits

theorem tracked_start {session : InteractiveSession} (hphase : session.phase = .starting)
    (hstopped : session.stopped = false) : Tracked session (⟨[], session⟩ : SessionHistory σ) where
  lawful := atEach_nil _
  current := rfl
  channel := rfl
  begun := by simp [hphase]
  decided := by simp
  stopped := by simp [hstopped, Stopped]

variable {svc : InstanceService σ} {session : InteractiveSession} {h : SessionHistory σ}

theorem Tracked.keeps (ht : Tracked session h) (svc : InstanceService σ) (call : SessionCall)
    (x : Exchange σ) : Keeps session h.visits (h.session.visit svc call x) := by
  have hmade := h.session.visit_made svc call ht.begun x
  have hproceeds := hmade.proceeds ht.begun
  refine
    { goesOn := ht.current
      proceeds := hproceeds
      asks := ?_
      begins := ?_
      asksNoMore := ?_
      learnt := ?_
      spares := ?_
      stops := ?_
      stopsNoMore := ?_
      onlyStops := fun e he hstops => hmade.stop_of_stops ht.begun he hstops }
  · rintro rfl hphase
    obtain ⟨verdict, -, hprobed⟩ := hmade.probes hphase
    exact hprobed.reads
  · rintro rfl hphase hreported
    obtain ⟨verdict, hanswer, hprobed⟩ := hmade.probes hphase
    obtain ⟨rfl, hruns⟩ := hprobed.begins hreported
    exact ⟨hanswer, hruns⟩
  · rintro ⟨u, hu, hphase⟩ hcall
    exact hmade.of_decided ht.begun (ht.decided u hu hphase).1 hcall
  · intro u hu hphase
    obtain ⟨hdecided, hmessage, hprogress⟩ := ht.decided u hu hphase
    obtain ⟨hmessage', hprogress'⟩ := hproceeds.learnt hdecided
    exact ⟨hmessage'.trans hmessage, hprogress'.trans hprogress⟩
  · intro f hanswer hkind
    rw [hanswer] at hmade
    exact hmade.spares hkind
  · rintro rfl hnone
    rw [← ht.channel]
    rcases hmade.stop_once with ⟨hstopped, -, -⟩ | ⟨-, hasked⟩
    · exact absurd (ht.stopped.mp hstopped) hnone
    · exact hasked
  · rintro rfl hsome
    have hstopped := ht.stopped.mpr hsome
    rcases hmade.stop_once with ⟨-, hevents, hanswer⟩ | ⟨hopen, -⟩
    · refine ⟨hevents, hanswer, ?_⟩
      simp [InteractiveSession.visit, SessionCall.make, hstopped]
    · rw [hstopped] at hopen
      contradiction

theorem Tracked.take (ht : Tracked session h) (call : SessionCall × Exchange σ) :
    Tracked session (h.take svc call) := by
  obtain ⟨call, x⟩ := call
  have hkeeps := ht.keeps svc call x
  have hmade := h.session.visit_made svc call ht.begun x
  have hproceeds := hmade.proceeds ht.begun
  exact
    { lawful := atEach_concat.mpr ⟨ht.lawful, hkeeps⟩
      current := by simp [SessionHistory.take, leftBy]
      channel := hproceeds.channel.trans ht.channel
      begun := hproceeds.moves.ne_notStarted ht.begun
      decided := by
        intro u hu hphase
        rcases List.mem_append.mp hu with hu | hu
        · refine ⟨?_, hkeeps.learnt u hu hphase⟩
          -- A decided phase can only move to a decided one.
          intro hstarting
          have hmoves := hproceeds.moves
          rw [show (h.session.visit svc call x).after.phase = .starting from hstarting] at hmoves
          exact (ht.decided u hu hphase).1 hmoves.starting
        · obtain rfl := List.mem_singleton.mp hu
          exact ⟨hphase, rfl, rfl⟩
      stopped := by
        refine (hmade.stopped_iff ht.begun).trans ?_
        rw [ht.stopped]
        exact exists_mem_concat.symm }

theorem Tracked.run (ht : Tracked session h) (calls : List (SessionCall × Exchange σ)) :
    Tracked session (h.run svc calls) := by
  induction calls generalizing h with
  | nil => exact ht
  | cons call rest ih => exact ih (ht.take call)

end SessionHistory

/-- The calls on a fresh session are lawful, whatever the service answers. -/
theorem session_calls_lawful (svc : InstanceService σ) (channel : TaskChannel)
    (name : Option String) (pollMs : Nat) (receiver : Shutdown.Receiver) (logView : Option String)
    (calls : List (SessionCall × Exchange σ)) :
    let fresh : InteractiveSession := { channel, name, pollMs, receiver, logView }
    AtEach (SessionHistory.Keeps fresh) (SessionHistory.run svc ⟨[], fresh⟩ calls).visits :=
  ((SessionHistory.tracked_start rfl rfl).run calls).lawful

/-- A fault and a launch report leave the session starting; once it runs it is not asked again. -/
example :
    let fresh : InteractiveSession :=
      { channel := ⟨⟨"p", "i"⟩, "task"⟩, name := none, pollMs := 3000, receiver := ⟨0⟩,
        logView := none }
    let launching := "\x7b\"status\": 1, \"result\": \"\x7b\x7d\"\x7d"
    let running := "\x7b\"status\": 2, \"result\": \"up\"\x7d"
    let visits := (SessionHistory.run .taped ⟨[], fresh⟩
      [(.isStarted, { service := [.error (.of .requestFailed "down")] }),
        (.startProgress, { service := [.ok (some launching)] }),
        (.waitForStart 3 0, { service := [.ok none, .ok (some running)] }),
        (.isStarted, { service := [.ok (some launching)] }),
        (.stop, { service := [] }), (.stop, { service := [] })]).visits
    visits.map (·.after.phase) =
        [.starting, .starting, .running, .running, .cancelled, .cancelled] ∧
      visits.map (·.events.length) = [1, 1, 3, 0, 1, 0] := by
  decide +kernel

end TableExchange
