import TableExchange.Proofs.Interactive.ResultSequence
import TableExchange.Proofs.Interactive.ServiceCourse

/-!
Sessions that were stopped, on the in-memory service. That a session is stopped is on record twice:
its handle is over, and the service has noted the instance. Both records last, whatever else happens
and whatever is scripted, so nothing waits for the session any more: questions about its start fail
unasked, and a pull of its results is settled by its first round.
-/
namespace TableExchange

open Memory

namespace Memory

namespace Store

def Hosts (s : Store) (id : InstanceId) : Prop :=
  (lookup id s.instances).isSome = true

structure Retains (s s' : Store) : Prop where
  hosts : ∀ id, s.Hosts id → s'.Hosts id
  stopped : ∀ id, s.isStopped id = true → s'.isStopped id = true

/-- Only the instances and the stopped ones among them count. -/
theorem retains_of_eq {s s' : Store} (hinstances : s'.instances = s.instances)
    (hstopped : s'.stopped = s.stopped) : s.Retains s' := by
  refine ⟨?_, ?_⟩
  · unfold Hosts
    rw [hinstances]
    exact fun _ h => h
  · unfold isStopped
    rw [hstopped]
    exact fun _ h => h

theorem Retains.trans {s₁ s₂ s₃ : Store} (h : s₁.Retains s₂) (h' : s₂.Retains s₃) :
    s₁.Retains s₃ :=
  ⟨fun id hid => h'.hosts id (h.hosts id hid), fun id hid => h'.stopped id (h.stopped id hid)⟩

def upNext (key : String) (s : Store) : Option String :=
  ((lookup key s.channelScripts).getD []).head?.join

end Store

theorem hosts_createInstance (r : InstanceRequest) {s : Store} {id : InstanceId}
    (h : s.Hosts id ∨ (createInstance r s).1 = .ok id) : (createInstance r s).2.Hosts id := by
  simp only [createInstance, Store.Hosts, Except.ok.injEq] at h ⊢
  by_cases heq : id = ⟨r.project, s!"instance-{s.issued + 1}"⟩
  · rw [heq, lookup_assign_self]
    rfl
  · rw [lookup_assign_of_ne heq]
    exact h.resolve_right (Ne.symm heq)

theorem retains_createInstance (r : InstanceRequest) (s : Store) :
    s.Retains (createInstance r s).2 :=
  ⟨fun _ h => hosts_createInstance r (.inl h), fun _ h => h⟩

theorem retains_taskInfo (id : InstanceId) (task key : String) (s : Store) :
    s.Retains (taskInfo id task key s).2 := by
  unfold taskInfo
  dsimp only
  split
  · exact Store.retains_of_eq rfl rfl
  · split <;> exact Store.retains_of_eq rfl rfl

theorem retains_taskStatus (id : InstanceId) (task : String) (s : Store) :
    s.Retains (taskStatus id task s).2 := by
  unfold taskStatus
  split
  · exact Store.retains_of_eq rfl rfl
  · split <;> exact Store.retains_of_eq rfl rfl

theorem retains_stopInstance (id : InstanceId) (s : Store) :
    s.Retains (hosting.stopInstance id s).2 := by
  refine ⟨fun _ h => h, fun id' h => ?_⟩
  simp only [hosting, Store.isStopped, List.contains_cons, Bool.or_eq_true]
  exact .inr h

theorem hosting_follows : hosting.Follows Store.Retains where
  refl _ := Store.retains_of_eq rfl rfl
  trans := Store.Retains.trans
  createInstance := retains_createInstance
  taskInfo := retains_taskInfo
  setTaskInfo _ _ _ _ _ := Store.retains_of_eq rfl rfl
  taskStatus := retains_taskStatus
  taskResult _ _ _ := Store.retains_of_eq rfl rfl
  stopInstance := retains_stopInstance
  logView _ _ := Store.retains_of_eq rfl rfl

theorem taskInfo_of_hosts {s : Store} {id : InstanceId} (h : s.Hosts id) (task key : String) :
    (taskInfo id task key s).1 = .ok (s.upNext key) := by
  obtain ⟨r, hr⟩ := Option.isSome_iff_exists.mp h
  simp only [taskInfo, hr, Store.upNext]
  cases lookup key s.channelScripts with
  | none => rfl
  | some payloads => cases payloads <;> rfl

end Memory

namespace TaskChannel

variable {c : TaskChannel} {x : Exchange Store}

theorem read_of_hosts (h : x.service.Hosts c.instanceId) (key : String) :
    c.read hosting key x = (decode key (x.service.upNext key), (c.read hosting key x).2) := by
  have hanswer : ((x.count (.channelReads c.instanceId.id key) 1).ask
      (hosting.taskInfo c.instanceId c.taskName key)).1 = .ok (x.service.upNext key) :=
    taskInfo_of_hosts h c.taskName key
  rw [read_eq, hanswer]
  rfl

/-- Only a text decodes to something. -/
theorem exists_text_of_decode {key : String} {text : Option String}
    (h : decode key text ≠ .ok none) : ∃ t, text = some t := by
  cases text with
  | none => exact absurd rfl h
  | some t => exact ⟨t, rfl⟩

/-- Whatever states are scripted, the task of a stopped instance is cancelled. -/
theorem ensureAlive_of_stopped (h : x.service.isStopped c.instanceId = true) :
    c.ensureAlive hosting x = (.error (c.ended .cancelled x.service.taskResult), x) := by
  have hstatus : x.ask (hosting.taskStatus c.instanceId c.taskName) =
      (.ok (some .cancelled), x) := by
    simp [Exchange.ask, hosting, taskStatus, h]
  unfold ensureAlive
  rw [hstatus]
  rfl

end TaskChannel

/-- No time has passed, and no signal has been sent. -/
def Exchange.Unmoved {σ : Type} (x x' : Exchange σ) : Prop :=
  x'.now = x.now ∧ x'.alarms = x.alarms ∧ x'.shutdown = x.shutdown

namespace QueryResults

/-- How a pull can end without a wait: the sequence is over, or one read decides it. The text that
is read is the next one in the channel's script. -/
inductive Ends (q : QueryResults) (x : Exchange Store) :
    Option (Except Failure (Option TaskPayload)) × QueryResults × Exchange Store → Prop
  | finished (hterminated : q.terminated = true) : Ends q x (some (.ok none), q, x)
  | unreadable {text : String} {f : Failure}
      (hnext : x.service.upNext TaskChannel.resultKey = some text)
      (hkind : f.kind = .deserialization) :
      Ends q x (some (.error f), q, (q.channel.read hosting TaskChannel.resultKey x).2)
  | delivered {text : String} {payload : TaskPayload} {status : ObjectStatus}
      (hnext : x.service.upNext TaskChannel.resultKey = some text)
      (hread : TaskChannel.decode TaskChannel.resultKey (some text) = .ok (some payload))
      (hstatus : payload.status = some status) :
      Ends q x (some (.ok (some payload)), q.delivered status,
        (q.channel.read hosting TaskChannel.resultKey x).2)
  | dead {f : Failure} (hkind : f.kind = .sessionFailed) :
      Ends q x (some (.error f), q, (q.channel.read hosting TaskChannel.resultKey x).2)

variable {q : QueryResults} {x : Exchange Store}
  {r : Option (Except Failure (Option TaskPayload)) × QueryResults × Exchange Store}

theorem Ends.unmoved (h : q.Ends x r) : x.Unmoved r.2.2 ∧ r.2.1.receiver = q.receiver := by
  have hread : x.Unmoved (q.channel.read hosting TaskChannel.resultKey x).2 := by
    rw [TaskChannel.read_eq]
    exact ⟨rfl, rfl, rfl⟩
  cases h with
  | finished hterminated => exact ⟨⟨rfl, rfl, rfl⟩, rfl⟩
  | unreadable hnext hkind => exact ⟨hread, rfl⟩
  | delivered hnext hread' hstatus => exact ⟨hread, rfl⟩
  | dead hkind => exact ⟨hread, rfl⟩

theorem Ends.answered (h : q.Ends x r) : ∃ answer, r.1 = some answer := by
  cases h <;> exact ⟨_, rfl⟩

theorem step_ends (hhosts : x.service.Hosts q.channel.instanceId)
    (hstopped : x.service.isStopped q.channel.instanceId = true) :
    q.Ends x (step hosting (q, x)) := by
  have hread := TaskChannel.read_of_hosts hhosts TaskChannel.resultKey
  -- A read takes a payload away; the instance stays stopped.
  have hstill := (q.channel.read_follows hosting_follows TaskChannel.resultKey x).stopped _ hstopped
  have hdead : q.Ends x (q.await hosting (q.channel.read hosting TaskChannel.resultKey x).2) := by
    simp only [await, TaskChannel.ensureAlive_of_stopped hstill]
    exact .dead rfl
  unfold step
  dsimp only
  rw [hread]
  cases hdecode : TaskChannel.decode TaskChannel.resultKey
      (x.service.upNext TaskChannel.resultKey) with
  | error f =>
    obtain ⟨text, hnext⟩ := TaskChannel.exists_text_of_decode (by rw [hdecode]; simp)
    exact .unreadable hnext (TaskChannel.decode_error hdecode)
  | ok found =>
    cases found with
    | none => exact hdead
    | some payload =>
      cases hstatus : payload.status with
      | none => simpa only [hstatus] using hdead
      | some status =>
        obtain ⟨text, hnext⟩ := TaskChannel.exists_text_of_decode (by rw [hdecode]; simp)
        simp only [hstatus]
        exact .delivered hnext (hnext ▸ hdecode) hstatus

/-- The first round settles the pull, so it never comes to a wait. -/
theorem next_ends (hhosts : x.service.Hosts q.channel.instanceId)
    (hstopped : x.service.isStopped q.channel.instanceId = true) (rounds : Nat) :
    q.Ends x (q.next hosting (rounds + 1) x) := by
  unfold next
  split
  · next hterminated => exact .finished hterminated
  · have hends := step_ends hhosts hstopped
    obtain ⟨answer, hanswer⟩ := hends.answered
    rw [settle_of_settled hanswer]
    exact hends

end QueryResults

/-- A phase that is over stays over. -/
theorem SessionPhase.Moves.isTerminal {p q : SessionPhase} (h : p.Moves q)
    (hover : p.isTerminal = true) : q.isTerminal = true := by
  cases h with
  | stay => exact hover
  | fail hlater => exact hlater
  | begin => simp [SessionPhase.isTerminal] at hover
  | cancel => rfl

namespace InteractiveSession

/-- The session's handle and the service agree: it has the instance, and if the handle says that the
session was stopped, the session is over and the instance stopped. -/
structure Hosted (store : Store) (s : InteractiveSession) : Prop where
  begun : s.phase ≠ .notStarted
  hosts : store.Hosts s.channel.instanceId
  closed : s.stopped = true →
    s.phase.isTerminal = true ∧ store.isStopped s.channel.instanceId = true

variable {store store' : Store} {s s' : InteractiveSession} {x : Exchange Store}

theorem Hosted.retains (h : s.Hosted store) (hretains : store.Retains store') :
    s.Hosted store' where
  begun := h.begun
  hosts := hretains.hosts _ h.hosts
  closed hstopped := ⟨(h.closed hstopped).1, hretains.stopped _ (h.closed hstopped).2⟩

/-- A session that goes on without being stopped stays hosted. -/
theorem Hosted.goesOn (h : s.Hosted store) (hretains : store.Retains store')
    (hchannel : s'.channel = s.channel) (hstopped : s'.stopped = s.stopped)
    (hmoves : s.phase.Moves s'.phase) : s'.Hosted store' where
  begun := hmoves.ne_notStarted h.begun
  hosts := by
    rw [hchannel]
    exact hretains.hosts _ h.hosts
  closed hclosed := by
    rw [hstopped] at hclosed
    rw [hchannel]
    exact ⟨hmoves.isTerminal (h.closed hclosed).1, hretains.stopped _ (h.closed hclosed).2⟩

theorem stop_hosting (s : InteractiveSession) (x : Exchange Store) :
    s.stop hosting x = if s.stopped then (.ok (), s, x) else (.ok (), s.ended, { x with
      service := { x.service with stopped := s.channel.instanceId :: x.service.stopped } }) := by
  unfold stop
  split <;> rfl

theorem Hosted.stop (h : s.Hosted x.service) :
    (s.stop hosting x).2.1.Hosted (s.stop hosting x).2.2.service ∧
      (s.stop hosting x).2.1.stopped = true := by
  have hretains := s.stop_follows hosting_follows x
  rw [stop_hosting] at hretains ⊢
  split
  · next hstopped => exact ⟨h, hstopped⟩
  · next hopen =>
    rw [if_neg hopen] at hretains
    refine ⟨⟨(ended_moves h.begun).ne_notStarted h.begun, hretains.hosts _ h.hosts, ?_⟩, rfl⟩
    intro _
    refine ⟨?_, by simp [ended, Store.isStopped]⟩
    simp only [ended]
    split
    · next hover => exact hover
    · rfl

/-- Only a stop changes whether the handle says that the session was stopped. -/
theorem Made.stopped_eq {call : SessionCall} {events : List TaskEvent} {answer : SessionAnswer}
    (h : Made s call events answer s') (hphase : s.phase ≠ .notStarted) (hcall : call ≠ .stop) :
    s'.stopped = s.stopped := by
  cases h with
  | asked ha => exact (ha.watched hphase).same.2
  | waited hw => exact hw.same.2
  | progressed hw => exact hw.same.2
  | submitted | replied => rfl
  | again | refused | stopped => exact absurd rfl hcall

theorem Hosted.call (h : s.Hosted x.service) (call : SessionCall) :
    (call.make hosting s x).2.1.Hosted (call.make hosting s x).2.2.service := by
  have hmade := s.visit_made hosting call h.begun x
  have hproceeds := hmade.proceeds h.begun
  by_cases hcall : call = .stop
  · subst hcall
    exact h.stop.1
  · exact h.goesOn (call.make_follows hosting_follows s x) hproceeds.channel
      (hmade.stopped_eq h.begun hcall) hproceeds.moves

/-- A round of a wait is a question, after which the receiver may have caught up. -/
theorem waitStep_goesOn {σ : Type} (svc : InstanceService σ) (deadline : Option Nat)
    (hphase : s.phase ≠ .notStarted) (x : Exchange σ) :
    (waitStep svc deadline (s, x)).2.1.channel = s.channel ∧
      (waitStep svc deadline (s, x)).2.1.stopped = s.stopped ∧
      s.phase.Moves (waitStep svc deadline (s, x)).2.1.phase := by
  obtain ⟨events, answer, s₁, r, -, hasked, hleft⟩ :=
    waitStepped svc deadline s (x.watched TaskEvent)
  have hplain := waitStep_plain svc deadline (s, x.watched TaskEvent)
  simp only [Exchange.plain_watched] at hplain
  have hwatched := (hasked.watched hphase).noticed r
  rw [hplain, hleft]
  exact ⟨hwatched.same.1, hwatched.same.2, hwatched.moves⟩

theorem Hosted.round (h : s.Hosted x.service) (deadline : Option Nat) :
    (waitStep hosting deadline (s, x)).2.1.Hosted
      (waitStep hosting deadline (s, x)).2.2.service := by
  obtain ⟨hchannel, hstopped, hmoves⟩ := waitStep_goesOn hosting deadline h.begun x
  exact h.goesOn (waitStep_follows hosting_follows deadline (s, x)) hchannel hstopped hmoves

theorem Hosted.awaitStart (h : s.Hosted x.service) (rounds : Nat) (timeoutMs : Option Nat)
    (hs' : (Coordinator.awaitStart hosting rounds timeoutMs s x).1 = some (.ok s')) :
    s'.Hosted (Coordinator.awaitStart hosting rounds timeoutMs s x).2.service := by
  cases timeoutMs with
  | none =>
    obtain rfl := Except.ok.inj (Option.some.inj hs')
    exact h
  | some t =>
    have hwaited := h.call (.waitForStart rounds t)
    unfold SessionCall.make at hwaited
    unfold Coordinator.awaitStart at hs' ⊢
    dsimp only at hwaited hs' ⊢
    rcases hwait : s.waitForStart hosting rounds t x with ⟨answer, s₁, x₁⟩
    rw [hwait] at hs' hwaited
    match answer with
    | none => simp at hs'
    | some (.error f) => simp at hs'
    | some (.ok started) =>
      obtain rfl := Except.ok.inj (Option.some.inj hs')
      exact hwaited

theorem hosted_createInteractive (c : Coordinator) (rounds : Nat) (o : InteractiveOptions)
    (hs : (c.createInteractive hosting rounds o x).1 = some (.ok s)) :
    s.Hosted (c.createInteractive hosting rounds o x).2.service := by
  unfold Coordinator.createInteractive at hs ⊢
  cases hvalid : o.validate with
  | error f => simp [hvalid] at hs
  | ok valid =>
    simp only [hvalid] at hs ⊢
    refine Hosted.awaitStart ?_ _ _ hs
    refine ⟨by simp, hosts_createInstance _ (.inr rfl), by simp⟩

theorem hosted_make (c : Coordinator) (rounds : Nat) (call : CreationCall)
    (hs : (call.make c hosting rounds x).1 = some (.ok s)) :
    s.Hosted (call.make c hosting rounds x).2.service := by
  cases call with
  | create options => exact hosted_createInteractive c rounds options hs
  | attach name settings startTimeoutMs taskName =>
    simp only [CreationCall.make, Coordinator.attachInteractive] at hs ⊢
    cases hoptions : InteractiveOptions.attach name settings startTimeoutMs taskName with
    | error f => simp [hoptions] at hs
    | ok options =>
      simp only [hoptions] at hs ⊢
      exact hosted_createInteractive c rounds options hs

theorem isStarted_of_over {σ : Type} (svc : InstanceService σ) (hover : s.phase.isTerminal = true)
    (x : Exchange σ) : s.isStarted svc x = (.error s.notRunning, s, x) := by
  have hrunning : s.phase ≠ .running := by
    intro hphase
    simp [hphase, SessionPhase.isTerminal] at hover
  unfold isStarted
  rw [if_neg hrunning, if_pos hover]

theorem waitForStart_of_over {σ : Type} (svc : InstanceService σ)
    (hover : s.phase.isTerminal = true) (rounds : Nat) {timeoutMs : Nat} {x : Exchange σ}
    (hfit : timeoutMs = 0 ∨ x.now + timeoutMs < clockLimit) :
    s.waitForStart svc (rounds + 1) timeoutMs x = (some (.error s.notRunning), s, x) := by
  obtain ⟨deadline, hdeadline⟩ := exists_deadline hfit
  have hstep : waitStep svc deadline (s, x) = (some (.error s.notRunning), s, x) := by
    simp only [waitStep, waitTurn, isStarted_of_over svc hover]
  simp only [waitForStart, hdeadline]
  rw [← hstep]
  exact settle_of_settled (by rw [hstep]) rounds

end InteractiveSession

def SessionAnswer.submission : SessionAnswer → Option QueryResults
  | submitted (.ok q) => some q
  | _ => none

theorem SessionCall.submission_channel {σ : Type} (svc : InstanceService σ) (call : SessionCall)
    (s : InteractiveSession) (x : Exchange σ) {q : QueryResults}
    (hq : (call.make svc s x).1.submission = some q) : q.channel = s.channel := by
  cases call with
  | run sql settings =>
    simp only [SessionCall.make, InteractiveSession.run] at hq
    rcases hsent : s.channel.send svc TaskChannel.queryKey
      (InteractiveSession.queryText sql settings) x with ⟨reply, x₁⟩
    rw [hsent] at hq
    cases reply with
    | error f => simp [SessionAnswer.submission] at hq
    | ok reply =>
      obtain rfl := Option.some.inj hq
      rfl
  | _ => simp [SessionCall.make, SessionAnswer.submission] at hq

/-- Something else that happens: time passes, signals are sent, channels and tasks are scripted,
other protocols are used. It does not make the service forget an instance, or that it was
stopped. -/
structure Bystander where
  act : Exchange Store → Exchange Store
  retains : ∀ x : Exchange Store, x.service.Retains (act x).service

namespace Bystander

def scriptChannel (key : String) (payloads : List (Option String)) : Bystander where
  act x := { x with service := x.service.scriptChannel key payloads }
  retains _ := Store.retains_of_eq rfl rfl

def scriptTask (states : List (Option TaskStatus)) : Bystander where
  act x := { x with service := x.service.scriptTaskStates states }
  retains _ := Store.retains_of_eq rfl rfl

def pass (span : Nat) : Bystander where
  act x := { x with now := x.now + span }
  retains _ := Store.retains_of_eq rfl rfl

end Bystander

/-- The sessions of a service's clients, and the results of their queries, each with the number of
its session. The answers to all calls are kept. -/
structure Suite where
  exchange : Exchange Store
  sessions : List InteractiveSession := []
  results : List (Nat × QueryResults) := []
  answers : List (Nat × SessionAnswer) := []

/-- What can happen next. A pull or a wait that goes on while other things happen is a row of single
rounds. -/
inductive SuiteMove
  | create (c : Coordinator) (rounds : Nat) (call : CreationCall)
  | call (index : Nat) (call : SessionCall)
  | round (index : Nat) (deadline : Option Nat)
  | information (index : Nat) (key : String)
  | pull (index rounds : Nat)
  | other (b : Bystander)

namespace Suite

def take (p : Suite) : SuiteMove → Suite
  | .create c rounds call =>
    let r := call.make c hosting rounds p.exchange
    match r.1 with
    | some (.ok s) => { p with exchange := r.2, sessions := p.sessions ++ [s] }
    | _ => { p with exchange := r.2 }
  | .call index call =>
    match p.sessions[index]? with
    | some s =>
      let r := call.make hosting s p.exchange
      { exchange := r.2.2
        sessions := p.sessions.set index r.2.1
        results := p.results ++ (r.1.submission.map (index, ·)).toList
        answers := p.answers ++ [(index, r.1)] }
    | none => p
  | .round index deadline =>
    match p.sessions[index]? with
    | some s =>
      let r := InteractiveSession.waitStep hosting deadline (s, p.exchange)
      { p with exchange := r.2.2, sessions := p.sessions.set index r.2.1 }
    | none => p
  | .information index key =>
    match p.sessions[index]? with
    | some s => { p with exchange := (s.information hosting key p.exchange).2 }
    | none => p
  | .pull index rounds =>
    match p.results[index]? with
    | some (i, q) =>
      let r := q.next hosting rounds p.exchange
      { p with exchange := r.2.2, results := p.results.set index (i, r.2.1) }
    | none => p
  | .other b => { p with exchange := b.act p.exchange }

def run (p : Suite) (moves : List SuiteMove) : Suite :=
  moves.foldl take p

def Stopped (p : Suite) (index : Nat) : Prop :=
  (index, .stopped (.ok ())) ∈ p.answers

structure Kept (p : Suite) : Prop where
  hosted : ∀ s ∈ p.sessions, s.Hosted p.exchange.service
  stopped : ∀ i, p.Stopped i → ∃ s, p.sessions[i]? = some s ∧ s.stopped = true
  channels : ∀ i q, (i, q) ∈ p.results → ∃ s, p.sessions[i]? = some s ∧ q.channel = s.channel

variable {p : Suite}

theorem kept_start (x : Exchange Store) : ({ exchange := x } : Suite).Kept where
  hosted := by simp
  stopped := by simp [Stopped]
  channels := by simp

def CarriesOn (sessions sessions' : List InteractiveSession) : Prop :=
  ∀ (i : Nat) (s : InteractiveSession), sessions[i]? = some s →
    ∃ s' : InteractiveSession, sessions'[i]? = some s' ∧ s'.channel = s.channel ∧
      (s.stopped = true → s'.stopped = true)

theorem carriesOn_refl (sessions : List InteractiveSession) : CarriesOn sessions sessions :=
  fun _ s hget => ⟨s, hget, rfl, id⟩

theorem carriesOn_append (sessions more : List InteractiveSession) :
    CarriesOn sessions (sessions ++ more) := by
  intro i s hget
  obtain ⟨hlt, -⟩ := List.getElem?_eq_some_iff.mp hget
  exact ⟨s, (List.getElem?_append_left hlt).trans hget, rfl, id⟩

theorem carriesOn_set {sessions : List InteractiveSession} {index : Nat}
    {s s' : InteractiveSession} (hget : sessions[index]? = some s)
    (hchannel : s'.channel = s.channel) (hstopped : s.stopped = true → s'.stopped = true) :
    CarriesOn sessions (sessions.set index s') := by
  intro i t ht
  by_cases hi : index = i
  · subst hi
    obtain rfl := Option.some.inj (hget.symm.trans ht)
    obtain ⟨hlt, -⟩ := List.getElem?_eq_some_iff.mp hget
    exact ⟨s', List.getElem?_set_self hlt, hchannel, hstopped⟩
  · exact ⟨t, (List.getElem?_set_ne hi).trans ht, rfl, id⟩

/-- What a move must leave, so that the whole is kept. -/
theorem Kept.step (hp : p.Kept) {p' : Suite}
    (hretains : p.exchange.service.Retains p'.exchange.service)
    (hcarries : CarriesOn p.sessions p'.sessions)
    (hhosted : ∀ s ∈ p'.sessions, s ∈ p.sessions ∨ s.Hosted p'.exchange.service)
    (hstopped : ∀ i, p'.Stopped i →
      p.Stopped i ∨ ∃ s, p'.sessions[i]? = some s ∧ s.stopped = true)
    (hchannels : ∀ i q, (i, q) ∈ p'.results →
      (∃ q₀, (i, q₀) ∈ p.results ∧ q.channel = q₀.channel) ∨
        ∃ s, p.sessions[i]? = some s ∧ q.channel = s.channel) : p'.Kept where
  hosted s hs := (hhosted s hs).elim (fun hold => (hp.hosted s hold).retains hretains) id
  stopped i hi := by
    rcases hstopped i hi with hold | hnew
    · obtain ⟨s, hget, hover⟩ := hp.stopped i hold
      obtain ⟨s', hget', -, hstays⟩ := hcarries i s hget
      exact ⟨s', hget', hstays hover⟩
    · exact hnew
  channels i q hq := by
    have hbefore : ∃ s, p.sessions[i]? = some s ∧ q.channel = s.channel := by
      rcases hchannels i q hq with ⟨q₀, hq₀, hsame⟩ | hnew
      · obtain ⟨s, hget, hchannel⟩ := hp.channels i q₀ hq₀
        exact ⟨s, hget, hsame.trans hchannel⟩
      · exact hnew
    obtain ⟨s, hget, hchannel⟩ := hbefore
    obtain ⟨s', hget', hsame, -⟩ := hcarries i s hget
    exact ⟨s', hget', hchannel.trans hsame.symm⟩

/-- What goes on beside the sessions leaves them as they are. -/
theorem Kept.beside (hp : p.Kept) {x : Exchange Store}
    (hretains : p.exchange.service.Retains x.service) :
    ({ p with exchange := x } : Suite).Kept :=
  hp.step hretains (carriesOn_refl _) (fun _ hs => .inl hs) (fun _ hi => .inl hi)
    fun _ q hq => .inl ⟨q, hq, rfl⟩

theorem Kept.create (hp : p.Kept) (c : Coordinator) (rounds : Nat) (call : CreationCall) :
    (p.take (.create c rounds call)).Kept := by
  have hretains := call.make_follows hosting_follows c rounds p.exchange
  simp only [take]
  split
  · next s hs =>
    refine hp.step hretains (carriesOn_append _ _) ?_ (fun _ hi => .inl hi)
      fun _ q hq => .inl ⟨q, hq, rfl⟩
    intro t ht
    refine (List.mem_append.mp ht).imp_right fun ht => ?_
    obtain rfl := List.mem_singleton.mp ht
    exact InteractiveSession.hosted_make c rounds call hs
  · exact hp.beside hretains

theorem Kept.call (hp : p.Kept) (index : Nat) (call : SessionCall) :
    (p.take (.call index call)).Kept := by
  simp only [take]
  split
  · next s hget =>
    have hs := hp.hosted s (List.mem_of_getElem? hget)
    have hmade := s.visit_made hosting call hs.begun p.exchange
    have hstopped := hmade.stopped_iff hs.begun
    refine hp.step (call.make_follows hosting_follows s p.exchange)
      (carriesOn_set hget (hmade.proceeds hs.begun).channel fun h => hstopped.mpr (.inl h)) ?_ ?_ ?_
    · intro t ht
      refine (List.mem_or_eq_of_mem_set ht).imp_right ?_
      rintro rfl
      exact hs.call call
    · intro i hi
      refine (List.mem_append.mp hi).imp_right fun hi => ?_
      obtain ⟨rfl, hanswer⟩ := Prod.mk.inj (List.mem_singleton.mp hi)
      obtain ⟨hlt, -⟩ := List.getElem?_eq_some_iff.mp hget
      exact ⟨_, List.getElem?_set_self hlt, hstopped.mpr (.inr hanswer.symm)⟩
    · intro i q hq
      rcases List.mem_append.mp hq with hq | hq
      · exact .inl ⟨q, hq, rfl⟩
      · obtain ⟨q', hq', heq⟩ := Option.map_eq_some_iff.mp (Option.mem_toList.mp hq)
        obtain ⟨rfl, rfl⟩ := Prod.mk.inj heq
        exact .inr ⟨s, hget, call.submission_channel hosting s p.exchange hq'⟩
  · exact hp

theorem Kept.round (hp : p.Kept) (index : Nat) (deadline : Option Nat) :
    (p.take (.round index deadline)).Kept := by
  simp only [take]
  split
  · next s hget =>
    have hs := hp.hosted s (List.mem_of_getElem? hget)
    obtain ⟨hchannel, hstopped, -⟩ :=
      InteractiveSession.waitStep_goesOn hosting deadline hs.begun p.exchange
    refine hp.step
      (InteractiveSession.waitStep_follows hosting_follows deadline (s, p.exchange))
      (carriesOn_set hget hchannel fun h => hstopped.trans h) ?_ (fun _ hi => .inl hi)
      fun _ q hq => .inl ⟨q, hq, rfl⟩
    intro t ht
    refine (List.mem_or_eq_of_mem_set ht).imp_right ?_
    rintro rfl
    exact hs.round deadline
  · exact hp

theorem Kept.pull (hp : p.Kept) (index rounds : Nat) : (p.take (.pull index rounds)).Kept := by
  simp only [take]
  split
  · next i q hget =>
    have hsame := (q.watch_pulled hosting rounds p.exchange).same.1
    refine hp.step (q.next_follows hosting_follows rounds p.exchange) (carriesOn_refl _)
      (fun _ hs => .inl hs) (fun _ hi => .inl hi) ?_
    intro j q' hq'
    rcases List.mem_or_eq_of_mem_set hq' with hq' | heq
    · exact .inl ⟨q', hq', rfl⟩
    · obtain ⟨rfl, rfl⟩ := Prod.mk.inj heq
      exact .inl ⟨q, List.mem_of_getElem? hget, hsame⟩
  · exact hp

theorem Kept.take (hp : p.Kept) (m : SuiteMove) : (p.take m).Kept := by
  cases m with
  | create c rounds call => exact hp.create c rounds call
  | call index call => exact hp.call index call
  | round index deadline => exact hp.round index deadline
  | information index key =>
    simp only [Suite.take]
    split
    · next s hget => exact hp.beside (s.information_follows hosting_follows key p.exchange)
    · exact hp
  | pull index rounds => exact hp.pull index rounds
  | other b => exact hp.beside (b.retains p.exchange)

theorem Kept.run (hp : p.Kept) (moves : List SuiteMove) : (p.run moves).Kept := by
  induction moves generalizing p with
  | nil => exact hp
  | cons m rest ih => exact ih (hp.take m)

structure Unwaited (p : Suite) (index : Nat) (s : InteractiveSession) : Prop where
  current : p.sessions[index]? = some s
  failure : s.notRunning.kind = .sessionFailed
  /-- A question about the start fails, and nothing is read for it. -/
  asked : s.isStarted hosting p.exchange = (.error s.notRunning, s, p.exchange)
  /-- So does a wait without a deadline, or with one that the clock can hold. -/
  waited : ∀ rounds timeoutMs, timeoutMs = 0 ∨ p.exchange.now + timeoutMs < clockLimit →
    s.waitForStart hosting (rounds + 1) timeoutMs p.exchange =
      (some (.error s.notRunning), s, p.exchange)
  /-- A wait with any other deadline asks nothing and never answers. -/
  unanswered : ∀ rounds timeoutMs, timeoutMs ≠ 0 → clockLimit ≤ p.exchange.now + timeoutMs →
    s.waitForStart hosting rounds timeoutMs p.exchange = (none, s, p.exchange)
  /-- A pull of the results of any of its queries ends with its first round. -/
  pulled : ∀ q, (index, q) ∈ p.results → ∀ rounds,
    q.Ends p.exchange (q.next hosting (rounds + 1) p.exchange)
  /-- No time passes meanwhile. -/
  unmoved : ∀ q, (index, q) ∈ p.results → ∀ rounds,
    p.exchange.Unmoved (q.next hosting (rounds + 1) p.exchange).2.2

theorem Kept.unwaited (hp : p.Kept) {index : Nat} (hstopped : p.Stopped index) :
    ∃ s, p.Unwaited index s := by
  obtain ⟨s, hget, hclosed⟩ := hp.stopped index hstopped
  have hs := hp.hosted s (List.mem_of_getElem? hget)
  obtain ⟨hphase, hnoted⟩ := hs.closed hclosed
  have hpulled : ∀ q, (index, q) ∈ p.results → ∀ rounds,
      q.Ends p.exchange (q.next hosting (rounds + 1) p.exchange) := by
    intro q hq rounds
    obtain ⟨s', hget', hchannel⟩ := hp.channels index q hq
    obtain rfl := Option.some.inj (hget.symm.trans hget')
    refine QueryResults.next_ends ?_ ?_ rounds
    · rw [hchannel]
      exact hs.hosts
    · rw [hchannel]
      exact hnoted
  exact ⟨s,
    { current := hget
      failure := rfl
      asked := s.isStarted_of_over hosting hphase p.exchange
      waited := fun rounds _ hfit => s.waitForStart_of_over hosting hphase rounds hfit
      unanswered := fun rounds _ h0 hunfit =>
        s.waitForStart_of_unfit hosting h0 hunfit rounds
      pulled := hpulled
      unmoved := fun q hq rounds => (hpulled q hq rounds).unmoved.1 }⟩

end Suite

/-- Whatever clients do with their sessions, whatever else happens, and whatever is scripted: once a
stop of a session has succeeded, nothing waits for it any more. Only a wait whose deadline the clock
cannot hold gives no answer, as for any other session. -/
theorem stop_ends_waiting (x : Exchange Store) (moves : List SuiteMove) (index : Nat)
    (hstopped : (({ exchange := x } : Suite).run moves).Stopped index) :
    ∃ s, (({ exchange := x } : Suite).run moves).Unwaited index s :=
  ((Suite.kept_start x).run moves).unwaited hstopped

/-- A session with a query is stopped while its task runs and a payload without a status is queued;
another query is submitted after that. -/
def stoppedEarly : List SuiteMove :=
  [.create { project := "p" } 0 (.create {}), .call 0 (.run "SELECT 1" ∅),
    .other (.scriptTask [some .running]), .other (.scriptChannel "result" [none, some "\x7b\x7d"]),
    .pull 0 1, .call 0 .stop, .call 0 (.run "SELECT 2" ∅), .other (.pass 1000)]

theorem stop_ends_waiting_early :
    (({ exchange := { service := {} } } : Suite).run stoppedEarly).results.length = 2 ∧
      ∃ s, (({ exchange := { service := {} } } : Suite).run stoppedEarly).Unwaited 0 s :=
  ⟨rfl, stop_ends_waiting _ stoppedEarly 0 (.tail _ (.head _))⟩

/-- On a stopped session a wait without a deadline fails at once, but with the longest timeout that
a caller can give it never does. -/
theorem longest_wait_outlasts_stop :
    (({ exchange := { service := {} } } : Suite).run stoppedEarly).Stopped 0 ∧
      ∃ s, (({ exchange := { service := {} } } : Suite).run stoppedEarly).sessions[0]? = some s ∧
        (s.waitForStart hosting 1 0
          (({ exchange := { service := {} } } : Suite).run stoppedEarly).exchange).1.map
            (·.mapError (·.kind)) = some (.error .sessionFailed) ∧
        ∀ rounds, (s.waitForStart hosting rounds 18446744073709551615000
          (({ exchange := { service := {} } } : Suite).run stoppedEarly).exchange).1 = none :=
  ⟨.tail _ (.head _), _, rfl, rfl, fun _ => rfl⟩

end TableExchange
