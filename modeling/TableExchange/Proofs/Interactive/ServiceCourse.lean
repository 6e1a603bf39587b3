import TableExchange.Proofs.Interactive.Creation
import TableExchange.Proofs.Interactive.ResultPulls
import TableExchange.Proofs.Interactive.SessionRuns

/-!
The course that a service's state takes. A relation that every single request follows, from the
state it finds to the state it leaves, is followed by everything that is made of requests: reads and
checks of a task, calls on a session, pulls of results, and creations.
-/
namespace TableExchange

variable {σ α : Type}

/-- Every request takes the state along a relation, and so do requests in a row. -/
structure InstanceService.Follows (svc : InstanceService σ) (R : σ → σ → Prop) : Prop where
  refl : ∀ s, R s s
  trans : ∀ {s₁ s₂ s₃}, R s₁ s₂ → R s₂ s₃ → R s₁ s₃
  createInstance : ∀ r s, R s (svc.createInstance r s).2
  taskInfo : ∀ id task key s, R s (svc.taskInfo id task key s).2
  setTaskInfo : ∀ id task key value s, R s (svc.setTaskInfo id task key value s).2
  taskStatus : ∀ id task s, R s (svc.taskStatus id task s).2
  taskResult : ∀ id task s, R s (svc.taskResult id task s).2
  stopInstance : ∀ id s, R s (svc.stopInstance id s).2
  logView : ∀ id s, R s (svc.logView id s).2

section

variable {svc : InstanceService σ} {R : σ → σ → Prop}

/-- A request that was asked leaves the state where the relation leads. -/
theorem Exchange.follows_ask {x x' : Exchange σ} {request : σ → Reply σ α}
    {answer : Except Failure α} (hrequest : ∀ s, R s (request s).2)
    (hask : x.ask request = (answer, x')) : R x.service x'.service := by
  have hstep := hrequest x.service
  rwa [Exchange.request_of_ask hask] at hstep

namespace TaskChannel

theorem read_follows (h : svc.Follows R) (c : TaskChannel) (key : String) (x : Exchange σ) :
    R x.service (c.read svc key x).2.service := by
  rw [read_eq]
  exact h.taskInfo _ _ _ _

theorem send_follows (h : svc.Follows R) (c : TaskChannel) (key value : String)
    (x : Exchange σ) : R x.service (c.send svc key value x).2.service :=
  h.setTaskInfo _ _ _ _ _

theorem ensureAlive_follows (h : svc.Follows R) (c : TaskChannel) (x : Exchange σ) :
    R x.service (c.ensureAlive svc x).2.service := by
  unfold ensureAlive
  rcases hstatus : x.ask (svc.taskStatus c.instanceId c.taskName) with ⟨answer, x₁⟩
  have hfirst := Exchange.follows_ask (h.taskStatus _ _) hstatus
  match answer with
  | .error f => exact hfirst
  | .ok none => exact hfirst
  | .ok (some status) =>
    dsimp only
    split
    · rcases hresult : x₁.ask (svc.taskResult c.instanceId c.taskName) with ⟨result, x₂⟩
      have hsecond := Exchange.follows_ask (h.taskResult _ _) hresult
      cases result with
      | error f => exact h.trans hfirst hsecond
      | ok result => exact h.trans hfirst hsecond
    · exact hfirst

end TaskChannel

namespace InteractiveSession

theorem checkTask_follows (h : svc.Follows R) (s : InteractiveSession) (x : Exchange σ) :
    R x.service (s.checkTask svc x).2.2.service := by
  have halive := s.channel.ensureAlive_follows h x
  unfold checkTask
  rcases hverdict : s.channel.ensureAlive svc x with ⟨verdict, x₁⟩
  rw [hverdict] at halive
  cases verdict with
  | error f => exact halive
  | ok done => exact halive

theorem probe_follows (h : svc.Follows R) (s : InteractiveSession) (x : Exchange σ) :
    R x.service (s.probe svc x).2.2.service := by
  have hread := s.channel.read_follows h TaskChannel.statusKey x
  unfold probe
  rcases hfound : s.channel.read svc TaskChannel.statusKey x with ⟨found, x₁⟩
  rw [hfound] at hread
  have hcheck := h.trans hread (s.checkTask_follows h x₁)
  match found with
  | .error f => exact hread
  | .ok none => exact hcheck
  | .ok (some payload) =>
    dsimp only
    split
    · exact hcheck
    · exact hread

theorem isStarted_follows (h : svc.Follows R) (s : InteractiveSession) (x : Exchange σ) :
    R x.service (s.isStarted svc x).2.2.service := by
  unfold isStarted
  split
  · exact h.refl _
  split
  · exact h.refl _
  · exact s.probe_follows h x

theorem waitStep_follows (h : svc.Follows R) (deadline : Option Nat)
    (t : InteractiveSession × Exchange σ) :
    R t.2.service (waitStep svc deadline t).2.2.service := by
  obtain ⟨answer, s', x', r, hasked, -, hend⟩ := (round svc deadline t.1 t.2).asked
  have hfollows := t.1.isStarted_follows h t.2
  rw [hasked] at hfollows
  rcases hend with hend | ⟨span, -, hend⟩
  · rw [hend]
    exact hfollows
  · rw [hend, Exchange.service_sleep]
    exact hfollows

theorem waitForStart_follows (h : svc.Follows R) (rounds timeoutMs : Nat) (s : InteractiveSession)
    (x : Exchange σ) : R x.service (s.waitForStart svc rounds timeoutMs x).2.2.service := by
  unfold waitForStart
  cases deadline? x.now timeoutMs with
  | none => exact h.refl _
  | some deadline =>
    refine settle_keeps (Q := fun _ (t : InteractiveSession × Exchange σ) =>
      R x.service t.2.service) ?_ rounds (s, x) (h.refl _)
    intro t ht
    exact h.trans ht (waitStep_follows h deadline t)

theorem startProgress_follows (h : svc.Follows R) (s : InteractiveSession) (x : Exchange σ) :
    R x.service (s.startProgress svc x).2.2.service := by
  have hasked := s.isStarted_follows h x
  unfold startProgress
  split
  · rcases hanswer : s.isStarted svc x with ⟨answer, s₁, x₁⟩
    rw [hanswer] at hasked
    cases answer with
    | error f => exact hasked
    | ok started => exact hasked
  · exact h.refl _

theorem run_follows (h : svc.Follows R) (sql : String) (settings : Settings)
    (s : InteractiveSession) (x : Exchange σ) :
    R x.service (s.run svc sql settings x).2.service := by
  have hsent := s.channel.send_follows h TaskChannel.queryKey (queryText sql settings) x
  unfold run
  rcases hreply : s.channel.send svc TaskChannel.queryKey (queryText sql settings) x
    with ⟨reply, x₁⟩
  rw [hreply] at hsent
  cases reply with
  | error f => exact hsent
  | ok reply => exact hsent

theorem information_follows (h : svc.Follows R) (key : String) (s : InteractiveSession)
    (x : Exchange σ) : R x.service (s.information svc key x).2.service := by
  have hread := s.channel.read_follows h key x
  unfold information
  rcases hfound : s.channel.read svc key x with ⟨found, x₁⟩
  rw [hfound] at hread
  cases found with
  | error f => exact hread
  | ok payload => exact hread

theorem stop_follows (h : svc.Follows R) (s : InteractiveSession) (x : Exchange σ) :
    R x.service (s.stop svc x).2.2.service := by
  unfold stop
  split
  · exact h.refl _
  · rcases hask : x.ask (svc.stopInstance s.channel.instanceId) with ⟨answer, x₁⟩
    have hstopped := Exchange.follows_ask (h.stopInstance _) hask
    cases answer with
    | error f => exact hstopped
    | ok done => exact hstopped

end InteractiveSession

theorem SessionCall.make_follows (h : svc.Follows R) (call : SessionCall)
    (s : InteractiveSession) (x : Exchange σ) : R x.service (call.make svc s x).2.2.service := by
  cases call with
  | isStarted => exact s.isStarted_follows h x
  | waitForStart rounds timeoutMs => exact s.waitForStart_follows h rounds timeoutMs x
  | startProgress => exact s.startProgress_follows h x
  | run sql settings => exact s.run_follows h sql settings x
  | setInformation key value => exact s.channel.send_follows h key value x
  | stop => exact s.stop_follows h x

namespace QueryResults

theorem await_follows (h : svc.Follows R) (q : QueryResults) (x : Exchange σ) :
    R x.service (q.await svc x).2.2.service := by
  have halive := q.channel.ensureAlive_follows h x
  unfold await
  rcases hverdict : q.channel.ensureAlive svc x with ⟨verdict, x₁⟩
  rw [hverdict] at halive
  cases verdict with
  | error f => exact halive
  | ok done =>
    have hservice := x₁.service_sleep q.receiver q.pollMs
    rcases hslept : x₁.sleep q.receiver q.pollMs with ⟨cut, r, x₂⟩
    rw [hslept] at hservice
    simp only [hslept]
    cases cut with
    | true => exact hservice ▸ halive
    | false => exact hservice ▸ halive

theorem step_follows (h : svc.Follows R) (t : QueryResults × Exchange σ) :
    R t.2.service (step svc t).2.2.service := by
  obtain ⟨q, x⟩ := t
  have hread := q.channel.read_follows h TaskChannel.resultKey x
  unfold step
  dsimp only
  rcases hfound : q.channel.read svc TaskChannel.resultKey x with ⟨found, x₁⟩
  rw [hfound] at hread
  have hawaited := h.trans hread (q.await_follows h x₁)
  match found with
  | .error f => exact hread
  | .ok none => exact hawaited
  | .ok (some payload) =>
    dsimp only
    split
    · exact hread
    · exact hawaited

theorem next_follows (h : svc.Follows R) (rounds : Nat) (q : QueryResults) (x : Exchange σ) :
    R x.service (q.next svc rounds x).2.2.service := by
  unfold next
  split
  · exact h.refl _
  · refine settle_keeps (Q := fun _ (t : QueryResults × Exchange σ) =>
      R x.service t.2.service) ?_ rounds (q, x) (h.refl _)
    intro t ht
    exact h.trans ht (step_follows h t)

end QueryResults

namespace Coordinator

theorem awaitStart_follows (h : svc.Follows R) (rounds : Nat) (timeoutMs : Option Nat)
    (s : InteractiveSession) (x : Exchange σ) :
    R x.service (awaitStart svc rounds timeoutMs s x).2.service := by
  unfold awaitStart
  cases timeoutMs with
  | none => exact h.refl _
  | some t =>
    have hwaited := s.waitForStart_follows h rounds t x
    dsimp only
    rcases hanswer : s.waitForStart svc rounds t x with ⟨answer, s₁, x₁⟩
    rw [hanswer] at hwaited
    match answer with
    | none => exact hwaited
    | some (.error f) => exact hwaited
    | some (.ok started) => exact hwaited

theorem createInteractive_follows (h : svc.Follows R) (c : Coordinator) (rounds : Nat)
    (o : InteractiveOptions) (x : Exchange σ) :
    R x.service (c.createInteractive svc rounds o x).2.service := by
  unfold createInteractive
  cases o.validate with
  | error f => exact h.refl _
  | ok valid =>
    dsimp only
    rcases hcreate : x.ask (svc.createInstance (c.instanceRequest o)) with ⟨answer, x₁⟩
    have hcreated := Exchange.follows_ask (h.createInstance _) hcreate
    cases answer with
    | error f => exact hcreated
    | ok id =>
      dsimp only
      rcases hview : x₁.ask (svc.logView id) with ⟨view, x₂⟩
      have hviewed := h.trans hcreated (Exchange.follows_ask (h.logView _) hview)
      cases view with
      | error f => exact hviewed
      | ok view => exact h.trans hviewed (awaitStart_follows h _ _ _ _)

end Coordinator

theorem CreationCall.make_follows (h : svc.Follows R) (c : Coordinator) (rounds : Nat)
    (call : CreationCall) (x : Exchange σ) :
    R x.service (call.make c svc rounds x).2.service := by
  cases call with
  | create options => exact c.createInteractive_follows h rounds options x
  | attach name settings startTimeoutMs taskName =>
    simp only [CreationCall.make, Coordinator.attachInteractive]
    cases InteractiveOptions.attach name settings startTimeoutMs taskName with
    | error f => exact h.refl _
    | ok options => exact c.createInteractive_follows h rounds options x

end

end TableExchange
