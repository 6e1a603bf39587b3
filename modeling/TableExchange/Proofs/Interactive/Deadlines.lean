import Mathlib.Order.Nat
import TableExchange.Console.Command
import TableExchange.Proofs.Interactive.Creation
import TableExchange.Proofs.Shutdown.Scene

/-!
Deadlines of waits for a start. Questions take no time, so a wait moves on the clock by its pauses
alone. With a deadline that the clock can hold it never passes that deadline, and until then it does
what a wait without a deadline does. With any other deadline it does not come to its first question.
-/
namespace TableExchange

variable {σ τ α : Type}

namespace Exchange

/-- The service and the counters of an exchange, amid the other surroundings of a second one. -/
def amid (x : Exchange σ) (y : Exchange τ) : Exchange σ :=
  { y with service := x.service, counters := x.counters }

@[simp] theorem now_amid (x : Exchange σ) (y : Exchange τ) : (x.amid y).now = y.now := rfl

theorem now_of_ask {x x' : Exchange σ} {request : σ → Reply σ α} {answer : Except Failure α}
    (h : x.ask request = (answer, x')) : x'.now = x.now := by
  obtain ⟨-, rfl⟩ := Prod.mk.inj h
  rfl

theorem ask_amid (x : Exchange σ) (y : Exchange τ) (request : σ → Reply σ α) :
    (x.amid y).ask request = ((x.ask request).1, (x.ask request).2.amid y) := rfl

/-- A wait may be cut short, but it lasts no longer than its span. -/
theorem now_sleep (x : Exchange σ) (r : Shutdown.Receiver) (span : Nat) :
    x.now ≤ (x.sleep r span).2.2.now ∧ (x.sleep r span).2.2.now ≤ x.now + span := by
  unfold sleep
  split
  · exact ⟨Nat.le_refl _, Nat.le_add_right _ _⟩
  · cases halarm : x.alarmBefore? (x.now + span) with
    | none => exact ⟨Nat.le_add_right _ _, Nat.le_refl _⟩
    | some alarm =>
      have hearly : alarm < x.now + span := by
        have hmem := List.min?_mem halarm
        simpa using (List.mem_filter.mp hmem).2
      simp only [ring]
      omega

/-- A bound on a wait that the wait does not reach makes no difference. -/
theorem sleep_of_unreached {x : Exchange σ} {r : Shutdown.Receiver} {span time : Nat}
    (h : (x.sleep r span).2.2.now < time) :
    x.sleep r (min span (time - x.now)) = x.sleep r span := by
  unfold sleep at h ⊢
  cases hunseen : r.hasUnseen x.shutdown with
  | true => simp
  | false =>
    simp only [hunseen, Bool.false_eq_true, if_false] at h ⊢
    cases halarm : x.alarmBefore? (x.now + span) with
    | none =>
      simp only [halarm] at h
      have hspan : min span (time - x.now) = span := by omega
      rw [hspan, halarm]
    | some alarm =>
      simp only [halarm, ring] at h
      obtain ⟨⟨hmem, hearly⟩, hleast⟩ := alarmBefore?_eq_some_iff.mp halarm
      have hbounded : x.alarmBefore? (x.now + min span (time - x.now)) = some alarm := by
        refine alarmBefore?_eq_some_iff.mpr ⟨⟨hmem, by omega⟩, fun b hb _ => ?_⟩
        exact hleast b hb (by omega)
      simp only [hbounded]

end Exchange

namespace TaskChannel

theorem read_amid (svc : InstanceService σ) (c : TaskChannel) (key : String) (x : Exchange σ)
    (y : Exchange τ) : c.read svc key (x.amid y) =
      ((c.read svc key x).1, (c.read svc key x).2.amid y) := by
  rw [read_eq, read_eq]
  rfl

theorem ensureAlive_amid (svc : InstanceService σ) (c : TaskChannel) (x : Exchange σ)
    (y : Exchange τ) : c.ensureAlive svc (x.amid y) =
      ((c.ensureAlive svc x).1, (c.ensureAlive svc x).2.amid y) := by
  unfold ensureAlive
  rw [Exchange.ask_amid]
  rcases x.ask (svc.taskStatus c.instanceId c.taskName) with ⟨answer, x₁⟩
  match answer with
  | .error f => rfl
  | .ok none => rfl
  | .ok (some state) =>
    cases hstate : state.isTerminal with
    | false => simp [hstate]
    | true =>
      simp only [hstate, if_true, Exchange.ask_amid]
      rcases x₁.ask (svc.taskResult c.instanceId c.taskName) with ⟨result, x₂⟩
      cases result <;> rfl

end TaskChannel

namespace InteractiveSession

theorem checkTask_amid (svc : InstanceService σ) (s : InteractiveSession) (x : Exchange σ)
    (y : Exchange τ) : s.checkTask svc (x.amid y) =
      ((s.checkTask svc x).1, (s.checkTask svc x).2.1, (s.checkTask svc x).2.2.amid y) := by
  unfold checkTask
  rw [TaskChannel.ensureAlive_amid]
  rcases s.channel.ensureAlive svc x with ⟨verdict, x₁⟩
  cases verdict <;> rfl

theorem probe_amid (svc : InstanceService σ) (s : InteractiveSession) (x : Exchange σ)
    (y : Exchange τ) : s.probe svc (x.amid y) =
      ((s.probe svc x).1, (s.probe svc x).2.1, (s.probe svc x).2.2.amid y) := by
  unfold probe
  rw [TaskChannel.read_amid]
  rcases s.channel.read svc TaskChannel.statusKey x with ⟨found, x₁⟩
  match found with
  | .error f => rfl
  | .ok none => exact s.checkTask_amid svc x₁ y
  | .ok (some payload) =>
    cases hstatus : payload.status with
    | none =>
      simp only [hstatus]
      exact s.checkTask_amid svc x₁ y
    | some status => simp only [hstatus]

/-- A question reads and changes the service and the counters only. -/
theorem isStarted_amid (svc : InstanceService σ) (s : InteractiveSession) (x : Exchange σ)
    (y : Exchange τ) : s.isStarted svc (x.amid y) =
      ((s.isStarted svc x).1, (s.isStarted svc x).2.1, (s.isStarted svc x).2.2.amid y) := by
  unfold isStarted
  split
  · rfl
  split
  · rfl
  · exact s.probe_amid svc x y

theorem amid_isStarted (svc : InstanceService σ) (s : InteractiveSession) (x : Exchange σ) :
    (s.isStarted svc x).2.2.amid x = (s.isStarted svc x).2.2 :=
  (congrArg (·.2.2) (s.isStarted_amid svc x x)).symm

theorem now_isStarted (svc : InstanceService σ) (s : InteractiveSession) (x : Exchange σ) :
    (s.isStarted svc x).2.2.now = x.now := by
  rw [← amid_isStarted, Exchange.now_amid]

theorem now_of_asked {svc : InstanceService σ} {s s' : InteractiveSession} {x x' : Exchange σ}
    {answer : Except Failure Bool} (h : s.isStarted svc x = (answer, s', x')) : x'.now = x.now := by
  have hnow := s.now_isStarted svc x
  rwa [h] at hnow

/-- A round never sets the clock back, nor on beyond its deadline. -/
theorem waitStep_clock (svc : InstanceService σ) (deadline : Option Nat) (s : InteractiveSession)
    (x : Exchange σ) :
    x.now ≤ (waitStep svc deadline (s, x)).2.2.now ∧
      ∀ d ∈ deadline, (waitStep svc deadline (s, x)).2.2.now ≤ max x.now d := by
  obtain ⟨answer, s', x', r, hasked, -, hend⟩ := (round svc deadline s x).asked
  have hnow := now_of_asked hasked
  rcases hend with hend | ⟨span, hwithin, hend⟩
  · rw [hend, hnow]
    exact ⟨le_refl _, fun _ _ => le_max_left _ _⟩
  · have hspan := x'.now_sleep s'.receiver span
    rw [hend]
    refine ⟨hnow.symm.le.trans hspan.1, fun d hd => ?_⟩
    exact (hspan.2.trans (hwithin d hd)).trans (le_max_right _ _)

/-- A round that begins by the deadline ends by the deadline. -/
theorem waitStep_within (svc : InstanceService σ) {d : Nat} (s : InteractiveSession)
    {x : Exchange σ} (h : x.now ≤ d) : (waitStep svc (some d) (s, x)).2.2.now ≤ d :=
  ((waitStep_clock svc (some d) s x).2 d rfl).trans (max_le h (le_refl d))

/-- A pause begins before the deadline and does not last beyond it. -/
theorem pause_within {svc : InstanceService σ} {d span : Nat} {s s' : InteractiveSession}
    {x x' : Exchange σ} (h : s.waitTurn svc (some d) x = (.pause span, s', x')) :
    x.now < d ∧ x.now + span ≤ d := by
  have hturn := turn svc (some d) s x
  rw [h] at hturn
  obtain ⟨answer, hasked⟩ := hturn.asked
  rw [← now_of_asked hasked]
  exact hturn.within d rfl

/-- A round does not depend on a deadline that comes after its end. -/
theorem waitStep_of_unreached {svc : InstanceService σ} {s : InteractiveSession} {x : Exchange σ}
    {d : Nat} (h : (waitStep svc none (s, x)).2.2.now < d) :
    waitStep svc (some d) (s, x) = waitStep svc none (s, x) := by
  rcases hasked : s.isStarted svc x with ⟨answer, s', x'⟩
  match answer with
  | .error f => simp only [waitStep, waitTurn, hasked]
  | .ok true => simp only [waitStep, waitTurn, hasked]
  | .ok false =>
    have hslept : (x'.sleep s'.receiver s'.pollMs).2.2.now < d := by
      simp only [waitStep, waitTurn, hasked, Option.any_none, Bool.false_eq_true, if_false,
        pauseSpan] at h
      rcases hsleep : x'.sleep s'.receiver s'.pollMs with ⟨cut, r, x₁⟩
      cases cut <;> simpa [hsleep] using h
    have hopen : (some d).any (· ≤ x'.now) = false := by
      have hlater := (x'.now_sleep s'.receiver s'.pollMs).1
      simpa using hlater.trans_lt hslept
    simp only [waitStep, waitTurn, hasked, hopen, Option.any_none, Bool.false_eq_true, if_false,
      pauseSpan, Exchange.sleep_of_unreached hslept]

theorem now_le_settle (svc : InstanceService σ) (deadline : Option Nat) (rounds : Nat)
    (t : InteractiveSession × Exchange σ) :
    t.2.now ≤ (settle (waitStep svc deadline) rounds t).2.2.now := by
  refine settle_keeps (Q := fun _ (t' : InteractiveSession × Exchange σ) => t.2.now ≤ t'.2.now)
    (fun t' h => ?_) rounds t (Nat.le_refl _)
  exact h.trans (waitStep_clock svc deadline t'.1 t'.2).1

theorem settle_within (svc : InstanceService σ) {d : Nat} (rounds : Nat)
    {t : InteractiveSession × Exchange σ} (h : t.2.now ≤ d) :
    (settle (waitStep svc (some d)) rounds t).2.2.now ≤ d :=
  settle_keeps (Q := fun _ (t' : InteractiveSession × Exchange σ) => t'.2.now ≤ d)
    (fun t' h' => waitStep_within svc t'.1 h') rounds t h

theorem settle_of_unreached {svc : InstanceService σ} {d rounds : Nat}
    {t : InteractiveSession × Exchange σ}
    (h : (settle (waitStep svc none) rounds t).2.2.now < d) :
    settle (waitStep svc (some d)) rounds t = settle (waitStep svc none) rounds t := by
  induction rounds generalizing t with
  | zero => rfl
  | succ rounds ih =>
    rcases hstep : waitStep svc none t with ⟨answer, t'⟩
    simp only [settle, hstep] at h ⊢
    -- The clock is never set back, so this round too ends before the deadline.
    have hreached : (waitStep svc none t).2.2.now < d := by
      rw [hstep]
      cases answer with
      | some a => exact h
      | none => exact (now_le_settle svc none rounds t').trans_lt h
    have hsame : waitStep svc (some d) t = (answer, t') :=
      (waitStep_of_unreached hreached).trans hstep
    rw [hsame]
    cases answer with
    | some a => rfl
    | none => exact ih h

theorem waitForStart_of_unreached {svc : InstanceService σ} {timeoutMs rounds : Nat}
    {s : InteractiveSession} {x : Exchange σ} (hfit : x.now + timeoutMs < clockLimit)
    (h : (s.waitForStart svc rounds 0 x).2.2.now < x.now + timeoutMs) :
    s.waitForStart svc rounds timeoutMs x = s.waitForStart svc rounds 0 x := by
  by_cases h0 : timeoutMs = 0
  · rw [h0]
  · rw [waitForStart_of_fit svc s h0 hfit]
    exact settle_of_unreached h

end InteractiveSession

namespace Coordinator

/-- A creation that waits is one that does not, and then the wait. -/
theorem createInteractive_await (c : Coordinator) (svc : InstanceService σ) (rounds : Nat)
    (o : InteractiveOptions) (timeoutMs : Option Nat) (x : Exchange σ) :
    c.createInteractive svc rounds { o with startTimeoutMs := timeoutMs } x =
      match c.createInteractive svc rounds { o with startTimeoutMs := none } x with
      | (some (.ok s), x') => awaitStart svc rounds timeoutMs s x'
      | created => created := by
  unfold createInteractive
  have hvalid (t : Option Nat) : ({ o with startTimeoutMs := t } : InteractiveOptions).validate =
      o.validate := rfl
  have hrequest (t : Option Nat) : c.instanceRequest { o with startTimeoutMs := t } =
      c.instanceRequest o := rfl
  simp only [hvalid, hrequest]
  cases o.validate with
  | error f => rfl
  | ok valid =>
    dsimp only
    rcases x.ask (svc.createInstance (c.instanceRequest o)) with ⟨answer, x₁⟩
    cases answer with
    | error f => rfl
    | ok id =>
      dsimp only
      rcases x₁.ask (svc.logView id) with ⟨view, x₂⟩
      cases view with
      | error f => rfl
      | ok view => rfl

/-- A creation that does not wait takes no time. -/
theorem now_createInteractive (c : Coordinator) (svc : InstanceService σ) (rounds : Nat)
    (o : InteractiveOptions) (x : Exchange σ) :
    (c.createInteractive svc rounds { o with startTimeoutMs := none } x).2.now = x.now := by
  unfold createInteractive
  cases ({ o with startTimeoutMs := none } : InteractiveOptions).validate with
  | error f => rfl
  | ok valid =>
    dsimp only
    rcases hcreate : x.ask (svc.createInstance
      (c.instanceRequest { o with startTimeoutMs := none })) with ⟨answer, x₁⟩
    have hcreated := Exchange.now_of_ask hcreate
    cases answer with
    | error f => exact hcreated
    | ok id =>
      dsimp only
      rcases hview : x₁.ask (svc.logView id) with ⟨view, x₂⟩
      have hviewed := (Exchange.now_of_ask hview).trans hcreated
      cases view with
      | error f => exact hviewed
      | ok view => exact hviewed

theorem now_awaitStart (svc : InstanceService σ) (rounds timeoutMs : Nat) (s : InteractiveSession)
    (x : Exchange σ) : (awaitStart svc rounds (some timeoutMs) s x).2.now =
      (s.waitForStart svc rounds timeoutMs x).2.2.now := by
  unfold awaitStart
  dsimp only
  rcases s.waitForStart svc rounds timeoutMs x with ⟨answer, s', x'⟩
  match answer with
  | none => rfl
  | some (.error f) => rfl
  | some (.ok started) => rfl

end Coordinator

structure TimeoutHonoured (svc : InstanceService σ) (x : Exchange σ) (timeoutMs : Nat) : Prop where
  /-- With a deadline that the clock cannot hold a wait asks nothing and never answers. -/
  unfit : timeoutMs ≠ 0 → clockLimit ≤ x.now + timeoutMs →
    ∀ (s : InteractiveSession) (rounds : Nat),
      s.waitForStart svc rounds timeoutMs x = (none, s, x)
  /-- With any other deadline the clock does not pass it. -/
  within : timeoutMs ≠ 0 → x.now + timeoutMs < clockLimit →
    ∀ (s : InteractiveSession) (rounds : Nat),
      (s.waitForStart svc rounds timeoutMs x).2.2.now ≤ x.now + timeoutMs
  /-- A pause begins before the deadline and does not last beyond it. -/
  pauses : ∀ (s s' : InteractiveSession) (y y' : Exchange σ) (span : Nat),
    s.waitTurn svc (some (x.now + timeoutMs)) y = (.pause span, s', y') →
      y.now < x.now + timeoutMs ∧ y.now + span ≤ x.now + timeoutMs
  /-- A deadline that the clock can hold makes no difference before it is reached. -/
  unreached : x.now + timeoutMs < clockLimit →
    ∀ (s : InteractiveSession) (rounds : Nat),
      (s.waitForStart svc rounds 0 x).2.2.now < x.now + timeoutMs →
        s.waitForStart svc rounds timeoutMs x = s.waitForStart svc rounds 0 x
  /-- A creation with any other deadline creates its instance, and then does not answer. -/
  created_unfit : timeoutMs ≠ 0 → clockLimit ≤ x.now + timeoutMs →
    ∀ (c : Coordinator) (o : InteractiveOptions) (rounds : Nat),
      c.createInteractive svc rounds { o with startTimeoutMs := some timeoutMs } x =
        match c.createInteractive svc rounds { o with startTimeoutMs := none } x with
        | (some (.ok _), x') => (none, x')
        | created => created
  created_unreached : x.now + timeoutMs < clockLimit →
    ∀ (c : Coordinator) (o : InteractiveOptions) (rounds : Nat),
      (c.createInteractive svc rounds { o with startTimeoutMs := some 0 } x).2.now <
          x.now + timeoutMs →
        c.createInteractive svc rounds { o with startTimeoutMs := some timeoutMs } x =
          c.createInteractive svc rounds { o with startTimeoutMs := some 0 } x

/-- Whatever the service answers, a start timeout is kept to if the clock can hold its deadline, and
otherwise nothing comes of the wait. -/
theorem start_timeout_honoured_within_clock (svc : InstanceService σ) (x : Exchange σ)
    (timeoutMs : Nat) : TimeoutHonoured svc x timeoutMs where
  unfit h0 hunfit s := InteractiveSession.waitForStart_of_unfit svc s h0 hunfit
  within h0 hfit s rounds := by
    rw [InteractiveSession.waitForStart_of_fit svc s h0 hfit]
    exact InteractiveSession.settle_within svc rounds (Nat.le_add_right _ _)
  pauses _ _ _ _ _ := InteractiveSession.pause_within
  unreached hfit _ _ := InteractiveSession.waitForStart_of_unreached hfit
  created_unfit h0 hunfit c o rounds := by
    rw [c.createInteractive_await svc rounds o (some timeoutMs) x]
    have hnow := c.now_createInteractive svc rounds o x
    rcases hcreated : c.createInteractive svc rounds { o with startTimeoutMs := none } x
      with ⟨created, x'⟩
    rw [hcreated] at hnow
    match created with
    | none => rfl
    | some (.error f) => rfl
    | some (.ok s) =>
      rw [← hnow] at hunfit
      have hstuck := InteractiveSession.waitForStart_of_unfit svc s h0 hunfit rounds
      simp only [Coordinator.awaitStart, hstuck]
  created_unreached hfit c o rounds := by
    rw [c.createInteractive_await svc rounds o (some timeoutMs) x,
      c.createInteractive_await svc rounds o (some 0) x]
    have hnow := c.now_createInteractive svc rounds o x
    rcases hcreated : c.createInteractive svc rounds { o with startTimeoutMs := none } x
      with ⟨created, x'⟩
    rw [hcreated] at hnow
    match created with
    | none => exact fun _ => rfl
    | some (.error f) => exact fun _ => rfl
    | some (.ok s) =>
      intro h
      rw [← hnow] at hfit h
      simp only [Coordinator.now_awaitStart] at h
      have hsame := InteractiveSession.waitForStart_of_unreached hfit h
      simp only [Coordinator.awaitStart, hsame]

/-- The answers to a query on a session that runs at once. -/
def promptAnswers : List (Except Failure (Option String)) :=
  [.ok (some "\x7b\"status\": 2\x7d"), .ok (some "\x7b\"status\": 5, \"result\": \"row 1\"\x7d")]

/-- A query that waits for its session for some seconds, with its printed lines. -/
def promptQuery (rounds timeoutSecs : Nat) : Option (List String) :=
  let query := Console.runQuery { project := "p" } .taped rounds "SELECT 1" none ∅ timeoutSecs
    { service := promptAnswers }
  query.1.map (·.printed)

/-- On a session that runs at once a query without a deadline prints its result, but with the
longest timeout that a caller can give nothing comes of it. -/
theorem longest_timeout_never_answers :
    promptQuery 2 0 = some ["row 1"] ∧ ∀ rounds, promptQuery rounds 18446744073709551615 = none :=
  ⟨by decide +kernel, fun _ => rfl⟩

end TableExchange
