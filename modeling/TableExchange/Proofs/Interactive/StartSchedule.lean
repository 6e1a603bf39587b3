import Mathlib.Algebra.Order.Floor.Div
import TableExchange.Proofs.Interactive.Deadlines

/-!
The times at which a wait for a start reads the status. Undisturbed, a wait reads at its start and
then once per poll interval; the last of the pauses is cut off at the deadline, and a last read
follows it. So a session is found running at the first of these times at which it runs, if any is
early enough, and otherwise the wait ends at the deadline.
-/
namespace TableExchange

variable {σ : Type}

def TaskEvent.readsStatus : TaskEvent → Bool
  | reading _ _ key _ => key == TaskChannel.statusKey
  | _ => false

theorem TaskChannel.Checked.no_status_read {c : TaskChannel} {checks : List TaskEvent}
    {answer : Except Failure Unit} (h : c.Checked checks answer) :
    checks.filter TaskEvent.readsStatus = [] := by
  cases h <;> rfl

namespace InteractiveSession

section Probed

variable {s s' : InteractiveSession} {events : List TaskEvent} {answer : Except Failure Bool}

theorem Asked.probed_of_starting (h : Asked s events answer s') (hphase : s.phase = .starting) :
    Probed s events answer s' := by
  cases h with
  | runs hruns => simp [hphase] at hruns
  | closed hover => simp [hphase, SessionPhase.isTerminal] at hover
  | probed hundecided hprobed => exact hprobed

/-- A question to a session that starts reads the status exactly once. -/
theorem Probed.one_status_read (h : Probed s events answer s') :
    ∃ e, events.filter TaskEvent.readsStatus = [e] := by
  cases h with
  | unread hread => exact ⟨_, rfl⟩
  | observed hread hstatus => exact ⟨_, rfl⟩
  | @alive text checks hsilent hcheck =>
    refine ⟨s.channel.reading TaskChannel.statusKey text, ?_⟩
    rw [List.filter_cons_of_pos rfl, hcheck.no_status_read]
  | @halted text checks f hsilent hcheck =>
    refine ⟨s.channel.reading TaskChannel.statusKey text, ?_⟩
    rw [List.filter_cons_of_pos rfl, hcheck.no_status_read]

/-- A session that was found not to run yet still starts. -/
theorem Probed.phase_of_false (h : Probed s events (.ok false) s') : s'.phase = s.phase := by
  generalize hanswer : Except.ok false = answer at h
  cases h with
  | unread hread => rfl
  | @observed _ payload status hread hstatus =>
    cases status with
    | other code => exact launching_phase s payload.nonEmptyResult
    | _ => simp [observe] at hanswer
  | alive hsilent hcheck => rfl
  | halted hsilent hcheck => simp at hanswer

theorem Probed.phase_of_true (h : Probed s events (.ok true) s') : s'.phase = .running := by
  generalize hanswer : Except.ok true = answer at h
  cases h with
  | unread hread => simp at hanswer
  | @observed _ payload status hread hstatus =>
    cases status with
    | running => rfl
    | other code =>
      simp only [observe, launching] at hanswer
      split at hanswer
      · simp at hanswer
      · split at hanswer <;> simp at hanswer
    | _ => simp [observe] at hanswer
  | alive hsilent hcheck => simp at hanswer
  | halted hsilent hcheck => simp at hanswer

end Probed

/-- Asked again and again, the session is found not to run yet for a number of times, and then it is
found running. -/
def StartsAfter (svc : InstanceService σ) : Nat → InteractiveSession → Exchange σ → Prop
  | 0, s, x => (s.isStarted svc x).1 = .ok true
  | n + 1, s, x => (s.isStarted svc x).1 = .ok false ∧
      StartsAfter svc n (s.isStarted svc x).2.1 (s.isStarted svc x).2.2

theorem answered_iff {answer : Except Failure Bool} {runs : Bool} :
    answer.toOption = some runs ↔ answer = .ok runs := by
  cases answer <;> simp [Except.toOption]

instance decidableStartsAfter (svc : InstanceService σ) :
    (n : Nat) → (s : InteractiveSession) → (x : Exchange σ) → Decidable (StartsAfter svc n s x)
  | 0, _, _ => decidable_of_iff _ answered_iff
  | n + 1, s, x =>
    have := decidableStartsAfter svc n (s.isStarted svc x).2.1 (s.isStarted svc x).2.2
    decidable_of_iff _ (and_congr_left' answered_iff)

/-- When the questions are asked has no part in it. -/
theorem startsAfter_amid {τ : Type} {svc : InstanceService σ} {n : Nat} {s : InteractiveSession}
    {x : Exchange σ} (y : Exchange τ) :
    StartsAfter svc n s (x.amid y) ↔ StartsAfter svc n s x := by
  induction n generalizing s x with
  | zero => simp only [StartsAfter, isStarted_amid]
  | succ n ih => simp only [StartsAfter, isStarted_amid, ih]

theorem startsAfter_journaled {svc : InstanceService σ} {n : Nat} {s : InteractiveSession}
    {y : Exchange (σ × List TaskEvent)} :
    StartsAfter svc.journaled n s y ↔ StartsAfter svc n s y.plain := by
  induction n generalizing s y with
  | zero => simp only [StartsAfter, isStarted_plain]
  | succ n ih => simp only [StartsAfter, isStarted_plain, ih]

/-- The requests of a wait, each with the time at which it was made. A round makes all its requests
before its pause. -/
def timedRequests (svc : InstanceService σ) (deadline : Option Nat) :
    Nat → InteractiveSession × Exchange (σ × List TaskEvent) → List (Nat × TaskEvent)
  | 0, _ => []
  | rounds + 1, t =>
    let after := waitStep svc.journaled deadline t
    let made := (after.2.2.journal.drop t.2.journal.length).map fun e => (t.2.now, e)
    match after.1 with
    | some _ => made
    | none => made ++ timedRequests svc deadline rounds after.2

def readTimes (requests : List (Nat × TaskEvent)) : List Nat :=
  (requests.filter (·.2.readsStatus)).map (·.1)

theorem readTimes_append (requests later : List (Nat × TaskEvent)) :
    readTimes (requests ++ later) = readTimes requests ++ readTimes later := by
  simp [readTimes]

theorem length_readTimes (requests : List (Nat × TaskEvent)) :
    (readTimes requests).length = (requests.map (·.2)).countP TaskEvent.readsStatus := by
  simp [readTimes, List.countP_eq_length_filter, List.filter_map, Function.comp_def]

/-- The requests are those of the whole wait, in their order. -/
theorem map_timedRequests (svc : InstanceService σ) (deadline : Option Nat) (rounds : Nat)
    (t : InteractiveSession × Exchange (σ × List TaskEvent)) :
    t.2.journal ++ (timedRequests svc deadline rounds t).map (·.2) =
      (settle (waitStep svc.journaled deadline) rounds t).2.2.journal := by
  induction rounds generalizing t with
  | zero => simp [timedRequests, settle]
  | succ rounds ih =>
    obtain ⟨events, -, -, -, hjournal, -⟩ := waitStepped svc deadline t.1 t.2
    rcases hround : waitStep svc.journaled deadline t with ⟨answer, t'⟩
    have hmade : t'.2.journal = t.2.journal ++ events := by simpa [hround] using hjournal
    cases answer with
    | some a => simp [timedRequests, settle, hround, hmade]
    | none =>
      simp only [timedRequests, settle, hround, hmade, List.drop_left, List.map_append,
        List.map_map, Function.comp_def, List.map_id', ← ih t']
      simp

/-- A round of a session that starts reads the status once, at its beginning. -/
theorem readTimes_succ (svc : InstanceService σ) (deadline : Option Nat) (rounds : Nat)
    {t : InteractiveSession × Exchange (σ × List TaskEvent)} (hphase : t.1.phase = .starting) :
    readTimes (timedRequests svc deadline (rounds + 1) t) =
      t.2.now :: match waitStep svc.journaled deadline t with
        | (some _, _) => []
        | (none, t') => readTimes (timedRequests svc deadline rounds t') := by
  obtain ⟨events, answer, s', r, hjournal, hasked, -⟩ := waitStepped svc deadline t.1 t.2
  obtain ⟨e, he⟩ := (hasked.probed_of_starting hphase).one_status_read
  rcases hround : waitStep svc.journaled deadline t with ⟨verdict, t'⟩
  have hmade : t'.2.journal = t.2.journal ++ events := by simpa [hround] using hjournal
  have hfirst : readTimes (events.map fun e => (t.2.now, e)) = [t.2.now] := by
    simp [readTimes, List.filter_map, Function.comp_def, he]
  cases verdict with
  | some a => simp only [timedRequests, hround, hmade, List.drop_left, hfirst]
  | none =>
    simp only [timedRequests, hround, hmade, List.drop_left, readTimes_append, hfirst]
    rfl

/-- A session that starts, with no signal that it has not seen and none to come. -/
structure Undisturbed (s : InteractiveSession) (x : Exchange σ) : Prop where
  starting : s.phase = .starting
  unseen : s.receiver.hasUnseen x.shutdown = false
  alarms : x.alarms = []

section Undisturbed

variable {svc : InstanceService σ} {s : InteractiveSession} {x : Exchange σ} {n : Nat}
  {deadline : Option Nat}

theorem probed_of_starting (svc : InstanceService σ) (hphase : s.phase = .starting)
    (x : Exchange σ) :
    ∃ events, Probed s events (s.isStarted svc x).1 (s.isStarted svc x).2.1 := by
  obtain ⟨events, -, hasked⟩ := asked svc s (x.watched TaskEvent)
  have hplain := isStarted_plain svc s (x.watched TaskEvent)
  rw [Exchange.plain_watched] at hplain
  rw [hplain]
  exact ⟨events, hasked.probed_of_starting hphase⟩

/-- A question that finds the session not to run yet disturbs nothing and takes no time. -/
theorem Undisturbed.not_yet (h : s.Undisturbed x) (hstarts : StartsAfter svc (n + 1) s x) :
    ∃ s' x', s.isStarted svc x = (.ok false, s', x') ∧ s'.Undisturbed x' ∧
      s'.pollMs = s.pollMs ∧ x'.now = x.now ∧ StartsAfter svc n s' x' := by
  obtain ⟨hanswer, hrest⟩ := hstarts
  obtain ⟨events, hprobed⟩ := probed_of_starting svc h.starting x
  have hsurroundings := s.amid_isStarted svc x
  rw [hanswer] at hprobed
  have hkept := hprobed.rest
  refine ⟨_, _, Prod.ext hanswer rfl, ⟨?_, ?_, ?_⟩, ?_, s.now_isStarted svc x, hrest⟩
  · exact hprobed.phase_of_false.trans h.starting
  · rw [hkept, ← hsurroundings]
    exact h.unseen
  · rw [← hsurroundings]
    exact h.alarms
  · rw [hkept]

theorem Undisturbed.sleep (h : s.Undisturbed x) (span : Nat) :
    x.sleep s.receiver span = (false, s.receiver, { x with now := x.now + span }) := by
  have halarm : x.alarmBefore? (x.now + span) = none :=
    Exchange.alarmBefore?_eq_none_iff.mpr (by simp [h.alarms])
  simp [Exchange.sleep, h.unseen, halarm]

/-- Then the wait pauses. -/
theorem Undisturbed.pause (h : s.Undisturbed x) (hstarts : StartsAfter svc (n + 1) s x)
    (hopen : ∀ d ∈ deadline, x.now < d) :
    ∃ s' x', waitStep svc deadline (s, x) = (none, s', x') ∧ s'.Undisturbed x' ∧
      s'.pollMs = s.pollMs ∧ x'.now = x.now + s.pauseSpan deadline x.now ∧
      StartsAfter svc n s' x' := by
  obtain ⟨s', x', hasked, hquiet, hpoll, hnow, hrest⟩ := h.not_yet hstarts
  have hdue : deadline.any (· ≤ x'.now) = false := by
    cases deadline with
    | none => rfl
    | some d => simpa [hnow] using hopen d rfl
  refine ⟨s', { x' with now := x'.now + s'.pauseSpan deadline x'.now }, ?_,
    ⟨hquiet.starting, hquiet.unseen, hquiet.alarms⟩, hpoll, ?_, ?_⟩
  · simp only [waitStep, waitTurn, hasked, hdue, Bool.false_eq_true, if_false, hquiet.sleep]
  · simp only [pauseSpan, hpoll, hnow]
  · exact (startsAfter_amid { x' with now := x'.now + s'.pauseSpan deadline x'.now }).mpr hrest

/-- Or the deadline has come, and the wait is over. -/
theorem Undisturbed.expire (h : s.Undisturbed x) (hstarts : StartsAfter svc (n + 1) s x) {d : Nat}
    (hover : d ≤ x.now) :
    ∃ s' x', waitStep svc (some d) (s, x) = (some (.ok false), s', x') ∧ x'.now = x.now ∧
      s'.phase = .starting := by
  obtain ⟨s', x', hasked, hquiet, -, hnow, -⟩ := h.not_yet hstarts
  have hdue : (some d).any (· ≤ x'.now) = true := by simpa [hnow] using hover
  refine ⟨s', x', ?_, hnow, hquiet.starting⟩
  simp only [waitStep, waitTurn, hasked, hdue, if_true]

/-- The question that finds the session running ends the wait. -/
theorem Undisturbed.start (h : s.Undisturbed x) (hstarts : StartsAfter svc 0 s x)
    (deadline : Option Nat) :
    ∃ s' x', waitStep svc deadline (s, x) = (some (.ok true), s', x') ∧ x'.now = x.now ∧
      s'.phase = .running := by
  obtain ⟨events, hprobed⟩ := probed_of_starting svc h.starting x
  have hanswer : (s.isStarted svc x).1 = .ok true := hstarts
  rw [hanswer] at hprobed
  have hasked : s.isStarted svc x = (.ok true, (s.isStarted svc x).2) := Prod.ext hanswer rfl
  refine ⟨_, _, ?_, s.now_isStarted svc x, hprobed.phase_of_true⟩
  rw [waitStep, waitTurn, hasked]

end Undisturbed

/-- The time of a round of an undisturbed wait: the pauses before it last one poll interval each,
but not beyond the deadline. -/
def roundTime (deadline : Option Nat) (pollMs now : Nat) (i : Nat) : Nat :=
  match deadline with
  | none => now + i * pollMs
  | some d => min (now + i * pollMs) d

section roundTime

variable {deadline : Option Nat} {pollMs now : Nat}

theorem roundTime_zero (hbegun : ∀ d ∈ deadline, now ≤ d) :
    roundTime deadline pollMs now 0 = now := by
  cases deadline with
  | none => simp [roundTime]
  | some d => simpa [roundTime] using hbegun d rfl

/-- After a pause the remaining rounds come at the same times. -/
theorem roundTime_pause (s : InteractiveSession) (hbegun : ∀ d ∈ deadline, now ≤ d) (i : Nat) :
    roundTime deadline s.pollMs (now + s.pauseSpan deadline now) i =
      roundTime deadline s.pollMs now (i + 1) := by
  cases deadline with
  | none => simp only [roundTime, pauseSpan, Nat.succ_mul]; omega
  | some d =>
    have hnow := hbegun d rfl
    simp only [roundTime, pauseSpan, Nat.succ_mul]
    omega

theorem roundTime_until (pollMs now span : Nat) :
    roundTime (some (now + span)) pollMs now = fun i => now + min (i * pollMs) span :=
  funext fun _ => Nat.add_min_add_left ..

/-- A round comes before the deadline exactly if it is not yet the last one. -/
theorem roundTime_lt_iff {span i : Nat} (hpoll : 0 < pollMs) :
    roundTime (some (now + span)) pollMs now i < now + span ↔ i < span ⌈/⌉ pollMs := by
  have hceil := (ceilDiv_le_iff_le_mul (b := span) (c := i) hpoll).not
  rw [Nat.not_le, Nat.not_le, Nat.mul_comm] at hceil
  rw [hceil]
  simp only [roundTime_until]
  omega

end roundTime

/-- Rounds that pause, with the times at which they read the status. -/
theorem Undisturbed.pauses {svc : InstanceService σ} {deadline : Option Nat} {m n : Nat}
    {s : InteractiveSession} {y : Exchange (σ × List TaskEvent)} (h : s.Undisturbed y)
    (hstarts : StartsAfter svc.journaled (n + m) s y) (hbegun : ∀ d ∈ deadline, y.now ≤ d)
    (hopen : ∀ i < m, ∀ d ∈ deadline, roundTime deadline s.pollMs y.now i < d) :
    ∃ s' y', settle (waitStep svc.journaled deadline) m (s, y) = (none, s', y') ∧
      s'.Undisturbed y' ∧ y'.now = roundTime deadline s.pollMs y.now m ∧
      StartsAfter svc.journaled n s' y' ∧
      ∀ rounds, readTimes (timedRequests svc deadline (m + rounds) (s, y)) =
        (List.range m).map (roundTime deadline s.pollMs y.now) ++
          readTimes (timedRequests svc deadline rounds (s', y')) := by
  induction m generalizing s y with
  | zero => exact ⟨s, y, rfl, h, (roundTime_zero hbegun).symm, hstarts, by simp⟩
  | succ m ih =>
    -- The first round pauses; the others are those of a wait that begins when it is over.
    have hfirst : ∀ d ∈ deadline, y.now < d := by
      intro d hd
      simpa only [roundTime_zero hbegun] using hopen 0 (Nat.succ_pos m) d hd
    obtain ⟨s₁, y₁, hround, hquiet, hpoll, hnow, hrest⟩ := h.pause hstarts hfirst
    have htimes : roundTime deadline s₁.pollMs y₁.now =
        fun i => roundTime deadline s.pollMs y.now (i + 1) := by
      funext i
      rw [hpoll, hnow, roundTime_pause s hbegun]
    have hbegun₁ : ∀ d ∈ deadline, y₁.now ≤ d := by
      rintro d rfl
      have hend := waitStep_within svc.journaled s (hbegun d rfl)
      rwa [hround] at hend
    have hopen₁ : ∀ i < m, ∀ d ∈ deadline, roundTime deadline s₁.pollMs y₁.now i < d := by
      intro i hi d hd
      rw [htimes]
      exact hopen (i + 1) (Nat.succ_lt_succ hi) d hd
    obtain ⟨s', y', hsettle, hquiet', hnow', hstarts', hreads⟩ := ih hquiet hrest hbegun₁ hopen₁
    refine ⟨s', y', ?_, hquiet', hnow'.trans (congrFun htimes m), hstarts', fun rounds => ?_⟩
    · simpa only [settle, hround] using hsettle
    · rw [Nat.add_right_comm, readTimes_succ svc deadline _ h.starting, hround]
      simp only [hreads, List.range_succ_eq_map, List.map_cons, List.map_map, Function.comp_def,
        htimes, roundTime_zero hbegun, List.cons_append, Nat.succ_eq_add_one]

def statusReads (svc : InstanceService σ) (rounds timeoutMs : Nat) (s : InteractiveSession)
    (x : Exchange σ) : List Nat :=
  match deadline? x.now timeoutMs with
  | none => []
  | some deadline => readTimes (timedRequests svc deadline rounds (s, x.watched TaskEvent))

/-- A wait that has ended: whether the session runs, the time of the end, and the times at which the
status was read. -/
structure Ended (svc : InstanceService σ) (rounds timeoutMs : Nat) (s : InteractiveSession)
    (x : Exchange σ) (runs : Bool) (time : Nat) (times : List Nat) : Prop where
  answer : (s.waitForStart svc rounds timeoutMs x).1 = some (.ok runs)
  clock : (s.waitForStart svc rounds timeoutMs x).2.2.now = time
  phase : (s.waitForStart svc rounds timeoutMs x).2.1.phase = if runs then .running else .starting
  reads : s.statusReads svc rounds timeoutMs x = times
  /-- Among all requests of the wait there are no other reads of the status. -/
  requests : (s.waitForStart svc.journaled rounds timeoutMs
    (x.watched TaskEvent)).2.2.journal.countP TaskEvent.readsStatus = times.length

/-- A wait ends with the round after its pauses. -/
theorem Undisturbed.ended {svc : InstanceService σ} {timeoutMs m n : Nat} {s : InteractiveSession}
    {x : Exchange σ} {deadline : Option Nat} {runs : Bool} (h : s.Undisturbed x)
    (hstarts : StartsAfter svc (n + m) s x) (hdeadline : deadline? x.now timeoutMs = some deadline)
    (hbegun : ∀ d ∈ deadline, x.now ≤ d)
    (hopen : ∀ i < m, ∀ d ∈ deadline, roundTime deadline s.pollMs x.now i < d)
    (hlast : ∀ (s₁ : InteractiveSession) (y₁ : Exchange (σ × List TaskEvent)), s₁.Undisturbed y₁ →
      StartsAfter svc.journaled n s₁ y₁ → y₁.now = roundTime deadline s.pollMs x.now m →
      ∃ s₂ y₂, waitStep svc.journaled deadline (s₁, y₁) = (some (.ok runs), s₂, y₂) ∧
        y₂.now = y₁.now ∧ s₂.phase = if runs then .running else .starting)
    {rounds : Nat} (hrounds : m < rounds) :
    Ended svc rounds timeoutMs s x runs (roundTime deadline s.pollMs x.now m)
      ((List.range (m + 1)).map (roundTime deadline s.pollMs x.now)) := by
  obtain ⟨spare, rfl⟩ := Nat.exists_eq_add_of_lt hrounds
  have hquiet : s.Undisturbed (x.watched TaskEvent) := ⟨h.starting, h.unseen, h.alarms⟩
  obtain ⟨s₁, y₁, hpauses, hquiet₁, hnow₁, hstarts₁, hreads⟩ :=
    hquiet.pauses (startsAfter_journaled.mpr hstarts) hbegun hopen
  obtain ⟨s₂, y₂, hround, hnow₂, hphase⟩ := hlast s₁ y₁ hquiet₁ hstarts₁ hnow₁
  have hsettle : settle (waitStep svc.journaled deadline) (m + spare + 1)
      (s, x.watched TaskEvent) = (some (.ok runs), s₂, y₂) := by
    rw [Nat.add_assoc, settle_add hpauses, settle_of_settled (congrArg Prod.fst hround), hround]
  have hwait : s.waitForStart svc.journaled (m + spare + 1) timeoutMs (x.watched TaskEvent) =
      (some (.ok runs), s₂, y₂) := by
    have hsame : deadline? (x.watched TaskEvent).now timeoutMs = some deadline := hdeadline
    rw [waitForStart, hsame]
    exact hsettle
  have hplain := waitForStart_plain svc (m + spare + 1) timeoutMs s (x.watched TaskEvent)
  rw [Exchange.plain_watched, hwait] at hplain
  have htimes : readTimes (timedRequests svc deadline (m + spare + 1) (s, x.watched TaskEvent)) =
      (List.range (m + 1)).map (roundTime deadline s.pollMs x.now) := by
    rw [Nat.add_assoc, hreads, readTimes_succ svc deadline spare hquiet₁.starting, hround,
      List.range_succ, List.map_append]
    simp only [List.map_cons, List.map_nil, hnow₁]
    rfl
  have hall := map_timedRequests svc deadline (m + spare + 1) (s, x.watched TaskEvent)
  rw [hsettle, Exchange.journal_watched, List.nil_append] at hall
  refine ⟨by rw [hplain], ?_, by rw [hplain]; exact hphase, ?_, ?_⟩
  · rw [hplain]
    exact hnow₂.trans hnow₁
  · simp only [statusReads, hdeadline, htimes]
  · rw [hwait, ← htimes, length_readTimes, hall]

/-- When an undisturbed wait ends that would find its session running at a given read, counted from
zero, and at which times it reads the status. -/
structure OnSchedule (svc : InstanceService σ) (k timeoutMs : Nat) (s : InteractiveSession)
    (x : Exchange σ) : Prop where
  /-- Without a deadline it reads once per poll interval until then. -/
  endless : timeoutMs = 0 → ∀ rounds > k, Ended svc rounds timeoutMs s x true
    (x.now + k * s.pollMs) ((List.range (k + 1)).map fun i => x.now + i * s.pollMs)
  /-- The deadline cuts off the last pause, and a read follows it. -/
  inTime : 0 < timeoutMs → k ≤ timeoutMs ⌈/⌉ s.pollMs → ∀ rounds > k,
    Ended svc rounds timeoutMs s x true (x.now + min (k * s.pollMs) timeoutMs)
      ((List.range (k + 1)).map fun i => x.now + min (i * s.pollMs) timeoutMs)
  /-- After that read there is no other one. -/
  tooLate : 0 < timeoutMs → timeoutMs ⌈/⌉ s.pollMs < k → ∀ rounds > timeoutMs ⌈/⌉ s.pollMs,
    Ended svc rounds timeoutMs s x false (x.now + timeoutMs)
      ((List.range (timeoutMs ⌈/⌉ s.pollMs + 1)).map fun i =>
        x.now + min (i * s.pollMs) timeoutMs)

end InteractiveSession

/-- Far from the end of its time the clock holds the deadline of any timeout that is a word of
milliseconds. -/
theorem deadline_fits {now timeoutMs : Nat} (hnow : now ≤ clockLimit / 2)
    (hword : timeoutMs < UInt64.size) : now + timeoutMs < clockLimit := by
  unfold clockLimit UInt64.size at *
  omega

open InteractiveSession in
/-- Whatever else the service answers, an undisturbed wait keeps to its schedule. The premise on the
clock is about its end only: unless half of its time has gone by, every timeout that is a word of
milliseconds meets it (`deadline_fits`). -/
theorem undisturbed_wait_on_schedule {svc : InstanceService σ} {k timeoutMs : Nat}
    {s : InteractiveSession} {x : Exchange σ} (hpoll : 0 < s.pollMs) (h : s.Undisturbed x)
    (hstarts : StartsAfter svc k s x) (hclock : timeoutMs ≠ 0 → x.now + timeoutMs < clockLimit) :
    s.OnSchedule svc k timeoutMs x where
  endless h0 rounds hrounds := by
    have hdeadline : deadline? x.now timeoutMs = some none := by simp [deadline?, h0]
    refine h.ended (n := 0) (by simpa using hstarts) hdeadline (by simp) (by simp) ?_ hrounds
    intro s₁ y₁ hquiet hruns hnow
    exact hquiet.start hruns none
  inTime hpos hk rounds hrounds := by
    have hdeadline := deadline?_of_fit hpos.ne' (hclock hpos.ne')
    have hopen : ∀ i < k, ∀ d ∈ some (x.now + timeoutMs),
        roundTime (some (x.now + timeoutMs)) s.pollMs x.now i < d := by
      rintro i hi _ ⟨⟩
      exact (roundTime_lt_iff hpoll).mpr (hi.trans_le hk)
    have hended := h.ended (n := 0) (by simpa using hstarts) hdeadline (by simp) hopen
      (fun s₁ y₁ hquiet hruns hnow => hquiet.start hruns _) hrounds
    simpa only [roundTime_until] using hended
  tooLate hpos hk rounds hrounds := by
    have hdeadline := deadline?_of_fit hpos.ne' (hclock hpos.ne')
    obtain ⟨n, rfl⟩ := Nat.exists_eq_add_of_lt hk
    have hopen : ∀ i < timeoutMs ⌈/⌉ s.pollMs, ∀ d ∈ some (x.now + timeoutMs),
        roundTime (some (x.now + timeoutMs)) s.pollMs x.now i < d := by
      rintro i hi _ ⟨⟩
      exact (roundTime_lt_iff hpoll).mpr hi
    have hend : roundTime (some (x.now + timeoutMs)) s.pollMs x.now (timeoutMs ⌈/⌉ s.pollMs) =
        x.now + timeoutMs := by
      have hlast : ¬ roundTime (some (x.now + timeoutMs)) s.pollMs x.now
          (timeoutMs ⌈/⌉ s.pollMs) < x.now + timeoutMs :=
        (roundTime_lt_iff hpoll).not.mpr (lt_irrefl _)
      simp only [roundTime_until] at hlast ⊢
      omega
    have hended : Ended svc rounds timeoutMs s x false _ _ :=
      h.ended (n := n + 1) (m := timeoutMs ⌈/⌉ s.pollMs)
        (by rwa [Nat.add_comm (n + 1), ← Nat.add_assoc]) hdeadline (by simp) hopen
        (fun s₁ y₁ hquiet hruns hnow => hquiet.expire hruns (hnow.trans hend).ge) hrounds
    rw [hend] at hended
    simpa only [roundTime_until] using hended

/-- A session that is asked every three seconds. -/
def patientSession : InteractiveSession where
  channel := ⟨⟨"p", "i"⟩, "task"⟩
  name := none
  pollMs := 3000
  receiver := ⟨0⟩
  logView := none

/-- Answers that say nothing until the fifth, which reports a running session. -/
def lateAnswers : Exchange (List (Except Failure (Option String))) where
  service := List.replicate 4 (.ok none) ++ [.ok (some "\x7b\"status\": 2\x7d")]

/-- A wait of seven seconds reads the status at once and after three, six and seven seconds. -/
theorem undisturbed_wait_on_schedule_when_late :
    (0 < patientSession.pollMs ∧ patientSession.Undisturbed lateAnswers ∧
      InteractiveSession.StartsAfter .taped 4 patientSession lateAnswers ∧
      lateAnswers.now + 7000 < clockLimit) ∧
    patientSession.OnSchedule .taped 4 7000 lateAnswers ∧
    InteractiveSession.Ended .taped 4 7000 patientSession lateAnswers false 7000
      [0, 3000, 6000, 7000] := by
  have hpoll : 0 < patientSession.pollMs := by decide
  have hquiet : patientSession.Undisturbed lateAnswers := ⟨rfl, rfl, rfl⟩
  have hstarts : InteractiveSession.StartsAfter .taped 4 patientSession lateAnswers :=
    by decide +kernel
  have hclock : lateAnswers.now + 7000 < clockLimit := deadline_fits (by decide) (by decide)
  have hschedule : patientSession.OnSchedule .taped 4 7000 lateAnswers :=
    undisturbed_wait_on_schedule hpoll hquiet hstarts fun _ => hclock
  have hended := hschedule.tooLate (by decide) (by decide) 4 (by decide)
  exact ⟨⟨hpoll, hquiet, hstarts, hclock⟩, hschedule, hended⟩

end TableExchange
