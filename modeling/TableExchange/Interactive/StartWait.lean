import TableExchange.Interactive.Session

/-!
Waiting for a session to start. A wait asks, and then pauses for the poll interval or until the
deadline, whichever comes first. Several waits can run side by side on one clock.
-/

namespace TableExchange

/-- The first millisecond that the clock cannot represent: it holds seconds as signed numbers of
64 bits. -/
def clockLimit : Nat := 9223372036854775808000

/-- When a wait ends unanswered. A timeout of zero has no deadline. The outer option is absent for
a time that the clock cannot represent. -/
def deadline? (now timeoutMs : Nat) : Option (Option Nat) :=
  if timeoutMs = 0 then some none
  else if now + timeoutMs < clockLimit then some (some (now + timeoutMs))
  else none

theorem deadline?_of_fit {now timeoutMs : Nat} (h0 : timeoutMs ≠ 0)
    (h : now + timeoutMs < clockLimit) :
    deadline? now timeoutMs = some (some (now + timeoutMs)) := by
  simp [deadline?, h0, h]

theorem deadline?_of_unfit {now timeoutMs : Nat} (h0 : timeoutMs ≠ 0)
    (h : clockLimit ≤ now + timeoutMs) : deadline? now timeoutMs = none := by
  simp [deadline?, h0, Nat.not_lt.mpr h]

theorem exists_deadline {now timeoutMs : Nat} (h : timeoutMs = 0 ∨ now + timeoutMs < clockLimit) :
    ∃ deadline, deadline? now timeoutMs = some deadline := by
  by_cases h0 : timeoutMs = 0
  · exact ⟨none, by simp [deadline?, h0]⟩
  · exact ⟨_, deadline?_of_fit h0 (h.resolve_left h0)⟩

inductive WaitTurn
  | finished (answer : Except Failure Bool)
  | pause (span : Nat)

namespace InteractiveSession

variable {σ : Type}

def startInterrupted (s : InteractiveSession) : Failure :=
  .of .interrupted "Interrupted while waiting for the session to start" (some s!"session {s.label}")

/-- How long to pause: one poll interval, but not beyond the deadline. -/
def pauseSpan (s : InteractiveSession) (deadline : Option Nat) (now : Nat) : Nat :=
  match deadline with
  | none => s.pollMs
  | some d => min s.pollMs (d - now)

def waitTurn (svc : InstanceService σ) (deadline : Option Nat) (s : InteractiveSession)
    (x : Exchange σ) : WaitTurn × InteractiveSession × Exchange σ :=
  match s.isStarted svc x with
  | (.error f, s, x) => (.finished (.error f), s, x)
  | (.ok true, s, x) => (.finished (.ok true), s, x)
  | (.ok false, s, x) =>
    if deadline.any (· ≤ x.now) then (.finished (.ok false), s, x)
    else (.pause (s.pauseSpan deadline x.now), s, x)

/-- One round of a wait: a question and a pause. -/
def waitStep (svc : InstanceService σ) (deadline : Option Nat) :
    InteractiveSession × Exchange σ →
      Option (Except Failure Bool) × InteractiveSession × Exchange σ
  | (s, x) =>
    match s.waitTurn svc deadline x with
    | (.finished answer, s, x) => (some answer, s, x)
    | (.pause span, s, x) =>
      match x.sleep s.receiver span with
      | (true, r, x) => (some (.error s.startInterrupted), { s with receiver := r }, x)
      | (false, r, x) => (none, { s with receiver := r }, x)

/-- Waits until the session runs or the timeout has passed, and tells which. The answer is absent
when `rounds` questions do not settle it, or when the deadline cannot be represented. -/
def waitForStart (svc : InstanceService σ) (rounds timeoutMs : Nat) (s : InteractiveSession)
    (x : Exchange σ) : Option (Except Failure Bool) × InteractiveSession × Exchange σ :=
  match deadline? x.now timeoutMs with
  | none => (none, s, x)
  | some deadline => settle (waitStep svc deadline) rounds (s, x)

theorem waitForStart_of_fit (svc : InstanceService σ) {timeoutMs : Nat} (s : InteractiveSession)
    {x : Exchange σ} (h0 : timeoutMs ≠ 0) (h : x.now + timeoutMs < clockLimit) (rounds : Nat) :
    s.waitForStart svc rounds timeoutMs x =
      settle (waitStep svc (some (x.now + timeoutMs))) rounds (s, x) := by
  rw [waitForStart, deadline?_of_fit h0 h]

theorem waitForStart_of_unfit (svc : InstanceService σ) {timeoutMs : Nat} (s : InteractiveSession)
    {x : Exchange σ} (h0 : timeoutMs ≠ 0) (h : clockLimit ≤ x.now + timeoutMs) (rounds : Nat) :
    s.waitForStart svc rounds timeoutMs x = (none, s, x) := by
  rw [waitForStart, deadline?_of_unfit h0 h]

end InteractiveSession

/-- One of several waits: over, or paused until a time. -/
structure PendingWait where
  session : InteractiveSession
  deadline : Option Nat
  state : Sum (Except Failure Bool) Nat

namespace PendingWait

variable {σ : Type}

def turn (svc : InstanceService σ) (w : PendingWait) (x : Exchange σ) :
    PendingWait × Exchange σ :=
  match w.session.waitTurn svc w.deadline x with
  | (.finished answer, s, x) => ({ w with session := s, state := .inl answer }, x)
  | (.pause span, s, x) =>
    let r := s.receiver
    if r.hasUnseen x.shutdown then
      ({ w with
        session := { s with receiver := r.catchUp x.shutdown }
        state := .inl (.error s.startInterrupted) }, x)
    else ({ w with session := s, state := .inr (x.now + span) }, x)

/-- Repeats the turns of a wait whose pauses are empty. -/
def turns (svc : InstanceService σ) : Nat → PendingWait → Exchange σ → PendingWait × Exchange σ
  | 0, w, x => (w, x)
  | fuel + 1, w, x =>
    match w.turn svc x with
    | (w, x) =>
      match w.state with
      | .inl _ => (w, x)
      | .inr wake => if wake ≤ x.now then turns svc fuel w x else (w, x)

/-- Wakes a wait that has an unseen signal or whose pause has passed. -/
def wake (svc : InstanceService σ) (fuel : Nat) (w : PendingWait) (x : Exchange σ) :
    PendingWait × Exchange σ :=
  match w.state with
  | .inl _ => (w, x)
  | .inr time =>
    let r := w.session.receiver
    if r.hasUnseen x.shutdown then
      ({ w with
        session := { w.session with receiver := r.catchUp x.shutdown }
        state := .inl (.error w.session.startInterrupted) }, x)
    else if time ≤ x.now then w.turns svc fuel x
    else (w, x)

def wakeAll (svc : InstanceService σ) (fuel : Nat) :
    List PendingWait → Exchange σ → List PendingWait × Exchange σ
  | [], x => ([], x)
  | w :: rest, x =>
    let (w, x) := w.wake svc fuel x
    let (rest, x) := wakeAll svc fuel rest x
    (w :: rest, x)

/-- The earliest time at which a paused wait goes on. -/
def nextWake? (ws : List PendingWait) : Option Nat :=
  (ws.filterMap fun w => w.state.getRight?).min?

/-- Lets time pass from event to event until all waits are over. -/
def runAll (svc : InstanceService σ) (fuel : Nat) :
    Nat → List PendingWait → Exchange σ → List PendingWait × Exchange σ
  | 0, ws, x => (ws, x)
  | rounds + 1, ws, x =>
    match nextWake? ws with
    | none => (ws, x)
    | some time =>
      let x := match x.alarmBefore? time with
        | some alarm => x.ring alarm
        | none => { x with now := max x.now time }
      let (ws, x) := wakeAll svc fuel ws x
      runAll svc fuel rounds ws x

/-- Waits for several sessions side by side, starting them in order. Without a representable
deadline none of them begins, and none is ever over. -/
def waitForAll (svc : InstanceService σ) (rounds timeoutMs : Nat)
    (sessions : List InteractiveSession) (x : Exchange σ) : List PendingWait × Exchange σ :=
  match deadline? x.now timeoutMs with
  | none => (sessions.map fun s => ⟨s, none, .inr x.now⟩, x)
  | some deadline =>
    let ready := sessions.map fun s => (⟨s, deadline, .inr x.now⟩ : PendingWait)
    let begin (w : PendingWait) (acc : List PendingWait × Exchange σ) :=
      let (w, x) := w.turns svc rounds acc.2
      (acc.1 ++ [w], x)
    let (ws, x) := ready.foldl (fun acc w => begin w acc) ([], x)
    runAll svc rounds rounds ws x

end PendingWait

end TableExchange
