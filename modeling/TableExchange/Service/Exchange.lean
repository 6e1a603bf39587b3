import TableExchange.Service.Counter
import TableExchange.Service.FailPoint
import TableExchange.Shutdown

/-!
What an operation reads and changes beside its own handle: the service it talks to, the counters,
the armed fail points, the clock, and the shutdown channel. Time passes only while something waits.
-/

namespace TableExchange

/-- An answer, and the state that the answering side is left in. -/
abbrev Reply (σ α : Type) := Except Failure α × σ

/-- The surroundings of an operation on a service with states `σ`. Times are milliseconds;
`alarms` are the times at which a shutdown signal will be sent. -/
structure Exchange (σ : Type) where
  service : σ
  counters : Counters := []
  failPoints : FailPoints := []
  now : Nat := 0
  alarms : List Nat := []
  shutdown : Shutdown.Channel := {}

namespace Exchange

variable {σ α : Type}

def ask (x : Exchange σ) (request : σ → Reply σ α) : Except Failure α × Exchange σ :=
  let r := request x.service
  (r.1, { x with service := r.2 })

def count (x : Exchange σ) (k : CounterKey) (n : UInt64) : Exchange σ :=
  { x with counters := x.counters.add k n }

def passPoint (x : Exchange σ) (name : String) : Except Failure Unit × Exchange σ :=
  let r := x.failPoints.pass name
  (r.1, { x with failPoints := r.2 })

def signal (x : Exchange σ) : Exchange σ :=
  { x with shutdown := x.shutdown.signal }

def alarmBefore? (x : Exchange σ) (time : Nat) : Option Nat :=
  (x.alarms.filter (· < time)).min?

/-- Lets the clock reach an alarm and sends its signal. -/
def ring (x : Exchange σ) (alarm : Nat) : Exchange σ :=
  { x with now := max x.now alarm, alarms := x.alarms.erase alarm, shutdown := x.shutdown.signal }

/-- Waits for a span unless the receiver has an unseen signal or one is sent before the span has
passed. The flag says whether the wait was cut short. -/
def sleep (x : Exchange σ) (r : Shutdown.Receiver) (span : Nat) :
    Bool × Shutdown.Receiver × Exchange σ :=
  if r.hasUnseen x.shutdown then (true, r.catchUp x.shutdown, x)
  else match x.alarmBefore? (x.now + span) with
    | some alarm =>
      let rung := x.ring alarm
      (true, r.catchUp rung.shutdown, rung)
    | none => (false, r, { x with now := x.now + span })

/-- Lets the clock reach a time, ringing the alarms on the way; `fuel` bounds their number. -/
def passUntil (time : Nat) : Nat → Exchange σ → Exchange σ
  | 0, x => { x with now := max x.now time }
  | fuel + 1, x =>
    match x.alarmBefore? time with
    | some alarm => passUntil time fuel (x.ring alarm)
    | none => { x with now := max x.now time }

def pass (x : Exchange σ) (span : Nat) : Exchange σ :=
  passUntil (x.now + span) x.alarms.length x

/-- Waits for a span unless the receiver has an unseen signal of a channel of its own, on which
nothing more is sent. -/
def sleepApart (x : Exchange σ) (c : Shutdown.Channel) (r : Shutdown.Receiver) (span : Nat) :
    Bool × Shutdown.Receiver × Exchange σ :=
  if r.hasUnseen c then (true, r.catchUp c, x) else (false, r, x.pass span)

@[simp] theorem ask_fst (x : Exchange σ) (request : σ → Reply σ α) :
    (x.ask request).1 = (request x.service).1 := rfl

@[simp] theorem service_ask (x : Exchange σ) (request : σ → Reply σ α) :
    (x.ask request).2.service = (request x.service).2 := rfl

@[simp] theorem service_count (x : Exchange σ) (k : CounterKey) (n : UInt64) :
    (x.count k n).service = x.service := rfl

@[simp] theorem service_passPoint (x : Exchange σ) (name : String) :
    (x.passPoint name).2.service = x.service := rfl

end Exchange

/-- Repeats a step until it settles, at most `rounds` times. An absent answer means that it has
not settled yet; the state is where it stands. -/
def settle {S α : Type} (step : S → Option α × S) : Nat → S → Option α × S
  | 0, s => (none, s)
  | rounds + 1, s =>
    match step s with
    | (some a, s') => (some a, s')
    | (none, s') => settle step rounds s'

end TableExchange
