import TableExchange.Service.Exchange

/-!
Receivers of one shutdown channel side by side. Signals, new receivers, clones and waits come in any
order; a wait that is under way is let go on part by part, and the clock moves on only after every
wait that is due has ended.
-/
namespace TableExchange

variable {σ : Type}

namespace Exchange

theorem alarmBefore?_eq_none_iff {x : Exchange σ} {time : Nat} :
    x.alarmBefore? time = none ↔ ∀ a ∈ x.alarms, time ≤ a := by
  simp [alarmBefore?]

theorem alarmBefore?_eq_some_iff {x : Exchange σ} {time a : Nat} :
    x.alarmBefore? time = some a ↔
      (a ∈ x.alarms ∧ a < time) ∧ ∀ b ∈ x.alarms, b < time → a ≤ b := by
  simp [alarmBefore?, List.min?_eq_some_iff]

end Exchange

structure Pause where
  began : Nat
  span : Nat
deriving DecidableEq, Repr

/-- A receiver and its wait, if one is under way. A receiver that waits can do nothing else. -/
structure Listener where
  receiver : Shutdown.Receiver
  pause : Option Pause := none
deriving DecidableEq, Repr

/-- What happened on a channel. Receivers are numbered in the order in which they appeared. -/
inductive ShutdownEvent
  | signalled (time : Nat)
  | subscribed
  | cloned (origin : Nat)
  | slept (i : Nat) (wait : Pause) (ended : Nat) (cut : Bool)
deriving DecidableEq, Repr

/-- A channel with its senders and receivers, the clock, and what has happened so far. -/
structure Scene where
  now : Nat := 0
  channel : Shutdown.Channel := {}
  senders : Nat := 1
  listeners : List Listener
  history : List ShutdownEvent
deriving DecidableEq, Repr

/-- What can happen next: a sender signals, or makes a receiver or another sender, or goes away; a
receiver is cloned, or starts to wait; a wait looks at the channel; or the clock moves on. -/
inductive SceneMove
  | signal
  | subscribe
  | addSender
  | dropSender
  | clone (i : Nat)
  | sleep (i span : Nat)
  | resume (i : Nat)
  | elapse

namespace Scene

def start : Scene where
  listeners := [{ receiver := Shutdown.Channel.subscribe {} }]
  history := [.subscribed]

/-- The surroundings of a wait. Signals come by moves, so there are no alarms. -/
def around (p : Scene) : Exchange Unit :=
  { service := (), now := p.now, shutdown := p.channel }

def settle (p : Scene) (i : Nat) (r : Shutdown.Receiver) (w : Pause) (ended : Nat) (cut : Bool) :
    Scene :=
  { p with
    listeners := p.listeners.set i { receiver := r }
    history := p.history ++ [.slept i w ended cut] }

/-- Lets the wait of a receiver go on for a part of its span. A part of zero only looks at the
channel and the clock. -/
def poll (part : Nat) (p : Scene) (i : Nat) : Scene :=
  match p.listeners[i]? with
  | some ⟨r, some w⟩ =>
    match p.around.sleep r part with
    | (true, r, x) => p.settle i r w x.now true
    | (false, r, x) => if w.began + w.span ≤ x.now then p.settle i r w x.now false else p
  | _ => p

/-- Lets the waits of the first receivers go on. -/
def pollFirst (part : Nat) (p : Scene) : Nat → Scene
  | 0 => p
  | n + 1 => (pollFirst part p n).poll part n

/-- Starts a wait, which looks at the channel at once. -/
def begin (p : Scene) (i span : Nat) : Scene :=
  match p.listeners[i]? with
  | some ⟨r, none⟩ =>
    ({ p with listeners := p.listeners.set i ⟨r, some ⟨p.now, span⟩⟩ } : Scene).poll 0 i
  | _ => p

/-- Lets the clock move on by one. Waits with a signal to notice end before, and those whose span is
over then. -/
def elapse (p : Scene) : Scene :=
  let n := p.listeners.length
  let p := (p.pollFirst 0 n).pollFirst 1 n
  { p with now := p.now + 1 }

/-- Makes a move. Signals and new receivers need a sender. -/
def make (p : Scene) : SceneMove → Scene
  | .signal =>
    if p.channel.hasSender then
      { p with channel := p.channel.signal, history := p.history ++ [.signalled p.now] }
    else p
  | .subscribe =>
    if p.channel.hasSender then
      { p with
        listeners := p.listeners ++ [{ receiver := p.channel.subscribe }]
        history := p.history ++ [.subscribed] }
    else p
  | .addSender => if p.channel.hasSender then { p with senders := p.senders + 1 } else p
  | .dropSender =>
    { p with
      senders := p.senders - 1
      channel := if p.senders ≤ 1 then p.channel.close else p.channel }
  | .clone i =>
    match p.listeners[i]? with
    | some ⟨r, none⟩ =>
      { p with
        listeners := p.listeners ++ [{ receiver := r }]
        history := p.history ++ [.cloned i] }
    | _ => p
  | .sleep i span => p.begin i span
  | .resume i => p.poll 0 i
  | .elapse => p.elapse

def run (p : Scene) (moves : List SceneMove) : Scene :=
  moves.foldl make p

/-- A receiver whose wait has ended does not wait. -/
theorem free_of_settled {p : Scene} {i ended : Nat} {r : Shutdown.Receiver} {w : Pause} {cut : Bool}
    {l : Listener} (h : (p.settle i r w ended cut).listeners[i]? = some l) :
    l = { receiver := r } := by
  obtain ⟨hi, hset⟩ := List.getElem?_eq_some_iff.mp h
  simpa [settle] using hset.symm

theorem around_sleep (p : Scene) (r : Shutdown.Receiver) (part : Nat) :
    p.around.sleep r part =
      if r.hasUnseen p.channel then (true, r.catchUp p.channel, p.around)
      else (false, r, { p.around with now := p.now + part }) := rfl

inductive Polled (part : Nat) (p : Scene) (i : Nat) : Scene → Prop
  | idle (hidle : ∀ l, p.listeners[i]? = some l → l.pause = none) : Polled part p i p
  | cut {r : Shutdown.Receiver} {w : Pause} (hl : p.listeners[i]? = some ⟨r, some w⟩)
      (hunseen : r.hasUnseen p.channel = true) :
      Polled part p i (p.settle i (r.catchUp p.channel) w p.now true)
  | ended {r : Shutdown.Receiver} {w : Pause} (hl : p.listeners[i]? = some ⟨r, some w⟩)
      (hunseen : r.hasUnseen p.channel = false) (hend : w.began + w.span ≤ p.now + part) :
      Polled part p i (p.settle i r w (p.now + part) false)
  | waiting {r : Shutdown.Receiver} {w : Pause} (hl : p.listeners[i]? = some ⟨r, some w⟩)
      (hunseen : r.hasUnseen p.channel = false) (hend : p.now + part < w.began + w.span) :
      Polled part p i p

theorem polled (part : Nat) (p : Scene) (i : Nat) : Polled part p i (p.poll part i) := by
  unfold poll
  split
  · next r w hl =>
    rw [around_sleep]
    cases hunseen : r.hasUnseen p.channel with
    | true => exact .cut hl hunseen
    | false =>
      simp only [Bool.false_eq_true, if_false]
      split
      · next hend => exact .ended hl hunseen hend
      · next hend => exact .waiting hl hunseen (Nat.lt_of_not_le hend)
  · next hnone =>
    refine .idle fun l hl => ?_
    cases hpause : l.pause with
    | none => rfl
    | some w => exact absurd (hl.trans (by rw [← hpause])) (hnone l.receiver w)

/-- What the start of a wait can do: it ends at once, or it is under way. -/
inductive Begun (span : Nat) (p : Scene) (i : Nat) : Scene → Prop
  | busy (hbusy : ∀ l, p.listeners[i]? = some l → l.pause ≠ none) : Begun span p i p
  | cut {r : Shutdown.Receiver} (hl : p.listeners[i]? = some ⟨r, none⟩)
      (hunseen : r.hasUnseen p.channel = true) :
      Begun span p i (p.settle i (r.catchUp p.channel) ⟨p.now, span⟩ p.now true)
  | ended {r : Shutdown.Receiver} (hl : p.listeners[i]? = some ⟨r, none⟩)
      (hunseen : r.hasUnseen p.channel = false) (hspan : span = 0) :
      Begun span p i (p.settle i r ⟨p.now, span⟩ (p.now + span) false)
  | waiting {r : Shutdown.Receiver} (hl : p.listeners[i]? = some ⟨r, none⟩)
      (hunseen : r.hasUnseen p.channel = false) (hspan : 0 < span) :
      Begun span p i { p with listeners := p.listeners.set i ⟨r, some ⟨p.now, span⟩⟩ }

theorem begun (span : Nat) (p : Scene) (i : Nat) : Begun span p i (p.begin i span) := by
  unfold begin
  split
  · next r hl =>
    obtain ⟨hi, -⟩ := List.getElem?_eq_some_iff.mp hl
    simp only [poll, List.getElem?_set_self hi, around_sleep]
    cases hunseen : r.hasUnseen p.channel with
    | true =>
      simp only [if_true, settle, around, List.set_set]
      exact .cut hl hunseen
    | false =>
      simp only [Bool.false_eq_true, if_false, Nat.add_zero]
      split
      · next hend =>
        obtain rfl : span = 0 := by omega
        simp only [settle, List.set_set]
        exact .ended hl hunseen rfl
      · next hend => exact .waiting hl hunseen (by omega)
  · next hbusy =>
    refine .busy fun l hl hpause => ?_
    exact hbusy l.receiver (hl.trans (by rw [← hpause]))

end Scene

end TableExchange
