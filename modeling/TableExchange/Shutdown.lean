/-!
The shutdown channel. Every signal is counted; a receiver remembers the count it has seen, and a
wait that notices a greater count ends early and catches up. A clone of a receiver starts with
what its origin has seen.
-/

namespace TableExchange.Shutdown

/-- The sending side: how many signals were sent, and whether any sender is left. -/
structure Channel where
  signals : Nat := 0
  hasSender : Bool := true
deriving DecidableEq, Repr

/-- The receiving side: how many signals it has taken note of. -/
structure Receiver where
  seen : Nat
deriving DecidableEq, Repr

def Channel.signal (c : Channel) : Channel :=
  { c with signals := c.signals + 1 }

def Channel.close (c : Channel) : Channel :=
  { c with hasSender := false }

/-- A receiver that notices the signals sent from now on. -/
def Channel.subscribe (c : Channel) : Receiver :=
  ⟨c.signals⟩

/-- Whether a signal was sent that the receiver has not taken note of. -/
def Receiver.hasUnseen (r : Receiver) (c : Channel) : Bool :=
  r.seen < c.signals

/-- Whether the receiver reports a shutdown. Once no sender is left it reports none. -/
def Receiver.isShutdown (r : Receiver) (c : Channel) : Bool :=
  c.hasSender && r.hasUnseen c

def Receiver.catchUp (_ : Receiver) (c : Channel) : Receiver :=
  c.subscribe

@[simp] theorem hasUnseen_subscribe (c : Channel) : c.subscribe.hasUnseen c = false := by
  simp [Receiver.hasUnseen, Channel.subscribe]

@[simp] theorem hasUnseen_catchUp (r : Receiver) (c : Channel) :
    (r.catchUp c).hasUnseen c = false :=
  hasUnseen_subscribe c

@[simp] theorem hasUnseen_subscribe_signal (c : Channel) :
    c.subscribe.hasUnseen c.signal = true := by
  simp [Receiver.hasUnseen, Channel.subscribe, Channel.signal]

end TableExchange.Shutdown
