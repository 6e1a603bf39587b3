/-!
Counters. A counter is known by its name and labels, starts at zero when it is first touched, and
wraps around at 64 bits.
-/

namespace TableExchange

structure CounterKey where
  name : String
  labels : List (String × String)
deriving DecidableEq, Repr

namespace CounterKey

def text (k : CounterKey) : String :=
  k.name ++ "\x7b" ++ ",".intercalate (k.labels.map fun l => l.1 ++ "=" ++ l.2) ++ "\x7d"

def ofSession (name sessionId : String) : CounterKey :=
  ⟨name, [("session_id", sessionId)]⟩

def pagesFetched (sessionId : String) : CounterKey :=
  ofSession "tunnel_split_pages_fetched_total" sessionId

def splitsListed (sessionId : String) : CounterKey :=
  ofSession "tunnel_splits_listed_total" sessionId

def bytesWritten (sessionId : String) : CounterKey :=
  ofSession "tunnel_bytes_written_total" sessionId

def recordsWritten (sessionId : String) : CounterKey :=
  ofSession "tunnel_records_written_total" sessionId

def blocksCommitted (sessionId : String) : CounterKey :=
  ofSession "tunnel_blocks_committed_total" sessionId

def blocksAborted (sessionId : String) : CounterKey :=
  ofSession "tunnel_blocks_aborted_total" sessionId

def sessionsCommitted (sessionId : String) : CounterKey :=
  ofSession "tunnel_sessions_committed_total" sessionId

def channelReads (instanceId channel : String) : CounterKey :=
  ⟨"tunnel_channel_reads_total", [("channel", channel), ("instance_id", instanceId)]⟩

end CounterKey

/-- All counters that were touched, in the order of first touch. -/
abbrev Counters := List (CounterKey × UInt64)

namespace Counters

def add (k : CounterKey) (n : UInt64) : Counters → Counters
  | [] => [(k, n)]
  | (k', v) :: rest => if k' = k then (k', v + n) :: rest else (k', v) :: add k n rest

/-- The value of a counter, zero if it was never touched. -/
def value (k : CounterKey) : Counters → UInt64
  | [] => 0
  | (k', v) :: rest => if k' = k then v else value k rest

@[simp] theorem value_add_self (k : CounterKey) (n : UInt64) (cs : Counters) :
    value k (add k n cs) = value k cs + n := by
  induction cs with
  | nil => simp [add, value]
  | cons head rest ih =>
    obtain ⟨k', v⟩ := head
    by_cases h : k' = k <;> simp [add, value, h, ih]

theorem value_add_of_ne {j k : CounterKey} (h : j ≠ k) (n : UInt64) (cs : Counters) :
    value j (add k n cs) = value j cs := by
  induction cs with
  | nil => simp [add, value, Ne.symm h]
  | cons head rest ih =>
    obtain ⟨k', v⟩ := head
    by_cases hk : k' = k
    · subst hk
      simp [add, value, Ne.symm h]
    · simp [add, value, hk, ih]

end Counters

end TableExchange
