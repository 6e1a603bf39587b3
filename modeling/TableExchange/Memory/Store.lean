import TableExchange.Service.Interface

/-!
A table service that lives in memory: what it stores, what was asked of it, and how it was told to
answer. Sessions and instances are numbered together.
-/

namespace TableExchange.Memory

structure BlockKey where
  sessionId : String
  block : UInt64
  attempt : UInt32
deriving DecidableEq, Repr

/-- The service's state. Lists of pairs are keyed by their first part. -/
structure Store where
  issued : Nat := 0
  tables : List (TableRef × List Split) := []
  sessions : List (String × TableSession) := []
  sessionSplits : List (String × List Split) := []
  listRequests : List (Option Marker) := []
  rangeRequests : List (String × Option String) := []
  openRequests : List BlockRequest := []
  failingOpens : List (UInt64 × UInt32) := []
  failingFinishes : List (UInt64 × UInt32) := []
  received : List (BlockKey × List UInt8) := []
  abortedBlocks : List (UInt64 × UInt32) := []
  commits : List (String × List CommitMessage) := []
  instances : List (InstanceId × InstanceRequest) := []
  stopped : List InstanceId := []
  channelScripts : List (String × List (Option String)) := []
  channelReads : List (String × Nat) := []
  taskStates : List (Option TaskStatus) := []
  taskResult : Option String := none
  infoWrites : List (String × String) := []

def lookup {κ ν : Type} [DecidableEq κ] (k : κ) : List (κ × ν) → Option ν
  | [] => none
  | (k', v) :: rest => if k' = k then some v else lookup k rest

/-- Sets the value of a key in its place, or at the end. -/
def assign {κ ν : Type} [DecidableEq κ] (k : κ) (v : ν) : List (κ × ν) → List (κ × ν)
  | [] => [(k, v)]
  | (k', v') :: rest => if k' = k then (k, v) :: rest else (k', v') :: assign k v rest

@[simp] theorem lookup_assign_self {κ ν : Type} [DecidableEq κ] (k : κ) (v : ν)
    (entries : List (κ × ν)) : lookup k (assign k v entries) = some v := by
  induction entries with
  | nil => simp [assign, lookup]
  | cons head rest ih => by_cases h : head.1 = k <;> simp [assign, lookup, h, ih]

theorem lookup_assign_of_ne {κ ν : Type} [DecidableEq κ] {j k : κ} (h : j ≠ k) (v : ν)
    (entries : List (κ × ν)) : lookup j (assign k v entries) = lookup j entries := by
  induction entries with
  | nil => simp [assign, lookup, Ne.symm h]
  | cons head rest ih =>
    by_cases hk : head.1 = k
    · simp [assign, lookup, hk, Ne.symm h]
    · simp [assign, lookup, hk, ih]

namespace Store

/-- Adds splits to a table, in the order in which the service hands them out. -/
def addSplits (table : TableRef) (splits : List Split) (s : Store) : Store :=
  { s with tables := assign table (((lookup table s.tables).getD []) ++ splits) s.tables }

def failOpen (block : UInt64) (attempt : UInt32) (s : Store) : Store :=
  { s with failingOpens := (block, attempt) :: s.failingOpens }

def failFinish (block : UInt64) (attempt : UInt32) (s : Store) : Store :=
  { s with failingFinishes := (block, attempt) :: s.failingFinishes }

/-- Queues payloads of a channel; an absent one means nothing to report yet. -/
def scriptChannel (key : String) (payloads : List (Option String)) (s : Store) : Store :=
  { s with
    channelScripts := assign key (((lookup key s.channelScripts).getD []) ++ payloads)
      s.channelScripts }

/-- Queues task states; the last one is repeated. -/
def scriptTaskStates (states : List (Option TaskStatus)) (s : Store) : Store :=
  { s with taskStates := s.taskStates ++ states }

def setTaskResult (text : String) (s : Store) : Store :=
  { s with taskResult := some text }

def setStatus (id : String) (status : SessionStatus) (s : Store) : Store :=
  match lookup id s.sessions with
  | some session => { s with sessions := assign id { session with status } s.sessions }
  | none => s

def receivedBlock (sessionId : String) (block : UInt64) (attempt : UInt32) (s : Store) :
    Option (List UInt8) :=
  lookup ⟨sessionId, block, attempt⟩ s.received

def readCount (key : String) (s : Store) : Nat :=
  (lookup key s.channelReads).getD 0

def isStopped (id : InstanceId) (s : Store) : Bool :=
  s.stopped.contains id

end Store

end TableExchange.Memory
