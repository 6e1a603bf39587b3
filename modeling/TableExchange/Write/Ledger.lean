import TableExchange.Service.Interface

/-!
The ledger of a write session's commit messages. It keeps at most one message per attempt of a
block, settles which attempt of each block counts, and finalizes the session with one message per
block.
-/

namespace TableExchange

abbrev Attempts := SortedMap UInt32 CommitMessage

/-- The collected messages by block and attempt, and the attempts that were chosen. -/
structure Ledger where
  policy : ConflictPolicy := .reject
  held : SortedMap UInt64 Attempts := ∅
  chosen : SortedMap UInt64 UInt32 := ∅
deriving DecidableEq, Repr

namespace Ledger

def start (policy : ConflictPolicy) : Ledger :=
  { policy }

def blockCount (l : Ledger) : Nat :=
  l.held.size

def isEmpty (l : Ledger) : Bool :=
  l.held.isEmpty

def attemptsOf (l : Ledger) (block : UInt64) : Attempts :=
  (l.held.get? block).getD ∅

def message? (l : Ledger) (block : UInt64) (attempt : UInt32) : Option CommitMessage :=
  (l.attemptsOf block).get? attempt

def clash (m : CommitMessage) : Failure :=
  .of .conflictingMessages "Two commit messages for the same block attempt differ"
    (some s!"block {m.block.toNat} attempt {m.attempt.toNat}")

/-- Adds a message. An equal one is already there; a different one of the same attempt clashes. -/
def add (m : CommitMessage) (l : Ledger) : Except Failure Unit × Ledger :=
  match l.message? m.block m.attempt with
  | some present => if present = m then (.ok (), l) else (.error (clash m), l)
  | none =>
    (.ok (), { l with held := l.held.insert m.block ((l.attemptsOf m.block).insert m.attempt m) })

def addAll : List CommitMessage → Ledger → Except Failure Unit × Ledger
  | [], l => (.ok (), l)
  | m :: rest, l =>
    match l.add m with
    | (.ok (), l) => addAll rest l
    | (.error f, l) => (.error f, l)

def choose (block : UInt64) (attempt : UInt32) (l : Ledger) : Ledger :=
  { l with chosen := l.chosen.insert block attempt }

def unreceived (block : UInt64) (attempt : UInt32) : Failure :=
  .of .invalidState "The chosen attempt has no commit message"
    (some s!"block {block.toNat} attempt {attempt.toNat}")

def undecided (block : UInt64) (attempts : Attempts) : Failure :=
  let numbers := ", ".intercalate (attempts.keys.map fun a => toString a.toNat)
  .of .conflictingMessages "Several attempts of the same block produced commit messages"
    (some s!"block {block.toNat} attempts {numbers}")

/-- The message that counts for a block: that of the chosen attempt; else that of the only attempt,
or of the latest one where the policy says so. -/
def resolveBlock (l : Ledger) (block : UInt64) (attempts : Attempts) :
    Except Failure (Option CommitMessage) :=
  match l.chosen.get? block with
  | some attempt =>
    match attempts.get? attempt with
    | some m => .ok (some m)
    | none => .error (unreceived block attempt)
  | none =>
    if attempts.size = 1 ∨ l.policy = .latestAttemptWins then .ok attempts.last?
    else .error (undecided block attempts)

def sortOut : List (Except Failure (Option CommitMessage)) → List CommitMessage × List Failure
  | [] => ([], [])
  | .ok (some m) :: rest => (m :: (sortOut rest).1, (sortOut rest).2)
  | .ok none :: rest => sortOut rest
  | .error f :: rest => ((sortOut rest).1, f :: (sortOut rest).2)

/-- One message per block, the blocks ascending; or the failures of all unresolved blocks. -/
def resolve (l : Ledger) : Except Failure (List CommitMessage) :=
  let (messages, failures) := sortOut (l.held.entries.map fun e => l.resolveBlock e.1 e.2)
  if failures.isEmpty then .ok messages else .error (.ofList failures)

/-- Finalizes a session with one message per block, in one request. -/
def finalize {σ υ : Type} (svc : WriteService σ υ) (session : TableSession) (l : Ledger)
    (x : Exchange σ) : Except Failure TableSession × Exchange σ :=
  match l.resolve with
  | .error f => (.error f, x)
  | .ok messages =>
    match x.passPoint FailPoints.beforeFinalize with
    | (.error f, x) => (.error f, x)
    | (.ok (), x) =>
      match x.ask (svc.commitSession session messages) with
      | (.error f, x) => (.error f, x)
      | (.ok committed, x) => (.ok committed, x.count (.sessionsCommitted session.id) 1)

@[simp] theorem resolve_start (policy : ConflictPolicy) : (start policy).resolve = .ok [] := rfl

end Ledger

end TableExchange
