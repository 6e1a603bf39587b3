import TableExchange.Config.Model
import TableExchange.Write.BlockWriter
import TableExchange.Write.Ledger

/-!
Handles of batch write sessions: the last snapshot of the session, the writing configuration, and
whether it was released.
-/

namespace TableExchange

structure WriteSession where
  snapshot : TableSession
  config : WriterConfig
  stopped : Bool := false
deriving DecidableEq, Repr

namespace WriteSession

variable {σ υ : Type}

def refresh (svc : WriteService σ υ) (s : WriteSession) (x : Exchange σ) :
    Except Failure TableSession × WriteSession × Exchange σ :=
  match x.ask (svc.lookUp s.snapshot.table s.snapshot.id .batchWrite) with
  | (.error f, x) => (.error f, s, x)
  | (.ok snapshot, x) => (.ok snapshot, { s with snapshot }, x)

def writer (s : WriteSession) (block : UInt64) (attempt : UInt32) : BlockWriter υ :=
  .start {
    table := s.snapshot.table
    sessionId := s.snapshot.id
    block
    attempt
    format := s.config.dataFormat }

def ledger (s : WriteSession) : Ledger :=
  .start s.config.conflictPolicy

def commit (svc : WriteService σ υ) (ledger : Ledger) (s : WriteSession) (x : Exchange σ) :
    Except Failure TableSession × WriteSession × Exchange σ :=
  match ledger.finalize svc s.snapshot x with
  | (.error f, x) => (.error f, s, x)
  | (.ok snapshot, x) => (.ok snapshot, { s with snapshot }, x)

/-- Releases the session. Once that has succeeded, the service is not asked again. -/
def stop (svc : WriteService σ υ) (s : WriteSession) (x : Exchange σ) :
    Except Failure Unit × WriteSession × Exchange σ :=
  if s.stopped then (.ok (), s, x)
  else match x.ask (svc.release s.snapshot) with
    | (.error f, x) => (.error f, s, x)
    | (.ok (), x) => (.ok (), { s with stopped := true }, x)

@[simp] theorem stop_of_stopped (svc : WriteService σ υ) {s : WriteSession} (x : Exchange σ)
    (h : s.stopped = true) : s.stop svc x = (.ok (), s, x) := by
  simp [stop, h]

end WriteSession

end TableExchange
