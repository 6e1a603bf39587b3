import TableExchange.Read.Dispenser

/-!
Handles of batch read sessions: the last snapshot of the session, the scope of its listings, and
whether it was released.
-/

namespace TableExchange

structure ReadSession where
  snapshot : TableSession
  scope : Scope
  stopped : Bool := false
deriving DecidableEq, Repr

namespace ReadSession

variable {σ : Type}

def refresh (svc : ReadService σ) (s : ReadSession) (x : Exchange σ) :
    Except Failure TableSession × ReadSession × Exchange σ :=
  match x.ask (svc.lookUp s.snapshot.table s.snapshot.id .batchRead) with
  | (.error f, x) => (.error f, s, x)
  | (.ok snapshot, x) => (.ok snapshot, { s with snapshot }, x)

def listing (s : ReadSession) : Listing :=
  .start s.snapshot s.scope

def dispenser (s : ReadSession) : Dispenser :=
  .start s.snapshot s.scope

/-- Releases the session. Once that has succeeded, the service is not asked again. -/
def stop (svc : ReadService σ) (s : ReadSession) (x : Exchange σ) :
    Except Failure Unit × ReadSession × Exchange σ :=
  if s.stopped then (.ok (), s, x)
  else match x.ask (svc.release s.snapshot) with
    | (.error f, x) => (.error f, s, x)
    | (.ok (), x) => (.ok (), { s with stopped := true }, x)

@[simp] theorem stop_of_stopped (svc : ReadService σ) {s : ReadSession} (x : Exchange σ)
    (h : s.stopped = true) : s.stop svc x = (.ok (), s, x) := by
  simp [stop, h]

end ReadSession

end TableExchange
