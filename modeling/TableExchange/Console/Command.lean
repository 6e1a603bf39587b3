import TableExchange.Failure.Render
import TableExchange.Session.Coordinator

/-!
The two commands of the console, on any service. A query stops the session that was created for it,
but never one that it was attached to; a listing releases its read session. What fails in the
command itself goes before what fails in cleaning up.
-/

namespace TableExchange.Console

inductive CommandFailure
  | failure (f : Failure)
  | notStarted (timeoutSecs : Nat)
deriving Repr

namespace CommandFailure

def text : CommandFailure → String
  | failure f => f.render
  | notStarted secs => s!"the session did not start within {secs}s"

def detail : CommandFailure → Option String
  | failure f => f.detail
  | notStarted _ => none

end CommandFailure

structure Report where
  printed : List String
  outcome : Except CommandFailure Unit

namespace Report

def failed (f : Failure) : Report :=
  ⟨[], .error (.failure f)⟩

/-- Adds the outcome of cleaning up, which counts only after a success. -/
def after (r : Report) (cleanup : Except Failure Unit) : Report :=
  match r.outcome, cleanup with
  | .ok (), .error f => { r with outcome := .error (.failure f) }
  | _, _ => r

end Report

variable {σ : Type}

def resultLines (p : TaskPayload) : List String :=
  p.nonEmptyResult.toList

/-- Pulls results and prints them, until the end or a failure. The answer is absent when `pulls`
are not enough. -/
def printResults (svc : InstanceService σ) (rounds : Nat) :
    Nat → List String → QueryResults → Exchange σ → Option Report × Exchange σ
  | 0, _, _, x => (none, x)
  | pulls + 1, printed, q, x =>
    match q.next svc rounds x with
    | (none, _, x) => (none, x)
    | (some (.error f), _, x) => (some ⟨printed, .error (.failure f)⟩, x)
    | (some (.ok none), _, x) => (some ⟨printed, .ok ()⟩, x)
    | (some (.ok (some p)), q, x) => printResults svc rounds pulls (printed ++ resultLines p) q x

/-- Reads the statistics after all results were printed. -/
def closeQuery (svc : InstanceService σ) (s : InteractiveSession) (r : Report) (x : Exchange σ) :
    Report × Exchange σ :=
  match r.outcome with
  | .error _ => (r, x)
  | .ok () =>
    match s.queryStatistics svc x with
    | (.error f, x) => ({ r with outcome := .error (.failure f) }, x)
    | (.ok _, x) => (r, x)

def runStarted (svc : InstanceService σ) (rounds : Nat) (sql : String) (settings : Settings)
    (s : InteractiveSession) (x : Exchange σ) : Option Report × Exchange σ :=
  match s.run svc sql settings x with
  | (.error f, x) => (some (.failed f), x)
  | (.ok q, x) =>
    match printResults svc rounds rounds [] q x with
    | (none, x) => (none, x)
    | (some r, x) =>
      let (r, x) := closeQuery svc s r x
      (some r, x)

/-- Waits for a session to start and runs a query on it. -/
def querySession (svc : InstanceService σ) (rounds : Nat) (sql : String) (settings : Settings)
    (timeoutSecs : Nat) (s : InteractiveSession) (x : Exchange σ) :
    Option Report × InteractiveSession × Exchange σ :=
  match s.waitForStart svc rounds (timeoutSecs * 1000) x with
  | (none, s, x) => (none, s, x)
  | (some (.error f), s, x) => (some (.failed f), s, x)
  | (some (.ok false), s, x) => (some ⟨[], .error (.notStarted timeoutSecs)⟩, s, x)
  | (some (.ok true), s, x) =>
    let (r, x) := runStarted svc rounds sql settings s x
    (r, s, x)

/-- The session of a query: attached to a running one by its name, or created without a name. -/
def obtainSession (c : Coordinator) (svc : InstanceService σ) (rounds : Nat)
    (name : Option String) (x : Exchange σ) :
    Option (Except Failure InteractiveSession) × Exchange σ :=
  match name with
  | some n => c.attachInteractive svc rounds n ∅ none none x
  | none => c.createInteractive svc rounds {} x

def runQuery (c : Coordinator) (svc : InstanceService σ) (rounds : Nat) (sql : String)
    (name : Option String) (settings : Settings) (timeoutSecs : Nat) (x : Exchange σ) :
    Option Report × Exchange σ :=
  match obtainSession c svc rounds name x with
  | (none, x) => (none, x)
  | (some (.error f), x) => (some (.failed f), x)
  | (some (.ok s), x) =>
    match querySession svc rounds sql settings timeoutSecs s x with
    | (none, _, x) => (none, x)
    | (some r, s, x) =>
      if name.isSome then (some r, x)
      else
        let (stopped, _, x) := s.stop svc x
        (some (r.after stopped), x)

def splitLine (s : Split) : String :=
  s!"{s.key}\t{s.locator}"

/-- Pulls splits and prints them, until the end or a failure. The answer is absent when `pulls` are
not enough. -/
def printSplits (svc : ReadService σ) (rounds : Nat) :
    Nat → List String → Listing → Exchange σ → Option Report × Exchange σ
  | 0, _, _, x => (none, x)
  | pulls + 1, printed, l, x =>
    match l.nextSplit svc rounds x with
    | (none, _, x) => (none, x)
    | (some (.error f), _, x) => (some ⟨printed, .error (.failure f)⟩, x)
    | (some (.ok none), _, x) => (some ⟨printed, .ok ()⟩, x)
    | (some (.ok (some s)), l, x) =>
      printSplits svc rounds pulls (printed ++ [splitLine s]) l x

def listSplits (c : Coordinator) (svc : ReadService σ) (rounds : Nat) (table : String)
    (pageSize : Option UInt32) (x : Exchange σ) : Option Report × Exchange σ :=
  match Coordinator.createRead svc (c.table table) { pageSize } x with
  | (.error f, x) => (some (.failed f), x)
  | (.ok s, x) =>
    match printSplits svc rounds rounds [] s.listing x with
    | (none, x) => (none, x)
    | (some r, x) =>
      let (stopped, _, x) := s.stop svc x
      (some (r.after stopped), x)

@[simp] theorem printed_after (r : Report) (cleanup : Except Failure Unit) :
    (r.after cleanup).printed = r.printed := by
  unfold Report.after
  split <;> rfl

end TableExchange.Console
