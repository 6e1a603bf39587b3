import TableExchange.Interactive.Options
import TableExchange.Interactive.StartWait
import TableExchange.Session.ReadSession
import TableExchange.Session.WriteSession

/-!
The coordinator is where sessions begin. It holds the default project and schema and the polling
and writing configuration.
-/

namespace TableExchange

structure Coordinator where
  project : String
  schema : String := TableRef.defaultSchema
  poll : PollConfig := {}
  writer : WriterConfig := {}
deriving DecidableEq, Repr

namespace Coordinator

variable {σ υ : Type}

def ofConfig (config : ClientConfig) : Except Failure Coordinator :=
  match config.validate with
  | .error flaw => .error flaw.failure
  | .ok () =>
    .ok {
      project := config.service.project
      schema := config.service.schema
      poll := config.poll
      writer := config.writer }

def table (c : Coordinator) (name : String) : TableRef :=
  ⟨c.project, c.schema, name⟩

def createRead (svc : ReadService σ) (table : TableRef) (scope : Scope) (x : Exchange σ) :
    Except Failure ReadSession × Exchange σ :=
  match x.ask (svc.createRead table scope) with
  | (.error f, x) => (.error f, x)
  | (.ok snapshot, x) => (.ok { snapshot, scope }, x)

def attachRead (svc : ReadService σ) (table : TableRef) (id : String) (scope : Scope)
    (x : Exchange σ) : Except Failure ReadSession × Exchange σ :=
  match x.ask (svc.lookUp table id .batchRead) with
  | (.error f, x) => (.error f, x)
  | (.ok snapshot, x) => (.ok { snapshot, scope }, x)

def createWrite (c : Coordinator) (svc : WriteService σ υ) (table : TableRef)
    (options : WriteOptions) (x : Exchange σ) : Except Failure WriteSession × Exchange σ :=
  match x.ask (svc.createWrite table options) with
  | (.error f, x) => (.error f, x)
  | (.ok snapshot, x) => (.ok { snapshot, config := c.writer }, x)

def attachWrite (c : Coordinator) (svc : WriteService σ υ) (table : TableRef) (id : String)
    (x : Exchange σ) : Except Failure WriteSession × Exchange σ :=
  match x.ask (svc.lookUp table id .batchWrite) with
  | (.error f, x) => (.error f, x)
  | (.ok snapshot, x) => (.ok { snapshot, config := c.writer }, x)

def instanceRequest (c : Coordinator) (o : InteractiveOptions) : InstanceRequest where
  project := o.project.getD c.project
  taskName := o.taskName.getD c.poll.taskName
  settings := o.taskSettings
  priority := o.priority
  runningCluster := o.runningCluster

/-- Waits for a new session if its options ask for that. Only a failed wait loses the session. -/
def awaitStart (svc : InstanceService σ) (rounds : Nat) (timeoutMs : Option Nat)
    (s : InteractiveSession) (x : Exchange σ) :
    Option (Except Failure InteractiveSession) × Exchange σ :=
  match timeoutMs with
  | none => (some (.ok s), x)
  | some t =>
    match s.waitForStart svc rounds t x with
    | (none, _, x) => (none, x)
    | (some (.error f), _, x) => (some (.error f), x)
    | (some (.ok _), s, x) => (some (.ok s), x)

/-- Creates an interactive session. The answer is absent when waiting for the start does not end
within `rounds`. -/
def createInteractive (c : Coordinator) (svc : InstanceService σ) (rounds : Nat)
    (o : InteractiveOptions) (x : Exchange σ) :
    Option (Except Failure InteractiveSession) × Exchange σ :=
  match o.validate with
  | .error f => (some (.error f), x)
  | .ok () =>
    let request := c.instanceRequest o
    match x.ask (svc.createInstance request) with
    | (.error f, x) => (some (.error f), x)
    | (.ok instanceId, x) =>
      match x.ask (svc.logView instanceId) with
      | (.error f, x) => (some (.error f), x)
      | (.ok logView, x) =>
        awaitStart svc rounds o.startTimeoutMs {
          channel := ⟨instanceId, request.taskName⟩
          name := o.displayName
          pollMs := c.poll.intervalMs.toNat
          receiver := x.shutdown.subscribe
          logView } x

def attachInteractive (c : Coordinator) (svc : InstanceService σ) (rounds : Nat) (name : String)
    (settings : Settings) (startTimeoutMs : Option Nat) (taskName : Option String)
    (x : Exchange σ) : Option (Except Failure InteractiveSession) × Exchange σ :=
  match InteractiveOptions.attach name settings startTimeoutMs taskName with
  | .error f => (some (.error f), x)
  | .ok o => c.createInteractive svc rounds o x

end Coordinator

end TableExchange
