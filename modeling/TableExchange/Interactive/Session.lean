import TableExchange.Interactive.Results
import TableExchange.Json.Printer

/-!
Interactive sessions. A session starts in the starting phase, learns from its status channel that
it runs or has failed, accepts queries, and is stopped once.
-/

namespace TableExchange

inductive SessionPhase
  | notStarted
  | starting
  | running
  | terminated
  | failed
  | cancelled
deriving DecidableEq, Repr

namespace SessionPhase

def isTerminal : SessionPhase → Bool
  | terminated | failed | cancelled => true
  | notStarted | starting | running => false

def text : SessionPhase → String
  | notStarted => "not started"
  | starting => "starting"
  | running => "running"
  | terminated => "terminated"
  | failed => "failed"
  | cancelled => "cancelled"

end SessionPhase

structure InteractiveSession where
  channel : TaskChannel
  name : Option String
  pollMs : Nat
  receiver : Shutdown.Receiver
  phase : SessionPhase := .starting
  progress : Option LaunchProgress := none
  startMessage : String := ""
  logView : Option String
  stopped : Bool := false
deriving DecidableEq, Repr

namespace InteractiveSession

variable {σ : Type}

def label (s : InteractiveSession) : String :=
  s.name.getD s.channel.instanceId.id

def notRunning (s : InteractiveSession) : Failure :=
  .of .sessionFailed "The interactive session is not running"
    (some s!"Session[{s.label}] is {s.phase.text}")

def startFailed (s : InteractiveSession) (status : ObjectStatus) (result : Option String) :
    Failure :=
  .of .sessionFailed "Starting the interactive session failed"
    (some (s!"Start session[{s.label}] {status.text}: " ++ result.getD ""))

def unreadableProgress (text : String) : Failure :=
  (Failure.of .deserialization "Parsing the session launch progress failed"
    (some s!"response message: {text}")).becauseOf ["malformed progress"]

def begun (s : InteractiveSession) (result : Option String) : InteractiveSession :=
  { s with phase := .running, startMessage := s.startMessage ++ result.getD "" }

def launching (s : InteractiveSession) (result : Option String) :
    Except Failure Bool × InteractiveSession :=
  match result with
  | none => (.ok false, s)
  | some text =>
    match (Json.parse? text).bind LaunchProgress.ofJson? with
    | some progress => (.ok false, { s with progress := some progress })
    | none => (.error (unreadableProgress text), s)

def observe (s : InteractiveSession) (status : ObjectStatus) (result : Option String) :
    Except Failure Bool × InteractiveSession :=
  match status with
  | .running => (.ok true, s.begun result)
  | .failed => (.error (s.startFailed status result), { s with phase := .failed })
  | .terminated => (.error (s.startFailed status result), { s with phase := .terminated })
  | .cancelled => (.error (s.startFailed status result), { s with phase := .cancelled })
  | .other _ => s.launching result

/-- Checks the task of a session whose status is absent. -/
def checkTask (svc : InstanceService σ) (s : InteractiveSession) (x : Exchange σ) :
    Except Failure Bool × InteractiveSession × Exchange σ :=
  match s.channel.ensureAlive svc x with
  | (.ok (), x) => (.ok false, s, x)
  | (.error f, x) =>
    (.error f, if f.kind = .sessionFailed then { s with phase := .failed } else s, x)

def probe (svc : InstanceService σ) (s : InteractiveSession) (x : Exchange σ) :
    Except Failure Bool × InteractiveSession × Exchange σ :=
  match s.channel.read svc TaskChannel.statusKey x with
  | (.error f, x) => (.error f, s, x)
  | (.ok none, x) => s.checkTask svc x
  | (.ok (some payload), x) =>
    match payload.status with
    | none => s.checkTask svc x
    | some status =>
      let (answer, s) := s.observe status payload.nonEmptyResult
      (answer, s, x)

/-- Whether the session runs. A running session is not asked again, and one that is over fails. -/
def isStarted (svc : InstanceService σ) (s : InteractiveSession) (x : Exchange σ) :
    Except Failure Bool × InteractiveSession × Exchange σ :=
  if s.phase = .running then (.ok true, s, x)
  else if s.phase.isTerminal then (.error s.notRunning, s, x)
  else s.probe svc x

/-- The last launch progress; asks once if there is none yet. -/
def startProgress (svc : InstanceService σ) (s : InteractiveSession) (x : Exchange σ) :
    Except Failure (Option LaunchProgress) × InteractiveSession × Exchange σ :=
  if s.progress.isNone ∧ s.phase = .starting then
    match s.isStarted svc x with
    | (.error f, s, x) => (.error f, s, x)
    | (.ok _, s, x) => (.ok s.progress, s, x)
  else (.ok s.progress, s, x)

def queryText (sql : String) (settings : Settings) : String :=
  Json.render (.object [("query", .string sql), ("settings", settings.toJson)])

def run (svc : InstanceService σ) (sql : String) (settings : Settings) (s : InteractiveSession)
    (x : Exchange σ) : Except Failure QueryResults × Exchange σ :=
  match s.channel.send svc TaskChannel.queryKey (queryText sql settings) x with
  | (.error f, x) => (.error f, x)
  | (.ok _, x) => (.ok { channel := s.channel, pollMs := s.pollMs, receiver := s.receiver }, x)

def information (svc : InstanceService σ) (key : String) (s : InteractiveSession)
    (x : Exchange σ) : Except Failure (Option String) × Exchange σ :=
  match s.channel.read svc key x with
  | (.error f, x) => (.error f, x)
  | (.ok payload, x) => (.ok (payload.bind (·.result)), x)

def queryStatistics (svc : InstanceService σ) (s : InteractiveSession) (x : Exchange σ) :
    Except Failure (Option String) × Exchange σ :=
  s.information svc TaskChannel.statisticsKey x

def setInformation (svc : InstanceService σ) (key value : String) (s : InteractiveSession)
    (x : Exchange σ) : Except Failure String × Exchange σ :=
  s.channel.send svc key value x

/-- Stops the instance. Once that has succeeded, the service is not asked again. -/
def stop (svc : InstanceService σ) (s : InteractiveSession) (x : Exchange σ) :
    Except Failure Unit × InteractiveSession × Exchange σ :=
  if s.stopped then (.ok (), s, x)
  else match x.ask (svc.stopInstance s.channel.instanceId) with
    | (.error f, x) => (.error f, s, x)
    | (.ok (), x) =>
      (.ok (), { s with
        stopped := true
        phase := if s.phase.isTerminal then s.phase else .cancelled }, x)

@[simp] theorem isStarted_of_running (svc : InstanceService σ) {s : InteractiveSession}
    (x : Exchange σ) (h : s.phase = .running) : s.isStarted svc x = (.ok true, s, x) := by
  simp [isStarted, h]

@[simp] theorem stop_of_stopped (svc : InstanceService σ) {s : InteractiveSession}
    (x : Exchange σ) (h : s.stopped = true) : s.stop svc x = (.ok (), s, x) := by
  simp [stop, h]

end InteractiveSession

end TableExchange
