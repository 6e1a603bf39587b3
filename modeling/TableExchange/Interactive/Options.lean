import TableExchange.Failure.Basic
import TableExchange.Interactive.Instance
import TableExchange.Text.Blank

/-!
Options of an interactive session, and the task settings they amount to: the caller's settings,
overlaid with one hint per option, always submitted as a script.
-/

namespace TableExchange

/-- What a caller may ask for when creating an interactive session. A start timeout of zero waits
without a deadline. `shareId` names the running session to attach to. -/
structure InteractiveOptions where
  sessionName : Option String := none
  project : Option String := none
  workerCount : Option UInt32 := none
  workerMemoryMb : Option UInt32 := none
  workerSpareSpan : Option String := none
  priority : Option UInt32 := none
  runningCluster : Option String := none
  settings : Settings := ∅
  taskName : Option String := none
  startTimeoutMs : Option Nat := none
  shareId : Option String := none
deriving DecidableEq, Repr

namespace InteractiveOptions

def sessionNameHint : String := "odps.sql.session.name"

def workerCountHint : String := "odps.sql.session.worker.count"

def workerMemoryHint : String := "odps.sql.session.worker.memory"

def workerSpareSpanHint : String := "odps.sql.session.worker.sparespan"

def shareIdHint : String := "odps.sql.session.share.id"

def submitModeHint : String := "odps.sql.submit.mode"

def hints : List String :=
  [sessionNameHint, workerCountHint, workerMemoryHint, workerSpareSpanHint, shareIdHint,
    submitModeHint]

/-- Options that attach to a running session, which must have a name. -/
def attach (name : String) (settings : Settings) (startTimeoutMs : Option Nat)
    (taskName : Option String) : Except Failure InteractiveOptions :=
  if name.isEmpty then .error (.of .validation "Session name can not be empty")
  else .ok { settings, startTimeoutMs, taskName, shareId := some name }

/-- A project and a task that are named must not be blank. -/
def validate (o : InteractiveOptions) : Except Failure Unit :=
  if o.project.any Text.isBlank then .error (.of .validation "Project name can not be empty")
  else if o.taskName.any Text.isBlank then .error (.of .validation "Task name can not be empty")
  else .ok ()

/-- The name a session is shown under: its own, or that of the session it attaches to. -/
def displayName (o : InteractiveOptions) : Option String :=
  ((o.sessionName.map Text.trim).filter fun name => !name.isEmpty).or o.shareId

def overlay (key : String) (value : Option String) (s : Settings) : Settings :=
  match value with
  | some v => s.insert key v
  | none => s

/-- The settings sent with the task. A name is trimmed after it was found not to be empty. -/
def taskSettings (o : InteractiveOptions) : Settings :=
  let given := fun (text : Option String) => text.filter fun t => !t.isEmpty
  o.settings
    |> overlay workerSpareSpanHint (given o.workerSpareSpan)
    |> overlay sessionNameHint ((given o.sessionName).map Text.trim)
    |> overlay workerCountHint (o.workerCount.map fun n => toString n.toNat)
    |> overlay workerMemoryHint (o.workerMemoryMb.map fun n => toString n.toNat)
    |> overlay shareIdHint o.shareId
    |> overlay submitModeHint (some "script")

@[simp] theorem overlay_none (key : String) (s : Settings) : overlay key none s = s := rfl

@[simp] theorem overlay_some (key v : String) (s : Settings) :
    overlay key (some v) s = s.insert key v := rfl

end InteractiveOptions

end TableExchange
