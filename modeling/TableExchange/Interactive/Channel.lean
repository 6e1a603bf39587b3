import TableExchange.Json.Reader
import TableExchange.Service.Interface

/-!
The information channels of the task that hosts an interactive session. A read yields a payload or
nothing; nothing is also what an empty text means.
-/

namespace TableExchange

structure TaskChannel where
  instanceId : InstanceId
  taskName : String
deriving DecidableEq, Repr

namespace TaskChannel

variable {σ : Type}

def statusKey : String := "status"

def resultKey : String := "result"

def queryKey : String := "query"

def statisticsKey : String := "sqlstats"

def unreadable (key payload : String) : Failure :=
  (Failure.of .deserialization "Parsing a task info payload failed"
    (some s!"channel {key}, payload {payload}")).becauseOf ["malformed payload"]

def decode (key : String) : Option String → Except Failure (Option TaskPayload)
  | none => .ok none
  | some text =>
    if text.isEmpty then .ok none
    else match (Json.parse? text).bind TaskPayload.ofJson? with
      | some payload => .ok (some payload)
      | none => .error (unreadable key text)

def read (svc : InstanceService σ) (c : TaskChannel) (key : String) (x : Exchange σ) :
    Except Failure (Option TaskPayload) × Exchange σ :=
  match (x.count (.channelReads c.instanceId.id key) 1).ask
      (svc.taskInfo c.instanceId c.taskName key) with
  | (.error f, x) => (.error f, x)
  | (.ok text, x) => (decode key text, x)

def send (svc : InstanceService σ) (c : TaskChannel) (key value : String) (x : Exchange σ) :
    Except Failure String × Exchange σ :=
  x.ask (svc.setTaskInfo c.instanceId c.taskName key value)

def ended (c : TaskChannel) (status : TaskStatus) (result : Option String) : Failure :=
  .of .sessionFailed "The interactive session is no longer running"
    (some (s!"Session[{c.instanceId.id}] is {status.text}: " ++ result.getD ""))

/-- Fails if the task will never run again. A task without a state yet counts as alive. -/
def ensureAlive (svc : InstanceService σ) (c : TaskChannel) (x : Exchange σ) :
    Except Failure Unit × Exchange σ :=
  match x.ask (svc.taskStatus c.instanceId c.taskName) with
  | (.error f, x) => (.error f, x)
  | (.ok none, x) => (.ok (), x)
  | (.ok (some status), x) =>
    if status.isTerminal then
      match x.ask (svc.taskResult c.instanceId c.taskName) with
      | (.error f, x) => (.error f, x)
      | (.ok result, x) => (.error (c.ended status result), x)
    else (.ok (), x)

end TaskChannel

end TableExchange
