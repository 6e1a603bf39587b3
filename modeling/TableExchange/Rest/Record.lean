import TableExchange.Json.Printer
import TableExchange.Json.Reader
import TableExchange.Service.Interface

/-!
The JSON bodies exchanged with the service over HTTP. Their members have capitalized names; an
option that is not given is left out.
-/

namespace TableExchange.Rest

def given (name : String) (write : α → Json) : Option α → List (String × Json)
  | some a => [(name, write a)]
  | none => []

def readBody (scope : Scope) : Json :=
  .object [("SessionType", SessionKind.batchRead.toJson),
    ("Scope", .object ([("RequiredPartitions", .array (scope.partitions.map .string)),
      ("RequiredColumns", .array (scope.columns.map .string))] ++
        given "FilterPredicate" .string scope.filter))]

def writeBody (options : WriteOptions) : Json :=
  .object ([("SessionType", SessionKind.batchWrite.toJson), ("Overwrite", .bool options.overwrite)] ++
    given "PartitionSpec" .string options.partition)

/-- Reads the snapshot of a session of a table. An empty message counts as none. -/
def sessionOf? (table : TableRef) (j : Json) : Option TableSession := do
  match ← j.slots ["SessionId", "SessionType", "SessionStatus", "Message", "LogView"] with
  | [i, k, s, m, l] =>
    let message ← m.orElse (Json.nullOr Json.text?) none
    return {
      id := ← i.required Json.text?
      table
      kind := ← k.required SessionKind.ofJson?
      status := ← s.required SessionStatus.ofJson?
      message := message.filter fun t => !t.isEmpty
      logView := ← l.orElse (Json.nullOr Json.text?) none }
  | _ => none

def splitOf? (j : Json) : Option Split := do
  match ← j.slots ["Key", "Locator"] with
  | [k, l] => return ⟨← k.required Json.text?, ← l.required Json.text?⟩
  | _ => none

/-- Reads a page of splits; every part may be missing. -/
def pageOf? (j : Json) : Option SplitPage := do
  match ← j.slots ["Splits", "Marker", "MaxItems"] with
  | [s, m, n] =>
    return {
      splits := ← s.orElse (Json.list? splitOf?) []
      nextMarker := ← m.orElse (Json.nullOr Marker.ofJson?) none
      maxItems := ← n.orElse (Json.nullOr Json.word32?) none }
  | _ => none

/-- Reads the token of a finished block; a missing one counts as the empty token. -/
def tokenOf? (j : Json) : Option String := do
  match ← j.slots ["CommitMessage"] with
  | [t] => return (← t.orElse (Json.nullOr Json.text?) none).getD ""
  | _ => none

def commitBody (messages : List CommitMessage) : Json :=
  .object [("CommitMessages", .array (messages.map fun m =>
    .object [("BlockNumber", .nat m.block.toNat), ("AttemptNumber", .nat m.attempt.toNat),
      ("Message", .string m.token)]))]

/-- The type of the tasks that host interactive sessions. -/
def taskType : String := "SQLRT"

/-- The body that creates an instance. The settings are a JSON text within the JSON body. -/
def instanceBody (r : InstanceRequest) : Json :=
  .object [("Instance", .object (given "Priority" (fun n => .nat n.toNat) r.priority ++
    given "RunningCluster" .string r.runningCluster ++
    [("Tasks", .array [.object [("Type", .string taskType), ("Name", .string r.taskName),
      ("Properties", .texts [("settings", r.settings.toJson.render)])]])]))]

def instanceIdOf? (j : Json) : Option String := do
  match ← j.slots ["InstanceId"] with
  | [i] => i.required Json.text?
  | _ => none

def channelBody (key value : String) : Json :=
  .texts [("Key", key), ("Value", value)]

def stopBody : Json :=
  .object [("Instance", .texts [("Status", "Terminated")])]

def tasksOf? (property : Json.Slot → Option α) (name : String) (j : Json) :
    Option (List (String × α)) := do
  let task (j : Json) : Option (String × α) := do
    match ← j.slots ["Name", name] with
    | [n, p] => return (← n.required Json.text?, ← property p)
    | _ => none
  match ← j.slots ["Tasks"] with
  | [ts] => ts.orElse (Json.list? task) []
  | _ => none

def taskStatesOf? : Json → Option (List (String × TaskStatus)) :=
  tasksOf? (fun slot => slot.required TaskStatus.ofJson?) "Status"

def taskResultsOf? : Json → Option (List (String × Option String)) :=
  tasksOf? (fun slot => slot.orElse (Json.nullOr Json.text?) none) "Result"

structure FaultReport where
  requestId : Option String := none
  code : Option String := none
  message : Option String := none
deriving DecidableEq, Repr

def FaultReport.ofJson? (j : Json) : Option FaultReport := do
  match ← j.slots ["RequestId", "Code", "Message"] with
  | [r, c, m] =>
    return ⟨← r.optional Json.text?, ← c.optional Json.text?, ← m.optional Json.text?⟩
  | _ => none

end TableExchange.Rest
