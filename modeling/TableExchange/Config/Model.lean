import TableExchange.Failure.Basic
import TableExchange.Table.Block
import TableExchange.Text.Blank

/-!
The configuration of the client: the service it talks to, polling, and writing. Every section can
be read from JSON on its own, and validation names the first field that breaks its rule.
-/

namespace TableExchange

inductive ConfigFlaw
  | emptyField (field : String)
  | invalidValue (field constraint : String)
deriving DecidableEq, Repr

namespace ConfigFlaw

def message : ConfigFlaw → String
  | emptyField field => s!"`{field}` cannot be empty"
  | invalidValue field constraint => s!"invalid value for `{field}`: {constraint}"

def failure (flaw : ConfigFlaw) : Failure :=
  (Failure.of .validation "Invalid configuration" (some flaw.message)).becauseOf [flaw.message]

end ConfigFlaw

structure ServiceConfig where
  endpoint : String
  project : String
  schema : String := "default"
  accessToken : Option String := none
  requestTimeoutMs : UInt64 := 60000
  logViewHost : Option String := none
deriving DecidableEq, Repr

namespace ServiceConfig

def endsAuthority (c : Char) : Bool :=
  c == '/' || c == '?' || c == '#'

/-- The rest of an address after its scheme, if that is one of the two for HTTP. -/
def afterScheme? (cs : List Char) : Option (List Char) :=
  if "http://".toList.isPrefixOf cs then some (cs.drop 7)
  else if "https://".toList.isPrefixOf cs then some (cs.drop 8)
  else none

def afterLastAt (cs : List Char) : List Char :=
  (cs.reverse.takeWhile (· != '@')).reverse

/-- The host of an address without its scheme: the authority without its user part. -/
def hostPart (rest : List Char) : List Char :=
  afterLastAt (rest.takeWhile fun c => !endsAuthority c)

def namesHost (host : List Char) : Bool :=
  !host.isEmpty && host.head? != some ':' && !host.any Text.isBlankChar

/-- The endpoint must be an HTTP address that names a host, the project must not be blank, and the
timeout must be positive. -/
def validate (c : ServiceConfig) : Except ConfigFlaw Unit :=
  if Text.isBlank c.endpoint then .error (.emptyField "service.endpoint")
  else match afterScheme? c.endpoint.toList with
    | none => .error (.invalidValue "service.endpoint" "must start with http:// or https://")
    | some rest =>
      if !namesHost (hostPart rest) then
        .error (.invalidValue "service.endpoint" "must name a host")
      else if Text.isBlank c.project then .error (.emptyField "service.project")
      else if c.requestTimeoutMs = 0 then
        .error (.invalidValue "service.request_timeout_ms" "must be greater than 0")
      else .ok ()

def fieldNames : List String :=
  ["endpoint", "project", "schema", "access_token", "request_timeout_ms", "log_view_host"]

def toJson (c : ServiceConfig) : Json :=
  .object [("endpoint", .string c.endpoint), ("project", .string c.project),
    ("schema", .string c.schema), ("access_token", .optional .string c.accessToken),
    ("request_timeout_ms", .nat c.requestTimeoutMs.toNat),
    ("log_view_host", .optional .string c.logViewHost)]

def ofJson? (j : Json) : Option ServiceConfig := do
  match ← j.slots fieldNames with
  | [e, p, s, a, t, l] =>
    return {
      endpoint := ← e.required Json.text?
      project := ← p.required Json.text?
      schema := ← s.orElse Json.text? "default"
      accessToken := ← a.orElse (Json.nullOr Json.text?) none
      requestTimeoutMs := ← t.orElse Json.word64? 60000
      logViewHost := ← l.orElse (Json.nullOr Json.text?) none }
  | _ => none

end ServiceConfig

structure PollConfig where
  intervalMs : UInt64 := 3000
  taskName : String := "console_sqlrt_task"
deriving DecidableEq, Repr

namespace PollConfig

/-- The interval must be positive and the task name must not be blank. -/
def validate (c : PollConfig) : Except ConfigFlaw Unit :=
  if c.intervalMs = 0 then .error (.invalidValue "poll.interval_ms" "must be greater than 0")
  else if Text.isBlank c.taskName then .error (.emptyField "poll.task_name")
  else .ok ()

def fieldNames : List String := ["interval_ms", "task_name"]

def toJson (c : PollConfig) : Json :=
  .object [("interval_ms", .nat c.intervalMs.toNat), ("task_name", .string c.taskName)]

def ofJson? (j : Json) : Option PollConfig := do
  match ← j.slots fieldNames with
  | [i, t] =>
    return ⟨← i.orElse Json.word64? 3000, ← t.orElse Json.text? "console_sqlrt_task"⟩
  | _ => none

end PollConfig

structure WriterConfig where
  dataFormat : DataFormat := {}
  conflictPolicy : ConflictPolicy := .reject
deriving DecidableEq, Repr

namespace WriterConfig

def fieldNames : List String := ["data_format", "commit_conflict_policy"]

def toJson (c : WriterConfig) : Json :=
  .object [("data_format", c.dataFormat.toJson),
    ("commit_conflict_policy", c.conflictPolicy.toJson)]

def ofJson? (j : Json) : Option WriterConfig := do
  match ← j.slots fieldNames with
  | [d, p] => return ⟨← d.orElse DataFormat.ofJson? {}, ← p.orElse ConflictPolicy.ofJson? .reject⟩
  | _ => none

end WriterConfig

structure ClientConfig where
  service : ServiceConfig
  poll : PollConfig := {}
  writer : WriterConfig := {}
deriving DecidableEq, Repr

namespace ClientConfig

def validate (c : ClientConfig) : Except ConfigFlaw Unit := do
  c.service.validate
  c.poll.validate

def fieldNames : List String := ["service", "poll", "writer"]

def toJson (c : ClientConfig) : Json :=
  .object [("service", c.service.toJson), ("poll", c.poll.toJson), ("writer", c.writer.toJson)]

def ofJson? (j : Json) : Option ClientConfig := do
  match ← j.slots fieldNames with
  | [s, p, w] =>
    return ⟨← s.required ServiceConfig.ofJson?, ← p.orElse PollConfig.ofJson? {},
      ← w.orElse WriterConfig.ofJson? {}⟩
  | _ => none

end ClientConfig

end TableExchange
