import TableExchange.Config.Model
import TableExchange.Failure.Conversion
import TableExchange.Http.Network
import TableExchange.Rest.Record

/-!
A client of the service over HTTP: the addresses of its resources, and round trips whose faults
become failures. Names stand in addresses as they are.
-/

namespace TableExchange.Rest

open Http (Method Payload Request Response Obstacle Network Url)

structure Client where
  endpoint : String
  token : Option String
  timeoutMs : Nat
  logViewHost : Option String
deriving DecidableEq, Repr

def withoutSlashes (s : String) : String :=
  String.ofList (s.toList.reverse.dropWhile (· = '/')).reverse

namespace Client

def invalidEndpoint (detail : String) : Failure :=
  (Failure.of .validation "Invalid service endpoint" (some detail)).becauseOf ["invalid address"]

def ofConfig (config : ServiceConfig) : Except Failure Client :=
  match config.validate with
  | .error flaw => .error flaw.failure
  | .ok () =>
    match Url.ofString? config.endpoint with
    | none => .error (invalidEndpoint config.endpoint)
    | some _ =>
      .ok {
        endpoint := withoutSlashes config.endpoint
        token := config.accessToken
        timeoutMs := config.requestTimeoutMs.toNat
        logViewHost := config.logViewHost }

def sessionsUrl (c : Client) (t : TableRef) : String :=
  s!"{c.endpoint}/projects/{t.project}/schemas/{t.schema}/tables/{t.table}/sessions"

def sessionUrl (c : Client) (t : TableRef) (id : String) : String :=
  s!"{c.sessionsUrl t}/{id}"

def instancesUrl (c : Client) (project : String) : String :=
  s!"{c.endpoint}/projects/{project}/instances"

def instanceUrl (c : Client) (i : InstanceId) : String :=
  s!"{c.instancesUrl i.project}/{i.id}"

/-- The hours for which a log view link stays valid. -/
def logViewHours : Nat := 168

def logView (c : Client) (i : InstanceId) : Except Failure (Option String) :=
  match c.logViewHost with
  | none => .ok none
  | some host =>
    match Url.ofString? (withoutSlashes host ++ "/logview/") with
    | none =>
      .error ((Failure.of .configuration "Invalid log view host" (some host)).becauseOf
        ["invalid address"])
    | some url =>
      .ok (some (url.withPairs [("h", c.endpoint), ("p", i.project), ("i", i.id),
        ("hours", toString logViewHours)]).text)

def unbuildable : Failure :=
  (Failure.of .configuration "Invalid service request" (some "builder error")).becauseOf
    ["builder error"]

/-- The longest address that can be requested. -/
def addressLimit : Nat := 65534

/-- Builds a request. The user part of the endpoint is sent apart from the address. -/
def request (c : Client) (method : Method) (address : String) (pairs : List (String × String))
    (payload : Payload) : Except Failure Request :=
  match Url.ofString? address with
  | none => .error unbuildable
  | some parsed =>
    let url := (if pairs.isEmpty then parsed else parsed.withPairs pairs).withoutUser
    if c.token.any (fun t => !Http.isHeaderValue t) || !url.hasPlainHost ||
        addressLimit < url.text.utf8ByteSize then .error unbuildable
    else
      .ok {
        method
        url
        login := String.ofList parsed.userText
        token := c.token.map ("Bearer " ++ ·)
        payload }

def obstructed (url : Url) (o : Obstacle) : Failure :=
  let lost := s!"error sending request for url ({url.text})"
  match o with
  | .unreachable | .timedOut =>
    (Failure.of .connectionFailed "Could not reach the table service" (some lost)).becauseOf [lost]
  | .brokenBody =>
    let text := s!"error decoding response body for url ({url.text})"
    (Failure.of .bodyFailed "Reading or writing a service body failed" (some text)).becauseOf [text]
  | .closedEarly =>
    (Failure.of .requestFailed "Service request failed" (some lost)).becauseOf [lost]

/-- The failure that a response without success stands for. What the report leaves open is taken
from the header, the status, and the body itself. -/
def faultOf (r : Response) : Failure :=
  let body := r.body.getD "<unable to read body>"
  let report := ((Json.parse? body).bind FaultReport.ofJson?).getD {}
  let id := ((r.requestId.bind Http.headerText?).or report.requestId).getD "unknown"
  let code := report.code.getD ((Http.reasonPhrase? r.status).getD "Unknown")
  let message := report.message.getD body
  .of .requestFailed "Table service returned an error"
    (some s!"status {r.status}, request id {id}, code {code}: {message}")

def bodyOf (url : Url) (r : Response) : Except Failure String :=
  if Http.isSuccess r.status then
    match r.body with
    | some text => .ok text
    | none => .error (obstructed url .brokenBody)
  else .error (faultOf r)

def received (url : Url) : Except Obstacle Response → Except Failure Response
  | .ok r => .ok r
  | .error o => .error (obstructed url o)

variable {σ υ α : Type}

def send (c : Client) (net : Network σ υ) (built : Except Failure Request) (s : σ) :
    Reply σ String :=
  match built with
  | .error f => (.error f, s)
  | .ok r =>
    let (answer, s) := net.roundTrip c.timeoutMs r s
    (received r.url answer >>= bodyOf r.url, s)

def sendJson (c : Client) (net : Network σ υ) (built : Except Failure Request)
    (read : Json → Option α) (s : σ) : Reply σ α :=
  match c.send net built s with
  | (.error f, s) => (.error f, s)
  | (.ok text, s) =>
    match (Json.parse? text).bind read with
    | some a => (.ok a, s)
    | none => (.error .ofJsonRead, s)

/-- Sends a request of which only the success matters; one further status counts as success. -/
def sendTolerating (c : Client) (net : Network σ υ) (built : Except Failure Request)
    (tolerated : Nat) (s : σ) : Reply σ Unit :=
  match built with
  | .error f => (.error f, s)
  | .ok r =>
    let (answer, s) := net.roundTrip c.timeoutMs r s
    (received r.url answer >>= fun response =>
      if response.status = tolerated ∨ Http.isSuccess response.status = true then .ok ()
      else .error (faultOf response), s)

end Client

end TableExchange.Rest
