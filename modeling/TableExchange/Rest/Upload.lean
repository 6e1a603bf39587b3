import TableExchange.Rest.Client

/-!
The upload of one block attempt. Its answer is taken once; only a finished upload whose answer
carries a token is acknowledged.
-/

namespace TableExchange.Rest

open Http (Request Response Network Url)

/-- An upload: whether bytes can still be pushed, and the running request whose answer was not
taken yet. A request that could not be built has a failure in its place. -/
structure Upload (υ : Type) where
  url : Option Url
  isOpen : Bool := true
  pending : Option (Except Failure υ)

namespace Upload

variable {σ υ : Type}

/-- Starts an upload. Whether the request can be built shows in its answer. -/
def start (net : Network σ υ) (built : Except Failure Request) (s : σ) : Upload υ × σ :=
  match built with
  | .error f => ({ url := none, pending := some (.error f) }, s)
  | .ok r =>
    let (u, s) := net.startUpload r s
    ({ url := some r.url, pending := some (.ok u) }, s)

def completed : Failure :=
  .of .invalidState "Block upload already completed"

def closed : Failure :=
  .of .invalidState "Block upload is closed"

/-- The failure of an upload that was answered with success before its end. -/
def cutShort : Failure :=
  .of .bodyFailed "Block upload ended before all data was sent"

def unreadable (body : String) : Failure :=
  (Failure.of .deserialization "Parsing the block commit response failed" (some body)).becauseOf
    ["malformed response"]

def checked (r : Response) : Except Failure Response :=
  if Http.isSuccess r.status then .ok r else .error (Client.faultOf r)

/-- The failure or response that a network's answer amounts to. -/
def outcome (u : Upload υ) (answer : Except Http.Obstacle Response) : Except Failure Response :=
  match u.url, answer with
  | _, .ok r => checked r
  | some url, .error o => .error (Client.obstructed url o)
  | none, .error _ => .error Client.unbuildable

/-- Waits for the answer and takes it. -/
def takeResponse (net : Network σ υ) (u : Upload υ) (s : σ) :
    Except Failure Response × Upload υ × σ :=
  let taken := { u with pending := none }
  match u.pending with
  | none => (.error completed, taken, s)
  | some (.error f) => (.error f, taken, s)
  | some (.ok running) =>
    let (answer, s) := net.collect running s
    (u.outcome answer, taken, s)

def pushed (net : Network σ υ) (u : Upload υ) (bytes : List UInt8) (s : σ) : Bool × σ :=
  match u.pending with
  | some (.ok running) => net.push running bytes s
  | _ => (false, s)

/-- Sends bytes. When they are refused, the service has answered early, and the answer decides. -/
def send (net : Network σ υ) (u : Upload υ) (bytes : List UInt8) (s : σ) :
    Except Failure Unit × Upload υ × σ :=
  if !u.isOpen then (.error closed, u, s)
  else match u.pushed net bytes s with
    | (true, s) => (.ok (), u, s)
    | (false, s) =>
      let (answer, u, s) := takeResponse net { u with isOpen := false } s
      (answer >>= fun _ => .error cutShort, u, s)

def tokenIn (u : Upload υ) (r : Response) : Except Failure String :=
  match r.body, u.url with
  | some body, _ =>
    match (Json.parse? body).bind tokenOf? with
    | some token => .ok token
    | none => .error (unreadable body)
  | none, some url => .error (Client.obstructed url .brokenBody)
  | none, none => .error Client.unbuildable

/-- Ends the body, waits for the answer and takes the token from it. -/
def finish (net : Network σ υ) (u : Upload υ) (s : σ) : Reply σ String :=
  let (answer, u, s) := u.takeResponse net s
  (answer >>= u.tokenIn, s)

def abort (net : Network σ υ) (u : Upload υ) (s : σ) : σ :=
  match u.pending with
  | some (.ok running) => net.cancel running s
  | _ => s

@[simp] theorem send_closed (net : Network σ υ) {u : Upload υ} (bytes : List UInt8) (s : σ)
    (h : u.isOpen = false) : u.send net bytes s = (.error closed, u, s) := by
  simp [send, h]

end Upload

end TableExchange.Rest
