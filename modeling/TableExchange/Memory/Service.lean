import TableExchange.Memory.Store

/-!
The answers of the in-memory service. Pages are cut at an offset that the marker spells out; a
finished attempt is acknowledged by a token that names it; channels and task states follow their
scripts.
-/

namespace TableExchange.Memory

def fault (status : Nat) (code message : String) : Failure :=
  .of .requestFailed "Table service returned an error"
    (some s!"status {status}, code {code}: {message}")

def noSuchSession (id : String) : Failure :=
  fault 404 "NoSuchSession" s!"session {id} does not exist"

/-- The page size of a scope that asks for none. -/
def defaultPageSize : UInt32 := 2

def digitsNumber (cs : List Char) : Nat :=
  cs.foldl (fun n c => n * 10 + (c.toNat - 48)) 0

/-- The unsigned number of 64 bits that a text spells out, with an optional plus sign. -/
def offset? (text : String) : Option UInt64 :=
  let digits := match text.toList with
    | '+' :: rest => rest
    | cs => cs
  if digits.isEmpty || !digits.all Char.isDigit then none
  else
    let n := digitsNumber digits
    if n < UInt64.size then some n.toUInt64 else none

def pageSize (scope : Scope) : UInt32 :=
  max 1 (scope.pageSize.getD defaultPageSize)

/-- The page of a list of splits from an offset on. Offsets are words of 64 bits, so the end of a
page beyond the greatest one starts again from zero. -/
def page (splits : List Split) (scope : Scope) (offset : UInt64) : SplitPage :=
  let size := pageSize scope
  let stop := min (offset + size.toUInt64).toNat splits.length
  { splits := (splits.take stop).drop offset.toNat
    nextMarker := some ⟨if splits.length ≤ stop then "" else toString stop⟩
    maxItems := some size }

def openSession (kind : SessionKind) (table : TableRef) (splits : List Split) (s : Store) :
    Reply Store TableSession :=
  let number := s.issued + 1
  let id := s!"session-{number}"
  let session : TableSession :=
    { id, table, kind, status := .active, message := none,
      logView := some s!"memory://logview/{id}" }
  (.ok session, { s with
    issued := number
    sessions := assign id session s.sessions
    sessionSplits := assign id splits s.sessionSplits })

def lookUp (_table : TableRef) (id : String) (kind : SessionKind) (s : Store) :
    Reply Store TableSession :=
  match lookup id s.sessions with
  | none => (.error (noSuchSession id), s)
  | some session =>
    if session.kind = kind then (.ok session, s)
    else (.error (fault 400 "InvalidSessionType" s!"session {id} is a {session.kind.text} session"), s)

/-- Terminates a session that is not over; an unknown one is already gone. -/
def release (session : TableSession) (s : Store) : Reply Store Unit :=
  match lookup session.id s.sessions with
  | some stored =>
    if stored.status.isTerminal then (.ok (), s)
    else (.ok (), s.setStatus session.id .terminated)
  | none => (.ok (), s)

def createRead (table : TableRef) (_scope : Scope) (s : Store) : Reply Store TableSession :=
  openSession .batchRead table ((lookup table s.tables).getD []) s

def listSplits (session : TableSession) (scope : Scope) (marker : Option Marker) (s : Store) :
    Reply Store SplitPage :=
  let s := { s with listRequests := s.listRequests ++ [marker] }
  match lookup session.id s.sessions with
  | none => (.error (noSuchSession session.id), s)
  | some _ =>
    let splits := (lookup session.id s.sessionSplits).getD []
    match marker with
    | none => (.ok (page splits scope 0), s)
    | some m =>
      match offset? m.text with
      | some offset => (.ok (page splits scope offset), s)
      | none => (.error (fault 400 "InvalidMarker" s!"marker '{m.text}' is not valid"), s)

def listRange (session : TableSession) (lower : String) (upper : Option String) (s : Store) :
    Reply Store (List Split) :=
  let s := { s with rangeRequests := s.rangeRequests ++ [(lower, upper)] }
  match lookup session.id s.sessions with
  | none => (.error (noSuchSession session.id), s)
  | some _ =>
    let splits := (lookup session.id s.sessionSplits).getD []
    (.ok (splits.filter fun split => lower ≤ split.key && upper.all (split.key < ·)), s)

def reading : ReadService Store where
  lookUp := lookUp
  release := release
  createRead := createRead
  listSplits := listSplits
  listRange := listRange

/-- An open upload: the attempt, and the bytes received so far. -/
structure Upload where
  key : BlockKey
  buffer : List UInt8
deriving DecidableEq, Repr

def token (block : UInt64) (attempt : UInt32) : String :=
  s!"token-{block.toNat}-{attempt.toNat}"

/-- Opens an upload, unless the session is over or the attempt was made to fail. -/
def openBlock (r : BlockRequest) (s : Store) : Reply Store Upload :=
  let s := { s with openRequests := s.openRequests ++ [r] }
  match lookup r.sessionId s.sessions with
  | none => (.error (noSuchSession r.sessionId), s)
  | some session =>
    if session.status.isTerminal then
      (.error (fault 409 "SessionClosed" s!"session {session.id} is {session.status.text}"), s)
    else if s.failingOpens.contains (r.block, r.attempt) then
      (.error (.of .connectionFailed "Could not reach the table service"
        (some s!"block {r.block.toNat} attempt {r.attempt.toNat} refused")), s)
    else (.ok ⟨⟨r.sessionId, r.block, r.attempt⟩, []⟩, s)

def sendChunk (u : Upload) (bytes : List UInt8) (s : Store) :
    Except Failure Unit × Upload × Store :=
  (.ok (), { u with buffer := u.buffer ++ bytes }, s)

def finishBlock (u : Upload) (s : Store) : Reply Store String :=
  if s.failingFinishes.contains (u.key.block, u.key.attempt) then
    (.error (fault 500 "InternalServerError"
      s!"block {u.key.block.toNat} attempt {u.key.attempt.toNat} was not persisted"), s)
  else
    (.ok (token u.key.block u.key.attempt), { s with received := assign u.key u.buffer s.received })

def abortBlock (u : Upload) (s : Store) : Store :=
  { s with abortedBlocks := s.abortedBlocks ++ [(u.key.block, u.key.attempt)] }

def acknowledges (s : Store) (sessionId : String) (m : CommitMessage) : Bool :=
  (s.receivedBlock sessionId m.block m.attempt).isSome && m.token == token m.block m.attempt

def commitSession (session : TableSession) (messages : List CommitMessage) (s : Store) :
    Reply Store TableSession :=
  let s := { s with commits := s.commits ++ [(session.id, messages)] }
  match messages.find? fun m => !acknowledges s session.id m with
  | some m =>
    (.error (fault 400 "InvalidCommitMessage"
      s!"block {m.block.toNat} carries an unknown token"), s)
  | none =>
    match lookup session.id s.sessions with
    | none => (.error (noSuchSession session.id), s)
    | some stored =>
      (.ok { stored with status := .committed }, s.setStatus session.id .committed)

def writing : WriteService Store Upload where
  lookUp := lookUp
  release := release
  createWrite table _ s := openSession .batchWrite table [] s
  openBlock := openBlock
  sendChunk := sendChunk
  finishBlock := finishBlock
  abortBlock := abortBlock
  commitSession := commitSession

def createInstance (r : InstanceRequest) (s : Store) : Reply Store InstanceId :=
  let number := s.issued + 1
  let id : InstanceId := ⟨r.project, s!"instance-{number}"⟩
  (.ok id, { s with issued := number, instances := assign id r s.instances })

/-- The next payload of a channel. -/
def taskInfo (id : InstanceId) (_task key : String) (s : Store) : Reply Store (Option String) :=
  match lookup id s.instances with
  | none => (.error (fault 404 "NoSuchInstance" s!"instance {id.id} does not exist"), s)
  | some _ =>
    let s := { s with channelReads := assign key (s.readCount key + 1) s.channelReads }
    match lookup key s.channelScripts with
    | some (payload :: rest) =>
      (.ok payload, { s with channelScripts := assign key rest s.channelScripts })
    | _ => (.ok none, s)

def setTaskInfo (_id : InstanceId) (_task key value : String) (s : Store) : Reply Store String :=
  (.ok "", { s with infoWrites := s.infoWrites ++ [(key, value)] })

/-- The next state of a task; a stopped instance has cancelled its task. -/
def taskStatus (id : InstanceId) (_task : String) (s : Store) :
    Reply Store (Option TaskStatus) :=
  if s.isStopped id then (.ok (some .cancelled), s)
  else match s.taskStates with
    | [] => (.ok none, s)
    | [state] => (.ok state, s)
    | state :: rest => (.ok state, { s with taskStates := rest })

def hosting : InstanceService Store where
  createInstance := createInstance
  taskInfo := taskInfo
  setTaskInfo := setTaskInfo
  taskStatus := taskStatus
  taskResult _ _ s := (.ok s.taskResult, s)
  stopInstance id s := (.ok (), { s with stopped := id :: s.stopped })
  logView id s := (.ok (some s!"memory://logview/{id.id}"), s)

def service : TableService Store Upload where
  read := reading
  write := writing
  instances := hosting

end TableExchange.Memory
