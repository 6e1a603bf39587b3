import TableExchange.Rest.Upload

/-!
The table service over HTTP: each request of the interface as one round trip, or, for a block, as
one upload.
-/

namespace TableExchange.Rest

open Http (Network Payload)

variable {σ υ : Type}

namespace Client

def jsonPayload (j : Json) : Payload :=
  .json j.render

def splitsUrl (c : Client) (s : TableSession) : String :=
  s!"{c.sessionUrl s.table s.id}/splits"

def lookUp (c : Client) (net : Network σ υ) (table : TableRef) (id : String)
    (kind : SessionKind) : σ → Reply σ TableSession :=
  c.sendJson net (c.request .get (c.sessionUrl table id) [("session_type", kind.text)] .none)
    (sessionOf? table)

/-- Gives up a session; one that is gone already is fine. -/
def release (c : Client) (net : Network σ υ) (session : TableSession) : σ → Reply σ Unit :=
  c.sendTolerating net (c.request .delete (c.sessionUrl session.table session.id) [] .none) 404

/-- The parameters of a page request. The scope's columns and filter were fixed with the session. -/
def pageQuery (scope : Scope) (marker : Option Marker) : List (String × String) :=
  [("expectmarker", "true")] ++ (marker.map fun m => ("marker", m.text)).toList ++
    (scope.pageSize.map fun n => ("maxitems", toString n.toNat)).toList

def rangeQuery (lower : String) (upper : Option String) : List (String × String) :=
  ("min_value", lower) :: (upper.map fun u => ("max_value", u)).toList

def reading (c : Client) (net : Network σ υ) : ReadService σ where
  lookUp := c.lookUp net
  release := c.release net
  createRead table scope :=
    c.sendJson net (c.request .post (c.sessionsUrl table) [] (jsonPayload (readBody scope)))
      (sessionOf? table)
  listSplits session scope marker :=
    c.sendJson net (c.request .get (c.splitsUrl session) (pageQuery scope marker) .none) pageOf?
  listRange session lower upper :=
    c.sendJson net (c.request .get (c.splitsUrl session) (rangeQuery lower upper) .none) fun j =>
      (pageOf? j).map (·.splits)

def blockQuery (r : BlockRequest) : List (String × String) :=
  [("block_number", toString r.block.toNat), ("attempt_number", toString r.attempt.toNat),
    ("data_format_type", r.format.layout.text), ("data_format_version", r.format.version.text)]

def openBlock (c : Client) (net : Network σ υ) (r : BlockRequest) (s : σ) :
    Reply σ (Upload υ) :=
  let address := s!"{c.sessionUrl r.table r.sessionId}/data"
  let (u, s) := Upload.start net (c.request .post address (blockQuery r) .stream) s
  (.ok u, s)

def writing (c : Client) (net : Network σ υ) : WriteService σ (Upload υ) where
  lookUp := c.lookUp net
  release := c.release net
  createWrite table options :=
    c.sendJson net (c.request .post (c.sessionsUrl table) [] (jsonPayload (writeBody options)))
      (sessionOf? table)
  openBlock := c.openBlock net
  sendChunk := Upload.send net
  finishBlock := Upload.finish net
  abortBlock := Upload.abort net
  commitSession session messages :=
    c.sendJson net (c.request .post (s!"{c.sessionUrl session.table session.id}/commit") []
      (jsonPayload (commitBody messages))) (sessionOf? session.table)

def channelQuery (task : String) (key : Option String) : List (String × String) :=
  [("info", ""), ("taskname", task)] ++ (key.map fun k => ("key", k)).toList

def entryOf {α : Type} (task : String) (entries : List (String × α)) : Option α :=
  entries.lookup task

/-- Applies a function to what a reply brings. -/
def mapReply {α β : Type} (f : α → β) (r : Reply σ α) : Reply σ β :=
  (r.1.map f, r.2)

def hosting (c : Client) (net : Network σ υ) : InstanceService σ where
  createInstance r s :=
    mapReply (InstanceId.mk r.project) (c.sendJson net
      (c.request .post (c.instancesUrl r.project) [] (jsonPayload (instanceBody r)))
      instanceIdOf? s)
  taskInfo i task key s :=
    mapReply (fun text => some text |>.filter fun t => !t.isEmpty) (c.send net
      (c.request .get (c.instanceUrl i) (channelQuery task (some key)) .none) s)
  setTaskInfo i task key value :=
    c.send net (c.request .put (c.instanceUrl i) (channelQuery task none)
      (jsonPayload (channelBody key value)))
  taskStatus i task s :=
    mapReply (entryOf task) (c.sendJson net
      (c.request .get (c.instanceUrl i) [("taskstatus", "")] .none) taskStatesOf? s)
  taskResult i task s :=
    mapReply (fun entries => (entryOf task entries).join) (c.sendJson net
      (c.request .get (c.instanceUrl i) [("result", "")] .none) taskResultsOf? s)
  stopInstance i :=
    c.sendTolerating net (c.request .put (c.instanceUrl i) [] (jsonPayload stopBody)) 409
  logView i s := (c.logView i, s)

def service (c : Client) (net : Network σ υ) : TableService σ (Upload υ) where
  read := c.reading net
  write := c.writing net
  instances := c.hosting net

end Client

end TableExchange.Rest
