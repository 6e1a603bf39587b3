import TableExchange.Table.Ref

/-!
Table sessions: their direction, their life cycle as the service reports it, and the snapshot of
one session.
-/

namespace TableExchange

inductive SessionKind
  | batchRead
  | batchWrite
deriving DecidableEq, Repr

namespace SessionKind

def wireNames : List (String × SessionKind) :=
  [("BATCH_READ", batchRead), ("BATCH_WRITE", batchWrite)]

def text : SessionKind → String
  | batchRead => "batch_read"
  | batchWrite => "batch_write"

def toJson (k : SessionKind) : Json :=
  Json.variantText wireNames k

def ofJson? : Json → Option SessionKind :=
  Json.variant? wireNames

end SessionKind

inductive SessionStatus
  | created
  | active
  | committed
  | terminated
  | failed
  | cancelled
deriving DecidableEq, Repr

namespace SessionStatus

def wireNames : List (String × SessionStatus) :=
  [("CREATED", created), ("ACTIVE", active), ("COMMITTED", committed),
    ("TERMINATED", terminated), ("FAILED", failed), ("CANCELLED", cancelled)]

def text : SessionStatus → String
  | created => "created"
  | active => "active"
  | committed => "committed"
  | terminated => "terminated"
  | failed => "failed"
  | cancelled => "cancelled"

/-- Whether the session accepts no further operations. -/
def isTerminal : SessionStatus → Bool
  | created | active => false
  | committed | terminated | failed | cancelled => true

def toJson (s : SessionStatus) : Json :=
  Json.variantText wireNames s

def ofJson? : Json → Option SessionStatus :=
  Json.variant? wireNames

end SessionStatus

structure TableSession where
  id : String
  table : TableRef
  kind : SessionKind
  status : SessionStatus
  message : Option String
  logView : Option String
deriving DecidableEq, Repr

namespace TableSession

def toJson (s : TableSession) : Json :=
  .object [("id", .string s.id), ("table", s.table.toJson), ("kind", s.kind.toJson),
    ("status", s.status.toJson), ("message", .optional .string s.message),
    ("log_view", .optional .string s.logView)]

def ofJson? (j : Json) : Option TableSession := do
  match ← j.slots ["id", "table", "kind", "status", "message", "log_view"] with
  | [i, t, k, s, m, l] =>
    return {
      id := ← i.required Json.text?
      table := ← t.required TableRef.ofJson?
      kind := ← k.required SessionKind.ofJson?
      status := ← s.required SessionStatus.ofJson?
      message := ← m.optional Json.text?
      logView := ← l.optional Json.text? }
  | _ => none

end TableSession

structure WriteOptions where
  overwrite : Bool := false
  partition : Option String := none
deriving DecidableEq, Repr

namespace WriteOptions

def toJson (o : WriteOptions) : Json :=
  .object [("overwrite", .bool o.overwrite), ("partition", .optional .string o.partition)]

def ofJson? (j : Json) : Option WriteOptions := do
  match ← j.slots ["overwrite", "partition"] with
  | [o, p] => return ⟨← o.required Json.bool?, ← p.optional Json.text?⟩
  | _ => none

end WriteOptions

end TableExchange
