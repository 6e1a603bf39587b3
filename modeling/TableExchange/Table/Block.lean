import TableExchange.Table.Ref

/-!
Blocks of a write session: attempts at writing one, the encoding of its bytes, and the message that
proves the service received an attempt in full.
-/

namespace TableExchange

/-- The attempt number that a retry of the same block uses. The last number is its own successor. -/
def nextAttempt (attempt : UInt32) : UInt32 :=
  if attempt = 0xFFFFFFFF then attempt else attempt + 1

structure CommitMessage where
  block : UInt64
  attempt : UInt32
  token : String
deriving DecidableEq, Repr

namespace CommitMessage

def toJson (m : CommitMessage) : Json :=
  .object [("block_number", .nat m.block.toNat), ("attempt", .nat m.attempt.toNat),
    ("token", .string m.token)]

def ofJson? (j : Json) : Option CommitMessage := do
  match ← j.slots ["block_number", "attempt", "token"] with
  | [b, a, t] =>
    return ⟨← b.required Json.word64?, ← a.required Json.word32?, ← t.required Json.text?⟩
  | _ => none

end CommitMessage

/-- The encoding family of a block's bytes: columnar batches or rows. -/
inductive DataLayout
  | arrow
  | record
deriving DecidableEq, Repr

namespace DataLayout

def wireNames : List (String × DataLayout) :=
  [("arrow", arrow), ("record", record)]

/-- The name in requests to open a block. -/
def text : DataLayout → String
  | arrow => "ARROW"
  | record => "RECORD"

end DataLayout

inductive DataVersion
  | v1
deriving DecidableEq, Repr

namespace DataVersion

def wireNames : List (String × DataVersion) :=
  [("v1", v1)]

/-- The name in requests to open a block. -/
def text : DataVersion → String
  | v1 => "V1"

end DataVersion

structure DataFormat where
  layout : DataLayout := .arrow
  version : DataVersion := .v1
deriving DecidableEq, Repr

namespace DataFormat

def toJson (f : DataFormat) : Json :=
  .object [("type", Json.variantText DataLayout.wireNames f.layout),
    ("version", Json.variantText DataVersion.wireNames f.version)]

/-- Reads the record; both parts are required. -/
def ofJson? (j : Json) : Option DataFormat := do
  match ← j.slots ["type", "version"] with
  | [t, v] =>
    return ⟨← t.required (Json.variant? DataLayout.wireNames),
      ← v.required (Json.variant? DataVersion.wireNames)⟩
  | _ => none

end DataFormat

/-- What to do with several attempts of one block that were all received: refuse until the caller
chooses one, or take the latest. -/
inductive ConflictPolicy
  | reject
  | latestAttemptWins
deriving DecidableEq, Repr

namespace ConflictPolicy

def wireNames : List (String × ConflictPolicy) :=
  [("reject", reject), ("latest_attempt_wins", latestAttemptWins)]

def toJson (p : ConflictPolicy) : Json :=
  Json.variantText wireNames p

def ofJson? : Json → Option ConflictPolicy :=
  Json.variant? wireNames

end ConflictPolicy

structure BlockRequest where
  table : TableRef
  sessionId : String
  block : UInt64
  attempt : UInt32
  format : DataFormat
deriving DecidableEq, Repr

end TableExchange
