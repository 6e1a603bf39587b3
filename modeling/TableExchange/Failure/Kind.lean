/-!
The kinds of failure and the coarse categories that callers branch on. Every kind belongs to one
category.
-/

namespace TableExchange

inductive FailureKind
  | requestFailed
  | connectionFailed
  | bodyFailed
  | writerClosed
  | duplicateCommit
  | staleMarker
  | listingExhausted
  | orderViolated
  | conflictingMessages
  | invalidState
  | sessionFailed
  | interrupted
  | validation
  | configuration
  | serialization
  | deserialization
  | invalidData
  | inputOutput
  | unknown
  | injected
deriving DecidableEq, Repr

inductive FailureCategory
  | transportFault
  | protocolViolation
  | sessionFailed
  | interrupted
  | other
deriving DecidableEq, Repr

namespace FailureKind

def all : List FailureKind :=
  [requestFailed, connectionFailed, bodyFailed, writerClosed, duplicateCommit, staleMarker,
    listingExhausted, orderViolated, conflictingMessages, invalidState, sessionFailed, interrupted,
    validation, configuration, serialization, deserialization, invalidData, inputOutput, unknown,
    injected]

theorem mem_all (k : FailureKind) : k ∈ all := by
  cases k <;> decide

def name : FailureKind → String
  | requestFailed => "ServiceRequestFailed"
  | connectionFailed => "ServiceConnectionFailed"
  | bodyFailed => "ServiceIoError"
  | writerClosed => "WriterClosed"
  | duplicateCommit => "DuplicateCommit"
  | staleMarker => "StalePaginationMarker"
  | listingExhausted => "ListingExhausted"
  | orderViolated => "SplitOrderViolated"
  | conflictingMessages => "ConflictingCommitMessages"
  | invalidState => "InvalidState"
  | sessionFailed => "SessionFailed"
  | interrupted => "Interrupted"
  | validation => "ValidationError"
  | configuration => "ConfigError"
  | serialization => "SerializationError"
  | deserialization => "DeserializationError"
  | invalidData => "InvalidData"
  | inputOutput => "IoError"
  | unknown => "Unknown"
  | injected => "InjectedFault"

def ofName? (s : String) : Option FailureKind :=
  all.find? (·.name == s)

/-- The category of a kind. An injected fault counts as a fault of the transport. -/
def category : FailureKind → FailureCategory
  | requestFailed | connectionFailed | bodyFailed | injected => .transportFault
  | writerClosed | duplicateCommit | staleMarker | listingExhausted | orderViolated
  | conflictingMessages | invalidState => .protocolViolation
  | sessionFailed => .sessionFailed
  | interrupted => .interrupted
  | _ => .other

end FailureKind

def FailureCategory.name : FailureCategory → String
  | transportFault => "TransportFault"
  | protocolViolation => "ProtocolViolation"
  | sessionFailed => "SessionFailed"
  | interrupted => "Interrupted"
  | other => "Other"

end TableExchange
