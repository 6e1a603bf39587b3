import TableExchange.Failure.Basic
import TableExchange.Json.Printer
import TableExchange.Text.Utf8

/-!
Codecs turn batches into the bytes of a block. One passes encoded batches through; the other writes
records as JSON texts, each on a line of its own.
-/

namespace TableExchange

structure EncodedBatch where
  bytes : List UInt8
  records : UInt64
deriving DecidableEq, Repr

structure Codec (β : Type) where
  encode : β → Except Failure EncodedBatch

/-- Passes encoded batches through unchanged. -/
def Codec.raw : Codec EncodedBatch where
  encode := .ok

/-- A record to be written as JSON: a value, or one that cannot be written, and why. -/
inductive JsonRecord
  | value (j : Json)
  | unwritable (reason : String)
deriving Repr

namespace JsonLines

def line : JsonRecord → Except Failure (List Char)
  | .value j => .ok (j.renderChars ++ ['\n'])
  | .unwritable reason =>
    .error ((Failure.of .serialization "Encoding a record failed").becauseOf [reason])

/-- The lines of records, up to the first that cannot be written. -/
def lines : List JsonRecord → Except Failure (List Char)
  | [] => .ok []
  | r :: rest => do return (← line r) ++ (← lines rest)

end JsonLines

/-- Writes one JSON text per line. -/
def Codec.jsonLines : Codec (List JsonRecord) where
  encode records := do
    let cs ← JsonLines.lines records
    return ⟨Text.Utf8.encode (String.ofList cs), records.length.toUInt64⟩

end TableExchange
