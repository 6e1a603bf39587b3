import TableExchange.Failure.Basic
import TableExchange.Text.Utf8

/-!
Failures that stand for faults of reading and writing text.
-/

namespace TableExchange.Failure

def ofInputOutput (text : String) : Failure :=
  (of .inputOutput "I/O operation failed" (some text)).becauseOf [text]

def ofEncoding (flaw : Text.Utf8.Flaw) : Failure :=
  (of .invalidData "UTF-8 string conversion failed" (some flaw.message)).becauseOf [flaw.message]

def ofJsonRead : Failure :=
  let text := "the text is not the expected JSON"
  (of .deserialization "JSON deserialization failed" (some text)).becauseOf [text]

def ofJsonWrite (text : String) : Failure :=
  (of .serialization "JSON serialization failed" (some text)).becauseOf [text]

end TableExchange.Failure
