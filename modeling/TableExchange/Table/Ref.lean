import TableExchange.Json.Record

/-!
The full name of a table: project, schema, table.
-/

namespace TableExchange

structure TableRef where
  project : String
  schema : String
  table : String
deriving DecidableEq, Repr

namespace TableRef

def defaultSchema : String := "default"

def text (t : TableRef) : String :=
  s!"{t.project}.{t.schema}.{t.table}"

def toJson (t : TableRef) : Json :=
  .texts [("project", t.project), ("schema", t.schema), ("table", t.table)]

/-- Reads the record; all parts are required. -/
def ofJson? (j : Json) : Option TableRef := do
  match ← j.slots ["project", "schema", "table"] with
  | [p, s, t] =>
    return ⟨← p.required Json.text?, ← s.required Json.text?, ← t.required Json.text?⟩
  | _ => none

end TableRef

end TableExchange
