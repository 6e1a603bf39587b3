import TableExchange.Failure.Basic
import TableExchange.Text.Blank
import TableExchange.Text.Lines

/-!
The text of a failure: a head line, the detail, and the trace, each on lines of their own. An
aggregate numbers its members and indents what follows their head lines.
-/

namespace TableExchange.Failure

def place : String := "<location>"

def detailLines : Option String → List String
  | none => []
  | some d =>
    if Text.isBlank d then ["  Detail: <empty>"]
    else "  Detail:" :: (Text.lines d).map ("    " ++ ·)

/-- The lines of a trace, which is never recorded. -/
def traceLines : List String :=
  ["  Backtrace:", "    disabled backtrace"]

/-- One member of an aggregate: its number before its head line, the other lines indented. -/
def memberLines (number : Nat) (text : String) : List String :=
  match Text.lines text with
  | [] => [s!"  {number}."]
  | first :: rest => s!"  {number}. {first}" :: rest.map ("     " ++ ·)

mutual

def render : Failure → String
  | .single k d t _ =>
    Text.joinLines (s!"[{k.name}] {d} @ {place}" :: (detailLines t ++ traceLines))
  | .many members =>
    let count := members.length
    let plural := if count = 1 then "" else "s"
    let body := if members.isEmpty then ["  (no inner errors provided)"] else renderMembers 1 members
    Text.joinLines (s!"[Many] {count} error{plural} aggregated @ {place}" :: body)

def renderMembers (number : Nat) : List Failure → List String
  | [] => []
  | f :: rest => memberLines number (render f) ++ renderMembers (number + 1) rest

end

mutual

def causeTexts : Failure → List String
  | .single _ _ _ causes => causes
  | .many members => causeTextsOf members

/-- An aggregate's cause is its first member. -/
def causeTextsOf : List Failure → List String
  | [] => []
  | f :: _ => render f :: causeTexts f

end

/-- What a failure contributes to the chain of another one that it caused. -/
def asCause (f : Failure) : List String :=
  f.render :: f.causeTexts

end TableExchange.Failure
