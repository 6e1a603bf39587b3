import TableExchange.Text.Lowercase

/-!
The environment that the client runs in. It selects the configuration file that is laid over the
base file.
-/

namespace TableExchange

inductive Environment
  | dev
  | prod
deriving DecidableEq, Repr

namespace Environment

def text : Environment → String
  | dev => "dev"
  | prod => "prod"

/-- The environment of a name in any case, or why there is none. -/
def ofText (s : String) : Except String Environment :=
  let name := Text.lowercase s
  if name = "dev" then .ok dev
  else if name = "prod" then .ok prod
  else .error s!"{name} is not a supported environment. Use either `dev` or `prod`."

/-- The environment named by a variable, by default the first one. -/
def ofVariable : Option String → Except String Environment
  | some s => ofText s
  | none => .ok dev

@[simp] theorem ofVariable_none : ofVariable none = .ok dev := rfl

end Environment

end TableExchange
