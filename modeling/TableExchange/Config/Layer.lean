import TableExchange.Config.Path
import TableExchange.Config.Yaml.Document
import TableExchange.Json.Reader
import TableExchange.Text.Utf8

/-!
The layers of a configuration: files and environment variables, each as a list of values at paths.
Later layers are laid over earlier ones.
-/

namespace TableExchange

mutual

def ConfigValue.ofJson : Json → ConfigValue
  | .null => .nil
  | .bool b => .bool b
  | .integer n => if n ≤ Int64.maxValue.toInt then .integer n else .real (Float.ofInt n)
  | .decimal d => .real (d.toFloat?.getD 0.0)
  | .string s => .text s
  | .array items => .list (ConfigValue.ofItems items)
  | .object members => .table (ConfigValue.ofMembers members)
  | .broken => .nil

def ConfigValue.ofItems : List Json → List ConfigValue
  | [] => []
  | j :: rest => ConfigValue.ofJson j :: ConfigValue.ofItems rest

/-- The entries of an object's members; the last one of a name counts. -/
def ConfigValue.ofMembers : List (String × Json) → List (String × ConfigValue)
  | [] => []
  | (name, j) :: rest =>
    let es := ConfigValue.ofMembers rest
    if (ConfigValue.find? name es).isSome then es else (name, ConfigValue.ofJson j) :: es

end

abbrev Layer := List (List PathStep × ConfigValue)

namespace Layer

def ofTable (v : ConfigValue) : Layer :=
  v.entries.map fun e => (PathStep.pathOf e.1, e.2)

inductive Format
  | yaml
  | json
deriving DecidableEq, Repr

def Format.parse? : Format → String → Option ConfigValue
  | yaml, text => Yaml.parse? text
  | json, text =>
    match (Json.parse? text).bind Json.plain? with
    | some (.object members) => some (.ofJson (.object members))
    | _ => none

/-- Reads the layer of a file, which must be well-formed text and hold a table. -/
def ofFile? (format : Format) (bytes : List UInt8) : Option Layer := do
  let text ← (Text.Utf8.decode bytes).toOption
  (format.parse? text).map ofTable

/-- What the names of variables start with, in small letters. -/
def variableStart : String := "app_"

/-- A dot in place of every two underscores. -/
def dotted : List Char → List Char
  | '_' :: '_' :: cs => '.' :: dotted cs
  | c :: cs => c :: dotted cs
  | [] => []

/-- The entry of an environment variable. Two underscores part the names of a path. -/
def ofVariable? (name value : String) : Option (List PathStep × ConfigValue) :=
  let small := (Text.lowercase name).toList
  if variableStart.toList.isPrefixOf small then
    let key := small.drop variableStart.length
    some (PathStep.pathOf (String.ofList (dotted key)), .text value)
  else none

def ofVariables (vars : List (String × String)) : Layer :=
  vars.filterMap fun v => ofVariable? v.1 v.2

def putOn (below : ConfigValue) (layer : Layer) : ConfigValue :=
  layer.foldl (fun v e => ConfigValue.overlayAt e.1 e.2 (some v)) below

/-- Lays layers over one another, the first one at the bottom. -/
def stack (layers : List Layer) : ConfigValue :=
  layers.foldl putOn (.table [])

@[simp] theorem putOn_nil (below : ConfigValue) : putOn below [] = below := rfl

theorem putOn_append (below : ConfigValue) (a b : Layer) :
    putOn below (a ++ b) = putOn (putOn below a) b := by
  simp [putOn]

end Layer

end TableExchange
