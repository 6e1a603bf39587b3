import TableExchange.Config.Environment
import TableExchange.Config.Layer
import TableExchange.Config.Section

/-!
Loading the configuration from a directory. The base file is required; the file of the environment
is laid over it, and environment variables over both. Of several files of one name, the first
extension counts, and the others are never looked into.
-/

namespace TableExchange

inductive PathEntry
  | directory
  | file (bytes : List UInt8)
deriving DecidableEq, Repr

/-- What loading depends on: what stands at the paths, and the environment variables. -/
structure Surroundings where
  entry? : String → Option PathEntry
  environment : List (String × String)

namespace Surroundings

def join (directory name : String) : String :=
  if directory.isEmpty || directory.toList.getLast? = some '/' then directory ++ name
  else directory ++ "/" ++ name

def pathParts (path : String) : List String :=
  (path.splitOn "/").filter fun p => !(p.isEmpty || p = ".")

/-- The entry at a path below a root, where the given files and empty directories stand. A file
makes the directories on its path. -/
def entryBelow (root : String) (files : List (String × Option (List UInt8))) (path : String) :
    Option PathEntry :=
  let wanted := pathParts path
  let wanted := if (pathParts root).isPrefixOf wanted then wanted.drop (pathParts root).length
    else wanted
  match files.find? fun f => pathParts f.1 = wanted with
  | some (_, some bytes) => some (.file bytes)
  | some (_, none) => some .directory
  | none =>
    if wanted.isEmpty || files.any fun f => wanted.isPrefixOf (pathParts f.1) then
      some .directory
    else none

/-- The environment variables in a block of bytes, each ended by a zero byte. -/
def variablesOf (bytes : List UInt8) : List (String × String) :=
  ((Text.Utf8.mend bytes).splitOn "\x00").filterMap fun entry =>
    match entry.splitOn "=" with
    | name :: value => if value.isEmpty then none else some (name, "=".intercalate value)
    | [] => none

end Surroundings

inductive ConfigFile
  | base
  | environment (e : Environment)
deriving DecidableEq, Repr

namespace ConfigFile

def stem : ConfigFile → String
  | base => "base"
  | environment e => e.text

def description : ConfigFile → String
  | base => "base configuration"
  | environment e => s!"{e.text} environment configuration"

def extensions : List (String × Layer.Format) :=
  [("yaml", .yaml), ("yml", .yaml), ("json", .json)]

def candidates (f : ConfigFile) (directory : String) : List (String × Layer.Format) :=
  extensions.map fun e => (Surroundings.join directory s!"{f.stem}.{e.1}", e.2)

def find? (f : ConfigFile) (w : Surroundings) (directory : String) :
    Option (String × Layer.Format × List UInt8) :=
  (f.candidates directory).findSome? fun c =>
    match w.entry? c.1 with
    | some (.file bytes) => some (c.1, c.2, bytes)
    | _ => none

end ConfigFile

inductive LoadFailure
  | missingDirectory (path : String)
  | missingFile (file : ConfigFile) (directory : String)
  | unreadableFile (file : ConfigFile) (path : String)
  | environment (reason : String)
  | unfitting
deriving DecidableEq, Repr

namespace LoadFailure

def message : LoadFailure → String
  | missingDirectory path => s!"configuration directory `{path}` does not exist"
  | missingFile f directory =>
    let attempted := ", ".intercalate ((f.candidates directory).map fun c => s!"`{c.1}`")
    s!"could not locate {f.description} in `{directory}`; attempted: {attempted}"
  | unreadableFile f path => s!"failed to load {f.description} from `{path}`"
  | environment reason => s!"failed to determine runtime environment: {reason}"
  | unfitting => "failed to deserialize configuration"

end LoadFailure

namespace ClientConfig

def environmentVariable : String := "APP_ENVIRONMENT"

def layerOf (f : ConfigFile) (found : String × Layer.Format × List UInt8) :
    Except LoadFailure Layer :=
  match Layer.ofFile? found.2.1 found.2.2 with
  | some layer => .ok layer
  | none => .error (.unreadableFile f found.1)

def baseLayer (w : Surroundings) (directory : String) : Except LoadFailure Layer :=
  match ConfigFile.base.find? w directory with
  | some found => layerOf .base found
  | none => .error (.missingFile .base directory)

def environmentLayer (w : Surroundings) (directory : String) (e : Environment) :
    Except LoadFailure Layer :=
  match (ConfigFile.environment e).find? w directory with
  | some found => layerOf (.environment e) found
  | none => .ok []

def load (w : Surroundings) (directory : String) : Except LoadFailure ClientConfig := do
  if w.entry? directory ≠ some .directory then throw (.missingDirectory directory)
  let e ← (Environment.ofVariable (w.environment.lookup environmentVariable)).mapError
    LoadFailure.environment
  let base ← baseLayer w directory
  let environment ← environmentLayer w directory e
  match ofValue? (Layer.stack [base, environment, .ofVariables w.environment]) with
  | some config => return config
  | none => throw .unfitting

end ClientConfig

end TableExchange
