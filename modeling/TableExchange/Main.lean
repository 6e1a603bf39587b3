import TableExchange.Console.Program

/-!
The command line of the console: it gathers what the configuration can depend on, runs, and prints
how that ends. No network is linked in, so the service is always out of reach.
-/

namespace TableExchange.Main

open Console

/-- What stands at a path of the file system. -/
def entryAt (path : String) : IO (Option PathEntry) := do
  try
    if ← (← IO.FS.realPath path).isDir then return some .directory
    return some (.file (← IO.FS.readBinFile path).toList)
  catch _ => return none

def pathsIn (directory : String) : List String :=
  let files : List ConfigFile := [.base, .environment .dev, .environment .prod]
  files.flatMap fun f => (f.candidates directory).map (·.1)

def processEnvironment : IO (List (String × String)) := do
  try
    return Surroundings.variablesOf (← IO.FS.readBinFile "/proc/self/environ").toList
  catch _ => return []

def gather (directory : String) : IO Surroundings := do
  let entries ← (directory :: pathsIn directory).mapM fun path => do
    return (path, ← entryAt path)
  return { entry? := fun path => (entries.lookup path).join, environment := ← processEnvironment }

def directoryFor (workingDirectory : String) (arguments : List String) : String :=
  match Request.ofArguments arguments with
  | .ok (.run directory _) => directoryOf workingDirectory directory
  | _ => directoryOf workingDirectory none

/-- The number of questions after which waiting is given up. -/
def patience : Nat := 10000000

def console (arguments : List String) : IO Ending := do
  let workingDirectory := (← IO.currentDir).toString
  let surroundings ← gather (directoryFor workingDirectory arguments)
  return run Http.Outage.network patience surroundings workingDirectory arguments {}

end TableExchange.Main

def main (arguments : List String) : IO UInt32 := do
  let ending ← TableExchange.Main.console arguments
  IO.print ending.output
  IO.eprint ending.errorText
  return ending.code.toUInt32
