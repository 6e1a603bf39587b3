import TableExchange.Config.Value
import TableExchange.Interactive.Instance
import TableExchange.Text.Blank
import TableExchange.Text.Lines
import TableExchange.Text.Shown

/-!
Reading the arguments of the console: a command with its options, and where the configuration is.
The first argument that cannot be taken decides the outcome; a setting is checked when the argument
after it is known.
-/

namespace TableExchange.Console

inductive Command
  | query (sql : String) (session : Option String) (settings : Settings) (timeoutSecs : UInt64)
  | splits (table : String) (pageSize : Option UInt32)
deriving DecidableEq, Repr

inductive Verb
  | query
  | splits
deriving DecidableEq, Repr

/-- What help can be asked about: the console as a whole, a command, or the help itself. -/
inductive Topic
  | console
  | command (verb : Verb)
  | help
deriving DecidableEq, Repr

def Topic.ofVerb (verb : Option Verb) : Topic :=
  (verb.map command).getD console

/-- What the arguments amount to: a command to run, a question about a topic, or about the
version. -/
inductive Request
  | run (directory : Option String) (command : Command)
  | help (topic : Topic)
  | version
deriving DecidableEq, Repr

/-- Why arguments are refused. -/
inductive UsageFlaw
  | badSetting (text : String)
  | badValue (option text : String)
  | missingValue (option : String)
  | repeated (option : String)
  | unexpected (argument : String)
  | missing (option : String)
  | noCommand
deriving DecidableEq, Repr

def UsageFlaw.message : UsageFlaw → String
  | badSetting text =>
    "invalid value '" ++ text ++ "' for '--setting <SETTINGS>': expected key=value, got '" ++ text ++ "'"
  | badValue option text => "invalid value '" ++ text ++ "' for '--" ++ option ++ "'"
  | missingValue option => "a value is required for '--" ++ option ++ "' but none was supplied"
  | repeated option => "the argument '--" ++ option ++ "' cannot be used multiple times"
  | unexpected argument => "unexpected argument '" ++ argument ++ "' found"
  | missing option => "the required argument '--" ++ option ++ "' was not provided"
  | noCommand => "a command is required"

/-- What is said about a flaw from the remark on the form of settings on, up to the end of the line.
Only what a terminal shows counts. -/
def UsageFlaw.remark? (flaw : UsageFlaw) : Option String :=
  (Text.fromFirst? "expected key=value" (Text.shown flaw.message)).map fun s =>
    ((Text.lines s).head?).getD ""

def verbs : List (String × Verb) :=
  [("query", .query), ("splits", .splits)]

def directoryOption : String := "config-dir"

def Verb.options : Verb → List String
  | query => ["sql", "session", "setting", "start-timeout-secs"]
  | splits => ["table", "page-size"]

/-- The options that may stand where a command is known or not. -/
def optionsOf (verb : Option Verb) : List String :=
  directoryOption :: (verb.map Verb.options).getD []

/-- The arguments taken so far: the command, and the values of the options in order. -/
structure Taken where
  verb : Option Verb := none
  outer : List (String × String) := []
  inner : List (String × String) := []

def cutEquals (cs : List Char) : List Char × Option (List Char) :=
  match cs.dropWhile (· ≠ '=') with
  | [] => (cs, none)
  | _ :: rest => (cs.takeWhile (· ≠ '='), some rest)

/-- Reads a setting. The key is trimmed and must not be blank. -/
def setting? (text : String) : Option (String × String) :=
  match cutEquals text.toList with
  | (_, none) => none
  | (key, some value) =>
    let key := Text.trimChars key
    if key.isEmpty then none else some (String.ofList key, String.ofList value)

/-- Reads an unsigned number of 32 bits. Zero may have a minus sign. -/
def spelledWord32? (text : String) : Option UInt32 :=
  match text.toList with
  | '-' :: zeros => if zeros.isEmpty || !zeros.all (· = '0') then none else some 0
  | _ => (ConfigValue.spelledWord? text).bind fun n =>
    if n.toNat < UInt32.size then some n.toNat.toUInt32 else none

def checkValue (option text : String) : Except UsageFlaw Unit :=
  if option = "setting" then
    if (setting? text).isSome then .ok () else .error (.badSetting text)
  else if option = "start-timeout-secs" then
    if (ConfigValue.spelledWord? text).isSome then .ok () else .error (.badValue option text)
  else if option = "page-size" then
    if (spelledWord32? text).isSome then .ok () else .error (.badValue option text)
  else if option = directoryOption ∧ text.isEmpty = true then .error (.missingValue option)
  else .ok ()

namespace Taken

def current (t : Taken) : List (String × String) :=
  if t.verb.isNone then t.outer else t.inner

/-- Takes an option with its value. Only settings may be repeated. -/
def give (t : Taken) (option text : String) : Except UsageFlaw Taken :=
  if option ≠ "setting" ∧ t.current.any (·.1 = option) then .error (.repeated option)
  else match checkValue option text with
    | .error flaw => .error flaw
    | .ok () =>
      if t.verb.isNone then .ok { t with outer := t.outer ++ [(option, text)] }
      else .ok { t with inner := t.inner ++ [(option, text)] }

/-- Takes the option that waits to be checked, if there is one. -/
def settle (t : Taken) : Option (String × String) → Except UsageFlaw Taken
  | none => .ok t
  | some (option, text) => t.give option text

def value? (t : Taken) (option : String) : Option String :=
  ((t.inner ++ t.outer).find? (·.1 = option)).map (·.2)

end Taken

def longOption? (argument : String) : Option (String × Option String) :=
  match argument.toList with
  | '-' :: '-' :: c :: name =>
    let (name, value) := cutEquals (c :: name)
    some (String.ofList name, value.map String.ofList)
  | _ => none

def looksLikeOption (argument : String) : Bool :=
  match argument.toList with
  | '-' :: _ :: _ => true
  | _ => false

/-- What reading the arguments leads to: a question, or what was taken. -/
inductive Outcome
  | help (topic : Topic)
  | version
  | taken (t : Taken)

def startsFlags (letter : Char) (argument : String) : Bool :=
  ['-', letter].isPrefixOf argument.toList

def topics : List (String × Topic) :=
  ("help", .help) :: verbs.map fun v => (v.1, .command v.2)

def helpTopic : List String → Except UsageFlaw Outcome
  | [] => .ok (.help .console)
  | name :: rest =>
    match topics.lookup name, rest with
    | some topic, [] => .ok (.help topic)
    | some _, extra :: _ => .error (.unexpected extra)
    | none, _ => .error (.unexpected name)

/-- Takes the arguments in order. `waiting` is an option whose value was seen but not checked. -/
def take (t : Taken) (waiting : Option (String × String)) : List String → Except UsageFlaw Outcome
  | [] => do return .taken (← t.settle waiting)
  | argument :: rest =>
    match longOption? argument with
    | some ("help", none) => do
      let t ← t.settle waiting
      return .help (.ofVerb t.verb)
    | some (name, attached) =>
      if name = "version" ∧ t.verb.isNone ∧ attached.isNone then do
        let _ ← t.settle waiting
        return .version
      else if !(optionsOf t.verb).contains name then .error (.unexpected argument)
      else match t.settle waiting, attached, rest with
        | .error flaw, _, _ => .error flaw
        | .ok t, some value, rest => do take (← t.give name value) none rest
        | .ok _, none, [] => .error (.missingValue name)
        | .ok t, none, value :: rest =>
          if looksLikeOption value then .error (.missingValue name)
          else take t (some (name, value)) rest
    | none =>
      if startsFlags 'h' argument then do
        let t ← t.settle waiting
        return .help (.ofVerb t.verb)
      else if startsFlags 'V' argument ∧ t.verb.isNone then do
        let _ ← t.settle waiting
        return .version
      else if argument = "--" ∧ rest.isEmpty then do return .taken (← t.settle waiting)
      else match t.verb, verbs.lookup argument with
        | none, some verb => do take { (← t.settle waiting) with verb := some verb } none rest
        | none, none => if argument = "help" then helpTopic rest else .error (.unexpected argument)
        | some _, _ => .error (.unexpected argument)

def Taken.required (t : Taken) (option : String) : Except UsageFlaw String :=
  match t.value? option with
  | some text => .ok text
  | none => .error (.missing option)

/-- The settings in order; a later one of the same key counts. -/
def Taken.settings (t : Taken) : Settings :=
  .ofList ((t.inner.filter (·.1 = "setting")).filterMap fun e => setting? e.2)

/-- How long a query waits for its session, unless told otherwise. -/
def defaultTimeoutSecs : UInt64 := 300

def Taken.command (t : Taken) : Except UsageFlaw Command :=
  match t.verb with
  | none => .error .noCommand
  | some .query => do
    let sql ← t.required "sql"
    return .query sql (t.value? "session") t.settings
      (((t.value? "start-timeout-secs").bind ConfigValue.spelledWord?).getD defaultTimeoutSecs)
  | some .splits => do
    return .splits (← t.required "table") ((t.value? "page-size").bind spelledWord32?)

def Request.ofArguments (arguments : List String) : Except UsageFlaw Request :=
  match take {} none arguments with
  | .error flaw => .error flaw
  | .ok (.help topic) => .ok (.help topic)
  | .ok .version => .ok .version
  | .ok (.taken t) => do return .run (t.value? directoryOption) (← t.command)

end TableExchange.Console
