import TableExchange.Config.Load
import TableExchange.Console.Command
import TableExchange.Console.Help
import TableExchange.Rest.Service

/-!
The console as a whole: arguments, configuration, client and command, in this order. Each stage is
reached only when the ones before it succeeded.
-/

namespace TableExchange.Console

open Http (Network)

inductive Ending
  | refused (flaw : UsageFlaw)
  | told (text : String)
  | unconfigured (reason : LoadFailure)
  | ran (report : Report)
  | unsettled

namespace Ending

def code : Ending → Nat
  | refused _ => 2
  | told _ => 0
  | unconfigured _ => 1
  | ran r =>
    match r.outcome with
    | .ok () => 0
    | .error _ => 1
  | unsettled => 1

def output : Ending → String
  | told text => text
  | ran r => String.join (r.printed.map (· ++ "\n"))
  | _ => ""

def errorText : Ending → String
  | refused flaw => Text.shown s!"error: {flaw.message}\n"
  | unconfigured reason =>
    s!"Error: loading the console configuration\n\nCaused by:\n    {reason.message}\n"
  | ran r =>
    match r.outcome with
    | .ok () => ""
    | .error f => s!"Error: {f.text}\n"
  | _ => ""

def detail : Ending → Option String
  | ran r =>
    match r.outcome with
    | .ok () => none
    | .error f => f.detail
  | _ => none

end Ending

def defaultDirectory : String := "configuration"

variable {σ υ : Type}

def carryOut (c : Coordinator) (svc : TableService σ υ) (rounds : Nat) (command : Command)
    (x : Exchange σ) : Option Report × Exchange σ :=
  match command with
  | .query sql session settings secs =>
    runQuery c svc.instances rounds sql session settings secs.toNat x
  | .splits table pageSize => listSplits c svc.read rounds table pageSize x

/-- Carries out a command with a configuration, over a network in some state. -/
def runWith (net : Network σ υ) (rounds : Nat) (config : ClientConfig) (command : Command)
    (s : σ) : Ending :=
  match Rest.Client.ofConfig config.service with
  | .error f => .ran (.failed f)
  | .ok client =>
    match Coordinator.ofConfig config with
    | .error f => .ran (.failed f)
    | .ok c =>
      match carryOut c (client.service net) rounds command { service := s } with
      | (some r, _) => .ran r
      | (none, _) => .unsettled

/-- The directory of the configuration that a request means. -/
def directoryOf (workingDirectory : String) (directory : Option String) : String :=
  directory.getD (Surroundings.join workingDirectory defaultDirectory)

def run (net : Network σ υ) (rounds : Nat) (w : Surroundings) (workingDirectory : String)
    (arguments : List String) (s : σ) : Ending :=
  match Request.ofArguments arguments with
  | .error flaw => .refused flaw
  | .ok (.help topic) => .told (helpText topic)
  | .ok .version => .told versionText
  | .ok (.run directory command) =>
    match ClientConfig.load w (directoryOf workingDirectory directory) with
    | .error reason => .unconfigured reason
    | .ok config => runWith net rounds config command s

end TableExchange.Console
