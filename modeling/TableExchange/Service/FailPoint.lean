import TableExchange.Failure.Basic
import TableExchange.Text.Blank

/-!
Fail points: named places where a fault can be injected. A point carries a chain of actions; each
passage takes the first one that has turns left.
-/

namespace TableExchange

/-- What a passage does: nothing, or a failure with an optional remark. -/
inductive FailEffect
  | pass
  | fail (remark : Option String)
deriving DecidableEq, Repr

/-- One link of a chain. Without a number of turns it never runs out. -/
structure FailAction where
  turns : Option Nat
  effect : FailEffect
deriving DecidableEq, Repr

namespace FailAction

def cut (mark : Char) (cs : List Char) : List Char × Option (List Char) :=
  match cs.dropWhile (· ≠ mark) with
  | [] => (cs, none)
  | _ :: rest => (cs.takeWhile (· ≠ mark), some rest)

/-- A number of turns: decimal digits of at most 64 bits, which may follow a plus sign. -/
def turnsOf? (cs : List Char) : Option Nat :=
  let digits := match cs with
    | '+' :: rest => rest
    | _ => cs
  if digits.isEmpty || !digits.all Char.isDigit then none
  else (some (digits.foldl (fun n c => n * 10 + (c.toNat - 48)) 0)).filter
    (· ≤ UInt64.size - 1)

/-- The argument in parentheses at the end of an action, apart from the action. -/
def argument? (cs : List Char) : Option (List Char × Option String) :=
  match cut '(' cs with
  | (head, none) => some (head, none)
  | (head, some rest) =>
    if rest.getLast? = some ')' then some (head, some (String.ofList rest.dropLast)) else none

/-- Reads one action, such as `off`, `return(text)` or `2*return`. -/
def ofText? (s : String) : Option FailAction := do
  let (head, remark) ← argument? (Text.trimChars s.toList)
  let (turns, word) ← match cut '*' head with
    | (word, none) => some (none, word)
    | (count, some word) => (turnsOf? count).map fun n => (some n, word)
  if word = "off".toList then return ⟨turns, .pass⟩
  else if word = "return".toList then return ⟨turns, .fail remark⟩
  else none

/-- Reads a chain of actions joined by arrows. -/
def chainOfText? (s : String) : Option (List FailAction) :=
  (s.splitOn "->").mapM ofText?

end FailAction

abbrev FailPoints := List (String × List FailAction)

namespace FailPoints

def beforeOpen : String := "block_writer.before_open"

def beforeFinish : String := "block_writer.before_finish"

def beforeFinalize : String := "commit_coordinator.before_finalize"

def arm (name : String) (chain : List FailAction) (points : FailPoints) : FailPoints :=
  (name, chain) :: points.filter (·.1 ≠ name)

/-- Takes the first action with a turn left, using up that turn. -/
def takeTurn : List FailAction → Option FailEffect × List FailAction
  | [] => (none, [])
  | a :: rest =>
    match a.turns with
    | none => (some a.effect, a :: rest)
    | some (n + 1) => (some a.effect, { a with turns := some n } :: rest)
    | some 0 =>
      let (effect, after) := takeTurn rest
      (effect, a :: after)

/-- Takes a turn at a point; unarmed points have no effect. -/
def takeAt (name : String) : FailPoints → Option FailEffect × FailPoints
  | [] => (none, [])
  | (n, chain) :: rest =>
    if n = name then
      let (effect, after) := takeTurn chain
      (effect, (n, after) :: rest)
    else
      let (effect, after) := takeAt name rest
      (effect, (n, chain) :: after)

def injected (name : String) (remark : Option String) : Failure :=
  let tail := match remark with
    | some r => s!": {r}"
    | none => ""
  .of .injected "An error occurred in a fail point"
    (some (s!"The failpoint '{name}' returned an error" ++ tail))

def pass (name : String) (points : FailPoints) : Except Failure Unit × FailPoints :=
  let (effect, after) := takeAt name points
  match effect with
  | some (.fail remark) => (.error (injected name remark), after)
  | _ => (.ok (), after)

end FailPoints

end TableExchange
