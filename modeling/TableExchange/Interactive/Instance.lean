import TableExchange.Json.Record
import TableExchange.SortedMap

/-!
Instances that host interactive sessions, and the records exchanged with the task of an instance.
-/

namespace TableExchange

structure InstanceId where
  project : String
  id : String
deriving DecidableEq, Repr

namespace InstanceId

def toJson (i : InstanceId) : Json :=
  .texts [("project", i.project), ("id", i.id)]

def ofJson? (j : Json) : Option InstanceId := do
  match ← j.slots ["project", "id"] with
  | [p, i] => return ⟨← p.required Json.text?, ← i.required Json.text?⟩
  | _ => none

end InstanceId

abbrev Settings := SortedMap String String

/-- Settings as a JSON object, the names ascending. -/
def Settings.toJson (s : Settings) : Json :=
  .texts s.entries

structure InstanceRequest where
  project : String
  taskName : String
  settings : Settings
  priority : Option UInt32
  runningCluster : Option String
deriving DecidableEq, Repr

/-- The status code of a payload. Codes other than the four known ones are phases of the launch. -/
inductive ObjectStatus
  | running
  | failed
  | terminated
  | cancelled
  | other (code : Int32)
deriving DecidableEq, Repr

namespace ObjectStatus

def ofCode (code : Int32) : ObjectStatus :=
  if code = 2 then running
  else if code = 4 then failed
  else if code = 5 then terminated
  else if code = 6 then cancelled
  else other code

def code : ObjectStatus → Int32
  | running => 2
  | failed => 4
  | terminated => 5
  | cancelled => 6
  | other c => c

@[simp] theorem ofCode_code_of_known {s : ObjectStatus} (h : ∀ c, s ≠ other c) :
    ofCode s.code = s := by
  cases s with
  | other c => exact absurd rfl (h c)
  | _ => rfl

@[simp] theorem code_ofCode (c : Int32) : (ofCode c).code = c := by
  unfold ofCode
  split
  · next h => exact h.symm
  split
  · next h => exact h.symm
  split
  · next h => exact h.symm
  split
  · next h => exact h.symm
  · rfl

def text : ObjectStatus → String
  | running => "running"
  | failed => "failed"
  | terminated => "terminated"
  | cancelled => "cancelled"
  | other c => s!"status {c.toInt}"

def toJson (s : ObjectStatus) : Json :=
  .integer s.code.toInt

def ofJson? (j : Json) : Option ObjectStatus :=
  (Json.signed32? j).map ofCode

end ObjectStatus

structure TaskPayload where
  status : Option ObjectStatus := none
  result : Option String := none
  warnings : Option String := none
  subQueryId : Option Int64 := none
deriving DecidableEq, Repr

namespace TaskPayload

/-- The result, if it is there and holds any text. -/
def nonEmptyResult (p : TaskPayload) : Option String :=
  p.result.filter fun r => !r.isEmpty

def toJson (p : TaskPayload) : Json :=
  .object [("status", .optional ObjectStatus.toJson p.status),
    ("result", .optional .string p.result), ("warnings", .optional .string p.warnings),
    ("subQueryId", .optional (fun n => .integer n.toInt) p.subQueryId)]

/-- Reads the record; every part may be missing. -/
def ofJson? (j : Json) : Option TaskPayload := do
  match ← j.slots ["status", "result", "warnings", "subQueryId"] with
  | [s, r, w, i] =>
    return {
      status := ← s.orElse (Json.nullOr ObjectStatus.ofJson?) none
      result := ← r.orElse (Json.nullOr Json.text?) none
      warnings := ← w.orElse (Json.nullOr Json.text?) none
      subQueryId := ← i.orElse (Json.nullOr Json.signed64?) none }
  | _ => none

end TaskPayload

structure LaunchProgress where
  totalWorkers : UInt32 := 0
  launchedWorkers : UInt32 := 0
  percentage : UInt32 := 0
deriving DecidableEq, Repr

namespace LaunchProgress

def toJson (p : LaunchProgress) : Json :=
  .object [("totalWorkerCount", .nat p.totalWorkers.toNat),
    ("launchedWorkerCount", .nat p.launchedWorkers.toNat),
    ("launchedPercentage", .nat p.percentage.toNat)]

/-- Reads the record; a missing count is zero. -/
def ofJson? (j : Json) : Option LaunchProgress := do
  match ← j.slots ["totalWorkerCount", "launchedWorkerCount", "launchedPercentage"] with
  | [t, l, p] =>
    return ⟨← t.orElse Json.word32? 0, ← l.orElse Json.word32? 0, ← p.orElse Json.word32? 0⟩
  | _ => none

end LaunchProgress

inductive TaskStatus
  | waiting
  | running
  | success
  | failed
  | suspended
  | cancelled
deriving DecidableEq, Repr

namespace TaskStatus

def wireNames : List (String × TaskStatus) :=
  [("WAITING", waiting), ("RUNNING", running), ("SUCCESS", success), ("FAILED", failed),
    ("SUSPENDED", suspended), ("CANCELLED", cancelled)]

def text : TaskStatus → String
  | waiting => "WAITING"
  | running => "RUNNING"
  | success => "SUCCESS"
  | failed => "FAILED"
  | suspended => "SUSPENDED"
  | cancelled => "CANCELLED"

/-- Whether the task will never run again. -/
def isTerminal : TaskStatus → Bool
  | success | failed | cancelled => true
  | waiting | running | suspended => false

def toJson (s : TaskStatus) : Json :=
  Json.variantText wireNames s

def ofJson? : Json → Option TaskStatus :=
  Json.variant? wireNames

end TaskStatus

end TableExchange
