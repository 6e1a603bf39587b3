import TableExchange.Service.Interface

/-!
Rehearsals of a service. A rehearsed service notes the name of every request, fails where a fault is
queued for it, hands out scripted pages and log views, and otherwise answers like the service
itself.
-/

namespace TableExchange

/-- A service's state with the notes and the script of a rehearsal. A queue of faults may hold
passes, which let one request through. -/
structure Rehearsal (σ : Type) where
  inner : σ
  notes : List String := []
  faults : List (String × List (Option Failure)) := []
  pages : List SplitPage := []
  logView : Option (Option String) := none

namespace Rehearsal

variable {σ υ α : Type}

/-- The failure that a rehearsal injects. Its detail is empty unless one is given. -/
def fault (kind : FailureKind) (detail : Option String) : Failure :=
  .of kind "Injected service fault" (some (detail.getD ""))

def note (name : String) (r : Rehearsal σ) : Rehearsal σ :=
  { r with notes := r.notes ++ [name] }

def queue (name : String) (passes : Nat) (f : Failure) (r : Rehearsal σ) : Rehearsal σ :=
  { r with faults := r.faults ++ [(name, List.replicate passes none ++ [some f])] }

/-- Takes the first entry queued for a name. -/
def takeFault (name : String) :
    List (String × List (Option Failure)) → Option Failure × List (String × List (Option Failure))
  | [] => (none, [])
  | (n, entries) :: rest =>
    match decide (n = name), entries with
    | true, entry :: more => (entry, (n, more) :: rest)
    | _, _ => let (entry, after) := takeFault name rest; (entry, (n, entries) :: after)

/-- A request of the service, noted, and failing if a fault is queued. -/
def attempt (name : String) (request : Rehearsal σ → Reply (Rehearsal σ) α) (r : Rehearsal σ) :
    Reply (Rehearsal σ) α :=
  let r := r.note name
  match takeFault name r.faults with
  | (some f, faults) => (.error f, { r with faults })
  | (none, faults) => request { r with faults }

def handOn (request : σ → Reply σ α) (r : Rehearsal σ) : Reply (Rehearsal σ) α :=
  let (answer, inner) := request r.inner
  (answer, { r with inner })

def pageOr (request : σ → Reply σ SplitPage) (r : Rehearsal σ) : Reply (Rehearsal σ) SplitPage :=
  match r.pages with
  | page :: rest => (.ok page, { r with pages := rest })
  | [] => handOn request r

def logViewOr (request : σ → Reply σ (Option String)) (r : Rehearsal σ) :
    Reply (Rehearsal σ) (Option String) :=
  match r.logView with
  | some view => (.ok view, r)
  | none => handOn request r

/-- Sends bytes, unless a fault is queued. -/
def sendOr (request : υ → List UInt8 → σ → Except Failure Unit × υ × σ) (u : υ)
    (bytes : List UInt8) (r : Rehearsal σ) : Except Failure Unit × υ × Rehearsal σ :=
  let r := r.note "stream.send"
  match takeFault "stream.send" r.faults with
  | (some f, faults) => (.error f, u, { r with faults })
  | (none, faults) =>
    let (answer, u, inner) := request u bytes r.inner
    (answer, u, { r with inner, faults })

def reading (svc : ReadService σ) : ReadService (Rehearsal σ) where
  lookUp t i k := attempt "get_session" (handOn (svc.lookUp t i k))
  release s := attempt "cleanup_session" (handOn (svc.release s))
  createRead t s := attempt "create_read_session" (handOn (svc.createRead t s))
  listSplits s c m := attempt "list_splits" (pageOr (svc.listSplits s c m))
  listRange s l u := attempt "list_splits_in_range" (handOn (svc.listRange s l u))

/-- The rehearsed writing side. Giving an upload up cannot fail. -/
def writing (svc : WriteService σ υ) : WriteService (Rehearsal σ) υ where
  lookUp t i k := attempt "get_session" (handOn (svc.lookUp t i k))
  release s := attempt "cleanup_session" (handOn (svc.release s))
  createWrite t o := attempt "create_write_session" (handOn (svc.createWrite t o))
  openBlock r := attempt "open_block" (handOn (svc.openBlock r))
  sendChunk := sendOr svc.sendChunk
  finishBlock u := attempt "stream.finish" (handOn (svc.finishBlock u))
  abortBlock u r :=
    let r := r.note "stream.abort"
    { r with inner := svc.abortBlock u r.inner }
  commitSession s m := attempt "commit_session" (handOn (svc.commitSession s m))

def hosting (svc : InstanceService σ) : InstanceService (Rehearsal σ) where
  createInstance q := attempt "create_instance" (handOn (svc.createInstance q))
  taskInfo i t k := attempt "task_info" (handOn (svc.taskInfo i t k))
  setTaskInfo i t k v := attempt "set_task_info" (handOn (svc.setTaskInfo i t k v))
  taskStatus i t := attempt "task_status" (handOn (svc.taskStatus i t))
  taskResult i t := attempt "task_result" (handOn (svc.taskResult i t))
  stopInstance i := attempt "stop_instance" (handOn (svc.stopInstance i))
  logView i := attempt "log_view" (logViewOr (svc.logView i))

def service (svc : TableService σ υ) : TableService (Rehearsal σ) υ where
  read := reading svc.read
  write := writing svc.write
  instances := hosting svc.instances

end Rehearsal

end TableExchange
