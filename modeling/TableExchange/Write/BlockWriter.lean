import TableExchange.Service.Interface
import TableExchange.Write.Codec

/-!
Block writers stream one attempt of one block. The upload is opened by the first batch, and is ended
once: by a commit, which yields the commit message, or by giving the attempt up. A failed batch or
commit gives the attempt up.
-/

namespace TableExchange

/-- Where a writer stands; an open upload is a value of `υ`. -/
inductive WriterStage (υ : Type)
  | idle
  | opened (upload : υ)
  | committed
  | aborted
deriving DecidableEq, Repr

def WriterStage.name {υ : Type} : WriterStage υ → String
  | idle => "Idle"
  | opened _ => "Open"
  | committed => "Committed"
  | aborted => "Aborted"

/-- A writer of one attempt, with the totals of its successful batches. -/
structure BlockWriter (υ : Type) where
  request : BlockRequest
  stage : WriterStage υ := .idle
  bytes : UInt64 := 0
  records : UInt64 := 0
deriving Repr

namespace BlockWriter

variable {σ υ β : Type}

def start (request : BlockRequest) : BlockWriter υ :=
  { request }

def label (w : BlockWriter υ) : String :=
  s!"block {w.request.block.toNat} attempt {w.request.attempt.toNat}"

def closed (w : BlockWriter υ) : Failure :=
  .of .writerClosed "The writer is closed" (some s!"{w.label} is {w.stage.name}")

/-- The open upload, opened now if need be. A failure leaves the writer idle. -/
def upload (svc : WriteService σ υ) (w : BlockWriter υ) (x : Exchange σ) :
    Except Failure υ × Exchange σ :=
  match w.stage with
  | .opened u => (.ok u, x)
  | _ =>
    match x.passPoint FailPoints.beforeOpen with
    | (.error f, x) => (.error f, x)
    | (.ok (), x) => x.ask (svc.openBlock w.request)

def giveUp (svc : WriteService σ υ) (w : BlockWriter υ) (u : υ) (x : Exchange σ) :
    BlockWriter υ × Exchange σ :=
  let x := { x with service := svc.abortBlock u x.service }
  ({ w with stage := .aborted }, x.count (.blocksAborted w.request.sessionId) 1)

def sent (w : BlockWriter υ) (u : υ) (batch : EncodedBatch) (x : Exchange σ) :
    BlockWriter υ × Exchange σ :=
  let bytes := batch.bytes.length.toUInt64
  ({ w with stage := .opened u, bytes := w.bytes + bytes, records := w.records + batch.records },
    (x.count (.bytesWritten w.request.sessionId) bytes).count
      (.recordsWritten w.request.sessionId) batch.records)

def send (svc : WriteService σ υ) (w : BlockWriter υ) (u : υ) (batch : EncodedBatch)
    (x : Exchange σ) : Except Failure Unit × BlockWriter υ × Exchange σ :=
  match svc.sendChunk u batch.bytes x.service with
  | (.error f, u, s) => (.error f, w.giveUp svc u { x with service := s })
  | (.ok (), u, s) => (.ok (), w.sent u batch { x with service := s })

/-- Encodes a batch and sends it, opening the upload first if need be. -/
def write (svc : WriteService σ υ) (codec : Codec β) (batch : β) (w : BlockWriter υ)
    (x : Exchange σ) : Except Failure Unit × BlockWriter υ × Exchange σ :=
  match w.stage with
  | .committed | .aborted => (.error w.closed, w, x)
  | .idle | .opened _ =>
    match codec.encode batch with
    | .error f => (.error f, w, x)
    | .ok encoded =>
      match w.upload svc x with
      | (.error f, x) => (.error f, w, x)
      | (.ok u, x) => w.send svc u encoded x

def finish (svc : WriteService σ υ) (w : BlockWriter υ) (u : υ) (x : Exchange σ) :
    Except Failure CommitMessage × BlockWriter υ × Exchange σ :=
  match x.passPoint FailPoints.beforeFinish with
  | (.error f, x) => (.error f, w.giveUp svc u x)
  | (.ok (), x) =>
    match x.ask (svc.finishBlock u) with
    | (.ok token, x) =>
      (.ok ⟨w.request.block, w.request.attempt, token⟩, { w with stage := .committed },
        x.count (.blocksCommitted w.request.sessionId) 1)
    | (.error f, x) =>
      (.error f, { w with stage := .aborted }, x.count (.blocksAborted w.request.sessionId) 1)

/-- Ends the block. There is no message when nothing was ever sent. -/
def commit (svc : WriteService σ υ) (w : BlockWriter υ) (x : Exchange σ) :
    Except Failure (Option CommitMessage) × BlockWriter υ × Exchange σ :=
  match w.stage with
  | .idle => (.ok none, { w with stage := .committed }, x)
  | .committed =>
    (.error (.of .duplicateCommit "The writer was already committed" (some w.label)), w, x)
  | .aborted =>
    (.error (.of .writerClosed "The writer is closed" (some s!"{w.label} was aborted")), w, x)
  | .opened u =>
    let (answer, w, x) := w.finish svc u x
    (answer.map some, w, x)

/-- Gives the attempt up. A committed writer stays committed. -/
def abort (svc : WriteService σ υ) (w : BlockWriter υ) (x : Exchange σ) :
    BlockWriter υ × Exchange σ :=
  match w.stage with
  | .committed => (w, x)
  | .opened u => w.giveUp svc u x
  | .idle | .aborted => ({ w with stage := .aborted }, x)

@[simp] theorem stage_start (request : BlockRequest) :
    (start request : BlockWriter υ).stage = .idle := rfl

@[simp] theorem write_committed (svc : WriteService σ υ) (codec : Codec β) (batch : β)
    {w : BlockWriter υ} (x : Exchange σ) (h : w.stage = .committed) :
    w.write svc codec batch x = (.error w.closed, w, x) := by
  simp [write, h]

@[simp] theorem write_aborted (svc : WriteService σ υ) (codec : Codec β) (batch : β)
    {w : BlockWriter υ} (x : Exchange σ) (h : w.stage = .aborted) :
    w.write svc codec batch x = (.error w.closed, w, x) := by
  simp [write, h]

end BlockWriter

end TableExchange
