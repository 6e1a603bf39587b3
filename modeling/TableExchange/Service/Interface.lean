import TableExchange.Interactive.Instance
import TableExchange.Service.Exchange
import TableExchange.Table.Block
import TableExchange.Table.Session
import TableExchange.Table.Split

/-!
What a table service offers. Every request is a function of the service's state, so a service may
answer in any way that its state can remember, including failures at any point.
-/

namespace TableExchange

/-- Requests common to read and write sessions. -/
structure SessionService (σ : Type) where
  /-- A fresh snapshot of an existing session. -/
  lookUp : TableRef → String → SessionKind → σ → Reply σ TableSession
  /-- Gives up what the service holds for a session. -/
  release : TableSession → σ → Reply σ Unit

structure ReadService (σ : Type) extends SessionService σ where
  createRead : TableRef → Scope → σ → Reply σ TableSession
  /-- One page of splits; the first one is asked for without a marker. -/
  listSplits : TableSession → Scope → Option Marker → σ → Reply σ SplitPage
  /-- All splits from a lower key up to an optional upper one. -/
  listRange : TableSession → String → Option String → σ → Reply σ (List Split)

/-- Requests of the batch write protocol. An open upload is a value of `υ`. -/
structure WriteService (σ υ : Type) extends SessionService σ where
  createWrite : TableRef → WriteOptions → σ → Reply σ TableSession
  openBlock : BlockRequest → σ → Reply σ υ
  /-- Sends bytes of a block. -/
  sendChunk : υ → List UInt8 → σ → Except Failure Unit × υ × σ
  /-- Ends an upload and waits for the token that acknowledges it. -/
  finishBlock : υ → σ → Reply σ String
  /-- Ends an upload without an acknowledgement. -/
  abortBlock : υ → σ → σ
  /-- Finalizes a session with the messages of all blocks to publish. -/
  commitSession : TableSession → List CommitMessage → σ → Reply σ TableSession

structure InstanceService (σ : Type) where
  createInstance : InstanceRequest → σ → Reply σ InstanceId
  /-- The next payload of a channel, if there is one. -/
  taskInfo : InstanceId → String → String → σ → Reply σ (Option String)
  /-- Writes to a channel and returns the service's reply. -/
  setTaskInfo : InstanceId → String → String → String → σ → Reply σ String
  taskStatus : InstanceId → String → σ → Reply σ (Option TaskStatus)
  taskResult : InstanceId → String → σ → Reply σ (Option String)
  stopInstance : InstanceId → σ → Reply σ Unit
  logView : InstanceId → σ → Reply σ (Option String)

structure TableService (σ υ : Type) where
  read : ReadService σ
  write : WriteService σ υ
  instances : InstanceService σ

end TableExchange
