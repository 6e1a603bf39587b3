import Mathlib.Data.UInt
import TableExchange.Proofs.Write.Attempts

/-!
What a call on a block writer adds to the counters. The counters of its session move by what its
requests and totals say, and the counters of no other session move: the difference between a counter
and what the writer accounts for is the same after a call as before it.
-/
namespace TableExchange

variable {σ υ β : Type}

inductive WriterCounter
  | committed
  | aborted
  | bytes
  | records
deriving DecidableEq

def WriterCounter.key : WriterCounter → String → CounterKey
  | committed => .blocksCommitted
  | aborted => .blocksAborted
  | bytes => .bytesWritten
  | records => .recordsWritten

@[simp] theorem WriterCounter.key_inj {c d : WriterCounter} {id id' : String} :
    c.key id = d.key id' ↔ c = d ∧ id = id' := by
  cases c <;> cases d <;>
    simp [key, CounterKey.blocksCommitted, CounterKey.blocksAborted, CounterKey.bytesWritten,
      CounterKey.recordsWritten, CounterKey.ofSession]

theorem Counters.value_add (j k : CounterKey) (n : UInt64)
    (cs : Counters) : value j (add k n cs) = value j cs + if j = k then n else 0 := by
  by_cases h : j = k
  · subst h
    simp
  · simp [value_add_of_ne h, h]

/-- A request that consumed an upload without an acknowledgement. -/
def WriteEvent.loses : WriteEvent υ → Bool
  | finishing _ (.error _) | aborting _ => true
  | _ => false

def WriteEvent.worth (c : WriterCounter) (e : WriteEvent υ) : UInt64 :=
  match c with
  | .committed => if e.finishes then 1 else 0
  | .aborted => if e.loses then 1 else 0
  | .bytes | .records => 0

namespace BlockWriter

/-- What a writer accounts for with its totals and its requests. -/
def due (c : WriterCounter) (w : BlockWriter υ) (events : List (WriteEvent υ)) : UInt64 :=
  match c with
  | .committed => .ofNat (events.countP WriteEvent.finishes)
  | .aborted => .ofNat (events.countP WriteEvent.loses)
  | .bytes => w.bytes
  | .records => w.records

def dueTo (id : String) (c : WriterCounter) (w : BlockWriter υ) (events : List (WriteEvent υ)) :
    UInt64 :=
  if w.request.sessionId = id then w.due c events else 0

/-- A counter of a session, less what a writer accounts for. -/
def excess (id : String) (c : WriterCounter) (w : BlockWriter υ)
    (y : Exchange (σ × List (WriteEvent υ))) : UInt64 :=
  y.counters.value (c.key id) - w.dueTo id c y.journal

section

variable {id : String} {c : WriterCounter} {w w' : BlockWriter υ}
  {y y' : Exchange (σ × List (WriteEvent υ))}

/-- An addition to a counter of a session that the writer accounts for is no excess. -/
theorem excess_eq_of_due {d : WriterCounter} {n : UInt64}
    (hrequest : w'.request = w.request)
    (hcounters : y'.counters = y.counters.add (d.key w.request.sessionId) n)
    (hdue : ∀ c, w'.due c y'.journal = w.due c y.journal + if c = d then n else 0) :
    w'.excess id c y' = w.excess id c y := by
  simp only [excess, dueTo, hrequest, hcounters, Counters.value_add, WriterCounter.key_inj, hdue]
  by_cases hid : w.request.sessionId = id
  · simp only [hid, if_true, and_true]
    exact add_sub_add_right_eq_sub _ _ _
  · simp only [hid, Ne.symm hid, and_false, if_false, add_zero]

/-- Where nothing is counted, nothing new may be due. -/
theorem excess_congr (hrequest : w'.request = w.request) (hcounters : y'.counters = y.counters)
    (hdue : ∀ c, w'.due c y'.journal = w.due c y.journal) :
    w'.excess id c y' = w.excess id c y := by
  simp only [excess, dueTo, hrequest, hcounters, hdue]

theorem due_append (w : BlockWriter υ) (events : List (WriteEvent υ)) (e : WriteEvent υ)
    (c : WriterCounter) : w.due c (events ++ [e]) = w.due c events + e.worth c := by
  cases c with
  | committed =>
    cases h : e.finishes <;> simp [due, WriteEvent.worth, h]
  | aborted =>
    cases h : e.loses <;> simp [due, WriteEvent.worth, h]
  | bytes => exact (add_zero _).symm
  | records => exact (add_zero _).symm

/-- A request that is counted with one is no excess. -/
theorem excess_counted {d : WriterCounter} {e : WriteEvent υ} (hrequest : w'.request = w.request)
    (htotals : w'.bytes = w.bytes ∧ w'.records = w.records)
    (hcounters : y'.counters = y.counters.add (d.key w.request.sessionId) 1)
    (hjournal : y'.journal = y.journal ++ [e]) (hworth : ∀ c, e.worth c = if c = d then 1 else 0) :
    w'.excess id c y' = w.excess id c y := by
  refine excess_eq_of_due hrequest hcounters fun c => ?_
  have hsame : w'.due c y'.journal = w.due c y'.journal := by
    cases c with
    | committed | aborted => rfl
    | bytes => exact htotals.1
    | records => exact htotals.2
  rw [hsame, hjournal, due_append, hworth]

end

variable {id : String} {c : WriterCounter} (svc : WriteService σ υ) (w : BlockWriter υ)
  (y : Exchange (σ × List (WriteEvent υ)))

theorem excess_giveUp (u : υ) :
    (w.giveUp svc.journaled u y).1.excess id c (w.giveUp svc.journaled u y).2 =
      w.excess id c y := by
  refine excess_counted (d := .aborted) (e := .aborting u) rfl ⟨rfl, rfl⟩ rfl rfl fun c => ?_
  cases c <;> rfl

theorem excess_sent (u : υ) (e : EncodedBatch) :
    (w.sent u e y).1.excess id c (w.sent u e y).2 = w.excess id c y := by
  let w₁ : BlockWriter υ := { w with bytes := w.bytes + e.bytes.length.toUInt64 }
  let y₁ := y.count (.bytesWritten w.request.sessionId) e.bytes.length.toUInt64
  have hbytes : w₁.excess id c y₁ = w.excess id c y := by
    refine excess_eq_of_due (d := .bytes) (n := e.bytes.length.toUInt64) rfl rfl fun c => ?_
    cases c <;> simp [due, w₁, y₁]
  have hrecords : (w.sent u e y).1.excess id c (w.sent u e y).2 = w₁.excess id c y₁ := by
    refine excess_eq_of_due (d := .records) (n := e.records) rfl rfl fun c => ?_
    cases c <;> simp [due, w₁, y₁, sent]
  exact hrecords.trans hbytes

theorem excess_send (u : υ) (e : EncodedBatch) :
    (w.send svc.journaled u e y).2.1.excess id c (w.send svc.journaled u e y).2.2 =
      w.excess id c y := by
  rcases hsend : svc.sendChunk u e.bytes y.service.1 with ⟨answer, u', s⟩
  have hnoted : w.excess id c { y with service := (s, y.journal ++ [.sending u e.bytes answer u']) }
      = w.excess id c y := by
    refine excess_congr rfl rfl fun c => (due_append w y.journal _ c).trans ?_
    cases c <;> exact add_zero _
  cases answer with
  | error f =>
    simp only [send, WriteService.journaled, hsend]
    exact (excess_giveUp svc w _ u').trans hnoted
  | ok done =>
    simp only [send, WriteService.journaled, hsend]
    exact (excess_sent w _ u' e).trans hnoted

theorem excess_ask_noted {α : Type} (entry : Except Failure α → WriteEvent υ)
    (request : σ → Reply σ α) (hentry : ∀ answer c, (entry answer).worth c = 0) :
    w.excess id c (y.ask (noted entry request)).2 = w.excess id c y := by
  refine excess_congr rfl rfl fun c => (due_append w y.journal _ c).trans ?_
  rw [hentry, add_zero]

theorem excess_upload :
    w.excess id c (w.upload svc.journaled y).2 = w.excess id c y := by
  unfold upload
  split
  · rfl
  · have hpassed : w.excess id c (y.passPoint FailPoints.beforeOpen).2 = w.excess id c y := rfl
    rcases hpass : y.passPoint FailPoints.beforeOpen with ⟨verdict, y₁⟩
    rw [hpass] at hpassed
    cases verdict with
    | error f => exact hpassed
    | ok passed => exact (excess_ask_noted w y₁ _ _ fun _ c => by cases c <;> rfl).trans hpassed

theorem excess_write (codec : Codec β) (batch : β) :
    (w.write svc.journaled codec batch y).2.1.excess id c
      (w.write svc.journaled codec batch y).2.2 = w.excess id c y := by
  unfold write
  split
  · rfl
  · rfl
  all_goals
    cases codec.encode batch with
    | error f => rfl
    | ok e =>
      have hup : w.excess id c (w.upload svc.journaled y).2 = w.excess id c y :=
        excess_upload svc w y
      rcases hupload : w.upload svc.journaled y with ⟨answer, y₁⟩
      rw [hupload] at hup
      cases answer with
      | error f => exact hup
      | ok u => exact (excess_send svc w y₁ u e).trans hup

theorem excess_finish (u : υ) :
    (w.finish svc.journaled u y).2.1.excess id c (w.finish svc.journaled u y).2.2 =
      w.excess id c y := by
  have hpassed : w.excess id c (y.passPoint FailPoints.beforeFinish).2 = w.excess id c y := rfl
  rcases hpass : y.passPoint FailPoints.beforeFinish with ⟨verdict, y₁⟩
  rw [hpass] at hpassed
  cases verdict with
  | error f =>
    simp only [finish, hpass]
    exact (excess_giveUp svc w y₁ u).trans hpassed
  | ok passed =>
    obtain ⟨answer, y₂, hask, -, hnoted⟩ :=
      y₁.ask_noted (WriteEvent.finishing u) (svc.finishBlock u)
    have hcounters : y₂.counters = y₁.counters :=
      (congrArg (·.2.counters) hask).symm
    refine Eq.trans ?_ hpassed
    cases answer with
    | error f =>
      simp only [finish, hpass, WriteService.journaled, hask]
      refine excess_counted (d := .aborted) rfl ⟨rfl, rfl⟩ ?_ hnoted fun c => ?_
      · exact congrArg (Counters.add _ 1) hcounters
      · cases c <;> rfl
    | ok token =>
      simp only [finish, hpass, WriteService.journaled, hask]
      refine excess_counted (d := .committed) rfl ⟨rfl, rfl⟩ ?_ hnoted fun c => ?_
      · exact congrArg (Counters.add _ 1) hcounters
      · cases c <;> rfl

theorem excess_commit :
    (w.commit svc.journaled y).2.1.excess id c (w.commit svc.journaled y).2.2 =
      w.excess id c y := by
  unfold commit
  split
  · rfl
  · rfl
  · rfl
  · next u _ => exact excess_finish svc w y u

theorem excess_abort :
    (w.abort svc.journaled y).1.excess id c (w.abort svc.journaled y).2 = w.excess id c y := by
  unfold abort
  split
  · rfl
  · next u _ => exact excess_giveUp svc w y u
  · rfl
  · rfl

/-- A call adds to the counters just what its writer accounts for after it and not before. -/
theorem excess_make (call : WriterCall β) :
    (call.make svc.journaled w y).2.1.excess id c (call.make svc.journaled w y).2.2 =
      w.excess id c y := by
  cases call with
  | write codec batch => exact excess_write svc w y codec batch
  | commit => exact excess_commit svc w y
  | abort => exact excess_abort svc w y

end BlockWriter

end TableExchange
