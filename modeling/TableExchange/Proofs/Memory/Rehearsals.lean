import TableExchange.Memory.Rehearsal
import TableExchange.Proofs.Memory.StoredSessions

/-!
The in-memory service in a rehearsal. A fault that is queued for a request takes the place of the
answer, and the service is never asked; any other request goes to the service as it is.
-/
namespace TableExchange

variable {σ υ α : Type}

namespace Rehearsal

/-- The fault that the next request of a name runs into. -/
def pending (name : String) (r : Rehearsal σ) : Option Failure :=
  (takeFault name r.faults).1

theorem takeFault_of_pending {name : String} {r : Rehearsal σ} {fault : Option Failure}
    (h : r.pending name = fault) : ∃ faults, takeFault name r.faults = (fault, faults) :=
  ⟨_, Prod.ext h rfl⟩

theorem attempt_pending {name : String} {r : Rehearsal σ} {f : Failure}
    (h : r.pending name = some f) (request : Rehearsal σ → Reply (Rehearsal σ) α) :
    (attempt name request r).1 = .error f ∧ (attempt name request r).2.inner = r.inner := by
  obtain ⟨faults, htake⟩ := takeFault_of_pending h
  simp [attempt, note, htake]

theorem attempt_handOn {name : String} {r : Rehearsal σ} (h : r.pending name = none)
    (request : σ → Reply σ α) :
    (attempt name (handOn request) r).1 = (request r.inner).1 ∧
      (attempt name (handOn request) r).2.inner = (request r.inner).2 := by
  obtain ⟨faults, htake⟩ := takeFault_of_pending h
  simp [attempt, note, htake, handOn]

theorem sendOr_pending {r : Rehearsal σ} {f : Failure} (h : r.pending "stream.send" = some f)
    (request : υ → List UInt8 → σ → Except Failure Unit × υ × σ) (u : υ) (bytes : List UInt8) :
    (sendOr request u bytes r).1 = .error f ∧ (sendOr request u bytes r).2.1 = u ∧
      (sendOr request u bytes r).2.2.inner = r.inner := by
  obtain ⟨faults, htake⟩ := takeFault_of_pending h
  simp [sendOr, note, htake]

theorem sendOr_handOn {r : Rehearsal σ} (h : r.pending "stream.send" = none)
    (request : υ → List UInt8 → σ → Except Failure Unit × υ × σ) (u : υ) (bytes : List UInt8) :
    (sendOr request u bytes r).1 = (request u bytes r.inner).1 ∧
      (sendOr request u bytes r).2.1 = (request u bytes r.inner).2.1 ∧
      (sendOr request u bytes r).2.2.inner = (request u bytes r.inner).2.2 := by
  obtain ⟨faults, htake⟩ := takeFault_of_pending h
  simp [sendOr, note, htake]

end Rehearsal

namespace Memory

def rehearsed : WriteService (Rehearsal Store) Upload :=
  Rehearsal.writing writing

variable {s s' : Rehearsal Store} {u u' : Upload}

/-- No bytes are stored by opening an upload. -/
theorem rehearsed_openBlock {r : BlockRequest} {answer : Except Failure Upload}
    (h : rehearsed.openBlock r s = (answer, s')) :
    s'.inner.received = s.inner.received ∧ ∀ u, answer = .ok u → u = ⟨requested r, []⟩ := by
  obtain rfl := congrArg Prod.fst h
  obtain rfl := congrArg Prod.snd h
  cases hfault : s.pending "open_block" with
  | some f =>
    obtain ⟨hanswer, hinner⟩ := Rehearsal.attempt_pending hfault
      (Rehearsal.handOn (openBlock r))
    refine ⟨congrArg Store.received hinner, fun u hu => ?_⟩
    rw [show (rehearsed.openBlock r s).1 = .error f from hanswer] at hu
    contradiction
  | none =>
    obtain ⟨hanswer, hinner⟩ := Rehearsal.attempt_handOn hfault (openBlock r)
    refine ⟨?_, fun u hu => openBlock_new (hanswer.symm.trans hu)⟩
    have hopen : openBlock r s.inner = ((openBlock r s.inner).1, (openBlock r s.inner).2) := rfl
    have hleft := (openBlock_leaves hopen).1
    rw [show (rehearsed.openBlock r s).2.inner = _ from hinner, hleft]

/-- No bytes are stored by sending; what is sent is added to the upload. -/
theorem rehearsed_sendChunk {bytes : List UInt8} {answer : Except Failure Unit}
    (h : rehearsed.sendChunk u bytes s = (answer, u', s')) :
    s'.inner = s.inner ∧ (answer = .ok () → u' = { u with buffer := u.buffer ++ bytes }) := by
  obtain rfl := congrArg Prod.fst h
  obtain rfl := congrArg (·.2.1) h
  obtain rfl := congrArg (·.2.2) h
  cases hfault : s.pending "stream.send" with
  | some f =>
    obtain ⟨hanswer, -, hinner⟩ := Rehearsal.sendOr_pending hfault sendChunk u bytes
    refine ⟨hinner, fun hok => ?_⟩
    rw [show (rehearsed.sendChunk u bytes s).1 = .error f from hanswer] at hok
    contradiction
  | none =>
    obtain ⟨-, hupload, hinner⟩ := Rehearsal.sendOr_handOn hfault sendChunk u bytes
    exact ⟨hinner, fun _ => hupload⟩

/-- A finish that fails stores nothing, and one that does not stores the upload. -/
theorem rehearsed_finishBlock {answer : Except Failure String}
    (h : rehearsed.finishBlock u s = (answer, s')) :
    (∀ f, answer = .error f → s'.inner.received = s.inner.received) ∧
      ∀ token, answer = .ok token →
        s'.inner.received = assign u.key u.buffer s.inner.received := by
  obtain rfl := congrArg Prod.fst h
  obtain rfl := congrArg Prod.snd h
  cases hfault : s.pending "stream.finish" with
  | some f =>
    obtain ⟨hanswer, hinner⟩ := Rehearsal.attempt_pending hfault
      (Rehearsal.handOn (finishBlock u))
    refine ⟨fun _ _ => congrArg Store.received hinner, fun token hok => ?_⟩
    rw [show (rehearsed.finishBlock u s).1 = .error f from hanswer] at hok
    contradiction
  | none =>
    obtain ⟨hanswer, hinner⟩ := Rehearsal.attempt_handOn hfault (finishBlock u)
    rw [show (rehearsed.finishBlock u s).2.inner = _ from hinner,
      show (rehearsed.finishBlock u s).1 = _ from hanswer]
    unfold finishBlock
    split
    · exact ⟨fun _ _ => rfl, by simp⟩
    · exact ⟨by simp, fun _ _ => rfl⟩

end Memory

end TableExchange
