import TableExchange.Proofs.Service.Journal
import TableExchange.Write.BlockWriter

/-!
What one call can do to a block writer, beside the requests that it makes: one inversion for each of
writing, committing and giving up. Keeping a journal changes no answer. A commit has a message
exactly if the service finishes the open upload.
-/
namespace TableExchange

variable {σ υ β : Type}

inductive WriteEvent (υ : Type)
  | opening (request : BlockRequest) (answer : Except Failure υ)
  | sending (upload : υ) (bytes : List UInt8) (answer : Except Failure Unit) (after : υ)
  | finishing (upload : υ) (answer : Except Failure String)
  | aborting (upload : υ)
  | committing (session : TableSession) (messages : List CommitMessage)
      (answer : Except Failure TableSession)

def WriteService.journaled (svc : WriteService σ υ) :
    WriteService (σ × List (WriteEvent υ)) υ where
  lookUp t i k := unnoted (svc.lookUp t i k)
  release s := unnoted (svc.release s)
  createWrite t o := unnoted (svc.createWrite t o)
  openBlock r := noted (.opening r) (svc.openBlock r)
  sendChunk u bytes s :=
    let r := svc.sendChunk u bytes s.1
    (r.1, r.2.1, r.2.2, s.2 ++ [.sending u bytes r.1 r.2.1])
  finishBlock u := noted (.finishing u) (svc.finishBlock u)
  abortBlock u s := (svc.abortBlock u s.1, s.2 ++ [.aborting u])
  commitSession s ms := noted (.committing s ms) (svc.commitSession s ms)

namespace BlockWriter

/-- Marking an aborted writer as aborted changes nothing. -/
theorem mark_aborted {w : BlockWriter υ} (h : w.stage = .aborted) :
    { w with stage := .aborted } = w := by
  cases w
  cases h
  rfl

inductive Uploading (w : BlockWriter υ) (x : Exchange σ) : List (WriteEvent υ) → υ → Prop
  | held {u : υ} (hstage : w.stage = .opened u) : Uploading w x [] u
  | opened {u : υ} (hstage : w.stage = .idle)
      (hpoint : (x.passPoint FailPoints.beforeOpen).1 = .ok ()) :
      Uploading w x [.opening w.request (.ok u)] u

inductive Written (w : BlockWriter υ) (x : Exchange σ) (codec : Codec β) (batch : β) :
    List (WriteEvent υ) → Except Failure Unit → BlockWriter υ → Prop
  | closed (hstage : w.stage = .committed ∨ w.stage = .aborted) :
      Written w x codec batch [] (.error w.closed) w
  | unencoded {f : Failure} (hstage : w.stage ≠ .committed ∧ w.stage ≠ .aborted)
      (hcode : codec.encode batch = .error f) : Written w x codec batch [] (.error f) w
  | barred {e : EncodedBatch} {f : Failure} (hstage : w.stage = .idle)
      (hcode : codec.encode batch = .ok e)
      (hpoint : (x.passPoint FailPoints.beforeOpen).1 = .error f) :
      Written w x codec batch [] (.error f) w
  | unopened {e : EncodedBatch} {f : Failure} (hstage : w.stage = .idle)
      (hcode : codec.encode batch = .ok e)
      (hpoint : (x.passPoint FailPoints.beforeOpen).1 = .ok ()) :
      Written w x codec batch [.opening w.request (.error f)] (.error f) w
  | sent {e : EncodedBatch} {opening : List (WriteEvent υ)} {u u' : υ}
      (hcode : codec.encode batch = .ok e) (hup : w.Uploading x opening u) :
      Written w x codec batch (opening ++ [.sending u e.bytes (.ok ()) u']) (.ok ())
        { w with
          stage := .opened u'
          bytes := w.bytes + e.bytes.length.toUInt64, records := w.records + e.records }
  | unsent {e : EncodedBatch} {opening : List (WriteEvent υ)} {u u' : υ} {f : Failure}
      (hcode : codec.encode batch = .ok e) (hup : w.Uploading x opening u) :
      Written w x codec batch (opening ++ [.sending u e.bytes (.error f) u', .aborting u'])
        (.error f) { w with stage := .aborted }

theorem sent_over (svc : WriteService σ υ) {codec : Codec β} {batch : β} {w : BlockWriter υ}
    {x : Exchange σ} {e : EncodedBatch} {opening : List (WriteEvent υ)} {u : υ}
    (hcode : codec.encode batch = .ok e) (hup : w.Uploading x opening u)
    (y : Exchange (σ × List (WriteEvent υ))) :
    ∃ events, (w.send svc.journaled u e y).2.2.journal = y.journal ++ events ∧
      Written w x codec batch (opening ++ events) (w.send svc.journaled u e y).1
        (w.send svc.journaled u e y).2.1 := by
  rcases hsend : svc.sendChunk u e.bytes y.service.1 with ⟨answer, u', s⟩
  cases answer with
  | error f =>
    simp only [send, WriteService.journaled, hsend, giveUp, Exchange.journal_count]
    exact ⟨[.sending u e.bytes (.error f) u', .aborting u'], by simp [Exchange.journal],
      .unsent hcode hup⟩
  | ok done =>
    simp only [send, WriteService.journaled, hsend, BlockWriter.sent, Exchange.journal_count]
    exact ⟨[.sending u e.bytes (.ok ()) u'], rfl, .sent hcode hup⟩

theorem written (svc : WriteService σ υ) (codec : Codec β) (batch : β) (w : BlockWriter υ)
    (y : Exchange (σ × List (WriteEvent υ))) :
    ∃ events, (w.write svc.journaled codec batch y).2.2.journal = y.journal ++ events ∧
      Written w y.plain codec batch events (w.write svc.journaled codec batch y).1
        (w.write svc.journaled codec batch y).2.1 := by
  cases hstage : w.stage with
  | committed =>
    rw [write_committed _ _ _ _ hstage]
    exact ⟨[], by simp, .closed (.inl hstage)⟩
  | aborted =>
    rw [write_aborted _ _ _ _ hstage]
    exact ⟨[], by simp, .closed (.inr hstage)⟩
  | opened u =>
    have hlive : w.stage ≠ .committed ∧ w.stage ≠ .aborted := by simp [hstage]
    cases hcode : codec.encode batch with
    | error f =>
      simp only [write, hstage, hcode]
      exact ⟨[], by simp, .unencoded hlive hcode⟩
    | ok e =>
      simp only [write, hstage, hcode, upload]
      exact sent_over svc hcode (.held hstage) y
  | idle =>
    have hlive : w.stage ≠ .committed ∧ w.stage ≠ .aborted := by simp [hstage]
    cases hcode : codec.encode batch with
    | error f =>
      simp only [write, hstage, hcode]
      exact ⟨[], by simp, .unencoded hlive hcode⟩
    | ok e =>
      have hfirst := y.passPoint_plain_fst FailPoints.beforeOpen
      have hjournal := y.journal_passPoint FailPoints.beforeOpen
      rcases hpass : y.passPoint FailPoints.beforeOpen with ⟨verdict, y₁⟩
      rw [hpass] at hfirst hjournal
      cases verdict with
      | error f =>
        simp only [write, hstage, hcode, upload, hpass]
        exact ⟨[], by simpa using hjournal, .barred hstage hcode hfirst⟩
      | ok passed =>
        obtain ⟨answer, y₂, hask, -, hnoted⟩ :=
          y₁.ask_noted (WriteEvent.opening w.request) (svc.openBlock w.request)
        rw [hjournal] at hnoted
        cases answer with
        | error f =>
          simp only [write, hstage, hcode, upload, hpass, WriteService.journaled, hask]
          exact ⟨_, hnoted, .unopened hstage hcode hfirst⟩
        | ok u =>
          obtain ⟨events, hsent, hw⟩ := sent_over svc hcode (.opened hstage hfirst) y₂
          have hwrite : w.write svc.journaled codec batch y = w.send svc.journaled u e y₂ := by
            simp only [write, hstage, hcode, upload, hpass]
            simp only [WriteService.journaled, hask]
          rw [hwrite, hsent, hnoted, List.append_assoc]
          exact ⟨_, rfl, hw⟩

inductive Ended (w : BlockWriter υ) (x : Exchange σ) :
    List (WriteEvent υ) → Except Failure (Option CommitMessage) → BlockWriter υ → Prop
  | empty (hstage : w.stage = .idle) : Ended w x [] (.ok none) { w with stage := .committed }
  | again {f : Failure} (hstage : w.stage = .committed) (hkind : f.kind = .duplicateCommit) :
      Ended w x [] (.error f) w
  | closed {f : Failure} (hstage : w.stage = .aborted) (hkind : f.kind = .writerClosed) :
      Ended w x [] (.error f) w
  | barred {u : υ} {f : Failure} (hstage : w.stage = .opened u)
      (hpoint : (x.passPoint FailPoints.beforeFinish).1 = .error f) :
      Ended w x [.aborting u] (.error f) { w with stage := .aborted }
  | finished {u : υ} {token : String} (hstage : w.stage = .opened u)
      (hpoint : (x.passPoint FailPoints.beforeFinish).1 = .ok ()) :
      Ended w x [.finishing u (.ok token)]
        (.ok (some ⟨w.request.block, w.request.attempt, token⟩)) { w with stage := .committed }
  | unfinished {u : υ} {f : Failure} (hstage : w.stage = .opened u)
      (hpoint : (x.passPoint FailPoints.beforeFinish).1 = .ok ()) :
      Ended w x [.finishing u (.error f)] (.error f) { w with stage := .aborted }

theorem ended (svc : WriteService σ υ) (w : BlockWriter υ)
    (y : Exchange (σ × List (WriteEvent υ))) :
    ∃ events, (w.commit svc.journaled y).2.2.journal = y.journal ++ events ∧
      Ended w y.plain events (w.commit svc.journaled y).1 (w.commit svc.journaled y).2.1 := by
  cases hstage : w.stage with
  | idle =>
    simp only [commit, hstage]
    exact ⟨[], by simp, .empty hstage⟩
  | committed =>
    simp only [commit, hstage]
    exact ⟨[], by simp, .again hstage rfl⟩
  | aborted =>
    simp only [commit, hstage]
    exact ⟨[], by simp, .closed hstage rfl⟩
  | opened u =>
    have hfirst := y.passPoint_plain_fst FailPoints.beforeFinish
    have hjournal := y.journal_passPoint FailPoints.beforeFinish
    rcases hpass : y.passPoint FailPoints.beforeFinish with ⟨verdict, y₁⟩
    rw [hpass] at hfirst hjournal
    cases verdict with
    | error f =>
      simp only [commit, hstage, finish, hpass, giveUp, Exchange.journal_count]
      have hnoted : y₁.journal ++ [.aborting u] = y.journal ++ [.aborting u] := by rw [hjournal]
      exact ⟨[.aborting u], hnoted, .barred hstage hfirst⟩
    | ok passed =>
      obtain ⟨answer, y₂, hask, -, hnoted⟩ :=
        y₁.ask_noted (WriteEvent.finishing u) (svc.finishBlock u)
      rw [hjournal] at hnoted
      cases answer with
      | error f =>
        simp only [commit, hstage, finish, hpass, WriteService.journaled, hask,
          Exchange.journal_count]
        exact ⟨_, hnoted, .unfinished hstage hfirst⟩
      | ok token =>
        simp only [commit, hstage, finish, hpass, WriteService.journaled, hask,
          Exchange.journal_count]
        exact ⟨_, hnoted, .finished hstage hfirst⟩

inductive GivenUp (w : BlockWriter υ) : List (WriteEvent υ) → BlockWriter υ → Prop
  | committed (hstage : w.stage = .committed) : GivenUp w [] w
  | opened {u : υ} (hstage : w.stage = .opened u) :
      GivenUp w [.aborting u] { w with stage := .aborted }
  | idle (hstage : w.stage = .idle) : GivenUp w [] { w with stage := .aborted }
  | aborted (hstage : w.stage = .aborted) : GivenUp w [] w

theorem givenUp (svc : WriteService σ υ) (w : BlockWriter υ)
    (y : Exchange (σ × List (WriteEvent υ))) :
    ∃ events, (w.abort svc.journaled y).2.journal = y.journal ++ events ∧
      GivenUp w events (w.abort svc.journaled y).1 := by
  cases hstage : w.stage with
  | idle =>
    simp only [abort, hstage]
    exact ⟨[], by simp, .idle hstage⟩
  | committed =>
    simp only [abort, hstage]
    exact ⟨[], by simp, .committed hstage⟩
  | opened u =>
    simp only [abort, hstage, giveUp, Exchange.journal_count]
    exact ⟨[.aborting u], rfl, .opened hstage⟩
  | aborted =>
    simp only [abort, hstage, mark_aborted hstage]
    exact ⟨[], by simp, .aborted hstage⟩

theorem send_plain (svc : WriteService σ υ) (w : BlockWriter υ) (u : υ) (e : EncodedBatch)
    (y : Exchange (σ × List (WriteEvent υ))) : w.send svc u e y.plain =
      ((w.send svc.journaled u e y).1, (w.send svc.journaled u e y).2.1,
        (w.send svc.journaled u e y).2.2.plain) := by
  have hplain : y.plain.service = y.service.1 := rfl
  rcases hsend : svc.sendChunk u e.bytes y.service.1 with ⟨answer, u', s⟩
  cases answer with
  | error f =>
    simp only [send, hplain, hsend, WriteService.journaled]
    rfl
  | ok done =>
    simp only [send, hplain, hsend, WriteService.journaled]
    rfl

theorem upload_plain (svc : WriteService σ υ) (w : BlockWriter υ)
    (y : Exchange (σ × List (WriteEvent υ))) : w.upload svc y.plain =
      ((w.upload svc.journaled y).1, (w.upload svc.journaled y).2.plain) := by
  unfold upload
  split
  · rfl
  · rw [Exchange.passPoint_plain]
    rcases y.passPoint FailPoints.beforeOpen with ⟨verdict, y₁⟩
    cases verdict with
    | error f => rfl
    | ok passed => rfl

theorem write_plain (svc : WriteService σ υ) (codec : Codec β) (batch : β) (w : BlockWriter υ)
    (y : Exchange (σ × List (WriteEvent υ))) : w.write svc codec batch y.plain =
      ((w.write svc.journaled codec batch y).1, (w.write svc.journaled codec batch y).2.1,
        (w.write svc.journaled codec batch y).2.2.plain) := by
  unfold write
  simp only [upload_plain]
  split
  · rfl
  · rfl
  all_goals
    cases codec.encode batch with
    | error f => rfl
    | ok e =>
      rcases w.upload svc.journaled y with ⟨answer, y₁⟩
      cases answer with
      | error f => rfl
      | ok u => exact send_plain svc w u e y₁

theorem commit_plain (svc : WriteService σ υ) (w : BlockWriter υ)
    (y : Exchange (σ × List (WriteEvent υ))) : w.commit svc y.plain =
      ((w.commit svc.journaled y).1, (w.commit svc.journaled y).2.1,
        (w.commit svc.journaled y).2.2.plain) := by
  unfold commit
  split
  · rfl
  · rfl
  · rfl
  · next u _ =>
    unfold finish
    rw [Exchange.passPoint_plain]
    rcases y.passPoint FailPoints.beforeFinish with ⟨verdict, y₁⟩
    cases verdict with
    | error f => rfl
    | ok passed =>
      simp only [WriteService.journaled, Exchange.ask_plain y₁ (WriteEvent.finishing u)]
      rcases y₁.ask (noted (WriteEvent.finishing u) (svc.finishBlock u)) with ⟨answer, y₂⟩
      cases answer <;> rfl

theorem abort_plain (svc : WriteService σ υ) (w : BlockWriter υ)
    (y : Exchange (σ × List (WriteEvent υ))) : w.abort svc y.plain =
      ((w.abort svc.journaled y).1, (w.abort svc.journaled y).2.plain) := by
  unfold abort
  split <;> rfl

section Commits

variable {w w' : BlockWriter υ} {x : Exchange σ} {u : υ}

theorem commit_barred (svc : WriteService σ υ) (hstage : w.stage = .opened u) {f : Failure}
    (hpoint : (x.passPoint FailPoints.beforeFinish).1 = .error f) :
    (w.commit svc x).1 = .error f := by
  rcases hpass : x.passPoint FailPoints.beforeFinish with ⟨verdict, x'⟩
  rw [hpass] at hpoint
  obtain rfl : verdict = .error f := hpoint
  simp only [commit, hstage, finish, hpass]
  rfl

/-- Past the fail point the service is asked, in the state in which the commit found it. -/
theorem commit_passed (svc : WriteService σ υ) (hstage : w.stage = .opened u)
    (hpoint : (x.passPoint FailPoints.beforeFinish).1 = .ok ()) :
    (w.commit svc x).1 = (svc.finishBlock u x.service).1.map fun token =>
      some ⟨w.request.block, w.request.attempt, token⟩ := by
  have hservice : (x.passPoint FailPoints.beforeFinish).2.service = x.service := rfl
  rcases hpass : x.passPoint FailPoints.beforeFinish with ⟨verdict, x'⟩
  rw [hpass] at hpoint hservice
  obtain rfl : verdict = .ok () := hpoint
  simp only [commit, hstage, finish, hpass, Exchange.ask, ← hservice]
  rcases svc.finishBlock u x'.service with ⟨answer, s⟩
  cases answer <;> rfl

/-- A message is the token of a finished upload, with the block and the attempt of the writer. -/
theorem commit_eq_some_iff (svc : WriteService σ υ) (w : BlockWriter υ) (x : Exchange σ)
    (m : CommitMessage) : (w.commit svc x).1 = .ok (some m) ↔
      m.block = w.request.block ∧ m.attempt = w.request.attempt ∧
        ∃ u, w.stage = .opened u ∧ (x.passPoint FailPoints.beforeFinish).1 = .ok () ∧
          (svc.finishBlock u x.service).1 = .ok m.token := by
  obtain ⟨block, attempt, token⟩ := m
  cases hstage : w.stage with
  | idle => simp [commit, hstage]
  | committed => simp [commit, hstage]
  | aborted => simp [commit, hstage]
  | opened u =>
    cases hpoint : (x.passPoint FailPoints.beforeFinish).1 with
    | error f => simp [commit_barred svc hstage hpoint]
    | ok passed =>
      rw [commit_passed svc hstage hpoint]
      cases hfinish : (svc.finishBlock u x.service).1 with
      | error f => simp [Except.map, hfinish]
      | ok found => simp [Except.map, hfinish, eq_comm]

/-- The end of an open upload is a message or a failure. -/
theorem Ended.of_opened {events : List (WriteEvent υ)}
    {answer : Except Failure (Option CommitMessage)} (h : Ended w x events answer w')
    (hstage : w.stage = .opened u) :
    (∃ m, answer = .ok (some m) ∧ w' = { w with stage := .committed }) ∨
      ∃ f, answer = .error f ∧ w' = { w with stage := .aborted } := by
  cases h with
  | empty h => simp [hstage] at h
  | again h _ => simp [hstage] at h
  | closed h _ => simp [hstage] at h
  | barred _ _ => exact .inr ⟨_, rfl, rfl⟩
  | finished _ _ => exact .inl ⟨_, rfl, rfl⟩
  | unfinished _ _ => exact .inr ⟨_, rfl, rfl⟩

theorem commit_opened (svc : WriteService σ υ) (x : Exchange σ) (hstage : w.stage = .opened u) :
    (∃ m, (w.commit svc x).1 = .ok (some m) ∧
        (w.commit svc x).2.1 = { w with stage := .committed }) ∨
      ∃ f, (w.commit svc x).1 = .error f ∧
        (w.commit svc x).2.1 = { w with stage := .aborted } := by
  obtain ⟨events, -, hended⟩ := w.ended svc (x.watched (WriteEvent υ))
  have hplain := w.commit_plain svc (x.watched (WriteEvent υ))
  rw [Exchange.plain_watched] at hplain
  rw [hplain]
  exact hended.of_opened hstage

end Commits

end BlockWriter

end TableExchange
