import TableExchange.Interactive.Results
import TableExchange.Proofs.Interactive.TaskJournal

/-!
Pulls of the results of one query, on a service that answers in any way and with signals at any
time. Every payload with a status is delivered by the pull that read it; between two reads there is
one check of the task and one poll interval; only the final payload ends the sequence.
-/
namespace TableExchange

variable {σ : Type}

namespace QueryResults

/-- The surroundings after a read of the result channel and a check of the task. -/
def inquired (svc : InstanceService σ) (q : QueryResults) (x : Exchange σ) : Exchange σ :=
  (q.channel.ensureAlive svc (q.channel.read svc TaskChannel.resultKey x).2).2

/-- What one round of a pull can do. Only the last rule leads to another read. -/
inductive Round (svc : InstanceService σ) (q : QueryResults) (x : Exchange σ) :
    List TaskEvent → Option (Except Failure (Option TaskPayload)) → QueryResults → Exchange σ → Prop
  | unread {answer : Except Failure (Option String)} {f : Failure}
      (hread : TaskChannel.meaning TaskChannel.resultKey answer = .error f) :
      Round svc q x [q.channel.reading TaskChannel.resultKey answer] (some (.error f)) q
        (q.channel.read svc TaskChannel.resultKey x).2
  | delivered {answer : Except Failure (Option String)} {payload : TaskPayload}
      {status : ObjectStatus}
      (hread : TaskChannel.meaning TaskChannel.resultKey answer = .ok (some payload))
      (hstatus : payload.status = some status) :
      Round svc q x [q.channel.reading TaskChannel.resultKey answer] (some (.ok (some payload)))
        (q.delivered status) (q.channel.read svc TaskChannel.resultKey x).2
  | halted {answer : Except Failure (Option String)} {checks : List TaskEvent} {f : Failure}
      (hsilent : TaskChannel.Silent TaskChannel.resultKey answer)
      (hcheck : q.channel.Checked checks (.error f)) :
      Round svc q x (q.channel.reading TaskChannel.resultKey answer :: checks) (some (.error f)) q
        (q.inquired svc x)
  | interrupted {answer : Except Failure (Option String)} {checks : List TaskEvent}
      {r : Shutdown.Receiver} {x' : Exchange σ}
      (hsilent : TaskChannel.Silent TaskChannel.resultKey answer)
      (hcheck : q.channel.Checked checks (.ok ()))
      (hsleep : (q.inquired svc x).sleep q.receiver q.pollMs = (true, r, x')) :
      Round svc q x (q.channel.reading TaskChannel.resultKey answer :: checks)
        (some (.error q.interrupted)) { q with receiver := r } x'
  | idle {answer : Except Failure (Option String)} {state : Option TaskStatus} {x' : Exchange σ}
      (hsilent : TaskChannel.Silent TaskChannel.resultKey answer)
      (halive : ∀ s, state = some s → s.isTerminal = false)
      (hsleep : (q.inquired svc x).sleep q.receiver q.pollMs = (false, q.receiver, x')) :
      Round svc q x
        [q.channel.reading TaskChannel.resultKey answer, q.channel.checking (.ok state)] none q x'

theorem awaited (svc : InstanceService σ) (q : QueryResults) {x : Exchange σ}
    {answer : Except Failure (Option String)} {y : Exchange (σ × List TaskEvent)}
    (hsilent : TaskChannel.Silent TaskChannel.resultKey answer)
    (hy : y.plain = (q.channel.read svc TaskChannel.resultKey x).2) :
    ∃ checks, (q.await svc.journaled y).2.2.journal = y.journal ++ checks ∧
      Round svc q x (q.channel.reading TaskChannel.resultKey answer :: checks)
        (q.await svc.journaled y).1 (q.await svc.journaled y).2.1
        (q.await svc.journaled y).2.2.plain := by
  obtain ⟨checks, hjournal, hchecked⟩ := TaskChannel.checked svc q.channel y
  have hplain : (q.channel.ensureAlive svc.journaled y).2.plain = q.inquired svc x := by
    rw [inquired, ← hy, TaskChannel.ensureAlive_plain]
  rcases halive : q.channel.ensureAlive svc.journaled y with ⟨verdict, y₁⟩
  rw [halive] at hjournal hchecked hplain
  cases verdict with
  | error f =>
    simp only [await, halive, hplain]
    exact ⟨checks, hjournal, .halted hsilent hchecked⟩
  | ok done =>
    have hsleep := y₁.plain_sleep q.receiver q.pollMs
    have hnoted := y₁.journal_sleep q.receiver q.pollMs
    rw [hplain] at hsleep
    rw [hjournal] at hnoted
    rcases hslept : y₁.sleep q.receiver q.pollMs with ⟨cut, r, y₂⟩
    rw [hslept] at hsleep hnoted
    cases cut with
    | true =>
      simp only [await, halive, hslept]
      exact ⟨checks, hnoted, .interrupted hsilent hchecked hsleep⟩
    | false =>
      obtain ⟨rfl, -⟩ := Exchange.sleep_through hslept
      simp only [await, halive, hslept]
      cases hchecked with
      | alive halive => exact ⟨_, hnoted, .idle hsilent halive hsleep⟩

theorem round (svc : InstanceService σ) (q : QueryResults) (y : Exchange (σ × List TaskEvent)) :
    ∃ events, (step svc.journaled (q, y)).2.2.journal = y.journal ++ events ∧
      Round svc q y.plain events (step svc.journaled (q, y)).1 (step svc.journaled (q, y)).2.1
        (step svc.journaled (q, y)).2.2.plain := by
  obtain ⟨answer, hjournal, hmeaning⟩ :=
    TaskChannel.read_noted svc q.channel TaskChannel.resultKey y
  have hplain : (q.channel.read svc TaskChannel.resultKey y.plain).2 =
      (q.channel.read svc.journaled TaskChannel.resultKey y).2.plain := by
    rw [TaskChannel.read_plain]
  rcases hread : q.channel.read svc.journaled TaskChannel.resultKey y with ⟨found, y₁⟩
  rw [hread] at hjournal hmeaning hplain
  -- Nothing and a payload without a status go the same way.
  have hawait (hsilent : TaskChannel.Silent TaskChannel.resultKey answer) :
      ∃ events, (q.await svc.journaled y₁).2.2.journal = y.journal ++ events ∧
        Round svc q y.plain events (q.await svc.journaled y₁).1 (q.await svc.journaled y₁).2.1
          (q.await svc.journaled y₁).2.2.plain := by
    obtain ⟨checks, hchecks, h⟩ := awaited svc q hsilent hplain.symm
    rw [hjournal, List.append_assoc] at hchecks
    exact ⟨_, hchecks, h⟩
  match found with
  | .error f =>
    simp only [step, hread]
    rw [← hplain]
    exact ⟨_, hjournal, .unread hmeaning.symm⟩
  | .ok none =>
    simp only [step, hread]
    exact hawait ⟨none, hmeaning.symm, rfl⟩
  | .ok (some payload) =>
    cases hstatus : payload.status with
    | none =>
      simp only [step, hread, hstatus]
      exact hawait ⟨some payload, hmeaning.symm, hstatus⟩
    | some status =>
      simp only [step, hread, hstatus]
      rw [← hplain]
      exact ⟨_, hjournal, .delivered hmeaning.symm hstatus⟩

/-- What a pull of at most `rounds` reads can do: it finds the sequence over, or it makes idle
rounds, and then it is still pending or one last round brings its answer. -/
inductive Pulled (svc : InstanceService σ) : Nat → QueryResults → Exchange σ → List TaskEvent →
    Option (Except Failure (Option TaskPayload)) → QueryResults → Exchange σ → Prop
  | finished {rounds : Nat} {q : QueryResults} {x : Exchange σ} (hover : q.terminated = true) :
      Pulled svc rounds q x [] (some (.ok none)) q x
  | pending {q : QueryResults} {x : Exchange σ} (hopen : q.terminated = false) :
      Pulled svc 0 q x [] none q x
  | last {rounds : Nat} {q q' : QueryResults} {x x' : Exchange σ} {events : List TaskEvent}
      {answer : Except Failure (Option TaskPayload)} (hopen : q.terminated = false)
      (hround : Round svc q x events (some answer) q' x') :
      Pulled svc (rounds + 1) q x events (some answer) q' x'
  | more {rounds : Nat} {q q' : QueryResults} {x x₁ x' : Exchange σ}
      {events later : List TaskEvent} {answer : Option (Except Failure (Option TaskPayload))}
      (hopen : q.terminated = false) (hround : Round svc q x events none q x₁)
      (hrest : Pulled svc rounds q x₁ later answer q' x') :
      Pulled svc (rounds + 1) q x (events ++ later) answer q' x'

theorem Round.of_none {svc : InstanceService σ} {q q' : QueryResults} {x x' : Exchange σ}
    {events : List TaskEvent} (h : Round svc q x events none q' x') : q' = q := by
  cases h
  rfl

theorem settled (svc : InstanceService σ) (rounds : Nat) {q : QueryResults}
    (hopen : q.terminated = false) (y : Exchange (σ × List TaskEvent)) :
    ∃ events, (settle (step svc.journaled) rounds (q, y)).2.2.journal = y.journal ++ events ∧
      Pulled svc rounds q y.plain events (settle (step svc.journaled) rounds (q, y)).1
        (settle (step svc.journaled) rounds (q, y)).2.1
        (settle (step svc.journaled) rounds (q, y)).2.2.plain := by
  induction rounds generalizing y with
  | zero => exact ⟨[], by simp [settle], .pending hopen⟩
  | succ rounds ih =>
    obtain ⟨events, hjournal, hround⟩ := round svc q y
    rcases hstep : step svc.journaled (q, y) with ⟨answer, q₁, y₁⟩
    rw [hstep] at hjournal hround
    cases answer with
    | some answer =>
      simp only [settle, hstep]
      exact ⟨events, hjournal, .last hopen hround⟩
    | none =>
      obtain rfl : q₁ = q := hround.of_none
      obtain ⟨later, hlater, hrest⟩ := ih y₁
      simp only [settle, hstep]
      rw [hjournal, List.append_assoc] at hlater
      exact ⟨_, hlater, .more hopen hround hrest⟩

theorem pulled (svc : InstanceService σ) (rounds : Nat) (q : QueryResults)
    (y : Exchange (σ × List TaskEvent)) :
    ∃ events, (q.next svc.journaled rounds y).2.2.journal = y.journal ++ events ∧
      Pulled svc rounds q y.plain events (q.next svc.journaled rounds y).1
        (q.next svc.journaled rounds y).2.1 (q.next svc.journaled rounds y).2.2.plain := by
  unfold next
  cases hover : q.terminated with
  | true =>
    simp only [if_true]
    exact ⟨[], by simp, .finished hover⟩
  | false =>
    simp only [Bool.false_eq_true, if_false]
    exact settled svc rounds hover y

theorem await_plain (svc : InstanceService σ) (q : QueryResults)
    (y : Exchange (σ × List TaskEvent)) : q.await svc y.plain =
      ((q.await svc.journaled y).1, (q.await svc.journaled y).2.1,
        (q.await svc.journaled y).2.2.plain) := by
  unfold await
  rw [TaskChannel.ensureAlive_plain]
  rcases q.channel.ensureAlive svc.journaled y with ⟨verdict, y₁⟩
  cases verdict with
  | error f => rfl
  | ok done =>
    simp only [Exchange.plain_sleep]
    rcases y₁.sleep q.receiver q.pollMs with ⟨cut, r, y₂⟩
    cases cut <;> rfl

theorem step_plain (svc : InstanceService σ) (s : QueryResults × Exchange (σ × List TaskEvent)) :
    step svc (s.1, s.2.plain) = ((step svc.journaled s).1, (step svc.journaled s).2.1,
      (step svc.journaled s).2.2.plain) := by
  obtain ⟨q, y⟩ := s
  unfold step
  simp only [TaskChannel.read_plain]
  rcases q.channel.read svc.journaled TaskChannel.resultKey y with ⟨found, y₁⟩
  match found with
  | .error f => rfl
  | .ok none => exact q.await_plain svc y₁
  | .ok (some payload) =>
    cases hstatus : payload.status with
    | none => simpa only [hstatus] using q.await_plain svc y₁
    | some status => simp only [hstatus]

theorem next_plain (svc : InstanceService σ) (rounds : Nat) (q : QueryResults)
    (y : Exchange (σ × List TaskEvent)) : q.next svc rounds y.plain =
      ((q.next svc.journaled rounds y).1, (q.next svc.journaled rounds y).2.1,
        (q.next svc.journaled rounds y).2.2.plain) := by
  unfold next
  split
  · rfl
  · exact settle_view (fun s => (s.1, s.2.plain)) (step_plain svc) rounds (q, y)

end QueryResults

end TableExchange
