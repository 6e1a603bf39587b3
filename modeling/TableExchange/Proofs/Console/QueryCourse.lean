import TableExchange.Console.Command
import TableExchange.Proofs.Interactive.ResultSequence
import TableExchange.Proofs.Interactive.SessionRuns

/-!
What the query of a console command can do on its session: the wait for the start, the submission,
the pulls of the results and the read of the statistics, each of which may end it. No way through it
stops the instance, and what it prints are the results that were read.
-/
namespace TableExchange

variable {σ : Type}

/-- The line that the console prints for a request: the result of a payload with a status that was
read from the result channel, unless it is empty. -/
def TaskEvent.line? (e : TaskEvent) : Option String :=
  match e with
  | reading _ _ key _ =>
    if key = TaskChannel.resultKey then e.carried.bind TaskPayload.nonEmptyResult else none
  | _ => none

namespace TaskChannel

theorem line?_result (c : TaskChannel) (answer : Except Failure (Option String)) :
    (c.reading resultKey answer).line? =
      (c.reading resultKey answer).carried.bind TaskPayload.nonEmptyResult := by
  simp [TaskEvent.line?, reading]

theorem line?_of_ne (c : TaskChannel) {key : String} (h : key ≠ resultKey)
    (answer : Except Failure (Option String)) : (c.reading key answer).line? = none :=
  if_neg h

theorem Checked.lines {c : TaskChannel} {checks : List TaskEvent} {answer : Except Failure Unit}
    (h : c.Checked checks answer) : checks.filterMap TaskEvent.line? = [] := by
  cases h <;> rfl

end TaskChannel

namespace InteractiveSession

theorem Probed.lines {s s' : InteractiveSession} {events : List TaskEvent}
    {answer : Except Failure Bool} (h : Probed s events answer s') :
    events.filterMap TaskEvent.line? = [] := by
  have hread : ∀ answer, (s.channel.reading TaskChannel.statusKey answer).line? = none :=
    s.channel.line?_of_ne (by decide)
  cases h with
  | unread _ => simp [hread]
  | observed _ _ => simp [hread]
  | alive _ hcheck => simp [hread, hcheck.lines]
  | halted _ hcheck => simp [hread, hcheck.lines]

theorem Watched.lines {s s' : InteractiveSession} {events : List TaskEvent}
    (h : Watched s events s') : events.filterMap TaskEvent.line? = [] := by
  induction h with
  | start => rfl
  | probed _ _ hp ih => rw [List.filterMap_append, ih, hp.lines, List.append_nil]
  | noticed _ _ ih => exact ih

end InteractiveSession

namespace QueryResults

open ResultPull

variable {svc : InstanceService σ} {rounds : Nat} {q q' : QueryResults} {x x' : Exchange σ}
  {events : List TaskEvent} {answer : Option (Except Failure (Option TaskPayload))}

theorem Round.lines (h : Round svc q x events answer q' x') :
    events.filterMap TaskEvent.line? = (payloads answer).flatMap Console.resultLines := by
  have hsilent : ∀ {answer}, TaskChannel.Silent TaskChannel.resultKey answer →
      (q.channel.reading TaskChannel.resultKey answer).line? = none := by
    intro answer hsilent
    rw [TaskChannel.line?_result, TaskChannel.carried_silent hsilent]
    rfl
  cases h with
  | unread hread => simp [payloads, TaskChannel.line?_result, TaskChannel.carried_unread hread]
  | @delivered answer payload _ hread hstatus =>
    have hline : (q.channel.reading TaskChannel.resultKey answer).line? =
        payload.nonEmptyResult := by
      rw [TaskChannel.line?_result, TaskChannel.carried_status hread hstatus]
      rfl
    cases hresult : payload.nonEmptyResult <;>
      simp [payloads, Console.resultLines, hline, hresult]
  | halted hnone hcheck => simp [payloads, hsilent hnone, hcheck.lines]
  | interrupted hnone hcheck _ => simp [payloads, hsilent hnone, hcheck.lines]
  | idle hnone _ _ =>
    simp only [List.filterMap_cons, hsilent hnone]
    rfl

theorem Round.not_stops (h : Round svc q x events answer q' x') :
    ∀ e ∈ events, e.stops = false := by
  cases h with
  | unread _ => exact List.forall_mem_singleton.mpr rfl
  | delivered _ _ => exact List.forall_mem_singleton.mpr rfl
  | halted _ hcheck => exact List.forall_mem_cons.mpr ⟨rfl, hcheck.not_stops⟩
  | interrupted _ hcheck _ => exact List.forall_mem_cons.mpr ⟨rfl, hcheck.not_stops⟩
  | idle _ _ _ => exact List.forall_mem_cons.mpr ⟨rfl, List.forall_mem_singleton.mpr rfl⟩

theorem Pulled.lines (h : Pulled svc rounds q x events answer q' x') :
    events.filterMap TaskEvent.line? = (payloads answer).flatMap Console.resultLines := by
  induction h with
  | finished _ => rfl
  | pending _ => rfl
  | last _ hround => exact hround.lines
  | more _ hround _ ih => rw [List.filterMap_append, hround.lines, ih]; rfl

theorem Pulled.not_stops (h : Pulled svc rounds q x events answer q' x') :
    ∀ e ∈ events, e.stops = false := by
  induction h with
  | finished _ => simp
  | pending _ => simp
  | last _ hround => exact hround.not_stops
  | more _ hround _ ih => exact List.forall_mem_append.mpr ⟨hround.not_stops, ih⟩

/-- Pulls in a row up to the end or the first failure, with their requests. -/
inductive Drained (svc : InstanceService σ) (rounds : Nat) :
    QueryResults → Exchange σ → List TaskEvent → Except Failure Unit → Exchange σ → Prop
  | ended {q q' : QueryResults} {x x' : Exchange σ} {events : List TaskEvent}
      (hpull : Pulled svc rounds q x events (some (.ok none)) q' x') :
      Drained svc rounds q x events (.ok ()) x'
  | failed {q q' : QueryResults} {x x' : Exchange σ} {events : List TaskEvent} {f : Failure}
      (hpull : Pulled svc rounds q x events (some (.error f)) q' x') :
      Drained svc rounds q x events (.error f) x'
  | more {q q₁ : QueryResults} {x x₁ x' : Exchange σ} {events later : List TaskEvent}
      {payload : TaskPayload} {ending : Except Failure Unit}
      (hpull : Pulled svc rounds q x events (some (.ok (some payload))) q₁ x₁)
      (hrest : Drained svc rounds q₁ x₁ later ending x') :
      Drained svc rounds q x (events ++ later) ending x'

end QueryResults

namespace Console

/-- How far a part of a query has come: its requests, and its report once it has ended. -/
structure Course (Ends : List TaskEvent → Except CommandFailure Unit → Prop)
    (events : List TaskEvent) (report : Option Report) : Prop where
  unstopped : ∀ e ∈ events, e.stops = false
  ended : ∀ r, report = some r → Ends events r.outcome ∧
    r.printed = events.filterMap TaskEvent.line?

theorem printResults_plain (svc : InstanceService σ) (rounds pulls : Nat) (printed : List String)
    (q : QueryResults) (y : Exchange (σ × List TaskEvent)) :
    printResults svc rounds pulls printed q y.plain =
      ((printResults svc.journaled rounds pulls printed q y).1,
        (printResults svc.journaled rounds pulls printed q y).2.plain) := by
  induction pulls generalizing printed q y with
  | zero => rfl
  | succ pulls ih =>
    simp only [printResults, QueryResults.next_plain]
    rcases q.next svc.journaled rounds y with ⟨answer, q', y'⟩
    match answer with
    | none => rfl
    | some (.error f) => rfl
    | some (.ok none) => rfl
    | some (.ok (some p)) => exact ih _ q' y'

theorem drained (svc : InstanceService σ) (rounds pulls : Nat) (printed : List String)
    (q : QueryResults) (y : Exchange (σ × List TaskEvent)) :
    ∃ events, (printResults svc.journaled rounds pulls printed q y).2.journal =
        y.journal ++ events ∧ (∀ e ∈ events, e.stops = false) ∧
      ∀ r, (printResults svc.journaled rounds pulls printed q y).1 = some r →
        ∃ ending, QueryResults.Drained svc rounds q y.plain events ending
            (printResults svc.journaled rounds pulls printed q y).2.plain ∧
          r.outcome = ending.mapError .failure ∧
          r.printed = printed ++ events.filterMap TaskEvent.line? := by
  induction pulls generalizing printed q y with
  | zero => exact ⟨[], by simp [printResults], by simp, by simp [printResults]⟩
  | succ pulls ih =>
    obtain ⟨events, hjournal, hpull⟩ := q.pulled svc rounds y
    have hlines := hpull.lines
    have hstops := hpull.not_stops
    rcases hnext : q.next svc.journaled rounds y with ⟨answer, q', y'⟩
    rw [hnext] at hjournal hpull hlines
    match answer with
    | none =>
      simp only [printResults, hnext]
      exact ⟨events, hjournal, hstops, by simp⟩
    | some (.error f) =>
      simp only [printResults, hnext]
      refine ⟨events, hjournal, hstops, ?_⟩
      rintro _ ⟨⟩
      exact ⟨_, .failed hpull, rfl, by rw [hlines]; simp [ResultPull.payloads]⟩
    | some (.ok none) =>
      simp only [printResults, hnext]
      refine ⟨events, hjournal, hstops, ?_⟩
      rintro _ ⟨⟩
      exact ⟨_, .ended hpull, rfl, by rw [hlines]; simp [ResultPull.payloads]⟩
    | some (.ok (some p)) =>
      -- The line of this payload is printed before those of the later pulls.
      obtain ⟨later, hlater, hnone, hended⟩ := ih (printed ++ resultLines p) q' y'
      simp only [printResults, hnext]
      refine ⟨events ++ later, ?_, List.forall_mem_append.mpr ⟨hstops, hnone⟩, ?_⟩
      · rw [hlater, hjournal, List.append_assoc]
      · intro r hr
        obtain ⟨ending, hrest, houtcome, hprinted⟩ := hended r hr
        refine ⟨ending, .more hpull hrest, houtcome, ?_⟩
        rw [hprinted, List.filterMap_append, hlines]
        simp [ResultPull.payloads]

/-- What a query on a running session can do, with its requests: the submission fails, a pull fails,
or the statistics decide. -/
inductive Answered (svc : InstanceService σ) (rounds : Nat) (sql : String) (settings : Settings)
    (s : InteractiveSession) (x : Exchange σ) : List TaskEvent → Except Failure Unit → Prop
  | unsubmitted {f : Failure} {x' : Exchange σ} (hrun : s.run svc sql settings x = (.error f, x')) :
      Answered svc rounds sql settings s x
        [s.channel.writing TaskChannel.queryKey (InteractiveSession.queryText sql settings)
          (.error f)] (.error f)
  | broken {q : QueryResults} {reply : String} {f : Failure} {pulls : List TaskEvent}
      {x₁ x' : Exchange σ} (hrun : s.run svc sql settings x = (.ok q, x₁))
      (hpulls : q.Drained svc rounds x₁ pulls (.error f) x') :
      Answered svc rounds sql settings s x
        (s.channel.writing TaskChannel.queryKey (InteractiveSession.queryText sql settings)
          (.ok reply) :: pulls) (.error f)
  | closed {q : QueryResults} {reply : String} {pulls : List TaskEvent}
      {answer : Except Failure (Option String)} {statistics : Except Failure (Option String)}
      {x₁ x₂ x' : Exchange σ} (hrun : s.run svc sql settings x = (.ok q, x₁))
      (hpulls : q.Drained svc rounds x₁ pulls (.ok ()) x₂)
      (hstatistics : s.queryStatistics svc x₂ = (statistics, x')) :
      Answered svc rounds sql settings s x
        (s.channel.writing TaskChannel.queryKey (InteractiveSession.queryText sql settings)
          (.ok reply) :: pulls ++ [s.channel.reading TaskChannel.statisticsKey answer])
        (statistics.map fun _ => ())

theorem queryStatistics_plain (svc : InstanceService σ) (s : InteractiveSession)
    (y : Exchange (σ × List TaskEvent)) : s.queryStatistics svc y.plain =
      ((s.queryStatistics svc.journaled y).1, (s.queryStatistics svc.journaled y).2.plain) := by
  unfold InteractiveSession.queryStatistics InteractiveSession.information
  rw [TaskChannel.read_plain]
  rcases s.channel.read svc.journaled TaskChannel.statisticsKey y with ⟨found, y'⟩
  cases found <;> rfl

/-- After the results the statistics are read, with one request, and decide how the query ends. -/
theorem closeQuery_noted (svc : InstanceService σ) (s : InteractiveSession) (printed : List String)
    (y : Exchange (σ × List TaskEvent)) :
    ∃ answer, (closeQuery svc.journaled s ⟨printed, .ok ()⟩ y).2.journal =
        y.journal ++ [s.channel.reading TaskChannel.statisticsKey answer] ∧
      (closeQuery svc.journaled s ⟨printed, .ok ()⟩ y).1 =
        ⟨printed, ((s.queryStatistics svc y.plain).1.map fun _ => ()).mapError .failure⟩ := by
  obtain ⟨answer, hjournal, -⟩ :=
    TaskChannel.read_noted svc s.channel TaskChannel.statisticsKey y
  rw [queryStatistics_plain]
  simp only [closeQuery, InteractiveSession.queryStatistics, InteractiveSession.information]
  rcases hread : s.channel.read svc.journaled TaskChannel.statisticsKey y with ⟨found, y'⟩
  rw [hread] at hjournal
  cases found with
  | error f => exact ⟨answer, hjournal, rfl⟩
  | ok payload => exact ⟨answer, hjournal, rfl⟩

theorem runStarted_plain (svc : InstanceService σ) (rounds : Nat) (sql : String)
    (settings : Settings) (s : InteractiveSession) (y : Exchange (σ × List TaskEvent)) :
    runStarted svc rounds sql settings s y.plain =
      ((runStarted svc.journaled rounds sql settings s y).1,
        (runStarted svc.journaled rounds sql settings s y).2.plain) := by
  simp only [runStarted, InteractiveSession.run_plain]
  rcases s.run svc.journaled sql settings y with ⟨submitted, y₁⟩
  cases submitted with
  | error f => rfl
  | ok q =>
    simp only [printResults_plain]
    rcases printResults svc.journaled rounds rounds [] q y₁ with ⟨report, y₂⟩
    cases report with
    | none => rfl
    | some r =>
      obtain ⟨printed, outcome⟩ := r
      cases outcome with
      | error f => rfl
      | ok done =>
        simp only [closeQuery, queryStatistics_plain]
        rcases s.queryStatistics svc.journaled y₂ with ⟨statistics, y₃⟩
        cases statistics <;> rfl

theorem answered (svc : InstanceService σ) (rounds : Nat) (sql : String) (settings : Settings)
    (s : InteractiveSession) (y : Exchange (σ × List TaskEvent)) :
    ∃ events, (runStarted svc.journaled rounds sql settings s y).2.journal = y.journal ++ events ∧
      Course (fun events outcome => ∃ ending, Answered svc rounds sql settings s y.plain events
        ending ∧ outcome = ending.mapError .failure) events
        (runStarted svc.journaled rounds sql settings s y).1 := by
  obtain ⟨reply, hsent, hreply⟩ := s.submitted svc sql settings y
  have hrun := s.run_plain svc sql settings y
  rcases hsubmitted : s.run svc.journaled sql settings y with ⟨submitted, y₁⟩
  rw [hsubmitted] at hsent hreply hrun
  cases reply with
  | error f =>
    obtain rfl : submitted = .error f := hreply
    simp only [runStarted, hsubmitted]
    refine ⟨_, hsent, ⟨List.forall_mem_singleton.mpr rfl, ?_⟩⟩
    rintro _ ⟨⟩
    exact ⟨⟨_, .unsubmitted hrun, rfl⟩, rfl⟩
  | ok reply =>
    obtain ⟨q, rfl⟩ : ∃ q, submitted = .ok q := ⟨_, hreply⟩
    obtain ⟨pulls, hpulls, hstops, hended⟩ := drained svc rounds rounds [] q y₁
    rcases hprint : printResults svc.journaled rounds rounds [] q y₁ with ⟨report, y₂⟩
    rw [hprint] at hpulls hended
    rw [hsent, List.append_assoc] at hpulls
    have hquiet : ∀ e ∈ s.channel.writing TaskChannel.queryKey
        (InteractiveSession.queryText sql settings) (.ok reply) :: pulls, e.stops = false :=
      List.forall_mem_cons.mpr ⟨rfl, hstops⟩
    simp only [runStarted, hsubmitted, hprint]
    cases report with
    | none => exact ⟨_, hpulls, hquiet, by simp⟩
    | some r =>
      obtain ⟨printed, outcome⟩ := r
      obtain ⟨ending, hdrained, houtcome, hprinted⟩ := hended _ rfl
      obtain rfl : outcome = _ := houtcome
      obtain rfl : printed = pulls.filterMap TaskEvent.line? := hprinted
      cases ending with
      | error f =>
        refine ⟨_, hpulls, hquiet, ?_⟩
        rintro _ ⟨⟩
        exact ⟨⟨_, .broken hrun hdrained, rfl⟩, rfl⟩
      | ok done =>
        obtain ⟨answer, hread, hclosed⟩ :=
          closeQuery_noted svc s (pulls.filterMap TaskEvent.line?) y₂
        have hpulls : y₂.journal = _ := hpulls
        rw [hpulls, List.append_assoc] at hread
        have hkey : TaskChannel.statisticsKey ≠ TaskChannel.resultKey := by decide
        have hline := s.channel.line?_of_ne hkey answer
        have hlast := List.forall_mem_append.mpr ⟨hquiet, List.forall_mem_singleton.mpr
          (rfl : (s.channel.reading TaskChannel.statisticsKey answer).stops = false)⟩
        refine ⟨_, hread, hlast, ?_⟩
        rintro _ ⟨⟩
        refine ⟨⟨_, .closed hrun hdrained rfl, ?_⟩, ?_⟩
        · exact congrArg Report.outcome hclosed
        · refine (congrArg Report.printed hclosed).trans ?_
          rw [List.filterMap_append, List.filterMap_cons_none hline, List.filterMap_nil,
            List.append_nil]
          rfl

/-- What a query can do on its session, with its requests: the wait for the start fails or takes too
long, or the query is answered on the session that runs. -/
inductive Queried (svc : InstanceService σ) (rounds : Nat) (sql : String) (settings : Settings)
    (timeoutSecs : Nat) (s : InteractiveSession) (x : Exchange σ) :
    List TaskEvent → Except CommandFailure Unit → Prop
  | unstarted {waits : List TaskEvent} {f : Failure} {s' : InteractiveSession} {x' : Exchange σ}
      (hwait : s.waitForStart svc rounds (timeoutSecs * 1000) x = (some (.error f), s', x'))
      (hwatched : s.Watched waits s') :
      Queried svc rounds sql settings timeoutSecs s x waits (.error (.failure f))
  | late {waits : List TaskEvent} {s' : InteractiveSession} {x' : Exchange σ}
      (hwait : s.waitForStart svc rounds (timeoutSecs * 1000) x = (some (.ok false), s', x'))
      (hwatched : s.Watched waits s') :
      Queried svc rounds sql settings timeoutSecs s x waits (.error (.notStarted timeoutSecs))
  | started {waits events : List TaskEvent} {ending : Except Failure Unit}
      {s' : InteractiveSession} {x' : Exchange σ}
      (hwait : s.waitForStart svc rounds (timeoutSecs * 1000) x = (some (.ok true), s', x'))
      (hwatched : s.Watched waits s')
      (hanswered : Answered svc rounds sql settings s' x' events ending) :
      Queried svc rounds sql settings timeoutSecs s x (waits ++ events)
        (ending.mapError .failure)

theorem querySession_plain (svc : InstanceService σ) (rounds : Nat) (sql : String)
    (settings : Settings) (timeoutSecs : Nat) (s : InteractiveSession)
    (y : Exchange (σ × List TaskEvent)) :
    querySession svc rounds sql settings timeoutSecs s y.plain =
      ((querySession svc.journaled rounds sql settings timeoutSecs s y).1,
        (querySession svc.journaled rounds sql settings timeoutSecs s y).2.1,
        (querySession svc.journaled rounds sql settings timeoutSecs s y).2.2.plain) := by
  simp only [querySession, InteractiveSession.waitForStart_plain]
  rcases s.waitForStart svc.journaled rounds (timeoutSecs * 1000) y with ⟨started, s', y'⟩
  match started with
  | none => rfl
  | some (.error f) => rfl
  | some (.ok false) => rfl
  | some (.ok true) => simp only [runStarted_plain]

theorem queried (svc : InstanceService σ) (rounds : Nat) (sql : String) (settings : Settings)
    (timeoutSecs : Nat) {s : InteractiveSession} (hphase : s.phase ≠ .notStarted)
    (y : Exchange (σ × List TaskEvent)) :
    ∃ events, (querySession svc.journaled rounds sql settings timeoutSecs s y).2.2.journal =
        y.journal ++ events ∧
      Course (Queried svc rounds sql settings timeoutSecs s y.plain) events
        (querySession svc.journaled rounds sql settings timeoutSecs s y).1 ∧
      (querySession svc.journaled rounds sql settings timeoutSecs s y).2.1.channel = s.channel ∧
      (querySession svc.journaled rounds sql settings timeoutSecs s y).2.1.stopped = s.stopped := by
  obtain ⟨waits, hwaits, hwatched⟩ :=
    InteractiveSession.waited svc rounds (timeoutSecs * 1000) hphase y
  have hwait := s.waitForStart_plain svc rounds (timeoutSecs * 1000) y
  rcases hstarted : s.waitForStart svc.journaled rounds (timeoutSecs * 1000) y
    with ⟨started, s', y'⟩
  rw [hstarted] at hwaits hwatched hwait
  have hlines := hwatched.lines
  match started with
  | none =>
    simp only [querySession, hstarted]
    exact ⟨waits, hwaits, ⟨hwatched.not_stops, by simp⟩, hwatched.same⟩
  | some (.error f) =>
    simp only [querySession, hstarted]
    refine ⟨waits, hwaits, ⟨hwatched.not_stops, ?_⟩, hwatched.same⟩
    rintro _ ⟨⟩
    exact ⟨.unstarted hwait hwatched, hlines.symm⟩
  | some (.ok false) =>
    simp only [querySession, hstarted]
    refine ⟨waits, hwaits, ⟨hwatched.not_stops, ?_⟩, hwatched.same⟩
    rintro _ ⟨⟩
    exact ⟨.late hwait hwatched, hlines.symm⟩
  | some (.ok true) =>
    obtain ⟨events, hevents, hcourse⟩ := answered svc rounds sql settings s' y'
    simp only [querySession, hstarted]
    refine ⟨waits ++ events, ?_, ⟨?_, ?_⟩, hwatched.same⟩
    · rw [hevents, hwaits, List.append_assoc]
    · exact List.forall_mem_append.mpr ⟨hwatched.not_stops, hcourse.unstopped⟩
    · intro r hr
      obtain ⟨⟨ending, hanswered, houtcome⟩, hprinted⟩ := hcourse.ended r hr
      rw [houtcome, hprinted, List.filterMap_append, hlines, List.nil_append]
      exact ⟨.started hwait hwatched hanswered, rfl⟩

end Console

end TableExchange
