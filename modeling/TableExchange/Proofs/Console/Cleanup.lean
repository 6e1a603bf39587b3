import TableExchange.Proofs.Console.ListingCourse
import TableExchange.Proofs.Console.QueryCourse
import TableExchange.Proofs.Interactive.Deadlines

/-!
How the console's commands clean up, on services that answer in any way. A query stops the session
that was created for it with its last request, and never one that it was attached to; a listing
releases its session after the last page. What fails in the command itself is what is reported, and
all that was delivered until then is printed.
-/
namespace TableExchange

namespace Console

variable {σ : Type}

/-- A run of a command: its requests, and its report, which is absent as long as it goes on. -/
structure CommandRun (ε : Type) where
  requests : List ε
  report : Option Report

/-- The failure of the command itself, else the one of cleaning up. -/
def firstFailure (own : Except CommandFailure Unit) (cleanup : Except Failure Unit) :
    Except CommandFailure Unit :=
  match own with
  | .error f => .error f
  | .ok () => cleanup.mapError .failure

theorem outcome_after (r : Report) (cleanup : Except Failure Unit) :
    (r.after cleanup).outcome = firstFailure r.outcome cleanup := by
  obtain ⟨printed, outcome⟩ := r
  cases outcome with
  | error f => rfl
  | ok done => cases cleanup <;> rfl

def watchQuery (c : Coordinator) (svc : InstanceService σ) (rounds : Nat) (sql : String)
    (name : Option String) (settings : Settings) (timeoutSecs : Nat) (x : Exchange σ) :
    CommandRun TaskEvent where
  requests := (runQuery c svc.journaled rounds sql name settings timeoutSecs
    (x.watched TaskEvent)).2.journal
  report := (runQuery c svc rounds sql name settings timeoutSecs x).1

/-- What follows on a query that ended: a session that was created for it is stopped by one last
request, and one that it was attached to is left alone. -/
inductive QueryCleanup (id : InstanceId) (own : Except CommandFailure Unit) :
    Option String → List TaskEvent → Except CommandFailure Unit → Prop
  | attached (name : String) : QueryCleanup id own (some name) [] own
  | created (answer : Except Failure Unit) :
      QueryCleanup id own none [.stopping id answer] (firstFailure own answer)

/-- A query that goes on: its wait for the start, which has no deadline or one that the clock can
hold, or the pulls of its results are not settled by so many rounds. -/
inductive GoesOn (svc : InstanceService σ) (rounds : Nat) (sql : String) (settings : Settings)
    (timeoutSecs : Nat) (s : InteractiveSession) (x : Exchange σ) : Prop
  | waiting {deadline : Option Nat}
      (hdeadline : deadline? x.now (timeoutSecs * 1000) = some deadline)
      (hwait : (settle (InteractiveSession.waitStep svc deadline) rounds (s, x)).1 = none)
  | pulling {s' : InteractiveSession} {q : QueryResults} {x' x₁ : Exchange σ}
      (hwait : s.waitForStart svc rounds (timeoutSecs * 1000) x = (some (.ok true), s', x'))
      (hrun : s'.run svc sql settings x' = (.ok q, x₁))
      (hpulls : (printResults svc rounds rounds [] q x₁).1 = none)

structure QueryKept (svc : InstanceService σ) (rounds : Nat) (sql : String) (name : Option String)
    (settings : Settings) (timeoutSecs : Nat) (s : InteractiveSession) (x : Exchange σ)
    (run : CommandRun TaskEvent) : Prop where
  /-- If the clock cannot hold the deadline for its start, then nothing is asked of the session,
  nothing stops it, and there is no report. -/
  stranded : timeoutSecs ≠ 0 → clockLimit ≤ x.now + timeoutSecs * 1000 → run.report = none ∧
    querySession svc rounds sql settings timeoutSecs s x = (none, s, x) ∧
    ∀ e ∈ run.requests, e.stops = false
  /-- Otherwise it goes on only as long as its query does, and nothing is stopped until then. -/
  unfinished : timeoutSecs = 0 ∨ x.now + timeoutSecs * 1000 < clockLimit → run.report = none →
    GoesOn svc rounds sql settings timeoutSecs s x ∧ ∀ e ∈ run.requests, e.stops = false
  /-- It ends with its cleanup, with the failure of its query before that of the cleanup, and the
  results that were delivered are printed. -/
  finished : ∀ r, run.report = some r → ∃ obtaining query cleanup own,
    run.requests = obtaining ++ query ++ cleanup ∧
    (∀ e ∈ obtaining ++ query, e.stops = false) ∧
    Queried svc rounds sql settings timeoutSecs s x query own ∧
    QueryCleanup s.channel.instanceId own name cleanup r.outcome ∧
    r.printed = run.requests.filterMap TaskEvent.line?

/-- The creation that a query command begins with. -/
def obtaining : Option String → CreationCall
  | some name => .attach name ∅ none none
  | none => .create {}

theorem obtainSession_eq (c : Coordinator) (svc : InstanceService σ) (rounds : Nat)
    (name : Option String) (x : Exchange σ) :
    obtainSession c svc rounds name x = (obtaining name).make c svc rounds x := by
  cases name <;> rfl

end Console

namespace Creation

theorem Made.not_stops {timeoutMs : Option Nat} {events : List TaskEvent}
    {answer : Option (Except Failure InteractiveSession)} (h : Made timeoutMs events answer) :
    ∀ e ∈ events, e.stops = false := by
  intro e he
  cases e with
  | stopping id a => exact absurd he (h.unstopped id a)
  | _ => rfl

theorem Made.lines {timeoutMs : Option Nat} {events : List TaskEvent}
    {answer : Option (Except Failure InteractiveSession)} (h : Made timeoutMs events answer) :
    events.filterMap TaskEvent.line? = [] := by
  cases h with
  | waited _ _ hwatched _ _ => exact hwatched.lines
  | _ => rfl

end Creation

/-- A session whose start was not waited for is starting. -/
theorem Coordinator.createInteractive_starting (c : Coordinator) (svc : InstanceService σ)
    (rounds : Nat) {o : InteractiveOptions} (ho : o.startTimeoutMs = none) {x : Exchange σ}
    {s : InteractiveSession} (h : (c.createInteractive svc rounds o x).1 = some (.ok s)) :
    s.phase = .starting ∧ s.stopped = false := by
  unfold createInteractive at h
  cases hvalid : o.validate with
  | error f => simp [hvalid] at h
  | ok valid =>
    rcases hask : x.ask (svc.createInstance (c.instanceRequest o)) with ⟨answer, x₁⟩
    cases answer with
    | error f => simp [hvalid, hask] at h
    | ok id =>
      rcases hview : x₁.ask (svc.logView id) with ⟨view, x₂⟩
      cases view with
      | error f => simp [hvalid, hask, hview] at h
      | ok view =>
        simp only [hvalid, hask, hview, ho, awaitStart] at h
        obtain rfl := Except.ok.inj (Option.some.inj h)
        exact ⟨rfl, rfl⟩

/-- A session that has not been stopped is stopped by one request. -/
theorem InteractiveSession.journal_stop (svc : InstanceService σ) {s : InteractiveSession}
    (h : s.stopped = false) (y : Exchange (σ × List TaskEvent)) :
    (s.stop svc.journaled y).2.2.journal =
      y.journal ++ [.stopping s.channel.instanceId (s.stop svc.journaled y).1] := by
  obtain ⟨events, hjournal, hmade⟩ := s.stopMade svc y
  rw [hjournal]
  generalize (s.stop svc.journaled y).1 = answer at hmade
  generalize (s.stop svc.journaled y).2.1 = s' at hmade
  cases hmade with
  | again hstopped => simp [h] at hstopped
  | refused _ => rfl
  | stopped _ => rfl

namespace Console

theorem obtainSession_plain (c : Coordinator) (svc : InstanceService σ) (rounds : Nat)
    (name : Option String) (y : Exchange (σ × List TaskEvent)) :
    obtainSession c svc rounds name y.plain =
      ((obtainSession c svc.journaled rounds name y).1,
        (obtainSession c svc.journaled rounds name y).2.plain) := by
  simp only [obtainSession_eq, CreationCall.make_plain]

theorem runQuery_plain (c : Coordinator) (svc : InstanceService σ) (rounds : Nat) (sql : String)
    (name : Option String) (settings : Settings) (timeoutSecs : Nat)
    (y : Exchange (σ × List TaskEvent)) :
    runQuery c svc rounds sql name settings timeoutSecs y.plain =
      ((runQuery c svc.journaled rounds sql name settings timeoutSecs y).1,
        (runQuery c svc.journaled rounds sql name settings timeoutSecs y).2.plain) := by
  simp only [runQuery, obtainSession_plain]
  rcases obtainSession c svc.journaled rounds name y with ⟨obtained, y₁⟩
  match obtained with
  | none => rfl
  | some (.error f) => rfl
  | some (.ok s) =>
    simp only [querySession_plain]
    rcases querySession svc.journaled rounds sql settings timeoutSecs s y₁ with ⟨report, s', y₂⟩
    cases report with
    | none => rfl
    | some r =>
      simp only [InteractiveSession.stop_plain]
      split <;> rfl

/-- A query begins on a session whose start was not waited for. -/
theorem starting_of_obtained (c : Coordinator) (svc : InstanceService σ) (rounds : Nat)
    (name : Option String) {x x₁ : Exchange σ} {s : InteractiveSession}
    (h : obtainSession c svc rounds name x = (some (.ok s), x₁)) :
    s.phase = .starting ∧ s.stopped = false := by
  cases name with
  | none => exact c.createInteractive_starting svc rounds rfl (congrArg Prod.fst h)
  | some n =>
    simp only [obtainSession, Coordinator.attachInteractive] at h
    cases hattach : InteractiveOptions.attach n ∅ none none with
    | error f => simp [hattach] at h
    | ok o =>
      have hunwaited := InteractiveOptions.startTimeoutMs_of_attach hattach
      simp only [hattach] at h
      exact c.createInteractive_starting svc rounds hunwaited (congrArg Prod.fst h)

/-- Nothing is stopped and nothing printed to obtain a session. -/
theorem obtained (c : Coordinator) (svc : InstanceService σ) (rounds : Nat) (name : Option String)
    {x x₁ : Exchange σ} {s : InteractiveSession}
    (h : obtainSession c svc rounds name x = (some (.ok s), x₁)) :
    ∃ y₁, obtainSession c svc.journaled rounds name (x.watched TaskEvent) = (some (.ok s), y₁) ∧
      y₁.plain = x₁ ∧ (∀ e ∈ y₁.journal, e.stops = false) ∧
      y₁.journal.filterMap TaskEvent.line? = [] := by
  have hmade := Creation.made c svc rounds (obtaining name) x
  have hplain := obtainSession_plain c svc rounds name (x.watched TaskEvent)
  have hevents : (Creation.of c svc rounds (obtaining name) x).events =
      (obtainSession c svc.journaled rounds name (x.watched TaskEvent)).2.journal := by
    rw [obtainSession_eq]
    rfl
  rw [Exchange.plain_watched, h] at hplain
  rw [hevents] at hmade
  obtain ⟨hanswer, hleft⟩ := Prod.mk.inj hplain
  exact ⟨_, Prod.ext hanswer.symm rfl, hleft.symm, hmade.not_stops, hmade.lines⟩

theorem querySession_of_unfit (svc : InstanceService σ) (rounds : Nat) (sql : String)
    (settings : Settings) {timeoutSecs : Nat} (s : InteractiveSession) {x : Exchange σ}
    (h0 : timeoutSecs ≠ 0) (h : clockLimit ≤ x.now + timeoutSecs * 1000) :
    querySession svc rounds sql settings timeoutSecs s x = (none, s, x) := by
  have hwait := s.waitForStart_of_unfit svc (Nat.mul_ne_zero h0 (by decide)) h rounds
  simp only [querySession, hwait]

/-- A query without a report goes on, if the clock can hold its deadline. -/
theorem goesOn_of_none {svc : InstanceService σ} {rounds : Nat} {sql : String} {settings : Settings}
    {timeoutSecs : Nat} {s : InteractiveSession} {x : Exchange σ}
    (hfit : timeoutSecs = 0 ∨ x.now + timeoutSecs * 1000 < clockLimit)
    (h : (querySession svc rounds sql settings timeoutSecs s x).1 = none) :
    GoesOn svc rounds sql settings timeoutSecs s x := by
  rcases hwait : s.waitForStart svc rounds (timeoutSecs * 1000) x with ⟨started, s', x'⟩
  match started with
  | none =>
    have hfit : timeoutSecs * 1000 = 0 ∨ x.now + timeoutSecs * 1000 < clockLimit :=
      hfit.imp_left fun h0 => by rw [h0, Nat.zero_mul]
    obtain ⟨deadline, hdeadline⟩ := exists_deadline hfit
    have hsettled := congrArg Prod.fst hwait
    simp only [InteractiveSession.waitForStart, hdeadline] at hsettled
    exact .waiting hdeadline hsettled
  | some (.error f) => simp [querySession, hwait] at h
  | some (.ok false) => simp [querySession, hwait] at h
  | some (.ok true) =>
    simp only [querySession, hwait, runStarted] at h
    rcases hrun : s'.run svc sql settings x' with ⟨submitted, x₁⟩
    cases submitted with
    | error f => simp [hrun] at h
    | ok q =>
      rcases hprint : printResults svc rounds rounds [] q x₁ with ⟨report, x₂⟩
      cases report with
      | none => exact .pulling hwait hrun (congrArg Prod.fst hprint)
      | some r => simp [hrun, hprint] at h

theorem query_kept (c : Coordinator) (svc : InstanceService σ) (rounds : Nat) (sql : String)
    (name : Option String) (settings : Settings) (timeoutSecs : Nat) {x x₁ : Exchange σ}
    {s : InteractiveSession} (h : obtainSession c svc rounds name x = (some (.ok s), x₁)) :
    QueryKept svc rounds sql name settings timeoutSecs s x₁
      (watchQuery c svc rounds sql name settings timeoutSecs x) := by
  obtain ⟨hphase, hopen⟩ := starting_of_obtained c svc rounds name h
  obtain ⟨y₁, hobtained, rfl, hquiet, hunprinted⟩ := obtained c svc rounds name h
  have hbegun : s.phase ≠ .notStarted := by simp [hphase]
  obtain ⟨events, hevents, hcourse, hchannel, hstopped⟩ :=
    queried svc rounds sql settings timeoutSecs hbegun y₁
  have hplain := runQuery_plain c svc rounds sql name settings timeoutSecs (x.watched TaskEvent)
  have hquery := querySession_plain svc rounds sql settings timeoutSecs s y₁
  rw [Exchange.plain_watched] at hplain
  simp only [watchQuery, hplain]
  rcases hrun : querySession svc.journaled rounds sql settings timeoutSecs s y₁
    with ⟨report, s', y₂⟩
  rw [hrun] at hevents hcourse hchannel hstopped hquery
  have hearlier := List.forall_mem_append.mpr ⟨hquiet, hcourse.unstopped⟩
  cases report with
  | none =>
    simp only [runQuery, hobtained, hrun]
    rw [← hevents] at hearlier
    have hunended := congrArg Prod.fst hquery
    exact ⟨fun h0 hunfit => ⟨rfl, querySession_of_unfit svc rounds sql settings s h0 hunfit,
      hearlier⟩, fun hfit _ => ⟨goesOn_of_none hfit hunended, hearlier⟩, by simp⟩
  | some r =>
    obtain ⟨hqueried, hprinted⟩ := hcourse.ended r rfl
    have hfit : timeoutSecs ≠ 0 → ¬clockLimit ≤ y₁.plain.now + timeoutSecs * 1000 := by
      intro h0 hunfit
      rw [querySession_of_unfit svc rounds sql settings s h0 hunfit] at hquery
      simp at hquery
    cases name with
    | some n =>
      simp only [runQuery, hobtained, hrun, Option.isSome_some, if_true]
      refine ⟨fun h0 hunfit => absurd hunfit (hfit h0), by simp, ?_⟩
      rintro _ ⟨⟩
      refine ⟨y₁.journal, events, [], r.outcome, ?_, hearlier, hqueried, .attached n, ?_⟩
      · rw [List.append_nil]
        exact hevents
      · rw [hevents, List.filterMap_append, hunprinted]
        exact hprinted
    | none =>
      -- The query has left the session open, so the stop does ask.
      have hstop := InteractiveSession.journal_stop svc (hstopped.trans hopen) y₂
      rw [hevents, hchannel] at hstop
      simp only [runQuery, hobtained, hrun, Option.isSome_none, Bool.false_eq_true, if_false]
      refine ⟨fun h0 hunfit => absurd hunfit (hfit h0), by simp, ?_⟩
      rintro _ ⟨⟩
      refine ⟨y₁.journal, events, _, r.outcome, hstop, hearlier, hqueried, ?_, ?_⟩
      · rw [outcome_after]
        exact .created _
      · rw [hstop, printed_after, List.filterMap_append, List.filterMap_append, hunprinted]
        rw [List.filterMap_cons_none rfl, List.filterMap_nil, List.append_nil]
        exact hprinted

def watchSplits (c : Coordinator) (svc : ReadService σ) (rounds : Nat) (table : String)
    (pageSize : Option UInt32) (x : Exchange σ) : CommandRun ReadEvent where
  requests := (listSplits c svc.recorded rounds table pageSize (x.watched ReadEvent)).2.journal
  report := (listSplits c svc rounds table pageSize x).1

/-- What a listing command keeps to that created its session with a request and then pulled the
splits `pulled`. -/
structure ListingKept (session : TableSession) (creation : ReadEvent) (pulled : Drain)
    (run : CommandRun ReadEvent) : Prop where
  /-- It goes on only as long as its pulls do, and nothing is released until then. -/
  unfinished : run.report = none →
    pulled.ending = none ∧ ∀ e ∈ run.requests, e.releases = false
  /-- It releases its session once, after the last page; the failure of a pull goes before that of
  the release, and all that was handed out is printed. -/
  finished : ∀ r, run.report = some r → ∃ ending released,
    pulled.ending = some ending ∧
    run.requests = creation :: pulled.fetches.map .paging ++ [.releasing session released] ∧
    r.outcome = firstFailure (ending.mapError .failure) released ∧
    r.printed = pulled.handed.map splitLine ∧
    pulled.handed = (accepted pulled.fetches).flatMap (·.splits)

theorem watchSplits_eq (c : Coordinator) (svc : ReadService σ) (rounds : Nat) (table : String)
    (pageSize : Option UInt32) (x : Exchange σ) : watchSplits c svc rounds table pageSize x =
      ⟨(listSplits c svc.recorded rounds table pageSize (x.watched ReadEvent)).2.journal,
        (listSplits c svc.recorded rounds table pageSize (x.watched ReadEvent)).1⟩ := by
  have hplain := listSplits_plain c svc rounds table pageSize (x.watched ReadEvent)
  rw [Exchange.plain_watched] at hplain
  rw [watchSplits, hplain]

theorem listing_kept (c : Coordinator) (svc : ReadService σ) (rounds : Nat) (table : String)
    (pageSize : Option UInt32) {x x₁ : Exchange σ} {s : ReadSession}
    (h : Coordinator.createRead svc (c.table table) { pageSize } x = (.ok s, x₁)) :
    ListingKept s.snapshot (.creating (c.table table) { pageSize } (.ok s.snapshot))
      (s.listing.watchDrain svc rounds rounds x₁) (watchSplits c svc rounds table pageSize x) := by
  obtain ⟨hopen, y₁, hcreated, rfl, hjournal⟩ := Coordinator.createRead_recorded svc _ _ h
  obtain ⟨l, hdrained⟩ := Listing.drained_watchDrain svc s.snapshot s.scope rounds rounds y₁.plain
  obtain ⟨l', y₂, hrun, hpaged⟩ := s.listing.drain_recorded svc rounds rounds y₁
  rw [hjournal] at hpaged
  rw [watchSplits_eq]
  simp only [listSplits, hcreated, printSplits_eq, hrun]
  have hearlier : ∀ e ∈ y₂.journal, e.releases = false := by
    rw [hpaged]
    simp [ReadEvent.releases]
  cases hending : (s.listing.watchDrain svc rounds rounds y₁.plain).ending with
  | none =>
    simp only [Option.map_none]
    exact ⟨fun _ => ⟨hending, hearlier⟩, by simp⟩
  | some ending =>
    have hstop := ReadSession.journal_stop svc hopen y₂
    have hcomplete := Listing.Drained.complete (hending ▸ hdrained)
    simp only [Option.map_some]
    refine ⟨by simp, ?_⟩
    rintro _ ⟨⟩
    refine ⟨ending, _, hending, ?_, outcome_after _ _, ?_, hcomplete⟩
    · rw [hstop, hpaged]
      rfl
    · rw [printed_after]
      rfl

/-- Once they have their session, both commands clean up after themselves and report their own
failure first, however the services answer and whenever a signal comes. Only a query whose start has
a deadline that the clock cannot hold leaves its session as it is. -/
theorem commands_clean_up {τ : Type} (c : Coordinator) (rounds : Nat)
    (instances : InstanceService σ) (sql : String) (name : Option String) (settings : Settings)
    (timeoutSecs : Nat) (x : Exchange σ) (reads : ReadService τ) (table : String)
    (pageSize : Option UInt32) (z : Exchange τ) :
    (∀ s x₁, obtainSession c instances rounds name x = (some (.ok s), x₁) →
      QueryKept instances rounds sql name settings timeoutSecs s x₁
        (watchQuery c instances rounds sql name settings timeoutSecs x)) ∧
    ∀ s z₁, Coordinator.createRead reads (c.table table) { pageSize } z = (.ok s, z₁) →
      ListingKept s.snapshot (.creating (c.table table) { pageSize } (.ok s.snapshot))
        (s.listing.watchDrain reads rounds rounds z₁)
        (watchSplits c reads rounds table pageSize z) :=
  ⟨fun _ _ h => query_kept c instances rounds sql name settings timeoutSecs h,
    fun _ _ h => listing_kept c reads rounds table pageSize h⟩

/-- A service that plays back answers and cannot stop its instance. -/
def unstoppable : InstanceService (List (Except Failure (Option String))) :=
  { InstanceService.taped with
    stopInstance := fun _ tape => (.error (.of .requestFailed "not stopped" (some "stop")), tape) }

/-- A session that starts, delivers a result and an empty one, and then fails. -/
def brokenResults : Exchange (List (Except Failure (Option String))) :=
  { service :=
      [.ok (some "\x7b\"status\": 2, \"result\": \"up\"\x7d"),
        .ok (some "\x7b\"status\": 2, \"result\": \"row\"\x7d"),
        .ok (some "\x7b\"status\": 2, \"result\": \"\"\x7d"),
        .error (.of .requestFailed "no result" (some "pull"))] }

/-- A service that plays back pages and cannot release its session. -/
def unreleasable : ReadService (List (Except Failure SplitPage)) :=
  { ReadService.taped with
    createRead := fun _ _ tape => (.ok tapedSession, tape)
    release := fun _ tape => (.error (.of .requestFailed "not released" (some "release")), tape) }

def twoPages : Exchange (List (Except Failure SplitPage)) :=
  { service := [.ok ⟨[⟨"a", "1"⟩], some ⟨"m"⟩, none⟩, .ok ⟨[⟨"b", "2"⟩], none, none⟩] }

/-- A query that fails goes before its stop that fails too; a listing that ends well fails with its
release. -/
theorem commands_clean_up_when_cleanup_fails :
    let query := watchQuery { project := "p" } unstoppable 6 "SELECT 1" none ∅ 10 brokenResults
    let listing := watchSplits { project := "p" } unreleasable 6 "t" none twoPages
    (∃ s x₁, obtainSession { project := "p" } unstoppable 6 none brokenResults =
        (some (.ok s), x₁) ∧
      QueryKept unstoppable 6 "SELECT 1" none ∅ 10 s x₁ query) ∧
    query.report.map (·.printed) = some ["row"] ∧
    query.report.map (·.outcome.mapError CommandFailure.detail) = some (.error (some "pull")) ∧
    query.requests.map (·.stops) = [false, false, false, false, false, false, false, true] ∧
    (∃ s z₁, Coordinator.createRead unreleasable ⟨"p", "default", "t"⟩ {} twoPages = (.ok s, z₁) ∧
      ListingKept s.snapshot (.creating ⟨"p", "default", "t"⟩ {} (.ok s.snapshot))
        (s.listing.watchDrain unreleasable 6 6 z₁) listing) ∧
    listing.report.map (·.printed) = some ["a\t1", "b\t2"] ∧
    listing.report.map (·.outcome.mapError CommandFailure.detail) =
      some (.error (some "release")) ∧
    listing.requests.map (·.releases) = [false, false, false, true] := by
  have hkept := commands_clean_up { project := "p" } 6 unstoppable "SELECT 1" none ∅ 10
    brokenResults unreleasable "t" none twoPages
  refine ⟨⟨_, _, rfl, hkept.1 _ _ rfl⟩, ?_, ?_, ?_, ⟨_, _, rfl, hkept.2 _ _ rfl⟩, ?_, ?_, ?_⟩
  all_goals decide +kernel

/-- Which requests of a query stop its instance, with a start timeout of some seconds, on a session
that runs at once. -/
def promptStops (rounds timeoutSecs : Nat) : List Bool :=
  let query := watchQuery { project := "p" } .taped rounds "SELECT 1" none ∅ timeoutSecs
    { service := promptAnswers }
  query.requests.map (·.stops)

/-- A query on a session that runs at once stops it at its end, but with the longest timeout that a
caller can give the session is created and never stopped. -/
theorem longest_timeout_leaves_session :
    (∃ s x₁, obtainSession { project := "p" } .taped 2 none { service := promptAnswers } =
      (some (.ok s), x₁)) ∧
    promptStops 2 0 = [false, false, false, false, false, false, true] ∧
    ∀ rounds, promptStops rounds 18446744073709551615 = [false, false] :=
  ⟨⟨_, _, rfl⟩, by decide +kernel, fun _ => rfl⟩

end Console

end TableExchange
