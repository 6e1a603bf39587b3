import TableExchange.Proofs.Interactive.ResultPulls

/-!
The sequence of a query's results over any number of pulls, each of which finds its own
surroundings. What is delivered is what was read with a status, up to the first payload whose status
is not running; failed pulls lose nothing, and after the end nothing is asked.
-/
namespace TableExchange

variable {σ : Type}

/-- A pull: what it found, the requests it made, its answer, and what it left. A pull that is
pending after its rounds is taken up again by the next one. -/
structure ResultPull (σ : Type) where
  rounds : Nat
  before : QueryResults
  found : Exchange σ
  events : List TaskEvent
  answer : Option (Except Failure (Option TaskPayload))
  after : QueryResults
  left : Exchange σ

namespace ResultPull

def payloads : Option (Except Failure (Option TaskPayload)) → List TaskPayload
  | some (.ok (some payload)) => [payload]
  | _ => []

def delivered (pulls : List (ResultPull σ)) : List TaskPayload :=
  pulls.flatMap fun p => payloads p.answer

/-- The payloads with a status that requests brought, in their order. -/
def carried (events : List TaskEvent) : List TaskPayload :=
  events.filterMap TaskEvent.carried

/-- Some pull read a final payload: one with a status other than running. -/
def Ended (pulls : List (ResultPull σ)) : Prop :=
  ∃ p ∈ pulls, ∃ payload ∈ carried p.events, payload.status ≠ some .running

@[simp] theorem carried_append (events later : List TaskEvent) :
    carried (events ++ later) = carried events ++ carried later :=
  List.filterMap_append

@[simp] theorem delivered_concat (pulls : List (ResultPull σ)) (p : ResultPull σ) :
    delivered (pulls ++ [p]) = delivered pulls ++ payloads p.answer := by
  simp [delivered]

theorem ended_concat (pulls : List (ResultPull σ)) (p : ResultPull σ) :
    Ended (pulls ++ [p]) ↔
      Ended pulls ∨ ∃ payload ∈ carried p.events, payload.status ≠ some .running :=
  exists_mem_concat

end ResultPull

namespace QueryResults

open ResultPull

section Round

variable {svc : InstanceService σ} {q q' : QueryResults} {x x' : Exchange σ}
  {events : List TaskEvent} {answer : Option (Except Failure (Option TaskPayload))}

theorem Round.reads (h : Round svc q x events answer q' x') :
    ∃ first rest, events = q.channel.reading TaskChannel.resultKey first :: rest := by
  cases h <;> exact ⟨_, _, rfl⟩

theorem Round.delivers (h : Round svc q x events answer q' x') :
    payloads answer = carried events := by
  cases h with
  | unread hread => simp [carried, payloads, TaskChannel.carried_unread hread]
  | delivered hread hstatus => simp [carried, payloads, TaskChannel.carried_status hread hstatus]
  | halted hsilent hcheck =>
    simp [carried, payloads, TaskChannel.carried_silent hsilent, hcheck.carried]
  | interrupted hsilent hcheck hsleep =>
    simp [carried, payloads, TaskChannel.carried_silent hsilent, hcheck.carried]
  | idle hsilent halive hsleep =>
    simp [carried, payloads, TaskChannel.carried_silent hsilent]

theorem Round.terminated_iff (h : Round svc q x events answer q' x')
    (hopen : q.terminated = false) :
    q'.terminated = true ↔ ∃ payload ∈ carried events, payload.status ≠ some .running := by
  rw [← h.delivers]
  cases h with
  | delivered hread hstatus => simp [payloads, QueryResults.delivered, hstatus]
  | _ => simp [payloads, hopen]

/-- The service failed, a text could not be read, the task has ended, or a signal came. -/
theorem Round.fails {f : Failure} (h : Round svc q x events (some (.error f)) q' x') :
    (∃ e ∈ events, e.failure = some f) ∨
      f.kind ∈ [.interrupted, .sessionFailed, .deserialization] := by
  cases h with
  | unread hread =>
    rcases TaskChannel.meaning_error (c := q.channel) hread with hfailure | hkind
    · exact .inl ⟨_, List.mem_singleton_self _, hfailure⟩
    · exact .inr (by simp [hkind])
  | halted hsilent hcheck =>
    rcases hcheck.fails with ⟨e, he, hfailure⟩ | hkind
    · exact .inl ⟨e, List.mem_cons_of_mem _ he, hfailure⟩
    · exact .inr (by simp [hkind])
  | interrupted hsilent hcheck hsleep => exact .inr (.head _)

theorem Round.same (h : Round svc q x events answer q' x') :
    q'.channel = q.channel ∧ q'.pollMs = q.pollMs := by
  cases h <;> exact ⟨rfl, rfl⟩

end Round

section Pulled

variable {svc : InstanceService σ} {rounds : Nat} {q q' : QueryResults} {x x' : Exchange σ}
  {events : List TaskEvent} {answer : Option (Except Failure (Option TaskPayload))}

/-- A pull after the end asks for nothing. -/
theorem Pulled.of_finished (h : Pulled svc rounds q x events answer q' x')
    (hover : q.terminated = true) :
    events = [] ∧ answer = some (.ok none) ∧ q' = q ∧ x' = x := by
  cases h with
  | finished _ => exact ⟨rfl, rfl, rfl, rfl⟩
  | pending hopen => simp [hover] at hopen
  | last hopen _ => simp [hover] at hopen
  | more hopen _ _ => simp [hover] at hopen

/-- A pull before the end starts with a read, and it delivers what it read with a status. -/
theorem Pulled.of_open (h : Pulled svc rounds q x events answer q' x')
    (hopen : q.terminated = false) :
    payloads answer = carried events ∧ answer ≠ some (.ok none) ∧
      (q'.terminated = true ↔ ∃ payload ∈ carried events, payload.status ≠ some .running) := by
  induction h with
  | finished hover => simp [hover] at hopen
  | pending _ => simp [payloads, carried, hopen]
  | last _ hround =>
    refine ⟨hround.delivers, ?_, hround.terminated_iff hopen⟩
    cases hround <;> simp
  | more _ hround _ ih =>
    have hnone : carried _ = [] := hround.delivers.symm
    obtain ⟨hdelivers, hanswer, hterminated⟩ := ih hopen
    rw [carried_append, hnone, List.nil_append]
    exact ⟨hdelivers, hanswer, hterminated⟩

theorem Pulled.reads (h : Pulled svc rounds q x events answer q' x')
    (hopen : q.terminated = false) (hrounds : rounds ≠ 0) :
    ∃ first rest, events = q.channel.reading TaskChannel.resultKey first :: rest := by
  cases h with
  | finished hover => simp [hover] at hopen
  | pending _ => contradiction
  | last _ hround => exact hround.reads
  | more _ hround _ =>
    obtain ⟨first, rest, rfl⟩ := hround.reads
    exact ⟨first, _, rfl⟩

theorem Pulled.fails {f : Failure} (h : Pulled svc rounds q x events answer q' x')
    (hanswer : answer = some (.error f)) :
    (∃ e ∈ events, e.failure = some f) ∨
      f.kind ∈ [.interrupted, .sessionFailed, .deserialization] := by
  induction h with
  | finished _ => simp at hanswer
  | pending _ => simp at hanswer
  | last _ hround =>
    rw [hanswer] at hround
    exact hround.fails
  | more _ hround _ ih =>
    rcases ih hanswer with ⟨e, he, hfailure⟩ | hkind
    · exact .inl ⟨e, List.mem_append_right _ he, hfailure⟩
    · exact .inr hkind

theorem Pulled.same (h : Pulled svc rounds q x events answer q' x') :
    q'.channel = q.channel ∧ q'.pollMs = q.pollMs := by
  induction h with
  | finished _ => exact ⟨rfl, rfl⟩
  | pending _ => exact ⟨rfl, rfl⟩
  | last _ hround => exact hround.same
  | more _ _ _ ih => exact ih

end Pulled

/-- A pull of at most `rounds` reads, with the requests it makes. -/
def watch (svc : InstanceService σ) (rounds : Nat) (q : QueryResults) (x : Exchange σ) :
    ResultPull σ where
  rounds := rounds
  before := q
  found := x
  events := (q.next svc.journaled rounds (x.watched TaskEvent)).2.2.journal
  answer := (q.next svc rounds x).1
  after := (q.next svc rounds x).2.1
  left := (q.next svc rounds x).2.2

theorem watch_pulled (svc : InstanceService σ) (rounds : Nat) (q : QueryResults) (x : Exchange σ) :
    Pulled svc rounds q x (q.watch svc rounds x).events (q.watch svc rounds x).answer
      (q.watch svc rounds x).after (q.watch svc rounds x).left := by
  obtain ⟨events, hjournal, h⟩ := pulled svc rounds q (x.watched TaskEvent)
  have hplain := q.next_plain svc rounds (x.watched TaskEvent)
  rw [Exchange.plain_watched] at h hplain
  rw [Exchange.journal_watched, List.nil_append] at hjournal
  simp only [watch, hjournal, hplain]
  exact h

end QueryResults

structure QueryHistory (σ : Type) where
  pulls : List (ResultPull σ)
  results : QueryResults

namespace QueryHistory

open ResultPull

/-- Pulls once more, in the surroundings that the pull finds. -/
def pull (svc : InstanceService σ) (h : QueryHistory σ) (call : Nat × Exchange σ) :
    QueryHistory σ :=
  let p := h.results.watch svc call.1 call.2
  ⟨h.pulls ++ [p], p.after⟩

def run (svc : InstanceService σ) (h : QueryHistory σ) (calls : List (Nat × Exchange σ)) :
    QueryHistory σ :=
  calls.foldl (pull svc) h

def leftBy (query : QueryResults) (pulls : List (ResultPull σ)) : QueryResults :=
  (pulls.getLast?.map (·.after)).getD query

structure Keeps (svc : InstanceService σ) (query : QueryResults) (before : List (ResultPull σ))
    (p : ResultPull σ) : Prop where
  /-- It goes on from what the one before it left, on the channel and with the poll interval of the
  query. -/
  goesOn : p.before = leftBy query before
  same : p.before.channel = query.channel ∧ p.before.pollMs = query.pollMs
  /-- Between two of its reads there is one check of the living task and one whole interval. -/
  pulled : QueryResults.Pulled svc p.rounds p.before p.found p.events p.answer p.after p.left
  /-- It delivers what it read with a status, and nothing else. -/
  delivers : payloads p.answer = carried p.events
  /-- It fails with a failure of the service, or with one of three kinds. -/
  fails : ∀ f, p.answer = some (.error f) → (∃ e ∈ p.events, e.failure = some f) ∨
    f.kind ∈ [.interrupted, .sessionFailed, .deserialization]
  /-- As long as no final payload was read, also after failures, it starts with a read. -/
  resumes : ¬Ended before → p.rounds ≠ 0 →
    ∃ first rest, p.events = query.channel.reading TaskChannel.resultKey first :: rest
  /-- After the final payload it tells the end, asks for nothing and leaves all alone. -/
  ends : Ended before → p.events = [] ∧ p.answer = some (.ok none) ∧ p.left = p.found
  tells : p.answer = some (.ok none) → Ended before

def RunningToLast (payloads : List TaskPayload) : Prop :=
  AtEach (fun before _ => ∀ payload ∈ before, payload.status = some .running) payloads

structure Faithful (svc : InstanceService σ) (query : QueryResults) (pulls : List (ResultPull σ)) :
    Prop where
  each : AtEach (Keeps svc query) pulls
  /-- The delivered payloads are all that were read with a status, each in its pull. -/
  delivered : delivered pulls = carried (pulls.flatMap (·.events))
  runningToLast : RunningToLast (ResultPull.delivered pulls)

structure Tracked (svc : InstanceService σ) (query : QueryResults) (h : QueryHistory σ) :
    Prop where
  faithful : Faithful svc query h.pulls
  current : h.results = leftBy query h.pulls
  same : h.results.channel = query.channel ∧ h.results.pollMs = query.pollMs
  terminated : h.results.terminated = true ↔ Ended h.pulls

theorem tracked_start (svc : InstanceService σ) {query : QueryResults}
    (hopen : query.terminated = false) : Tracked svc query ⟨[], query⟩ where
  faithful := ⟨atEach_nil _, rfl, atEach_nil _⟩
  current := rfl
  same := ⟨rfl, rfl⟩
  terminated := by simp [hopen, Ended]

variable {svc : InstanceService σ} {query : QueryResults} {h : QueryHistory σ}

theorem Tracked.open_iff (ht : Tracked svc query h) :
    h.results.terminated = false ↔ ¬Ended h.pulls := by
  rw [← ht.terminated, Bool.not_eq_true]

/-- Before the end every delivered payload is running. -/
theorem Tracked.running (ht : Tracked svc query h) (hopen : h.results.terminated = false) :
    ∀ payload ∈ ResultPull.delivered h.pulls, payload.status = some .running := by
  intro payload hmem
  rw [ht.faithful.delivered] at hmem
  obtain ⟨e, he, hcarried⟩ := List.mem_filterMap.mp hmem
  obtain ⟨p, hp, he⟩ := List.mem_flatMap.mp he
  by_cases hrunning : payload.status = some .running
  · exact hrunning
  · have hpayload : payload ∈ carried p.events := List.mem_filterMap.mpr ⟨e, he, hcarried⟩
    exact absurd ⟨p, hp, payload, hpayload, hrunning⟩ (ht.open_iff.mp hopen)

theorem Tracked.keeps (ht : Tracked svc query h) (rounds : Nat) (x : Exchange σ) :
    Keeps svc query h.pulls (h.results.watch svc rounds x) := by
  have hp := h.results.watch_pulled svc rounds x
  cases hover : h.results.terminated with
  | true =>
    have hended := ht.terminated.mp hover
    obtain ⟨hevents, hanswer, -, hleft⟩ := hp.of_finished hover
    refine ⟨ht.current, ht.same, hp, ?_, fun _ => hp.fails, fun hopen => absurd hended hopen,
      fun _ => ⟨hevents, hanswer, hleft⟩, fun _ => hended⟩
    rw [hevents, hanswer]
    rfl
  | false =>
    have hopen := ht.open_iff.mp hover
    obtain ⟨hdelivers, hanswer, -⟩ := hp.of_open hover
    refine ⟨ht.current, ht.same, hp, hdelivers, fun _ => hp.fails, ?_,
      fun hended => absurd hended hopen, fun hend => absurd hend hanswer⟩
    intro _ hrounds
    rw [← ht.same.1]
    exact hp.reads hover hrounds

/-- A pull that delivers a payload does so before the end, so all earlier ones are running. -/
theorem Tracked.runningToLast (ht : Tracked svc query h) (rounds : Nat) (x : Exchange σ) :
    RunningToLast (ResultPull.delivered (h.pulls ++ [h.results.watch svc rounds x])) := by
  have hkept := ht.faithful.runningToLast
  rw [delivered_concat]
  match hanswer : (h.results.watch svc rounds x).answer with
  | some (.ok (some payload)) =>
    cases hover : h.results.terminated with
    | true =>
      have hend := ((h.results.watch_pulled svc rounds x).of_finished hover).2.1
      simp [hanswer] at hend
    | false => exact atEach_concat.mpr ⟨hkept, ht.running hover⟩
  | some (.ok none) => simpa [payloads] using hkept
  | some (.error f) => simpa [payloads] using hkept
  | none => simpa [payloads] using hkept

theorem Tracked.pull (ht : Tracked svc query h) (call : Nat × Exchange σ) :
    Tracked svc query (h.pull svc call) := by
  obtain ⟨rounds, x⟩ := call
  have hkeeps := ht.keeps rounds x
  have hp := h.results.watch_pulled svc rounds x
  refine ⟨⟨atEach_concat.mpr ⟨ht.faithful.each, hkeeps⟩, ?_, ht.runningToLast rounds x⟩, ?_, ?_, ?_⟩
  · simp [QueryHistory.pull, ht.faithful.delivered, hkeeps.delivers]
  · simp [QueryHistory.pull, leftBy]
  · exact ⟨hp.same.1.trans ht.same.1, hp.same.2.trans ht.same.2⟩
  · simp only [QueryHistory.pull]
    rw [ended_concat, ← ht.terminated]
    cases hover : h.results.terminated with
    | true =>
      obtain ⟨-, -, hafter, -⟩ := hp.of_finished hover
      simp [hafter, hover]
    | false => simpa using (hp.of_open hover).2.2

theorem Tracked.run (ht : Tracked svc query h) (calls : List (Nat × Exchange σ)) :
    Tracked svc query (h.run svc calls) := by
  induction calls generalizing h with
  | nil => exact ht
  | cons call rest ih => exact ih (ht.pull call)

end QueryHistory

/-- The pulls on the results of a query are faithful, whatever the service answers and whenever a
signal comes. -/
theorem result_pulls_faithful (svc : InstanceService σ) (channel : TaskChannel) (pollMs : Nat)
    (receiver : Shutdown.Receiver) (calls : List (Nat × Exchange σ)) :
    QueryHistory.Faithful svc ⟨channel, pollMs, receiver, false⟩
      (QueryHistory.run svc ⟨[], ⟨channel, pollMs, receiver, false⟩⟩ calls).pulls :=
  ((QueryHistory.tracked_start svc rfl).run calls).faithful

/-- A signal and a fault between two payloads lose neither, and no pull reads past the second. -/
example :
    let query : QueryResults := ⟨⟨⟨"p", "i"⟩, "task"⟩, 3000, ⟨0⟩, false⟩
    let partly := "\x7b\"status\": 2, \"result\": \"partly\"\x7d"
    let all := "\x7b\"status\": 5, \"result\": \"all\"\x7d"
    let pulls := (QueryHistory.run .taped ⟨[], query⟩
      [(3, { service := [.ok none, .ok (some ""), .ok (some partly)] }),
        (3, { service := [.ok none, .ok (some all)], alarms := [10] }),
        (3, { service := [.error (.of .requestFailed "down"), .ok (some all)] }),
        (3, { service := [.ok (some all), .ok (some partly)] }),
        (3, { service := [.ok (some partly)] })]).pulls
    (ResultPull.delivered pulls).map (·.result) = [some "partly", some "all"] ∧
      pulls.map (·.events.length) = [5, 2, 1, 1, 0] := by
  decide +kernel

end TableExchange
