import TableExchange.Interactive.StartWait
import TableExchange.Proofs.Interactive.TaskJournal
import TableExchange.Proofs.Json.Shipping

/-!
What the calls on a session that ask about its start can do: one inversion for a read of the status,
one for a single question, one for a round of a wait, and one for any number of reads in a row.
Keeping a journal changes no answer.
-/
namespace TableExchange

variable {σ : Type}

def TaskEvent.stops : TaskEvent → Bool
  | stopping _ _ => true
  | _ => false

namespace TaskChannel

/-- The requests end with a read of a status payload with the given code. -/
def Reported (c : TaskChannel) (code : Int32) (events : List TaskEvent) : Prop :=
  ∃ earlier answer payload, events = earlier ++ [c.reading statusKey answer] ∧
    meaning statusKey answer = .ok (some payload) ∧ payload.status.map (·.code) = some code

/-- The requests end with a read that brought no status, a check that found the task at its end, and
the task's result. -/
def FoundEnded (c : TaskChannel) (events : List TaskEvent) : Prop :=
  ∃ earlier answer state result,
    events = earlier ++
      [c.reading statusKey answer, c.checking (.ok (some state)), c.explaining (.ok result)] ∧
    Silent statusKey answer ∧ state.isTerminal = true

theorem Reported.append {c : TaskChannel} {code : Int32} {events : List TaskEvent}
    (h : c.Reported code events) (earlier : List TaskEvent) :
    c.Reported code (earlier ++ events) := by
  obtain ⟨first, answer, payload, rfl, hmeaning, hcode⟩ := h
  exact ⟨earlier ++ first, answer, payload, (List.append_assoc ..).symm, hmeaning, hcode⟩

theorem FoundEnded.append {c : TaskChannel} {events : List TaskEvent} (h : c.FoundEnded events)
    (earlier : List TaskEvent) : c.FoundEnded (earlier ++ events) := by
  obtain ⟨first, answer, state, result, rfl, hsilent, hended⟩ := h
  exact ⟨earlier ++ first, answer, state, result, (List.append_assoc ..).symm, hsilent, hended⟩

/-- A check that blames the session, where the service itself does not, has found the task at its
end. -/
theorem Checked.foundEnded {c : TaskChannel} {checks : List TaskEvent} {f : Failure}
    {answer : Except Failure (Option String)} (h : c.Checked checks (.error f))
    (hsilent : Silent statusKey answer) (hkind : f.kind = .sessionFailed)
    (hservice : ∀ e ∈ checks, ∀ g, e.failure = some g → g.kind ≠ .sessionFailed) :
    c.FoundEnded (c.reading statusKey answer :: checks) := by
  cases h with
  | unchecked => exact absurd hkind (hservice _ (List.mem_singleton_self _) f rfl)
  | unexplained hended =>
    exact absurd hkind (hservice _ (List.mem_cons_of_mem _ (List.mem_singleton_self _)) f rfl)
  | dead hended => exact ⟨[], answer, _, _, rfl, hsilent, hended⟩

/-- A status that was read is canonical. -/
theorem canonical_of_meaning {key : String} {answer : Except Failure (Option String)}
    {payload : TaskPayload} (h : meaning key answer = .ok (some payload)) : payload.Canonical := by
  match answer with
  | .error f => simp [meaning] at h
  | .ok none => simp [meaning, decode] at h
  | .ok (some text) =>
    simp only [meaning, decode] at h
    split at h
    · simp at h
    · split at h
      · next found hfound =>
        obtain rfl : found = payload := by simpa using h
        obtain ⟨j, -, hj⟩ := Option.bind_eq_some_iff.mp hfound
        exact TaskPayload.inverts.meant hj
      · simp at h

/-- A read that stands alone is the one that reports. -/
theorem Reported.of_singleton {c : TaskChannel} {code : Int32}
    {answer : Except Failure (Option String)} (h : c.Reported code [c.reading statusKey answer]) :
    ∃ payload, meaning statusKey answer = .ok (some payload) ∧
      payload.status.map (·.code) = some code := by
  obtain ⟨earlier, answer', payload, hlast, hmeaning, hcode⟩ := h
  obtain ⟨-, hsame⟩ := List.append_inj' (show [] ++ [_] = _ from hlast) rfl
  obtain rfl : answer = answer' := by simpa [reading] using hsame
  exact ⟨payload, hmeaning, hcode⟩

/-- A check reports no status. -/
theorem Checked.not_reported {c : TaskChannel} {checks : List TaskEvent}
    {answer : Except Failure Unit} (h : c.Checked checks answer) (code : Int32)
    (found : Except Failure (Option String)) :
    ¬c.Reported code (c.reading statusKey found :: checks) := by
  rintro ⟨earlier, answer', payload, hlast, -, -⟩
  have hend := congrArg List.getLast? hlast
  cases h <;> simp [reading, checking, explaining] at hend

theorem Checked.not_stops {c : TaskChannel} {checks : List TaskEvent}
    {answer : Except Failure Unit} (h : c.Checked checks answer) :
    ∀ e ∈ checks, e.stops = false := by
  cases h <;> simp [checking, explaining, TaskEvent.stops]

end TaskChannel

inductive SessionPhase.Moves : SessionPhase → SessionPhase → Prop
  | stay (p : SessionPhase) : Moves p p
  | begin : Moves .starting .running
  | fail {p : SessionPhase} (hover : p.isTerminal = true) : Moves .starting p
  | cancel : Moves .running .cancelled

namespace SessionPhase

theorem Moves.starting {p : SessionPhase} (h : p.Moves .starting) : p = .starting := by
  cases h with
  | stay => rfl
  | fail hover => simp [isTerminal] at hover

theorem Moves.ne_notStarted {p q : SessionPhase} (h : p.Moves q) (hp : p ≠ .notStarted) :
    q ≠ .notStarted := by
  cases h with
  | stay => exact hp
  | begin => simp
  | fail hover =>
    rintro rfl
    simp [isTerminal] at hover
  | cancel => simp

/-- A phase that is neither running nor terminal is the starting one. -/
theorem eq_starting {p : SessionPhase} (hp : p ≠ .notStarted)
    (h : p ≠ .running ∧ p.isTerminal = false) : p = .starting := by
  cases p <;> simp_all [isTerminal]

end SessionPhase

namespace InteractiveSession

/-- What one read of the status can do: it fails, it brings a status, or it brings none and the task
is checked. -/
inductive Probed (s : InteractiveSession) :
    List TaskEvent → Except Failure Bool → InteractiveSession → Prop
  | unread {answer : Except Failure (Option String)} {f : Failure}
      (hread : TaskChannel.meaning TaskChannel.statusKey answer = .error f) :
      Probed s [s.channel.reading TaskChannel.statusKey answer] (.error f) s
  | observed {answer : Except Failure (Option String)} {payload : TaskPayload}
      {status : ObjectStatus}
      (hread : TaskChannel.meaning TaskChannel.statusKey answer = .ok (some payload))
      (hstatus : payload.status = some status) :
      Probed s [s.channel.reading TaskChannel.statusKey answer]
        (s.observe status payload.nonEmptyResult).1 (s.observe status payload.nonEmptyResult).2
  | alive {answer : Except Failure (Option String)} {checks : List TaskEvent}
      (hsilent : TaskChannel.Silent TaskChannel.statusKey answer)
      (hcheck : s.channel.Checked checks (.ok ())) :
      Probed s (s.channel.reading TaskChannel.statusKey answer :: checks) (.ok false) s
  | halted {answer : Except Failure (Option String)} {checks : List TaskEvent} {f : Failure}
      (hsilent : TaskChannel.Silent TaskChannel.statusKey answer)
      (hcheck : s.channel.Checked checks (.error f)) :
      Probed s (s.channel.reading TaskChannel.statusKey answer :: checks) (.error f)
        (if f.kind = .sessionFailed then { s with phase := .failed } else s)

theorem taskChecked (svc : InstanceService σ) (s : InteractiveSession)
    {answer : Except Failure (Option String)}
    (hsilent : TaskChannel.Silent TaskChannel.statusKey answer)
    (y : Exchange (σ × List TaskEvent)) :
    ∃ checks, (s.checkTask svc.journaled y).2.2.journal = y.journal ++ checks ∧
      Probed s (s.channel.reading TaskChannel.statusKey answer :: checks)
        (s.checkTask svc.journaled y).1 (s.checkTask svc.journaled y).2.1 := by
  obtain ⟨checks, hjournal, hchecked⟩ := TaskChannel.checked svc s.channel y
  rcases halive : s.channel.ensureAlive svc.journaled y with ⟨verdict, y₁⟩
  rw [halive] at hjournal hchecked
  cases verdict with
  | error f =>
    simp only [checkTask, halive]
    exact ⟨checks, hjournal, .halted hsilent hchecked⟩
  | ok done =>
    simp only [checkTask, halive]
    exact ⟨checks, hjournal, .alive hsilent hchecked⟩

theorem probed (svc : InstanceService σ) (s : InteractiveSession)
    (y : Exchange (σ × List TaskEvent)) :
    ∃ events, (s.probe svc.journaled y).2.2.journal = y.journal ++ events ∧
      Probed s events (s.probe svc.journaled y).1 (s.probe svc.journaled y).2.1 := by
  obtain ⟨answer, hjournal, hmeaning⟩ :=
    TaskChannel.read_noted svc s.channel TaskChannel.statusKey y
  rcases hread : s.channel.read svc.journaled TaskChannel.statusKey y with ⟨found, y₁⟩
  rw [hread] at hjournal hmeaning
  have hcheck (hsilent : TaskChannel.Silent TaskChannel.statusKey answer) :
      ∃ events, (s.checkTask svc.journaled y₁).2.2.journal = y.journal ++ events ∧
        Probed s events (s.checkTask svc.journaled y₁).1 (s.checkTask svc.journaled y₁).2.1 := by
    obtain ⟨checks, hchecks, h⟩ := taskChecked svc s hsilent y₁
    rw [hjournal, List.append_assoc] at hchecks
    exact ⟨_, hchecks, h⟩
  match found with
  | .error f =>
    simp only [probe, hread]
    exact ⟨_, hjournal, .unread hmeaning.symm⟩
  | .ok none =>
    simp only [probe, hread]
    exact hcheck ⟨none, hmeaning.symm, rfl⟩
  | .ok (some payload) =>
    cases hstatus : payload.status with
    | none =>
      simp only [probe, hread, hstatus]
      exact hcheck ⟨some payload, hmeaning.symm, hstatus⟩
    | some status =>
      simp only [probe, hread, hstatus]
      exact ⟨_, hjournal, .observed hmeaning.symm hstatus⟩

/-- What asking once can do. Only a session that still starts reads its status. -/
inductive Asked (s : InteractiveSession) :
    List TaskEvent → Except Failure Bool → InteractiveSession → Prop
  | runs (hphase : s.phase = .running) : Asked s [] (.ok true) s
  | closed (hphase : s.phase.isTerminal = true) : Asked s [] (.error s.notRunning) s
  | probed {events : List TaskEvent} {answer : Except Failure Bool} {s' : InteractiveSession}
      (hphase : s.phase ≠ .running ∧ s.phase.isTerminal = false)
      (h : Probed s events answer s') : Asked s events answer s'

theorem asked (svc : InstanceService σ) (s : InteractiveSession)
    (y : Exchange (σ × List TaskEvent)) :
    ∃ events, (s.isStarted svc.journaled y).2.2.journal = y.journal ++ events ∧
      Asked s events (s.isStarted svc.journaled y).1 (s.isStarted svc.journaled y).2.1 := by
  unfold isStarted
  split
  · next hrunning => exact ⟨[], by simp, .runs hrunning⟩
  split
  · next hover => exact ⟨[], by simp, .closed hover⟩
  · next hrunning hover =>
    obtain ⟨events, hjournal, h⟩ := probed svc s y
    exact ⟨events, hjournal, .probed ⟨hrunning, by simpa using hover⟩ h⟩

section Probed

variable {s s' : InteractiveSession} {events : List TaskEvent} {answer : Except Failure Bool}

/-- Everything but the phase, the progress and the start message stays. -/
theorem Probed.rest (h : Probed s events answer s') :
    s' = { s with
      phase := s'.phase
      progress := s'.progress
      startMessage := s'.startMessage } := by
  cases h with
  | unread hread => rfl
  | @observed _ payload status hread hstatus =>
    cases status with
    | other code =>
      simp only [observe, launching]
      split
      · rfl
      · split <;> rfl
    | _ => rfl
  | alive hsilent hcheck => rfl
  | halted hsilent hcheck => split <;> rfl

theorem Probed.same (h : Probed s events answer s') :
    s'.channel = s.channel ∧ s'.stopped = s.stopped := by
  rw [h.rest]
  exact ⟨rfl, rfl⟩

/-- A launch phase leaves the session's phase alone. -/
theorem launching_phase (s : InteractiveSession) (result : Option String) :
    (s.launching result).2.phase = s.phase := by
  unfold launching
  split
  · rfl
  · split <;> rfl

theorem Probed.moves (h : Probed s events answer s') (hphase : s.phase = .starting) :
    s.phase.Moves s'.phase := by
  rw [hphase]
  cases h with
  | unread hread => exact hphase ▸ .stay _
  | @observed _ payload status hread hstatus =>
    cases status with
    | running => exact .begin
    | failed => exact .fail rfl
    | terminated => exact .fail rfl
    | cancelled => exact .fail rfl
    | other code =>
      simp only [observe, launching_phase, hphase]
      exact .stay _
  | alive hsilent hcheck => exact hphase ▸ .stay _
  | halted hsilent hcheck =>
    split
    · exact .fail rfl
    · exact hphase ▸ .stay _

/-- A session runs once its status says so. -/
theorem Probed.runs (h : Probed s events answer s') (hphase : s.phase = .starting)
    (hruns : s'.phase = .running) : s.channel.Reported 2 events := by
  cases h with
  | unread hread => simp [hphase] at hruns
  | @observed _ payload status hread hstatus =>
    refine ⟨[], _, payload, rfl, hread, ?_⟩
    cases status with
    | running => simp [hstatus, ObjectStatus.code]
    | other code => simp [observe, launching_phase, hphase] at hruns
    | _ => simp [observe] at hruns
  | alive hsilent hcheck => simp [hphase] at hruns
  | halted hsilent hcheck =>
    split at hruns
    · simp at hruns
    · simp [hphase] at hruns

/-- A read of the status comes first. -/
theorem Probed.reads (h : Probed s events answer s') :
    ∃ found checks, events = s.channel.reading TaskChannel.statusKey found :: checks := by
  cases h with
  | unread hread => exact ⟨_, [], rfl⟩
  | observed hread hstatus => exact ⟨_, [], rfl⟩
  | alive hsilent hcheck => exact ⟨_, _, rfl⟩
  | halted hsilent hcheck => exact ⟨_, _, rfl⟩

/-- A status with the code of running makes the session run. -/
theorem Probed.begins (h : Probed s events answer s') (hreported : s.channel.Reported 2 events) :
    answer = .ok true ∧ s'.phase = .running := by
  cases h with
  | unread hread =>
    obtain ⟨payload, hmeaning, hcode⟩ := hreported.of_singleton
    simp [hread] at hmeaning
  | @observed _ payload status hread hstatus =>
    obtain ⟨payload', hmeaning, hcode⟩ := hreported.of_singleton
    obtain rfl : payload = payload' := by simpa [hread] using hmeaning
    have hrunning : status.code = 2 := by simpa [hstatus] using hcode
    have hcanonical := TaskChannel.canonical_of_meaning hread status hstatus
    obtain rfl : status = .running := by
      rw [← hcanonical.ofCode_code, hrunning]
      rfl
    exact ⟨rfl, rfl⟩
  | alive hsilent hcheck => exact absurd hreported (hcheck.not_reported _ _)
  | halted hsilent hcheck => exact absurd hreported (hcheck.not_reported _ _)

/-- A session has failed if its status says so, or if there is no status and its task has ended. -/
theorem Probed.fails (h : Probed s events answer s') (hphase : s.phase = .starting)
    (hfails : s'.phase = .failed)
    (hservice : ∀ e ∈ events, ∀ f, e.failure = some f → f.kind ≠ .sessionFailed) :
    s.channel.Reported 4 events ∨ s.channel.FoundEnded events := by
  cases h with
  | unread hread => simp [hphase] at hfails
  | @observed _ payload status hread hstatus =>
    refine .inl ⟨[], _, payload, rfl, hread, ?_⟩
    cases status with
    | failed => simp [hstatus, ObjectStatus.code]
    | other code => simp [observe, launching_phase, hphase] at hfails
    | _ => simp [observe, begun] at hfails
  | alive hsilent hcheck => simp [hphase] at hfails
  | halted hsilent hcheck =>
    split at hfails
    · next hkind =>
      exact .inr (hcheck.foundEnded hsilent hkind fun e he =>
        hservice e (List.mem_cons_of_mem _ he))
    · simp [hphase] at hfails

/-- A read that fails otherwise than by the session's end leaves the session as it is. -/
theorem Probed.spares {f : Failure} (h : Probed s events (.error f) s')
    (hkind : f.kind ≠ .sessionFailed) : s' = s := by
  generalize hanswer : Except.error f = answer at h
  cases h with
  | unread hread => rfl
  | @observed _ payload status hread hstatus =>
    cases status with
    | running => simp [observe] at hanswer
    | other code =>
      simp only [observe, launching] at hanswer ⊢
      split at hanswer
      · rfl
      · split at hanswer
        · simp at hanswer
        · simp
    | _ =>
      obtain rfl := Except.error.inj hanswer
      exact absurd rfl hkind
  | alive hsilent hcheck => simp at hanswer
  | halted hsilent hcheck =>
    obtain rfl := Except.error.inj hanswer
    rw [if_neg hkind]

theorem Probed.not_stops (h : Probed s events answer s') : ∀ e ∈ events, e.stops = false := by
  cases h with
  | unread hread => simp [TaskChannel.reading, TaskEvent.stops]
  | observed hread hstatus => simp [TaskChannel.reading, TaskEvent.stops]
  | alive hsilent hcheck =>
    exact List.forall_mem_cons.mpr ⟨rfl, hcheck.not_stops⟩
  | halted hsilent hcheck =>
    exact List.forall_mem_cons.mpr ⟨rfl, hcheck.not_stops⟩

end Probed

/-- What any number of questions in a row can make of a session: it reads its status as long as it
starts, and between two reads its receiver may take note of a signal. -/
inductive Watched (s : InteractiveSession) : List TaskEvent → InteractiveSession → Prop
  | start : Watched s [] s
  | probed {events later : List TaskEvent} {answer : Except Failure Bool}
      {s₁ s₂ : InteractiveSession} (h : Watched s events s₁) (hphase : s₁.phase = .starting)
      (hp : Probed s₁ later answer s₂) : Watched s (events ++ later) s₂
  | noticed {events : List TaskEvent} {s₁ : InteractiveSession} (h : Watched s events s₁)
      (r : Shutdown.Receiver) : Watched s events { s₁ with receiver := r }

section Watched

variable {s s₁ s₂ : InteractiveSession} {events later : List TaskEvent}

theorem Watched.same (h : Watched s events s₁) :
    s₁.channel = s.channel ∧ s₁.stopped = s.stopped := by
  induction h with
  | start => exact ⟨rfl, rfl⟩
  | probed _ _ hp ih => exact ⟨hp.same.1.trans ih.1, hp.same.2.trans ih.2⟩
  | noticed _ _ ih => exact ih

theorem Watched.moves (h : Watched s events s₁) : s.phase.Moves s₁.phase := by
  induction h with
  | start => exact .stay _
  | probed _ hphase hp ih =>
    have hstart : s.phase = .starting := (hphase ▸ ih).starting
    have hmoves := hp.moves hphase
    rwa [hphase, ← hstart] at hmoves
  | noticed _ _ ih => exact ih

/-- Once the start is decided nothing is asked, and what was learnt from it stays. -/
theorem Watched.of_decided (h : Watched s events s₁) (hphase : s.phase ≠ .starting) :
    events = [] ∧ s₁.startMessage = s.startMessage ∧ s₁.progress = s.progress := by
  induction h with
  | start => exact ⟨rfl, rfl, rfl⟩
  | probed hwatched hstarting _ _ => exact absurd (hstarting ▸ hwatched.moves).starting hphase
  | noticed _ _ ih => exact ih

theorem Watched.runs (h : Watched s events s₁) (hphase : s.phase ≠ .running)
    (hruns : s₁.phase = .running) : s.channel.Reported 2 events := by
  induction h with
  | start => exact absurd hruns hphase
  | probed hwatched hstarting hp _ =>
    exact hwatched.same.1 ▸ (hp.runs hstarting hruns).append _
  | noticed _ _ ih => exact ih hruns

theorem Watched.fails (h : Watched s events s₁) (hphase : s.phase ≠ .failed)
    (hfails : s₁.phase = .failed)
    (hservice : ∀ e ∈ events, ∀ f, e.failure = some f → f.kind ≠ .sessionFailed) :
    s.channel.Reported 4 events ∨ s.channel.FoundEnded events := by
  induction h with
  | start => exact absurd hfails hphase
  | probed hwatched hstarting hp _ =>
    rw [← hwatched.same.1]
    have hlast := hp.fails hstarting hfails fun e he => hservice e (List.mem_append_right _ he)
    exact hlast.imp (·.append _) (·.append _)
  | noticed _ _ ih => exact ih hfails hservice

theorem Watched.not_stops (h : Watched s events s₁) : ∀ e ∈ events, e.stops = false := by
  induction h with
  | start => simp
  | probed _ _ hp ih => exact List.forall_mem_append.mpr ⟨ih, hp.not_stops⟩
  | noticed _ _ ih => exact ih

theorem Watched.ask {answer : Except Failure Bool} (h : Watched s events s₁)
    (hphase : s.phase ≠ .notStarted) (ha : Asked s₁ later answer s₂) :
    Watched s (events ++ later) s₂ := by
  cases ha with
  | runs _ => simpa using h
  | closed _ => simpa using h
  | probed hundecided hp =>
    exact .probed h (SessionPhase.eq_starting (h.moves.ne_notStarted hphase) hundecided) hp

end Watched

section Round

variable {svc : InstanceService σ} {deadline : Option Nat} {s : InteractiveSession} {x : Exchange σ}

/-- What a wait can do next: its question decides it, or the deadline is over, or it is to pause. -/
inductive Turn (svc : InstanceService σ) (deadline : Option Nat) (s : InteractiveSession)
    (x : Exchange σ) : WaitTurn × InteractiveSession × Exchange σ → Prop
  | decided {answer : Except Failure Bool} {s' : InteractiveSession} {x' : Exchange σ}
      (hasked : s.isStarted svc x = (answer, s', x')) (hanswer : answer ≠ .ok false) :
      Turn svc deadline s x (.finished answer, s', x')
  | expired {s' : InteractiveSession} {x' : Exchange σ} {d : Nat}
      (hasked : s.isStarted svc x = (.ok false, s', x')) (hd : d ∈ deadline) (hover : d ≤ x'.now) :
      Turn svc deadline s x (.finished (.ok false), s', x')
  | pause {s' : InteractiveSession} {x' : Exchange σ}
      (hasked : s.isStarted svc x = (.ok false, s', x')) (hopen : ∀ d ∈ deadline, x'.now < d) :
      Turn svc deadline s x (.pause (s'.pauseSpan deadline x'.now), s', x')

theorem turn (svc : InstanceService σ) (deadline : Option Nat) (s : InteractiveSession)
    (x : Exchange σ) : Turn svc deadline s x (s.waitTurn svc deadline x) := by
  rcases hasked : s.isStarted svc x with ⟨answer, s', x'⟩
  match answer with
  | .error f =>
    simp only [waitTurn, hasked]
    exact .decided hasked (by simp)
  | .ok true =>
    simp only [waitTurn, hasked]
    exact .decided hasked (by simp)
  | .ok false =>
    cases hdue : deadline.any (· ≤ x'.now) with
    | true =>
      simp only [waitTurn, hasked, hdue, if_true]
      cases deadline with
      | none => simp at hdue
      | some d => exact .expired hasked rfl (by simpa using hdue)
    | false =>
      simp only [waitTurn, hasked, hdue, Bool.false_eq_true, if_false]
      refine .pause hasked ?_
      rintro d rfl
      simpa using hdue

/-- What one round of a wait can do: it is over, or it pauses, and the pause may be cut short. -/
inductive Round (svc : InstanceService σ) (deadline : Option Nat) (s : InteractiveSession)
    (x : Exchange σ) : Option (Except Failure Bool) × InteractiveSession × Exchange σ → Prop
  | settled {answer : Except Failure Bool} {s' : InteractiveSession} {x' : Exchange σ}
      (hturn : Turn svc deadline s x (.finished answer, s', x')) :
      Round svc deadline s x (some answer, s', x')
  | interrupted {span : Nat} {s' : InteractiveSession} {x' x₁ : Exchange σ}
      {r : Shutdown.Receiver} (hturn : Turn svc deadline s x (.pause span, s', x'))
      (hslept : x'.sleep s'.receiver span = (true, r, x₁)) :
      Round svc deadline s x (some (.error s'.startInterrupted), { s' with receiver := r }, x₁)
  | paused {span : Nat} {s' : InteractiveSession} {x' x₁ : Exchange σ}
      {r : Shutdown.Receiver} (hturn : Turn svc deadline s x (.pause span, s', x'))
      (hslept : x'.sleep s'.receiver span = (false, r, x₁)) :
      Round svc deadline s x (none, { s' with receiver := r }, x₁)

theorem round (svc : InstanceService σ) (deadline : Option Nat) (s : InteractiveSession)
    (x : Exchange σ) : Round svc deadline s x (waitStep svc deadline (s, x)) := by
  have hturn := turn svc deadline s x
  rcases hnext : s.waitTurn svc deadline x with ⟨next, s', x'⟩
  rw [hnext] at hturn
  cases next with
  | finished answer =>
    simp only [waitStep, hnext]
    exact .settled hturn
  | pause span =>
    simp only [waitStep, hnext]
    rcases hslept : x'.sleep s'.receiver span with ⟨cut, r, x₁⟩
    cases cut with
    | true => exact .interrupted hturn hslept
    | false => exact .paused hturn hslept

theorem Turn.asked {next : WaitTurn} {s' : InteractiveSession} {x' : Exchange σ}
    (h : Turn svc deadline s x (next, s', x')) :
    ∃ answer, s.isStarted svc x = (answer, s', x') := by
  cases h with
  | decided hasked hanswer => exact ⟨_, hasked⟩
  | expired hasked hd hover => exact ⟨_, hasked⟩
  | pause hasked hopen => exact ⟨_, hasked⟩

/-- A pause ends by the deadline. -/
theorem Turn.within {span : Nat} {s' : InteractiveSession} {x' : Exchange σ}
    (h : Turn svc deadline s x (.pause span, s', x')) :
    ∀ d ∈ deadline, x'.now < d ∧ x'.now + span ≤ d := by
  cases h with
  | pause hasked hopen =>
    rintro d rfl
    have hbegun := hopen d rfl
    have hcapped : s'.pauseSpan (some d) x'.now ≤ d - x'.now := Nat.min_le_right _ _
    omega

/-- A round asks once, and then its receiver may sleep. -/
theorem Round.asked {after : Option (Except Failure Bool) × InteractiveSession × Exchange σ}
    (h : Round svc deadline s x after) :
    ∃ answer s' x' r, s.isStarted svc x = (answer, s', x') ∧ after.2.1 = { s' with receiver := r } ∧
      (after.2.2 = x' ∨ ∃ span, (∀ d ∈ deadline, x'.now + span ≤ d) ∧
        after.2.2 = (x'.sleep s'.receiver span).2.2) := by
  cases h with
  | @settled _ s' x' hturn =>
    obtain ⟨answer, hasked⟩ := hturn.asked
    exact ⟨answer, s', x', s'.receiver, hasked, rfl, .inl rfl⟩
  | @interrupted span s' x' _ r hturn hslept =>
    obtain ⟨answer, hasked⟩ := hturn.asked
    exact ⟨answer, s', x', r, hasked, rfl,
      .inr ⟨span, fun d hd => (hturn.within d hd).2, by rw [hslept]⟩⟩
  | @paused span s' x' _ r hturn hslept =>
    obtain ⟨answer, hasked⟩ := hturn.asked
    exact ⟨answer, s', x', r, hasked, rfl,
      .inr ⟨span, fun d hd => (hturn.within d hd).2, by rw [hslept]⟩⟩

end Round

/-- One round of a wait asks once, and then its receiver may take note of a signal. -/
theorem waitStepped (svc : InstanceService σ) (deadline : Option Nat) (s : InteractiveSession)
    (y : Exchange (σ × List TaskEvent)) :
    ∃ events answer s' r,
      (waitStep svc.journaled deadline (s, y)).2.2.journal = y.journal ++ events ∧
      Asked s events answer s' ∧
      (waitStep svc.journaled deadline (s, y)).2.1 = { s' with receiver := r } := by
  obtain ⟨events, hjournal, h⟩ := asked svc s y
  obtain ⟨answer, s', y', r, hasked, hleft, hend⟩ := (round svc.journaled deadline s y).asked
  rw [hasked] at hjournal h
  refine ⟨events, answer, s', r, ?_, h, hleft⟩
  rcases hend with hend | ⟨span, -, hend⟩
  · rw [hend]
    exact hjournal
  · rw [hend, Exchange.journal_sleep]
    exact hjournal

theorem waited (svc : InstanceService σ) (rounds timeoutMs : Nat) {s : InteractiveSession}
    (hphase : s.phase ≠ .notStarted) (y : Exchange (σ × List TaskEvent)) :
    ∃ events, (s.waitForStart svc.journaled rounds timeoutMs y).2.2.journal = y.journal ++ events ∧
      Watched s events (s.waitForStart svc.journaled rounds timeoutMs y).2.1 := by
  unfold waitForStart
  cases deadline? y.now timeoutMs with
  | none => exact ⟨[], by simp, .start⟩
  | some deadline =>
    refine settle_keeps
      (Q := fun _ (t : InteractiveSession × Exchange (σ × List TaskEvent)) =>
        ∃ events, t.2.journal = y.journal ++ events ∧ Watched s events t.1) ?_ rounds (s, y) ?_
    · rintro ⟨s₁, y₁⟩ ⟨events, hjournal, h⟩
      obtain ⟨later, answer, s₂, r, hlater, hasked, hleft⟩ := waitStepped svc deadline s₁ y₁
      refine ⟨events ++ later, ?_, ?_⟩
      · rw [hlater, hjournal, List.append_assoc]
      · rw [hleft]
        exact (h.ask hphase hasked).noticed r
    · exact ⟨[], by simp, .start⟩

theorem progressed (svc : InstanceService σ) {s : InteractiveSession}
    (hphase : s.phase ≠ .notStarted) (y : Exchange (σ × List TaskEvent)) :
    ∃ events, (s.startProgress svc.journaled y).2.2.journal = y.journal ++ events ∧
      Watched s events (s.startProgress svc.journaled y).2.1 := by
  unfold startProgress
  split
  · obtain ⟨events, hjournal, h⟩ := asked svc s y
    rcases hasked : s.isStarted svc.journaled y with ⟨answer, s', y₁⟩
    rw [hasked] at hjournal h
    cases answer with
    | error f => exact ⟨events, hjournal, Watched.start.ask hphase h⟩
    | ok started => exact ⟨events, hjournal, Watched.start.ask hphase h⟩
  · exact ⟨[], by simp, .start⟩

theorem checkTask_plain (svc : InstanceService σ) (s : InteractiveSession)
    (y : Exchange (σ × List TaskEvent)) : s.checkTask svc y.plain =
      ((s.checkTask svc.journaled y).1, (s.checkTask svc.journaled y).2.1,
        (s.checkTask svc.journaled y).2.2.plain) := by
  unfold checkTask
  rw [TaskChannel.ensureAlive_plain]
  rcases s.channel.ensureAlive svc.journaled y with ⟨verdict, y₁⟩
  cases verdict <;> rfl

theorem probe_plain (svc : InstanceService σ) (s : InteractiveSession)
    (y : Exchange (σ × List TaskEvent)) : s.probe svc y.plain =
      ((s.probe svc.journaled y).1, (s.probe svc.journaled y).2.1,
        (s.probe svc.journaled y).2.2.plain) := by
  unfold probe
  rw [TaskChannel.read_plain]
  rcases s.channel.read svc.journaled TaskChannel.statusKey y with ⟨found, y₁⟩
  match found with
  | .error f => rfl
  | .ok none => exact s.checkTask_plain svc y₁
  | .ok (some payload) =>
    cases hstatus : payload.status with
    | none => simpa only [hstatus] using s.checkTask_plain svc y₁
    | some status => simp only [hstatus]

theorem isStarted_plain (svc : InstanceService σ) (s : InteractiveSession)
    (y : Exchange (σ × List TaskEvent)) : s.isStarted svc y.plain =
      ((s.isStarted svc.journaled y).1, (s.isStarted svc.journaled y).2.1,
        (s.isStarted svc.journaled y).2.2.plain) := by
  unfold isStarted
  split
  · rfl
  split
  · rfl
  · exact s.probe_plain svc y

theorem waitTurn_plain (svc : InstanceService σ) (deadline : Option Nat) (s : InteractiveSession)
    (y : Exchange (σ × List TaskEvent)) : s.waitTurn svc deadline y.plain =
      ((s.waitTurn svc.journaled deadline y).1, (s.waitTurn svc.journaled deadline y).2.1,
        (s.waitTurn svc.journaled deadline y).2.2.plain) := by
  unfold waitTurn
  rw [isStarted_plain]
  rcases s.isStarted svc.journaled y with ⟨answer, s', y₁⟩
  match answer with
  | .error f => rfl
  | .ok true => rfl
  | .ok false =>
    have hnow : y₁.plain.now = y₁.now := rfl
    simp only [hnow]
    split <;> rfl

theorem waitStep_plain (svc : InstanceService σ) (deadline : Option Nat)
    (t : InteractiveSession × Exchange (σ × List TaskEvent)) :
    waitStep svc deadline (t.1, t.2.plain) =
      ((waitStep svc.journaled deadline t).1, (waitStep svc.journaled deadline t).2.1,
        (waitStep svc.journaled deadline t).2.2.plain) := by
  obtain ⟨s, y⟩ := t
  simp only [waitStep, waitTurn_plain]
  rcases s.waitTurn svc.journaled deadline y with ⟨turn, s', y₁⟩
  cases turn with
  | finished answer => rfl
  | pause span =>
    simp only [Exchange.plain_sleep]
    rcases y₁.sleep s'.receiver span with ⟨cut, r, y₂⟩
    cases cut <;> rfl

theorem waitForStart_plain (svc : InstanceService σ) (rounds timeoutMs : Nat)
    (s : InteractiveSession) (y : Exchange (σ × List TaskEvent)) :
    s.waitForStart svc rounds timeoutMs y.plain =
      ((s.waitForStart svc.journaled rounds timeoutMs y).1,
        (s.waitForStart svc.journaled rounds timeoutMs y).2.1,
        (s.waitForStart svc.journaled rounds timeoutMs y).2.2.plain) := by
  unfold waitForStart
  have hnow : y.plain.now = y.now := rfl
  rw [hnow]
  cases deadline? y.now timeoutMs with
  | none => rfl
  | some deadline =>
    exact settle_view (fun t => (t.1, t.2.plain)) (waitStep_plain svc deadline) rounds (s, y)

theorem startProgress_plain (svc : InstanceService σ) (s : InteractiveSession)
    (y : Exchange (σ × List TaskEvent)) : s.startProgress svc y.plain =
      ((s.startProgress svc.journaled y).1, (s.startProgress svc.journaled y).2.1,
        (s.startProgress svc.journaled y).2.2.plain) := by
  unfold startProgress
  rw [isStarted_plain]
  split
  · rcases s.isStarted svc.journaled y with ⟨answer, s', y₁⟩
    cases answer <;> rfl
  · rfl

theorem stop_plain (svc : InstanceService σ) (s : InteractiveSession)
    (y : Exchange (σ × List TaskEvent)) : s.stop svc y.plain =
      ((s.stop svc.journaled y).1, (s.stop svc.journaled y).2.1,
        (s.stop svc.journaled y).2.2.plain) := by
  unfold stop
  split
  · rfl
  · simp only [InstanceService.journaled,
      Exchange.ask_plain y (.stopping s.channel.instanceId)]
    rcases y.ask (noted (.stopping s.channel.instanceId)
      (svc.stopInstance s.channel.instanceId)) with ⟨answer, y₁⟩
    cases answer <;> rfl

end InteractiveSession

end TableExchange
