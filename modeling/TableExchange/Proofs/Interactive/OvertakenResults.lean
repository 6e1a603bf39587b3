import TableExchange.Proofs.Interactive.ResultSequence

/-!
Results of a query on a service that publishes payloads and lets its task end whenever it likes,
between any two requests. A pull reads the channel and checks the task one after the other, so the
last payload can be published in between, and the pull then fails although that payload waits. No
more than that is overlooked, and nothing is lost: what waits is delivered by the pulls to come.
-/
namespace TableExchange

/-- What a service does by itself: it publishes a text on the result channel, or its task enters a
state, with a result text. -/
inductive ServiceMove
  | publish (text : String)
  | turn (state : TaskStatus) (result : Option String)
deriving DecidableEq, Repr

/-- What happens at a service: moves of its own, and answers to reads of the result channel, checks
of the task, and requests for the task's result. -/
inductive Happening
  | moved (m : ServiceMove)
  | read (answer : Option String)
  | checked (state : Option TaskStatus)
  | explained (result : Option String)
deriving DecidableEq, Repr

namespace Happening

/-- The texts on the channel after something has happened. A read takes the first one. -/
def toChannel (texts : List String) : Happening → List String
  | moved (.publish text) => texts ++ [text]
  | read (some _) => texts.tail
  | _ => texts

/-- The texts that are published and not yet read, oldest first. -/
def waiting (history : List Happening) : List String :=
  history.foldl toChannel []

def published (history : List Happening) : List String :=
  history.filterMap fun
    | moved (.publish text) => some text
    | _ => none

def task (history : List Happening) : Option (TaskStatus × Option String) :=
  (history.filterMap fun
    | moved (.turn state result) => some (state, result)
    | _ => none).getLast?

def NoRead (history : List Happening) : Prop :=
  ∀ answer, .read answer ∉ history

def bearing? (text : String) : Option TaskPayload :=
  (TaskChannel.decode TaskChannel.resultKey (some text)).toOption.join.filter (·.status.isSome)

def bearing (texts : List String) : List TaskPayload :=
  texts.filterMap bearing?

@[simp] theorem published_append (history later : List Happening) :
    published (history ++ later) = published history ++ published later :=
  List.filterMap_append

@[simp] theorem bearing_append (texts later : List String) :
    bearing (texts ++ later) = bearing texts ++ bearing later :=
  List.filterMap_append

theorem NoRead.append {history later : List Happening} (h : NoRead history) (h' : NoRead later) :
    NoRead (history ++ later) := fun answer hmem =>
  (List.mem_append.mp hmem).elim (h answer) (h' answer)

theorem noRead_moves (moves : List ServiceMove) : NoRead (moves.map moved) := by
  intro answer hmem
  obtain ⟨m, -, hm⟩ := List.mem_map.mp hmem
  contradiction

theorem noRead_singleton {e : Happening} (h : ∀ answer, e ≠ .read answer) : NoRead [e] :=
  fun answer hmem => h answer (List.mem_singleton.mp hmem).symm

/-- Without reads the channel only grows. -/
theorem waiting_append_of_noRead (history : List Happening) {later : List Happening}
    (h : NoRead later) : waiting (history ++ later) = waiting history ++ published later := by
  rw [waiting, List.foldl_append, ← waiting]
  generalize waiting history = texts
  induction later generalizing texts with
  | nil => simp [published]
  | cons e rest ih =>
    have hrest : NoRead rest := fun answer hmem => h answer (List.mem_cons_of_mem _ hmem)
    rw [List.foldl_cons, ih hrest]
    match e with
    | .moved (.publish text) => simp [toChannel, published]
    | .moved (.turn _ _) | .checked _ | .explained _ => rfl
    | .read answer => exact absurd List.mem_cons_self (h answer)

theorem waiting_read (history : List Happening) :
    waiting (history ++ [.read (waiting history).head?]) = (waiting history).tail := by
  rw [waiting, List.foldl_append, ← waiting]
  cases waiting history <;> rfl

/-- From one history to a longer one nothing with a status is lost or overtaken, if `delivered` are
the payloads delivered in between. -/
def Kept (history later : List Happening) (delivered : List TaskPayload) : Prop :=
  ∃ news, later = history ++ news ∧
    bearing (waiting history ++ published news) = delivered ++ bearing (waiting later)

theorem Kept.refl (history : List Happening) : Kept history history [] :=
  ⟨[], by simp, by simp [published]⟩

theorem Kept.trans {h₁ h₂ h₃ : List Happening} {ps qs : List TaskPayload} (h : Kept h₁ h₂ ps)
    (h' : Kept h₂ h₃ qs) : Kept h₁ h₃ (ps ++ qs) := by
  obtain ⟨news, rfl, hnews⟩ := h
  obtain ⟨later, rfl, hlater⟩ := h'
  refine ⟨news ++ later, by rw [List.append_assoc], ?_⟩
  rw [published_append, ← List.append_assoc, bearing_append, hnews, List.append_assoc,
    ← bearing_append, hlater]
  simp only [List.append_assoc]

theorem kept_of_noRead (history : List Happening) {later : List Happening} (h : NoRead later) :
    Kept history (history ++ later) [] :=
  ⟨later, rfl, by rw [waiting_append_of_noRead history h, List.nil_append]⟩

theorem kept_read (history : List Happening) :
    Kept history (history ++ [.read (waiting history).head?])
      ((waiting history).head?.bind bearing?).toList := by
  refine ⟨_, rfl, ?_⟩
  rw [waiting_read]
  cases waiting history with
  | nil => rfl
  | cons text rest => cases hbearing : bearing? text <;> simp [bearing, published, hbearing]

/-- What a failing pull has overlooked: its last read took the first text of the channel, if there
was one, and that carried no status; what waits now was behind it then or has been published since.
A check after that read saw the task ended. -/
def Overlooked (found left : List Happening) : Prop :=
  ∃ before after, found <+: before ∧
    left = before ++ .read (waiting before).head? :: after ∧ NoRead after ∧
    (waiting before).head?.bind bearing? = none ∧
    waiting left = (waiting before).tail ++ published after ∧
    ∃ state, .checked (some state) ∈ after ∧ state.isTerminal = true

end Happening

/-- What has happened at a service, and what it will do before each of the requests to come. -/
structure Stage where
  history : List Happening := []
  plan : List (List ServiceMove) := []
deriving DecidableEq, Repr

namespace Stage

open Happening

/-- Lets the service make its moves before the next request. -/
def proceed (s : Stage) : Stage :=
  ⟨s.history ++ (s.plan.headD []).map moved, s.plan.tail⟩

def note (s : Stage) (e : Happening) : Stage :=
  { s with history := s.history ++ [e] }

/-- The answer to a read: the first text of the channel. -/
def found (s : Stage) : Option String :=
  (waiting s.proceed.history).head?

def read (s : Stage) : Stage :=
  s.proceed.note (.read s.found)

def checked (s : Stage) : Stage :=
  s.proceed.note (.checked ((task s.proceed.history).map (·.1)))

def explained (s : Stage) : Stage :=
  s.proceed.note (.explained ((task s.proceed.history).bind (·.2)))

end Stage

/-- A service that makes its moves between requests and answers as they have left it. -/
def InstanceService.publishing : InstanceService Stage where
  createInstance r s := (.ok ⟨r.project, "i"⟩, s)
  taskInfo _ _ key s :=
    if key = TaskChannel.resultKey then (.ok s.found, s.read) else (.ok none, s)
  setTaskInfo _ _ _ _ s := (.ok "", s)
  taskStatus _ _ s := (.ok ((Happening.task s.proceed.history).map (·.1)), s.checked)
  taskResult _ _ s := (.ok ((Happening.task s.proceed.history).bind (·.2)), s.explained)
  stopInstance _ s := (.ok (), s)
  logView _ s := (.ok none, s)

open Happening

/-- Without a read, the history has grown by moves, checks and explanations. -/
def Quiet (s s' : Stage) (later : List Happening) : Prop :=
  s'.history = s.history ++ later ∧ NoRead later

theorem Stage.quiet_checked (s : Stage) : Quiet s s.checked
    ((s.plan.headD []).map moved ++ [.checked ((task s.proceed.history).map (·.1))]) := by
  refine ⟨by simp [checked, note, proceed], (noRead_moves _).append (noRead_singleton nofun)⟩

theorem Stage.quiet_explained (s : Stage) : Quiet s s.explained
    ((s.plan.headD []).map moved ++ [.explained ((task s.proceed.history).bind (·.2))]) := by
  refine ⟨by simp [explained, note, proceed], (noRead_moves _).append (noRead_singleton nofun)⟩

theorem Quiet.trans {s₁ s₂ s₃ : Stage} {later latest : List Happening} (h : Quiet s₁ s₂ later)
    (h' : Quiet s₂ s₃ latest) : Quiet s₁ s₃ (later ++ latest) :=
  ⟨by rw [h'.1, h.1, List.append_assoc], h.2.append h'.2⟩

def SeenEnded (later : List Happening) : Prop :=
  ∃ state, .checked (some state) ∈ later ∧ state.isTerminal = true

namespace TaskChannel

theorem read_publishing (c : TaskChannel) (x : Exchange Stage) :
    (c.read .publishing resultKey x).1 = decode resultKey x.service.found ∧
      (c.read .publishing resultKey x).2.service = x.service.read := by
  rw [read_eq]
  exact ⟨rfl, rfl⟩

theorem ensureAlive_publishing (c : TaskChannel) (x : Exchange Stage) : ∃ later,
    Quiet x.service (c.ensureAlive .publishing x).2.service later ∧
      ∀ f, (c.ensureAlive .publishing x).1 = .error f → SeenEnded later := by
  have hcheck : x.ask (InstanceService.publishing.taskStatus c.instanceId c.taskName) =
      (.ok ((task x.service.proceed.history).map (·.1)), { x with service := x.service.checked }) :=
    rfl
  have hquiet := x.service.quiet_checked
  unfold ensureAlive
  rw [hcheck]
  cases htask : (task x.service.proceed.history).map (·.1) with
  | none =>
    rw [htask] at hquiet
    exact ⟨_, hquiet, nofun⟩
  | some state =>
    rw [htask] at hquiet
    cases hstate : state.isTerminal with
    | false =>
      simp only [hstate, Bool.false_eq_true, if_false]
      exact ⟨_, hquiet, nofun⟩
    | true =>
      -- The task has ended, so its result is asked for before the failure is reported.
      simp only [hstate, if_true]
      exact ⟨_, hquiet.trans x.service.checked.quiet_explained,
        fun f _ => ⟨state, by simp, hstate⟩⟩

end TaskChannel

namespace QueryResults

open ResultPull

/-- A wait delivers nothing, and it fails as a dead session only if the task was seen ended. -/
theorem await_publishing (q : QueryResults) (x : Exchange Stage) : ∃ later,
    Quiet x.service (q.await .publishing x).2.2.service later ∧
      payloads (q.await .publishing x).1 = [] ∧
      ∀ f, (q.await .publishing x).1 = some (.error f) → f.kind = .sessionFailed →
        SeenEnded later := by
  obtain ⟨later, hquiet, hended⟩ := q.channel.ensureAlive_publishing x
  unfold await
  rcases halive : q.channel.ensureAlive .publishing x with ⟨verdict, x₁⟩
  rw [halive] at hquiet hended
  cases verdict with
  | error f =>
    refine ⟨later, hquiet, rfl, ?_⟩
    intro g _ _
    exact hended f rfl
  | ok done =>
    have hservice := x₁.service_sleep q.receiver q.pollMs
    rcases hslept : x₁.sleep q.receiver q.pollMs with ⟨cut, r, x₂⟩
    rw [hslept] at hservice
    simp only [hslept]
    cases cut with
    | true =>
      refine ⟨later, ⟨hservice ▸ hquiet.1, hquiet.2⟩, rfl, ?_⟩
      rintro f ⟨⟩ hkind
      contradiction
    | false => exact ⟨later, ⟨hservice ▸ hquiet.1, hquiet.2⟩, rfl, nofun⟩

/-- What holds of the histories that a pull finds and leaves, given its answer. -/
structure PullsFrom (found left : List Happening)
    (answer : Option (Except Failure (Option TaskPayload))) : Prop where
  kept : Kept found left (payloads answer)
  overlooked : ∀ f, answer = some (.error f) → f.kind = .sessionFailed → Overlooked found left

theorem bind_bearing? (found : Option String) : found.bind bearing? =
    (TaskChannel.decode TaskChannel.resultKey found).toOption.join.filter (·.status.isSome) := by
  cases found <;> rfl

/-- A read of the channel: the moves before it, and the answer. -/
theorem kept_stage_read (s : Stage) :
    Kept s.history s.read.history (s.found.bind bearing?).toList := by
  have hmoves := kept_of_noRead s.history (noRead_moves (s.plan.headD []))
  exact hmoves.trans (kept_read s.proceed.history)

/-- A round whose read brings no status ends with the wait. -/
theorem pullsFrom_await (q : QueryResults) {x x₁ : Exchange Stage}
    (hread : x₁.service = x.service.read) (hnone : x.service.found.bind bearing? = none) :
    PullsFrom x.service.history (q.await .publishing x₁).2.2.service.history
      (q.await .publishing x₁).1 := by
  obtain ⟨later, hquiet, hpayloads, hended⟩ := q.await_publishing x₁
  rw [hread] at hquiet
  constructor
  · have hkept := kept_stage_read x.service
    rw [hnone] at hkept
    rw [hpayloads, hquiet.1]
    exact hkept.trans (kept_of_noRead _ hquiet.2)
  · intro f hf hkind
    have hhistory : x.service.read.history =
        x.service.proceed.history ++ [.read (waiting x.service.proceed.history).head?] := rfl
    refine ⟨x.service.proceed.history, later, List.prefix_append _ _, ?_, hquiet.2, hnone, ?_,
      hended f hf hkind⟩
    · rw [hquiet.1, hhistory, List.append_assoc]
      rfl
    · rw [hquiet.1, waiting_append_of_noRead _ hquiet.2, hhistory, waiting_read]

theorem pullsFrom_step (q : QueryResults) (x : Exchange Stage) :
    PullsFrom x.service.history (step .publishing (q, x)).2.2.service.history
      (step .publishing (q, x)).1 := by
  obtain ⟨hfound, hservice⟩ := q.channel.read_publishing x
  have hbearing := bind_bearing? x.service.found
  have hkept := kept_stage_read x.service
  rcases hread : q.channel.read .publishing TaskChannel.resultKey x with ⟨found, x₁⟩
  rw [hread] at hfound hservice
  obtain rfl : found = _ := hfound
  -- A payload with a status ends the pull; after anything else but a failure comes the wait.
  cases hdecode : TaskChannel.decode TaskChannel.resultKey x.service.found with
  | error f =>
    rw [hdecode] at hbearing hread
    rw [hbearing, ← hservice] at hkept
    simp only [step, hread]
    refine ⟨hkept, ?_⟩
    rintro g ⟨⟩ hkind
    rw [TaskChannel.decode_error hdecode] at hkind
    contradiction
  | ok decoded =>
    rw [hdecode] at hbearing hread
    cases decoded with
    | none =>
      simp only [step, hread]
      exact q.pullsFrom_await hservice hbearing
    | some payload =>
      cases hstatus : payload.status with
      | none =>
        simp only [step, hread, hstatus]
        exact q.pullsFrom_await hservice
          (hbearing.trans (by simp [Except.toOption, Option.filter, hstatus]))
      | some status =>
        have hpayload : x.service.found.bind bearing? = some payload :=
          hbearing.trans (by simp [Except.toOption, Option.filter, hstatus])
        rw [hpayload, ← hservice] at hkept
        simp only [step, hread, hstatus]
        refine ⟨hkept, ?_⟩
        rintro f ⟨⟩

/-- A round that settles nothing hands on to the next one. -/
theorem PullsFrom.trans {h₁ h₂ h₃ : List Happening}
    {answer : Option (Except Failure (Option TaskPayload))} (h : PullsFrom h₁ h₂ none)
    (h' : PullsFrom h₂ h₃ answer) : PullsFrom h₁ h₃ answer := by
  refine ⟨h.kept.trans h'.kept, fun f hf hkind => ?_⟩
  obtain ⟨before, after, hprefix, hrest⟩ := h'.overlooked f hf hkind
  obtain ⟨news, rfl, -⟩ := h.kept
  exact ⟨before, after, (List.prefix_append _ _).trans hprefix, hrest⟩

theorem pullsFrom_settle (rounds : Nat) (q : QueryResults) (x : Exchange Stage) :
    PullsFrom x.service.history (settle (step .publishing) rounds (q, x)).2.2.service.history
      (settle (step .publishing) rounds (q, x)).1 := by
  induction rounds generalizing q x with
  | zero => exact ⟨Kept.refl _, nofun⟩
  | succ rounds ih =>
    have hstep := q.pullsFrom_step x
    rcases hrun : step .publishing (q, x) with ⟨answer, q₁, x₁⟩
    rw [hrun] at hstep
    cases answer with
    | some answer =>
      simp only [settle, hrun]
      exact hstep
    | none =>
      simp only [settle, hrun]
      exact hstep.trans (ih q₁ x₁)

theorem pullsFrom_next (rounds : Nat) (q : QueryResults) (x : Exchange Stage) :
    PullsFrom x.service.history (q.next .publishing rounds x).2.2.service.history
      (q.next .publishing rounds x).1 := by
  unfold next
  split
  · exact ⟨Kept.refl _, nofun⟩
  · exact q.pullsFrom_settle rounds x

theorem decode_of_bearing? {text : String} {payload : TaskPayload}
    (h : bearing? text = some payload) :
    ∃ status, TaskChannel.decode TaskChannel.resultKey (some text) = .ok (some payload) ∧
      payload.status = some status := by
  obtain ⟨hjoin, hstatus⟩ := Option.filter_eq_some_iff.mp h
  obtain ⟨status, hstatus⟩ := Option.isSome_iff_exists.mp hstatus
  refine ⟨status, ?_, hstatus⟩
  cases hdecode : TaskChannel.decode TaskChannel.resultKey (some text) with
  | error f => simp [hdecode, Except.toOption] at hjoin
  | ok found =>
    rw [hdecode] at hjoin
    obtain rfl : found = some payload := hjoin
    rfl

/-- A payload that waits first and carries a status is delivered, whatever the state of the task. -/
theorem next_of_waiting {q : QueryResults} (hopen : q.terminated = false) {rounds : Nat}
    (hrounds : rounds ≠ 0) {x : Exchange Stage} {text : String} {payload : TaskPayload}
    (htext : (waiting x.service.history).head? = some text)
    (hpayload : bearing? text = some payload) :
    (q.next .publishing rounds x).1 = some (.ok (some payload)) := by
  have hfound : x.service.found = some text := by
    rw [Stage.found, Stage.proceed, waiting_append_of_noRead _ (noRead_moves _),
      List.head?_append, htext]
    rfl
  obtain ⟨status, hdecode, hstatus⟩ := decode_of_bearing? hpayload
  obtain ⟨hread, -⟩ := q.channel.read_publishing x
  rw [hfound, hdecode] at hread
  have hstep : (step .publishing (q, x)).1 = some (.ok (some payload)) := by
    rcases hrun : q.channel.read .publishing TaskChannel.resultKey x with ⟨answer, x₁⟩
    rw [hrun] at hread
    obtain rfl : answer = .ok (some payload) := hread
    simp only [step, hrun, hstatus]
  obtain ⟨n, rfl⟩ := Nat.exists_eq_succ_of_ne_zero hrounds
  simp only [next, hopen, Bool.false_eq_true, if_false]
  rw [settle_of_settled hstep, hstep]

end QueryResults

/-- Pulls one after another on one service, each with the number of its rounds. -/
def pullsInARow {σ : Type} (svc : InstanceService σ) :
    List Nat → QueryResults → Exchange σ → List (ResultPull σ)
  | [], _, _ => []
  | rounds :: rest, q, x =>
    let p := q.watch svc rounds x
    p :: pullsInARow svc rest p.after p.left

def leftByPulls {σ : Type} (x : Exchange σ) (pulls : List (ResultPull σ)) : Exchange σ :=
  (pulls.getLast?.map (·.left)).getD x

theorem leftByPulls_cons {σ : Type} (x : Exchange σ) (p : ResultPull σ)
    (pulls : List (ResultPull σ)) : leftByPulls x (p :: pulls) = leftByPulls p.left pulls := by
  cases pulls with
  | nil => rfl
  | cons p' rest => simp [leftByPulls, List.getLast?_cons]

structure Attentive (p : ResultPull Stage) : Prop where
  /-- A pull that fails as a dead session leaves the sequence open, and it has overlooked no more
  than what was published after its last read, or waited behind a payload without a status. -/
  overlooks : ∀ f, p.answer = some (.error f) → f.kind = .sessionFailed →
    p.after.terminated = false ∧ Overlooked p.found.service.history p.left.service.history
  /-- A payload with a status that waits first is delivered, also after the end of the task. -/
  delivers : p.before.terminated = false → p.rounds ≠ 0 → ∀ text payload,
    (waiting p.found.service.history).head? = some text → bearing? text = some payload →
      p.answer = some (.ok (some payload))

theorem attentive_watch (rounds : Nat) (q : QueryResults) (x : Exchange Stage) :
    Attentive (q.watch .publishing rounds x) := by
  refine ⟨fun f hf hkind => ⟨?_, (q.pullsFrom_next rounds x).overlooked f hf hkind⟩,
    fun hopen hrounds text payload => QueryResults.next_of_waiting hopen hrounds⟩
  have hpulled := q.watch_pulled .publishing rounds x
  cases hover : q.terminated with
  | true =>
    have hanswer := (hpulled.of_finished hover).2.1
    simp [hf] at hanswer
  | false =>
    obtain ⟨hdelivers, -, hterminated⟩ := hpulled.of_open hover
    rw [← hdelivers, hf] at hterminated
    simpa [ResultPull.payloads] using hterminated

theorem kept_watch (rounds : Nat) (q : QueryResults) (x : Exchange Stage) :
    Kept x.service.history (q.watch .publishing rounds x).left.service.history
      (ResultPull.payloads (q.watch .publishing rounds x).answer) :=
  (q.pullsFrom_next rounds x).kept

theorem pullsInARow_cons {σ : Type} (svc : InstanceService σ) (n : Nat) (rest : List Nat)
    (q : QueryResults) (x : Exchange σ) : pullsInARow svc (n :: rest) q x =
      q.watch svc n x :: pullsInARow svc rest (q.watch svc n x).after (q.watch svc n x).left := rfl

theorem kept_pullsInARow (rounds : List Nat) (q : QueryResults) (x : Exchange Stage) :
    (∀ p ∈ pullsInARow .publishing rounds q x, Attentive p) ∧
      Kept x.service.history
        (leftByPulls x (pullsInARow .publishing rounds q x)).service.history
        (ResultPull.delivered (pullsInARow .publishing rounds q x)) := by
  induction rounds generalizing q x with
  | nil =>
    rw [pullsInARow]
    exact ⟨List.forall_mem_nil _, Kept.refl _⟩
  | cons n rest ih =>
    obtain ⟨hrest, hkept⟩ := ih (q.watch .publishing n x).after (q.watch .publishing n x).left
    rw [pullsInARow_cons, leftByPulls_cons, ResultPull.delivered, List.flatMap_cons]
    exact ⟨List.forall_mem_cons.mpr ⟨attentive_watch n q x, hrest⟩,
      (kept_watch n q x).trans hkept⟩

/-- Pulls in a row on the results of a query, while the service publishes and ends its task in any
order with their requests. A payload with a status is delivered in its turn or still waits, and a
pull that fails as a dead session has overlooked none but those that were published after its last
read of the channel, or behind a payload without a status that this read took. -/
theorem overtaken_results_kept (plan : List (List ServiceMove)) (surroundings : Exchange Unit)
    (channel : TaskChannel) (pollMs : Nat) (receiver : Shutdown.Receiver) (rounds : List Nat) :
    let x : Exchange Stage := surroundings.withService { plan }
    let pulls := pullsInARow .publishing rounds ⟨channel, pollMs, receiver, false⟩ x
    let left := (leftByPulls x pulls).service.history
    (∀ p ∈ pulls, Attentive p) ∧
      bearing (published left) = ResultPull.delivered pulls ++ bearing (waiting left) := by
  intro x pulls left
  obtain ⟨hpulls, news, hleft, hkept⟩ :=
    kept_pullsInARow rounds ⟨channel, pollMs, receiver, false⟩ x
  -- The history is empty at the start, so all of it is new.
  obtain rfl : news = left := hleft.symm
  exact ⟨hpulls, hkept⟩

/-- A pull fails as a dead session while a payload with a status is published and undelivered. -/
def Misreports (p : ResultPull Stage) : Prop :=
  (∃ f, p.answer = some (.error f) ∧ f.kind = .sessionFailed) ∧
    bearing (waiting p.left.service.history) ≠ []

def finalText : String := "\x7b\"status\": 5, \"result\": \"done\"\x7d"

def firstPull (plan : List (List ServiceMove)) : ResultPull Stage :=
  QueryResults.watch .publishing 3 ⟨⟨⟨"p", "i"⟩, "task"⟩, 3000, ⟨0⟩, false⟩ { service := { plan } }

/-- The final payload is published between the read and the check. -/
def overtakenPull : ResultPull Stage :=
  firstPull [[], [.publish finalText, .turn .success none]]

/-- The final payload waits behind one without a status. -/
def hiddenPull : ResultPull Stage :=
  firstPull [[.publish "\x7b\x7d", .publish finalText, .turn .success none]]

/-- A final payload that was published before the task ended can be undelivered when a pull reports
a dead session: it was published between the read and the check, or behind a payload without a
status. -/
theorem dead_session_reported_before_result :
    overtakenPull.left.service.history = [.read none, .moved (.publish finalText),
      .moved (.turn .success none), .checked (some .success), .explained none] ∧
    Misreports overtakenPull ∧
    hiddenPull.left.service.history = [.moved (.publish "\x7b\x7d"),
      .moved (.publish finalText), .moved (.turn .success none), .read (some "\x7b\x7d"),
      .checked (some .success), .explained none] ∧
    Misreports hiddenPull :=
  ⟨by decide +kernel, ⟨⟨_, rfl, rfl⟩, by decide +kernel⟩, by decide +kernel,
    ⟨⟨_, rfl, rfl⟩, by decide +kernel⟩⟩

end TableExchange
