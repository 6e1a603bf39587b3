import TableExchange.Proofs.Memory.Rehearsals
import TableExchange.Proofs.Write.Resolution

/-!
Commits of a session that fail. A commit can fail because the ledger does not resolve, at its fail
point, on the way to the service, or at the service over one of its messages. None of these changes
the handle, the ledger, or what the service keeps, and once the cause is gone the commit can be made
again.
-/
namespace TableExchange

open Memory (Store Upload)

namespace Ledger

variable {l : Ledger}

def messages (l : Ledger) : List CommitMessage :=
  l.held.values.flatMap SortedMap.values

theorem mem_messages {m : CommitMessage} {block : UInt64} {attempts : Attempts} {attempt : UInt32}
    (hentry : (block, attempts) ∈ l.held.entries) (hm : (attempt, m) ∈ attempts.entries) :
    m ∈ l.messages := by
  have hattempts : attempts ∈ l.held.values := List.mem_map.mpr ⟨_, hentry, rfl⟩
  have hvalue : m ∈ attempts.values := List.mem_map.mpr ⟨_, hm, rfl⟩
  exact List.mem_flatMap.mpr ⟨attempts, hattempts, hvalue⟩

theorem mem_sortOut {m : CommitMessage} {blocks : List (Except Failure (Option CommitMessage))}
    (h : m ∈ (sortOut blocks).1) : .ok (some m) ∈ blocks := by
  induction blocks with
  | nil => simp [sortOut] at h
  | cons b rest ih =>
    rcases b with f | _ | n
    · exact List.mem_cons_of_mem _ (ih h)
    · exact List.mem_cons_of_mem _ (ih h)
    · rcases List.mem_cons.mp h with rfl | h
      · exact List.mem_cons_self
      · exact List.mem_cons_of_mem _ (ih h)

/-- A ledger resolves to messages that it holds. -/
theorem resolve_subset {ms : List CommitMessage} (h : l.resolve = .ok ms) : ms ⊆ l.messages := by
  intro m hm
  simp only [resolve] at h
  split at h
  · obtain rfl := Except.ok.inj h
    obtain ⟨⟨block, attempts⟩, hentry, hblock⟩ := List.mem_map.mp (mem_sortOut hm)
    obtain ⟨attempt, hattempt⟩ := resolveBlock_mem hblock
    exact mem_messages hentry hattempt
  · simp at h

end Ledger

namespace WriteSession

variable {σ υ : Type} (svc : WriteService σ υ) {t : WriteSession} {l : Ledger} {x : Exchange σ}
  {messages : List CommitMessage} {f : Failure}

theorem commit_unresolved (hresolve : l.resolve = .error f) :
    t.commit svc l x = (.error f, t, x) := by
  simp [commit, Ledger.finalize, hresolve]

theorem commit_barred (hresolve : l.resolve = .ok messages)
    (hpoint : (x.passPoint FailPoints.beforeFinalize).1 = .error f) :
    t.commit svc l x = (.error f, t, (x.passPoint FailPoints.beforeFinalize).2) := by
  rcases hpass : x.passPoint FailPoints.beforeFinalize with ⟨verdict, x₁⟩
  rw [hpass] at hpoint
  obtain rfl : verdict = .error f := hpoint
  simp [commit, Ledger.finalize, hresolve, hpass]

/-- A commit that reaches the service answers as the service does. -/
theorem commit_asked (hresolve : l.resolve = .ok messages)
    (hpoint : (x.passPoint FailPoints.beforeFinalize).1 = .ok ()) :
    (t.commit svc l x).1 = (svc.commitSession t.snapshot messages x.service).1 ∧
      (t.commit svc l x).2.2.service = (svc.commitSession t.snapshot messages x.service).2 := by
  have hservice := x.service_passPoint FailPoints.beforeFinalize
  rcases hpass : x.passPoint FailPoints.beforeFinalize with ⟨verdict, x₁⟩
  rw [hpass] at hpoint hservice
  obtain rfl : verdict = .ok () := hpoint
  rcases hask : svc.commitSession t.snapshot messages x.service with ⟨answer, s⟩
  have hanswer : x₁.ask (svc.commitSession t.snapshot messages) =
      (answer, { x₁ with service := s }) := by
    rw [← hservice] at hask
    simp [Exchange.ask, hask]
  cases answer with
  | error f => simp [commit, Ledger.finalize, hresolve, hpass, hanswer]
  | ok snapshot => simp [commit, Ledger.finalize, hresolve, hpass, hanswer]

/-- A handle takes on the snapshot of a commit that succeeds, and nothing else. -/
theorem commit_error (h : (t.commit svc l x).1 = .error f) : (t.commit svc l x).2.1 = t := by
  unfold commit at h ⊢
  split
  · rfl
  · next hok => simp [hok] at h

end WriteSession

/-- A session that is about to be committed: its handle, the ledger of its messages, and the
surroundings of the commit. -/
structure Closing where
  session : WriteSession
  ledger : Ledger
  exchange : Exchange (Rehearsal Store)

namespace Closing

def store (p : Closing) : Store :=
  p.exchange.service.inner

def commit (p : Closing) : Except Failure TableSession × Closing :=
  let r := p.session.commit Memory.rehearsed p.ledger p.exchange
  (r.1, { p with session := r.2.1, exchange := r.2.2 })

/-- The requests of the commit, with the answers that reach the client. -/
def requests (p : Closing) : List (WriteEvent Upload) :=
  (p.session.commit Memory.rehearsed.journaled p.ledger
    (p.exchange.watched (WriteEvent Upload))).2.2.journal

structure Clear (p : Closing) : Prop where
  point : (p.exchange.passPoint FailPoints.beforeFinalize).1 = .ok ()
  fault : p.exchange.service.pending "commit_session" = none

/-- The service knows the session, as it knows every one that it gave out, and every message that is
held for it. -/
structure Acknowledged (p : Closing) : Prop where
  session : Memory.Knows p.store p.session.snapshot.id
  messages : ∀ m ∈ p.ledger.messages, Memory.acknowledges p.store p.session.snapshot.id m = true

/-- The commit fails and the service is not asked. -/
structure Unasked (p : Closing) (f : Failure) : Prop where
  answer : p.commit.1 = .error f
  requests : p.requests = []
  service : p.commit.2.exchange.service = p.exchange.service

/-- The commit is made again: the handle, the ledger and the service are where a first commit left
them, and everything else may have changed. -/
structure Again (p q : Closing) : Prop where
  session : q.session = p.commit.2.session
  ledger : q.ledger = p.commit.2.ledger
  store : q.store = p.commit.2.store

structure Harmless (p : Closing) : Prop where
  /-- A failure changes neither the handle nor the ledger, nor the status of any session or the
  bytes of any block that the service keeps. -/
  unchanged : ∀ f, p.commit.1 = .error f →
    p.commit.2.session = p.session ∧ p.commit.2.ledger = p.ledger ∧
      (∀ id, p.commit.2.store.statusOf id = p.store.statusOf id) ∧
      ∀ id block attempt,
        p.commit.2.store.receivedBlock id block attempt = p.store.receivedBlock id block attempt
  unresolved : ∀ f, p.ledger.resolve = .error f → p.Unasked f
  barred : ∀ messages f, p.ledger.resolve = .ok messages →
    (p.exchange.passPoint FailPoints.beforeFinalize).1 = .error f → p.Unasked f
  faulted : ∀ messages f, p.ledger.resolve = .ok messages →
    (p.exchange.passPoint FailPoints.beforeFinalize).1 = .ok () →
    p.exchange.service.pending "commit_session" = some f →
    p.commit.1 = .error f ∧ p.requests = [.committing p.session.snapshot messages (.error f)]
  /-- One message that the service does not know fails the commit, wherever it stands. -/
  refused : ∀ messages, p.ledger.resolve = .ok messages → p.Clear →
    (∃ m ∈ messages, Memory.acknowledges p.store p.session.snapshot.id m = false) →
    ∃ f, p.commit.1 = .error f ∧
      p.requests = [.committing p.session.snapshot messages (.error f)]
  /-- A commit that failed at the fail point or by a fault goes through without them, with the same
  messages. -/
  repeated : ∀ messages, p.ledger.resolve = .ok messages → ¬p.Clear → p.Acknowledged →
    ∀ q, p.Again q → q.Clear → ∃ t, q.commit.1 = .ok t ∧
      q.requests = [.committing p.session.snapshot messages (.ok t)] ∧
      q.commit.2.store.commits =
        p.store.commits ++ [(p.session.snapshot.id, messages)] ∧
      q.commit.2.store.statusOf p.session.snapshot.id = some .committed

variable {p q : Closing} {messages : List CommitMessage} {f : Failure}

theorem unasked_of_unresolved (h : p.ledger.resolve = .error f) : p.Unasked f where
  answer := congrArg Prod.fst (WriteSession.commit_unresolved Memory.rehearsed h)
  requests := congrArg (·.2.2.journal)
    (WriteSession.commit_unresolved Memory.rehearsed.journaled h)
  service := congrArg (·.2.2.service) (WriteSession.commit_unresolved Memory.rehearsed h)

theorem unasked_of_barred (h : p.ledger.resolve = .ok messages)
    (hpoint : (p.exchange.passPoint FailPoints.beforeFinalize).1 = .error f) : p.Unasked f where
  answer := congrArg Prod.fst (WriteSession.commit_barred Memory.rehearsed h hpoint)
  requests := congrArg (·.2.2.journal)
    (WriteSession.commit_barred Memory.rehearsed.journaled h hpoint)
  service := congrArg (·.2.2.service) (WriteSession.commit_barred Memory.rehearsed h hpoint)

/-- Past the fail point the service is asked once, and its answer is that of the commit. -/
theorem asked (h : p.ledger.resolve = .ok messages)
    (hpoint : (p.exchange.passPoint FailPoints.beforeFinalize).1 = .ok ()) :
    p.requests = [.committing p.session.snapshot messages p.commit.1] ∧
      Memory.rehearsed.commitSession p.session.snapshot messages p.exchange.service =
        (p.commit.1, p.commit.2.exchange.service) := by
  obtain ⟨hanswer, hservice⟩ := WriteSession.commit_asked Memory.rehearsed h hpoint
  have hnoted := (WriteSession.commit_asked Memory.rehearsed.journaled (t := p.session)
    (x := p.exchange.watched (WriteEvent Upload)) h hpoint).2
  have hrequests : p.requests = [.committing p.session.snapshot messages
      (Memory.rehearsed.commitSession p.session.snapshot messages p.exchange.service).1] :=
    congrArg Prod.snd hnoted
  rw [← hanswer] at hrequests
  exact ⟨hrequests, (Prod.ext hanswer hservice).symm⟩

/-- A fault keeps the commit from the service. -/
theorem faulted (h : p.ledger.resolve = .ok messages)
    (hpoint : (p.exchange.passPoint FailPoints.beforeFinalize).1 = .ok ())
    (hfault : p.exchange.service.pending "commit_session" = some f) :
    p.commit.1 = .error f ∧ p.commit.2.store = p.store := by
  obtain ⟨hanswer, hinner⟩ := Rehearsal.attempt_pending hfault
    (Rehearsal.handOn (Memory.commitSession p.session.snapshot messages))
  have hasked := (asked h hpoint).2
  exact ⟨(congrArg Prod.fst hasked).symm.trans hanswer,
    (congrArg (·.2.inner) hasked).symm.trans hinner⟩

/-- With nothing in the way the in-memory service answers. -/
theorem Clear.answered (hc : p.Clear) (h : p.ledger.resolve = .ok messages) :
    (Memory.commitSession p.session.snapshot messages p.store).1 = p.commit.1 ∧
      (Memory.commitSession p.session.snapshot messages p.store).2 = p.commit.2.store := by
  obtain ⟨hanswer, hinner⟩ := Rehearsal.attempt_handOn hc.fault
    (Memory.commitSession p.session.snapshot messages)
  have hasked := (asked h hc.point).2
  exact ⟨hanswer.symm.trans (congrArg Prod.fst hasked),
    hinner.symm.trans (congrArg (·.2.inner) hasked)⟩

/-- What failed before the service or on the way to it has not changed the store. -/
theorem store_of_not_clear (h : p.ledger.resolve = .ok messages) (hc : ¬p.Clear) :
    p.commit.2.store = p.store := by
  cases hpoint : (p.exchange.passPoint FailPoints.beforeFinalize).1 with
  | error f => exact congrArg Rehearsal.inner (unasked_of_barred h hpoint).service
  | ok passed =>
    cases hfault : p.exchange.service.pending "commit_session" with
    | none => exact absurd ⟨hpoint, hfault⟩ hc
    | some f => exact (faulted h hpoint hfault).2

/-- A failed commit leaves no trace in the store but the request. -/
theorem kept_of_error (h : p.commit.1 = .error f) :
    (∀ id, p.commit.2.store.statusOf id = p.store.statusOf id) ∧
      p.commit.2.store.received = p.store.received := by
  have hsame : p.commit.2.store = p.store →
      (∀ id, p.commit.2.store.statusOf id = p.store.statusOf id) ∧
        p.commit.2.store.received = p.store.received := by
    intro heq
    rw [heq]
    exact ⟨fun _ => rfl, rfl⟩
  cases hresolve : p.ledger.resolve with
  | error f => exact hsame (congrArg Rehearsal.inner (unasked_of_unresolved hresolve).service)
  | ok messages =>
    by_cases hc : p.Clear
    · obtain ⟨hanswer, hstore⟩ := hc.answered hresolve
      rw [← hstore]
      exact ⟨Memory.statusOf_commitSession_error (hanswer.trans h),
        Memory.received_commitSession p.session.snapshot messages p.store⟩
    · exact hsame (store_of_not_clear hresolve hc)

/-- A message that the service does not know is found, whatever stands around it. -/
theorem refused_of_unknown (hc : p.Clear) (h : p.ledger.resolve = .ok messages)
    {m : CommitMessage} (hm : m ∈ messages)
    (hunknown : Memory.acknowledges p.store p.session.snapshot.id m = false) :
    ∃ f, p.commit.1 = .error f := by
  rw [← (hc.answered h).1]
  simp only [Memory.commitSession]
  split
  · exact ⟨_, rfl⟩
  · next hnone =>
    have hknown := List.find?_eq_none.mp hnone m hm
    have hasked : Memory.acknowledges { p.store with
        commits := p.store.commits ++ [(p.session.snapshot.id, messages)] }
        p.session.snapshot.id m = false := hunknown
    simp [hasked] at hknown

/-- A commit of acknowledged messages that nothing is in the way of goes through. -/
theorem Acknowledged.accepts (ha : p.Acknowledged) (hc : p.Clear)
    (h : p.ledger.resolve = .ok messages) : ∃ t, p.commit.1 = .ok t ∧
      p.commit.2.store.commits = p.store.commits ++ [(p.session.snapshot.id, messages)] ∧
      p.commit.2.store.statusOf p.session.snapshot.id = some .committed := by
  obtain ⟨hanswer, hstore⟩ := hc.answered h
  have hmessages : ∀ m ∈ messages, m.token = Memory.token m.block m.attempt ∧
      (Memory.lookup ⟨p.session.snapshot.id, m.block, m.attempt⟩
        p.store.received).isSome = true := by
    intro m hm
    have hack := ha.messages m (Ledger.resolve_subset h hm)
    simp only [Memory.acknowledges, Bool.and_eq_true, beq_iff_eq] at hack
    exact hack.symm
  obtain ⟨t, hok, -⟩ := Memory.commitSession_accepts ha.session hmessages
  refine ⟨t, hanswer.symm.trans hok, ?_, ?_⟩
  · rcases Memory.commitSession_cases p.session.snapshot messages p.store with
      ⟨⟨f, hf⟩, -⟩ | ⟨-, -, hleft⟩
    · simp [hok] at hf
    · obtain ⟨sessions, hset⟩ := Memory.setStatus_spec p.session.snapshot.id .committed
        { p.store with commits := p.store.commits ++ [(p.session.snapshot.id, messages)] }
      rw [← hstore, hleft, hset]
  · rw [← hstore, Memory.statusOf_commitSession_ok hok, if_pos rfl]

theorem Again.acknowledged (hq : p.Again q) (hsession : p.commit.2.session = p.session)
    (hstore : p.commit.2.store = p.store) (ha : p.Acknowledged) : q.Acknowledged := by
  have hledger : q.ledger = p.ledger := hq.ledger
  constructor
  · rw [hq.session, hq.store, hsession, hstore]
    exact ha.session
  · rw [hq.session, hq.store, hsession, hstore, hledger]
    exact ha.messages

theorem error_of_not_clear (h : p.ledger.resolve = .ok messages) (hc : ¬p.Clear) :
    ∃ f, p.commit.1 = .error f := by
  cases hpoint : (p.exchange.passPoint FailPoints.beforeFinalize).1 with
  | error f => exact ⟨f, (unasked_of_barred h hpoint).answer⟩
  | ok passed =>
    cases hfault : p.exchange.service.pending "commit_session" with
    | none => exact absurd ⟨hpoint, hfault⟩ hc
    | some f => exact ⟨f, (faulted h hpoint hfault).1⟩

theorem repeated (h : p.ledger.resolve = .ok messages) (hc : ¬p.Clear) (ha : p.Acknowledged)
    (hq : p.Again q) (hclear : q.Clear) : ∃ t, q.commit.1 = .ok t ∧
      q.requests = [.committing p.session.snapshot messages (.ok t)] ∧
      q.commit.2.store.commits = p.store.commits ++ [(p.session.snapshot.id, messages)] ∧
      q.commit.2.store.statusOf p.session.snapshot.id = some .committed := by
  obtain ⟨f, hf⟩ := error_of_not_clear h hc
  have hsession : p.commit.2.session = p.session := WriteSession.commit_error _ hf
  have hstore := store_of_not_clear h hc
  have hresolve : q.ledger.resolve = .ok messages := by rw [hq.ledger]; exact h
  obtain ⟨t, hok, hcommits, hstatus⟩ :=
    (hq.acknowledged hsession hstore ha).accepts hclear hresolve
  have hrequests := (asked hresolve hclear.point).1
  rw [hq.session, hsession] at hcommits hstatus hrequests
  rw [hq.store, hstore] at hcommits
  rw [hok] at hrequests
  exact ⟨t, hok, hrequests, hcommits, hstatus⟩

end Closing

/-- Whatever makes a commit fail, nothing is changed by it, and it can be made again. -/
theorem commit_harmless (p : Closing) : p.Harmless where
  unchanged f h := by
    obtain ⟨hstatus, hreceived⟩ := Closing.kept_of_error h
    refine ⟨WriteSession.commit_error _ h, rfl, hstatus, fun id block attempt => ?_⟩
    rw [Store.receivedBlock, hreceived]
    rfl
  unresolved _ h := Closing.unasked_of_unresolved h
  barred _ _ h hpoint := Closing.unasked_of_barred h hpoint
  faulted messages f h hpoint hfault := by
    obtain ⟨hanswer, -⟩ := Closing.faulted h hpoint hfault
    refine ⟨hanswer, ?_⟩
    rw [(Closing.asked h hpoint).1, hanswer]
  refused messages h hc hunknown := by
    obtain ⟨m, hm, hack⟩ := hunknown
    obtain ⟨f, hf⟩ := Closing.refused_of_unknown hc h hm hack
    refine ⟨f, hf, ?_⟩
    rw [(Closing.asked h hc.point).1, hf]
  repeated _ h hc ha _ hq hclear := Closing.repeated h hc ha hq hclear

/-- Two blocks of a session, one of them in two attempts of which the first was chosen, and a fail
point that is armed for one turn. -/
def barredClosing : Closing where
  session := { snapshot := ⟨"session-1", ⟨"p", "default", "t"⟩, .batchWrite, .active, none, none⟩
               config := {} }
  ledger := ((Ledger.start .reject).addAll
    [⟨1, 0, "token-1-0"⟩, ⟨0, 0, "token-0-0"⟩, ⟨1, 1, "token-1-1"⟩]).2.choose 1 0
  exchange := {
    service := {
      inner := {
        sessions := [("session-1", ⟨"session-1", ⟨"p", "default", "t"⟩, .batchWrite, .active, none,
          none⟩)]
        received := [(⟨"session-1", 1, 0⟩, [1]), (⟨"session-1", 0, 0⟩, [2]),
          (⟨"session-1", 1, 1⟩, [3])] } }
    failPoints := [(FailPoints.beforeFinalize, [⟨some 1, .fail none⟩])] }

theorem commit_harmless_when_barred :
    barredClosing.commit.1 = .error (FailPoints.injected FailPoints.beforeFinalize none) ∧
      barredClosing.requests = [] ∧
      ∃ t, barredClosing.commit.2.commit.1 = .ok t ∧
        barredClosing.commit.2.requests =
          [.committing barredClosing.session.snapshot [⟨0, 0, "token-0-0"⟩, ⟨1, 0, "token-1-0"⟩]
            (.ok t)] := by
  have hresolve : barredClosing.ledger.resolve =
      .ok [⟨0, 0, "token-0-0"⟩, ⟨1, 0, "token-1-0"⟩] := rfl
  have hpoint : (barredClosing.exchange.passPoint FailPoints.beforeFinalize).1 =
      .error (FailPoints.injected FailPoints.beforeFinalize none) := rfl
  have hc : ¬barredClosing.Clear := by
    intro hc
    have hpassed := hc.point
    rw [hpoint] at hpassed
    contradiction
  have ha : barredClosing.Acknowledged := ⟨⟨_, rfl, rfl⟩, by decide⟩
  have hharmless := commit_harmless barredClosing
  obtain ⟨hanswer, hrequests, -⟩ := hharmless.barred _ _ hresolve hpoint
  obtain ⟨t, hok, hrequest, -⟩ := hharmless.repeated _ hresolve hc ha barredClosing.commit.2
    ⟨rfl, rfl, rfl⟩ ⟨rfl, rfl⟩
  exact ⟨hanswer, hrequests, t, hok, hrequest⟩

end TableExchange
