import TableExchange.Proofs.Memory.StoredSessions
import TableExchange.Proofs.Write.Attempts
import TableExchange.Session.Coordinator

/-!
Sessions of the in-memory service that are over, under any number of handles and writers whose
operations come in any order. An ended session does not stay as it is: a commit that goes through
marks it as committed, whatever it was, and a writer that had its upload open when the session ended
can still store the bytes. Nothing else changes it.
-/
namespace TableExchange

open Memory (Store Upload BlockKey Over Numbered)

variable {β : Type}

def BlockWriter.HasOpen (w : BlockWriter Upload) (key : BlockKey) : Prop :=
  ∃ u, w.stage = .opened u ∧ u.key = key

/-- What a call of a writer leaves of a store: sessions are left alone, bytes are stored by a commit
of the open upload, and no upload is opened for a session that is over. -/
structure Uploads (call : WriterCall β) (w w' : BlockWriter Upload) (s s' : Store) : Prop where
  sessions : s'.sessions = s.sessions
  issued : s'.issued = s.issued
  received : s'.received = s.received ∨ call = .commit ∧
    ∃ u, w.stage = .opened u ∧ s'.received = Memory.assign u.key u.buffer s.received
  opens : ∀ key, w'.HasOpen key → w.HasOpen key ∨ ¬Over key.sessionId s

namespace Uploads

variable {call : WriterCall β} {w w' : BlockWriter Upload} {s s' : Store}

theorem refl (call : WriterCall β) (w : BlockWriter Upload) (s : Store) : Uploads call w w s s :=
  ⟨rfl, rfl, .inl rfl, fun _ h => .inl h⟩

/-- A writer that is not open has no upload. -/
theorem closed (hsessions : s'.sessions = s.sessions) (hissued : s'.issued = s.issued)
    (hreceived : s'.received = s.received ∨ call = .commit ∧
      ∃ u, w.stage = .opened u ∧ s'.received = Memory.assign u.key u.buffer s.received)
    (hstage : w'.stage.isOpen = false) : Uploads call w w' s s' := by
  refine ⟨hsessions, hissued, hreceived, ?_⟩
  rintro key ⟨u, hu, -⟩
  simp [hu, WriterStage.isOpen] at hstage

theorem of_written {x : Exchange Store} {codec : Codec β} {batch : β}
    {events : List (WriteEvent Upload)} {answer : Except Failure Unit}
    (hw : w.Written x codec batch events answer w')
    (hled : Led Memory.writing x.service events s') :
    Uploads (.write codec batch) w w' x.service s' := by
  cases hw with
  | closed _ | unencoded _ _ | barred _ _ _ =>
    obtain rfl := led_nil_iff.mp hled
    exact refl _ _ _
  | unopened _ _ _ =>
    obtain ⟨s₁, hopen, hrest⟩ := led_cons_iff.mp hled
    obtain rfl := led_nil_iff.mp hrest
    obtain ⟨rfl, -⟩ := Memory.openBlock_leaves hopen
    exact ⟨rfl, rfl, .inl rfl, fun _ h => .inl h⟩
  | sent _ hup =>
    cases hup with
    | held hstage =>
      obtain ⟨s₁, hsend, hrest⟩ := led_cons_iff.mp hled
      obtain rfl := led_nil_iff.mp hrest
      obtain ⟨-, hkey, rfl⟩ := Memory.sendChunk_leaves hsend
      refine ⟨rfl, rfl, .inl rfl, ?_⟩
      rintro key ⟨v, hv, rfl⟩
      obtain rfl := WriterStage.opened.inj hv
      exact .inl ⟨_, hstage, hkey.symm⟩
    | opened _ _ =>
      obtain ⟨s₁, hopen, hrest⟩ := led_cons_iff.mp hled
      obtain ⟨s₂, hsend, hlast⟩ := led_cons_iff.mp hrest
      obtain rfl := led_nil_iff.mp hlast
      obtain ⟨-, hkey, rfl⟩ := Memory.sendChunk_leaves hsend
      obtain ⟨rfl, hopened⟩ := Memory.openBlock_leaves hopen
      obtain ⟨hrequested, hlive⟩ := hopened _ rfl
      refine ⟨rfl, rfl, .inl rfl, ?_⟩
      rintro key ⟨v, hv, rfl⟩
      obtain rfl := WriterStage.opened.inj hv
      rw [hkey, hrequested]
      exact .inr hlive
  | unsent _ hup =>
    -- The service takes all bytes.
    obtain ⟨s₁, -, hrest⟩ := led_append_iff.mp hled
    obtain ⟨s₂, hsend, -⟩ := led_cons_iff.mp hrest
    obtain ⟨htaken, -⟩ := Memory.sendChunk_leaves hsend
    simp at htaken

theorem of_ended {x : Exchange Store} {events : List (WriteEvent Upload)}
    {answer : Except Failure (Option CommitMessage)} (he : w.Ended x events answer w')
    (hled : Led Memory.writing x.service events s') :
    Uploads (.commit : WriterCall β) w w' x.service s' := by
  cases he with
  | empty _ =>
    obtain rfl := led_nil_iff.mp hled
    exact closed rfl rfl (.inl rfl) rfl
  | again _ _ | closed _ _ =>
    obtain rfl := led_nil_iff.mp hled
    exact refl _ _ _
  | barred _ _ =>
    obtain ⟨s₁, rfl, hrest⟩ := led_cons_iff.mp hled
    obtain rfl := led_nil_iff.mp hrest
    exact closed rfl rfl (.inl rfl) rfl
  | finished hstage _ | unfinished hstage _ =>
    obtain ⟨s₁, hfinish, hrest⟩ := led_cons_iff.mp hled
    obtain rfl := led_nil_iff.mp hrest
    rcases Memory.finishBlock_leaves hfinish with rfl | rfl
    · exact closed rfl rfl (.inl rfl) rfl
    · exact closed rfl rfl (.inr ⟨rfl, _, hstage, rfl⟩) rfl

theorem of_givenUp {events : List (WriteEvent Upload)} (hg : w.GivenUp events w')
    (hled : Led Memory.writing s events s') : Uploads (.abort : WriterCall β) w w' s s' := by
  cases hg with
  | committed _ | aborted _ =>
    obtain rfl := led_nil_iff.mp hled
    exact refl _ _ _
  | opened _ =>
    obtain ⟨s₁, rfl, hrest⟩ := led_cons_iff.mp hled
    obtain rfl := led_nil_iff.mp hrest
    exact closed rfl rfl (.inl rfl) rfl
  | idle _ =>
    obtain rfl := led_nil_iff.mp hled
    exact closed rfl rfl (.inl rfl) rfl

end Uploads

theorem WriterCall.uploads (call : WriterCall β) (w : BlockWriter Upload) (x : Exchange Store) :
    Uploads call w (call.make Memory.writing w x).2.1 x.service
      (call.make Memory.writing w x).2.2.service := by
  have hled := w.make_led Memory.writing call x
  have hmade := Visit.made Memory.writing call w x
  cases call with
  | write codec batch =>
    cases hmade with
    | write hw => exact .of_written hw hled
  | commit =>
    cases hmade with
    | commit he => exact .of_ended he hled
  | abort =>
    cases hmade with
    | abort hg => exact .of_givenUp hg hled

/-- Clients of the in-memory service: their surroundings, and the handles and writers they have. -/
structure Clients where
  exchange : Exchange Store := { service := {} }
  reads : List ReadSession := []
  writes : List WriteSession := []
  writers : List (BlockWriter Upload) := []

/-- An operation of a client on the handle or the writer with a number. Splits, failures and fail
points can be arranged at any time. -/
inductive ClientMove (β : Type)
  | addSplits (table : TableRef) (splits : List Split)
  | failOpen (block : UInt64) (attempt : UInt32)
  | failFinish (block : UInt64) (attempt : UInt32)
  | arm (points : FailPoints)
  | createRead (table : TableRef) (scope : Scope)
  | attachRead (table : TableRef) (id : String) (scope : Scope)
  | refreshRead (i : Nat)
  | stopRead (i : Nat)
  | createWrite (table : TableRef) (options : WriteOptions)
  | attachWrite (table : TableRef) (id : String)
  | refreshWrite (i : Nat)
  | stopWrite (i : Nat)
  | commit (i : Nat) (ledger : Ledger)
  | writer (i : Nat) (block : UInt64) (attempt : UInt32)
  | call (j : Nat) (call : WriterCall β)

/-- Adds a handle, if the session was created or found. -/
def enlist {τ : Type} (handles : List τ) :
    Except Failure τ × Exchange Store → List τ × Exchange Store
  | (.ok t, x) => (handles ++ [t], x)
  | (.error _, x) => (handles, x)

def useAt {τ : Type} (operation : τ → Exchange Store → τ × Exchange Store) (handles : List τ)
    (i : Nat) (x : Exchange Store) : List τ × Exchange Store :=
  match handles[i]? with
  | none => (handles, x)
  | some t => (handles.set i (operation t x).1, (operation t x).2)

section Handles

variable {τ : Type} {handles : List τ} {i : Nat}
  {operation : τ → Exchange Store → τ × Exchange Store}

@[simp] theorem enlist_snd (handles : List τ) (r : Except Failure τ × Exchange Store) :
    (enlist handles r).2 = r.2 := by
  rcases r with ⟨_ | t, x⟩
  · rfl
  · rfl

theorem useAt_none (h : handles[i]? = none) (x : Exchange Store) :
    useAt operation handles i x = (handles, x) := by
  simp [useAt, h]

theorem useAt_some {t : τ} (h : handles[i]? = some t) (x : Exchange Store) :
    useAt operation handles i x = (handles.set i (operation t x).1, (operation t x).2) := by
  simp [useAt, h]

theorem spares_useAt (h : ∀ t x, Memory.Spares x.service (operation t x).2.service)
    (handles : List τ) (i : Nat) (x : Exchange Store) :
    Memory.Spares x.service (useAt operation handles i x).2.service := by
  cases hused : handles[i]? with
  | none =>
    rw [useAt_none hused]
    exact .refl _
  | some t =>
    rw [useAt_some hused]
    exact h t x

end Handles

namespace Clients

def store (p : Clients) : Store :=
  p.exchange.service

def arrange (p : Clients) (change : Store → Store) : Clients :=
  { p with exchange := { p.exchange with service := change p.exchange.service } }

/-- Takes on new handles of read sessions and the surroundings that they were left in. -/
def withReads (p : Clients) (r : List ReadSession × Exchange Store) : Clients :=
  { p with reads := r.1, exchange := r.2 }

/-- Takes on new handles of write sessions and the surroundings that they were left in. -/
def withWrites (p : Clients) (r : List WriteSession × Exchange Store) : Clients :=
  { p with writes := r.1, exchange := r.2 }

/-- Takes on new writers and the surroundings that they were left in. -/
def withWriters (p : Clients) (r : List (BlockWriter Upload) × Exchange Store) : Clients :=
  { p with writers := r.1, exchange := r.2 }

def make (c : Coordinator) (p : Clients) : ClientMove β → Clients
  | .addSplits table splits => p.arrange (·.addSplits table splits)
  | .failOpen block attempt => p.arrange (·.failOpen block attempt)
  | .failFinish block attempt => p.arrange (·.failFinish block attempt)
  | .arm points => { p with exchange := { p.exchange with failPoints := points } }
  | .createRead table scope =>
    p.withReads (enlist p.reads (Coordinator.createRead Memory.reading table scope p.exchange))
  | .attachRead table id scope =>
    p.withReads (enlist p.reads (Coordinator.attachRead Memory.reading table id scope p.exchange))
  | .refreshRead i =>
    p.withReads (useAt (fun t x => (t.refresh Memory.reading x).2) p.reads i p.exchange)
  | .stopRead i => p.withReads (useAt (fun t x => (t.stop Memory.reading x).2) p.reads i p.exchange)
  | .createWrite table options =>
    p.withWrites (enlist p.writes (c.createWrite Memory.writing table options p.exchange))
  | .attachWrite table id =>
    p.withWrites (enlist p.writes (c.attachWrite Memory.writing table id p.exchange))
  | .refreshWrite i =>
    p.withWrites (useAt (fun t x => (t.refresh Memory.writing x).2) p.writes i p.exchange)
  | .stopWrite i =>
    p.withWrites (useAt (fun t x => (t.stop Memory.writing x).2) p.writes i p.exchange)
  | .commit i ledger =>
    p.withWrites (useAt (fun t x => (t.commit Memory.writing ledger x).2) p.writes i p.exchange)
  | .writer i block attempt =>
    { p with writers := p.writers ++ (p.writes[i]?.map (·.writer block attempt)).toList }
  | .call j call =>
    p.withWriters (useAt (fun w x => (call.make Memory.writing w x).2) p.writers j p.exchange)

def run (c : Coordinator) (p : Clients) (moves : List (ClientMove β)) : Clients :=
  moves.foldl (make c) p

def Holds (p : Clients) (j : Nat) (key : BlockKey) : Prop :=
  ∃ w, p.writers[j]? = some w ∧ w.HasOpen key

def Commits (p : Clients) (id : String) : ClientMove β → Prop
  | .commit i ledger => ∃ t, p.writes[i]? = some t ∧ t.snapshot.id = id ∧
      ∃ s, (t.commit Memory.writing ledger p.exchange).1 = .ok s
  | _ => False

end Clients

section Operations

open Memory (Spares)

theorem spares_of_ask {α : Type} {request : Store → Reply Store α}
    (hrequest : ∀ s, Spares s (request s).2) {x x' : Exchange Store} {answer : Except Failure α}
    (h : x.ask request = (answer, x')) : Spares x.service x'.service := by
  have hleft := hrequest x.service
  rwa [Exchange.request_of_ask h] at hleft

variable (x : Exchange Store)

theorem spares_attachRead (table : TableRef) (id : String) (scope : Scope) :
    Spares x.service (Coordinator.attachRead Memory.reading table id scope x).2.service := by
  unfold Coordinator.attachRead
  split
  · next hask => exact spares_of_ask (Memory.spares_lookUp table id _) hask
  · next hask => exact spares_of_ask (Memory.spares_lookUp table id _) hask

theorem spares_attachWrite (c : Coordinator) (table : TableRef) (id : String) :
    Spares x.service (c.attachWrite Memory.writing table id x).2.service := by
  unfold Coordinator.attachWrite
  split
  · next hask => exact spares_of_ask (Memory.spares_lookUp table id _) hask
  · next hask => exact spares_of_ask (Memory.spares_lookUp table id _) hask

theorem spares_refreshRead (t : ReadSession) :
    Spares x.service (t.refresh Memory.reading x).2.2.service := by
  unfold ReadSession.refresh
  split
  · next hask => exact spares_of_ask (Memory.spares_lookUp t.snapshot.table _ _) hask
  · next hask => exact spares_of_ask (Memory.spares_lookUp t.snapshot.table _ _) hask

theorem spares_refreshWrite (t : WriteSession) :
    Spares x.service (t.refresh Memory.writing x).2.2.service := by
  unfold WriteSession.refresh
  split
  · next hask => exact spares_of_ask (Memory.spares_lookUp t.snapshot.table _ _) hask
  · next hask => exact spares_of_ask (Memory.spares_lookUp t.snapshot.table _ _) hask

theorem spares_stopRead (t : ReadSession) :
    Spares x.service (t.stop Memory.reading x).2.2.service := by
  unfold ReadSession.stop
  split
  · exact .refl _
  · split
    · next hask => exact spares_of_ask (Memory.spares_release _) hask
    · next hask => exact spares_of_ask (Memory.spares_release _) hask

theorem spares_stopWrite (t : WriteSession) :
    Spares x.service (t.stop Memory.writing x).2.2.service := by
  unfold WriteSession.stop
  split
  · exact .refl _
  · split
    · next hask => exact spares_of_ask (Memory.spares_release _) hask
    · next hask => exact spares_of_ask (Memory.spares_release _) hask

structure Commit (id : String) (answer : Except Failure TableSession) (s s' : Store) : Prop where
  numbered : Numbered s → Numbered s'
  received : s'.received = s.received
  failed : ∀ f, answer = .error f → ∀ other, s'.statusOf other = s.statusOf other
  succeeded : ∀ u, answer = .ok u → ∀ other,
    s'.statusOf other = if other = id then some .committed else s.statusOf other

theorem Commit.of_unasked (id : String) (f : Failure) (s : Store) : Commit id (.error f) s s :=
  ⟨fun h => h, rfl, fun _ _ _ => rfl, by simp⟩

theorem Commit.of_ask {t : TableSession} {messages : List CommitMessage} {s s' : Store}
    {answer : Except Failure TableSession}
    (h : Memory.commitSession t messages s = (answer, s')) : Commit t.id answer s s' := by
  have hanswer : (Memory.commitSession t messages s).1 = answer := by rw [h]
  obtain rfl : (Memory.commitSession t messages s).2 = s' := by rw [h]
  refine ⟨fun hn => hn.commitSession t messages, Memory.received_commitSession t messages s, ?_, ?_⟩
  · rintro f rfl
    exact Memory.statusOf_commitSession_error hanswer
  · rintro u rfl
    exact Memory.statusOf_commitSession_ok hanswer

theorem Commit.of_committed {t t' : WriteSession} {l : Ledger} {s s' : Store}
    {events : List (WriteEvent Upload)} {answer : Except Failure TableSession}
    (h : WriteSession.Committed Memory.writing t l s events answer t' s') :
    Commit t.snapshot.id answer s s' := by
  cases h with
  | unresolved _ => exact .of_unasked _ _ _
  | barred _ _ => exact .of_unasked _ _ _
  | refused _ hask => exact .of_ask hask
  | accepted _ hask => exact .of_ask hask

end Operations

namespace Clients

structure Step (p : Clients) (m : ClientMove β) (p' : Clients) : Prop where
  numbered : Numbered p.store → Numbered p'.store
  status : Numbered p.store → ∀ id, Over id p.store → ¬p.Commits id m →
    p'.store.statusOf id = p.store.statusOf id
  committed : ∀ id, p.Commits id m → p'.store.statusOf id = some .committed
  received : ∀ key, Memory.lookup key p'.store.received = Memory.lookup key p.store.received ∨
    ∃ j, m = .call j .commit ∧ p.Holds j key
  opens : ∀ j key, Over key.sessionId p.store → p'.Holds j key → p.Holds j key

variable {p p' : Clients} {m : ClientMove β}

/-- Most moves spare ended sessions and leave the writers alone. -/
theorem Step.of_spares (hcommits : ∀ id, ¬p.Commits id m)
    (hspares : Memory.Spares p.store p'.store) (hwriters : p'.writers = p.writers) :
    Step p m p' where
  numbered := hspares.numbered
  status hnumbered id hover _ := hspares.kept hnumbered id hover
  committed id h := absurd h (hcommits id)
  received key := .inl (by rw [hspares.received])
  opens j key _ h := by rwa [Holds, hwriters] at h

/-- A new writer has no upload. -/
theorem step_writer (c : Coordinator) (p : Clients) (i : Nat) (block : UInt64)
    (attempt : UInt32) : Step p (.writer i block attempt : ClientMove β)
      (p.make c (.writer i block attempt : ClientMove β)) where
  numbered h := h
  status _ _ _ _ := rfl
  committed _ h := h.elim
  received _ := .inl rfl
  opens j key _ := by
    rintro ⟨w, hw, u, hu, hkey⟩
    simp only [make] at hw
    rcases Nat.lt_or_ge j p.writers.length with hold | hnew
    · rw [List.getElem?_append_left hold] at hw
      exact ⟨w, hw, u, hu, hkey⟩
    · rw [List.getElem?_append_right hnew] at hw
      obtain ⟨t, -, rfl⟩ : ∃ t, p.writes[i]? = some t ∧ t.writer block attempt = w := by
        simpa using List.mem_of_getElem? hw
      simp [WriteSession.writer] at hu

theorem step_commit (c : Coordinator) (p : Clients) (i : Nat) (ledger : Ledger) :
    Step p (.commit i ledger : ClientMove β) (p.make c (.commit i ledger : ClientMove β)) := by
  simp only [make]
  cases ht : p.writes[i]? with
  | none =>
    rw [useAt_none ht]
    refine .of_spares ?_ (.refl _) rfl
    rintro id ⟨t, hsome, -⟩
    simp [ht] at hsome
  | some t =>
    rw [useAt_some ht]
    have hcommit := Commit.of_committed (t.committed Memory.writing ledger p.exchange)
    constructor
    · exact hcommit.numbered
    · intro _ id _ hnot
      cases hanswer : (t.commit Memory.writing ledger p.exchange).1 with
      | error f => exact hcommit.failed f hanswer id
      | ok u =>
        have hne : id ≠ t.snapshot.id := fun heq => hnot ⟨t, ht, heq.symm, u, hanswer⟩
        exact (hcommit.succeeded u hanswer id).trans (if_neg hne)
    · rintro id ⟨t', ht', hid, u, hanswer⟩
      obtain rfl : t = t' := by simpa [ht] using ht'
      exact (hcommit.succeeded u hanswer id).trans (if_pos hid.symm)
    · exact fun key => .inl (congrArg (Memory.lookup key) hcommit.received)
    · exact fun j key _ h => h

theorem step_call (c : Coordinator) (p : Clients) (j : Nat) (call : WriterCall β) :
    Step p (.call j call) (p.make c (.call j call)) := by
  simp only [make]
  cases hw : p.writers[j]? with
  | none =>
    rw [useAt_none hw]
    exact .of_spares (fun _ h => h) (.refl _) rfl
  | some w =>
    rw [useAt_some hw]
    have huploads := call.uploads w p.exchange
    constructor
    · exact fun h => h.of_eq huploads.sessions huploads.issued
    · exact fun _ id _ _ => Memory.statusOf_of_eq huploads.sessions id
    · exact fun _ h => h.elim
    · intro key
      rcases huploads.received with hsame | ⟨rfl, u, hu, hstored⟩
      · exact .inl (congrArg (Memory.lookup key) hsame)
      · by_cases hkey : key = u.key
        · exact .inr ⟨j, rfl, w, hw, u, hu, hkey.symm⟩
        · refine .inl ((congrArg (Memory.lookup key) hstored).trans ?_)
          exact Memory.lookup_assign_of_ne hkey _ _
    · rintro k key hover ⟨w', hw', hopen⟩
      change (p.writers.set j _)[k]? = some w' at hw'
      by_cases hjk : j = k
      · subst hjk
        obtain ⟨hj, -⟩ := List.getElem?_eq_some_iff.mp hw
        rw [List.getElem?_set_self hj] at hw'
        obtain rfl := Option.some.inj hw'
        rcases huploads.opens key hopen with hheld | hlive
        · exact ⟨w, hw, hheld⟩
        · exact absurd hover hlive
      · rw [List.getElem?_set_ne hjk] at hw'
        exact ⟨w', hw', hopen⟩

theorem step_made (c : Coordinator) (p : Clients) (m : ClientMove β) : Step p m (p.make c m) := by
  cases m with
  | addSplits | failOpen | failFinish | arm =>
    exact .of_spares (fun _ h => h) (Memory.spares_of_eq rfl rfl rfl) rfl
  | createRead table scope =>
    exact .of_spares (fun _ h => h) (Memory.spares_openSession _ _ _ _) rfl
  | attachRead table id scope =>
    refine .of_spares (fun _ h => h) ?_ rfl
    simpa [make, withReads, store] using spares_attachRead p.exchange table id scope
  | refreshRead i =>
    exact .of_spares (fun _ h => h) (spares_useAt (fun t x => spares_refreshRead x t) _ i _) rfl
  | stopRead i =>
    exact .of_spares (fun _ h => h) (spares_useAt (fun t x => spares_stopRead x t) _ i _) rfl
  | createWrite table options =>
    exact .of_spares (fun _ h => h) (Memory.spares_openSession _ _ _ _) rfl
  | attachWrite table id =>
    refine .of_spares (fun _ h => h) ?_ rfl
    simpa [make, withWrites, store] using spares_attachWrite p.exchange c table id
  | refreshWrite i =>
    exact .of_spares (fun _ h => h) (spares_useAt (fun t x => spares_refreshWrite x t) _ i _) rfl
  | stopWrite i =>
    exact .of_spares (fun _ h => h) (spares_useAt (fun t x => spares_stopWrite x t) _ i _) rfl
  | commit i ledger => exact step_commit c p i ledger
  | writer i block attempt => exact step_writer c p i block attempt
  | call j call => exact step_call c p j call

theorem numbered_run (c : Coordinator) {p : Clients} (h : Numbered p.store)
    (moves : List (ClientMove β)) : Numbered (p.run c moves).store := by
  induction moves generalizing p with
  | nil => exact h
  | cons m rest ih => exact ih ((step_made c p m).numbered h)

/-- A session that is over stays over. -/
theorem Step.stays_over (h : Step p m p') (hnumbered : Numbered p.store) {id : String}
    (hover : Over id p.store) : Over id p'.store := by
  by_cases hcommits : p.Commits id m
  · exact ⟨.committed, h.committed id hcommits, rfl⟩
  · rw [Over, h.status hnumbered id hover hcommits]
    exact hover

/-- What becomes of the sessions that are over when clients move on. -/
structure EndedKept (c : Coordinator) (p : Clients) (later : List (ClientMove β)) : Prop where
  /-- The status stays as long as no commit of the session goes through. -/
  status : ∀ id status, p.store.statusOf id = some status → status.isTerminal = true →
    (∀ before m after, later = before ++ m :: after → ¬(p.run c before).Commits id m) →
    (p.run c later).store.statusOf id = some status
  /-- A commit that goes through marks the session as committed for good. -/
  committed : ∀ id, Over id p.store → ∀ before m after, later = before ++ m :: after →
    (p.run c before).Commits id m → (p.run c later).store.statusOf id = some .committed
  /-- Bytes are stored only by commits of writers that had their upload open before the end. -/
  received : ∀ key, Over key.sessionId p.store →
    Memory.lookup key (p.run c later).store.received = Memory.lookup key p.store.received ∨
    ∃ before j after, later = before ++ .call j .commit :: after ∧ p.Holds j key ∧
      (p.run c before).Holds j key
  /-- No upload is opened any more. -/
  opens : ∀ j key, Over key.sessionId p.store → (p.run c later).Holds j key → p.Holds j key

theorem endedKept_nil (c : Coordinator) (p : Clients) :
    EndedKept c p ([] : List (ClientMove β)) where
  status _ _ h _ _ := h
  committed _ _ before m after h := by simp at h
  received _ _ := .inl rfl
  opens _ _ _ h := h

theorem EndedKept.cons {c : Coordinator} {rest : List (ClientMove β)}
    (hnumbered : Numbered p.store) (hrest : EndedKept c (p.make c m) rest) :
    EndedKept c p (m :: rest) := by
  have hstep := step_made c p m
  -- A move inside the rest stands in the whole run with one more move before it.
  have hinner : ∀ {before m' after}, rest = before ++ m' :: after →
      m :: rest = (m :: before) ++ m' :: after := by
    rintro before m' after rfl
    rfl
  constructor
  · intro id status hid hterminal hnone
    have hfirst : ¬p.Commits id m := hnone [] m rest rfl
    have hkept := hstep.status hnumbered id ⟨status, hid, hterminal⟩ hfirst
    refine hrest.status id status (hkept.trans hid) hterminal ?_
    exact fun before m' after h => hnone (m :: before) m' after (hinner h)
  · intro id hover before m' after hlater hcommits
    cases before with
    | nil =>
      obtain ⟨rfl, rfl⟩ : m = m' ∧ rest = after := by simpa using hlater
      have hmarked := hstep.committed id hcommits
      by_cases hagain : ∃ before m' after, rest = before ++ m' :: after ∧
          ((p.make c m).run c before).Commits id m'
      · obtain ⟨before, m', after, hsplit, hcommits'⟩ := hagain
        exact hrest.committed id ⟨_, hmarked, rfl⟩ before m' after hsplit hcommits'
      · refine hrest.status id .committed hmarked rfl ?_
        exact fun before m' after hsplit h => hagain ⟨before, m', after, hsplit, h⟩
    | cons first before =>
      obtain ⟨rfl, hsplit⟩ : m = first ∧ rest = before ++ m' :: after := by simpa using hlater
      exact hrest.committed id (hstep.stays_over hnumbered hover) before m' after hsplit hcommits
  · intro key hover
    rcases hrest.received key (hstep.stays_over hnumbered hover) with hsame |
      ⟨before, j, after, hsplit, hheld, hthen⟩
    · rcases hstep.received key with hkept | ⟨j, rfl, hheld⟩
      · exact .inl (hsame.trans hkept)
      · exact .inr ⟨[], j, rest, rfl, hheld, hheld⟩
    · exact .inr ⟨m :: before, j, after, hinner hsplit, hstep.opens j key hover hheld, hthen⟩
  · intro j key hover hholds
    exact hstep.opens j key hover (hrest.opens j key (hstep.stays_over hnumbered hover) hholds)

theorem endedKept (c : Coordinator) {p : Clients} (h : Numbered p.store)
    (later : List (ClientMove β)) : EndedKept c p later := by
  induction later generalizing p with
  | nil => exact endedKept_nil c p
  | cons m rest ih => exact .cons h (ih ((step_made c p m).numbered h))

end Clients

/-- Whatever clients do from the start, sessions that are over change only by commits: those of the
session, which mark it as committed, and those of writers whose upload was open already. -/
theorem ended_sessions_kept (c : Coordinator) (earlier later : List (ClientMove β)) :
    (({} : Clients).run c earlier).EndedKept c later :=
  Clients.endedKept c (Clients.numbered_run c (by simp [Memory.Numbered, Clients.store,
    Memory.lookup]) earlier) later

def writingClients : Clients :=
  ({} : Clients).run { project := "p" } [.createWrite ⟨"p", "default", "t"⟩ {}, .writer 0 0 0,
    .call 0 (.write .raw ⟨[1, 2], 1⟩)]

def writingClientsAfter (moves : List (ClientMove EncodedBatch)) : Store :=
  (writingClients.run { project := "p" } moves).store

/-- Both kinds of change happen: a commit takes a released session out of its status, and a writer
stores the bytes of a block whose session was committed before. -/
theorem ended_session_changes :
    ((writingClientsAfter [.stopWrite 0]).statusOf "session-1" = some .terminated ∧
      (writingClientsAfter [.stopWrite 0, .commit 0 (.start .reject)]).statusOf "session-1" =
        some .committed) ∧
    ((writingClientsAfter [.commit 0 (.start .reject)]).statusOf "session-1" = some .committed ∧
      (writingClientsAfter [.commit 0 (.start .reject)]).receivedBlock "session-1" 0 0 = none ∧
      (writingClientsAfter [.commit 0 (.start .reject), .call 0 .commit]).receivedBlock
        "session-1" 0 0 = some [1, 2]) :=
  ⟨⟨rfl, rfl⟩, rfl, rfl, rfl⟩

end TableExchange
