import TableExchange.Proofs.Memory.Receipts
import TableExchange.Proofs.Write.Attempts
import TableExchange.Proofs.Write.Resolution
import TableExchange.Session.Coordinator

/-!
Write sessions on the in-memory service, with any number of writers whose calls come in any order
and may fail at any point, and a ledger that is fed the messages of their commits. A commit that
succeeds carries one message for each block, and only messages of attempts that were acknowledged.
-/
namespace TableExchange

open Memory (Store Upload BlockKey Sound Knows requested)

variable {β : Type}

def WriteEvent.key? : WriteEvent Upload → Option BlockKey
  | .opening r _ => some (requested r)
  | .sending u _ _ _ | .finishing u _ | .aborting u => some u.key
  | .committing _ _ _ => none

/-- All requests on a trail are about its attempt. -/
theorem Trail.keyed {request : BlockRequest} {events : List (WriteEvent Upload)}
    {state : UploadState Upload} (h : Trail request events state)
    (hc : Memory.Consistent events) :
    (∀ e ∈ events, e.key? = some (requested request)) ∧
      ∀ u, state = .held u → u.key = requested request := by
  have hlast : ∀ {es : List (WriteEvent Upload)} {e},
      (∀ d ∈ es, d.key? = some (requested request)) → e.key? = some (requested request) →
      ∀ d ∈ es ++ [e], d.key? = some (requested request) := by
    intro es e hall he
    exact List.forall_mem_append.mpr ⟨hall, List.forall_mem_singleton.mpr he⟩
  induction h with
  | start => simp
  | refused f h ih =>
    obtain ⟨hkeys, -⟩ := ih (hc.of_subset (List.subset_append_left _ _))
    exact ⟨hlast hkeys rfl, by simp⟩
  | opened u h ih =>
    obtain ⟨hkeys, -⟩ := ih (hc.of_subset (List.subset_append_left _ _))
    refine ⟨hlast hkeys rfl, ?_⟩
    rintro v hv
    obtain rfl := UploadState.held.inj hv
    exact hc.opened _ _ List.mem_concat_self
  | sent bytes answer u' h ih =>
    obtain ⟨hkeys, hheld⟩ := ih (hc.of_subset (List.subset_append_left _ _))
    refine ⟨hlast hkeys (congrArg some (hheld _ rfl)), ?_⟩
    rintro v hv
    obtain rfl := UploadState.held.inj hv
    rw [← hheld _ rfl]
    exact hc.sent _ _ _ _ List.mem_concat_self
  | finished answer h ih =>
    obtain ⟨hkeys, hheld⟩ := ih (hc.of_subset (List.subset_append_left _ _))
    exact ⟨hlast hkeys (congrArg some (hheld _ rfl)), by simp⟩
  | aborted h ih =>
    obtain ⟨hkeys, hheld⟩ := ih (hc.of_subset (List.subset_append_left _ _))
    exact ⟨hlast hkeys (congrArg some (hheld _ rfl)), by simp⟩

def line : WriteService (Line Store) Upload :=
  Memory.writing.faulty

def WriterAnswer.messages : WriterAnswer → List CommitMessage
  | .ended (.ok (some m)) => [m]
  | _ => []

theorem WriterAnswer.mem_messages {a : WriterAnswer} {m : CommitMessage} (h : m ∈ a.messages) :
    a = .ended (.ok (some m)) := by
  match a with
  | .ended (.ok (some m')) =>
    obtain rfl : m = m' := List.mem_singleton.mp h
    rfl
  | .ended (.ok none) | .ended (.error f) | .wrote r | .gaveUp => exact absurd h List.not_mem_nil

/-- A write session in use: its handle and surroundings, at most one writer for each attempt, and a
ledger; beside them the requests so far, the messages that commits of writers gave, and those that
were fed to the ledger. -/
structure Publication where
  session : WriteSession
  exchange : Exchange (Line Store)
  writers : UInt64 → UInt32 → Option (BlockWriter Upload) := fun _ _ => none
  ledger : Ledger
  journal : List (WriteEvent Upload) := []
  returned : List CommitMessage := []
  fed : List CommitMessage := []

/-- What can happen to a session in use. Any message that was returned may be fed, in any order and
any number of times; fail points may be armed in any way. -/
inductive PublicationMove (β : Type)
  | create (block : UInt64) (attempt : UInt32)
  | call (block : UInt64) (attempt : UInt32) (call : WriterCall β)
  | feed (index : Nat)
  | choose (block : UInt64) (attempt : UInt32)
  | arm (points : FailPoints)
  | refresh
  | stop
  | commit

/-- A session handle on the in-memory service: of a new session, or of one that the service keeps
under its own id. -/
inductive Obtained (c : Coordinator) (x : Exchange (Line Store)) :
    WriteSession → Exchange (Line Store) → Prop
  | created {s : WriteSession} {x' : Exchange (Line Store)} (table : TableRef)
      (options : WriteOptions) (h : c.createWrite line table options x = (.ok s, x')) :
      Obtained c x s x'
  | attached {s : WriteSession} {x' : Exchange (Line Store)} (table : TableRef) (id : String)
      (hkept : ∀ t, Memory.lookup id x.service.inner.sessions = some t → t.id = id)
      (h : c.attachWrite line table id x = (.ok s, x')) : Obtained c x s x'

namespace Publication

def start (session : WriteSession) (policy : ConflictPolicy) (x : Exchange (Line Store)) :
    Publication where
  session := session
  exchange := x
  ledger := .start policy

def put (p : Publication) (block : UInt64) (attempt : UInt32) (w : BlockWriter Upload) :
    Publication :=
  { p with
    writers := fun b a => if b = block ∧ a = attempt then some w else p.writers b a }

def commitEvents (p : Publication) : List (WriteEvent Upload) :=
  (p.session.commit line.journaled p.ledger (p.exchange.watched (WriteEvent Upload))).2.2.journal

def move (p : Publication) : PublicationMove β → Publication
  | .create block attempt =>
    match p.writers block attempt with
    | some _ => p
    | none => p.put block attempt (p.session.writer block attempt)
  | .call block attempt call =>
    match p.writers block attempt with
    | none => p
    | some w =>
      let v := Visit.of line call w p.exchange
      { p.put block attempt v.after with
        exchange := v.left
        journal := p.journal ++ v.events
        returned := p.returned ++ v.answer.messages }
  | .feed index =>
    match p.returned[index]? with
    | none => p
    | some m => { p with ledger := (p.ledger.add m).2, fed := p.fed ++ [m] }
  | .choose block attempt => { p with ledger := p.ledger.choose block attempt }
  | .arm points => { p with exchange := { p.exchange with failPoints := points } }
  | .refresh =>
    let r := p.session.refresh line p.exchange
    { p with session := r.2.1, exchange := r.2.2 }
  | .stop =>
    let r := p.session.stop line p.exchange
    { p with session := r.2.1, exchange := r.2.2 }
  | .commit =>
    let r := p.session.commit line p.ledger p.exchange
    { p with session := r.2.1, exchange := r.2.2, journal := p.journal ++ p.commitEvents }

def run (p : Publication) (moves : List (PublicationMove β)) : Publication :=
  moves.foldl move p

def attempt (p : Publication) (block : UInt64) (attempt : UInt32) : BlockKey :=
  ⟨p.session.snapshot.id, block, attempt⟩

structure Carries (p : Publication) (messages : List CommitMessage) : Prop where
  ascending : (messages.map (·.block)).Pairwise (· < ·)
  /-- There is a message for each block of which one was fed. -/
  blocks : ∀ block, block ∈ messages.map (·.block) ↔ ∃ m ∈ p.fed, m.block = block
  fed : ∀ m ∈ messages, m ∈ p.fed
  acknowledged : ∀ m ∈ messages, ∃ u, .finishing u (.ok m.token) ∈ p.journal ∧
    u.key = p.attempt m.block m.attempt
  /-- The attempt was not given up, and no finish of it failed. -/
  upheld : ∀ m ∈ messages, ∀ u, u.key = p.attempt m.block m.attempt →
    .aborting u ∉ p.journal ∧ ∀ f, .finishing u (.error f) ∉ p.journal

structure CommitsSoundly (p : Publication) : Prop where
  /-- A commit that succeeds asks the service once. -/
  succeeded : ∀ t, (p.session.commit line p.ledger p.exchange).1 = .ok t →
    ∃ messages, p.commitEvents = [.committing p.session.snapshot messages (.ok t)] ∧
      p.Carries messages
  /-- The service never turns a commit down. -/
  accepted : ∀ t messages answer, .committing t messages answer ∈ p.commitEvents →
    ∃ t', answer = .ok t'
  /-- A commit fails for a reason of the ledger's own or at a fail point. -/
  failed : ∀ f, (p.session.commit line p.ledger p.exchange).1 = .error f →
    Ledger.Unsettled f ∨ f.kind = .injected

def about (journal : List (WriteEvent Upload)) (key : BlockKey) : List (WriteEvent Upload) :=
  journal.filter fun e => e.key? = some key

structure Stands (journal : List (WriteEvent Upload)) (key : BlockKey) (w : BlockWriter Upload) :
    Prop where
  request : requested w.request = key
  trail : ∃ state, Trail w.request (about journal key) state ∧ w.stage.Fits state

structure Tracked (id : String) (p : Publication) : Prop where
  snapshot : p.session.snapshot.id = id
  knows : Knows p.exchange.service.inner id
  sound : Sound p.journal p.exchange.service.inner
  present : ∀ block attempt w, p.writers block attempt = some w →
    Stands p.journal ⟨id, block, attempt⟩ w
  absent : ∀ block attempt, p.writers block attempt = none →
    about p.journal ⟨id, block, attempt⟩ = []
  returned : ∀ m ∈ p.returned, ∃ u, .finishing u (.ok m.token) ∈ p.journal ∧
    u.key = ⟨id, m.block, m.attempt⟩
  fed : ∀ m ∈ p.fed, m ∈ p.returned
  filed : p.ledger.Filed
  holds : ∀ m, p.ledger.Holds m → m ∈ p.fed
  blocks : ∀ block, block ∈ p.ledger.held.keys ↔ ∃ m ∈ p.fed, m.block = block

/-- A look-up over the line changes nothing, and finds what the service keeps under the id. -/
theorem inner_of_lookUp {table : TableRef} {id : String} {x x' : Exchange (Line Store)}
    {answer : Except Failure TableSession}
    (hask : x.ask (line.lookUp table id .batchWrite) = (answer, x')) :
    x'.service.inner = x.service.inner ∧
      ∀ t, answer = .ok t → Memory.lookup id x.service.inner.sessions = some t := by
  obtain ⟨hstate, hfound⟩ := Memory.lookUp_spec table id .batchWrite x.service.inner
  have hrequest : line.lookUp table id .batchWrite x.service = (answer, x'.service) :=
    Exchange.request_of_ask hask
  obtain ⟨rfl, hservice⟩ := Prod.mk.inj hrequest
  rw [← hservice]
  exact ⟨hstate, hfound⟩

theorem knows_obtained {c : Coordinator} {x x' : Exchange (Line Store)} {s : WriteSession}
    (h : Obtained c x s x') : Knows x'.service.inner s.snapshot.id := by
  cases h with
  | created table options h =>
    obtain ⟨hs, rfl⟩ := Prod.mk.inj h
    obtain rfl := Except.ok.inj hs
    exact ⟨_, Memory.lookup_assign_self _ _ _, rfl⟩
  | attached table id hkept h =>
    rcases hask : x.ask (line.lookUp table id .batchWrite) with ⟨answer, x₁⟩
    obtain ⟨hinner, hfound⟩ := inner_of_lookUp hask
    simp only [Coordinator.attachWrite, hask] at h
    cases answer with
    | error f => simp at h
    | ok t =>
      obtain ⟨hs, rfl⟩ := Prod.mk.inj h
      obtain rfl := Except.ok.inj hs
      have ht := hfound t rfl
      rw [hinner]
      exact ⟨t, by rw [hkept t ht, ht], rfl⟩

theorem tracked_start {c : Coordinator} {x x' : Exchange (Line Store)} {s : WriteSession}
    (h : Obtained c x s x') (policy : ConflictPolicy) :
    (start s policy x').Tracked s.snapshot.id where
  snapshot := rfl
  knows := knows_obtained h
  sound := Memory.sound_nil _
  present := by simp [start]
  absent := by simp [start, about]
  returned := by simp [start]
  fed := by simp [start]
  filed := Ledger.filed_start policy
  holds m hm := by
    obtain ⟨attempts, hentry, _⟩ := hm
    exact absurd hentry List.not_mem_nil
  blocks block := by
    simp only [start, Ledger.start, List.not_mem_nil, false_and, exists_false, iff_false]
    exact List.not_mem_nil

variable {id : String} {p : Publication}

/-- Other surroundings, with a service that has only grown. -/
theorem Tracked.surround (h : p.Tracked id) {session : WriteSession} {x : Exchange (Line Store)}
    (hsnapshot : session.snapshot.id = id)
    (hgrows : Memory.Grows p.exchange.service.inner x.service.inner) :
    { p with session := session, exchange := x : Publication }.Tracked id :=
  { h with
    snapshot := hsnapshot
    knows := hgrows.knows id h.knows
    sound := h.sound.grows hgrows }

theorem Tracked.create (h : p.Tracked id) {block : UInt64} {attempt : UInt32}
    (hnone : p.writers block attempt = none) :
    (p.put block attempt (p.session.writer block attempt)).Tracked id := by
  refine { h with present := ?_, absent := ?_ }
  · intro b a w hw
    simp only [put] at hw
    split at hw
    · next heq =>
      obtain ⟨rfl, rfl⟩ := heq
      obtain rfl := Option.some.inj hw
      refine ⟨?_, .unopened, ?_, trivial⟩
      · simp [requested, WriteSession.writer, BlockWriter.start, h.snapshot]
      · rw [show about (p.put b a _).journal _ = about p.journal _ from rfl, h.absent b a hnone]
        exact .start
    · exact h.present b a w hw
  · intro b a hb
    simp only [put] at hb
    split at hb
    · simp at hb
    · exact h.absent b a hb

theorem about_append_self {journal new : List (WriteEvent Upload)} {key : BlockKey}
    (hnew : ∀ e ∈ new, e.key? = some key) :
    about (journal ++ new) key = about journal key ++ new := by
  have hall : new.filter (fun e => e.key? = some key) = new :=
    List.filter_eq_self.mpr fun e he => decide_eq_true (hnew e he)
  unfold about
  rw [List.filter_append, hall]

theorem about_append_of_ne {journal new : List (WriteEvent Upload)} {other : BlockKey}
    (hnew : ∀ e ∈ new, e.key? ≠ some other) :
    about (journal ++ new) other = about journal other := by
  have hnone : new.filter (fun e => e.key? = some other) = [] :=
    List.filter_eq_nil_iff.mpr fun e he => by simpa using hnew e he
  unfold about
  rw [List.filter_append, hnone, List.append_nil]

/-- A call asks for nothing but its own attempt, and keeps the journal and its writer in step. -/
theorem Tracked.visit (h : p.Tracked id) {key : BlockKey} {w : BlockWriter Upload}
    (hw : Stands p.journal key w) (call : WriterCall β) :
    (∀ e ∈ (Visit.of line call w p.exchange).events, e.key? = some key) ∧
      Stands (p.journal ++ (Visit.of line call w p.exchange).events) key
        (Visit.of line call w p.exchange).after ∧
      Sound (p.journal ++ (Visit.of line call w p.exchange).events)
        (Visit.of line call w p.exchange).left.service.inner ∧
      Memory.Grows p.exchange.service.inner
        (Visit.of line call w p.exchange).left.service.inner := by
  have hm := Visit.made line call w p.exchange
  obtain ⟨hsound, hgrows⟩ := h.sound.led (w.make_led line call p.exchange)
  obtain ⟨state, htrail, hfits⟩ := hw.trail
  obtain ⟨state', htrail', hfits'⟩ := hm.trail htrail hfits
  have hsub : about p.journal key ++ (Visit.of line call w p.exchange).events ⊆
      p.journal ++ (Visit.of line call w p.exchange).events := by
    refine List.append_subset.mpr ⟨?_, List.subset_append_right _ _⟩
    exact List.Subset.trans List.filter_sublist.subset (List.subset_append_left _ _)
  -- Only an opening names its attempt; the later requests have it by the trail up to them.
  obtain ⟨hkeys, -⟩ := htrail'.keyed (hsound.toConsistent.of_subset hsub)
  rw [hw.request] at hkeys
  have hnew := (List.forall_mem_append.mp hkeys).2
  refine ⟨hnew, ⟨?_, state', ?_, hfits'⟩, hsound, hgrows⟩
  · rw [← hw.request]
    exact congrArg requested hm.request
  · rw [about_append_self hnew, hm.request]
    exact htrail'

/-- A call adds to the journal what is about its own attempt. -/
theorem Tracked.extend (h : p.Tracked id) {block : UInt64} {attempt : UInt32}
    {w : BlockWriter Upload} {x : Exchange (Line Store)} {new : List (WriteEvent Upload)}
    {messages : List CommitMessage} (hnew : ∀ e ∈ new, e.key? = some ⟨id, block, attempt⟩)
    (hstands : Stands (p.journal ++ new) ⟨id, block, attempt⟩ w)
    (hsound : Sound (p.journal ++ new) x.service.inner)
    (hgrows : Memory.Grows p.exchange.service.inner x.service.inner)
    (hmessages : ∀ m ∈ messages, ∃ u, .finishing u (.ok m.token) ∈ p.journal ++ new ∧
      u.key = ⟨id, m.block, m.attempt⟩) :
    { p.put block attempt w with
      exchange := x, journal := p.journal ++ new
      returned := p.returned ++ messages : Publication }.Tracked id := by
  have hother : ∀ b a, ¬(b = block ∧ a = attempt) →
      about (p.journal ++ new) ⟨id, b, a⟩ = about p.journal ⟨id, b, a⟩ := by
    intro b a hne
    apply about_append_of_ne
    intro e he heq
    rw [hnew e he] at heq
    simp only [Option.some.injEq, BlockKey.mk.injEq, true_and] at heq
    exact hne ⟨heq.1.symm, heq.2.symm⟩
  refine ⟨h.snapshot, hgrows.knows id h.knows, hsound, ?_, ?_, ?_, ?_, h.filed, h.holds, h.blocks⟩
  · intro b a w' hw'
    simp only [put] at hw'
    split at hw'
    · next heq =>
      obtain ⟨rfl, rfl⟩ := heq
      obtain rfl := Option.some.inj hw'
      exact hstands
    · next hne =>
      have hold := h.present b a w' hw'
      exact ⟨hold.request, by simpa only [hother b a hne] using hold.trail⟩
  · intro b a hb
    simp only [put] at hb
    split at hb
    · simp at hb
    · next hne => exact (hother b a hne).trans (h.absent b a hb)
  · intro m hm
    rcases List.mem_append.mp hm with hm | hm
    · obtain ⟨u, hu, hkey⟩ := h.returned m hm
      exact ⟨u, List.mem_append_left _ hu, hkey⟩
    · exact hmessages m hm
  · exact fun m hm => List.mem_append_left _ (h.fed m hm)

theorem Tracked.call (h : p.Tracked id) {block : UInt64} {attempt : UInt32}
    {w : BlockWriter Upload} (hw : p.writers block attempt = some w) (call : WriterCall β) :
    (p.move (.call block attempt call)).Tracked id := by
  have hstands := h.present block attempt w hw
  obtain ⟨hnew, hstands', hsound, hgrows⟩ := h.visit hstands call
  simp only [move, hw]
  refine h.extend hnew hstands' hsound hgrows ?_
  intro m hm
  have hlawful := Visit.lawful line call w p.exchange
  obtain ⟨hblock, hattempt, u, hu⟩ := (hlawful.message m).mp (WriterAnswer.mem_messages hm)
  obtain ⟨-, hb, ha⟩ := BlockKey.mk.inj hstands.request
  refine ⟨u, List.mem_append_right _ hu, (Option.some.inj (hnew _ hu)).trans ?_⟩
  rw [hblock, hattempt, ← hb, ← ha]
  rfl

theorem Tracked.feed (h : p.Tracked id) {m : CommitMessage} (hm : m ∈ p.returned) :
    { p with ledger := (p.ledger.add m).2, fed := p.fed ++ [m] : Publication }.Tracked id := by
  have hadded := p.ledger.added m
  refine { h with fed := ?_, filed := hadded.filed h.filed, holds := ?_, blocks := ?_ }
  · exact List.forall_mem_append.mpr ⟨h.fed, List.forall_mem_singleton.mpr hm⟩
  · intro m' hm'
    rcases hadded.holds hm' with rfl | hm'
    · exact List.mem_concat_self
    · exact List.mem_append_left _ (h.holds m' hm')
  · intro block
    rw [hadded.keys, h.blocks]
    simp only [List.mem_append, List.mem_singleton]
    constructor
    · rintro (rfl | ⟨m', hm', rfl⟩)
      · exact ⟨m, .inr rfl, rfl⟩
      · exact ⟨m', .inl hm', rfl⟩
    · rintro ⟨m', hm' | rfl, rfl⟩
      · exact .inr ⟨m', hm', rfl⟩
      · exact .inl rfl

theorem Tracked.refresh (h : p.Tracked id) :
    (p.move (.refresh : PublicationMove β)).Tracked id := by
  rcases hask : p.exchange.ask
    (line.lookUp p.session.snapshot.table p.session.snapshot.id .batchWrite) with ⟨answer, x⟩
  obtain ⟨hinner, hfound⟩ := inner_of_lookUp hask
  simp only [move, WriteSession.refresh, hask]
  cases answer with
  | error f => exact h.surround h.snapshot (hinner ▸ Memory.Grows.refl _)
  | ok snapshot =>
    refine h.surround ?_ (hinner ▸ Memory.Grows.refl _)
    have hknows := h.knows
    rw [← h.snapshot] at hknows ⊢
    exact hknows.id_eq (hfound snapshot rfl)

theorem Tracked.stop (h : p.Tracked id) : (p.move (.stop : PublicationMove β)).Tracked id := by
  have hgrows := Memory.grows_release p.session.snapshot p.exchange.service.inner
  simp only [move, WriteSession.stop]
  split
  · exact h
  · rcases hask : p.exchange.ask (line.release p.session.snapshot) with ⟨answer, x⟩
    have hrequest : line.release p.session.snapshot p.exchange.service = (answer, x.service) :=
      Exchange.request_of_ask hask
    have hinner : x.service.inner =
        (Memory.release p.session.snapshot p.exchange.service.inner).2 :=
      congrArg (fun r => r.2.inner) hrequest.symm
    cases answer with
    | error f => exact h.surround h.snapshot (hinner ▸ hgrows)
    | ok done => exact h.surround h.snapshot (hinner ▸ hgrows)

theorem committed (p : Publication) :
    WriteSession.Committed line p.session p.ledger p.exchange.service p.commitEvents
      (p.session.commit line p.ledger p.exchange).1
      (p.session.commit line p.ledger p.exchange).2.1
      (p.session.commit line p.ledger p.exchange).2.2.service :=
  WriteSession.committed line p.session p.ledger p.exchange

/-- An attempt is finished or given up once. -/
theorem Tracked.consumed_once (h : p.Tracked id) {block : UInt64} {attempt : UInt32}
    {d e : WriteEvent Upload} (hd : d ∈ p.journal) (he : e ∈ p.journal)
    (hdk : d.key? = some ⟨id, block, attempt⟩) (hek : e.key? = some ⟨id, block, attempt⟩)
    (hdc : d.consumes = true) (hec : e.consumes = true) : d = e := by
  have hdabout : d ∈ about p.journal ⟨id, block, attempt⟩ :=
    List.mem_filter.mpr ⟨hd, decide_eq_true hdk⟩
  have heabout : e ∈ about p.journal ⟨id, block, attempt⟩ :=
    List.mem_filter.mpr ⟨he, decide_eq_true hek⟩
  cases hw : p.writers block attempt with
  | none =>
    rw [h.absent block attempt hw] at hdabout
    exact absurd hdabout List.not_mem_nil
  | some w =>
    obtain ⟨state, htrail, -⟩ := (h.present block attempt w hw).trail
    exact htrail.consumed_once hdabout heabout hdc hec

/-- The messages that the ledger resolves to are those that a commit may carry. -/
theorem Tracked.carries (h : p.Tracked id) {messages : List CommitMessage}
    (hresolve : p.ledger.resolve = .ok messages) : p.Carries messages := by
  obtain ⟨hblocks, hholds⟩ := h.filed.resolve_ok hresolve
  have hfed : ∀ m ∈ messages, m ∈ p.fed := fun m hm => h.holds m (hholds m hm)
  have hfinished : ∀ m ∈ messages, ∃ u, .finishing u (.ok m.token) ∈ p.journal ∧
      u.key = p.attempt m.block m.attempt := by
    intro m hm
    rw [attempt, h.snapshot]
    exact h.returned m (h.fed m (hfed m hm))
  refine ⟨?_, ?_, hfed, hfinished, ?_⟩
  · rw [hblocks]
    exact p.ledger.held.keys_ascending.imp Std.compare_eq_lt.mp
  · intro block
    rw [hblocks]
    exact h.blocks block
  · intro m hm u hkey
    obtain ⟨v, hv, hvkey⟩ := hfinished m hm
    rw [attempt, h.snapshot] at hkey hvkey
    have hsame : ∀ e ∈ p.journal, e.key? = some u.key → e.consumes = true →
        .finishing v (.ok m.token) = e := by
      intro e he hek hec
      rw [hkey] at hek
      exact h.consumed_once hv he (congrArg some hvkey) hek rfl hec
    refine ⟨fun hu => ?_, fun f hu => ?_⟩
    · have hfalse := hsame _ hu rfl rfl
      simp at hfalse
    · have hfalse := hsame _ hu rfl rfl
      simp at hfalse

/-- The service accepts the messages that the ledger resolves to. -/
theorem Tracked.accepts (h : p.Tracked id) {messages : List CommitMessage}
    (hresolve : p.ledger.resolve = .ok messages) :
    ∃ snapshot, (line.commitSession p.session.snapshot messages p.exchange.service).1 =
      .ok snapshot ∧ snapshot.id = id := by
  have hknows := h.knows
  rw [← h.snapshot] at hknows ⊢
  refine Memory.commitSession_accepts hknows fun m hm => ?_
  obtain ⟨u, hu, hkey⟩ := (h.carries hresolve).acknowledged m hm
  have hfinished := h.sound.finished u m.token hu
  rwa [hkey] at hfinished

section Commit

variable {events : List (WriteEvent Upload)} {answer : Except Failure TableSession}
  {t : WriteSession} {l : Line Store}

theorem Tracked.accepted (h : p.Tracked id) (hc : WriteSession.Committed line p.session p.ledger
    p.exchange.service events answer t l) (s : TableSession) (messages : List CommitMessage)
    (a : Except Failure TableSession) (hask : .committing s messages a ∈ events) :
    ∃ snapshot, a = .ok snapshot ∧ snapshot.id = id := by
  cases hc with
  | unresolved _ => simp at hask
  | barred _ _ => simp at hask
  | refused hresolve href =>
    obtain ⟨snapshot, hok, -⟩ := h.accepts hresolve
    rw [href] at hok
    simp at hok
  | accepted hresolve hacc =>
    obtain ⟨-, -, rfl⟩ : s = _ ∧ messages = _ ∧ a = _ := by simpa using hask
    obtain ⟨snapshot, hok, hid⟩ := h.accepts hresolve
    rw [hacc] at hok
    exact ⟨snapshot, hok, hid⟩

/-- A commit asks for nothing that is about an attempt, and leaves the session what it was. -/
theorem Tracked.committed (h : p.Tracked id) (hc : WriteSession.Committed line p.session p.ledger
    p.exchange.service events answer t l) :
    (∀ e ∈ events, e.key? = none) ∧ t.snapshot.id = id := by
  have haccepted := h.accepted hc
  cases hc with
  | unresolved _ => exact ⟨by simp, h.snapshot⟩
  | barred _ _ => exact ⟨by simp, h.snapshot⟩
  | refused _ _ => exact ⟨List.forall_mem_singleton.mpr rfl, h.snapshot⟩
  | accepted _ _ =>
    obtain ⟨snapshot, hok, hid⟩ := haccepted _ _ _ (List.mem_singleton_self _)
    obtain rfl := Except.ok.inj hok
    exact ⟨List.forall_mem_singleton.mpr rfl, hid⟩

theorem Tracked.of_succeeded (h : p.Tracked id) (hc : WriteSession.Committed line p.session
    p.ledger p.exchange.service events answer t l) {s : TableSession} (hok : answer = .ok s) :
    ∃ messages, events = [.committing p.session.snapshot messages (.ok s)] ∧
      p.Carries messages := by
  cases hc with
  | unresolved _ => simp at hok
  | barred _ _ => simp at hok
  | refused _ _ => simp at hok
  | accepted hresolve _ =>
    obtain rfl := Except.ok.inj hok
    exact ⟨_, rfl, h.carries hresolve⟩

theorem Tracked.of_failed (h : p.Tracked id) (hc : WriteSession.Committed line p.session
    p.ledger p.exchange.service events answer t l) {f : Failure} (herror : answer = .error f) :
    Ledger.Unsettled f ∨ f.kind = .injected := by
  have haccepted := h.accepted hc
  cases hc with
  | unresolved hresolve =>
    obtain rfl := Except.error.inj herror
    exact .inl (h.filed.resolve_error hresolve)
  | barred _ hkind =>
    obtain rfl := Except.error.inj herror
    exact .inr hkind
  | refused _ _ =>
    obtain ⟨snapshot, hok, -⟩ := haccepted _ _ _ (List.mem_singleton_self _)
    simp at hok
  | accepted _ _ => simp at herror

end Commit

theorem Tracked.commit (h : p.Tracked id) : (p.move (.commit : PublicationMove β)).Tracked id := by
  obtain ⟨hsound, hgrows⟩ := h.sound.led p.committed.led
  obtain ⟨hunrelated, hsnapshot⟩ := h.committed p.committed
  have habout : ∀ key, about (p.journal ++ p.commitEvents) key = about p.journal key := by
    intro key
    apply about_append_of_ne
    intro e he
    simp [hunrelated e he]
  refine ⟨hsnapshot, hgrows.knows id h.knows, hsound, ?_, ?_, ?_, h.fed, h.filed, h.holds,
    h.blocks⟩
  · intro b a w hw
    have hold := h.present b a w hw
    exact ⟨hold.request, by simpa only [Publication.move, habout] using hold.trail⟩
  · intro b a hb
    exact (habout _).trans (h.absent b a hb)
  · intro m hm
    obtain ⟨u, hu, hkey⟩ := h.returned m hm
    exact ⟨u, List.mem_append_left _ hu, hkey⟩

theorem Tracked.move (h : p.Tracked id) (m : PublicationMove β) : (p.move m).Tracked id := by
  cases m with
  | create block attempt =>
    cases hw : p.writers block attempt with
    | none => simpa only [Publication.move, hw] using h.create hw
    | some w => simpa only [Publication.move, hw] using h
  | call block attempt call =>
    cases hw : p.writers block attempt with
    | none => simpa only [Publication.move, hw] using h
    | some w => exact h.call hw call
  | feed index =>
    cases hm : p.returned[index]? with
    | none => simpa only [Publication.move, hm] using h
    | some m => simpa only [Publication.move, hm] using h.feed (List.mem_of_getElem? hm)
  | choose block attempt => exact { h with filed := h.filed.choose block attempt }
  | arm points => exact { h with }
  | refresh => exact h.refresh
  | stop => exact h.stop
  | commit => exact h.commit

theorem Tracked.run (h : p.Tracked id) (moves : List (PublicationMove β)) :
    (p.run moves).Tracked id := by
  induction moves generalizing p with
  | nil => exact h
  | cons m rest ih => exact ih (h.move m)

theorem Tracked.commitsSoundly (h : p.Tracked id) : p.CommitsSoundly where
  succeeded t hok := h.of_succeeded p.committed hok
  accepted t messages answer hask := by
    obtain ⟨snapshot, hok, -⟩ := h.accepted p.committed t messages answer hask
    exact ⟨snapshot, hok⟩
  failed f herror := h.of_failed p.committed herror

end Publication

/-- However a session is used and whatever fails, its commits are sound. -/
theorem publication_commitsSoundly {c : Coordinator} {x x' : Exchange (Line Store)}
    {s : WriteSession} (h : Obtained c x s x') (policy : ConflictPolicy)
    (moves : List (PublicationMove β)) :
    ((Publication.start s policy x').run moves).CommitsSoundly :=
  ((Publication.tracked_start h policy).run moves).commitsSoundly

/-- The new session of the run below, as its coordinator hands it out. -/
def retriedSession : WriteSession where
  snapshot := ⟨"session-1", ⟨"p", "default", "t"⟩, .batchWrite, .active, none,
    some "memory://logview/session-1"⟩
  config := {}

/-- The surroundings of the run below: its first acknowledgement is lost, and the opening after it
is refused. -/
def retriedStart : Exchange (Line Store) :=
  { service := {
      inner := {}
      fates := [.answered, .answered, .lost (.of .requestFailed "lost"),
        .refused (.of .connectionFailed "refused")] } }

/-- The surroundings once the session of the run below is created. -/
def retriedCreated : Exchange (Line Store) :=
  (({ project := "p" } : Coordinator).createWrite line ⟨"p", "default", "t"⟩ {} retriedStart).2

/-- Block 1 is retried by a second writer and block 0 comes after it; a message is fed twice. -/
def retriedMoves : List (PublicationMove EncodedBatch) :=
  let write : WriterCall EncodedBatch := .write .raw ⟨[1, 2], 1⟩
  [.create 1 0, .call 1 0 write, .call 1 0 .commit, .create 1 1, .call 1 1 write, .call 1 1 write,
    .call 1 1 .commit, .create 0 0, .call 0 0 write, .call 0 0 .commit, .feed 0, .feed 1, .feed 0]

theorem publication_commitsSoundly_when_retried :
    Obtained { project := "p" } retriedStart retriedSession retriedCreated ∧
      ((Publication.start retriedSession .reject retriedCreated).run retriedMoves).CommitsSoundly ∧
      ((Publication.start retriedSession .reject retriedCreated).run retriedMoves).commitEvents =
        [.committing retriedSession.snapshot [⟨0, 0, "token-0-0"⟩, ⟨1, 1, "token-1-1"⟩]
          (.ok { retriedSession.snapshot with status := .committed })] := by
  have hcreated : Obtained { project := "p" } retriedStart retriedSession retriedCreated :=
    .created ⟨"p", "default", "t"⟩ {} rfl
  exact ⟨hcreated, publication_commitsSoundly hcreated .reject retriedMoves, rfl⟩

end TableExchange
