import TableExchange.Proofs.Session.EndedSessions
import TableExchange.Proofs.Write.Deliveries
import TableExchange.Proofs.Write.Publication

/-!
Writers of different attempts on one in-memory service. What a writer is answered and what the
service keeps of its attempt depend on its own calls alone, so all interleavings of the calls of any
number of writers come to the same.
-/
namespace TableExchange

open Memory (Store Upload BlockKey requested)

variable {β σ υ α : Type}

/-- A relation between states of a service in which it answers the requests of a writer alike. -/
structure Twins (svc : WriteService σ υ) (R : σ → σ → Prop) : Prop where
  opens : ∀ r s t, R s t → (svc.openBlock r s).1 = (svc.openBlock r t).1 ∧
    R (svc.openBlock r s).2 (svc.openBlock r t).2
  sends : ∀ u bytes s t, R s t → (svc.sendChunk u bytes s).1 = (svc.sendChunk u bytes t).1 ∧
    (svc.sendChunk u bytes s).2.1 = (svc.sendChunk u bytes t).2.1 ∧
    R (svc.sendChunk u bytes s).2.2 (svc.sendChunk u bytes t).2.2
  finishes : ∀ u s t, R s t → (svc.finishBlock u s).1 = (svc.finishBlock u t).1 ∧
    R (svc.finishBlock u s).2 (svc.finishBlock u t).2
  aborts : ∀ u s t, R s t → R (svc.abortBlock u s) (svc.abortBlock u t)

structure Paired (R : σ → σ → Prop) (x y : Exchange σ) : Prop where
  service : R x.service y.service
  unarmed : x.failPoints = [] ∧ y.failPoints = []

structure Agree (R : σ → σ → Prop) (p q : α × BlockWriter υ × Exchange σ) : Prop where
  answer : p.1 = q.1
  writer : p.2.1 = q.2.1
  exchange : Paired R p.2.2 q.2.2

theorem Exchange.passPoint_unarmed {x : Exchange σ} (h : x.failPoints = []) (name : String) :
    x.passPoint name = (.ok (), x) := by
  cases x
  cases h
  rfl

namespace Twins

variable {svc : WriteService σ υ} {R : σ → σ → Prop} {x y : Exchange σ}

theorem upload (ht : Twins svc R) (h : Paired R x y) (w : BlockWriter υ) :
    (w.upload svc x).1 = (w.upload svc y).1 ∧
      Paired R (w.upload svc x).2 (w.upload svc y).2 := by
  unfold BlockWriter.upload
  split
  · exact ⟨rfl, h⟩
  · obtain ⟨hanswer, hservice⟩ := ht.opens w.request _ _ h.service
    simp only [Exchange.passPoint_unarmed h.unarmed.1, Exchange.passPoint_unarmed h.unarmed.2]
    exact ⟨hanswer, hservice, h.unarmed⟩

theorem giveUp (ht : Twins svc R) (h : Paired R x y) (w : BlockWriter υ) (u : υ) :
    (w.giveUp svc u x).1 = (w.giveUp svc u y).1 ∧
      Paired R (w.giveUp svc u x).2 (w.giveUp svc u y).2 :=
  ⟨rfl, ht.aborts u _ _ h.service, h.unarmed⟩

theorem send (ht : Twins svc R) (h : Paired R x y) (w : BlockWriter υ) (u : υ)
    (e : EncodedBatch) : Agree R (w.send svc u e x) (w.send svc u e y) := by
  obtain ⟨hanswer, hupload, hservice⟩ := ht.sends u e.bytes _ _ h.service
  unfold BlockWriter.send
  rcases hx : svc.sendChunk u e.bytes x.service with ⟨answer, v, s⟩
  rcases hy : svc.sendChunk u e.bytes y.service with ⟨answer', v', t⟩
  rw [hx, hy] at hanswer hupload hservice
  obtain rfl : answer = answer' := hanswer
  obtain rfl : v = v' := hupload
  have hleft : Paired R { x with service := s } { y with service := t } := ⟨hservice, h.unarmed⟩
  cases answer with
  | error f =>
    obtain ⟨hwriter, hgiven⟩ := ht.giveUp hleft w v
    exact ⟨rfl, hwriter, hgiven⟩
  | ok done => exact ⟨rfl, rfl, hleft.service, hleft.unarmed⟩

theorem write (ht : Twins svc R) (h : Paired R x y) (w : BlockWriter υ) (codec : Codec β)
    (batch : β) : Agree R (w.write svc codec batch x) (w.write svc codec batch y) := by
  unfold BlockWriter.write
  split
  · exact ⟨rfl, rfl, h⟩
  · exact ⟨rfl, rfl, h⟩
  all_goals
    cases codec.encode batch with
    | error f => exact ⟨rfl, rfl, h⟩
    | ok e =>
      obtain ⟨hanswer, hleft⟩ := ht.upload h w
      rcases hx : w.upload svc x with ⟨answer, x₁⟩
      rcases hy : w.upload svc y with ⟨answer', y₁⟩
      rw [hx, hy] at hanswer hleft
      obtain rfl : answer = answer' := hanswer
      cases answer with
      | error f => exact ⟨rfl, rfl, hleft⟩
      | ok u => exact ht.send hleft w u e

theorem commit (ht : Twins svc R) (h : Paired R x y) (w : BlockWriter υ) :
    Agree R (w.commit svc x) (w.commit svc y) := by
  unfold BlockWriter.commit
  split
  · exact ⟨rfl, rfl, h⟩
  · exact ⟨rfl, rfl, h⟩
  · exact ⟨rfl, rfl, h⟩
  · next u _ =>
    obtain ⟨hanswer, hservice⟩ := ht.finishes u _ _ h.service
    simp only [BlockWriter.finish, Exchange.passPoint_unarmed h.unarmed.1,
      Exchange.passPoint_unarmed h.unarmed.2, Exchange.ask]
    rcases hx : svc.finishBlock u x.service with ⟨answer, s⟩
    rcases hy : svc.finishBlock u y.service with ⟨answer', t⟩
    rw [hx, hy] at hanswer hservice
    obtain rfl : answer = answer' := hanswer
    cases answer with
    | error f => exact ⟨rfl, rfl, hservice, h.unarmed⟩
    | ok token => exact ⟨rfl, rfl, hservice, h.unarmed⟩

/-- A call has one outcome on services that answer alike. -/
theorem make (ht : Twins svc R) (h : Paired R x y) (call : WriterCall β) (w : BlockWriter υ) :
    Agree R (call.make svc w x) (call.make svc w y) := by
  cases call with
  | write codec batch =>
    obtain ⟨hanswer, hwriter, hleft⟩ := ht.write h w codec batch
    exact ⟨congrArg WriterAnswer.wrote hanswer, hwriter, hleft⟩
  | commit =>
    obtain ⟨hanswer, hwriter, hleft⟩ := ht.commit h w
    exact ⟨congrArg WriterAnswer.ended hanswer, hwriter, hleft⟩
  | abort =>
    simp only [WriterCall.make, BlockWriter.abort]
    split
    · exact ⟨rfl, rfl, h⟩
    · next u _ =>
      obtain ⟨hwriter, hgiven⟩ := ht.giveUp h w u
      exact ⟨rfl, hwriter, hgiven⟩
    · exact ⟨rfl, rfl, h⟩
    · exact ⟨rfl, rfl, h⟩

end Twins

namespace Memory

structure SameFor (key : BlockKey) (s t : Store) : Prop where
  sessions : s.sessions = t.sessions
  failingOpens : s.failingOpens = t.failingOpens
  failingFinishes : s.failingFinishes = t.failingFinishes
  stored : lookup key s.received = lookup key t.received

variable {key : BlockKey} {s t : Store}

theorem SameFor.refl (key : BlockKey) (s : Store) : SameFor key s s :=
  ⟨rfl, rfl, rfl, rfl⟩

theorem SameFor.symm (h : SameFor key s t) : SameFor key t s :=
  ⟨h.sessions.symm, h.failingOpens.symm, h.failingFinishes.symm, h.stored.symm⟩

theorem SameFor.trans {r : Store} (h : SameFor key r s) (h' : SameFor key s t) :
    SameFor key r t :=
  ⟨h.sessions.trans h'.sessions, h.failingOpens.trans h'.failingOpens,
    h.failingFinishes.trans h'.failingFinishes, h.stored.trans h'.stored⟩

theorem twins_sameFor (key : BlockKey) : Twins writing (SameFor key) where
  opens r s t h := by
    simp only [writing]
    constructor
    · simp only [openBlock, h.sessions, h.failingOpens]
      split
      · rfl
      · split
        · rfl
        · split <;> rfl
    · have hleft : ∀ s, (openBlock r s).2 = { s with openRequests := s.openRequests ++ [r] } :=
        fun s => (openBlock_leaves (Prod.ext rfl rfl)).1
      rw [hleft s, hleft t]
      exact ⟨h.sessions, h.failingOpens, h.failingFinishes, h.stored⟩
  sends u bytes s t h := ⟨rfl, rfl, h⟩
  finishes u s t h := by
    simp only [writing, finishBlock, h.failingFinishes]
    split
    · exact ⟨rfl, h⟩
    · refine ⟨rfl, h.sessions, h.failingOpens, rfl, ?_⟩
      by_cases hkey : key = u.key
      · subst hkey
        simp only [lookup_assign_self]
      · simp only [lookup_assign_of_ne hkey]
        exact h.stored
  aborts u s t h := ⟨h.sessions, h.failingOpens, h.failingFinishes, h.stored⟩

/-- Requests of writers do not change which attempts are made to fail. -/
theorem failing_of_led {events : List (WriteEvent Upload)} (h : Led writing s events t) :
    t.failingOpens = s.failingOpens ∧ t.failingFinishes = s.failingFinishes := by
  induction h with
  | start => exact ⟨rfl, rfl⟩
  | @next _ s₁ s₂ e _ he ih =>
    rw [← ih.1, ← ih.2]
    cases e with
    | opening r answer =>
      obtain ⟨rfl, -⟩ := openBlock_leaves he
      exact ⟨rfl, rfl⟩
    | sending u bytes answer u' =>
      obtain ⟨-, -, rfl⟩ := sendChunk_leaves he
      exact ⟨rfl, rfl⟩
    | finishing u answer =>
      rcases finishBlock_leaves he with rfl | rfl
      · exact ⟨rfl, rfl⟩
      · exact ⟨rfl, rfl⟩
    | aborting u =>
      obtain rfl : abortBlock u s₁ = s₂ := he
      exact ⟨rfl, rfl⟩
    | committing session messages answer =>
      obtain rfl : (commitSession session messages s₁).2 = s₂ := congrArg Prod.snd he
      rcases commitSession_cases session messages s₁ with ⟨-, hleft⟩ | ⟨-, -, hleft⟩
      · rw [hleft]
        exact ⟨rfl, rfl⟩
      · obtain ⟨sessions, hset⟩ := setStatus_spec session.id .committed
          { s₁ with commits := s₁.commits ++ [(session.id, messages)] }
        rw [hleft, hset]
        exact ⟨rfl, rfl⟩

end Memory

def BlockWriter.Keyed (w : BlockWriter Upload) : Prop :=
  ∀ u, w.stage = .opened u → u.key = requested w.request

namespace BlockWriter

variable {w w' : BlockWriter Upload} {x : Exchange Store} {events : List (WriteEvent Upload)}
  {s : Store}

theorem Uploading.keyed {opening : List (WriteEvent Upload)} {u : Upload}
    (hup : w.Uploading x opening u) (h : w.Keyed)
    (hled : Led Memory.writing x.service opening s) : u.key = requested w.request := by
  cases hup with
  | held hstage => exact h u hstage
  | opened _ _ =>
    obtain ⟨s₁, hopen, -⟩ := led_cons_iff.mp hled
    exact (Memory.openBlock_leaves hopen).2 u rfl |>.1

theorem keyed_of_closed (hstage : w'.stage.isOpen = false) : w'.Keyed := by
  intro u hu
  simp [hu, WriterStage.isOpen] at hstage

theorem Written.keyed {codec : Codec β} {batch : β} {answer : Except Failure Unit}
    (hw : w.Written x codec batch events answer w') (h : w.Keyed)
    (hled : Led Memory.writing x.service events s) : w'.Keyed := by
  cases hw with
  | closed _ | unencoded _ _ | barred _ _ _ | unopened _ _ _ => exact h
  | sent _ hup =>
    obtain ⟨s₁, hopening, hrest⟩ := led_append_iff.mp hled
    obtain ⟨s₂, hsend, -⟩ := led_cons_iff.mp hrest
    intro v hv
    obtain rfl := WriterStage.opened.inj hv
    exact (Memory.sendChunk_leaves hsend).2.1.trans (hup.keyed h hopening)
  | unsent _ _ => exact keyed_of_closed rfl

theorem Ended.keyed {answer : Except Failure (Option CommitMessage)}
    (he : w.Ended x events answer w') (h : w.Keyed) : w'.Keyed := by
  cases he with
  | again _ _ | closed _ _ => exact h
  | empty _ | barred _ _ | finished _ _ | unfinished _ _ => exact keyed_of_closed rfl

theorem GivenUp.keyed (hg : w.GivenUp events w') (h : w.Keyed) : w'.Keyed := by
  cases hg with
  | committed _ | aborted _ => exact h
  | opened _ | idle _ => exact keyed_of_closed rfl

/-- A message carries the token of its block and attempt. -/
theorem Ended.genuine {answer : Except Failure (Option CommitMessage)} {m : CommitMessage}
    (he : w.Ended x events answer w') (h : w.Keyed) (hled : Led Memory.writing x.service events s)
    (hm : answer = .ok (some m)) : m.token = Memory.token m.block m.attempt := by
  cases he with
  | empty _ | again _ _ | closed _ _ | barred _ _ | unfinished _ _ => simp at hm
  | finished hstage _ =>
    obtain ⟨s₁, hfinish, -⟩ := led_cons_iff.mp hled
    obtain rfl := Option.some.inj (Except.ok.inj hm)
    have htoken := (Memory.finishBlock_ok (congrArg Prod.fst hfinish)).1
    rw [h _ hstage] at htoken
    exact htoken

end BlockWriter

/-- A call changes the in-memory service for its own attempt only. -/
theorem WriterCall.spares (call : WriterCall β) {w : BlockWriter Upload} {x : Exchange Store}
    (h : w.Keyed) (hx : x.failPoints = []) {key : BlockKey} (hkey : key ≠ requested w.request) :
    Paired (Memory.SameFor key) (call.make Memory.writing w x).2.2 x := by
  have huploads := call.uploads w x
  obtain ⟨hopens, hfinishes⟩ := Memory.failing_of_led (w.make_led Memory.writing call x)
  have hself : Paired (Memory.SameFor key) x x := ⟨.refl key _, hx, hx⟩
  have hunarmed := ((Memory.twins_sameFor key).make hself call w).exchange.unarmed.1
  refine ⟨⟨huploads.sessions, hopens, hfinishes, ?_⟩, hunarmed, hx⟩
  rcases huploads.received with hsame | ⟨-, u, hstage, hassigned⟩
  · rw [hsame]
  · rw [hassigned, Memory.lookup_assign_of_ne]
    rw [h u hstage]
    exact hkey

theorem WriterCall.keyed (call : WriterCall β) {w : BlockWriter Upload} (h : w.Keyed)
    (x : Exchange Store) : (call.make Memory.writing w x).2.1.Keyed := by
  have hled := w.make_led Memory.writing call x
  have hmade := Visit.made Memory.writing call w x
  cases call with
  | write codec batch =>
    cases hmade with
    | write hw => exact hw.keyed h hled
  | commit =>
    cases hmade with
    | commit he => exact he.keyed h
  | abort =>
    cases hmade with
    | abort hg => exact hg.keyed h

theorem WriterCall.genuine (call : WriterCall β) {w : BlockWriter Upload} (h : w.Keyed)
    (x : Exchange Store) {m : CommitMessage}
    (hm : m ∈ (call.make Memory.writing w x).1.messages) :
    m.token = Memory.token m.block m.attempt := by
  have hled := w.make_led Memory.writing call x
  have hmade := Visit.made Memory.writing call w x
  have hanswer := WriterAnswer.mem_messages hm
  cases call with
  | write codec batch => simp [WriterCall.make] at hanswer
  | commit =>
    cases hmade with
    | commit he => exact he.genuine h hled (WriterAnswer.ended.inj hanswer)
  | abort => simp [WriterCall.make] at hanswer

/-- Writers at work on one service, and the answers to their calls so far. -/
structure Crew (ι : Type) where
  writers : ι → BlockWriter Upload
  exchange : Exchange Store
  answers : List (ι × WriterAnswer) := []

/-- Two orders of calls in which every writer has the same calls in the same order. -/
def Interleaved {ι : Type} [DecidableEq ι] (a b : List (ι × WriterCall β)) : Prop :=
  ∀ i, a.filter (·.1 = i) = b.filter (·.1 = i)

namespace Crew

variable {ι : Type} [DecidableEq ι]

def start (requests : ι → BlockRequest) (x : Exchange Store) : Crew ι where
  writers i := .start (requests i)
  exchange := x

def store (p : Crew ι) : Store :=
  p.exchange.service

def call (p : Crew ι) (c : ι × WriterCall β) : Crew ι :=
  let r := c.2.make Memory.writing (p.writers c.1) p.exchange
  { writers := fun i => if i = c.1 then r.2.1 else p.writers i
    exchange := r.2.2
    answers := p.answers ++ [(c.1, r.1)] }

def run (p : Crew ι) (calls : List (ι × WriterCall β)) : Crew ι :=
  calls.foldl call p

def answersOf (p : Crew ι) (i : ι) : List WriterAnswer :=
  (p.answers.filter (·.1 = i)).map (·.2)

def messages (p : Crew ι) : List CommitMessage :=
  p.answers.flatMap (·.2.messages)

open Delivery in
/-- Nobody can tell two runs apart: not by an answer, not by what is stored, and not by a ledger
that collected the messages, in whatever order. -/
structure Alike (p q : Crew ι) : Prop where
  answers : ∀ i, p.answersOf i = q.answersOf i
  writers : ∀ i, p.writers i = q.writers i
  stored : ∀ id block attempt, p.store.receivedBlock id block attempt =
    q.store.receivedBlock id block attempt
  messages : ∀ m, m ∈ p.messages ↔ m ∈ q.messages
  collected : ∀ policy chosen ds es, Carry ds p.messages → Carry es q.messages →
    (Ledger.acceptAll ds { policy, chosen }).1 = .ok () ∧
      Ledger.acceptAll ds { policy, chosen } = Ledger.acceptAll es { policy, chosen } ∧
      (Ledger.acceptAll ds { policy, chosen }).2.resolve =
        (Ledger.acceptAll es { policy, chosen }).2.resolve

structure Tended (requests : ι → BlockRequest) (p : Crew ι) : Prop where
  named : ∀ i, (p.writers i).request = requests i
  keyed : ∀ i, (p.writers i).Keyed
  unarmed : p.exchange.failPoints = []
  genuine : ∀ m ∈ p.messages, m.token = Memory.token m.block m.attempt

variable {requests : ι → BlockRequest} {p q : Crew ι} {i : ι}

omit [DecidableEq ι] in
theorem tended_start (requests : ι → BlockRequest) {x : Exchange Store} (hx : x.failPoints = []) :
    (start requests x).Tended requests where
  named _ := rfl
  keyed _ := BlockWriter.keyed_of_closed rfl
  unarmed := hx
  genuine _ hm := absurd hm List.not_mem_nil

theorem Tended.call (h : p.Tended requests) (c : ι × WriterCall β) :
    (p.call c).Tended requests := by
  have hmade := Visit.made Memory.writing c.2 (p.writers c.1) p.exchange
  refine ⟨fun i => ?_, fun i => ?_, ?_, ?_⟩
  · simp only [Crew.call]
    split
    · next heq => exact hmade.request.trans (heq ▸ h.named c.1)
    · exact h.named i
  · simp only [Crew.call]
    split
    · exact c.2.keyed (h.keyed c.1) p.exchange
    · exact h.keyed i
  · have hagree := (Memory.twins_sameFor (requested (requests c.1))).make
      ⟨.refl _ _, h.unarmed, h.unarmed⟩ c.2 (p.writers c.1)
    exact hagree.exchange.unarmed.1
  · intro m hm
    simp only [Crew.messages, Crew.call, List.flatMap_append, List.mem_append,
      List.flatMap_singleton] at hm
    rcases hm with hm | hm
    · exact h.genuine m hm
    · exact c.2.genuine (h.keyed c.1) p.exchange hm

theorem Tended.run (h : p.Tended requests) (calls : List (ι × WriterCall β)) :
    (p.run calls).Tended requests := by
  induction calls generalizing p with
  | nil => exact h
  | cons c rest ih => exact ih (h.call c)

structure SameTo (requests : ι → BlockRequest) (i : ι) (p q : Crew ι) : Prop where
  writer : p.writers i = q.writers i
  service : Memory.SameFor (requested (requests i)) p.store q.store
  answers : p.answersOf i = q.answersOf i

theorem SameTo.symm (h : SameTo requests i p q) : SameTo requests i q p :=
  ⟨h.writer.symm, h.service.symm, h.answers.symm⟩

theorem SameTo.trans {r : Crew ι} (h : SameTo requests i p q) (h' : SameTo requests i q r) :
    SameTo requests i p r :=
  ⟨h.writer.trans h'.writer, h.service.trans h'.service, h.answers.trans h'.answers⟩

theorem answersOf_call_self (p : Crew ι) (i : ι) (call : WriterCall β) :
    (p.call (i, call)).answersOf i =
      p.answersOf i ++ [(call.make Memory.writing (p.writers i) p.exchange).1] := by
  simp [answersOf, Crew.call]

theorem answersOf_call_of_ne (p : Crew ι) {c : ι × WriterCall β} (hne : c.1 ≠ i) :
    (p.call c).answersOf i = p.answersOf i := by
  simp [answersOf, Crew.call, hne]

/-- A call of the writer itself has one outcome in both runs. -/
theorem SameTo.call (h : SameTo requests i p q) (hp : p.Tended requests) (hq : q.Tended requests)
    (call : WriterCall β) : SameTo requests i (p.call (i, call)) (q.call (i, call)) := by
  have hpaired : Paired (Memory.SameFor (requested (requests i))) p.exchange q.exchange :=
    ⟨h.service, hp.unarmed, hq.unarmed⟩
  have hagree := (Memory.twins_sameFor (requested (requests i))).make hpaired call (p.writers i)
  refine ⟨?_, ?_, ?_⟩
  · simp only [Crew.call, if_pos]
    rw [hagree.writer, h.writer]
  · have hservice := hagree.exchange.service
    rw [h.writer] at hservice
    simpa only [store, Crew.call, h.writer] using hservice
  · rw [answersOf_call_self, answersOf_call_self, h.answers, hagree.answer, h.writer]

/-- A call of another writer does not show. -/
theorem Tended.call_of_ne (hp : p.Tended requests)
    (hkeys : Function.Injective fun i => requested (requests i)) {c : ι × WriterCall β}
    (hne : c.1 ≠ i) : SameTo requests i (p.call c) p := by
  have hkey : requested (requests i) ≠ requested (p.writers c.1).request := by
    rw [hp.named c.1]
    exact fun heq => hne (hkeys heq).symm
  refine ⟨?_, (c.2.spares (hp.keyed c.1) hp.unarmed hkey).service, answersOf_call_of_ne p hne⟩
  simp only [Crew.call, if_neg hne.symm]

/-- To one writer a run is the same as the run of its own calls. -/
theorem SameTo.run (h : SameTo requests i p q) (hp : p.Tended requests) (hq : q.Tended requests)
    (hkeys : Function.Injective fun i => requested (requests i))
    (calls : List (ι × WriterCall β)) :
    SameTo requests i (p.run calls) (q.run (calls.filter (·.1 = i))) := by
  induction calls generalizing p q with
  | nil => exact h
  | cons c rest ih =>
    by_cases hmine : c.1 = i
    · obtain ⟨j, call⟩ := c
      obtain rfl : j = i := hmine
      simp only [List.filter_cons, decide_true, if_true]
      exact ih (h.call hp hq call) (hp.call _) (hq.call _)
    · simp only [List.filter_cons, hmine, decide_false, Bool.false_eq_true, if_false]
      exact ih ((hp.call_of_ne hkeys hmine).trans h) (hp.call c) hq

theorem sameTo_of_interleaved (hp : p.Tended requests)
    (hkeys : Function.Injective fun i => requested (requests i))
    {a b : List (ι × WriterCall β)} (h : Interleaved a b) (i : ι) :
    SameTo requests i (p.run a) (p.run b) := by
  have hself : SameTo requests i p p := ⟨rfl, .refl _ _, rfl⟩
  have ha := hself.run hp hp hkeys a
  have hb := hself.run hp hp hkeys b
  rw [h i] at ha
  exact ha.trans hb.symm

/-- The bytes of an attempt that is nobody's stay what they were. -/
theorem Tended.stored_of_unowned (hp : p.Tended requests) {key : BlockKey}
    (hkey : ∀ i, key ≠ requested (requests i)) (calls : List (ι × WriterCall β)) :
    Memory.lookup key (p.run calls).store.received = Memory.lookup key p.store.received := by
  induction calls generalizing p with
  | nil => rfl
  | cons c rest ih =>
    have hne : key ≠ requested (p.writers c.1).request := by
      rw [hp.named c.1]
      exact hkey c.1
    exact (ih (hp.call c)).trans (c.2.spares (hp.keyed c.1) hp.unarmed hne).service.stored

theorem mem_messages {m : CommitMessage} :
    m ∈ p.messages ↔ ∃ i, ∃ answer ∈ p.answersOf i, m ∈ answer.messages := by
  simp only [messages, answersOf, List.mem_flatMap, List.mem_map, List.mem_filter,
    decide_eq_true_eq]
  constructor
  · rintro ⟨⟨i, answer⟩, hmem, hm⟩
    exact ⟨i, answer, ⟨⟨i, answer⟩, ⟨hmem, rfl⟩, rfl⟩, hm⟩
  · rintro ⟨i, answer, ⟨a, ⟨hmem, -⟩, rfl⟩, hm⟩
    exact ⟨a, hmem, hm⟩

omit [DecidableEq ι] in
theorem Tended.compatible (h : p.Tended requests) : Compatible p.messages := by
  intro m hm n hn hblock hattempt
  rw [h.genuine m hm, h.genuine n hn, hblock, hattempt]

open Delivery in
/-- Runs that are the same to every writer, and leave alone what is nobody's, are alike. -/
theorem alike_of_sameTo (hp : p.Tended requests) (h : ∀ i, SameTo requests i p q)
    (hunowned : ∀ key, (∀ i, key ≠ requested (requests i)) →
      Memory.lookup key p.store.received = Memory.lookup key q.store.received) : p.Alike q := by
  have hmessages : ∀ m, m ∈ p.messages ↔ m ∈ q.messages := by
    intro m
    simp only [mem_messages, fun i => (h i).answers]
  refine ⟨fun i => (h i).answers, fun i => (h i).writer, fun id block attempt => ?_, hmessages,
    fun policy chosen ds es hds hes => ?_⟩
  · by_cases howned : ∃ i, (⟨id, block, attempt⟩ : BlockKey) = requested (requests i)
    · obtain ⟨i, hi⟩ := howned
      simp only [Store.receivedBlock, hi]
      exact (h i).service.stored
    · exact hunowned _ (not_exists.mp howned)
  · have hes' : Carry es p.messages := fun m => (hes m).trans (hmessages m).symm
    have hagree := hds.agree hes' policy chosen hp.compatible
    exact ⟨hds.succeeds policy chosen hp.compatible, hagree, by rw [hagree]⟩

end Crew

/-- Writers of different attempts do not interact: in all orders that keep the calls of each writer
in place, the answers, the stored blocks and the messages are the same. -/
theorem writers_independent {ι : Type} [DecidableEq ι] {requests : ι → BlockRequest}
    (hkeys : Function.Injective fun i => requested (requests i)) {x : Exchange Store}
    (hx : x.failPoints = []) {a b : List (ι × WriterCall β)} (h : Interleaved a b) :
    ((Crew.start requests x).run a).Alike ((Crew.start requests x).run b) := by
  have hstart := Crew.tended_start requests hx
  refine Crew.alike_of_sameTo (hstart.run a) (Crew.sameTo_of_interleaved hstart hkeys h) ?_
  intro key hkey
  rw [hstart.stored_of_unowned hkey a, hstart.stored_of_unowned hkey b]

def rivalRequests (retry : Bool) : BlockRequest where
  table := ⟨"p", "default", "t"⟩
  sessionId := "session-1"
  block := 3
  attempt := if retry then 1 else 0
  format := {}

/-- The first attempt is made to fail when it is finished. -/
def rivalExchange : Exchange Store :=
  { service := {
      sessions := [("session-1", ⟨"session-1", ⟨"p", "default", "t"⟩, .batchWrite, .active, none,
        none⟩)]
      failingFinishes := [(3, 0)] } }

def rivalTurns : List (Bool × WriterCall EncodedBatch) :=
  [(false, .write .raw ⟨[1], 1⟩), (true, .write .raw ⟨[2], 1⟩), (true, .write .raw ⟨[3], 1⟩),
    (false, .commit), (true, .commit), (false, .write .raw ⟨[4], 1⟩)]

/-- The calls of the second attempt before those of the first. -/
def rivalRetryFirst : List (Bool × WriterCall EncodedBatch) :=
  [(true, .write .raw ⟨[2], 1⟩), (true, .write .raw ⟨[3], 1⟩), (true, .commit),
    (false, .write .raw ⟨[1], 1⟩), (false, .commit), (false, .write .raw ⟨[4], 1⟩)]

theorem writers_independent_when_rivals :
    (Function.Injective fun i => requested (rivalRequests i)) ∧ rivalExchange.failPoints = [] ∧
      Interleaved rivalTurns rivalRetryFirst ∧
      ((Crew.start rivalRequests rivalExchange).run rivalTurns).Alike
        ((Crew.start rivalRequests rivalExchange).run rivalRetryFirst) ∧
      ((Crew.start rivalRequests rivalExchange).run rivalTurns).messages =
        [⟨3, 1, "token-3-1"⟩] := by
  have hkeys : Function.Injective fun i => requested (rivalRequests i) := by
    unfold Function.Injective
    decide
  have horder : Interleaved rivalTurns rivalRetryFirst := by
    intro i
    cases i
    · rfl
    · rfl
  exact ⟨hkeys, rfl, horder, writers_independent hkeys rfl horder, rfl⟩

end TableExchange
