import TableExchange.Proofs.Memory.Rehearsals
import TableExchange.Proofs.Write.Attempts
import TableExchange.Proofs.Write.RecordLines
import TableExchange.Proofs.Write.WriterEffects

/-!
The bytes of a block. Writes, commits and give-ups come in any order and may fail anywhere; the
service keeps nothing of the attempt until a commit returns its message, and from then on exactly
the bytes of the batches whose writes succeeded. How records were divided into batches does not
show.
-/
namespace TableExchange

open Memory (Store Upload)

variable {β σ υ : Type}

def WriterCall.Uses (codec : Codec β) (call : WriterCall β) : Prop :=
  ∀ other batch, call = .write other batch → other = codec

namespace Visit

def batch? (v : Visit β σ υ) : Option (Codec β × β) :=
  match v.call, v.answer with
  | .write codec batch, .wrote (.ok ()) => some (codec, batch)
  | _, _ => none

def encoding? (v : Visit β σ υ) : Option EncodedBatch :=
  v.batch?.bind fun b => (b.1.encode b.2).toOption

def message? (v : Visit β σ υ) : Option CommitMessage :=
  match v.answer with
  | .ended (.ok message) => message
  | _ => none

end Visit

theorem Visit.call_of_batch? {v : Visit β σ υ} {b : Codec β × β} (h : v.batch? = some b) :
    v.call = .write b.1 b.2 := by
  unfold batch? at h
  split at h
  · next codec batch hcall _ =>
    obtain rfl := Option.some.inj h
    exact hcall
  · contradiction

/-- What a call makes of the bytes of its writer's attempt: it adds those of a batch to the upload,
it has the service store the upload, or it does neither. -/
inductive Fills (v : Visit β (Rehearsal Store) Upload) : Prop
  | sent {codec : Codec β} {batch : β} {e : EncodedBatch} {u : Upload}
      (hbatch : v.batch? = some (codec, batch)) (hcode : codec.encode batch = .ok e)
      (hup : v.before.stage = .opened u ∨
        v.before.stage = .idle ∧ u = ⟨Memory.requested v.before.request, []⟩)
      (hstage : v.after.stage = .opened { u with buffer := u.buffer ++ e.bytes })
      (hrecords : v.after.records = v.before.records + e.records) (hmessage : v.message? = none)
      (hkept : v.left.service.inner.received = v.found.service.inner.received)
  | finished {u : Upload} {m : CommitMessage} (hbatch : v.batch? = none)
      (hup : v.before.stage = .opened u) (hstage : v.after.stage = .committed)
      (hrecords : v.after.records = v.before.records) (hmessage : v.message? = some m)
      (hstored : v.left.service.inner.received =
        Memory.assign u.key u.buffer v.found.service.inner.received)
  | quiet (hbatch : v.batch? = none)
      (hstage : v.after.stage = v.before.stage ∨ v.after.stage = .committed ∨
        v.after.stage = .aborted)
      (hrecords : v.after.records = v.before.records) (hmessage : v.message? = none)
      (hkept : v.left.service.inner.received = v.found.service.inner.received)

section Calls

variable {w w' : BlockWriter Upload} {x left : Exchange (Rehearsal Store)}
  {events : List (WriteEvent Upload)}

/-- An upload is empty when it is opened, and opening it stores nothing. -/
theorem BlockWriter.Uploading.fresh {opening : List (WriteEvent Upload)} {u : Upload}
    {s s' : Rehearsal Store} (hup : w.Uploading x opening u)
    (hled : Led Memory.rehearsed s opening s') :
    (w.stage = .opened u ∨ w.stage = .idle ∧ u = ⟨Memory.requested w.request, []⟩) ∧
      s'.inner.received = s.inner.received := by
  cases hup with
  | held hstage =>
    obtain rfl := led_nil_iff.mp hled
    exact ⟨.inl hstage, rfl⟩
  | opened hstage _ =>
    obtain ⟨s₁, hopen, hrest⟩ := led_cons_iff.mp hled
    obtain rfl := led_nil_iff.mp hrest
    obtain ⟨hkept, hnew⟩ := Memory.rehearsed_openBlock hopen
    exact ⟨.inr ⟨hstage, hnew u rfl⟩, hkept⟩

theorem fills_of_written {codec : Codec β} {batch : β} {answer : Except Failure Unit}
    (hw : w.Written x codec batch events answer w')
    (hled : Led Memory.rehearsed x.service events left.service) :
    Fills ⟨.write codec batch, x, w, .wrote answer, events, w', left⟩ := by
  cases hw with
  | closed _ | unencoded _ _ | barred _ _ _ =>
    have hsame := led_nil_iff.mp hled
    exact .quiet rfl (.inl rfl) rfl rfl (congrArg (·.inner.received) hsame)
  | unopened _ _ _ =>
    obtain ⟨s₁, hopen, hrest⟩ := led_cons_iff.mp hled
    have hsame := led_nil_iff.mp hrest
    refine .quiet rfl (.inl rfl) rfl rfl ?_
    rw [hsame]
    exact (Memory.rehearsed_openBlock hopen).1
  | sent hcode hup =>
    obtain ⟨s₁, hopening, hrest⟩ := led_append_iff.mp hled
    obtain ⟨s₂, hsend, hlast⟩ := led_cons_iff.mp hrest
    obtain ⟨hfresh, hkept⟩ := hup.fresh hopening
    obtain ⟨hinner, hbuffer⟩ := Memory.rehearsed_sendChunk hsend
    refine .sent rfl hcode hfresh (congrArg WriterStage.opened (hbuffer rfl)) rfl rfl ?_
    rw [led_nil_iff.mp hlast, hinner]
    exact hkept
  | unsent hcode hup =>
    obtain ⟨s₁, hopening, hrest⟩ := led_append_iff.mp hled
    obtain ⟨s₂, hsend, habort⟩ := led_cons_iff.mp hrest
    obtain ⟨s₃, hgiven, hlast⟩ := led_cons_iff.mp habort
    obtain ⟨-, hkept⟩ := hup.fresh hopening
    obtain ⟨hinner, -⟩ := Memory.rehearsed_sendChunk hsend
    refine .quiet rfl (.inr (.inr rfl)) rfl rfl ?_
    rw [led_nil_iff.mp hlast, ← show _ = s₃ from hgiven]
    exact (congrArg Store.received hinner).trans hkept

theorem fills_of_ended {answer : Except Failure (Option CommitMessage)}
    (he : w.Ended x events answer w')
    (hled : Led Memory.rehearsed x.service events left.service) :
    Fills (⟨.commit, x, w, .ended answer, events, w', left⟩ :
      Visit β (Rehearsal Store) Upload) := by
  cases he with
  | empty _ =>
    exact .quiet rfl (.inr (.inl rfl)) rfl rfl (congrArg (·.inner.received) (led_nil_iff.mp hled))
  | again _ _ | closed _ _ =>
    exact .quiet rfl (.inl rfl) rfl rfl (congrArg (·.inner.received) (led_nil_iff.mp hled))
  | barred _ _ =>
    obtain ⟨s₁, hgiven, hlast⟩ := led_cons_iff.mp hled
    refine .quiet rfl (.inr (.inr rfl)) rfl rfl ?_
    rw [led_nil_iff.mp hlast, ← show _ = s₁ from hgiven]
    rfl
  | finished hstage _ =>
    obtain ⟨s₁, hfinish, hlast⟩ := led_cons_iff.mp hled
    refine .finished rfl hstage rfl rfl rfl ?_
    rw [led_nil_iff.mp hlast]
    exact (Memory.rehearsed_finishBlock hfinish).2 _ rfl
  | unfinished _ _ =>
    obtain ⟨s₁, hfinish, hlast⟩ := led_cons_iff.mp hled
    refine .quiet rfl (.inr (.inr rfl)) rfl rfl ?_
    rw [led_nil_iff.mp hlast]
    exact (Memory.rehearsed_finishBlock hfinish).1 _ rfl

theorem fills_of_givenUp (hg : w.GivenUp events w')
    (hled : Led Memory.rehearsed x.service events left.service) :
    Fills (⟨.abort, x, w, .gaveUp, events, w', left⟩ : Visit β (Rehearsal Store) Upload) := by
  cases hg with
  | committed _ | aborted _ =>
    exact .quiet rfl (.inl rfl) rfl rfl (congrArg (·.inner.received) (led_nil_iff.mp hled))
  | opened _ =>
    obtain ⟨s₁, hgiven, hlast⟩ := led_cons_iff.mp hled
    refine .quiet rfl (.inr (.inr rfl)) rfl rfl ?_
    rw [led_nil_iff.mp hlast, ← show _ = s₁ from hgiven]
    rfl
  | idle _ =>
    exact .quiet rfl (.inr (.inr rfl)) rfl rfl (congrArg (·.inner.received) (led_nil_iff.mp hled))

theorem Visit.fills (call : WriterCall β) (w : BlockWriter Upload)
    (x : Exchange (Rehearsal Store)) : Fills (Visit.of Memory.rehearsed call w x) := by
  have hled := w.make_led Memory.rehearsed call x
  have hmade := Visit.made Memory.rehearsed call w x
  cases call with
  | write codec batch =>
    cases hmade with
    | write hw => exact fills_of_written hw hled
  | commit =>
    cases hmade with
    | commit he => exact fills_of_ended he hled
  | abort =>
    cases hmade with
    | abort hg => exact fills_of_givenUp hg hled

end Calls

namespace Attempt

/-- The bytes of all batches whose writes succeeded, in their order. -/
def contents (visits : List (Visit β σ υ)) : List UInt8 :=
  visits.flatMap fun v => v.encoding?.elim [] (·.bytes)

def records (visits : List (Visit (List JsonRecord) σ υ)) : List JsonRecord :=
  visits.flatMap fun v => v.batch?.elim [] (·.2)

def Acknowledged (visits : List (Visit β σ υ)) : Prop :=
  ∃ v ∈ visits, ∃ m, v.message? = some m

/-- The bytes of an attempt that the service keeps after some calls. -/
def leftBy (request : BlockRequest) (visits : List (Visit β (Rehearsal Store) Upload)) :
    Option (List UInt8) :=
  visits.getLast?.bind fun v =>
    v.left.service.inner.receivedBlock request.sessionId request.block request.attempt

/-- Nobody else stores bytes of the attempt: a call finds those that the call before it has left,
and the first call finds none. -/
def Alone (request : BlockRequest) (visits : List (Visit β (Rehearsal Store) Upload)) : Prop :=
  AtEach (fun before v =>
    v.found.service.inner.receivedBlock request.sessionId request.block request.attempt =
      leftBy request before) visits

/-- What the service keeps of an attempt after each of its calls. -/
structure Contained (request : BlockRequest) (visits : List (Visit β (Rehearsal Store) Upload)) :
    Prop where
  /-- A write does not succeed without an encoding of its batch. -/
  encoded : ∀ v ∈ visits, ∀ codec batch, v.batch? = some (codec, batch) →
    ∃ e, codec.encode batch = .ok e ∧ v.encoding? = some e
  /-- Once a message was returned, the bytes of all successful writes. -/
  stored : AtEach (fun before v => Acknowledged (before ++ [v]) →
    leftBy request (before ++ [v]) = some (contents (before ++ [v]))) visits
  /-- Before that, nothing. -/
  absent : AtEach (fun before v => ¬Acknowledged (before ++ [v]) →
    leftBy request (before ++ [v]) = none) visits

structure Filled (request : BlockRequest) (a : Attempt β (Rehearsal Store) Upload) : Prop where
  named : a.writer.request = request
  idle : a.writer.stage = .idle → contents a.visits = []
  opened : ∀ u, a.writer.stage = .opened u → u = ⟨Memory.requested request, contents a.visits⟩
  live : a.writer.stage ≠ .committed → a.writer.stage ≠ .aborted → ¬Acknowledged a.visits
  stored : Acknowledged a.visits → leftBy request a.visits = some (contents a.visits)
  absent : ¬Acknowledged a.visits → leftBy request a.visits = none
  contained : Contained request a.visits

@[simp] theorem leftBy_concat (request : BlockRequest)
    (visits : List (Visit β (Rehearsal Store) Upload)) (v : Visit β (Rehearsal Store) Upload) :
    leftBy request (visits ++ [v]) =
      v.left.service.inner.receivedBlock request.sessionId request.block request.attempt := by
  simp [leftBy]

theorem contents_concat (visits : List (Visit β σ υ)) (v : Visit β σ υ) :
    contents (visits ++ [v]) = contents visits ++ v.encoding?.elim [] (·.bytes) := by
  simp [contents]

theorem acknowledged_concat {visits : List (Visit β σ υ)} {v : Visit β σ υ} :
    Acknowledged (visits ++ [v]) ↔ Acknowledged visits ∨ ∃ m, v.message? = some m :=
  exists_mem_concat

theorem filled_start (request : BlockRequest) :
    (start request : Attempt β (Rehearsal Store) Upload).Filled request where
  named := rfl
  idle _ := rfl
  opened u hu := by simp [start] at hu
  live _ _ := by simp [start, Acknowledged]
  stored hack := by simp [start, Acknowledged] at hack
  absent _ := rfl
  contained := ⟨by simp [start], atEach_nil _, atEach_nil _⟩

section Step

variable {request : BlockRequest} {a : Attempt β (Rehearsal Store) Upload}
  {v : Visit β (Rehearsal Store) Upload}

/-- The upload that bytes are added to holds what was written so far. -/
theorem Filled.upload (h : a.Filled request) {u : Upload}
    (hup : a.writer.stage = .opened u ∨
      a.writer.stage = .idle ∧ u = ⟨Memory.requested a.writer.request, []⟩) :
    u = ⟨Memory.requested request, contents a.visits⟩ ∧ ¬Acknowledged a.visits := by
  rcases hup with hstage | ⟨hstage, rfl⟩
  · exact ⟨h.opened u hstage, h.live (by simp [hstage]) (by simp [hstage])⟩
  · refine ⟨?_, h.live (by simp [hstage]) (by simp [hstage])⟩
    rw [h.idle hstage, h.named]

/-- A call that writes no batch adds no bytes. -/
theorem contents_of_no_batch (hbatch : v.batch? = none) :
    contents (a.visits ++ [v]) = contents a.visits := by
  simp [contents_concat, Visit.encoding?, hbatch]

theorem acknowledged_of_no_message (hmessage : v.message? = none) :
    Acknowledged (a.visits ++ [v]) ↔ Acknowledged a.visits := by
  simp [acknowledged_concat, hmessage]

/-- A call that stores nothing leaves the bytes that it has found. -/
theorem leftBy_of_kept
    (hfound : v.found.service.inner.receivedBlock request.sessionId request.block request.attempt =
      leftBy request a.visits)
    (hkept : v.left.service.inner.received = v.found.service.inner.received) :
    leftBy request (a.visits ++ [v]) = leftBy request a.visits := by
  rw [leftBy_concat, ← hfound, Store.receivedBlock, hkept]
  rfl

theorem Contained.concat {visits : List (Visit β (Rehearsal Store) Upload)}
    (h : Contained request visits)
    (hencoded : ∀ codec batch, v.batch? = some (codec, batch) →
      ∃ e, codec.encode batch = .ok e ∧ v.encoding? = some e)
    (hstored : Acknowledged (visits ++ [v]) →
      leftBy request (visits ++ [v]) = some (contents (visits ++ [v])))
    (habsent : ¬Acknowledged (visits ++ [v]) → leftBy request (visits ++ [v]) = none) :
    Contained request (visits ++ [v]) := by
  refine ⟨List.forall_mem_append.mpr ⟨h.encoded, ?_⟩, atEach_concat.mpr ⟨h.stored, hstored⟩,
    atEach_concat.mpr ⟨h.absent, habsent⟩⟩
  exact List.forall_mem_singleton.mpr hencoded

/-- One call keeps what is said of the bytes. -/
theorem Filled.step (h : a.Filled request) (hfills : Fills v) (hbefore : v.before = a.writer)
    (hrequest : v.after.request = v.before.request)
    (hfound : v.found.service.inner.receivedBlock request.sessionId request.block request.attempt =
      leftBy request a.visits) :
    Filled request ⟨a.visits ++ [v], v.after⟩ := by
  have hnamed : v.after.request = request := by rw [hrequest, hbefore, h.named]
  have hleft := leftBy_of_kept hfound
  cases hfills with
  | @sent codec batch e u hbatch hcode hup hstage _ hmessage hkept =>
    rw [hbefore] at hup
    obtain ⟨rfl, hnone⟩ := h.upload hup
    have hencoding : v.encoding? = some e := by
      simp [Visit.encoding?, hbatch, hcode, Except.toOption]
    have hnone' : ¬Acknowledged (a.visits ++ [v]) := by
      rwa [acknowledged_of_no_message hmessage]
    have habsent : leftBy request (a.visits ++ [v]) = none := by
      rw [hleft hkept, h.absent hnone]
    refine ⟨hnamed, by simp [hstage], fun u' hu' => ?_, fun _ _ => hnone',
      fun hack => absurd hack hnone', fun _ => habsent,
      h.contained.concat ?_ (fun hack => absurd hack hnone') fun _ => habsent⟩
    · obtain rfl := WriterStage.opened.inj (hstage.symm.trans hu')
      rw [contents_concat, hencoding]
      rfl
    · rintro codec' batch' hbatch'
      obtain ⟨rfl, rfl⟩ : codec = codec' ∧ batch = batch' := by simpa [hbatch] using hbatch'
      exact ⟨e, hcode, hencoding⟩
  | @finished u m hbatch hup hstage _ hmessage hstored =>
    rw [hbefore] at hup
    obtain ⟨rfl, -⟩ := h.upload (.inl hup)
    have hack : Acknowledged (a.visits ++ [v]) := acknowledged_concat.mpr (.inr ⟨m, hmessage⟩)
    have hbytes : leftBy request (a.visits ++ [v]) = some (contents (a.visits ++ [v])) := by
      rw [leftBy_concat, Store.receivedBlock, hstored, contents_of_no_batch hbatch]
      exact Memory.lookup_assign_self _ _ _
    exact ⟨hnamed, by simp [hstage], by simp [hstage], fun hne => absurd hstage hne,
      fun _ => hbytes, fun hnone => absurd hack hnone,
      h.contained.concat (by simp [hbatch]) (fun _ => hbytes) fun hnone => absurd hack hnone⟩
  | quiet hbatch hstage _ hmessage hkept =>
    have hsame := contents_of_no_batch (a := a) hbatch
    have hack := acknowledged_of_no_message (a := a) hmessage
    have hstored : Acknowledged (a.visits ++ [v]) →
        leftBy request (a.visits ++ [v]) = some (contents (a.visits ++ [v])) := by
      rw [hack, hleft hkept, hsame]
      exact h.stored
    have habsent : ¬Acknowledged (a.visits ++ [v]) → leftBy request (a.visits ++ [v]) = none := by
      rw [hack, hleft hkept]
      exact h.absent
    have hcontained := h.contained.concat (by simp [hbatch]) hstored habsent
    rw [hbefore] at hstage
    rcases hstage with hstage | hstage | hstage
    · refine ⟨hnamed, ?_, ?_, ?_, hstored, habsent, hcontained⟩
      · simpa only [hstage, hsame] using h.idle
      · simpa only [hstage, hsame] using h.opened
      · simpa only [hstage, hack] using h.live
    · exact ⟨hnamed, by simp [hstage], by simp [hstage], fun hne => absurd hstage hne, hstored,
        habsent, hcontained⟩
    · exact ⟨hnamed, by simp [hstage], by simp [hstage], fun _ hne => absurd hstage hne, hstored,
        habsent, hcontained⟩

end Step

/-- Calls only add visits. -/
theorem visits_run (svc : WriteService σ υ) (a : Attempt β σ υ)
    (calls : List (WriterCall β × Exchange σ)) :
    ∃ more, (a.run svc calls).visits = a.visits ++ more := by
  induction calls generalizing a with
  | nil => exact ⟨[], (List.append_nil _).symm⟩
  | cons c rest ih =>
    obtain ⟨more, hmore⟩ := ih (a.take svc c)
    refine ⟨Visit.of svc c.1 a.writer c.2 :: more, hmore.trans ?_⟩
    simp [take]

theorem Filled.run {request : BlockRequest} {a : Attempt β (Rehearsal Store) Upload}
    (h : a.Filled request) (calls : List (WriterCall β × Exchange (Rehearsal Store)))
    (halone : Alone request (a.run Memory.rehearsed calls).visits) :
    (a.run Memory.rehearsed calls).Filled request := by
  induction calls generalizing a with
  | nil => exact h
  | cons c rest ih =>
    refine ih (h.step (Visit.fills c.1 a.writer c.2) rfl ?_ ?_) halone
    · exact (Visit.made Memory.rehearsed c.1 a.writer c.2).request
    · obtain ⟨more, hmore⟩ := visits_run Memory.rehearsed (a.take Memory.rehearsed c) rest
      refine halone a.visits (Visit.of Memory.rehearsed c.1 a.writer c.2) more (hmore.trans ?_)
      simp [take]

section Records

variable {a : Attempt (List JsonRecord) (Rehearsal Store) Upload}

/-- The bytes and the count of an attempt are those of one batch with all of its records. -/
def Joined (a : Attempt (List JsonRecord) (Rehearsal Store) Upload) : Prop :=
  Codec.jsonLines.encode (records a.visits) = .ok ⟨contents a.visits, a.writer.records⟩

theorem Joined.take (h : a.Joined)
    (c : WriterCall (List JsonRecord) × Exchange (Rehearsal Store))
    (hcodec : c.1.Uses .jsonLines) : (a.take Memory.rehearsed c).Joined := by
  have hfills := Visit.fills c.1 a.writer c.2
  have hquiet : ∀ v : Visit (List JsonRecord) (Rehearsal Store) Upload, v.batch? = none →
      v.after.records = a.writer.records → Joined ⟨a.visits ++ [v], v.after⟩ := by
    intro v hbatch hrecords
    have hsame : records (a.visits ++ [v]) = records a.visits := by simp [records, hbatch]
    rw [Joined, hsame, contents_of_no_batch hbatch, hrecords]
    exact h
  cases hfills with
  | @sent codec batch e _ hbatch hcode _ _ hrecords _ _ =>
    obtain rfl := hcodec codec batch (Visit.call_of_batch? hbatch)
    have hmore : records (a.take Memory.rehearsed c).visits = records a.visits ++ batch := by
      simp [records, Attempt.take, hbatch]
    have hbytes : contents (a.take Memory.rehearsed c).visits = contents a.visits ++ e.bytes := by
      simp [contents, Attempt.take, Visit.encoding?, hbatch, hcode, Except.toOption]
    have hcount : (a.take Memory.rehearsed c).writer.records = a.writer.records + e.records :=
      hrecords
    rw [Joined, hmore, hbytes, hcount]
    exact Codec.jsonLines_append h hcode
  | finished hbatch _ _ hrecords _ _ => exact hquiet _ hbatch hrecords
  | quiet hbatch _ hrecords _ _ => exact hquiet _ hbatch hrecords

theorem Joined.run (h : a.Joined)
    (calls : List (WriterCall (List JsonRecord) × Exchange (Rehearsal Store)))
    (hcodec : ∀ c ∈ calls, c.1.Uses .jsonLines) : (a.run Memory.rehearsed calls).Joined := by
  induction calls generalizing a with
  | nil => exact h
  | cons c rest ih =>
    obtain ⟨hfirst, hrest⟩ := List.forall_mem_cons.mp hcodec
    exact ih (h.take c hfirst) hrest

theorem Joined.count (h : a.Joined) (hlt : (records a.visits).length < UInt64.size) :
    a.writer.records.toNat = (records a.visits).length := by
  obtain ⟨cs, -, heq⟩ := Codec.lines_of_jsonLines h
  rw [(EncodedBatch.mk.inj heq).2]
  exact UInt64.toNat_ofNat_of_lt hlt

end Records

end Attempt

open Attempt in
/-- Whatever is called on a writer and whatever fails, a block holds what was written with success
once its commit has returned a message, and the service has nothing of it before. Of records that
are written as lines only their sequence shows. -/
theorem block_contents (request : BlockRequest) :
    (∀ calls : List (WriterCall β × Exchange (Rehearsal Store)),
      let a := (Attempt.start request).run Memory.rehearsed calls
      Alone request a.visits → Contained request a.visits) ∧
    ∀ calls : List (WriterCall (List JsonRecord) × Exchange (Rehearsal Store)),
      (∀ c ∈ calls, c.1.Uses .jsonLines) →
      let a := (Attempt.start request).run Memory.rehearsed calls
      Codec.jsonLines.encode (records a.visits) = .ok ⟨contents a.visits, a.writer.records⟩ ∧
        ((records a.visits).length < UInt64.size →
          a.writer.records.toNat = (records a.visits).length) := by
  constructor
  · intro calls a halone
    exact ((filled_start request).run calls halone).contained
  · intro calls hcodec a
    have hstart : (start request).Joined := Codec.jsonLines_nil
    have hjoined : a.Joined := hstart.run calls hcodec
    exact ⟨hjoined, hjoined.count⟩

def linedRequest : BlockRequest where
  table := ⟨"p", "default", "t"⟩
  sessionId := "session-1"
  block := 7
  attempt := 2
  format := {}

/-- Surroundings in which the session is open and nothing was received. -/
def linedExchange : Exchange (Rehearsal Store) :=
  { service := {
      inner := {
        sessions := [("session-1", ⟨"session-1", ⟨"p", "default", "t"⟩, .batchWrite, .active, none,
          none⟩)] } } }

/-- The opening fails once, and a record in between cannot be written. -/
def linedCalls : List (WriterCall (List JsonRecord) × Exchange (Rehearsal Store)) :=
  let write (records : List JsonRecord) : WriterCall (List JsonRecord) := .write .jsonLines records
  let refused : Exchange (Rehearsal Store) := { linedExchange with
    service := linedExchange.service.queue "open_block" 0 (.of .connectionFailed "refused") }
  [(write [.value (.bool true)], refused), (write [.value (.bool true)], linedExchange),
    (write [.unwritable "key"], linedExchange),
    (write [.value .null, .value (.string "x")], linedExchange), (.commit, linedExchange)]

open Attempt in
theorem block_contents_of_lines :
    let a := (Attempt.start linedRequest).run Memory.rehearsed linedCalls
    Alone linedRequest a.visits ∧ (∀ c ∈ linedCalls, c.1.Uses .jsonLines) ∧
      ∃ bytes, leftBy linedRequest a.visits = some bytes ∧
        Codec.jsonLines.encode [.value (.bool true), .value .null, .value (.string "x")] =
          .ok ⟨bytes, 3⟩ := by
  intro a
  have halone : Alone linedRequest a.visits := by
    refine atEach_concat.mpr ⟨atEach_concat.mpr ⟨atEach_concat.mpr ⟨atEach_concat.mpr
      ⟨atEach_concat.mpr ⟨atEach_nil _, ?_⟩, ?_⟩, ?_⟩, ?_⟩, ?_⟩
    all_goals rfl
  have hcodec : ∀ c ∈ linedCalls, c.1.Uses .jsonLines := by
    simp [linedCalls, WriterCall.Uses]
  have hcontained := (block_contents linedRequest).1 linedCalls halone
  obtain ⟨hjoined, -⟩ := (block_contents (β := List JsonRecord) linedRequest).2 linedCalls hcodec
  refine ⟨halone, hcodec, contents a.visits, ?_, ?_⟩
  · exact hcontained.stored _ _ _ rfl ⟨_, List.mem_concat_self, _, rfl⟩
  · exact hjoined

end TableExchange
