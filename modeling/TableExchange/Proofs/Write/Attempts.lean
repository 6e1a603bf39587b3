import TableExchange.Proofs.Write.UploadTrail

/-!
Runs of a block writer: writes, commits and give-ups in any order, on a service, codecs and fail
points that may fail anywhere. The upload is opened at most once and consumed exactly once, when the
writer leaves its open stage; after its end the writer refuses every call and asks for nothing.
-/
namespace TableExchange

variable {σ υ β : Type}

namespace BlockWriter

variable {w w' : BlockWriter υ} {x : Exchange σ} {events : List (WriteEvent υ)}

/-- The upload comes from the stage or from a request. -/
theorem Uploading.open_or_opens {opening : List (WriteEvent υ)} {u : υ}
    (hup : w.Uploading x opening u) :
    (w.stage.isOpen = true ∧ opening = []) ∨ (w.stage = .idle ∧
      opening = [.opening w.request (.ok u)]) := by
  cases hup with
  | held hstage => exact .inl ⟨by rw [hstage]; rfl, rfl⟩
  | opened hstage hpoint => exact .inr ⟨hstage, rfl⟩

/-- An idle writer has its upload opened first. -/
theorem Uploading.opens_of_idle {opening : List (WriteEvent υ)} {u : υ}
    (hup : w.Uploading x opening u) (hstage : w.stage = .idle) :
    opening = [.opening w.request (.ok u)] := by
  rcases hup.open_or_opens with ⟨hopen, -⟩ | ⟨-, hopening⟩
  · rw [hstage] at hopen
    contradiction
  · exact hopening

/-- There is one upload that a batch can be sent over. -/
theorem Uploading.over {opening later : List (WriteEvent υ)} {u v : υ}
    (hup : w.Uploading x opening v) (hlater : ∀ e ∈ later, e.opens = false)
    (hheld : w.stage = .opened u ∨ .opening w.request (.ok u) ∈ opening ++ later) : v = u := by
  cases hup with
  | held hstage =>
    rcases hheld with hheld | hheld
    · simpa [hstage] using hheld
    · simpa [WriteEvent.opens] using hlater _ hheld
  | opened hstage _ =>
    rcases hheld with hheld | hheld
    · simp [hstage] at hheld
    · rcases List.mem_cons.mp hheld with hheld | hheld
      · simpa [eq_comm] using hheld
      · simpa [WriteEvent.opens] using hlater _ hheld

section Written

variable {codec : Codec β} {batch : β} {answer : Except Failure Unit}

theorem Written.kept (hw : Written w x codec batch events answer w') (hstage : w.stage = .idle)
    (hopens : ∀ e ∈ events, e.opens = false) : w' = w ∧ ∃ f, answer = .error f := by
  cases hw with
  | closed _ => exact ⟨rfl, _, rfl⟩
  | unencoded _ _ => exact ⟨rfl, _, rfl⟩
  | barred _ _ _ => exact ⟨rfl, _, rfl⟩
  | unopened _ _ _ => exact ⟨rfl, _, rfl⟩
  | sent _ hup =>
    obtain rfl := hup.opens_of_idle hstage
    simp [WriteEvent.opens] at hopens
  | unsent _ hup =>
    obtain rfl := hup.opens_of_idle hstage
    simp [WriteEvent.opens] at hopens

theorem Written.tries (hw : Written w x codec batch events answer w') (hstage : w.stage = .idle)
    {e : EncodedBatch} (hcode : codec.encode batch = .ok e)
    (hpoint : (x.passPoint FailPoints.beforeOpen).1 = .ok ()) :
    ∃ opening, .opening w.request opening ∈ events := by
  cases hw with
  | closed hclosed => simp [hstage] at hclosed
  | unencoded _ hfail => simp [hcode] at hfail
  | barred _ _ hfail => simp [hpoint] at hfail
  | unopened _ _ _ => exact ⟨_, List.mem_singleton_self _⟩
  | sent _ hup =>
    obtain rfl := hup.opens_of_idle hstage
    exact ⟨_, List.mem_cons_self⟩
  | unsent _ hup =>
    obtain rfl := hup.opens_of_idle hstage
    exact ⟨_, List.mem_cons_self⟩

theorem Written.consumes_iff (hw : Written w x codec batch events answer w') :
    (∃ e ∈ events, e.consumes = true) ↔
      (w.stage.isOpen = true ∨ ∃ e ∈ events, e.opens = true) ∧ w'.stage.isOpen = false := by
  cases hw with
  | closed hstage => rcases hstage with hstage | hstage <;> simp [hstage, WriterStage.isOpen]
  | unencoded _ _ => simp
  | barred hstage _ _ => simp [hstage, WriterStage.isOpen]
  | unopened hstage _ _ => simp [hstage, WriterStage.isOpen, WriteEvent.opens, WriteEvent.consumes]
  | sent _ hup =>
    rcases hup.open_or_opens with ⟨hopen, rfl⟩ | ⟨_, rfl⟩ <;>
      simp [WriterStage.isOpen, WriteEvent.consumes]
  | @unsent e opening u u' f _ hup =>
    have haborting : .aborting u' ∈ opening ++ [.sending u e.bytes (.error f) u', .aborting u'] :=
      List.mem_append_right _ (by simp)
    refine iff_of_true ⟨_, haborting, rfl⟩ ⟨?_, rfl⟩
    rcases hup.open_or_opens with ⟨hopen, rfl⟩ | ⟨_, rfl⟩
    · exact .inl hopen
    · exact .inr ⟨_, List.mem_cons_self, rfl⟩

theorem Written.of_unsent (hw : Written w x codec batch events answer w') {u u' : υ}
    {bytes : List UInt8} {f : Failure} (hsend : .sending u bytes (.error f) u' ∈ events) :
    answer = .error f ∧ w'.stage = .aborted := by
  cases hw with
  | closed _ => simp at hsend
  | unencoded _ _ => simp at hsend
  | barred _ _ _ => simp at hsend
  | unopened _ _ _ => simp at hsend
  | sent _ hup => rcases hup.open_or_opens with ⟨_, rfl⟩ | ⟨_, rfl⟩ <;> simp at hsend
  | unsent _ hup =>
    refine ⟨?_, rfl⟩
    rcases hup.open_or_opens with ⟨_, rfl⟩ | ⟨_, rfl⟩ <;> simp_all

/-- A batch that meets an open upload is sent over it. -/
theorem Written.sends (hw : Written w x codec batch events answer w') {e : EncodedBatch} {u : υ}
    (hcode : codec.encode batch = .ok e)
    (hheld : w.stage = .opened u ∨ .opening w.request (.ok u) ∈ events) :
    ∃ u', .sending u e.bytes answer u' ∈ events ∧ (answer = .ok () →
      w'.bytes = w.bytes + e.bytes.length.toUInt64 ∧ w'.records = w.records + e.records) := by
  cases hw with
  | closed hclosed =>
    rcases hclosed with hclosed | hclosed <;> simp [hclosed] at hheld
  | unencoded _ hfail => simp [hcode] at hfail
  | barred hstage _ _ => simp [hstage] at hheld
  | unopened hstage _ _ => simp [hstage] at hheld
  | @sent e' opening v u' hcode' hup =>
    obtain rfl : e' = e := by simpa [hcode] using hcode'.symm
    obtain rfl := hup.over (by simp [WriteEvent.opens]) hheld
    exact ⟨u', by simp, fun _ => ⟨rfl, rfl⟩⟩
  | @unsent e' opening v u' f hcode' hup =>
    obtain rfl : e' = e := by simpa [hcode] using hcode'.symm
    obtain rfl := hup.over (by simp [WriteEvent.opens]) hheld
    exact ⟨u', by simp, by simp⟩

theorem Written.not_finishing (hw : Written w x codec batch events answer w') (u : υ)
    (token : Except Failure String) : .finishing u token ∉ events := by
  cases hw with
  | closed _ => simp
  | unencoded _ _ => simp
  | barred _ _ _ => simp
  | unopened _ _ _ => simp
  | sent _ hup => rcases hup.open_or_opens with ⟨_, rfl⟩ | ⟨_, rfl⟩ <;> simp
  | unsent _ hup => rcases hup.open_or_opens with ⟨_, rfl⟩ | ⟨_, rfl⟩ <;> simp

end Written

section Ended

variable {answer : Except Failure (Option CommitMessage)}

theorem Ended.consumes_iff (he : Ended w x events answer w') :
    (∃ e ∈ events, e.consumes = true) ↔
      (w.stage.isOpen = true ∨ ∃ e ∈ events, e.opens = true) ∧ w'.stage.isOpen = false := by
  cases he with
  | empty hstage => simp [hstage, WriterStage.isOpen]
  | again hstage _ => simp [hstage, WriterStage.isOpen]
  | closed hstage _ => simp [hstage, WriterStage.isOpen]
  | barred hstage _ => simp [hstage, WriterStage.isOpen, WriteEvent.consumes]
  | finished hstage _ => simp [hstage, WriterStage.isOpen, WriteEvent.consumes]
  | unfinished hstage _ => simp [hstage, WriterStage.isOpen, WriteEvent.consumes]

theorem Ended.of_unfinished (he : Ended w x events answer w') {u : υ} {f : Failure}
    (hfinish : .finishing u (.error f) ∈ events) : answer = .error f ∧ w'.stage = .aborted := by
  cases he with
  | empty _ => simp at hfinish
  | again _ _ => simp at hfinish
  | closed _ _ => simp at hfinish
  | barred _ _ => simp at hfinish
  | finished _ _ => simp at hfinish
  | unfinished _ _ =>
    obtain ⟨-, rfl⟩ : u = _ ∧ f = _ := by simpa using hfinish
    exact ⟨rfl, rfl⟩

theorem Ended.of_barred (he : Ended w x events answer w') {u : υ} {f : Failure}
    (hstage : w.stage = .opened u) (hpoint : (x.passPoint FailPoints.beforeFinish).1 = .error f) :
    answer = .error f ∧ w'.stage = .aborted ∧ events = [.aborting u] := by
  cases he with
  | empty h => simp [hstage] at h
  | again h _ => simp [hstage] at h
  | closed h _ => simp [hstage] at h
  | barred h hbar =>
    obtain rfl : u = _ := by simpa [hstage] using h
    obtain rfl : f = _ := by simpa [hpoint] using hbar
    exact ⟨rfl, rfl, rfl⟩
  | finished _ hpass => simp [hpoint] at hpass
  | unfinished _ hpass => simp [hpoint] at hpass

theorem Ended.of_passed (he : Ended w x events answer w') {u : υ} (hstage : w.stage = .opened u)
    (hpoint : (x.passPoint FailPoints.beforeFinish).1 = .ok ()) :
    ∃ token, events = [.finishing u token] := by
  cases he with
  | empty h => simp [hstage] at h
  | again h _ => simp [hstage] at h
  | closed h _ => simp [hstage] at h
  | barred _ hbar => simp [hpoint] at hbar
  | finished h _ =>
    obtain rfl : u = _ := by simpa [hstage] using h
    exact ⟨_, rfl⟩
  | unfinished h _ =>
    obtain rfl : u = _ := by simpa [hstage] using h
    exact ⟨_, rfl⟩

theorem Ended.some_iff (he : Ended w x events answer w') (m : CommitMessage) :
    answer = .ok (some m) ↔ m.block = w.request.block ∧ m.attempt = w.request.attempt ∧
      ∃ u, .finishing u (.ok m.token) ∈ events := by
  cases he with
  | empty _ => simp
  | again _ _ => simp
  | closed _ _ => simp
  | barred _ _ => simp
  | finished _ _ =>
    obtain ⟨block, attempt, token⟩ := m
    simp [eq_comm]
  | unfinished _ _ => simp

theorem Ended.none_iff (he : Ended w x events answer w') :
    answer = .ok none ↔ w.stage = .idle := by
  cases he with
  | empty hstage => simp [hstage]
  | again hstage _ => simp [hstage]
  | closed hstage _ => simp [hstage]
  | barred hstage _ => simp [hstage]
  | finished hstage _ => simp [hstage]
  | unfinished hstage _ => simp [hstage]

theorem Ended.not_sending (he : Ended w x events answer w') (u u' : υ) (bytes : List UInt8)
    (sent : Except Failure Unit) : .sending u bytes sent u' ∉ events := by
  cases he <;> simp

end Ended

theorem GivenUp.consumes_iff (hg : GivenUp w events w') :
    (∃ e ∈ events, e.consumes = true) ↔
      (w.stage.isOpen = true ∨ ∃ e ∈ events, e.opens = true) ∧ w'.stage.isOpen = false := by
  cases hg with
  | committed hstage => simp [hstage, WriterStage.isOpen]
  | opened hstage => simp [hstage, WriterStage.isOpen, WriteEvent.consumes]
  | idle hstage => simp [hstage, WriterStage.isOpen]
  | aborted hstage => simp [hstage, WriterStage.isOpen]

theorem GivenUp.of_opened (hg : GivenUp w events w') {u : υ} (hstage : w.stage = .opened u) :
    events = [.aborting u] ∧ w'.stage = .aborted := by
  cases hg with
  | committed h => simp [hstage] at h
  | opened h =>
    obtain rfl : u = _ := by simpa [hstage] using h
    exact ⟨rfl, rfl⟩
  | idle h => simp [hstage] at h
  | aborted h => simp [hstage] at h

theorem GivenUp.only_aborting (hg : GivenUp w events w') {e : WriteEvent υ} (he : e ∈ events) :
    ∃ u, e = .aborting u := by
  cases hg with
  | committed _ => simp at he
  | opened _ => exact ⟨_, List.mem_singleton.mp he⟩
  | idle _ => simp at he
  | aborted _ => simp at he

theorem make_closed (svc : WriteService σ υ) (call : WriterCall β)
    (hstage : w.stage = .committed ∨ w.stage = .aborted) (x : Exchange σ) :
    (call.make svc w x).2 = (w, x) := by
  rcases hstage with hstage | hstage
  · cases call with
    | write codec batch => simp [WriterCall.make, hstage]
    | commit => simp [WriterCall.make, commit, hstage]
    | abort => simp [WriterCall.make, abort, hstage]
  · cases call with
    | write codec batch => simp [WriterCall.make, hstage]
    | commit => simp [WriterCall.make, commit, hstage]
    | abort => simp [WriterCall.make, abort, hstage, mark_aborted hstage]

end BlockWriter

structure Visit (β σ υ : Type) where
  call : WriterCall β
  found : Exchange σ
  before : BlockWriter υ
  answer : WriterAnswer
  events : List (WriteEvent υ)
  after : BlockWriter υ
  left : Exchange σ

namespace Visit

open BlockWriter

def of (svc : WriteService σ υ) (call : WriterCall β) (w : BlockWriter υ) (x : Exchange σ) :
    Visit β σ υ where
  call := call
  found := x
  before := w
  answer := (call.make svc w x).1
  events := (call.make svc.journaled w (x.watched (WriteEvent υ))).2.2.journal
  after := (call.make svc w x).2.1
  left := (call.make svc w x).2.2

theorem made (svc : WriteService σ υ) (call : WriterCall β) (w : BlockWriter υ)
    (x : Exchange σ) :
    Made w x call (of svc call w x).events (of svc call w x).answer (of svc call w x).after := by
  obtain ⟨events, hjournal, hm⟩ := w.made svc call (x.watched (WriteEvent υ))
  have hplain := w.make_plain svc call (x.watched (WriteEvent υ))
  rw [Exchange.journal_watched, List.nil_append] at hjournal
  rw [Exchange.plain_watched] at hplain hm
  simp only [of, hplain, hjournal]
  exact hm

/-- A write that holds an open upload sends its batch over it, and counts it once it is taken. -/
def Sends (v : Visit β σ υ) : Prop :=
  ∀ codec batch e u, v.call = .write codec batch → codec.encode batch = .ok e →
    (v.before.stage = .opened u ∨ .opening v.before.request (.ok u) ∈ v.events) →
    ∃ answer u', .sending u e.bytes answer u' ∈ v.events ∧ v.answer = .wrote answer ∧
      (answer = .ok () → v.after.bytes = v.before.bytes + e.bytes.length.toUInt64 ∧
        v.after.records = v.before.records + e.records)

structure Lawful (v : Visit β σ υ) : Prop where
  /-- A write that does not get an idle writer's upload opened fails and leaves it as it was. -/
  kept : v.before.stage = .idle → ∀ codec batch, v.call = .write codec batch →
    (∀ e ∈ v.events, e.opens = false) → v.after = v.before ∧ ∃ f, v.answer = .wrote (.error f)
  /-- An idle writer asks for its upload whenever a batch is encoded and nothing bars the way. -/
  tries : v.before.stage = .idle → ∀ codec batch e, v.call = .write codec batch →
    codec.encode batch = .ok e → (v.found.passPoint FailPoints.beforeOpen).1 = .ok () →
    ∃ answer, .opening v.before.request answer ∈ v.events
  sends : v.Sends
  /-- An upload is consumed when its writer leaves the open stage. -/
  consumes : (∃ e ∈ v.events, e.consumes = true) ↔
    (v.before.stage.isOpen = true ∨ ∃ e ∈ v.events, e.opens = true) ∧
      v.after.stage.isOpen = false
  unsent : ∀ u bytes f u', .sending u bytes (.error f) u' ∈ v.events →
    v.answer = .wrote (.error f) ∧ v.after.stage = .aborted
  unfinished : ∀ u f, .finishing u (.error f) ∈ v.events →
    v.answer = .ended (.error f) ∧ v.after.stage = .aborted
  barred : ∀ u f, v.call = .commit → v.before.stage = .opened u →
    (v.found.passPoint FailPoints.beforeFinish).1 = .error f →
    v.answer = .ended (.error f) ∧ v.after.stage = .aborted ∧ v.events = [.aborting u]
  finishes : ∀ u, v.call = .commit → v.before.stage = .opened u →
    (v.found.passPoint FailPoints.beforeFinish).1 = .ok () →
    ∃ token, v.events = [.finishing u token]
  givesUp : ∀ u, v.call = .abort → v.before.stage = .opened u →
    v.events = [.aborting u] ∧ v.after.stage = .aborted
  /-- A commit gives a message when the upload was finished, and nothing on an idle writer. -/
  message : ∀ m, v.answer = .ended (.ok (some m)) ↔ m.block = v.before.request.block ∧
    m.attempt = v.before.request.attempt ∧ ∃ u, .finishing u (.ok m.token) ∈ v.events
  nothing : v.answer = .ended (.ok none) ↔ v.call = .commit ∧ v.before.stage = .idle

variable {w w' : BlockWriter υ} {x : Exchange σ} {events : List (WriteEvent υ)}

theorem lawful_of_written {codec : Codec β} {batch : β} {answer : Except Failure Unit}
    (hw : Written w x codec batch events answer w') (left : Exchange σ) :
    Lawful ⟨.write codec batch, x, w, .wrote answer, events, w', left⟩ where
  kept hstage codec' batch' hcall hopens := by
    obtain ⟨hsame, f, hf⟩ := hw.kept hstage hopens
    exact ⟨hsame, f, congrArg WriterAnswer.wrote hf⟩
  tries hstage codec' batch' e hcall hcode hpoint := by
    obtain ⟨rfl, rfl⟩ : codec = codec' ∧ batch = batch' := by simpa using hcall
    exact hw.tries hstage hcode hpoint
  sends codec' batch' e u hcall hcode hheld := by
    obtain ⟨rfl, rfl⟩ : codec = codec' ∧ batch = batch' := by simpa using hcall
    obtain ⟨u', hsent, hcounted⟩ := hw.sends hcode hheld
    exact ⟨answer, u', hsent, rfl, hcounted⟩
  consumes := hw.consumes_iff
  unsent u bytes f u' hsend := by
    obtain ⟨hanswer, hstage⟩ := hw.of_unsent hsend
    exact ⟨congrArg WriterAnswer.wrote hanswer, hstage⟩
  unfinished u f hfinish := absurd hfinish (hw.not_finishing u _)
  barred u f hcall := by simp at hcall
  finishes u hcall := by simp at hcall
  givesUp u hcall := by simp at hcall
  message m := by simp [hw.not_finishing]
  nothing := by simp

theorem lawful_of_ended {answer : Except Failure (Option CommitMessage)}
    (he : Ended w x events answer w') (left : Exchange σ) :
    Lawful (⟨.commit, x, w, .ended answer, events, w', left⟩ : Visit β σ υ) where
  kept hstage codec batch hcall := by simp at hcall
  tries hstage codec batch e hcall := by simp at hcall
  sends codec batch e u hcall := by simp at hcall
  consumes := he.consumes_iff
  unsent u bytes f u' hsend := absurd hsend (he.not_sending u u' bytes _)
  unfinished u f hfinish := by
    obtain ⟨hanswer, hstage⟩ := he.of_unfinished hfinish
    exact ⟨congrArg WriterAnswer.ended hanswer, hstage⟩
  barred u f _ hstage hpoint := by
    obtain ⟨hanswer, hafter⟩ := he.of_barred hstage hpoint
    exact ⟨congrArg WriterAnswer.ended hanswer, hafter⟩
  finishes u _ hstage hpoint := he.of_passed hstage hpoint
  givesUp u hcall := by simp at hcall
  message m := by simpa using he.some_iff m
  nothing := by simpa using he.none_iff

theorem lawful_of_givenUp (hg : GivenUp w events w') (left : Exchange σ) :
    Lawful (⟨.abort, x, w, .gaveUp, events, w', left⟩ : Visit β σ υ) where
  kept hstage codec batch hcall := by simp at hcall
  tries hstage codec batch e hcall := by simp at hcall
  sends codec batch e u hcall := by simp at hcall
  consumes := hg.consumes_iff
  unsent u bytes f u' hsend := by
    obtain ⟨v, hv⟩ := hg.only_aborting hsend
    simp at hv
  unfinished u f hfinish := by
    obtain ⟨v, hv⟩ := hg.only_aborting hfinish
    simp at hv
  barred u f hcall := by simp at hcall
  finishes u hcall := by simp at hcall
  givesUp u _ hstage := hg.of_opened hstage
  message m := by
    have hnone : ∀ u, .finishing u (.ok m.token) ∉ events := by
      intro u hfinish
      obtain ⟨v, hv⟩ := hg.only_aborting hfinish
      simp at hv
    simp [hnone]
  nothing := by simp

theorem lawful (svc : WriteService σ υ) (call : WriterCall β) (w : BlockWriter υ)
    (x : Exchange σ) : (of svc call w x).Lawful := by
  cases call with
  | write codec batch =>
    cases made svc (.write codec batch) w x with
    | write hw => exact lawful_of_written hw _
  | commit =>
    cases made svc (.commit : WriterCall β) w x with
    | commit he => exact lawful_of_ended he _
  | abort =>
    cases made svc (.abort : WriterCall β) w x with
    | abort hg => exact lawful_of_givenUp hg _

/-- A call on a closed writer changes nothing, asks for nothing, and fails unless it gives up. -/
structure Refused (v : Visit β σ υ) : Prop where
  unchanged : v.after = v.before
  untouched : v.left = v.found
  unasked : v.events = []
  writes : ∀ codec batch, v.call = .write codec batch →
    ∃ f, v.answer = .wrote (.error f) ∧ f.kind = .writerClosed
  commits : v.call = .commit → ∃ f, v.answer = .ended (.error f) ∧
    (v.before.stage = .committed → f.kind = .duplicateCommit) ∧
    (v.before.stage = .aborted → f.kind = .writerClosed)

theorem refused (svc : WriteService σ υ) (call : WriterCall β) {w : BlockWriter υ}
    (hstage : w.stage = .committed ∨ w.stage = .aborted) (x : Exchange σ) :
    (of svc call w x).Refused where
  unchanged := congrArg Prod.fst (make_closed svc call hstage x)
  untouched := congrArg Prod.snd (make_closed svc call hstage x)
  unasked := by
    have hleft := make_closed svc.journaled call hstage (x.watched (WriteEvent υ))
    simp only [of, hleft, Exchange.journal_watched]
  writes codec batch hcall := by
    obtain rfl : call = .write codec batch := hcall
    refine ⟨w.closed, ?_, rfl⟩
    rcases hstage with hstage | hstage <;> simp [of, WriterCall.make, hstage]
  commits hcall := by
    obtain rfl : call = .commit := hcall
    rcases hstage with hstage | hstage
    · have hcommit : ∃ f, (w.commit svc x).1 = .error f ∧ f.kind = .duplicateCommit := by
        simp only [commit, hstage]
        exact ⟨_, rfl, rfl⟩
      obtain ⟨f, hf, hkind⟩ := hcommit
      exact ⟨f, congrArg WriterAnswer.ended hf, fun _ => hkind, by simp [of, hstage]⟩
    · have hcommit : ∃ f, (w.commit svc x).1 = .error f ∧ f.kind = .writerClosed := by
        simp only [commit, hstage]
        exact ⟨_, rfl, rfl⟩
      obtain ⟨f, hf, hkind⟩ := hcommit
      exact ⟨f, congrArg WriterAnswer.ended hf, by simp [of, hstage], fun _ => hkind⟩

end Visit

structure Attempt (β σ υ : Type) where
  visits : List (Visit β σ υ)
  writer : BlockWriter υ

namespace Attempt

def start (request : BlockRequest) : Attempt β σ υ :=
  ⟨[], .start request⟩

/-- Makes a call on the writer. Every call finds its own surroundings, since others may have used
the service since the last call. -/
def take (svc : WriteService σ υ) (a : Attempt β σ υ) (c : WriterCall β × Exchange σ) :
    Attempt β σ υ :=
  let v := Visit.of svc c.1 a.writer c.2
  ⟨a.visits ++ [v], v.after⟩

def run (svc : WriteService σ υ) (a : Attempt β σ υ) (calls : List (WriterCall β × Exchange σ)) :
    Attempt β σ υ :=
  calls.foldl (take svc) a

def events (a : Attempt β σ υ) : List (WriteEvent υ) :=
  a.visits.flatMap (·.events)

def Reached (visits : List (Visit β σ υ)) (stage : WriterStage υ) : Prop :=
  ∃ v ∈ visits, v.after.stage = stage

/-- What an attempt keeps to, whatever is called and whatever fails. -/
structure Lawful (request : BlockRequest) (a : Attempt β σ υ) : Prop where
  /-- The upload is opened once, then receives sends only, and is consumed once. -/
  trail : ∃ state, Trail request a.events state ∧ a.writer.stage.Fits state
  openedOnce : a.events.countP WriteEvent.opens ≤ 1
  balanced : a.events.countP WriteEvent.consumes + (if a.writer.stage.isOpen then 1 else 0) =
    a.events.countP WriteEvent.opens
  finishedOnce : a.events.countP WriteEvent.finishes ≤ 1
  each : ∀ v ∈ a.visits, v.Lawful
  /-- After its end a writer stays as it is and refuses every call. -/
  closed : AtEach (fun before v => ∀ stage, stage = .committed ∨ stage = .aborted →
    Reached before stage → v.before.stage = stage ∧ v.Refused) a.visits

structure Tracked (request : BlockRequest) (a : Attempt β σ υ) : Prop where
  kept : a.writer.request = request
  trail : ∃ state, Trail request a.events state ∧ a.writer.stage.Fits state
  each : ∀ v ∈ a.visits, v.Lawful
  stays : ∀ stage, stage = .committed ∨ stage = .aborted → Reached a.visits stage →
    a.writer.stage = stage
  closed : AtEach (fun before v => ∀ stage, stage = .committed ∨ stage = .aborted →
    Reached before stage → v.before.stage = stage ∧ v.Refused) a.visits

theorem tracked_start (request : BlockRequest) :
    (start request : Attempt β σ υ).Tracked request where
  kept := rfl
  trail := ⟨.unopened, .start, trivial⟩
  each := by simp [start]
  stays := by simp [start, Reached]
  closed := atEach_nil _

theorem Tracked.take {request : BlockRequest} {a : Attempt β σ υ} (h : a.Tracked request)
    (svc : WriteService σ υ) (c : WriterCall β × Exchange σ) : (a.take svc c).Tracked request := by
  obtain ⟨call, x⟩ := c
  obtain ⟨state, htrail, hfits⟩ := h.trail
  have hm := Visit.made svc call a.writer x
  have hrefused : ∀ stage, stage = .committed ∨ stage = .aborted → Reached a.visits stage →
      a.writer.stage = stage ∧ (Visit.of svc call a.writer x).Refused := by
    intro stage hend hreached
    have hstage := h.stays stage hend hreached
    exact ⟨hstage, Visit.refused svc call (hstage ▸ hend) x⟩
  refine ⟨hm.request.trans h.kept, ?_, ?_, ?_, ?_⟩
  · have hevents : (a.take svc (call, x)).events =
        a.events ++ (Visit.of svc call a.writer x).events := by simp [events, Attempt.take]
    rw [← h.kept] at htrail ⊢
    rw [hevents]
    exact hm.trail htrail hfits
  · intro v hv
    rcases List.mem_append.mp hv with hv | hv
    · exact h.each v hv
    · rw [List.mem_singleton.mp hv]
      exact Visit.lawful svc call a.writer x
  · rintro stage hend ⟨v, hv, hstage⟩
    rcases List.mem_append.mp hv with hv | hv
    · obtain ⟨hwriter, hsame⟩ := hrefused stage hend ⟨v, hv, hstage⟩
      exact (congrArg BlockWriter.stage hsame.unchanged).trans hwriter
    · rwa [List.mem_singleton.mp hv] at hstage
  · exact atEach_concat.mpr ⟨h.closed, hrefused⟩

theorem Tracked.run {request : BlockRequest} {a : Attempt β σ υ} (h : a.Tracked request)
    (svc : WriteService σ υ) (calls : List (WriterCall β × Exchange σ)) :
    (a.run svc calls).Tracked request := by
  induction calls generalizing a with
  | nil => exact h
  | cons c rest ih => exact ih (h.take svc c)

theorem Tracked.lawful {request : BlockRequest} {a : Attempt β σ υ} (h : a.Tracked request) :
    a.Lawful request := by
  obtain ⟨state, htrail, hfits⟩ := h.trail
  have hopens := congrArg Prod.fst htrail.counts
  have hconsumes := congrArg Prod.snd htrail.counts
  have htally := hfits.tally
  have hle : (Trail.tally state).1 ≤ 1 ∧ (Trail.tally state).2 ≤ 1 := by
    cases state <;> simp [Trail.tally]
  refine ⟨h.trail, ?_, ?_, ?_, h.each, h.closed⟩
  · exact Nat.le_trans (Nat.le_of_eq hopens) hle.1
  · rw [← htally] at hopens
    simp only at hopens hconsumes
    rw [hopens, hconsumes]
  · have hfinishes : a.events.countP WriteEvent.finishes ≤ a.events.countP WriteEvent.consumes := by
      exact List.countP_mono_left fun e _ he => WriteEvent.consumes_of_finishes he
    exact Nat.le_trans hfinishes (Nat.le_trans (Nat.le_of_eq hconsumes) hle.2)

end Attempt

/-- Whatever is called on a writer, and whatever fails, its attempt is lawful. -/
theorem attempt_lawful (svc : WriteService σ υ) (request : BlockRequest)
    (calls : List (WriterCall β × Exchange σ)) :
    ((Attempt.start request).run svc calls).Lawful request :=
  ((Attempt.tracked_start request).run svc calls).lawful

end TableExchange
