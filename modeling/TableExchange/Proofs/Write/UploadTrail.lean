import TableExchange.Proofs.Write.WriterSteps

/-!
The trail of an upload: refused openings, one that succeeds, sends, and one request that consumes
it. Every call takes the upload of its writer on along its trail.
-/
namespace TableExchange

variable {σ υ β : Type}

namespace WriteEvent

def opens : WriteEvent υ → Bool
  | opening _ (.ok _) => true
  | _ => false

def consumes : WriteEvent υ → Bool
  | finishing _ _ | aborting _ => true
  | _ => false

def finishes : WriteEvent υ → Bool
  | finishing _ (.ok _) => true
  | _ => false

theorem consumes_of_finishes {e : WriteEvent υ} (h : e.finishes = true) : e.consumes = true := by
  cases e with
  | finishing upload answer => rfl
  | _ => simp [finishes] at h

end WriteEvent

inductive UploadState (υ : Type)
  | unopened
  | held (upload : υ)
  | consumed

/-- The requests of one attempt, and what they make of its upload: it is opened once, then receives
sends only, and is consumed once. -/
inductive Trail (request : BlockRequest) : List (WriteEvent υ) → UploadState υ → Prop
  | start : Trail request [] .unopened
  | refused {events : List (WriteEvent υ)} (f : Failure) (h : Trail request events .unopened) :
      Trail request (events ++ [.opening request (.error f)]) .unopened
  | opened {events : List (WriteEvent υ)} (u : υ) (h : Trail request events .unopened) :
      Trail request (events ++ [.opening request (.ok u)]) (.held u)
  | sent {events : List (WriteEvent υ)} {u : υ} (bytes : List UInt8) (answer : Except Failure Unit)
      (u' : υ) (h : Trail request events (.held u)) :
      Trail request (events ++ [.sending u bytes answer u']) (.held u')
  | finished {events : List (WriteEvent υ)} {u : υ} (answer : Except Failure String)
      (h : Trail request events (.held u)) :
      Trail request (events ++ [.finishing u answer]) .consumed
  | aborted {events : List (WriteEvent υ)} {u : υ} (h : Trail request events (.held u)) :
      Trail request (events ++ [.aborting u]) .consumed

namespace Trail

/-- How often an upload was opened and consumed. -/
def tally : UploadState υ → Nat × Nat
  | .unopened => (0, 0)
  | .held _ => (1, 0)
  | .consumed => (1, 1)

theorem counts {request : BlockRequest} {events : List (WriteEvent υ)} {state : UploadState υ}
    (h : Trail request events state) :
    (events.countP WriteEvent.opens, events.countP WriteEvent.consumes) = tally state := by
  induction h with
  | start => rfl
  | refused f h ih => simpa [tally, WriteEvent.opens, WriteEvent.consumes] using ih
  | opened u h ih => simpa [tally, WriteEvent.opens, WriteEvent.consumes] using ih
  | sent bytes answer u' h ih => simpa [tally, WriteEvent.opens, WriteEvent.consumes] using ih
  | finished answer h ih => simpa [tally, WriteEvent.opens, WriteEvent.consumes] using ih
  | aborted h ih => simpa [tally, WriteEvent.opens, WriteEvent.consumes] using ih

/-- An upload is consumed in one way only. -/
theorem consumed_once {request : BlockRequest} {events : List (WriteEvent υ)}
    {state : UploadState υ} (h : Trail request events state) {a b : WriteEvent υ} (ha : a ∈ events)
    (hb : b ∈ events) (hac : a.consumes = true) (hbc : b.consumes = true) : a = b := by
  have hcount := congrArg Prod.snd h.counts
  have hle : (events.filter WriteEvent.consumes).length ≤ 1 := by
    rw [← List.countP_eq_length_filter]
    cases state <;> simp_all [tally]
  have ha' := List.mem_filter.mpr ⟨ha, hac⟩
  have hb' := List.mem_filter.mpr ⟨hb, hbc⟩
  rcases hfilter : events.filter WriteEvent.consumes with _ | ⟨c, _ | ⟨d, rest⟩⟩
  · simp [hfilter] at ha'
  · rw [hfilter, List.mem_singleton] at ha' hb'
    rw [ha', hb']
  · simp [hfilter] at hle

end Trail

def WriterStage.Fits : WriterStage υ → UploadState υ → Prop
  | .idle, .unopened => True
  | .opened u, .held v => u = v
  | .committed, .unopened | .committed, .consumed | .aborted, .unopened | .aborted, .consumed =>
    True
  | _, _ => False

namespace WriterStage

theorem Fits.unopened {state : UploadState υ} (h : (idle : WriterStage υ).Fits state) :
    state = .unopened := by
  cases state with
  | unopened => rfl
  | held v => exact h.elim
  | consumed => exact h.elim

theorem Fits.held {u : υ} {state : UploadState υ} (h : (opened u).Fits state) :
    state = .held u := by
  cases state with
  | unopened => exact h.elim
  | held v => exact congrArg UploadState.held (show u = v from h).symm
  | consumed => exact h.elim

def isOpen : WriterStage υ → Bool
  | opened _ => true
  | _ => false

theorem Fits.tally {stage : WriterStage υ} {state : UploadState υ} (h : stage.Fits state) :
    (Trail.tally state).2 + (if stage.isOpen then 1 else 0) = (Trail.tally state).1 := by
  cases stage <;> cases state <;> simp_all [Fits, Trail.tally, isOpen]

end WriterStage

/-- A call on a writer. A codec may change from call to call. -/
inductive WriterCall (β : Type)
  | write (codec : Codec β) (batch : β)
  | commit
  | abort

inductive WriterAnswer
  | wrote (answer : Except Failure Unit)
  | ended (answer : Except Failure (Option CommitMessage))
  | gaveUp

def WriterCall.make (svc : WriteService σ υ) :
    WriterCall β → BlockWriter υ → Exchange σ → WriterAnswer × BlockWriter υ × Exchange σ
  | .write codec batch, w, x => let r := w.write svc codec batch x; (.wrote r.1, r.2)
  | .commit, w, x => let r := w.commit svc x; (.ended r.1, r.2)
  | .abort, w, x => (.gaveUp, w.abort svc x)

namespace BlockWriter

inductive Made (w : BlockWriter υ) (x : Exchange σ) :
    WriterCall β → List (WriteEvent υ) → WriterAnswer → BlockWriter υ → Prop
  | write {codec : Codec β} {batch : β} {events : List (WriteEvent υ)}
      {answer : Except Failure Unit} {w' : BlockWriter υ}
      (h : Written w x codec batch events answer w') :
      Made w x (.write codec batch) events (.wrote answer) w'
  | commit {events : List (WriteEvent υ)} {answer : Except Failure (Option CommitMessage)}
      {w' : BlockWriter υ} (h : Ended w x events answer w') :
      Made w x .commit events (.ended answer) w'
  | abort {events : List (WriteEvent υ)} {w' : BlockWriter υ} (h : GivenUp w events w') :
      Made w x .abort events .gaveUp w'

theorem made (svc : WriteService σ υ) (call : WriterCall β) (w : BlockWriter υ)
    (y : Exchange (σ × List (WriteEvent υ))) :
    ∃ events, (call.make svc.journaled w y).2.2.journal = y.journal ++ events ∧
      Made w y.plain call events (call.make svc.journaled w y).1
        (call.make svc.journaled w y).2.1 := by
  cases call with
  | write codec batch =>
    obtain ⟨events, hjournal, h⟩ := written svc codec batch w y
    exact ⟨events, hjournal, .write h⟩
  | commit =>
    obtain ⟨events, hjournal, h⟩ := ended svc w y
    exact ⟨events, hjournal, .commit h⟩
  | abort =>
    obtain ⟨events, hjournal, h⟩ := givenUp svc w y
    exact ⟨events, hjournal, .abort h⟩

theorem make_plain (svc : WriteService σ υ) (call : WriterCall β) (w : BlockWriter υ)
    (y : Exchange (σ × List (WriteEvent υ))) : call.make svc w y.plain =
      ((call.make svc.journaled w y).1, (call.make svc.journaled w y).2.1,
        (call.make svc.journaled w y).2.2.plain) := by
  cases call with
  | write codec batch => simp only [WriterCall.make, write_plain]
  | commit => simp only [WriterCall.make, commit_plain]
  | abort => simp only [WriterCall.make, abort_plain]

variable {w w' : BlockWriter υ} {x : Exchange σ} {events new : List (WriteEvent υ)}
  {state : UploadState υ}

theorem Uploading.trail {opening : List (WriteEvent υ)} {u : υ} (hup : w.Uploading x opening u)
    (h : Trail w.request events state) (hfits : w.stage.Fits state) :
    Trail w.request (events ++ opening) (.held u) := by
  cases hup with
  | held hstage =>
    rw [hstage] at hfits
    obtain rfl := hfits.held
    simpa using h
  | opened hstage hpoint =>
    rw [hstage] at hfits
    obtain rfl := hfits.unopened
    exact .opened u h

theorem Made.request {call : WriterCall β} {answer : WriterAnswer}
    (hm : w.Made x call new answer w') : w'.request = w.request := by
  cases hm with
  | write hw => cases hw <;> rfl
  | commit he => cases he <;> rfl
  | abort hg => cases hg <;> rfl

/-- A call takes the upload on along its trail. -/
theorem Made.trail {call : WriterCall β} {answer : WriterAnswer}
    (hm : w.Made x call new answer w') (h : Trail w.request events state)
    (hfits : w.stage.Fits state) :
    ∃ state', Trail w.request (events ++ new) state' ∧ w'.stage.Fits state' := by
  have hsame : w'.stage.Fits state → new = [] →
      ∃ state', Trail w.request (events ++ new) state' ∧ w'.stage.Fits state' := by
    rintro hfits' rfl
    exact ⟨state, by simpa using h, hfits'⟩
  have hheld : ∀ {u}, w.stage = .opened u → Trail w.request events (.held u) := by
    intro u hstage
    simpa using (Uploading.held (x := x) hstage).trail h hfits
  cases hm with
  | write hw =>
    cases hw with
    | closed hstage => exact hsame hfits rfl
    | unencoded hstage hcode => exact hsame hfits rfl
    | barred hstage hcode hpoint => exact hsame hfits rfl
    | unopened hstage hcode hpoint =>
      rw [hstage] at hfits ⊢
      obtain rfl := hfits.unopened
      exact ⟨_, .refused _ h, trivial⟩
    | sent hcode hup =>
      rw [← List.append_assoc]
      exact ⟨_, .sent _ _ _ (hup.trail h hfits), rfl⟩
    | unsent hcode hup =>
      -- The upload that is given up is the one that the failed send has left.
      rw [List.append_cons, ← List.append_assoc, ← List.append_assoc]
      exact ⟨_, .aborted (.sent _ _ _ (hup.trail h hfits)), trivial⟩
  | commit he =>
    cases he with
    | empty hstage =>
      rw [hstage] at hfits
      obtain rfl := hfits.unopened
      exact hsame trivial rfl
    | again hstage hkind => exact hsame hfits rfl
    | closed hstage hkind => exact hsame hfits rfl
    | barred hstage hpoint => exact ⟨_, .aborted (hheld hstage), trivial⟩
    | finished hstage hpoint => exact ⟨_, .finished _ (hheld hstage), trivial⟩
    | unfinished hstage hpoint => exact ⟨_, .finished _ (hheld hstage), trivial⟩
  | abort hg =>
    cases hg with
    | committed hstage => exact hsame hfits rfl
    | opened hstage => exact ⟨_, .aborted (hheld hstage), trivial⟩
    | idle hstage =>
      rw [hstage] at hfits
      obtain rfl := hfits.unopened
      exact hsame trivial rfl
    | aborted hstage => exact hsame hfits rfl

end BlockWriter

end TableExchange
