import TableExchange.Proofs.Write.UploadTrail
import TableExchange.Session.WriteSession

/-!
The requests of a call account for all that it does to the service: they lead the service from the
state in which the call found it to the state in which it left it.
-/
namespace TableExchange

variable {σ υ β : Type}

/-- A request leads a service from one state to another, with the answer that the service gives. -/
def WriteEvent.Leads (svc : WriteService σ υ) (s : σ) : WriteEvent υ → σ → Prop
  | .opening r answer, s' => svc.openBlock r s = (answer, s')
  | .sending u bytes answer u', s' => svc.sendChunk u bytes s = (answer, u', s')
  | .finishing u answer, s' => svc.finishBlock u s = (answer, s')
  | .aborting u, s' => svc.abortBlock u s = s'
  | .committing session messages answer, s' => svc.commitSession session messages s = (answer, s')

/-- Requests lead a service from one state to another, one after the other. -/
inductive Led (svc : WriteService σ υ) (s : σ) : List (WriteEvent υ) → σ → Prop
  | start : Led svc s [] s
  | next {events : List (WriteEvent υ)} {s₁ s₂ : σ} {e : WriteEvent υ}
      (h : Led svc s events s₁) (he : e.Leads svc s₁ s₂) : Led svc s (events ++ [e]) s₂

@[simp] theorem led_nil_iff {svc : WriteService σ υ} {s s' : σ} : Led svc s [] s' ↔ s' = s := by
  constructor
  · intro h
    generalize hnil : ([] : List (WriteEvent υ)) = events at h
    cases h with
    | start => rfl
    | next h he => simp at hnil
  · rintro rfl
    exact .start

theorem led_append_iff {svc : WriteService σ υ} {s s' : σ} {first second : List (WriteEvent υ)} :
    Led svc s (first ++ second) s' ↔ ∃ s₁, Led svc s first s₁ ∧ Led svc s₁ second s' := by
  constructor
  · intro h
    generalize hall : first ++ second = events at h
    induction h generalizing second with
    | start =>
      obtain ⟨rfl, rfl⟩ := List.append_eq_nil_iff.mp hall
      exact ⟨s, .start, .start⟩
    | @next events s₁ s₂ e h he ih =>
      rcases List.eq_nil_or_concat second with rfl | ⟨init, last, rfl⟩
      · rw [List.append_nil] at hall
        exact ⟨s₂, hall ▸ .next h he, .start⟩
      · rw [List.concat_eq_append, ← List.append_assoc] at hall
        obtain ⟨hinit, hlast⟩ := List.append_inj' hall rfl
        obtain rfl : last = e := by simpa using hlast
        obtain ⟨s₀, hfirst, hsecond⟩ := ih hinit
        rw [List.concat_eq_append]
        exact ⟨s₀, hfirst, .next hsecond he⟩
  · rintro ⟨s₁, hfirst, hsecond⟩
    induction hsecond with
    | start => simpa using hfirst
    | next h he ih =>
      rw [← List.append_assoc]
      exact .next ih he

/-- The first request leads the service to where the others find it. -/
@[simp] theorem led_cons_iff {svc : WriteService σ υ} {s s' : σ} {e : WriteEvent υ}
    {events : List (WriteEvent υ)} :
    Led svc s (e :: events) s' ↔ ∃ s₁, e.Leads svc s s₁ ∧ Led svc s₁ events s' := by
  have hone : ∀ s₁, Led svc s [e] s₁ ↔ e.Leads svc s s₁ := by
    intro s₁
    constructor
    · intro h
      generalize hsingle : [e] = single at h
      cases h with
      | start => simp at hsingle
      | @next before s₀ _ d h he =>
        obtain ⟨rfl, hlast⟩ := List.append_inj' (show [] ++ [e] = before ++ [d] from hsingle) rfl
        obtain rfl : e = d := by simpa using hlast
        rwa [led_nil_iff.mp h] at he
    · intro h
      exact .next .start h
  rw [show e :: events = [e] ++ events from rfl, led_append_iff]
  simp only [hone]

def Exchange.Accounted (svc : WriteService σ υ) (s : σ) (y : Exchange (σ × List (WriteEvent υ))) :
    Prop :=
  Led svc s y.journal y.plain.service

namespace BlockWriter

variable {svc : WriteService σ υ} {s : σ} {y : Exchange (σ × List (WriteEvent υ))}

theorem accounted_giveUp (h : y.Accounted svc s) (w : BlockWriter υ) (u : υ) :
    (w.giveUp svc.journaled u y).2.Accounted svc s :=
  .next h rfl

theorem accounted_send (h : y.Accounted svc s) (w : BlockWriter υ) (u : υ) (e : EncodedBatch) :
    (w.send svc.journaled u e y).2.2.Accounted svc s := by
  rcases hsend : svc.sendChunk u e.bytes y.service.1 with ⟨answer, u', s'⟩
  have hled : Led svc s (y.journal ++ [.sending u e.bytes answer u']) s' := .next h hsend
  cases answer with
  | error f =>
    simp only [send, WriteService.journaled, hsend]
    exact .next hled rfl
  | ok done =>
    simp only [send, WriteService.journaled, hsend]
    exact hled

theorem accounted_upload (h : y.Accounted svc s) (w : BlockWriter υ) :
    (w.upload svc.journaled y).2.Accounted svc s := by
  unfold upload
  split
  · exact h
  · rcases hpass : y.passPoint FailPoints.beforeOpen with ⟨verdict, y₁⟩
    have h₁ : y₁.Accounted svc s := by
      obtain rfl : (y.passPoint FailPoints.beforeOpen).2 = y₁ := by rw [hpass]
      exact h
    cases verdict with
    | error f => exact h₁
    | ok passed => exact .next h₁ rfl

theorem accounted_write (h : y.Accounted svc s) (codec : Codec β) (batch : β)
    (w : BlockWriter υ) : (w.write svc.journaled codec batch y).2.2.Accounted svc s := by
  unfold write
  split
  · exact h
  · exact h
  all_goals
    cases codec.encode batch with
    | error f => exact h
    | ok e =>
      have hup := accounted_upload h w
      rcases hupload : w.upload svc.journaled y with ⟨answer, y₁⟩
      rw [hupload] at hup
      cases answer with
      | error f => exact hup
      | ok u => exact accounted_send hup w u e

theorem accounted_commit (h : y.Accounted svc s) (w : BlockWriter υ) :
    (w.commit svc.journaled y).2.2.Accounted svc s := by
  unfold commit
  split
  · exact h
  · exact h
  · exact h
  · next u _ =>
    unfold finish
    rcases hpass : y.passPoint FailPoints.beforeFinish with ⟨verdict, y₁⟩
    have h₁ : y₁.Accounted svc s := by
      obtain rfl : (y.passPoint FailPoints.beforeFinish).2 = y₁ := by rw [hpass]
      exact h
    cases verdict with
    | error f => exact accounted_giveUp h₁ w u
    | ok passed =>
      rcases hask : y₁.ask (svc.journaled.finishBlock u) with ⟨answer, y₂⟩
      have h₂ : y₂.Accounted svc s := by
        obtain rfl : (y₁.ask (svc.journaled.finishBlock u)).2 = y₂ := by rw [hask]
        exact .next h₁ rfl
      simp only [hask]
      cases answer with
      | error f => exact h₂
      | ok token => exact h₂

theorem accounted_abort (h : y.Accounted svc s) (w : BlockWriter υ) :
    (w.abort svc.journaled y).2.Accounted svc s := by
  unfold abort
  split
  · exact h
  · exact accounted_giveUp h w _
  · exact h
  · exact h

theorem accounted_make (h : y.Accounted svc s) (call : WriterCall β) (w : BlockWriter υ) :
    (call.make svc.journaled w y).2.2.Accounted svc s := by
  cases call with
  | write codec batch => exact accounted_write h codec batch w
  | commit => exact accounted_commit h w
  | abort => exact accounted_abort h w

/-- A call leads the service from the state in which it is found to the one in which it is left. -/
theorem make_led (svc : WriteService σ υ) (call : WriterCall β) (w : BlockWriter υ)
    (x : Exchange σ) :
    Led svc x.service (call.make svc.journaled w (x.watched (WriteEvent υ))).2.2.journal
      (call.make svc w x).2.2.service := by
  have hstart : (x.watched (WriteEvent υ)).Accounted svc x.service := .start
  have hled := accounted_make hstart call w
  have hplain := w.make_plain svc call (x.watched (WriteEvent υ))
  rw [Exchange.plain_watched] at hplain
  rw [hplain]
  exact hled

end BlockWriter

theorem Exchange.passPoint_error {x : Exchange σ} {name : String} {f : Failure}
    (h : (x.passPoint name).1 = .error f) : f.kind = .injected := by
  simp only [passPoint, FailPoints.pass] at h
  split at h
  · obtain rfl := Except.error.inj h
    rfl
  · simp at h

/-- What a commit of a session can do: the ledger does not resolve, a fail point bars the way, or
the service is asked once. -/
inductive WriteSession.Committed (svc : WriteService σ υ) (t : WriteSession) (l : Ledger) (s : σ) :
    List (WriteEvent υ) → Except Failure TableSession → WriteSession → σ → Prop
  | unresolved {f : Failure} (hresolve : l.resolve = .error f) :
      Committed svc t l s [] (.error f) t s
  | barred {messages : List CommitMessage} {f : Failure} (hresolve : l.resolve = .ok messages)
      (hkind : f.kind = .injected) : Committed svc t l s [] (.error f) t s
  | refused {messages : List CommitMessage} {f : Failure} {s' : σ}
      (hresolve : l.resolve = .ok messages)
      (hask : svc.commitSession t.snapshot messages s = (.error f, s')) :
      Committed svc t l s [.committing t.snapshot messages (.error f)] (.error f) t s'
  | accepted {messages : List CommitMessage} {snapshot : TableSession} {s' : σ}
      (hresolve : l.resolve = .ok messages)
      (hask : svc.commitSession t.snapshot messages s = (.ok snapshot, s')) :
      Committed svc t l s [.committing t.snapshot messages (.ok snapshot)] (.ok snapshot)
        { t with snapshot } s'

theorem WriteSession.committed (svc : WriteService σ υ) (t : WriteSession) (l : Ledger)
    (x : Exchange σ) :
    Committed svc t l x.service
      (t.commit svc.journaled l (x.watched (WriteEvent υ))).2.2.journal (t.commit svc l x).1
      (t.commit svc l x).2.1 (t.commit svc l x).2.2.service := by
  cases hresolve : l.resolve with
  | error f =>
    simp only [commit, Ledger.finalize, hresolve]
    exact .unresolved hresolve
  | ok messages =>
    rcases hpass : x.passPoint FailPoints.beforeFinalize with ⟨verdict, x₁⟩
    have hservice : x₁.service = x.service := by
      obtain rfl : (x.passPoint FailPoints.beforeFinalize).2 = x₁ := by rw [hpass]
      rfl
    have hwatched : (x.watched (WriteEvent υ)).passPoint FailPoints.beforeFinalize =
        (verdict, x₁.watched (WriteEvent υ)) := by
      rw [Exchange.passPoint_watched, hpass]
    simp only [commit, Ledger.finalize, hresolve, hpass, hwatched]
    cases verdict with
    | error f =>
      rw [hservice]
      exact .barred hresolve (Exchange.passPoint_error (congrArg Prod.fst hpass))
    | ok passed =>
      rcases hask : svc.commitSession t.snapshot messages x.service with ⟨answer, s'⟩
      have hplain : x₁.ask (svc.commitSession t.snapshot messages) =
          (answer, x₁.withService s') := by
        simp only [Exchange.ask, hservice, hask]
        rfl
      have hnoted : (x₁.watched (WriteEvent υ)).ask
          (svc.journaled.commitSession t.snapshot messages) =
          (answer, x₁.withService (s', [.committing t.snapshot messages answer])) := by
        simp only [Exchange.ask, WriteService.journaled, noted, Exchange.watched,
          Exchange.withService, hservice, hask]
        rfl
      simp only [hplain, hnoted]
      cases answer with
      | error f => exact .refused hresolve hask
      | ok snapshot => exact .accepted hresolve hask

theorem WriteSession.Committed.led {svc : WriteService σ υ} {t t' : WriteSession} {l : Ledger}
    {s s' : σ} {events : List (WriteEvent υ)} {answer : Except Failure TableSession}
    (h : Committed svc t l s events answer t' s') : Led svc s events s' := by
  cases h with
  | unresolved _ => exact .start
  | barred _ _ => exact .start
  | refused _ hask => exact .next .start hask
  | accepted _ hask => exact .next .start hask

end TableExchange
