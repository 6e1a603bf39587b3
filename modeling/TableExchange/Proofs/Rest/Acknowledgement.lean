import TableExchange.Proofs.Json.Fields
import TableExchange.Proofs.Write.WriterSteps
import TableExchange.Rest.Service

/-!
What acknowledges a block over HTTP. A commit waits for the response to the upload and takes a token
from it. A message comes of a response with success whose body is a record: with the token of the
record if there is one, and with the empty text if the record leaves the token out. Every other
response, and a request without one, is a failure that aborts the writer.
-/
namespace TableExchange.Rest

open Http (Network Response)

variable {σ υ : Type}

/-- What stands for the token in a record: the values of the members of that name, or all items of
an array. -/
def tokenValues : Json → Option (List Json)
  | .object members => some (Json.valuesOf "CommitMessage" members)
  | .array items => some items
  | _ => none

/-- A record holds a token and nothing else in its place. -/
def HoldsToken (j : Json) (token : String) : Prop :=
  tokenValues j = some [.string token]

/-- A record leaves the token out, or has null in its place. -/
def OmitsToken (j : Json) : Prop :=
  tokenValues j = some [] ∨ tokenValues j = some [.null]

theorem tokenOf?_eq (j : Json) : tokenOf? j = match tokenValues j with
    | some [] => some ""
    | some [t] => (Json.nullOr Json.text? t).map fun token => token.getD ""
    | _ => none := by
  cases j with
  | object members =>
    rw [tokenOf?, Json.slots_object, tokenValues]
    rcases Json.valuesOf "CommitMessage" members with _ | ⟨t, _ | ⟨t', rest⟩⟩
    · rfl
    · exact Option.map_eq_bind.symm
    · rfl
  | array items =>
    rcases items with _ | ⟨t, _ | ⟨t', rest⟩⟩
    · rfl
    · exact Option.map_eq_bind.symm
    · simp [tokenOf?, Json.slots, tokenValues]
  | _ => rfl

theorem tokenOf?_eq_some_iff (j : Json) (token : String) :
    tokenOf? j = some token ↔ HoldsToken j token ∨ OmitsToken j ∧ token = "" := by
  rw [tokenOf?_eq, HoldsToken, OmitsToken]
  rcases tokenValues j with _ | _ | ⟨t, _ | ⟨t', rest⟩⟩
  · simp
  · simp [eq_comm]
  · cases t <;> simp [Json.nullOr, Json.text?, eq_comm]
  · simp

def Carries (r : Response) (j : Json) : Prop :=
  Http.isSuccess r.status = true ∧ ∃ text, r.body = some text ∧ Json.parse? text = some j

namespace Upload

theorem outcome_eq_ok_iff (u : Upload υ) (answer : Except Http.Obstacle Response) (r : Response) :
    u.outcome answer = .ok r ↔ answer = .ok r ∧ Http.isSuccess r.status = true := by
  cases answer with
  | error o => cases hurl : u.url <;> simp [outcome, hurl]
  | ok received =>
    have houtcome : u.outcome (.ok received) = checked received := by
      simp [outcome]
    rw [houtcome, checked]
    split
    · next hsuccess =>
      constructor
      · rintro ⟨⟩
        exact ⟨rfl, hsuccess⟩
      · rintro ⟨⟨⟩, -⟩
        rfl
    · next hfault =>
      constructor
      · rintro ⟨⟩
      · rintro ⟨⟨⟩, hsuccess⟩
        exact absurd hsuccess hfault

theorem tokenIn_eq_ok_iff (u : Upload υ) (r : Response) (token : String) :
    u.tokenIn r = .ok token ↔
      ∃ text, r.body = some text ∧ ∃ j, Json.parse? text = some j ∧ tokenOf? j = some token := by
  cases hbody : r.body with
  | none => cases hurl : u.url <;> simp [tokenIn, hbody, hurl]
  | some text =>
    simp only [tokenIn, hbody, Option.some.injEq, exists_eq_left', ← Option.bind_eq_some_iff]
    cases (Json.parse? text).bind tokenOf? <;> simp

theorem takeResponse_eq_ok_iff (net : Network σ υ) (u : Upload υ) (s : σ) (r : Response) :
    (u.takeResponse net s).1 = .ok r ↔ ∃ running, u.pending = some (.ok running) ∧
      (net.collect running s).1 = .ok r ∧ Http.isSuccess r.status = true := by
  cases hpending : u.pending with
  | none => simp [takeResponse, hpending]
  | some request =>
    cases request with
    | error f => simp [takeResponse, hpending]
    | ok running => simp [takeResponse, hpending, outcome_eq_ok_iff]

theorem bind_eq_ok_iff {α β : Type} (a : Except Failure α) (f : α → Except Failure β) (b : β) :
    (a >>= f) = .ok b ↔ ∃ x, a = .ok x ∧ f x = .ok b := by
  cases a <;> simp [bind, Except.bind]

/-- An upload whose request was made brings the token in the value of its response. -/
theorem finish_eq_ok_iff (net : Network σ υ) (u : Upload υ) (s : σ) (token : String) :
    (u.finish net s).1 = .ok token ↔ ∃ running r j, u.pending = some (.ok running) ∧
      (net.collect running s).1 = .ok r ∧ Carries r j ∧ tokenOf? j = some token := by
  have hfinish : (u.finish net s).1 =
      ((u.takeResponse net s).1 >>= (u.takeResponse net s).2.1.tokenIn) := rfl
  rw [hfinish, bind_eq_ok_iff]
  simp only [takeResponse_eq_ok_iff, tokenIn_eq_ok_iff]
  constructor
  · rintro ⟨r, ⟨running, hpending, hanswer, hsuccess⟩, text, hbody, j, hparse, htoken⟩
    exact ⟨running, r, j, hpending, hanswer, ⟨hsuccess, text, hbody, hparse⟩, htoken⟩
  · rintro ⟨running, r, j, hpending, hanswer, ⟨hsuccess, text, hbody, hparse⟩, htoken⟩
    exact ⟨r, ⟨running, hpending, hanswer, hsuccess⟩, text, hbody, j, hparse, htoken⟩

end Upload

/-- The response to the open upload of a writer, once the body is ended. -/
def Awaited (net : Network σ υ) (w : BlockWriter (Upload υ)) (x : Exchange σ) (r : Response) :
    Prop :=
  ∃ u running, w.stage = .opened u ∧ (x.passPoint FailPoints.beforeFinish).1 = .ok () ∧
    u.pending = some (.ok running) ∧ (net.collect running x.service).1 = .ok r

/-- What the commit of a writer answers, and how it leaves the writer. -/
structure Acknowledged (net : Network σ υ) (w : BlockWriter (Upload υ)) (x : Exchange σ)
    (answer : Except Failure (Option CommitMessage)) (w' : BlockWriter (Upload υ)) : Prop where
  /-- There is a message where the response to the upload has success and carries a record. Its
  token is that of the record, or the empty text if the record omits it. -/
  message : ∀ m, answer = .ok (some m) ↔
    m.block = w.request.block ∧ m.attempt = w.request.attempt ∧
      ∃ r j, Awaited net w x r ∧ Carries r j ∧
        (HoldsToken j m.token ∨ OmitsToken j ∧ m.token = "")
  committed : ∀ m, answer = .ok (some m) → w' = { w with stage := .committed }
  /-- An open upload without a message is a failure that aborts the writer. -/
  refused : ∀ u, w.stage = .opened u → (∀ m, answer ≠ .ok (some m)) →
    (∃ f, answer = .error f) ∧ w' = { w with stage := .aborted }

/-- A commit over any network, wherever the writer stands. -/
theorem commit_acknowledged (c : Client) (net : Network σ υ) (w : BlockWriter (Upload υ))
    (x : Exchange σ) : Acknowledged net w x (w.commit (c.writing net) x).1
      (w.commit (c.writing net) x).2.1 where
  message m := by
    rw [BlockWriter.commit_eq_some_iff]
    constructor
    · rintro ⟨hblock, hattempt, u, hstage, hpoint, hfinish⟩
      obtain ⟨running, r, j, hpending, hanswer, hcarries, htoken⟩ :=
        (Upload.finish_eq_ok_iff net u x.service m.token).mp hfinish
      exact ⟨hblock, hattempt, r, j, ⟨u, running, hstage, hpoint, hpending, hanswer⟩, hcarries,
        (tokenOf?_eq_some_iff j m.token).mp htoken⟩
    · rintro ⟨hblock, hattempt, r, j, ⟨u, running, hstage, hpoint, hpending, hanswer⟩, hcarries,
        htoken⟩
      refine ⟨hblock, hattempt, u, hstage, hpoint, ?_⟩
      exact (Upload.finish_eq_ok_iff net u x.service m.token).mpr
        ⟨running, r, j, hpending, hanswer, hcarries, (tokenOf?_eq_some_iff j m.token).mpr htoken⟩
  committed m hmessage := by
    obtain ⟨-, -, u, hstage, -⟩ := (BlockWriter.commit_eq_some_iff _ w x m).mp hmessage
    rcases BlockWriter.commit_opened (c.writing net) x hstage with ⟨-, -, hw⟩ | ⟨f, hfailed, -⟩
    · exact hw
    · rw [hfailed] at hmessage
      contradiction
  refused u hstage hnone := by
    rcases BlockWriter.commit_opened (c.writing net) x hstage with ⟨m, hmessage, -⟩ | ⟨f, hf, hw⟩
    · exact absurd hmessage (hnone m)
    · exact ⟨⟨f, hf⟩, hw⟩

def emptySuccess : Response :=
  ⟨200, none, some "\x7b\x7d"⟩

/-- A network that answers every upload with success and an empty object. -/
def emptyNetwork : Network Unit Unit where
  roundTrip _ _ _ := (.error .unreachable, ())
  startUpload _ _ := ((), ())
  push _ _ _ := (true, ())
  collect _ _ := (.ok emptySuccess, ())
  cancel _ _ := ()

/-- A block is committed with a token that no response has named. -/
theorem token_named_by_no_response :
    let c : Client := ⟨"http://h", none, 60000, none⟩
    let w : BlockWriter (Upload Unit) := .start ⟨⟨"p", "default", "t"⟩, "s1", 0, 0, {}⟩
    let sent := w.write (c.writing emptyNetwork) Codec.raw ⟨[97, 98], 1⟩ { service := () }
    let committed := sent.2.1.commit (c.writing emptyNetwork) sent.2.2
    committed.1.toOption = some (some ⟨0, 0, ""⟩) ∧
      ∀ j token, Carries emptySuccess j → ¬HoldsToken j token := by
  refine ⟨by decide +kernel, ?_⟩
  rintro j token ⟨-, text, htext, hparse⟩ hholds
  have hempty : Json.parse? "\x7b\x7d" = some (.object []) := by rfl
  obtain rfl := Option.some.inj htext
  obtain rfl := Option.some.inj (hempty.symm.trans hparse)
  have hnone : [] = [Json.string token] := Option.some.inj hholds
  contradiction

end TableExchange.Rest
