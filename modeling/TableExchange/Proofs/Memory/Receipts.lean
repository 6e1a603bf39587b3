import TableExchange.Memory.Service
import TableExchange.Proofs.Write.WriterEffects

/-!
The in-memory service behind a line on which requests about uploads may fail, before the service
sees them or after it has answered. A token that comes through proves that the service has received
its attempt, and what was received stays received.
-/
namespace TableExchange

variable {σ υ α : Type}

/-- What becomes of a request: it is answered, it never reaches the service, or the answer to it is
lost. -/
inductive Fate
  | answered
  | refused (f : Failure)
  | lost (f : Failure)

/-- A service at the end of a line, and the fates of the next requests; later ones are answered. -/
structure Line (σ : Type) where
  inner : σ
  fates : List Fate := []

namespace Line

/-- The fate of the next request, and those of the later ones. -/
def fate (l : Line σ) : Fate × List Fate :=
  match l.fates with
  | [] => (.answered, [])
  | f :: rest => (f, rest)

def ask (request : σ → Reply σ α) (l : Line σ) : Reply (Line σ) α :=
  match l.fate with
  | (.answered, fates) => ((request l.inner).1, ⟨(request l.inner).2, fates⟩)
  | (.refused f, fates) => (.error f, ⟨l.inner, fates⟩)
  | (.lost f, fates) => (.error f, ⟨(request l.inner).2, fates⟩)

def send (request : υ → List UInt8 → σ → Except Failure Unit × υ × σ) (u : υ)
    (bytes : List UInt8) (l : Line σ) : Except Failure Unit × υ × Line σ :=
  let r := request u bytes l.inner
  match l.fate with
  | (.answered, fates) => (r.1, r.2.1, ⟨r.2.2, fates⟩)
  | (.refused f, fates) => (.error f, u, ⟨l.inner, fates⟩)
  | (.lost f, fates) => (.error f, r.2.1, ⟨r.2.2, fates⟩)

/-- Makes a request that cannot fail on the way. -/
def pass (request : σ → Reply σ α) (l : Line σ) : Reply (Line σ) α :=
  ((request l.inner).1, { l with inner := (request l.inner).2 })

theorem ask_cases (request : σ → Reply σ α) (l : Line σ) :
    ((ask request l).2.inner = (request l.inner).2 ∨ (ask request l).2.inner = l.inner) ∧
      ∀ a, (ask request l).1 = .ok a →
        (request l.inner).1 = .ok a ∧ (ask request l).2.inner = (request l.inner).2 := by
  unfold ask
  rcases l.fate with ⟨_ | f | f, fates⟩
  · exact ⟨.inl rfl, fun a ha => ⟨ha, rfl⟩⟩
  · exact ⟨.inr rfl, by simp⟩
  · exact ⟨.inl rfl, by simp⟩

end Line

/-- A service on whose line openings, sends and finishes may fail. -/
def WriteService.faulty (svc : WriteService σ υ) : WriteService (Line σ) υ where
  lookUp t i k := Line.pass (svc.lookUp t i k)
  release s := Line.pass (svc.release s)
  createWrite t o := Line.pass (svc.createWrite t o)
  openBlock r := Line.ask (svc.openBlock r)
  sendChunk := Line.send svc.sendChunk
  finishBlock u := Line.ask (svc.finishBlock u)
  abortBlock u l := { l with inner := svc.abortBlock u l.inner }
  commitSession s ms := Line.pass (svc.commitSession s ms)

namespace Memory

def Knows (s : Store) (id : String) : Prop :=
  ∃ t, lookup id s.sessions = some t ∧ t.id = id

structure Grows (s s' : Store) : Prop where
  received : ∀ k, (lookup k s.received).isSome = true → (lookup k s'.received).isSome = true
  knows : ∀ id, Knows s id → Knows s' id

theorem Grows.refl (s : Store) : Grows s s :=
  ⟨fun _ h => h, fun _ h => h⟩

/-- Only what was received and the sessions count. -/
theorem grows_of_eq {s s' : Store} (hreceived : s'.received = s.received)
    (hsessions : s'.sessions = s.sessions) : Grows s s' := by
  refine ⟨?_, ?_⟩
  · rw [hreceived]
    exact fun _ h => h
  · unfold Knows
    rw [hsessions]
    exact fun _ h => h

theorem grows_setStatus (s : Store) (id : String) (status : SessionStatus) :
    Grows s (s.setStatus id status) := by
  unfold Store.setStatus
  split
  · next t ht =>
    refine ⟨fun _ h => h, ?_⟩
    rintro id' ⟨t', ht', hid⟩
    by_cases heq : id' = id
    · subst heq
      obtain rfl : t = t' := by simpa [ht] using ht'
      exact ⟨_, lookup_assign_self _ _ _, hid⟩
    · exact ⟨t', by rw [lookup_assign_of_ne heq, ht'], hid⟩
  · exact Grows.refl s

theorem grows_openBlock (r : BlockRequest) (s : Store) : Grows s (openBlock r s).2 := by
  unfold openBlock
  dsimp only
  split
  · exact grows_of_eq rfl rfl
  · split
    · exact grows_of_eq rfl rfl
    · split <;> exact grows_of_eq rfl rfl

theorem grows_finishBlock (u : Upload) (s : Store) : Grows s (finishBlock u s).2 := by
  unfold finishBlock
  split
  · exact Grows.refl s
  · refine ⟨fun k hk => ?_, fun _ h => h⟩
    by_cases heq : k = u.key
    · subst heq
      simp
    · simpa [lookup_assign_of_ne heq] using hk

theorem grows_commitSession (t : TableSession) (ms : List CommitMessage) (s : Store) :
    Grows s (commitSession t ms s).2 := by
  unfold commitSession
  dsimp only
  split
  · exact grows_of_eq rfl rfl
  · split
    · exact grows_of_eq rfl rfl
    · have h := grows_setStatus { s with commits := s.commits ++ [(t.id, ms)] } t.id .committed
      exact ⟨h.received, h.knows⟩

theorem grows_release (t : TableSession) (s : Store) : Grows s (release t s).2 := by
  unfold release
  split
  · split
    · exact Grows.refl s
    · exact grows_setStatus s t.id .terminated
  · exact Grows.refl s

/-- A look-up changes nothing, and finds what is kept under the id. -/
theorem lookUp_spec (table : TableRef) (id : String) (kind : SessionKind) (s : Store) :
    (lookUp table id kind s).2 = s ∧ ∀ t, (lookUp table id kind s).1 = .ok t →
      lookup id s.sessions = some t := by
  unfold lookUp
  split
  · exact ⟨rfl, by simp⟩
  · next t ht =>
    split
    · refine ⟨rfl, fun t' hok => ?_⟩
      rw [ht, Except.ok.inj hok]
    · exact ⟨rfl, by simp⟩

theorem Knows.id_eq {s : Store} {id : String} (h : Knows s id) {t : TableSession}
    (ht : lookup id s.sessions = some t) : t.id = id := by
  obtain ⟨t', ht', hid⟩ := h
  rw [ht] at ht'
  rwa [Option.some.inj ht']

def requested (r : BlockRequest) : BlockKey :=
  ⟨r.sessionId, r.block, r.attempt⟩

/-- An upload starts out with nothing. -/
theorem openBlock_new {r : BlockRequest} {s : Store} {u : Upload}
    (h : (openBlock r s).1 = .ok u) : u = ⟨requested r, []⟩ := by
  unfold openBlock at h
  dsimp only at h
  split at h
  · simp at h
  · split at h
    · simp at h
    · split at h
      · simp at h
      · obtain rfl := Except.ok.inj h
        rfl

theorem openBlock_ok {r : BlockRequest} {s : Store} {u : Upload}
    (h : (openBlock r s).1 = .ok u) : u.key = requested r :=
  congrArg Upload.key (openBlock_new h)

theorem finishBlock_ok {u : Upload} {s : Store} {tok : String}
    (h : (finishBlock u s).1 = .ok tok) :
    tok = token u.key.block u.key.attempt ∧
      (lookup u.key (finishBlock u s).2.received).isSome = true := by
  unfold finishBlock at h ⊢
  split at h
  · simp at h
  · next hfail =>
    obtain rfl := Except.ok.inj h
    rw [if_neg hfail]
    simp

/-- The service accepts messages of attempts that it has received, with their tokens. -/
theorem commitSession_accepts {t : TableSession} {messages : List CommitMessage} {s : Store}
    (hknown : Knows s t.id)
    (hmessages : ∀ m ∈ messages, m.token = token m.block m.attempt ∧
      (lookup ⟨t.id, m.block, m.attempt⟩ s.received).isSome = true) :
    ∃ snapshot, (commitSession t messages s).1 = .ok snapshot ∧ snapshot.id = t.id := by
  have hnone : (messages.find? fun m =>
      !acknowledges { s with commits := s.commits ++ [(t.id, messages)] } t.id m) = none := by
    rw [List.find?_eq_none]
    intro m hm
    obtain ⟨htoken, hreceived⟩ := hmessages m hm
    simp [acknowledges, Store.receivedBlock, htoken, hreceived]
  obtain ⟨stored, hstored, hid⟩ := hknown
  simp only [commitSession, hnone, hstored]
  exact ⟨_, rfl, hid⟩

/-- Uploads are of the attempts that were asked for, and stay so. -/
structure Consistent (events : List (WriteEvent Upload)) : Prop where
  opened : ∀ r u, .opening r (.ok u) ∈ events → u.key = requested r
  sent : ∀ u bytes answer u', .sending u bytes answer u' ∈ events → u'.key = u.key

theorem Consistent.of_subset {events fewer : List (WriteEvent Upload)} (h : Consistent events)
    (hsub : fewer ⊆ events) : Consistent fewer :=
  ⟨fun r u he => h.opened r u (hsub he), fun u b a u' he => h.sent u b a u' (hsub he)⟩

structure Sound (events : List (WriteEvent Upload)) (s : Store) : Prop extends
    Consistent events where
  finished : ∀ u tok, .finishing u (.ok tok) ∈ events →
    tok = token u.key.block u.key.attempt ∧ (lookup u.key s.received).isSome = true

theorem sound_nil (s : Store) : Sound [] s :=
  ⟨⟨by simp, by simp⟩, by simp⟩

theorem Sound.grows {events : List (WriteEvent Upload)} {s s' : Store} (h : Sound events s)
    (hgrows : Grows s s') : Sound events s' := by
  refine ⟨h.toConsistent, ?_⟩
  intro u tok he
  obtain ⟨htoken, hreceived⟩ := h.finished u tok he
  exact ⟨htoken, hgrows.received _ hreceived⟩

/-- A request that may fail takes nothing from the service if the request itself does not. -/
theorem grows_ask {request : Store → Reply Store α} (hgrows : ∀ s, Grows s (request s).2)
    {l l' : Line Store} {answer : Except Failure α} (h : Line.ask request l = (answer, l')) :
    Grows l.inner l'.inner := by
  obtain ⟨hinner, -⟩ := Line.ask_cases request l
  rw [h] at hinner
  rcases hinner with hinner | hinner
  · exact hinner ▸ hgrows l.inner
  · exact hinner ▸ Grows.refl l.inner

/-- What one request proves, and what it leaves to the service. -/
theorem leads_spec {l l' : Line Store} {e : WriteEvent Upload} (he : e.Leads writing.faulty l l') :
    Grows l.inner l'.inner ∧ Sound [e] l'.inner := by
  cases e with
  | opening r answer =>
    obtain ⟨-, hok⟩ := Line.ask_cases (openBlock r) l
    have hask : Line.ask (openBlock r) l = (answer, l') := he
    rw [hask] at hok
    refine ⟨grows_ask (grows_openBlock r) hask, ⟨?_, by simp⟩, by simp⟩
    intro r' u hmem
    obtain ⟨rfl, rfl⟩ : r' = r ∧ .ok u = answer := by simpa using hmem
    exact openBlock_ok (hok u rfl).1
  | sending u bytes answer u' =>
    have hsend : Line.send sendChunk u bytes l = (answer, u', l') := he
    have hinner : l'.inner = l.inner ∧ u'.key = u.key := by
      unfold Line.send at hsend
      rcases hfate : l.fate with ⟨_ | f | f, fates⟩ <;> rw [hfate] at hsend <;>
        obtain ⟨-, rfl, rfl⟩ := by simpa using hsend
      all_goals exact ⟨rfl, rfl⟩
    refine ⟨hinner.1 ▸ Grows.refl l.inner, ⟨by simp, ?_⟩, by simp⟩
    intro v bytes' answer' v' hmem
    obtain ⟨rfl, -, -, rfl⟩ : v = u ∧ bytes' = bytes ∧ answer' = answer ∧ v' = u' := by
      simpa using hmem
    exact hinner.2
  | finishing u answer =>
    obtain ⟨-, hok⟩ := Line.ask_cases (finishBlock u) l
    have hask : Line.ask (finishBlock u) l = (answer, l') := he
    rw [hask] at hok
    refine ⟨grows_ask (grows_finishBlock u) hask, ⟨by simp, by simp⟩, ?_⟩
    intro v tok hmem
    obtain ⟨rfl, rfl⟩ : v = u ∧ .ok tok = answer := by simpa using hmem
    obtain ⟨hfinish, hleft⟩ := hok tok rfl
    rw [hleft]
    exact finishBlock_ok hfinish
  | aborting u =>
    obtain rfl : ({ l with inner := abortBlock u l.inner } : Line Store) = l' := he
    exact ⟨grows_of_eq rfl rfl, ⟨by simp, by simp⟩, by simp⟩
  | committing t messages answer =>
    obtain rfl : (Line.pass (commitSession t messages) l).2 = l' := congrArg Prod.snd he
    exact ⟨grows_commitSession t messages l.inner, ⟨by simp, by simp⟩, by simp⟩

theorem Sound.led {events new : List (WriteEvent Upload)} {l l' : Line Store}
    (h : Sound events l.inner) (hled : Led writing.faulty l new l') :
    Sound (events ++ new) l'.inner ∧ Grows l.inner l'.inner := by
  induction hled with
  | start => exact ⟨by simpa using h, Grows.refl _⟩
  | @next new l₁ l₂ e _ he ih =>
    obtain ⟨hsound, hgrown⟩ := ih
    obtain ⟨hgrows, hone⟩ := leads_spec he
    have hsound' := hsound.grows hgrows
    rw [← List.append_assoc]
    refine ⟨?_, ⟨fun k hk => hgrows.received k (hgrown.received k hk),
      fun id hid => hgrows.knows id (hgrown.knows id hid)⟩⟩
    refine ⟨⟨?_, ?_⟩, ?_⟩
    · intro r u hmem
      exact (List.mem_append.mp hmem).elim (hsound'.opened r u) (hone.opened r u)
    · intro u bytes answer u' hmem
      exact (List.mem_append.mp hmem).elim (hsound'.sent u bytes answer u')
        (hone.sent u bytes answer u')
    · intro u tok hmem
      exact (List.mem_append.mp hmem).elim (hsound'.finished u tok) (hone.finished u tok)

end Memory

end TableExchange
