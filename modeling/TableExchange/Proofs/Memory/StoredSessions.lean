import TableExchange.Proofs.Memory.Receipts

/-!
What the in-memory service keeps of a session: its status, and the bytes of its blocks. A request
changes no more than the session or the block that it names, and a new session never takes the place
of another one.
-/
namespace TableExchange.Memory

def Store.statusOf (id : String) (s : Store) : Option SessionStatus :=
  (lookup id s.sessions).map (·.status)

/-- The session is kept with a status that allows no further operations. -/
def Over (id : String) (s : Store) : Prop :=
  ∃ status, s.statusOf id = some status ∧ status.isTerminal = true

theorem statusOf_of_eq {s s' : Store} (hsessions : s'.sessions = s.sessions) (id : String) :
    s'.statusOf id = s.statusOf id := by
  rw [Store.statusOf, hsessions]
  rfl

def sessionId (number : Nat) : String :=
  s!"session-{number}"

def Numbered (s : Store) : Prop :=
  ∀ id, (lookup id s.sessions).isSome = true → ∃ number ≤ s.issued, id = sessionId number

theorem sessionId_injective {m n : Nat} (h : sessionId m = sessionId n) : m = n := by
  have hchars := congrArg String.toList h
  simp only [sessionId, String.toList_append] at hchars
  have hdigits := congrArg (Nat.ofDigitChars 10 · 0) (List.append_cancel_left hchars)
  simpa [Nat.toString_eq_ofList_toDigits] using hdigits

/-- The next number is not in use. -/
theorem Numbered.fresh {s : Store} (h : Numbered s) :
    lookup (sessionId (s.issued + 1)) s.sessions = none := by
  cases hfound : lookup (sessionId (s.issued + 1)) s.sessions with
  | none => rfl
  | some t =>
    obtain ⟨number, hle, hid⟩ := h (sessionId (s.issued + 1)) (by simp [hfound])
    have hnumber := sessionId_injective hid
    omega

theorem Numbered.of_eq {s s' : Store} (h : Numbered s) (hsessions : s'.sessions = s.sessions)
    (hissued : s'.issued = s.issued) : Numbered s' := by
  unfold Numbered
  rw [hsessions, hissued]
  exact h

theorem Numbered.openSession {s : Store} (h : Numbered s) (kind : SessionKind) (table : TableRef)
    (splits : List Split) : Numbered (openSession kind table splits s).2 := by
  intro id hid
  by_cases hnew : id = sessionId (s.issued + 1)
  · exact ⟨s.issued + 1, Nat.le_refl _, hnew⟩
  · have hold : (lookup id s.sessions).isSome = true := by
      rwa [show lookup id (Memory.openSession kind table splits s).2.sessions = lookup id s.sessions
        from lookup_assign_of_ne hnew _ _] at hid
    obtain ⟨number, hle, rfl⟩ := h id hold
    exact ⟨number, Nat.le_succ_of_le hle, rfl⟩

/-- Opening a session leaves those alone that are kept already. -/
theorem statusOf_openSession {s : Store} (h : Numbered s) {id : String} {status : SessionStatus}
    (hid : s.statusOf id = some status) (kind : SessionKind) (table : TableRef)
    (splits : List Split) : (openSession kind table splits s).2.statusOf id = some status := by
  have hne : id ≠ sessionId (s.issued + 1) := by
    rintro rfl
    simp [Store.statusOf, h.fresh] at hid
  rw [← hid]
  exact congrArg (Option.map _) (lookup_assign_of_ne hne _ _)

theorem lookup_setStatus (id other : String) (status : SessionStatus) (s : Store) :
    lookup other (s.setStatus id status).sessions =
      if other = id then (lookup id s.sessions).map ({ · with status })
      else lookup other s.sessions := by
  cases hfound : lookup id s.sessions with
  | none =>
    simp only [Store.setStatus, hfound]
    split
    · next heq => rw [heq, hfound]; rfl
    · rfl
  | some t =>
    simp only [Store.setStatus, hfound]
    split
    · next heq => rw [heq, lookup_assign_self]; rfl
    · next hne => exact lookup_assign_of_ne hne _ _

theorem statusOf_setStatus (id other : String) (status : SessionStatus) (s : Store) :
    (s.setStatus id status).statusOf other =
      if other = id then (s.statusOf id).map fun _ => status else s.statusOf other := by
  unfold Store.statusOf
  rw [lookup_setStatus]
  split
  · simp [Function.comp_def]
  · rfl

/-- A status is all that an override changes. -/
theorem setStatus_spec (id : String) (status : SessionStatus) (s : Store) :
    ∃ sessions, s.setStatus id status = { s with sessions } := by
  unfold Store.setStatus
  split
  · exact ⟨_, rfl⟩
  · exact ⟨s.sessions, rfl⟩

@[simp] theorem received_setStatus (id : String) (status : SessionStatus) (s : Store) :
    (s.setStatus id status).received = s.received := by
  obtain ⟨sessions, h⟩ := setStatus_spec id status s
  rw [h]

theorem Numbered.setStatus {s : Store} (h : Numbered s) (id : String) (status : SessionStatus) :
    Numbered (s.setStatus id status) := by
  obtain ⟨sessions, hspec⟩ := setStatus_spec id status s
  intro other hother
  rw [lookup_setStatus] at hother
  have hold : (lookup other s.sessions).isSome = true := by
    split at hother
    · next heq => simpa [heq] using hother
    · exact hother
  rw [hspec]
  exact h other hold

/-- A release does not touch a session that is over. -/
theorem statusOf_release {s : Store} {id : String} (h : Over id s) (t : TableSession) :
    (release t s).2.statusOf id = s.statusOf id := by
  obtain ⟨status, hstatus, hover⟩ := h
  unfold release
  split
  · next stored hstored =>
    split
    · rfl
    · next hopen =>
      rw [statusOf_setStatus, if_neg]
      rintro rfl
      obtain rfl : stored.status = status := by simpa [Store.statusOf, hstored] using hstatus
      exact hopen hover
  · rfl

theorem received_release (t : TableSession) (s : Store) :
    (release t s).2.received = s.received := by
  unfold release
  split
  · split
    · rfl
    · exact received_setStatus _ _ _
  · rfl

theorem Numbered.release {s : Store} (h : Numbered s) (t : TableSession) :
    Numbered (release t s).2 := by
  unfold Memory.release
  split
  · split
    · exact h
    · exact h.setStatus _ _
  · exact h

/-- What a commit can do: it fails and leaves all sessions alone, or it marks its session. -/
theorem commitSession_cases (t : TableSession) (messages : List CommitMessage) (s : Store) :
    ((∃ f, (commitSession t messages s).1 = .error f) ∧
      (commitSession t messages s).2 = { s with commits := s.commits ++ [(t.id, messages)] }) ∨
    ((∃ t', (commitSession t messages s).1 = .ok t') ∧ (s.statusOf t.id).isSome = true ∧
      (commitSession t messages s).2 =
        ({ s with commits := s.commits ++ [(t.id, messages)] } : Store).setStatus t.id
          .committed) := by
  unfold commitSession
  dsimp only
  split
  · exact .inl ⟨⟨_, rfl⟩, rfl⟩
  · split
    · exact .inl ⟨⟨_, rfl⟩, rfl⟩
    · next stored hstored => exact .inr ⟨⟨_, rfl⟩, by simp [Store.statusOf, hstored], rfl⟩

theorem statusOf_commitSession_error {t : TableSession} {messages : List CommitMessage} {s : Store}
    {f : Failure} (h : (commitSession t messages s).1 = .error f) (id : String) :
    (commitSession t messages s).2.statusOf id = s.statusOf id := by
  rcases commitSession_cases t messages s with ⟨-, hleft⟩ | ⟨⟨t', hok⟩, -⟩
  · rw [hleft]
    rfl
  · simp [h] at hok

theorem statusOf_commitSession_ok {t t' : TableSession} {messages : List CommitMessage} {s : Store}
    (h : (commitSession t messages s).1 = .ok t') (id : String) :
    (commitSession t messages s).2.statusOf id =
      if id = t.id then some .committed else s.statusOf id := by
  rcases commitSession_cases t messages s with ⟨⟨f, hf⟩, -⟩ | ⟨-, hknown, hleft⟩
  · simp [h] at hf
  · rw [hleft, statusOf_setStatus]
    obtain ⟨status, hstatus⟩ := Option.isSome_iff_exists.mp hknown
    split
    · change (s.statusOf t.id).map (fun _ => SessionStatus.committed) = some .committed
      rw [hstatus]
      rfl
    · rfl

theorem received_commitSession (t : TableSession) (messages : List CommitMessage) (s : Store) :
    (commitSession t messages s).2.received = s.received := by
  rcases commitSession_cases t messages s with ⟨-, hleft⟩ | ⟨-, -, hleft⟩
  · rw [hleft]
  · rw [hleft, received_setStatus]

theorem Numbered.commitSession {s : Store} (h : Numbered s) (t : TableSession)
    (messages : List CommitMessage) : Numbered (commitSession t messages s).2 := by
  have hasked : Numbered { s with commits := s.commits ++ [(t.id, messages)] } := h
  rcases commitSession_cases t messages s with ⟨-, hleft⟩ | ⟨-, -, hleft⟩
  · rw [hleft]
    exact hasked
  · rw [hleft]
    exact hasked.setStatus _ _

/-- A change of the store that leaves sessions that are over and all received bytes alone. -/
structure Spares (s s' : Store) : Prop where
  numbered : Numbered s → Numbered s'
  kept : Numbered s → ∀ id, Over id s → s'.statusOf id = s.statusOf id
  received : s'.received = s.received

theorem spares_of_eq {s s' : Store} (hsessions : s'.sessions = s.sessions)
    (hissued : s'.issued = s.issued) (hreceived : s'.received = s.received) : Spares s s' := by
  exact ⟨fun h => h.of_eq hsessions hissued, fun _ id _ => statusOf_of_eq hsessions id, hreceived⟩

theorem Spares.refl (s : Store) : Spares s s :=
  spares_of_eq rfl rfl rfl

theorem spares_openSession (kind : SessionKind) (table : TableRef) (splits : List Split)
    (s : Store) : Spares s (openSession kind table splits s).2 := by
  refine ⟨fun h => h.openSession kind table splits, ?_, rfl⟩
  rintro hnumbered id ⟨status, hstatus, -⟩
  rw [hstatus]
  exact statusOf_openSession hnumbered hstatus kind table splits

theorem spares_lookUp (table : TableRef) (id : String) (kind : SessionKind) (s : Store) :
    Spares s (lookUp table id kind s).2 := by
  rw [(lookUp_spec table id kind s).1]
  exact .refl s

theorem spares_release (t : TableSession) (s : Store) : Spares s (release t s).2 where
  numbered h := h.release t
  kept _ _ hover := statusOf_release hover t
  received := received_release t s

/-- No upload is opened for a session that is over. -/
theorem openBlock_over {r : BlockRequest} {s : Store} (h : Over r.sessionId s) (u : Upload) :
    (openBlock r s).1 ≠ .ok u := by
  obtain ⟨status, hstatus, hover⟩ := h
  unfold openBlock
  dsimp only
  split
  · simp
  · next t ht =>
    obtain rfl : t.status = status := by simpa [Store.statusOf, ht] using hstatus
    simp [hover]

theorem openBlock_leaves {r : BlockRequest} {s s' : Store} {answer : Except Failure Upload}
    (h : openBlock r s = (answer, s')) :
    s' = { s with openRequests := s.openRequests ++ [r] } ∧
      ∀ u, answer = .ok u → u.key = requested r ∧ ¬Over r.sessionId s := by
  have hanswer : (openBlock r s).1 = answer := by rw [h]
  constructor
  · rw [show s' = (openBlock r s).2 by rw [h]]
    unfold openBlock
    dsimp only
    split
    · rfl
    · split
      · rfl
      · split <;> rfl
  · rintro u rfl
    exact ⟨openBlock_ok hanswer, fun hover => openBlock_over hover u hanswer⟩

theorem sendChunk_leaves {u u' : Upload} {bytes : List UInt8} {s s' : Store}
    {answer : Except Failure Unit} (h : sendChunk u bytes s = (answer, u', s')) :
    answer = .ok () ∧ u'.key = u.key ∧ s' = s := by
  obtain ⟨rfl, hrest⟩ := Prod.mk.inj h
  obtain ⟨rfl, rfl⟩ := Prod.mk.inj hrest
  exact ⟨rfl, rfl, rfl⟩

/-- A finish stores the bytes of its own attempt, or nothing. -/
theorem finishBlock_leaves {u : Upload} {s s' : Store} {answer : Except Failure String}
    (h : finishBlock u s = (answer, s')) :
    s' = s ∨ s' = { s with received := assign u.key u.buffer s.received } := by
  obtain rfl := congrArg Prod.snd h
  unfold finishBlock
  split
  · exact .inl rfl
  · exact .inr rfl

end TableExchange.Memory
