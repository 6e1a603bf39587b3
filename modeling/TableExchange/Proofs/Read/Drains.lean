import TableExchange.Proofs.Read.Stretches

/-!
Listings that are pulled split by split until the end or the first failure. While the pulls go on
every request brought a page that was taken in; a failure is the answer to the last request, or says
that its page was refused.
-/
namespace TableExchange

variable {σ τ : Type}

namespace Listing

/-- Pulls splits until the end or the first failure: the splits, and the ending. There is no ending
when `pulls` are not enough, or a pull does not settle. -/
def drain (svc : ReadService σ) (rounds : Nat) :
    Nat → Listing → Exchange σ → List Split × Option (Except Failure Unit) × Listing × Exchange σ
  | 0, l, x => ([], none, l, x)
  | pulls + 1, l, x =>
    match l.nextSplit svc rounds x with
    | (none, l, x) => ([], none, l, x)
    | (some (.error f), l, x) => ([], some (.error f), l, x)
    | (some (.ok none), l, x) => ([], some (.ok ()), l, x)
    | (some (.ok (some s)), l, x) =>
      let r := drain svc rounds pulls l x
      (s :: r.1, r.2)

theorem drain_through {svc : ReadService σ} {svc' : ReadService τ} {v : τ → σ}
    (h : svc.PagesThrough svc' v) (rounds pulls : Nat) (l : Listing) (y : Exchange τ) :
    l.drain svc rounds pulls (y.through v) =
      ((l.drain svc' rounds pulls y).1, (l.drain svc' rounds pulls y).2.1,
        (l.drain svc' rounds pulls y).2.2.1, (l.drain svc' rounds pulls y).2.2.2.through v) := by
  induction pulls generalizing l y with
  | zero => rfl
  | succ pulls ih =>
    simp only [drain, nextSplit_through h]
    rcases l.nextSplit svc' rounds y with ⟨answer, l', y'⟩
    match answer with
    | none => rfl
    | some (.error f) => rfl
    | some (.ok none) => rfl
    | some (.ok (some s)) => simp only [ih]

end Listing

/-- A request, after those `before`, brought a page whose keys ascend. -/
def TakenIn (before : List Fetch) (f : Fetch) : Prop :=
  ∃ page, f.answer = .ok page ∧ ascent (Intake.ofFetches before).guard page.splits = page.splits

theorem answers_of_takenIn {fetches : List Fetch} (h : AtEach TakenIn fetches) :
    fetches.map (·.answer) = (accepted fetches).map .ok := by
  induction fetches using List.reverseRecOn with
  | nil => rfl
  | append_singleton fetches f ih =>
    obtain ⟨hearlier, page, hpage, hascent⟩ := atEach_concat.mp h
    have htake := Intake.take_accepted (Intake.ofFetches fetches) hpage hascent
    have ih := ih hearlier
    rw [accepted] at ih
    rw [accepted, Intake.ofFetches_concat, htake]
    simp [hpage, ih]

/-- Why a request, after those `before`, ended the pulls: it failed, or its page was refused. -/
def Breaks (before : List Fetch) (f : Fetch) (failure : Failure) : Prop :=
  f.answer = .error failure ∨ failure.kind = .orderViolated ∧ ¬TakenIn before f

namespace Listing

variable {l l' : Listing} {fetches new : List Fetch} {handed : List Split}

structure Steady (l : Listing) (fetches : List Fetch) (handed : List Split) : Prop where
  tracks : l.Tracks fetches handed
  taken : AtEach TakenIn fetches
  untold : l.stage ≠ .reported

theorem steady_start (session : TableSession) (scope : Scope) :
    (start session scope).Steady [] [] :=
  ⟨tracks_start session scope, atEach_nil _, by simp [start]⟩

/-- Where pulls in a row have led: they go on, they met the end, or the last request broke them
off. -/
inductive Drained (l : Listing) (fetches : List Fetch) (handed : List Split) :
    Option (Except Failure Unit) → Prop
  | going (h : l.Steady fetches handed) : Drained l fetches handed none
  | ended (tracks : l.Tracks fetches handed) (taken : AtEach TakenIn fetches)
      (hstage : l.stage = .reported) : Drained l fetches handed (some (.ok ()))
  | failed {before : List Fetch} {last : Fetch} {f : Failure} (hlast : fetches = before ++ [last])
      (tracks : l.Tracks fetches handed) (hb : l.buffered = []) (taken : AtEach TakenIn before)
      (hbreaks : Breaks before last f) : Drained l fetches handed (some (.error f))

theorem Drained.steady (h : l.Drained fetches handed none) : l.Steady fetches handed := by
  cases h with
  | going h => exact h

/-- Once the pulls have ended, all splits that came in are handed out. -/
theorem Drained.complete {ending : Except Failure Unit}
    (h : l.Drained fetches handed (some ending)) :
    handed = (accepted fetches).flatMap (·.splits) := by
  cases h with
  | ended tracks _ hstage =>
    have hconserved := tracks.conserved
    rwa [tracks.drained hstage, List.append_nil] at hconserved
  | failed _ tracks hb _ _ =>
    have hconserved := tracks.conserved
    rwa [hb, List.append_nil] at hconserved

/-- What an answer to a pull means for pulls in a row. -/
def ending : Option (Except Failure (Option Split)) → Option (Except Failure Unit)
  | some (.error f) => some (.error f)
  | some (.ok none) => some (.ok ())
  | some (.ok (some _)) | none => none

theorem Steady.stepped (h : l.Steady fetches handed)
    {answer : Option (Except Failure (Option Split))} (hs : Stepped l new answer l') :
    l'.Drained (fetches ++ new) (handed ++ (Handout.ofSplit answer).splits) (ending answer) := by
  have htracks := h.tracks.stepped hs
  cases hs with
  | buffered hb =>
    rw [List.append_nil] at htracks ⊢
    exact .going ⟨htracks, h.taken, h.untold⟩
  | failed hb hp =>
    cases hp with
    | fetched _ _ hf =>
      cases hf with
      | failed f => exact .failed rfl htracks hb h.taken (.inl rfl)
      | refused page f hkind hpage =>
        refine .failed rfl htracks hb h.taken (.inr ⟨hkind, ?_⟩)
        rintro ⟨p, hp, hascent⟩
        obtain rfl : page = p := Except.ok.inj hp
        exact hpage (h.tracks.guard ▸ hascent)
    | stale f hstage hmarker => exact absurd (h.tracks.nonempty hstage) (by simp [hmarker])
    | spent f _ hstage _ => exact absurd hstage h.untold
  | ended hb hp =>
    cases hp with
    | fetched _ _ hf => nomatch hf
    | ended _ _ =>
      rw [List.append_nil] at htracks ⊢
      exact .ended htracks h.taken rfl
  | paged hb hp =>
    refine .going ⟨htracks, ?_, (hp.after_page hb).2⟩
    cases hp with
    | buffered hne => exact absurd hb hne
    | fetched _ _ hf =>
      cases hf with
      | accepted page hpage =>
        exact atEach_concat.mpr ⟨h.taken, page, rfl, h.tracks.guard ▸ hpage⟩

theorem Steady.nextSplit (svc : ReadService σ) (rounds : Nat) (y : Exchange (σ × List Fetch))
    (h : l.Steady y.journal handed) :
    (l.nextSplit svc.journaled rounds y).2.1.Drained
      (l.nextSplit svc.journaled rounds y).2.2.journal
      (handed ++ (Handout.ofSplit (l.nextSplit svc.journaled rounds y).1).splits)
      (ending (l.nextSplit svc.journaled rounds y).1) := by
  refine settle_keeps (Q := fun answer s => s.1.Drained s.2.journal
    (handed ++ (Handout.ofSplit answer).splits) (ending answer)) ?_ rounds (l, y) ?_
  · rintro ⟨l₁, y₁⟩ h₁
    obtain ⟨new, hjournal, hs⟩ := l₁.stepped svc y₁
    rw [Handout.splits_ofSplit_none, List.append_nil] at h₁
    rw [hjournal]
    exact h₁.steady.stepped hs
  · rw [Handout.splits_ofSplit_none, List.append_nil]
    exact .going h

theorem Steady.drain (svc : ReadService σ) (rounds pulls : Nat) (y : Exchange (σ × List Fetch))
    (h : l.Steady y.journal handed) :
    (l.drain svc.journaled rounds pulls y).2.2.1.Drained
      (l.drain svc.journaled rounds pulls y).2.2.2.journal
      (handed ++ (l.drain svc.journaled rounds pulls y).1)
      (l.drain svc.journaled rounds pulls y).2.1 := by
  -- What was handed out before is carried along, so that the splits of this pull can join it.
  induction pulls generalizing l y handed with
  | zero =>
    rw [Listing.drain, List.append_nil]
    exact .going h
  | succ pulls ih =>
    have hpull := h.nextSplit svc rounds y
    simp only [Listing.drain]
    rcases hnext : l.nextSplit svc.journaled rounds y with ⟨answer, l₁, y₁⟩
    rw [hnext] at hpull
    match answer, hpull with
    | none, hpull => exact hpull
    | some (.error f), hpull => exact hpull
    | some (.ok none), hpull => exact hpull
    | some (.ok (some s)), hpull => simpa using ih y₁ hpull.steady

/-- A pull that has not settled made a request in every round. -/
theorem requests_of_unsettled (svc : ReadService σ) {rounds : Nat} {l : Listing}
    {y : Exchange (σ × List Fetch)} (h : (l.nextSplit svc.journaled rounds y).1 = none) :
    (l.nextSplit svc.journaled rounds y).2.2.journal.length = y.journal.length + rounds := by
  unfold Listing.nextSplit at h ⊢
  induction rounds generalizing l y with
  | zero => rfl
  | succ rounds ih =>
    obtain ⟨new, hjournal, hs⟩ := l.stepped svc y
    rcases hstep : stepSplit svc.journaled (l, y) with ⟨answer, l₁, y₁⟩
    rw [hstep] at hjournal hs
    cases answer with
    | some a => simp [settle, hstep] at h
    | none =>
      -- Only the delivery of a page leaves a pull open, and there was none without a request.
      have hone : new.length = 1 := by
        cases hs with
        | paged hb hp =>
          cases hp with
          | buffered hne => exact absurd hb hne
          | fetched _ _ _ => rfl
      have hlength : y₁.journal.length = y.journal.length + 1 := by
        rw [hjournal, List.length_append, hone]
      simp only [settle, hstep] at h ⊢
      rw [ih h, hlength, Nat.add_right_comm, Nat.add_assoc]

/-- Pulls that have not met an ending handed out a split each, or one of them made a request in
every round. -/
theorem going_of_drain (svc : ReadService σ) (rounds pulls : Nat) (l : Listing)
    (y : Exchange (σ × List Fetch)) (h : (l.drain svc.journaled rounds pulls y).2.1 = none) :
    (l.drain svc.journaled rounds pulls y).1.length = pulls ∨
      rounds ≤ (l.drain svc.journaled rounds pulls y).2.2.2.journal.length := by
  induction pulls generalizing l y with
  | zero => exact .inl rfl
  | succ pulls ih =>
    simp only [Listing.drain] at h ⊢
    rcases hnext : l.nextSplit svc.journaled rounds y with ⟨answer, l₁, y₁⟩
    rw [hnext] at h
    match answer, hnext, h with
    | none, hnext, _ =>
      right
      have hlength := requests_of_unsettled svc (congrArg Prod.fst hnext)
      rw [hnext] at hlength
      exact hlength ▸ Nat.le_add_left rounds y.journal.length
    | some (.ok (some s)), _, h => exact (ih l₁ y₁ h).imp_left (congrArg (· + 1))

end Listing

/-- A listing that was pulled until it ended, as its caller and its service see it. -/
structure Drain where
  handed : List Split
  ending : Option (Except Failure Unit)
  fetches : List Fetch

/-- Pulls splits until the end or the first failure, watched. -/
def Listing.watchDrain (svc : ReadService σ) (rounds pulls : Nat) (l : Listing) (x : Exchange σ) :
    Drain :=
  let r := l.drain svc rounds pulls x
  ⟨r.1, r.2.1, (l.drain svc.journaled rounds pulls (x.watched Fetch)).2.2.2.journal⟩

namespace Listing

theorem watchDrain_eq (svc : ReadService σ) (rounds pulls : Nat) (l : Listing) (x : Exchange σ) :
    l.watchDrain svc rounds pulls x =
      ⟨(l.drain svc.journaled rounds pulls (x.watched Fetch)).1,
        (l.drain svc.journaled rounds pulls (x.watched Fetch)).2.1,
        (l.drain svc.journaled rounds pulls (x.watched Fetch)).2.2.2.journal⟩ := by
  have hplain := drain_through svc.pagesThrough_journaled rounds pulls l (x.watched Fetch)
  rw [watchDrain]
  exact congrArg (fun r => (⟨r.1, r.2.1, _⟩ : Drain)) hplain

/-- Where the pulls of a new listing lead. -/
theorem drained_watchDrain (svc : ReadService σ) (session : TableSession) (scope : Scope)
    (rounds pulls : Nat) (x : Exchange σ) :
    ∃ l, Drained l ((start session scope).watchDrain svc rounds pulls x).fetches
      ((start session scope).watchDrain svc rounds pulls x).handed
      ((start session scope).watchDrain svc rounds pulls x).ending := by
  have hdrained := (steady_start session scope).drain svc rounds pulls (x.watched Fetch)
  rw [watchDrain_eq]
  exact ⟨_, hdrained⟩

theorem going_of_watchDrain (svc : ReadService σ) (rounds pulls : Nat) (l : Listing)
    (x : Exchange σ) (h : (l.watchDrain svc rounds pulls x).ending = none) :
    (l.watchDrain svc rounds pulls x).handed.length = pulls ∨
      rounds ≤ (l.watchDrain svc rounds pulls x).fetches.length := by
  rw [watchDrain_eq] at h ⊢
  exact going_of_drain svc rounds pulls l (x.watched Fetch) h

end Listing

end TableExchange
