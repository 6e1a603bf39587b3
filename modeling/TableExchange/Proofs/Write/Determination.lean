import TableExchange.Proofs.Write.Deliveries

/-!
What a ledger resolves to, said of the messages that it took in and of the choices that it was told.
It resolves when every block with a message is settled, and then to the one message of each block
that counts; otherwise its failure lists one kind for each block that is not settled. The blocks
ascend in both cases, and none is left out.
-/
namespace TableExchange

/-- What the callers of a ledger know: its policy, the messages that were taken in, and the attempt
that was last chosen for a block. -/
structure Holdings where
  policy : ConflictPolicy
  held : CommitMessage → Prop
  choice : UInt64 → Option UInt32

namespace Holdings

variable (h : Holdings)

def HasBlock (block : UInt64) : Prop :=
  ∃ m, h.held m ∧ m.block = block

/-- It is settled which attempt of a block counts: the chosen one has a message, or none was chosen
and there is only one, or the policy takes the latest. -/
def Settled (block : UInt64) : Prop :=
  match h.choice block with
  | some attempt => ∃ m, h.held m ∧ m.block = block ∧ m.attempt = attempt
  | none => h.policy = .latestAttemptWins ∨
      ∀ m n, h.held m → h.held n → m.block = block → n.block = block → m.attempt = n.attempt

/-- A message counts for its block: as that of the chosen attempt, else as the only one, else as
that of the highest attempt where the policy takes the latest. -/
def Counts (m : CommitMessage) : Prop :=
  h.held m ∧
    match h.choice m.block with
    | some attempt => m.attempt = attempt
    | none => (∀ n, h.held n → n.block = m.block → n = m) ∨
        (h.policy = .latestAttemptWins ∧ ∀ n, h.held n → n.block = m.block → n.attempt ≤ m.attempt)

def flaw (block : UInt64) : FailureKind :=
  if (h.choice block).isSome then .invalidState else .conflictingMessages

/-- The answer that holdings leave no choice about. -/
structure Determines (answer : Except Failure (List CommitMessage)) : Prop where
  succeeds : (∃ messages, answer = .ok messages) ↔ ∀ block, h.HasBlock block → h.Settled block
  /-- One message for each block that has one, the blocks ascending. -/
  messages : ∀ messages, answer = .ok messages →
    (messages.map (·.block)).Pairwise (· < ·) ∧
      (∀ block, block ∈ messages.map (·.block) ↔ h.HasBlock block) ∧
      ∀ m, m ∈ messages ↔ h.Counts m
  /-- One kind for each block that is not settled, the blocks ascending. -/
  failures : ∀ f, answer = .error f → ∃ blocks : List UInt64, blocks.Pairwise (· < ·) ∧
    (∀ block, block ∈ blocks ↔ h.HasBlock block ∧ ¬h.Settled block) ∧
    f.kinds = blocks.map h.flaw

/-- A block with a message that counts is settled. -/
theorem Counts.settled {h : Holdings} {m : CommitMessage} (hm : h.Counts m) :
    h.Settled m.block := by
  obtain ⟨hheld, hcounts⟩ := hm
  unfold Settled
  split at hcounts
  · exact ⟨m, hheld, rfl, hcounts⟩
  · rcases hcounts with honly | ⟨hpolicy, -⟩
    · exact .inr fun a b ha hb hab hbb => by rw [honly a ha hab, honly b hb hbb]
    · exact .inl hpolicy

end Holdings

namespace Ledger

variable {l : Ledger}

def holdings (l : Ledger) : Holdings :=
  ⟨l.policy, l.Holds, l.chosen.get?⟩

inductive BlockResolved (l : Ledger) (block : UInt64) :
    Except Failure (Option CommitMessage) → Prop
  | settled {m : CommitMessage} (hsettled : l.holdings.Settled block)
      (hcounts : ∀ n, l.holdings.Counts n ∧ n.block = block ↔ n = m) :
      BlockResolved l block (.ok (some m))
  | unsettled {f : Failure} (hsettled : ¬l.holdings.Settled block)
      (hkinds : f.kinds = [l.holdings.flaw block]) : BlockResolved l block (.error f)

variable {block : UInt64} {attempts : Attempts}

theorem Filed.resolved_chosen (h : l.Filed) (hentry : (block, attempts) ∈ l.held.entries)
    {attempt : UInt32} (hchoice : l.chosen.get? block = some attempt) :
    BlockResolved l block (l.resolveBlock block attempts) := by
  have hmem : ∀ m, (attempt, m) ∈ attempts.entries ↔
      l.Holds m ∧ m.block = block ∧ m.attempt = attempt := fun m => h.mem_attempts hentry
  simp only [resolveBlock, hchoice]
  cases hget : attempts.get? attempt with
  | some m =>
    obtain ⟨hholds, hblock, hattempt⟩ := (hmem m).mp (SortedMap.mem_of_get? hget)
    refine .settled ?_ fun n => ?_
    · simp only [Holdings.Settled, holdings, hchoice]
      exact ⟨m, hholds, hblock, hattempt⟩
    · constructor
      · rintro ⟨⟨hn, hcounts⟩, rfl⟩
        simp only [holdings, hchoice] at hcounts
        exact hn.unique hholds hblock.symm (hcounts.trans hattempt.symm)
      · rintro rfl
        refine ⟨⟨hholds, ?_⟩, hblock⟩
        simpa only [holdings, hblock, hchoice] using hattempt
  | none =>
    refine .unsettled ?_ ?_
    · simp only [Holdings.Settled, holdings, hchoice]
      rintro ⟨m, hm⟩
      rw [SortedMap.get?_of_mem ((hmem m).mpr hm)] at hget
      contradiction
    · simp [unreceived, Failure.of, Failure.kinds, Holdings.flaw, holdings, hchoice]

theorem Filed.single_iff (h : l.Filed) (hentry : (block, attempts) ∈ l.held.entries) :
    attempts.size = 1 ↔ ∀ m n, l.Holds m → l.Holds n → m.block = block → n.block = block →
      m.attempt = n.attempt := by
  constructor
  · intro hsize m n hm hn hmb hnb
    obtain ⟨e, he⟩ := List.length_eq_one_iff.mp hsize
    have hm' := (h.mem_attempts hentry).mpr ⟨hm, hmb, rfl⟩
    have hn' := (h.mem_attempts hentry).mpr ⟨hn, hnb, rfl⟩
    rw [he, List.mem_singleton] at hm' hn'
    exact congrArg Prod.fst (hm'.trans hn'.symm)
  · intro hall
    have hasc := attempts.ascending
    rcases hentries : attempts.entries with _ | ⟨⟨a, m⟩, _ | ⟨⟨b, n⟩, rest⟩⟩
    · exact absurd hentries (h.nonempty _ _ hentry)
    · exact congrArg List.length hentries
    · obtain ⟨hm, hmb, rfl⟩ := (h.mem_attempts hentry).mp
        (by rw [hentries]; exact List.mem_cons_self)
      obtain ⟨hn, hnb, rfl⟩ := (h.mem_attempts hentry).mp
        (by rw [hentries]; exact List.mem_cons_of_mem _ List.mem_cons_self)
      rw [hentries] at hasc
      have hlt := (List.pairwise_cons.mp hasc).1 _ List.mem_cons_self
      simp [hall m n hm hn hmb hnb] at hlt

theorem Filed.resolved_unchosen (h : l.Filed) (hentry : (block, attempts) ∈ l.held.entries)
    (hchoice : l.chosen.get? block = none) :
    BlockResolved l block (l.resolveBlock block attempts) := by
  have hsettled : l.holdings.Settled block ↔
      l.policy = .latestAttemptWins ∨ attempts.size = 1 := by
    rw [h.single_iff hentry]
    simp only [Holdings.Settled, holdings, hchoice]
  simp only [resolveBlock, hchoice]
  split
  · next hcond =>
    have hvalues : attempts.last? ≠ none := by
      simpa [SortedMap.last?, SortedMap.values] using h.nonempty _ _ hentry
    obtain ⟨m, hlast⟩ := Option.ne_none_iff_exists'.mp hvalues
    obtain ⟨k, hm, hgreatest⟩ := SortedMap.greatest_of_last? hlast
    obtain ⟨hholds, hblock, rfl⟩ := (h.mem_attempts hentry).mp hm
    have hbelow : ∀ n, l.Holds n → n.block = block → n = m ∨ n.attempt < m.attempt := by
      intro n hn hnb
      rcases hgreatest _ ((h.mem_attempts hentry).mpr ⟨hn, hnb, rfl⟩) with heq | hlt
      · exact .inl (congrArg Prod.snd heq)
      · exact .inr (Std.compare_eq_lt.mp hlt)
    rw [hlast]
    refine .settled (hsettled.mpr hcond.symm) fun n => ⟨?_, ?_⟩
    · rintro ⟨⟨hn, hcounts⟩, rfl⟩
      simp only [holdings, hchoice] at hcounts
      rcases hcounts with honly | ⟨-, hlatest⟩
      · exact (honly m hholds hblock).symm
      · rcases hbelow n hn rfl with heq | hlt
        · exact heq
        · exact absurd (hlatest m hholds hblock) (UInt32.not_le.mpr hlt)
    · rintro rfl
      refine ⟨⟨hholds, ?_⟩, hblock⟩
      simp only [holdings, hblock, hchoice]
      rcases hcond with hone | hpolicy
      · refine .inl fun p hp hpb => ?_
        exact hp.unique hholds (hpb.trans hblock.symm)
          ((h.single_iff hentry).mp hone p n hp hholds hpb hblock)
      · refine .inr ⟨hpolicy, fun p hp hpb => ?_⟩
        rcases hbelow p hp hpb with rfl | hlt
        · exact UInt32.le_refl _
        · exact UInt32.le_of_lt hlt
  · next hcond =>
    refine .unsettled (fun hs => hcond (hsettled.mp hs).symm) ?_
    simp [undecided, Failure.of, Failure.kinds, Holdings.flaw, holdings, hchoice]

theorem Filed.resolved (h : l.Filed) (hentry : (block, attempts) ∈ l.held.entries) :
    BlockResolved l block (l.resolveBlock block attempts) := by
  cases hchoice : l.chosen.get? block with
  | some attempt => exact h.resolved_chosen hentry hchoice
  | none => exact h.resolved_unchosen hentry hchoice

structure SortedOut (l : Ledger) (blocks : List UInt64) (messages : List CommitMessage)
    (failures : List Failure) : Prop where
  inOrder : (messages.map (·.block)).Sublist blocks
  total : messages.length + failures.length = blocks.length
  counts : ∀ m, m ∈ messages ↔ l.holdings.Counts m ∧ m.block ∈ blocks
  flawed : ∃ bs : List UInt64, bs.Sublist blocks ∧ bs.length = failures.length ∧
    (∀ block, block ∈ bs ↔ block ∈ blocks ∧ ¬l.holdings.Settled block) ∧
    Failure.kindsOf failures = bs.map l.holdings.flaw

theorem Filed.sortedOut (h : l.Filed) {entries : List (UInt64 × Attempts)}
    (hentries : ∀ e ∈ entries, e ∈ l.held.entries) :
    let out := sortOut (entries.map fun e => l.resolveBlock e.1 e.2)
    SortedOut l (entries.map (·.1)) out.1 out.2 := by
  induction entries with
  | nil => exact ⟨.slnil, rfl, by simp [sortOut], [], .slnil, rfl, by simp, rfl⟩
  | cons e rest ih =>
    obtain ⟨block, attempts⟩ := e
    obtain ⟨hinOrder, htotal, hcounts, bs, hbs, hlength, hflawed, hkinds⟩ :=
      ih fun e he => hentries e (List.mem_cons_of_mem _ he)
    have hblock := h.resolved (hentries _ List.mem_cons_self)
    simp only [List.map_cons]
    generalize l.resolveBlock block attempts = answer at hblock
    cases hblock with
    | @unsettled f hunsettled hkind =>
      refine ⟨hinOrder.cons _, congrArg (· + 1) htotal, fun m => ?_, block :: bs, hbs.cons_cons _,
        congrArg (· + 1) hlength, fun b => ?_, ?_⟩
      · have hnot : l.holdings.Counts m → m.block ≠ block := by
          rintro hm rfl
          exact hunsettled hm.settled
        simp only [sortOut, hcounts, List.mem_cons]
        exact and_congr_right fun hm => (or_iff_right (hnot hm)).symm
      · rw [List.mem_cons, List.mem_cons, hflawed, or_and_right]
        refine or_congr_left (iff_self_and.mpr ?_)
        rintro rfl
        exact hunsettled
      · simp only [sortOut, Failure.kindsOf, hkind, hkinds, List.map_cons, List.singleton_append]
    | @settled m hsettled hone =>
      obtain ⟨hm, hmb⟩ := (hone m).mpr rfl
      refine ⟨?_, ?_, fun n => ?_, bs, hbs.cons _, hlength, fun b => ?_, hkinds⟩
      · simp only [sortOut, List.map_cons, hmb]
        exact hinOrder.cons_cons _
      · simp only [sortOut, List.length_cons]
        omega
      · simp only [sortOut, List.mem_cons, hcounts, ← hone n]
        exact and_or_left.symm
      · rw [List.mem_cons, hflawed, or_and_right, or_iff_right]
        rintro ⟨rfl, hunsettled⟩
        exact hunsettled hsettled

/-- A filed ledger resolves as its holdings determine. -/
theorem Filed.determined (h : l.Filed) : l.holdings.Determines l.resolve := by
  have hsorted := h.sortedOut fun e he => he
  simp only [resolve]
  generalize sortOut (l.held.entries.map fun e => l.resolveBlock e.1 e.2) = out at hsorted ⊢
  obtain ⟨messages, failures⟩ := out
  obtain ⟨hinOrder, htotal, hcounts, bs, hbs, hlength, hflawed, hkinds⟩ := hsorted
  have hkeys : ∀ block, block ∈ l.held.entries.map (·.1) ↔ l.holdings.HasBlock block :=
    h.mem_keys_iff
  have hascending : (l.held.entries.map (·.1)).Pairwise (· < ·) :=
    l.held.keys_ascending.imp Std.compare_eq_lt.mp
  rcases failures with _ | ⟨f, rest⟩
  · change l.holdings.Determines (.ok messages)
    obtain rfl := List.eq_nil_of_length_eq_zero hlength
    have hall : messages.map (·.block) = l.held.entries.map (·.1) :=
      hinOrder.eq_of_length (by simpa using htotal)
    refine ⟨iff_of_true ⟨messages, rfl⟩ fun block hblock => ?_, ?_, by simp⟩
    · refine Classical.not_not.mp fun hunsettled => ?_
      exact List.not_mem_nil ((hflawed block).mpr ⟨(hkeys block).mpr hblock, hunsettled⟩)
    · rintro _ ⟨⟩
      refine ⟨hall ▸ hascending, fun block => by rw [hall]; exact hkeys block, fun m => ?_⟩
      refine (hcounts m).trans (and_iff_left_of_imp fun hm => ?_)
      exact (hkeys m.block).mpr ⟨m, hm.1, rfl⟩
  · change l.holdings.Determines (.error (Failure.ofList (f :: rest)))
    obtain ⟨block, hblock⟩ := List.exists_mem_of_length_pos
      (Nat.lt_of_lt_of_eq (Nat.succ_pos rest.length) hlength.symm)
    refine ⟨iff_of_false (by simp) fun hall => ?_, by simp, ?_⟩
    · obtain ⟨hkey, hunsettled⟩ := (hflawed block).mp hblock
      exact hunsettled (hall block ((hkeys block).mp hkey))
    · rintro _ ⟨⟩
      refine ⟨bs, hascending.sublist hbs, fun block => ?_, ?_⟩
      · rw [hflawed, hkeys]
      · rw [Failure.kinds_ofList, hkinds]

end Ledger

inductive LedgerCall
  | deliver (d : Delivery)
  | choose (block : UInt64) (attempt : UInt32)

/-- A ledger after some calls, with the messages that it took in and the choices it was told. -/
structure Gathering where
  ledger : Ledger
  policy : ConflictPolicy
  taken : List CommitMessage := []
  choice : UInt64 → Option UInt32 := fun _ => none

namespace Gathering

def start (policy : ConflictPolicy) : Gathering :=
  { ledger := .start policy, policy }

def take (g : Gathering) : LedgerCall → Gathering
  | .deliver d =>
    { g with
      ledger := (g.ledger.accept d).2
      taken := g.taken ++ g.ledger.taken d.messages }
  | .choose block attempt =>
    { g with
      ledger := g.ledger.choose block attempt
      choice := fun b => if b = block then some attempt else g.choice b }

def run (g : Gathering) (calls : List LedgerCall) : Gathering :=
  calls.foldl take g

def holdings (g : Gathering) : Holdings :=
  ⟨g.policy, (· ∈ g.taken), g.choice⟩

/-- The invariant of a run: a ledger knows what its callers know. -/
structure Tracked (g : Gathering) : Prop where
  filed : g.ledger.Filed
  holdings : g.ledger.holdings = g.holdings

theorem tracked_start (policy : ConflictPolicy) : (start policy).Tracked where
  filed := Ledger.filed_start policy
  holdings := by
    have hholds : (Ledger.start policy).Holds = (· ∈ []) := by
      funext m
      exact propext (iff_of_false (Delivery.not_holds_unfed m) List.not_mem_nil)
    simp only [Ledger.holdings, Gathering.holdings, start, hholds]
    rfl

variable {g : Gathering}

theorem Tracked.take (h : g.Tracked) (c : LedgerCall) : (g.take c).Tracked := by
  obtain ⟨hfiled, hholdings⟩ := h
  cases c with
  | deliver d =>
    have htook := Ledger.took hfiled d.messages
    rw [← Ledger.accept_eq] at htook
    refine ⟨htook.filed, ?_⟩
    obtain ⟨hpolicy, hheld, hchoice⟩ := Holdings.mk.inj hholdings
    have hholds : (g.ledger.accept d).2.Holds = (· ∈ g.taken ++ g.ledger.taken d.messages) := by
      funext m
      rw [htook.holds, hheld, List.mem_append]
    simp only [Ledger.holdings, Gathering.holdings, Gathering.take, htook.policy, htook.chosen,
      hholds, hpolicy, hchoice]
  | choose block attempt =>
    refine ⟨hfiled.choose block attempt, ?_⟩
    obtain ⟨hpolicy, hheld, hchoice⟩ := Holdings.mk.inj hholdings
    have hchosen : (g.ledger.choose block attempt).chosen.get? =
        fun b => if b = block then some attempt else g.choice b := by
      funext b
      rw [Ledger.choose, SortedMap.get?_insert, hchoice]
    have hholds : (g.ledger.choose block attempt).Holds = (· ∈ g.taken) := hheld
    simp only [Ledger.holdings, Gathering.holdings, Gathering.take, hholds, hchosen]
    rw [← hpolicy]
    rfl

theorem Tracked.run (h : g.Tracked) (calls : List LedgerCall) : (g.run calls).Tracked := by
  induction calls generalizing g with
  | nil => exact h
  | cons c rest ih => exact ih (h.take c)

end Gathering

/-- Whatever was added to a ledger and whatever was chosen, its answer is determined by what it took
in and by the last choices. -/
theorem resolve_determined (policy : ConflictPolicy) (calls : List LedgerCall) :
    let g := (Gathering.start policy).run calls
    g.holdings.Determines g.ledger.resolve := by
  intro g
  have h := (Gathering.tracked_start policy).run calls
  rw [← h.holdings]
  exact h.filed.determined

end TableExchange
