import TableExchange.Proofs.Write.Resolution

/-!
Deliveries of commit messages to a ledger. What a ledger holds depends on which messages reach it,
and not on their order, on repetitions, or on how they are grouped; messages that clash are refused
however they come.
-/
namespace TableExchange

/-- Messages reach a ledger by themselves or in batches. -/
inductive Delivery
  | one (m : CommitMessage)
  | batch (ms : List CommitMessage)

def Delivery.messages : Delivery → List CommitMessage
  | one m => [m]
  | batch ms => ms

def Compatible (ms : List CommitMessage) : Prop :=
  ∀ m ∈ ms, ∀ n ∈ ms, m.block = n.block → m.attempt = n.attempt → m.token = n.token

namespace Ledger

variable {l l' l'' : Ledger} {m : CommitMessage} {ms ns : List CommitMessage}

def accept (l : Ledger) : Delivery → Except Failure Unit × Ledger
  | .one m => l.add m
  | .batch ms => l.addAll ms

def acceptAll : List Delivery → Ledger → Except Failure Unit × Ledger
  | [], l => (.ok (), l)
  | d :: rest, l =>
    match l.accept d with
    | (.ok (), l) => acceptAll rest l
    | (.error f, l) => (.error f, l)

/-- The messages of a list that a ledger takes in before one clashes. -/
def taken : List CommitMessage → Ledger → List CommitMessage
  | [], _ => []
  | m :: rest, l =>
    match l.add m with
    | (.ok (), l) => m :: taken rest l
    | (.error _, _) => []

theorem holds_iff (l : Ledger) (m : CommitMessage) :
    l.Holds m ↔ l.message? m.block m.attempt = some m := by
  unfold Holds message? attemptsOf
  constructor
  · rintro ⟨attempts, hentry, hm⟩
    rw [SortedMap.get?_of_mem hentry]
    exact SortedMap.get?_of_mem hm
  · intro h
    have hm := SortedMap.mem_of_get? h
    exact ⟨_, mem_attemptsOf hm, hm⟩

/-- A ledger holds one message for an attempt of a block. -/
theorem Holds.unique {n : CommitMessage} (hm : l.Holds m) (hn : l.Holds n)
    (hblock : m.block = n.block) (hattempt : m.attempt = n.attempt) : m = n := by
  have hm' := (holds_iff l m).mp hm
  rw [hblock, hattempt, (holds_iff l n).mp hn] at hm'
  exact (Option.some.inj hm').symm

/-- The attempts of a block of a filed ledger are the messages that it holds for the block. -/
theorem Filed.mem_attempts (h : l.Filed) {block : UInt64} {attempts : Attempts}
    (hentry : (block, attempts) ∈ l.held.entries) {attempt : UInt32} :
    (attempt, m) ∈ attempts.entries ↔ l.Holds m ∧ m.block = block ∧ m.attempt = attempt := by
  constructor
  · intro hm
    obtain ⟨rfl, rfl⟩ := h.filed _ _ hentry _ _ hm
    exact ⟨⟨attempts, hentry, hm⟩, rfl, rfl⟩
  · rintro ⟨⟨attempts', hentry', hm⟩, rfl, rfl⟩
    rwa [SortedMap.value_unique hentry hentry']

theorem Filed.message?_eq_some_iff (h : l.Filed) {block : UInt64} {attempt : UInt32} :
    l.message? block attempt = some m ↔ l.Holds m ∧ m.block = block ∧ m.attempt = attempt := by
  constructor
  · intro hget
    have hm := SortedMap.mem_of_get? hget
    exact (h.mem_attempts (mem_attemptsOf hm)).mp hm
  · rintro ⟨hm, rfl, rfl⟩
    exact (holds_iff l m).mp hm

theorem Filed.mem_keys_iff (h : l.Filed) (block : UInt64) :
    block ∈ l.held.keys ↔ ∃ m, l.Holds m ∧ m.block = block := by
  constructor
  · intro hkey
    obtain ⟨⟨block, attempts⟩, hentry, rfl⟩ := List.mem_map.mp hkey
    obtain ⟨⟨attempt, m⟩, hm⟩ := List.exists_mem_of_ne_nil _ (h.nonempty _ _ hentry)
    obtain ⟨hholds, hblock, -⟩ := (h.mem_attempts hentry).mp hm
    exact ⟨m, hholds, hblock⟩
  · rintro ⟨m, ⟨attempts, hentry, _⟩, rfl⟩
    exact List.mem_map.mpr ⟨_, hentry, rfl⟩

theorem Filed.mem_held (h : l.Filed) (h' : l'.Filed) (hholds : ∀ m, l.Holds m ↔ l'.Holds m)
    {e : UInt64 × Attempts} (he : e ∈ l.held.entries) : e ∈ l'.held.entries := by
  obtain ⟨block, attempts⟩ := e
  have hkey : block ∈ l'.held.keys := by
    simp only [h'.mem_keys_iff, ← hholds]
    exact (h.mem_keys_iff block).mp (List.mem_map.mpr ⟨_, he, rfl⟩)
  obtain ⟨⟨_, attempts'⟩, he', rfl⟩ := List.mem_map.mp hkey
  have hsame : attempts = attempts' := by
    refine SortedMap.mem_ext fun ⟨attempt, m⟩ => ?_
    rw [h.mem_attempts he, h'.mem_attempts he', hholds]
  rwa [hsame]

/-- A filed ledger is known by what it holds, beside its policy and choices. -/
theorem Filed.eq_of_holds (h : l.Filed) (h' : l'.Filed) (hpolicy : l.policy = l'.policy)
    (hchosen : l.chosen = l'.chosen) (hholds : ∀ m, l.Holds m ↔ l'.Holds m) : l = l' := by
  have hheld : l.held = l'.held :=
    SortedMap.mem_ext fun _ =>
      ⟨h.mem_held h' hholds, h'.mem_held h fun m => (hholds m).symm⟩
  cases l
  cases l'
  simp_all

structure Took (l : Ledger) (ms : List CommitMessage) (l' : Ledger) : Prop where
  filed : l'.Filed
  policy : l'.policy = l.policy
  chosen : l'.chosen = l.chosen
  holds : ∀ m, l'.Holds m ↔ l.Holds m ∨ m ∈ ms

theorem Took.refl (h : l.Filed) : Took l [] l :=
  ⟨h, rfl, rfl, by simp⟩

theorem Took.trans (h : Took l ms l') (h' : Took l' ns l'') : Took l (ms ++ ns) l'' where
  filed := h'.filed
  policy := h'.policy.trans h.policy
  chosen := h'.chosen.trans h.chosen
  holds m := by rw [h'.holds, h.holds, List.mem_append, or_assoc]

theorem message?_insert (l : Ledger) (m : CommitMessage) (block : UInt64) (attempt : UInt32) :
    { l with held := l.held.insert m.block ((l.attemptsOf m.block).insert m.attempt m) :
      Ledger }.message? block attempt =
      if block = m.block ∧ attempt = m.attempt then some m else l.message? block attempt := by
  simp only [message?, attemptsOf, SortedMap.get?_insert]
  by_cases hblock : block = m.block
  · subst hblock
    simp [SortedMap.get?_insert]
  · simp [hblock]

theorem Added.took (ha : Added l m (.ok ()) l') (h : l.Filed) : Took l [m] l' := by
  have hfiled := ha.filed h
  cases ha with
  | present hp =>
    refine ⟨h, rfl, rfl, fun n => ⟨.inl, ?_⟩⟩
    rintro (hn | hn)
    · exact hn
    · rw [List.mem_singleton.mp hn]
      exact (holds_iff l m).mpr hp
  | new hnone =>
    refine ⟨hfiled, rfl, rfl, fun n => ?_⟩
    rw [holds_iff, holds_iff, message?_insert, List.mem_singleton]
    split
    · next hkey => simp [hkey, hnone, eq_comm]
    · next hkey =>
      have hne : n ≠ m := by
        rintro rfl
        exact hkey ⟨rfl, rfl⟩
      simp [hne]

theorem took (h : l.Filed) (ms : List CommitMessage) : Took l (l.taken ms) (l.addAll ms).2 := by
  induction ms generalizing l with
  | nil => exact .refl h
  | cons m rest ih =>
    have ha := added l m
    simp only [taken, addAll]
    rcases hadd : l.add m with ⟨_ | _, l₁⟩
    · rw [hadd] at ha
      cases ha with
      | clash _ _ => exact .refl h
    · rw [hadd] at ha
      exact (ha.took h).trans (ih (ha.filed h))

theorem taken_of_ok (hok : (l.addAll ms).1 = .ok ()) : l.taken ms = ms := by
  induction ms generalizing l with
  | nil => rfl
  | cons m rest ih =>
    simp only [taken, addAll] at hok ⊢
    rcases hadd : l.add m with ⟨_ | _, l₁⟩
    · simp [hadd] at hok
    · rw [hadd] at hok
      exact congrArg (m :: ·) (ih hok)

/-- A list fails at a message that clashes with one that is held or that came before it. -/
theorem clash_of_error (h : l.Filed) {f : Failure} (herror : (l.addAll ms).1 = .error f) :
    f.kind = .conflictingMessages ∧ ∃ m ∈ ms, ∃ p, (l.Holds p ∨ p ∈ ms) ∧
      p.block = m.block ∧ p.attempt = m.attempt ∧ p ≠ m := by
  induction ms generalizing l with
  | nil => simp [addAll] at herror
  | cons m rest ih =>
    have ha := added l m
    simp only [addAll] at herror
    rcases hadd : l.add m with ⟨_ | _, l₁⟩
    · rw [hadd] at ha herror
      obtain rfl := Except.error.inj herror
      cases ha with
      | @clash p hp hne =>
        obtain ⟨hholds, hblock, hattempt⟩ := (h.message?_eq_some_iff).mp hp
        exact ⟨rfl, m, List.mem_cons_self, p, .inl hholds, hblock, hattempt, hne⟩
    · rw [hadd] at ha herror
      obtain ⟨hkind, n, hn, p, hp, hkey⟩ := ih (ha.filed h) herror
      refine ⟨hkind, n, List.mem_cons_of_mem _ hn, p, ?_, hkey⟩
      rw [(ha.took h).holds, List.mem_singleton] at hp
      exact (or_assoc.mp hp).imp_right List.mem_cons.mpr

@[simp] theorem addAll_singleton (l : Ledger) (m : CommitMessage) : l.addAll [m] = l.add m := by
  rcases hadd : l.add m with ⟨_ | _, l₁⟩ <;> simp [addAll, hadd]

theorem addAll_append (l : Ledger) (ms ns : List CommitMessage) :
    l.addAll (ms ++ ns) = match l.addAll ms with
      | (.ok (), l) => l.addAll ns
      | (.error f, l) => (.error f, l) := by
  induction ms generalizing l with
  | nil => rfl
  | cons m rest ih =>
    rw [List.cons_append]
    rcases hadd : l.add m with ⟨_ | _, l₁⟩
    · simp [addAll, hadd]
    · simp [addAll, hadd, ih]

theorem accept_eq (l : Ledger) (d : Delivery) : l.accept d = l.addAll d.messages := by
  cases d with
  | one m => exact (l.addAll_singleton m).symm
  | batch ms => rfl

/-- However messages are grouped, they are taken in one after the other. -/
theorem acceptAll_eq (ds : List Delivery) (l : Ledger) :
    l.acceptAll ds = l.addAll (ds.flatMap Delivery.messages) := by
  induction ds generalizing l with
  | nil => rfl
  | cons d rest ih =>
    rw [List.flatMap_cons, addAll_append, acceptAll, accept_eq]
    rcases l.addAll d.messages with ⟨_ | _, l₁⟩
    · rfl
    · exact ih l₁

def makeRoom (block : UInt64) (l : Ledger) : Ledger :=
  { l with held := l.held.insert block (l.attemptsOf block) }

theorem message?_makeRoom (block : UInt64) (attempt : UInt32) (l : Ledger) :
    (l.makeRoom block).message? block attempt = l.message? block attempt := by
  simp [message?, makeRoom, attemptsOf, SortedMap.get?_insert_self]

/-- A block with a message has room. -/
theorem makeRoom_of_message? {block : UInt64} {attempt : UInt32}
    (h : l.message? block attempt = some m) : l.makeRoom block = l := by
  have hentry := mem_attemptsOf (SortedMap.mem_of_get? h)
  rw [makeRoom, SortedMap.insert_of_get? (SortedMap.get?_of_mem hentry)]

/-- Room that is made before a message is looked at is always used or was there before. -/
theorem add_makeRoom (m : CommitMessage) (l : Ledger) :
    (l.makeRoom m.block).add m = l.add m := by
  cases hget : l.message? m.block m.attempt with
  | some p => rw [makeRoom_of_message? hget]
  | none =>
    have hattempts : (l.makeRoom m.block).attemptsOf m.block = l.attemptsOf m.block := by
      simp [makeRoom, attemptsOf, SortedMap.get?_insert_self]
    simp only [add, message?_makeRoom, hget, hattempts]
    simp only [makeRoom, SortedMap.insert_insert]

/-- A message that cannot be added leaves the ledger as it was, also when room was made first. -/
theorem add_error {f : Failure} (h : (l.add m).1 = .error f) :
    (l.add m).2 = l ∧ ((l.makeRoom m.block).add m).2 = l := by
  have hsame : (l.add m).2 = l := by
    have ha := added l m
    rw [h] at ha
    generalize (l.add m).2 = l' at ha ⊢
    cases ha with
    | clash _ _ => rfl
  exact ⟨hsame, by rw [add_makeRoom, hsame]⟩

end Ledger

namespace Delivery

open Ledger

/-- Deliveries that carry the messages of a list, in any order and any number of times. -/
def Carry (ds : List Delivery) (ms : List CommitMessage) : Prop :=
  ∀ m, m ∈ ds.flatMap messages ↔ m ∈ ms

/-- What becomes of the messages of a list on a ledger without messages, however they come. -/
structure Alike (policy : ConflictPolicy) (chosen : SortedMap UInt64 UInt32)
    (ms : List CommitMessage) : Prop where
  /-- Compatible messages are all taken in, and make one ledger with one answer. -/
  collected : Compatible ms → ∃ l answer, (∀ m, Holds l m ↔ m ∈ ms) ∧ ∀ ds, Carry ds ms →
    acceptAll ds { policy, chosen } = (.ok (), l) ∧
      (acceptAll ds { policy, chosen }).2.resolve = answer
  /-- Messages that clash are not all taken in. -/
  refused : ¬Compatible ms → ∀ ds, Carry ds ms →
    ∃ f, (acceptAll ds { policy, chosen }).1 = .error f ∧ f.kind = .conflictingMessages

variable {policy : ConflictPolicy} {chosen : SortedMap UInt64 UInt32} {ds : List Delivery}
  {ms : List CommitMessage}

theorem filed_unfed (policy : ConflictPolicy) (chosen : SortedMap UInt64 UInt32) :
    Filed { policy, chosen } :=
  ⟨(filed_start policy).filed, (filed_start policy).nonempty⟩

theorem not_holds_unfed (m : CommitMessage) : ¬Holds { policy, chosen } m := by
  rintro ⟨attempts, hentry, -⟩
  exact absurd hentry List.not_mem_nil

/-- Deliveries of compatible messages do not fail. -/
theorem Carry.succeeds (h : Carry ds ms) (policy : ConflictPolicy)
    (chosen : SortedMap UInt64 UInt32) (hc : Compatible ms) :
    (acceptAll ds { policy, chosen }).1 = .ok () := by
  cases hanswer : (acceptAll ds { policy, chosen }).1 with
  | ok done => rfl
  | error f =>
    rw [acceptAll_eq] at hanswer
    obtain ⟨-, m, hm, p, hp, hblock, hattempt, hne⟩ :=
      clash_of_error (filed_unfed policy chosen) hanswer
    have hp' := hp.resolve_left (not_holds_unfed p)
    have htoken := hc p ((h p).mp hp') m ((h m).mp hm) hblock hattempt
    cases p
    cases m
    simp_all

/-- Deliveries that do not fail leave a ledger that holds their messages. -/
theorem Carry.took (h : Carry ds ms) (hok : (acceptAll ds { policy, chosen }).1 = .ok ()) :
    Took { policy, chosen } (ds.flatMap messages) (acceptAll ds { policy, chosen }).2 ∧
      ∀ m, (acceptAll ds { policy, chosen }).2.Holds m ↔ m ∈ ms := by
  rw [acceptAll_eq] at hok ⊢
  have htook := Ledger.took (filed_unfed policy chosen) (ds.flatMap messages)
  rw [taken_of_ok hok] at htook
  refine ⟨htook, fun m => ?_⟩
  rw [htook.holds, ← h m, or_iff_right (not_holds_unfed m)]

theorem Carry.compatible (h : Carry ds ms)
    (hok : (acceptAll ds { policy, chosen }).1 = .ok ()) : Compatible ms := by
  intro m hm n hn hblock hattempt
  have hholds := (h.took hok).2
  exact congrArg CommitMessage.token
    (((hholds m).mpr hm).unique ((hholds n).mpr hn) hblock hattempt)

/-- Deliveries of the same compatible messages leave the same ledger. -/
theorem Carry.agree {es : List Delivery} (hds : Carry ds ms) (hes : Carry es ms)
    (policy : ConflictPolicy) (chosen : SortedMap UInt64 UInt32) (hc : Compatible ms) :
    acceptAll ds { policy, chosen } = acceptAll es { policy, chosen } := by
  have hdsok := hds.succeeds policy chosen hc
  have hesok := hes.succeeds policy chosen hc
  obtain ⟨htook, hholds⟩ := hds.took hdsok
  obtain ⟨htook', hholds'⟩ := hes.took hesok
  have hsame := htook.filed.eq_of_holds htook'.filed (htook.policy.trans htook'.policy.symm)
    (htook.chosen.trans htook'.chosen.symm) fun m => (hholds m).trans (hholds' m).symm
  exact Prod.ext (hdsok.trans hesok.symm) hsame

end Delivery

open Delivery in
/-- What a ledger collects does not depend on the order of the messages, on repetitions or on their
grouping, and an addition that fails leaves the ledger as it was. -/
theorem deliveries_alike :
    (∀ policy chosen ms, Alike policy chosen ms) ∧
      ∀ (l : Ledger) (m : CommitMessage) (f : Failure), (l.add m).1 = .error f →
        (l.add m).2 = l ∧ ((l.makeRoom m.block).add m).2 = l := by
  refine ⟨fun policy chosen ms => ⟨fun hc => ?_, fun hclash ds hds => ?_⟩,
    fun l m f => Ledger.add_error⟩
  · have hself : Carry [.batch ms] ms := by simp [Carry, messages]
    obtain ⟨-, hholds⟩ := hself.took (hself.succeeds policy chosen hc)
    refine ⟨_, (Ledger.acceptAll [.batch ms] { policy, chosen }).2.resolve, hholds,
      fun ds hds => ?_⟩
    have hsame := congrArg Prod.snd (hds.agree hself policy chosen hc)
    exact ⟨Prod.ext (hds.succeeds policy chosen hc) hsame, congrArg Ledger.resolve hsame⟩
  · cases hanswer : (Ledger.acceptAll ds { policy, chosen }).1 with
    | ok done => exact absurd (hds.compatible hanswer) hclash
    | error f =>
      rw [Ledger.acceptAll_eq] at hanswer
      exact ⟨f, rfl, (Ledger.clash_of_error (filed_unfed policy chosen) hanswer).1⟩

open Delivery in
/-- Two attempts of a block that arrive in two ways, and a second token for one of them. -/
theorem deliveries_alike_when_retried :
    let first : CommitMessage := ⟨7, 0, "a"⟩
    let retry : CommitMessage := ⟨7, 1, "b"⟩
    let forged : CommitMessage := ⟨7, 0, "c"⟩
    let full := (Ledger.start .reject).addAll [first, retry]
    Compatible [first, retry] ∧
      (Ledger.start .reject).acceptAll [.one retry, .batch [first, retry]] = (.ok (), full.2) ∧
      ¬Compatible [first, forged] ∧
      (∃ f, ((Ledger.start .reject).acceptAll [.one forged, .one first]).1 = .error f ∧
        f.kind = .conflictingMessages) ∧
      (full.2.add forged).1 = .error (Ledger.clash forged) ∧ (full.2.add forged).2 = full.2 := by
  intro first retry forged full
  obtain ⟨halike, hintact⟩ := deliveries_alike
  have hc : Compatible [first, retry] := by unfold Compatible; decide
  have hclash : ¬Compatible [first, forged] := by unfold Compatible; decide
  have hforged : (full.2.add forged).1 = .error (Ledger.clash forged) := by rfl
  obtain ⟨l, answer, -, hall⟩ := (halike .reject ∅ [first, retry]).collected hc
  have hretried : Carry [.one retry, .batch [first, retry]] [first, retry] := by
    simp [Carry, messages, or_comm]
  have hforging : Carry [.one forged, .one first] [first, forged] := by
    simp [Carry, messages, or_comm]
  refine ⟨hc, ?_, hclash, (halike .reject ∅ _).refused hclash _ hforging, hforged,
    (hintact _ _ _ hforged).1⟩
  exact (hall _ hretried).1.trans (hall [.batch [first, retry]] (by simp [Carry, messages])).1.symm

end TableExchange
