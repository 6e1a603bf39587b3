import Mathlib.Data.List.Nodup
import TableExchange.Proofs.Write.Determination

/-!
What becomes of the choices that a ledger is told. A choice for a block with a message is heeded:
the answer has the message of the chosen attempt for the block, or fails because there is none. A
choice for a block without a message is never looked at, whatever else was added or chosen.
-/
namespace TableExchange

namespace Ledger

variable {P : UInt64 → Prop} {l l' : Ledger}

/-- Two ledgers differ at most in the choices for blocks outside a set. -/
structure AgreeOn (P : UInt64 → Prop) (l l' : Ledger) : Prop where
  policy : l.policy = l'.policy
  held : l.held = l'.held
  chosen : ∀ block, P block → l.chosen.get? block = l'.chosen.get? block

theorem AgreeOn.refl (P : UInt64 → Prop) (l : Ledger) : AgreeOn P l l :=
  ⟨rfl, rfl, fun _ _ => rfl⟩

theorem AgreeOn.add (h : AgreeOn P l l') (m : CommitMessage) :
    (l.add m).1 = (l'.add m).1 ∧ AgreeOn P (l.add m).2 (l'.add m).2 := by
  have hattempts : l.attemptsOf m.block = l'.attemptsOf m.block := by
    rw [attemptsOf, attemptsOf, h.held]
  simp only [Ledger.add, message?, hattempts]
  cases (l'.attemptsOf m.block).get? m.attempt with
  | none =>
    refine ⟨rfl, h.policy, ?_, h.chosen⟩
    simp only [h.held]
  | some present =>
    dsimp only
    by_cases hsame : present = m
    · rw [if_pos hsame, if_pos hsame]
      exact ⟨rfl, h⟩
    · rw [if_neg hsame, if_neg hsame]
      exact ⟨rfl, h⟩

/-- What is taken in does not depend on the choices. -/
theorem AgreeOn.takeIn (h : AgreeOn P l l') (ms : List CommitMessage) :
    l.taken ms = l'.taken ms ∧ AgreeOn P (l.addAll ms).2 (l'.addAll ms).2 := by
  induction ms generalizing l l' with
  | nil => exact ⟨rfl, h⟩
  | cons m rest ih =>
    obtain ⟨hanswer, hafter⟩ := h.add m
    rcases hadd : l.add m with ⟨answer, after⟩
    rcases hadd' : l'.add m with ⟨answer', after'⟩
    rw [hadd, hadd'] at hanswer hafter
    obtain rfl : answer = answer' := hanswer
    simp only [taken, addAll, hadd, hadd']
    cases answer with
    | error f => exact ⟨rfl, hafter⟩
    | ok done =>
      obtain ⟨htaken, hrest⟩ := ih hafter
      exact ⟨congrArg (m :: ·) htaken, hrest⟩

theorem AgreeOn.choose (h : AgreeOn P l l') (block : UInt64) (attempt : UInt32) :
    AgreeOn P (l.choose block attempt) (l'.choose block attempt) := by
  refine ⟨h.policy, h.held, fun b hb => ?_⟩
  simp only [Ledger.choose, SortedMap.get?_insert, h.chosen b hb]

/-- A choice for a block outside the set makes no difference on the set. -/
theorem AgreeOn.choose_outside (h : AgreeOn P l l') {block : UInt64} (hout : ¬P block)
    (attempt : UInt32) : AgreeOn P (l.choose block attempt) l' := by
  refine ⟨h.policy, h.held, fun b hb => ?_⟩
  have hne : b ≠ block := by
    rintro rfl
    exact hout hb
  rw [Ledger.choose, SortedMap.get?_insert, if_neg hne]
  exact h.chosen b hb

/-- An answer depends on the choices for the blocks with a message only. -/
theorem AgreeOn.resolve_eq (h : AgreeOn (· ∈ l.held.keys) l l') : l.resolve = l'.resolve := by
  have hblocks : ∀ e ∈ l.held.entries, l.resolveBlock e.1 e.2 = l'.resolveBlock e.1 e.2 := by
    intro e he
    have hkey : e.1 ∈ l.held.keys := List.mem_map_of_mem he
    simp only [resolveBlock, h.chosen e.1 hkey, h.policy]
  simp only [resolve, ← h.held, List.map_congr_left hblocks]

end Ledger

/-- A call is not a choice for a block outside a set. -/
def LedgerCall.bearsOn (blocks : List UInt64) : LedgerCall → Bool
  | .deliver _ => true
  | .choose block _ => decide (block ∈ blocks)

namespace Gathering

variable {g g' : Gathering}

/-- Runs that differ in choices outside a set of blocks take in the same and agree on the set. -/
theorem run_bearsOn (blocks : List UInt64) (calls : List LedgerCall)
    (hledger : Ledger.AgreeOn (· ∈ blocks) g.ledger g'.ledger) (htaken : g.taken = g'.taken) :
    Ledger.AgreeOn (· ∈ blocks) (g.run calls).ledger
        (g'.run (calls.filter (LedgerCall.bearsOn blocks))).ledger ∧
      (g.run calls).taken = (g'.run (calls.filter (LedgerCall.bearsOn blocks))).taken := by
  induction calls generalizing g g' with
  | nil => exact ⟨hledger, htaken⟩
  | cons c rest ih =>
    cases c with
    | deliver d =>
      obtain ⟨htook, hagree⟩ := hledger.takeIn d.messages
      rw [← Ledger.accept_eq, ← Ledger.accept_eq] at hagree
      refine @ih (g.take (.deliver d)) (g'.take (.deliver d)) hagree ?_
      simp only [Gathering.take, htaken, htook]
    | choose block attempt =>
      by_cases hin : block ∈ blocks
      · rw [List.filter_cons_of_pos (by simpa [LedgerCall.bearsOn] using hin)]
        exact @ih (g.take (.choose block attempt)) (g'.take (.choose block attempt))
          (hledger.choose block attempt) htaken
      · rw [List.filter_cons_of_neg (by simpa [LedgerCall.bearsOn] using hin)]
        exact ih (g := g.take (.choose block attempt))
          (hledger.choose_outside hin attempt) htaken

def blocks (g : Gathering) : List UInt64 :=
  g.taken.map (·.block)

theorem mem_blocks {block : UInt64} : block ∈ g.blocks ↔ g.holdings.HasBlock block :=
  List.mem_map

structure HeedsChoices (g : Gathering) (answer : Except Failure (List CommitMessage)) : Prop where
  /-- A success has the message of the chosen attempt for the block, and no other. -/
  returns : ∀ messages, answer = .ok messages → ∀ block ∈ g.blocks, ∀ attempt,
    g.choice block = some attempt →
    ∃ m ∈ g.taken, m.block = block ∧ m.attempt = attempt ∧
      ∀ n, n ∈ messages ∧ n.block = block ↔ n = m
  /-- A state is blamed exactly for a chosen attempt that is missing beside others. -/
  refuses : (∃ f, answer = .error f ∧ .invalidState ∈ f.kinds) ↔
    ∃ block ∈ g.blocks, ∃ attempt, g.choice block = some attempt ∧
      ∀ m ∈ g.taken, m.block = block → m.attempt ≠ attempt

end Gathering

namespace Holdings

variable {h : Holdings} {answer : Except Failure (List CommitMessage)}

theorem settled_of_choice {block : UInt64} {attempt : UInt32}
    (hchoice : h.choice block = some attempt) :
    h.Settled block ↔ ∃ m, h.held m ∧ m.block = block ∧ m.attempt = attempt := by
  simp only [Settled, hchoice]

/-- The messages of a success that are of a block with a choice are of the chosen attempt. -/
theorem Determines.attempt_eq (hd : h.Determines answer) {messages : List CommitMessage}
    (hok : answer = .ok messages) {m : CommitMessage} (hm : m ∈ messages) {attempt : UInt32}
    (hchoice : h.choice m.block = some attempt) : h.held m ∧ m.attempt = attempt := by
  obtain ⟨-, -, hcounts⟩ := hd.messages messages hok
  obtain ⟨hheld, hcount⟩ := (hcounts m).mp hm
  simp only [hchoice] at hcount
  exact ⟨hheld, hcount⟩

/-- A success has one message of a block at most. -/
theorem Determines.block_inj (hd : h.Determines answer) {messages : List CommitMessage}
    (hok : answer = .ok messages) {m n : CommitMessage} (hm : m ∈ messages) (hn : n ∈ messages)
    (hblock : m.block = n.block) : m = n := by
  obtain ⟨hascending, -, -⟩ := hd.messages messages hok
  have hnodup : (messages.map (·.block)).Nodup := by
    refine hascending.imp ?_
    intro a b hlt heq
    rw [heq] at hlt
    exact UInt64.lt_irrefl b hlt
  exact List.inj_on_of_nodup_map hnodup hm hn hblock

/-- A state is blamed exactly for a choice that no message meets. -/
theorem Determines.invalidState_iff (hd : h.Determines answer) :
    (∃ f, answer = .error f ∧ .invalidState ∈ f.kinds) ↔
      ∃ block, (h.choice block).isSome ∧ h.HasBlock block ∧ ¬h.Settled block := by
  have hflaw : ∀ block, h.flaw block = .invalidState ↔ (h.choice block).isSome := by
    intro block
    unfold flaw
    split <;> simp_all
  constructor
  · rintro ⟨f, herror, hkind⟩
    obtain ⟨blocks, -, hblocks, hkinds⟩ := hd.failures f herror
    rw [hkinds, List.mem_map] at hkind
    obtain ⟨block, hmem, hblame⟩ := hkind
    obtain ⟨hhas, hunsettled⟩ := (hblocks block).mp hmem
    exact ⟨block, (hflaw block).mp hblame, hhas, hunsettled⟩
  · rintro ⟨block, hchoice, hhas, hunsettled⟩
    cases hanswer : answer with
    | ok messages =>
      exact absurd (hd.succeeds.mp ⟨messages, hanswer⟩ block hhas) hunsettled
    | error f =>
      obtain ⟨blocks, -, hblocks, hkinds⟩ := hd.failures f hanswer
      refine ⟨f, rfl, ?_⟩
      rw [hkinds, List.mem_map]
      exact ⟨block, (hblocks block).mpr ⟨hhas, hunsettled⟩, (hflaw block).mpr hchoice⟩

end Holdings

namespace Gathering

variable {g : Gathering}

theorem Tracked.heedsChoices (h : g.Tracked) : g.HeedsChoices g.ledger.resolve := by
  have hd : g.holdings.Determines g.ledger.resolve := h.holdings ▸ h.filed.determined
  constructor
  · intro messages hok block hblock attempt hchoice
    obtain ⟨-, hblocks, -⟩ := hd.messages messages hok
    obtain ⟨m, hm, rfl⟩ := List.mem_map.mp ((hblocks block).mpr (mem_blocks.mp hblock))
    obtain ⟨hheld, hattempt⟩ := hd.attempt_eq hok hm hchoice
    refine ⟨m, hheld, rfl, hattempt, fun n => ⟨?_, ?_⟩⟩
    · rintro ⟨hn, hsame⟩
      exact hd.block_inj hok hn hm hsame
    · rintro rfl
      exact ⟨hm, rfl⟩
  · rw [hd.invalidState_iff]
    refine exists_congr fun block => ?_
    constructor
    · rintro ⟨hchosen, hhas, hunsettled⟩
      obtain ⟨attempt, hchoice⟩ := Option.isSome_iff_exists.mp hchosen
      refine ⟨mem_blocks.mpr hhas, attempt, hchoice, fun m hm hmb hma => hunsettled ?_⟩
      exact (Holdings.settled_of_choice hchoice).mpr ⟨m, hm, hmb, hma⟩
    · rintro ⟨hblock, attempt, hchoice, hmissing⟩
      refine ⟨Option.isSome_iff_exists.mpr ⟨attempt, hchoice⟩, mem_blocks.mp hblock, ?_⟩
      rw [Holdings.settled_of_choice hchoice]
      rintro ⟨m, hm, hmb, hma⟩
      exact hmissing m hm hmb hma

/-- The blocks of a ledger are those that its callers know of. -/
theorem Tracked.mem_keys_iff (h : g.Tracked) (block : UInt64) :
    block ∈ g.ledger.held.keys ↔ block ∈ g.blocks := by
  have hheld : g.ledger.Holds = (· ∈ g.taken) := congrArg Holdings.held h.holdings
  rw [h.filed.mem_keys_iff, hheld, mem_blocks]
  rfl

end Gathering

open Gathering in
/-- Whatever was added and chosen, in whatever order: a choice for a block with a message is heeded,
and the choices for all other blocks could as well not have been made. -/
theorem choices_heeded_where_held (policy : ConflictPolicy) (calls : List LedgerCall) :
    let g := (start policy).run calls
    let g' := (start policy).run (calls.filter (LedgerCall.bearsOn g.blocks))
    g.HeedsChoices g.ledger.resolve ∧ g'.taken = g.taken ∧
      g'.ledger.resolve = g.ledger.resolve := by
  intro g g'
  have htracked : g.Tracked := (tracked_start policy).run calls
  obtain ⟨hagree, htaken⟩ := run_bearsOn g.blocks calls (.refl _ (start policy).ledger) rfl
  have hkeys : Ledger.AgreeOn (· ∈ g.ledger.held.keys) g.ledger g'.ledger :=
    ⟨hagree.policy, hagree.held, fun block hblock =>
      hagree.chosen block ((htracked.mem_keys_iff block).mp hblock)⟩
  exact ⟨htracked.heedsChoices, htaken.symm, hkeys.resolve_eq.symm⟩

open Gathering in
/-- A choice that is not looked at: the chosen attempt of a block has no message, and the ledger
answers with the message of another block. -/
theorem choice_overlooked :
    let m : CommitMessage := ⟨0, 0, "t"⟩
    let g := (start .reject).run [.deliver (.one m), .choose 1 2]
    g.choice 1 = some 2 ∧ (∀ n ∈ g.taken, n.block = 1 → n.attempt ≠ 2) ∧
      g.ledger.resolve = .ok [m] := by
  refine ⟨rfl, ?_, rfl⟩
  decide

end TableExchange
