import Mathlib.Algebra.GroupWithZero.Nat
import TableExchange.Proofs.Write.BlockContents

/-!
The totals that a writer keeps of its batches. Whatever is called and whatever fails, they add up
the batches whose writes succeeded, and nothing else. But they are words of 64 bits: they are the
sums themselves, and never go down, only as long as the sums fit.
-/
namespace TableExchange

variable {β σ υ : Type}

/-- What a writer keeps a total of. Every handle on the totals of a writer reads the same words. -/
inductive Measure
  | bytes
  | records

namespace Measure

def of : Measure → EncodedBatch → Nat
  | bytes, e => e.bytes.length
  | records, e => e.records.toNat

def reading : Measure → BlockWriter υ → UInt64
  | bytes, w => w.bytes
  | records, w => w.records

/-- What a call adds: the measure of its batch, if it is a write that succeeded. -/
def gain (m : Measure) (v : Visit β σ υ) : Nat :=
  (v.encoding?.map m.of).getD 0

def total (m : Measure) (visits : List (Visit β σ υ)) : Nat :=
  (visits.map m.gain).sum

structure Counted (m : Measure) (v : Visit β σ υ) : Prop where
  added : m.reading v.after = m.reading v.before + .ofNat (m.gain v)
  /-- A write that succeeded has encoded its batch. -/
  measured : ∀ codec batch, v.batch? = some (codec, batch) →
    ∃ e, codec.encode batch = .ok e ∧ m.gain v = m.of e
  idle : v.batch? = none → m.gain v = 0

theorem counted_of_kept (m : Measure) {v : Visit β σ υ} (hbatch : v.batch? = none)
    (hkept : m.reading v.after = m.reading v.before) : m.Counted v := by
  have hgain : m.gain v = 0 := by simp [gain, Visit.encoding?, hbatch]
  refine ⟨?_, by simp [hbatch], fun _ => hgain⟩
  rw [hkept, hgain]
  exact (UInt64.add_zero _).symm

theorem counted_of_written (m : Measure) {codec : Codec β} {batch : β} {w w' : BlockWriter υ}
    {x : Exchange σ} {events : List (WriteEvent υ)} {answer : Except Failure Unit}
    (hw : w.Written x codec batch events answer w') (left : Exchange σ) :
    m.Counted ⟨.write codec batch, x, w, .wrote answer, events, w', left⟩ := by
  cases hw with
  | closed hstage => exact m.counted_of_kept rfl rfl
  | unencoded hstage hcode => exact m.counted_of_kept rfl rfl
  | barred hstage hcode hpoint => exact m.counted_of_kept rfl rfl
  | unopened hstage hcode hpoint => exact m.counted_of_kept rfl rfl
  | unsent hcode hup => exact m.counted_of_kept rfl (by cases m <;> rfl)
  | @sent e opening u u' hcode hup =>
    have hgain (events : List (WriteEvent υ)) (w' : BlockWriter υ) :
        m.gain ⟨.write codec batch, x, w, .wrote (.ok ()), events, w', left⟩ = m.of e := by
      simp [gain, Visit.encoding?, Visit.batch?, hcode, Except.toOption]
    refine ⟨?_, ?_, by simp [Visit.batch?]⟩
    · rw [hgain]
      cases m <;> simp [reading, of]
    · rintro codec' batch' ⟨⟩
      exact ⟨e, hcode, hgain _ _⟩

theorem reading_of_ended (m : Measure) {w w' : BlockWriter υ} {x : Exchange σ}
    {events : List (WriteEvent υ)} {answer : Except Failure (Option CommitMessage)}
    (he : w.Ended x events answer w') : m.reading w' = m.reading w := by
  cases he <;> cases m <;> rfl

theorem reading_of_givenUp (m : Measure) {w w' : BlockWriter υ} {events : List (WriteEvent υ)}
    (hg : w.GivenUp events w') : m.reading w' = m.reading w := by
  cases hg <;> cases m <;> rfl

theorem counted (m : Measure) (svc : WriteService σ υ) (call : WriterCall β) (w : BlockWriter υ)
    (x : Exchange σ) : m.Counted (Visit.of svc call w x) := by
  have hmade := Visit.made svc call w x
  cases call with
  | write codec batch =>
    cases hmade with
    | write hw => exact m.counted_of_written hw _
  | commit =>
    cases hmade with
    | commit he => exact m.counted_of_kept rfl (m.reading_of_ended he)
  | abort =>
    cases hmade with
    | abort hg => exact m.counted_of_kept rfl (m.reading_of_givenUp hg)

/-- A call lowers a total exactly if its gain carries the word over. -/
theorem Counted.lowered_iff {m : Measure} {v : Visit β σ υ} (h : m.Counted v) :
    m.reading v.after < m.reading v.before ↔
      UInt64.size ≤ (m.reading v.before).toNat + m.gain v % UInt64.size := by
  have hword := (m.reading v.before).toNat_lt
  rw [h.added, UInt64.lt_iff_toNat_lt, UInt64.toNat_add, UInt64.toNat_ofNat']
  simp only [UInt64.size]
  omega

theorem total_concat (m : Measure) (visits : List (Visit β σ υ)) (v : Visit β σ υ) :
    m.total (visits ++ [v]) = m.total visits + m.gain v := by
  simp [total]

/-- The totals of a writer at any time of its life, and later on. -/
structure Tallied (m : Measure) (svc : WriteService σ υ) (a : Attempt β σ υ) : Prop where
  each : ∀ v ∈ a.visits, m.Counted v
  lowered_iff : ∀ v ∈ a.visits, m.reading v.after < m.reading v.before ↔
    UInt64.size ≤ (m.reading v.before).toNat + m.gain v % UInt64.size
  /-- A total is the sum over the writes that succeeded, as a word. -/
  reads : m.reading a.writer = .ofNat (m.total a.visits)
  exact_iff : (m.reading a.writer).toNat = m.total a.visits ↔ m.total a.visits < UInt64.size
  /-- As long as the sum fits, the total does not go down. -/
  onward : ∀ more, m.total (a.run svc more).visits < UInt64.size →
    m.reading a.writer ≤ m.reading (a.run svc more).writer

theorem run_counted (m : Measure) (svc : WriteService σ υ) {a : Attempt β σ υ}
    (hvisits : ∀ v ∈ a.visits, m.Counted v)
    (hreads : m.reading a.writer = .ofNat (m.total a.visits))
    (calls : List (WriterCall β × Exchange σ)) :
    (∀ v ∈ (a.run svc calls).visits, m.Counted v) ∧
      m.reading (a.run svc calls).writer = .ofNat (m.total (a.run svc calls).visits) := by
  induction calls generalizing a with
  | nil => exact ⟨hvisits, hreads⟩
  | cons c rest ih =>
    have hnew := m.counted svc c.1 a.writer c.2
    refine ih (a := a.take svc c) ?_ ?_
    · exact List.forall_mem_append.mpr ⟨hvisits, List.forall_mem_singleton.mpr hnew⟩
    · rw [Attempt.take, total_concat, UInt64.ofNat_add, ← hreads]
      exact hnew.added

theorem total_le_run (m : Measure) (svc : WriteService σ υ) (a : Attempt β σ υ)
    (calls : List (WriterCall β × Exchange σ)) :
    m.total a.visits ≤ m.total (a.run svc calls).visits := by
  obtain ⟨more, hmore⟩ := a.visits_run svc calls
  simp [total, hmore]

theorem tallied (m : Measure) (svc : WriteService σ υ) {a : Attempt β σ υ}
    (hvisits : ∀ v ∈ a.visits, m.Counted v)
    (hreads : m.reading a.writer = .ofNat (m.total a.visits)) : m.Tallied svc a where
  each := hvisits
  lowered_iff v hv := (hvisits v hv).lowered_iff
  reads := hreads
  exact_iff := by
    rw [hreads, UInt64.toNat_ofNat']
    exact Nat.mod_eq_iff_lt (by decide)
  onward more hfits := by
    obtain ⟨-, hlater⟩ := m.run_counted svc hvisits hreads more
    have hle := m.total_le_run svc a more
    rw [hreads, hlater, UInt64.le_iff_toNat_le, UInt64.toNat_ofNat_of_lt' hfits,
      UInt64.toNat_ofNat_of_lt' (Nat.lt_of_le_of_lt hle hfits)]
    exact hle

end Measure

/-- Whatever is called on a writer and whatever fails, its totals add up the batches whose writes
succeeded, as words of 64 bits. -/
theorem writer_totals_tallied (svc : WriteService σ υ) (request : BlockRequest)
    (calls : List (WriterCall β × Exchange σ)) (m : Measure) :
    m.Tallied svc ((Attempt.start request).run svc calls) := by
  have hempty : ∀ v ∈ (Attempt.start request : Attempt β σ υ).visits, m.Counted v := by
    simp [Attempt.start]
  have hzero : m.reading (Attempt.start request : Attempt β σ υ).writer = .ofNat 0 := by
    cases m <;> rfl
  obtain ⟨hvisits, hreads⟩ := m.run_counted svc hempty hzero calls
  exact m.tallied svc hvisits hreads

/-- An attempt whose one batch claims as many records as a word can hold. -/
def fullAttempt : Attempt EncodedBatch (Rehearsal Memory.Store) Memory.Upload :=
  (Attempt.start linedRequest).run Memory.rehearsed
    [(.write .raw ⟨[97, 98], 18446744073709551615⟩, linedExchange)]

def overfullAttempt : Attempt EncodedBatch (Rehearsal Memory.Store) Memory.Upload :=
  fullAttempt.run Memory.rehearsed [(.write .raw ⟨[99], 1⟩, linedExchange)]

/-- One record too many takes the total of records back to zero, after a write that succeeded. -/
theorem full_total_starts_over :
    Measure.records.reading fullAttempt.writer = 18446744073709551615 ∧
      Measure.records.reading overfullAttempt.writer = 0 ∧
      Measure.records.total overfullAttempt.visits = 18446744073709551616 := by
  decide +kernel

end TableExchange
