import TableExchange.Service.Interface

/-!
Journals of what a service was asked. A journaled service answers as the service itself does and
notes its answers beside its state, so a run can be compared with the requests that it made.
-/
namespace TableExchange

variable {σ τ ε α S : Type}

namespace Exchange

/-- The same surroundings around another service state. -/
def withService (x : Exchange σ) (s : τ) : Exchange τ :=
  { service := s, counters := x.counters, failPoints := x.failPoints, now := x.now,
    alarms := x.alarms, shutdown := x.shutdown }

/-- The surroundings as a view of the service's state shows them. -/
def through (v : τ → σ) (y : Exchange τ) : Exchange σ :=
  y.withService (v y.service)

def watched (ε : Type) (x : Exchange σ) : Exchange (σ × List ε) :=
  x.withService (x.service, [])

def plain (y : Exchange (σ × List ε)) : Exchange σ :=
  y.withService y.service.1

def journal (y : Exchange (σ × List ε)) : List ε :=
  y.service.2

@[simp] theorem plain_watched (x : Exchange σ) : (x.watched ε).plain = x := rfl

@[simp] theorem journal_watched (x : Exchange σ) : (x.watched ε).journal = [] := rfl

@[simp] theorem plain_count (y : Exchange (σ × List ε)) (k : CounterKey) (n : UInt64) :
    (y.count k n).plain = y.plain.count k n := rfl

@[simp] theorem journal_count (y : Exchange (σ × List ε)) (k : CounterKey) (n : UInt64) :
    (y.count k n).journal = y.journal := rfl

@[simp] theorem journal_passPoint (y : Exchange (σ × List ε)) (name : String) :
    (y.passPoint name).2.journal = y.journal := rfl

theorem passPoint_plain_fst (y : Exchange (σ × List ε)) (name : String) :
    (y.plain.passPoint name).1 = (y.passPoint name).1 := rfl

theorem passPoint_watched (x : Exchange σ) (name : String) :
    (x.watched ε).passPoint name = ((x.passPoint name).1, (x.passPoint name).2.watched ε) := rfl

theorem passPoint_plain (y : Exchange (σ × List ε)) (name : String) :
    y.plain.passPoint name = ((y.passPoint name).1, (y.passPoint name).2.plain) := rfl

/-- A request goes to the service as it is. -/
theorem request_of_ask {x x' : Exchange σ} {request : σ → Reply σ α} {answer : Except Failure α}
    (h : x.ask request = (answer, x')) : request x.service = (answer, x'.service) := by
  obtain ⟨rfl, rfl⟩ := Prod.mk.inj h
  rfl

end Exchange

def noted (entry : Except Failure α → ε) (request : σ → Reply σ α) :
    σ × List ε → Reply (σ × List ε) α :=
  fun s => ((request s.1).1, (request s.1).2, s.2 ++ [entry (request s.1).1])

def unnoted (request : σ → Reply σ α) : σ × List ε → Reply (σ × List ε) α :=
  fun s => ((request s.1).1, (request s.1).2, s.2)

namespace Exchange

variable (y : Exchange (σ × List ε)) (entry : Except Failure α → ε) (request : σ → Reply σ α)

theorem ask_plain : y.plain.ask request =
    ((y.ask (noted entry request)).1, (y.ask (noted entry request)).2.plain) := rfl

/-- A noted request is answered as the request itself is, and its answer is noted. -/
theorem ask_noted : ∃ answer y', y.ask (noted entry request) = (answer, y') ∧
    y.plain.ask request = (answer, y'.plain) ∧ y'.journal = y.journal ++ [entry answer] :=
  ⟨_, _, rfl, rfl, rfl⟩

end Exchange

/-- What a step keeps up while it has not settled, the repetition keeps up until it ends. -/
theorem settle_keeps {step : S → Option α × S} {Q : Option α → S → Prop}
    (hstep : ∀ s, Q none s → Q (step s).1 (step s).2) (n : Nat) (s : S) (hs : Q none s) :
    Q (settle step n s).1 (settle step n s).2 := by
  induction n generalizing s with
  | zero => exact hs
  | succ n ih =>
    have hnext := hstep s hs
    rcases hrun : step s with ⟨o, s'⟩
    rw [hrun] at hnext
    cases o with
    | none => simpa only [settle, hrun] using ih s' hnext
    | some a => simpa only [settle, hrun] using hnext

theorem settle_of_settled {step : S → Option α × S} {s : S} {a : α} (h : (step s).1 = some a)
    (n : Nat) : settle step (n + 1) s = step s := by
  rcases hstep : step s with ⟨o, s'⟩
  rw [hstep] at h
  obtain rfl : o = some a := h
  simp [settle, hstep]

@[simp] theorem settle_one (step : S → Option α × S) (s : S) : settle step 1 s = step s := by
  rcases hstep : step s with ⟨o, s'⟩
  cases o <;> simp [settle, hstep]

/-- Steps that have not settled may be followed by more. -/
theorem settle_add {step : S → Option α × S} {m : Nat} {s s' : S}
    (h : settle step m s = (none, s')) (n : Nat) : settle step (m + n) s = settle step n s' := by
  induction m generalizing s with
  | zero =>
    obtain rfl : s = s' := congrArg Prod.snd h
    rw [Nat.zero_add]
  | succ m ih =>
    rw [Nat.add_right_comm]
    rcases hstep : step s with ⟨o, s₁⟩
    cases o with
    | some a => simp [settle, hstep] at h
    | none =>
      have h₁ : settle step m s₁ = (none, s') := by simpa [settle, hstep] using h
      simpa [settle, hstep] using ih h₁

/-- A view that commutes with a step commutes with its repetition. -/
theorem settle_view {T : Type} (view : S → T) {step : S → Option α × S} {step' : T → Option α × T}
    (h : ∀ s, step' (view s) = ((step s).1, view (step s).2)) (n : Nat) (s : S) :
    settle step' n (view s) = ((settle step n s).1, view (settle step n s).2) := by
  induction n generalizing s with
  | zero => rfl
  | succ n ih =>
    rcases hstep : step s with ⟨o, s'⟩
    have hview := h s
    rw [hstep] at hview
    cases o with
    | none => simpa [settle, hview, hstep] using ih s'
    | some a => simp [settle, hview, hstep]

def AtEach (P : List α → α → Prop) (entries : List α) : Prop :=
  ∀ before a after, entries = before ++ a :: after → P before a

theorem exists_mem_concat {P : α → Prop} {entries : List α} {a : α} :
    (∃ b ∈ entries ++ [a], P b) ↔ (∃ b ∈ entries, P b) ∨ P a := by
  simp [or_and_right, exists_or]

theorem atEach_nil (P : List α → α → Prop) : AtEach P [] := by
  intro before a after h
  simp at h

theorem AtEach.earlier {P : List α → α → Prop} {entries later : List α}
    (h : AtEach P (entries ++ later)) : AtEach P entries :=
  fun before a after hsplit => h before a (after ++ later) (by simp [hsplit])

theorem atEach_concat {P : List α → α → Prop} {entries : List α} {a : α} :
    AtEach P (entries ++ [a]) ↔ AtEach P entries ∧ P entries a := by
  constructor
  · intro h
    refine ⟨fun before b after hb => h before b (after ++ [a]) (by simp [hb]), ?_⟩
    exact h entries a [] rfl
  · rintro ⟨hall, hlast⟩ before b after h
    rcases List.eq_nil_or_concat after with rfl | ⟨init, last, rfl⟩
    · obtain ⟨rfl, hab⟩ := List.append_inj' h rfl
      obtain rfl : a = b := by simpa using hab
      exact hlast
    · have h' : entries ++ [a] = (before ++ b :: init) ++ [last] := by simpa using h
      exact hall before b init (List.append_inj' h' rfl).1

end TableExchange
