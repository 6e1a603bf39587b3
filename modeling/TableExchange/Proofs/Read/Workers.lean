import TableExchange.Proofs.Read.Stretches
import TableExchange.Session.ReadSession

/-!
Workers that share a dispenser. A call holds the lock from its first round to its answer, and waits
until then without an effect; between two rounds anyone may move. Taken in the order of the lock,
the answers are those of a single caller who pulls the listing until nothing comes.
-/
namespace TableExchange

variable {ω σ : Type}

structure Serving (ω : Type) where
  worker : ω
  answer : Except Failure (Option Split)
  fetches : List Fetch

/-- A dispenser among workers: the call that holds the lock, if there is one, with the requests it
has made; the workers of all calls that got the lock; and the calls that were answered. -/
structure Pool (ω σ : Type) where
  dispenser : Dispenser
  exchange : Exchange σ
  holder : Option (ω × List Fetch) := none
  entered : List ω := []
  served : List (Serving ω) := []

/-- A call gets the lock, or the call that holds it goes on by one round. -/
inductive PoolMove (ω : Type)
  | acquire (worker : ω)
  | advance

namespace Pool

def start (d : Dispenser) (x : Exchange σ) : Pool ω σ :=
  { dispenser := d, exchange := x }

/-- Gives the lock to a call, unless another one holds it. -/
def acquire (p : Pool ω σ) (worker : ω) : Pool ω σ :=
  match p.holder with
  | some _ => p
  | none => { p with holder := some (worker, []), entered := p.entered ++ [worker] }

/-- One round of the call that holds the lock. -/
def advance (svc : ReadService σ) (p : Pool ω σ) : Pool ω σ :=
  match p.holder with
  | none => p
  | some (worker, fetches) =>
    let fetches := fetches ++
      (p.dispenser.next svc.journaled 1 (p.exchange.watched Fetch)).2.2.journal
    match p.dispenser.next svc 1 p.exchange with
    | (none, d, x) => { p with dispenser := d, exchange := x, holder := some (worker, fetches) }
    | (some answer, d, x) =>
      { p with
        dispenser := d, exchange := x, holder := none
        served := p.served ++ [⟨worker, answer, fetches⟩] }

def move (svc : ReadService σ) (p : Pool ω σ) : PoolMove ω → Pool ω σ
  | .acquire worker => p.acquire worker
  | .advance => p.advance svc

def run (svc : ReadService σ) (p : Pool ω σ) (moves : List (PoolMove ω)) : Pool ω σ :=
  moves.foldl (move svc) p

/-- All requests, those of the call that holds the lock last. -/
def requests (p : Pool ω σ) : List Fetch :=
  p.served.flatMap (·.fetches) ++ p.holder.elim [] (·.2)

def handed (p : Pool ω σ) : List Split :=
  p.served.flatMap fun s => (Handout.ofSplit (some s.answer)).splits

/-- Some call came away with nothing. -/
def EndMet (served : List (Serving ω)) : Prop :=
  ∃ s ∈ served, s.answer = .ok none

end Pool

def saysEnd : Option (Except Failure (Option Split)) → Bool
  | some (.ok none) => true
  | _ => false

@[simp] theorem saysEnd_none : saysEnd none = false := rfl

theorem saysEnd_some_iff (a : Except Failure (Option Split)) :
    saysEnd (some a) = true ↔ a = .ok none := by
  rcases a with f | _ | s <;> simp [saysEnd]

namespace Dispenser

theorem next_of_open (svc : ReadService σ) (rounds : Nat) {d : Dispenser}
    (h : d.finished = false) {x y : Exchange σ} {answer : Option (Except Failure (Option Split))}
    {l : Listing} (hpull : d.listing.nextSplit svc rounds x = (answer, l, y)) :
    d.next svc rounds x = (answer, ⟨l, saysEnd answer⟩, y) := by
  simp only [next, h, Bool.false_eq_true, if_false, hpull]
  rcases answer with _ | f | _ | s <;> rfl

/-- One round on a dispenser that has not ended is one step of its listing. -/
theorem round (svc : ReadService σ) {d : Dispenser} (h : d.finished = false) (x : Exchange σ) :
    ∃ answer l y, d.next svc 1 x = (answer, ⟨l, saysEnd answer⟩, y) ∧
      d.listing.nextSplit svc 1 x = (answer, l, y) ∧
      Listing.Stepped d.listing (d.next svc.journaled 1 (x.watched Fetch)).2.2.journal answer
        l := by
  obtain ⟨new, hjournal, hs⟩ := d.listing.stepped svc (x.watched Fetch)
  have hplain := d.listing.nextSplit_plain svc 1 (x.watched Fetch)
  have hone : d.listing.nextSplit svc.journaled 1 (x.watched Fetch) =
      Listing.stepSplit svc.journaled (d.listing, x.watched Fetch) := settle_one _ _
  rw [Exchange.journal_watched, List.nil_append] at hjournal
  rw [Exchange.plain_watched, hone] at hplain
  rcases hstep : Listing.stepSplit svc.journaled (d.listing, x.watched Fetch) with ⟨answer, l, y⟩
  rw [hstep] at hjournal hs hplain hone
  refine ⟨answer, l, y.plain, next_of_open svc 1 h hplain, hplain, ?_⟩
  rw [next_of_open svc.journaled 1 h hone, hjournal]
  exact hs

end Dispenser

/-- What a single caller gets who pulls a listing in sequence, until nothing comes. -/
inductive SolePulls (svc : ReadService σ) (l : Listing) (x : Exchange σ) :
    List (Except Failure (Option Split)) → Listing → Exchange σ → Prop
  | start : SolePulls svc l x [] l x
  | pull {answers : List (Except Failure (Option Split))} {a : Except Failure (Option Split)}
      {l₁ l₂ : Listing} {x₁ x₂ : Exchange σ} (rounds : Nat) (h : SolePulls svc l x answers l₁ x₁)
      (hopen : .ok none ∉ answers) (hpull : l₁.nextSplit svc rounds x₁ = (some a, l₂, x₂)) :
      SolePulls svc l x (answers ++ [a]) l₂ x₂

namespace Pool

structure ServesAsOne (svc : ReadService σ) (l : Listing) (x : Exchange σ) (p : Pool ω σ) :
    Prop where
  /-- Calls are answered in the order in which they got the lock. -/
  inOrder : p.served.map (·.worker) ++ p.holder.toList.map (·.1) = p.entered
  /-- The answers are those of a single caller; after nothing came, nothing comes. -/
  sole : ∃ answers l' x' n, SolePulls svc l x answers l' x' ∧
    p.served.map (·.answer) = answers ++ List.replicate n (.ok none) ∧
    (0 < n → .ok none ∈ answers)
  /-- No split of an accepted page is lost or skipped, and none is handed out twice. -/
  conserved : p.handed ++ p.dispenser.listing.buffered =
    (accepted p.requests).flatMap (·.splits)
  ascending : (p.handed.map (·.key)).Pairwise (· < ·)
  /-- The dispenser ends when nothing came, and not by a failure. -/
  ends : p.dispenser.finished = true ↔ EndMet p.served
  drained : EndMet p.served → p.dispenser.listing.buffered = []
  /-- Once nothing came, every call comes away with nothing and makes no request. -/
  after : AtEach (fun before s => EndMet before → s.answer = .ok none ∧ s.fetches = []) p.served
  /-- No call fails because the listing was exhausted, unless the service says so itself. -/
  unexhausted : ∀ s ∈ p.served, ∀ f, s.answer = .error f → f.kind = .listingExhausted →
    ∃ marker, ⟨marker, .error f⟩ ∈ s.fetches

/-- The invariant of a pool. The call that holds the lock may have made some rounds of a pull. -/
structure Tracked (svc : ReadService σ) (l : Listing) (x : Exchange σ) (p : Pool ω σ) : Prop where
  inOrder : p.served.map (·.worker) ++ p.holder.toList.map (·.1) = p.entered
  tracks : p.dispenser.listing.Tracks p.requests p.handed
  reported : p.dispenser.finished = true ↔ p.dispenser.listing.stage = .reported
  ends : p.dispenser.finished = true ↔ EndMet p.served
  idle : p.dispenser.finished = true → p.holder.elim [] (·.2) = []
  sole : ∃ answers l' x' n rounds, SolePulls svc l x answers l' x' ∧
    p.served.map (·.answer) = answers ++ List.replicate n (.ok none) ∧
    (p.dispenser.finished = true → .ok none ∈ answers) ∧
    (p.dispenser.finished = false → n = 0 ∧
      l'.nextSplit svc rounds x' = (none, p.dispenser.listing, p.exchange))
  after : AtEach (fun before s => EndMet before → s.answer = .ok none ∧ s.fetches = []) p.served
  unexhausted : ∀ s ∈ p.served, ∀ f, s.answer = .error f → f.kind = .listingExhausted →
    ∃ marker, ⟨marker, .error f⟩ ∈ s.fetches

theorem tracked_start (svc : ReadService σ) (session : TableSession) (scope : Scope)
    (x : Exchange σ) :
    (start (.start session scope) x : Pool ω σ).Tracked svc (.start session scope) x where
  inOrder := rfl
  tracks := Listing.tracks_start session scope
  reported := by simp [start, Dispenser.start, Listing.start]
  ends := by simp [start, Dispenser.start, EndMet]
  idle := fun _ => rfl
  sole := ⟨[], _, _, 0, 0, .start, rfl, by simp [start, Dispenser.start], fun _ => ⟨rfl, rfl⟩⟩
  after := atEach_nil _
  unexhausted := by simp [start]

theorem endMet_concat (served : List (Serving ω)) (s : Serving ω) :
    EndMet (served ++ [s]) ↔ EndMet served ∨ s.answer = .ok none :=
  exists_mem_concat

variable {svc : ReadService σ} {l : Listing} {x : Exchange σ} {p : Pool ω σ}

theorem Tracked.acquire (h : p.Tracked svc l x) (worker : ω) :
    (p.acquire worker).Tracked svc l x := by
  cases hh : p.holder with
  | some holder => simpa only [Pool.acquire, hh] using h
  | none =>
    have hrequests : ({ p with holder := some (worker, []), entered := p.entered ++ [worker] } :
        Pool ω σ).requests = p.requests := by simp [requests, hh]
    have hentered := h.inOrder
    simp only [hh, Option.toList_none, List.map_nil, List.append_nil] at hentered
    simp only [Pool.acquire, hh]
    exact ⟨by simp [hentered], hrequests ▸ h.tracks, h.reported, h.ends, fun _ => rfl, h.sole,
      h.after, h.unexhausted⟩

/-- A call that finds the dispenser ended is answered at once. -/
theorem Tracked.advance_finished (h : p.Tracked svc l x) (hd : p.dispenser.finished = true) :
    (p.advance svc).Tracked svc l x := by
  cases hh : p.holder with
  | none => simpa only [Pool.advance, hh] using h
  | some holder =>
    obtain ⟨worker, fetches⟩ := holder
    have hidle := h.idle hd
    rw [hh] at hidle
    obtain rfl : fetches = [] := hidle
    have hadvance : p.advance svc = { p with
        holder := none, served := p.served ++ [⟨worker, .ok none, []⟩] } := by
      simp [Pool.advance, hh, hd]
    have hend : EndMet (p.served ++ [⟨worker, .ok none, []⟩]) :=
      (endMet_concat _ _).mpr (.inr rfl)
    obtain ⟨answers, l', x', n, rounds, hsole, hanswers, hmet, _⟩ := h.sole
    rw [hadvance]
    constructor
    · simpa [hh] using h.inOrder
    · simpa [requests, handed, hh, Handout.ofSplit] using h.tracks
    · exact h.reported
    · exact iff_of_true hd hend
    · exact fun _ => rfl
    · refine ⟨answers, l', x', n + 1, rounds, hsole, ?_, hmet, fun hopen => ?_⟩
      · simp [hanswers, List.replicate_succ']
      · exact absurd hd (by simp [show p.dispenser.finished = false from hopen])
    · exact atEach_concat.mpr ⟨h.after, fun _ => ⟨rfl, rfl⟩⟩
    · intro s hs f hf
      rcases List.mem_append.mp hs with hs | hs
      · exact h.unexhausted s hs f hf
      · obtain rfl := List.mem_singleton.mp hs
        simp at hf

theorem Tracked.advance_open (h : p.Tracked svc l x) (hd : p.dispenser.finished = false) :
    (p.advance svc).Tracked svc l x := by
  cases hh : p.holder with
  | none => simpa only [Pool.advance, hh] using h
  | some holder =>
    obtain ⟨worker, fetches⟩ := holder
    obtain ⟨answer, l₁, y, hnext, hpull, hs⟩ := Dispenser.round svc hd p.exchange
    have hopen : ¬EndMet p.served := by simp [← h.ends, hd]
    have hstage : p.dispenser.listing.stage ≠ .reported := by simp [← h.reported, hd]
    have hreported := hs.reported_iff
    have htracks := h.tracks.stepped hs
    obtain ⟨answers, l', x', n, rounds, hsole, hanswers, -, hpulling⟩ := h.sole
    obtain ⟨rfl, hrounds⟩ := hpulling hd
    -- The single caller's pull is as far as this call's, and takes the same round next.
    have hlong := settle_add hrounds 1
    rw [List.replicate_zero, List.append_nil] at hanswers
    have hrequests : p.requests = p.served.flatMap (·.fetches) ++ fetches := by
      simp [requests, hh]
    rw [hrequests, List.append_assoc] at htracks
    cases answer with
    | none =>
      have hadvance : p.advance svc = { p with
          dispenser := ⟨l₁, false⟩, exchange := y
          holder := some (worker, fetches ++
            (p.dispenser.next svc.journaled 1 (p.exchange.watched Fetch)).2.2.journal) } := by
        simp [Pool.advance, hh, hnext]
      rw [hadvance]
      constructor
      · simpa [hh] using h.inOrder
      · simpa [requests, handed] using htracks
      · simpa [hstage] using hreported
      · simpa using hopen
      · simp
      · exact ⟨answers, l', x', 0, rounds + 1, hsole, by simpa using hanswers, by simp,
          fun _ => ⟨rfl, hlong.trans hpull⟩⟩
      · exact h.after
      · exact h.unexhausted
    | some a =>
      have hadvance : p.advance svc = { p with
          dispenser := ⟨l₁, saysEnd (some a)⟩, exchange := y, holder := none
          served := p.served ++ [⟨worker, a, fetches ++
            (p.dispenser.next svc.journaled 1 (p.exchange.watched Fetch)).2.2.journal⟩] } := by
        simp only [Pool.advance, hh, hnext]
      have hfinished := saysEnd_some_iff a
      have hunmet : .ok none ∉ answers := by
        rw [← hanswers]
        intro hmem
        obtain ⟨s, hs, hnone⟩ := List.mem_map.mp hmem
        exact hopen ⟨s, hs, hnone⟩
      rw [hadvance]
      constructor
      · simpa [hh] using h.inOrder
      · simpa [requests, handed] using htracks
      · simp only [hfinished]
        simpa [hstage] using hreported.symm
      · simp only [hfinished, endMet_concat]
        simp [hopen]
      · exact fun _ => rfl
      · have hpulled := hlong.trans hpull
        refine ⟨answers ++ [a], l₁, y, 0, 0, .pull (rounds + 1) hsole hunmet hpulled, ?_, ?_,
          fun _ => ⟨rfl, rfl⟩⟩
        · simp [hanswers]
        · intro hend
          simp [hfinished.mp hend]
      · exact atEach_concat.mpr ⟨h.after, fun hmet => absurd hmet hopen⟩
      · intro s hmem f hf hkind
        rcases List.mem_append.mp hmem with hmem | hmem
        · exact h.unexhausted s hmem f hf hkind
        · obtain rfl := List.mem_singleton.mp hmem
          obtain rfl : a = .error f := hf
          obtain ⟨marker, hmarker⟩ := h.tracks.exhausted_by_service hstage hs hkind
          exact ⟨marker, List.mem_append_right _ hmarker⟩

theorem Tracked.run (h : p.Tracked svc l x) (moves : List (PoolMove ω)) :
    (p.run svc moves).Tracked svc l x := by
  induction moves generalizing p with
  | nil => exact h
  | cons m rest ih =>
    apply ih
    cases m with
    | acquire worker => exact h.acquire worker
    | advance =>
      cases hd : p.dispenser.finished with
      | false => exact h.advance_open hd
      | true => exact h.advance_finished hd

theorem Tracked.servesAsOne (h : p.Tracked svc l x) : p.ServesAsOne svc l x where
  inOrder := h.inOrder
  sole := by
    obtain ⟨answers, l', x', n, rounds, hsole, hanswers, hmet, hpulling⟩ := h.sole
    refine ⟨answers, l', x', n, hsole, hanswers, fun hn => ?_⟩
    cases hd : p.dispenser.finished with
    | false => simp [(hpulling hd).1] at hn
    | true => exact hmet hd
  conserved := h.tracks.conserved
  ascending := h.tracks.ascending
  ends := h.ends
  drained hmet := h.tracks.drained (h.reported.mp (h.ends.mpr hmet))
  after := h.after
  unexhausted := h.unexhausted

end Pool

/-- However workers share the dispenser of a read session, they are served as one caller would be
who pulls the session's listing. -/
theorem run_servesAsOne (svc : ReadService σ) (s : ReadSession) (x : Exchange σ)
    (moves : List (PoolMove ω)) :
    ((Pool.start s.dispenser x).run svc moves).ServesAsOne svc s.listing x :=
  ((Pool.tracked_start svc s.snapshot s.scope x).run moves).servesAsOne

def misledPool : Pool Nat (List (Except Failure SplitPage)) :=
  (Pool.start (.start tapedSession {})
    { service := [.error (.of .listingExhausted "the service says so"),
        .ok ⟨[⟨"a", "1"⟩], none, none⟩] }).run .taped
      [.acquire 0, .advance, .acquire 1, .advance, .advance]

/-- A call may fail because the listing was exhausted: the service's word is passed on. -/
theorem misled_call_fails_exhausted :
    ¬∀ s ∈ misledPool.served, ∀ f, s.answer = .error f → f.kind ≠ .listingExhausted := by
  intro h
  have hanswers : misledPool.served.map (·.answer) =
      [.error (.of .listingExhausted "the service says so"), .ok (some ⟨"a", "1"⟩)] := rfl
  have hmem : .error (.of .listingExhausted "the service says so") ∈
      misledPool.served.map (·.answer) := by
    rw [hanswers]
    exact List.mem_cons_self
  obtain ⟨s, hs, hf⟩ := List.mem_map.mp hmem
  exact h s hs _ hf rfl

end TableExchange
