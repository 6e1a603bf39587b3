import TableExchange.Read.Listing

/-!
Dispensers share one listing among workers. Pulls are served one after another, so every split is
handed out once; after the end every pull yields nothing.
-/

namespace TableExchange

/-- A shared listing, and whether its end was handed out. -/
structure Dispenser where
  listing : Listing
  finished : Bool := false
deriving DecidableEq, Repr

namespace Dispenser

def start (session : TableSession) (scope : Scope) : Dispenser :=
  { listing := .start session scope }

/-- Hands out the next split, or nothing once the end was reached. -/
def next {σ : Type} (svc : ReadService σ) (rounds : Nat) (d : Dispenser) (x : Exchange σ) :
    Option (Except Failure (Option Split)) × Dispenser × Exchange σ :=
  if d.finished then (some (.ok none), d, x)
  else
    match d.listing.nextSplit svc rounds x with
    | (some (.ok none), l, x) => (some (.ok none), ⟨l, true⟩, x)
    | (answer, l, x) => (answer, { d with listing := l }, x)

/-- A worker: pulls until nothing comes or a pull fails. -/
def work {σ : Type} (svc : ReadService σ) (rounds : Nat) :
    Nat → Dispenser → Exchange σ → Except Failure (List Split) × Dispenser × Exchange σ
  | 0, d, x => (.ok [], d, x)
  | items + 1, d, x =>
    match d.next svc rounds x with
    | (some (.ok (some s)), d, x) =>
      let (rest, d, x) := work svc rounds items d x
      (rest.map (s :: ·), d, x)
    | (some (.error f), d, x) => (.error f, d, x)
    | (_, d, x) => (.ok [], d, x)

/-- Several workers on one dispenser: all their splits in order, or the first failure. -/
def workAll {σ : Type} (svc : ReadService σ) (rounds items : Nat) :
    Nat → Dispenser → Exchange σ → Except Failure (List Split) × Dispenser × Exchange σ
  | 0, d, x => (.ok [], d, x)
  | workers + 1, d, x =>
    let (mine, d, x) := d.work svc rounds items x
    let (others, d, x) := workAll svc rounds items workers d x
    let all := match mine, others with
      | .ok a, .ok b => .ok (Split.sort (a ++ b))
      | .error f, _ => .error f
      | _, .error f => .error f
    (all, d, x)

@[simp] theorem next_of_finished {σ : Type} (svc : ReadService σ) (rounds : Nat) {d : Dispenser}
    (x : Exchange σ) (h : d.finished = true) : d.next svc rounds x = (some (.ok none), d, x) := by
  simp [next, h]

end Dispenser

end TableExchange
