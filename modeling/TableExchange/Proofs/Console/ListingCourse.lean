import TableExchange.Console.Command
import TableExchange.Proofs.Read.Drains

/-!
What the listing of a console command asks for: the pages that its pulls fetch, and nothing else.
What it prints are the splits that were handed out, and it ends as the pulls do.
-/
namespace TableExchange

variable {σ : Type}

/-- A request about a read session or its splits, with its answer. Of a request for a page, only
what the listing itself knows is kept. -/
inductive ReadEvent
  | lookingUp (table : TableRef) (id : String) (kind : SessionKind)
      (answer : Except Failure TableSession)
  | creating (table : TableRef) (scope : Scope) (answer : Except Failure TableSession)
  | paging (fetch : Fetch)
  | ranging (session : TableSession) (lower : String) (upper : Option String)
      (answer : Except Failure (List Split))
  | releasing (session : TableSession) (answer : Except Failure Unit)

def ReadEvent.releases : ReadEvent → Bool
  | releasing _ _ => true
  | _ => false

namespace ReadService

def recorded (svc : ReadService σ) : ReadService (σ × List ReadEvent) where
  lookUp t i k := noted (.lookingUp t i k) (svc.lookUp t i k)
  release s := noted (.releasing s) (svc.release s)
  createRead t c := noted (.creating t c) (svc.createRead t c)
  listSplits s c m := noted (fun answer => .paging ⟨m, answer⟩) (svc.listSplits s c m)
  listRange s l u := noted (.ranging s l u) (svc.listRange s l u)

theorem pagesThrough_recorded (svc : ReadService σ) : svc.PagesThrough svc.recorded Prod.fst :=
  fun _ _ _ _ => rfl

/-- The journal of all requests goes on as the journal of the page requests does. -/
theorem recorded_pagesThrough (svc : ReadService σ) (earlier : List ReadEvent) :
    svc.recorded.PagesThrough svc.journaled fun s => (s.1, earlier ++ s.2.map .paging) := by
  intro session scope marker s
  simp [recorded, journaled, noted]

end ReadService

namespace Listing

theorem drain_plain (svc : ReadService σ) (rounds pulls : Nat) (l : Listing)
    (y : Exchange (σ × List ReadEvent)) : l.drain svc rounds pulls y.plain =
      ((l.drain svc.recorded rounds pulls y).1, (l.drain svc.recorded rounds pulls y).2.1,
        (l.drain svc.recorded rounds pulls y).2.2.1,
        (l.drain svc.recorded rounds pulls y).2.2.2.plain) :=
  drain_through svc.pagesThrough_recorded rounds pulls l y

/-- Pulls in a row make the page requests of the listing, and no others. -/
theorem drain_recorded (svc : ReadService σ) (rounds pulls : Nat) (l : Listing)
    (y : Exchange (σ × List ReadEvent)) :
    ∃ l' y', l.drain svc.recorded rounds pulls y =
        ((l.watchDrain svc rounds pulls y.plain).handed,
          (l.watchDrain svc rounds pulls y.plain).ending, l', y') ∧
      y'.journal = y.journal ++ (l.watchDrain svc rounds pulls y.plain).fetches.map .paging := by
  -- The exchange is the one that notes pages only, seen with what was noted before.
  have hview : (y.plain.watched Fetch).through
      (fun s => (s.1, y.journal ++ s.2.map ReadEvent.paging)) = y := by
    simp [Exchange.through, Exchange.watched, Exchange.plain, Exchange.withService,
      Exchange.journal]
  have hdrain := drain_through (svc.recorded_pagesThrough y.journal) rounds pulls l
    (y.plain.watched Fetch)
  rw [hview] at hdrain
  rw [hdrain, watchDrain_eq]
  exact ⟨_, _, rfl, rfl⟩

end Listing

theorem Coordinator.createRead_recorded (svc : ReadService σ) (table : TableRef) (scope : Scope)
    {x x₁ : Exchange σ} {s : ReadSession}
    (h : Coordinator.createRead svc table scope x = (.ok s, x₁)) :
    s.stopped = false ∧ ∃ y₁,
      Coordinator.createRead svc.recorded table scope (x.watched ReadEvent) = (.ok s, y₁) ∧
      y₁.plain = x₁ ∧ y₁.journal = [.creating table scope (.ok s.snapshot)] := by
  obtain ⟨answer, y₁, hask, hplain, hjournal⟩ := (x.watched ReadEvent).ask_noted
    (.creating table scope) (svc.createRead table scope)
  rw [Exchange.plain_watched] at hplain
  simp only [createRead, hplain] at h
  simp only [createRead, ReadService.recorded, hask]
  cases answer with
  | error f => simp at h
  | ok snapshot =>
    obtain ⟨hs, rfl⟩ := Prod.mk.inj h
    obtain rfl := Except.ok.inj hs
    exact ⟨rfl, y₁, rfl, rfl, hjournal⟩

theorem ReadSession.stop_plain (svc : ReadService σ) (s : ReadSession)
    (y : Exchange (σ × List ReadEvent)) : s.stop svc y.plain =
      ((s.stop svc.recorded y).1, (s.stop svc.recorded y).2.1,
        (s.stop svc.recorded y).2.2.plain) := by
  unfold ReadSession.stop
  split
  · rfl
  · obtain ⟨answer, y₁, hask, hplain, -⟩ := y.ask_noted (.releasing s.snapshot)
      (svc.release s.snapshot)
    simp only [ReadService.recorded, hask, hplain]
    cases answer <;> rfl

/-- A session that has not been released is released by one request. -/
theorem ReadSession.journal_stop (svc : ReadService σ) {s : ReadSession} (h : s.stopped = false)
    (y : Exchange (σ × List ReadEvent)) :
    (s.stop svc.recorded y).2.2.journal =
      y.journal ++ [.releasing s.snapshot (s.stop svc.recorded y).1] := by
  obtain ⟨answer, y₁, hask, -, hjournal⟩ := y.ask_noted (.releasing s.snapshot)
    (svc.release s.snapshot)
  simp only [ReadSession.stop, h, Bool.false_eq_true, if_false, ReadService.recorded, hask]
  cases answer with
  | error f => exact hjournal
  | ok done => exact hjournal

namespace Console

/-- The console pulls its listing until it ends, and prints what is handed out. -/
theorem printSplits_eq (svc : ReadService σ) (rounds pulls : Nat) (printed : List String)
    (l : Listing) (x : Exchange σ) : printSplits svc rounds pulls printed l x =
      ((l.drain svc rounds pulls x).2.1.map fun ending =>
          ⟨printed ++ (l.drain svc rounds pulls x).1.map splitLine, ending.mapError .failure⟩,
        (l.drain svc rounds pulls x).2.2.2) := by
  induction pulls generalizing printed l x with
  | zero => rfl
  | succ pulls ih =>
    simp only [printSplits, Listing.drain]
    rcases l.nextSplit svc rounds x with ⟨_ | f | _ | s, l', x'⟩
    · rfl
    · simp [Except.mapError]
    · simp [Except.mapError]
    · simp [ih]

theorem createRead_plain (svc : ReadService σ) (table : TableRef) (scope : Scope)
    (y : Exchange (σ × List ReadEvent)) : Coordinator.createRead svc table scope y.plain =
      ((Coordinator.createRead svc.recorded table scope y).1,
        (Coordinator.createRead svc.recorded table scope y).2.plain) := by
  obtain ⟨answer, y₁, hask, hplain, -⟩ := y.ask_noted (.creating table scope)
    (svc.createRead table scope)
  simp only [Coordinator.createRead, ReadService.recorded, hask, hplain]
  cases answer <;> rfl

theorem listSplits_plain (c : Coordinator) (svc : ReadService σ) (rounds : Nat) (table : String)
    (pageSize : Option UInt32) (y : Exchange (σ × List ReadEvent)) :
    listSplits c svc rounds table pageSize y.plain =
      ((listSplits c svc.recorded rounds table pageSize y).1,
        (listSplits c svc.recorded rounds table pageSize y).2.plain) := by
  simp only [listSplits, createRead_plain]
  rcases Coordinator.createRead svc.recorded (c.table table) { pageSize } y with ⟨answer, y₁⟩
  cases answer with
  | error f => rfl
  | ok s =>
    simp only [printSplits_eq, Listing.drain_plain]
    rcases s.listing.drain svc.recorded rounds rounds y₁ with ⟨handed, ending, l, y₂⟩
    cases ending with
    | none => rfl
    | some ending => simp only [Option.map_some, ReadSession.stop_plain]

end Console

end TableExchange
