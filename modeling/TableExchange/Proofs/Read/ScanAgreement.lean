import TableExchange.Proofs.Read.PagedListing
import TableExchange.Session.Coordinator

/-!
A client that lists one session of the in-memory service, in pages and in ranges of keys, while
splits are still added to its table. Both ways give the splits that the table had when the session
was created, and the pages are those that the markers cut at the multiples of the page size.
-/
namespace TableExchange

open Memory (Store Serves Addressable room markerAt pageCount within ranges)

structure RangeListing where
  range : String × Option String
  answer : Except Failure (List Split)

structure Scan where
  session : TableSession
  listing : Listing
  exchange : Exchange Store
  answers : List Handout := []
  rangeListings : List RangeListing := []

inductive ScanMove
  | pull (style : PullStyle)
  | listRange (lower : String) (upper : Option String)
  | addSplits (table : TableRef) (splits : List Split)

namespace Scan

def start (session : ReadSession) (x : Exchange Store) : Scan :=
  { session := session.snapshot, listing := session.listing, exchange := x }

def make (s : Scan) : ScanMove → Scan
  | .pull style =>
    let r := style.pull Memory.reading s.listing s.exchange
    { s with listing := r.2.1, exchange := r.2.2, answers := s.answers ++ [r.1] }
  | .listRange lower upper =>
    let r := TableExchange.listRange Memory.reading s.session lower upper s.exchange
    { s with exchange := r.2, rangeListings := s.rangeListings ++ [⟨(lower, upper), r.1⟩] }
  | .addSplits table splits =>
    { s with exchange :=
      { s.exchange with service := s.exchange.service.addSplits table splits } }

def run (s : Scan) (moves : List ScanMove) : Scan :=
  moves.foldl make s

def handed (s : Scan) : List Split :=
  s.answers.flatMap Handout.splits

def EndTold (s : Scan) : Prop :=
  some (.ok none) ∈ s.answers

end Scan

/-- What a client can rely on that lists `splits` in pages of a size and in ranges, on a service
that has served the requests `earlier` before. -/
structure Scan.Agrees (splits : List Split) (size : Nat) (earlier : List (Option Marker))
    (s : Scan) : Prop where
  /-- Pulls hand the splits out in order. -/
  ordered : s.handed <+: splits
  /-- No pull fails before the end was told. -/
  failed : AtEach (fun before answer => ∀ f, answer = some (.error f) → some (.ok none) ∈ before)
    s.answers
  /-- The end is reached by pulls of any style. -/
  ends : splits.length + pageCount size splits.length < s.answers.length → s.EndTold
  /-- At the end all splits were handed out, one request for each page. -/
  complete : s.EndTold → s.handed = splits ∧ s.exchange.service.listRequests =
    earlier ++ (List.range (pageCount size splits.length)).map (markerAt size)
  /-- The ranges between ascending cuts have the same splits. -/
  divided : ∀ first rest, (first :: rest).Pairwise (· < ·) → (∀ cut ∈ first :: rest, cut ≠ "") →
    (∀ split ∈ splits.head?, first ≤ split.key) → ∀ listings ⊆ s.rangeListings,
      listings.map (·.range) = ranges (first :: rest) →
        ∃ parts : List (List Split),
          listings.map (·.answer) = parts.map .ok ∧ parts.flatten = splits

variable {st : Stock} {x : Exchange Store}

structure Scanned (st : Stock) (s : Scan) : Prop where
  paging : Paging st s.handed s.listing s.exchange
  session : s.session = st.session
  told : s.listing.stage = .reported ↔ s.EndTold
  failed : AtEach (fun before answer => ∀ f, answer = some (.error f) → some (.ok none) ∈ before)
    s.answers
  progress : s.listing.stage ≠ .reported →
    s.answers.length ≤ s.listing.pagesFetched + s.handed.length
  ranged : ∀ r ∈ s.rangeListings, r.range.1 ≠ "" →
    r.answer = .ok (st.splits.filter (within r.range))

namespace Scanned

variable {s : Scan}

theorem pull (h : Scanned st s) (style : PullStyle) : Scanned st (s.make (.pull style)) := by
  have hpull := h.paging.pull style
  have hhanded : (s.make (.pull style)).handed =
      s.handed ++ (style.pull Memory.reading s.listing s.exchange).1.splits := by
    simp [Scan.handed, Scan.make]
  constructor
  · rw [hhanded]
    exact hpull.paging
  · exact h.session
  · refine hpull.told.trans ?_
    rw [h.told, or_comm, eq_comm]
    simp [Scan.EndTold, Scan.make]
  · refine atEach_concat.mpr ⟨h.failed, fun f hf => ?_⟩
    exact h.told.mp (hpull.failed f hf)
  · intro hstage
    have hbefore : s.listing.stage ≠ .reported :=
      fun hreported => hstage (hpull.told.mpr (.inr hreported))
    have hfirst := h.progress hbefore
    have hrest := hpull.progress hstage
    rw [hhanded]
    show (s.answers ++ [_]).length ≤ _
    rw [List.length_append, List.length_singleton]
    exact Nat.lt_of_le_of_lt hfirst hrest
  · exact h.ranged

theorem listRange (h : Scanned st s) (lower : String) (upper : Option String) :
    Scanned st (s.make (.listRange lower upper)) := by
  by_cases hlower : lower = ""
  · -- The client refuses a range without a lower end.
    subst hlower
    refine ⟨h.paging, h.session, h.told, h.failed, h.progress, ?_⟩
    intro r hr hne
    rcases List.mem_append.mp hr with hr | hr
    · exact h.ranged r hr hne
    · obtain rfl := List.mem_singleton.mp hr
      exact absurd rfl hne
  · have hserves : Serves s.exchange.service s.session.id st.splits := h.session ▸ h.paging.serves
    have hask : TableExchange.listRange Memory.reading s.session lower upper s.exchange =
        (.ok (st.splits.filter (within (lower, upper))), { s.exchange with service :=
          { s.exchange.service with
            rangeRequests := s.exchange.service.rangeRequests ++ [(lower, upper)] } }) := by
      have hempty : lower.isEmpty = false := by simpa using hlower
      simp only [TableExchange.listRange, hempty, Bool.false_eq_true, if_false, Exchange.ask,
        Memory.reading, hserves.listRange]
    simp only [Scan.make, hask]
    refine ⟨?_, h.session, h.told, h.failed, h.progress, ?_⟩
    · exact h.paging.of_service (h.paging.serves.of_eq rfl rfl) rfl
    · intro r hr hne
      rcases List.mem_append.mp hr with hr | hr
      · exact h.ranged r hr hne
      · obtain rfl := List.mem_singleton.mp hr
        rfl

/-- Splits that are added later do not reach the session. -/
theorem addSplits (h : Scanned st s) (table : TableRef) (splits : List Split) :
    Scanned st (s.make (.addSplits table splits)) :=
  ⟨h.paging.of_service (h.paging.serves.of_eq rfl rfl) rfl, h.session, h.told, h.failed,
    h.progress, h.ranged⟩

theorem run (h : Scanned st s) (moves : List ScanMove) : Scanned st (s.run moves) := by
  induction moves generalizing s with
  | nil => exact h
  | cons move rest ih =>
    cases move with
    | pull style => exact ih (h.pull style)
    | listRange lower upper => exact ih (h.listRange lower upper)
    | addSplits table splits => exact ih (h.addSplits table splits)

theorem of_start (session : TableSession) (scope : Scope)
    (hserves : Serves x.service st.session.id st.splits)
    (hrequests : x.service.listRequests = st.earlier) (hsession : session = st.session)
    (hscope : scope = st.scope) : Scanned st (.start { snapshot := session, scope } x) where
  paging := by
    refine ⟨hserves, ?_, hsession, hscope, .inl rfl, ?_, ?_, Nat.zero_le _⟩
    · simpa [Scan.start, ReadSession.listing, Listing.start] using hrequests
    · simp [Scan.start, ReadSession.listing, Listing.start, Stock.taken]
    · simp [Scan.start, Scan.handed, ReadSession.listing, Listing.start, Stock.taken]
  session := hsession
  told := by simp [Scan.start, Scan.EndTold, ReadSession.listing, Listing.start]
  failed := atEach_nil _
  progress _ := Nat.zero_le _
  ranged := by simp [Scan.start]

/-- At the end everything was handed out. -/
theorem complete (h : Scanned st s) (hend : s.EndTold) :
    s.handed = st.splits ∧ s.listing.pagesFetched = st.total := by
  obtain ⟨hb, hexhausted⟩ : s.listing.buffered = [] ∧
      st.stageAt s.listing.pagesFetched = .exhausted := by
    have hreported := h.told.mpr hend
    rcases h.paging.stage with hat | ⟨-, hrest⟩
    · exact absurd (hat ▸ hreported) Stock.stageAt_ne_reported
    · exact hrest
  obtain ⟨hzero, hover⟩ := Stock.exhausted_iff.mp hexhausted
  have hconserved := h.paging.conserved
  rw [hb, List.append_nil] at hconserved
  constructor
  · rw [hconserved]
    exact List.take_of_length_le hover
  · exact le_antisymm h.paging.bounded (Memory.pageCount_le Stock.size_pos hzero hover)

/-- The ranges between ascending cuts have all splits. -/
theorem divided (h : Scanned st s) {first : String} {rest : List String}
    (hcuts : (first :: rest).Pairwise (· < ·)) (hne : ∀ cut ∈ first :: rest, cut ≠ "")
    (hfirst : ∀ split ∈ st.splits.head?, first ≤ split.key) {listings : List RangeListing}
    (hmade : listings ⊆ s.rangeListings)
    (hranges : listings.map (·.range) = ranges (first :: rest)) :
    ∃ parts : List (List Split),
      listings.map (·.answer) = parts.map .ok ∧ parts.flatten = st.splits := by
  refine ⟨listings.map fun r => st.splits.filter (within r.range), ?_, ?_⟩
  · rw [List.map_map]
    refine List.map_congr_left fun r hr => h.ranged r (hmade hr) (hne _ (Memory.mem_cuts ?_))
    rw [← hranges]
    exact List.mem_map_of_mem hr
  · have hparts : listings.map (fun r => st.splits.filter (within r.range)) =
        (ranges (first :: rest)).map fun range => st.splits.filter (within range) := by
      rw [← hranges, List.map_map]
      rfl
    rw [hparts, ← List.flatMap_def, Memory.flatMap_ranges st.ascending hcuts]
    refine List.filter_eq_self.mpr fun split hsplit => Memory.within_none.mpr ?_
    exact Stock.le_key hfirst hsplit

theorem agrees (h : Scanned st s) : s.Agrees st.splits st.size st.earlier where
  ordered := by
    have htaken : s.handed <+: st.taken s.listing.pagesFetched :=
      ⟨s.listing.buffered, h.paging.conserved⟩
    exact htaken.trans (List.take_prefix _ _)
  failed := h.failed
  ends hmany := by
    by_contra htold
    have hpulls := h.progress fun hreported => htold (h.told.mp hreported)
    have hpages : s.listing.pagesFetched ≤ pageCount st.size st.splits.length := h.paging.bounded
    have hhanded : s.handed.length ≤ st.splits.length := by
      have htaken := congrArg List.length h.paging.conserved
      rw [List.length_append, Stock.taken, List.length_take] at htaken
      omega
    omega
  complete hend := by
    obtain ⟨hhanded, hpages⟩ := h.complete hend
    refine ⟨hhanded, ?_⟩
    rw [h.paging.requests, hpages]
    rfl
  divided _ _ hcuts hne hfirst _ hmade hranges := h.divided hcuts hne hfirst hmade hranges

end Scanned

/-- Pages and ranges agree on the splits that the table had when the session was created. -/
theorem pages_and_ranges_agree (table : TableRef) (scope : Scope) (x : Exchange Store)
    {splits : List Split} (hsplits : (Memory.lookup table x.service.tables).getD [] = splits)
    (hascending : (splits.map (·.key)).Pairwise (· < ·)) (hfits : Addressable splits) :
    ∃ session x', Coordinator.createRead Memory.reading table scope x = (.ok session, x') ∧
      ∀ moves, ((Scan.start session x').run moves).Agrees splits (room scope)
        x.service.listRequests := by
  obtain ⟨session, hcreated, hserves⟩ := Memory.createRead_serves table scope x.service
  rw [hsplits] at hserves
  have hask : Coordinator.createRead Memory.reading table scope x =
      (.ok { snapshot := session, scope },
        { x with service := (Memory.createRead table scope x.service).2 }) := by
    simp only [Coordinator.createRead, Exchange.ask, Memory.reading, hcreated]
  refine ⟨_, _, hask, fun moves => ?_⟩
  let st : Stock := ⟨session, scope, splits, x.service.listRequests, hascending, hfits⟩
  have hstart : Scanned st (.start { snapshot := session, scope }
      { x with service := (Memory.createRead table scope x.service).2 }) :=
    .of_start session scope hserves rfl rfl rfl
  exact (hstart.run moves).agrees

def scannedTable : TableRef :=
  ⟨"p", "default", "t"⟩

/-- Its splits, which take two pages of the default size. -/
def scannedSplits : List Split :=
  [⟨"a", "1"⟩, ⟨"b", "2"⟩, ⟨"c", "3"⟩]

def scannedService : Exchange Store :=
  { service := ({} : Store).addSplits scannedTable scannedSplits }

/-- Pulls of both styles, and range listings, with a split added in between. -/
def scannedMoves : List ScanMove :=
  [.pull (.split 0), .addSplits scannedTable [⟨"d", "4"⟩], .listRange "a" (some "c"),
    .pull (.split 1), .pull .page, .listRange "c" none, .pull (.split 4), .pull .page,
    .pull (.split 0)]

theorem pages_and_ranges_agree_on_three :
    ∃ session x', Coordinator.createRead Memory.reading scannedTable {} scannedService =
        (.ok session, x') ∧
      ((Scan.start session x').run scannedMoves).handed = scannedSplits ∧
      ((Scan.start session x').run scannedMoves).exchange.service.listRequests =
        [none, some ⟨"2"⟩] ∧
      ∃ parts : List (List Split),
        ((Scan.start session x').run scannedMoves).rangeListings.map (·.answer) = parts.map .ok ∧
          parts.flatten = scannedSplits := by
  have hsplits : (Memory.lookup scannedTable scannedService.service.tables).getD [] =
      scannedSplits := by decide +kernel
  obtain ⟨session, x', hcreated, hagrees⟩ := pages_and_ranges_agree scannedTable {} scannedService
    hsplits (by decide +kernel)
    (show scannedSplits.length + UInt32.size ≤ UInt64.size by decide)
  have hall := hagrees scannedMoves
  have hpulls : ((Scan.start session x').run scannedMoves).answers.length = 6 := rfl
  obtain ⟨hhanded, hrequests⟩ := hall.complete (hall.ends (by rw [hpulls]; decide +kernel))
  refine ⟨session, x', hcreated, hhanded, ?_, ?_⟩
  · rw [hrequests]
    decide +kernel
  · exact hall.divided "a" ["c"] (by decide +kernel) (by decide +kernel) (by decide +kernel) _
      (List.Subset.refl _) rfl

end TableExchange
