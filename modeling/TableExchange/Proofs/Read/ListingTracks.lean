import TableExchange.Proofs.Read.ListingSteps

/-!
The invariant of a listing: it stands where the answers to its requests put it, and the splits that
came in are those it handed out and those it still holds. Every pull keeps it, in whatever order
pages and splits are pulled and whatever the service answers.
-/
namespace TableExchange

variable {σ : Type}

/-- What a pull gives: absent when it was given up, nothing at the end, else splits. -/
abbrev Handout := Option (Except Failure (Option (List Split)))

namespace Handout

def splits : Handout → List Split
  | some (.ok (some splits)) => splits
  | _ => []

def ofSplit : Option (Except Failure (Option Split)) → Handout
  | none => none
  | some (.error f) => some (.error f)
  | some (.ok none) => some (.ok none)
  | some (.ok (some s)) => some (.ok (some [s]))

@[simp] theorem splits_error (f : Failure) : splits (some (.error f)) = [] := rfl

@[simp] theorem splits_end : splits (some (.ok none)) = [] := rfl

@[simp] theorem splits_some (ss : List Split) : splits (some (.ok (some ss))) = ss := rfl

@[simp] theorem splits_ofSplit_some (s : Split) : splits (ofSplit (some (.ok (some s)))) = [s] :=
  rfl

@[simp] theorem splits_ofSplit_none : splits (ofSplit none) = [] := rfl

theorem ofSplit_eq_end_iff (answer : Option (Except Failure (Option Split))) :
    ofSplit answer = some (.ok none) ↔ answer = some (.ok none) := by
  match answer with
  | none => simp [ofSplit]
  | some (.error f) => simp [ofSplit]
  | some (.ok none) => simp [ofSplit]
  | some (.ok (some s)) => simp [ofSplit]

end Handout

namespace Intake

theorem nonempty_of_continuation {page : SplitPage} {m : Marker}
    (h : page.continuation = some m) : m.isEmpty = false := by
  unfold SplitPage.continuation at h
  simpa using (Option.filter_eq_some_iff.mp h).2

/-- A request that is due carries the continuation of the last page, or none before any page. -/
theorem marker_of_due {i : Intake} {marker : Option Marker} (h : i.due = some marker) :
    match i.pages.getLast? with
    | none => marker = none
    | some page => ∃ m, page.continuation = some m ∧ m.isEmpty = false ∧ marker = some m := by
  unfold due at h
  cases hlast : i.pages.getLast? with
  | none =>
    rw [hlast] at h
    exact (Option.some.inj h).symm
  | some page =>
    rw [hlast] at h
    obtain ⟨m, hm, rfl⟩ := Option.map_eq_some_iff.mp h
    exact ⟨m, hm, nonempty_of_continuation hm, rfl⟩

def Connected (i : Intake) : Prop :=
  ∀ page ∈ i.pages.dropLast, page.continuation ≠ none

theorem Connected.due_eq_none_iff {i : Intake} (h : i.Connected) :
    i.due = none ↔ ∃ page ∈ i.pages, page.continuation = none := by
  rcases List.eq_nil_or_concat i.pages with hnil | ⟨init, last, hlast⟩
  · simp [due, hnil]
  · have hinit : ∀ page ∈ init, page.continuation ≠ none := by simpa [Connected, hlast] using h
    simp only [due, hlast, List.concat_eq_append, List.getLast?_append, List.getLast?_singleton,
      Option.some_or, Option.map_eq_none_iff, List.mem_append, List.mem_singleton]
    constructor
    · intro hnone
      exact ⟨last, .inr rfl, hnone⟩
    · rintro ⟨page, hpage | rfl, hnone⟩
      · exact absurd hnone (hinit page hpage)
      · exact hnone

end Intake

/-- Requests as a listing makes them: each carries the marker that is due, and none follows a page
without a continuation. -/
structure Asked (fetches : List Fetch) : Prop where
  due : AtEach (fun before f => (Intake.ofFetches before).due = some f.marker) fetches
  continued : AtEach (fun before _ => ∀ page ∈ (Intake.ofFetches before).pages,
    page.continuation ≠ none) fetches
  connected : (Intake.ofFetches fetches).Connected

theorem asked_nil : Asked [] :=
  ⟨atEach_nil _, atEach_nil _, by simp [Intake.Connected]⟩

theorem Asked.concat {fetches : List Fetch} (h : Asked fetches) {f : Fetch}
    (hdue : (Intake.ofFetches fetches).due = some f.marker) : Asked (fetches ++ [f]) := by
  have hall : ∀ page ∈ (Intake.ofFetches fetches).pages, page.continuation ≠ none := by
    intro page hpage hnone
    have hend := h.connected.due_eq_none_iff.mpr ⟨page, hpage, hnone⟩
    rw [hdue] at hend
    simp at hend
  refine ⟨atEach_concat.mpr ⟨h.due, hdue⟩, atEach_concat.mpr ⟨h.continued, hall⟩, ?_⟩
  rw [Intake.ofFetches_concat]
  intro page hpage
  apply hall
  cases hf : f.answer with
  | error failure =>
    rw [Intake.take_error _ hf] at hpage
    exact List.dropLast_subset _ hpage
  | ok p =>
    by_cases hp : ascent (Intake.ofFetches fetches).guard p.splits = p.splits
    · rw [Intake.take_accepted _ hf hp] at hpage
      simpa using hpage
    · rw [Intake.take_refused _ hf hp] at hpage
      exact List.dropLast_subset _ hpage

namespace Listing

/-- A listing stands where the answers to its requests put it, and the splits that came in are
those handed out and those it holds. -/
structure Tracks (l : Listing) (fetches : List Fetch) (handed : List Split) : Prop where
  guard : l.lastKey = (Intake.ofFetches fetches).guard
  due : l.stage.due = (Intake.ofFetches fetches).due
  conserved : handed ++ l.buffered = (Intake.ofFetches fetches).splits
  counted : l.pagesFetched = (Intake.ofFetches fetches).pages.length
  drained : l.stage = .reported → l.buffered = []
  asked : Asked fetches

theorem tracks_start (session : TableSession) (scope : Scope) :
    (start session scope).Tracks [] [] where
  guard := rfl
  due := rfl
  conserved := rfl
  counted := rfl
  drained := by simp [start]
  asked := asked_nil

variable {l l' : Listing} {fetches new : List Fetch} {handed : List Split}

/-- The keys of the splits that were handed out ascend. -/
theorem Tracks.ascending (h : l.Tracks fetches handed) :
    (handed.map (·.key)).Pairwise (· < ·) := by
  have hall := (Intake.ordered_ofFetches fetches).ascending
  rw [← h.conserved, List.map_append] at hall
  exact (List.pairwise_append.mp hall).1

theorem Tracks.fetched (h : l.Tracks fetches handed) (hb : l.buffered = [])
    {marker : Option Marker} (hdue : l.stage.due = some marker) {f : Fetch}
    {answer : Except Failure (Option (List Split))} (hf : Fetched l marker f answer l') :
    l'.Tracks (fetches ++ [f]) (handed ++ Handout.splits (some answer)) := by
  have hconserved := h.conserved
  rw [hb, List.append_nil] at hconserved
  have hasked : ∀ f : Fetch, f.marker = marker → Asked (fetches ++ [f]) := by
    intro f hmarker
    apply h.asked.concat
    rw [hmarker, ← hdue, h.due]
  cases hf with
  | failed failure =>
    have htake := Intake.take_error (Intake.ofFetches fetches) (f := ⟨marker, .error failure⟩) rfl
    refine ⟨?_, ?_, ?_, ?_, h.drained, hasked _ rfl⟩ <;> rw [Intake.ofFetches_concat, htake]
    · exact h.guard
    · exact h.due
    · simpa [hb] using hconserved
    · exact h.counted
  | refused page failure _ hpage =>
    rw [h.guard] at hpage
    have htake := Intake.take_refused (Intake.ofFetches fetches) (f := ⟨marker, .ok page⟩) rfl hpage
    refine ⟨?_, ?_, ?_, ?_, h.drained, hasked _ rfl⟩ <;> rw [Intake.ofFetches_concat, htake]
    · simp [h.guard]
    · exact h.due
    · simpa [hb, Intake.splits] using hconserved
    · exact h.counted
  | accepted page hpage =>
    rw [h.guard] at hpage
    have htake := Intake.take_accepted (Intake.ofFetches fetches) (f := ⟨marker, .ok page⟩) rfl
      hpage
    refine ⟨?_, ?_, ?_, ?_, fun _ => hb, hasked _ rfl⟩ <;> rw [Intake.ofFetches_concat, htake]
    · simp [accept, h.guard]
    · cases hcont : page.continuation <;> simp [accept, ListingStage.due, Intake.due, hcont]
    · simp [accept, hb, hconserved, Intake.splits]
    · simp [accept, h.counted]

/-- The marker that a stage holds is the continuation of a page. -/
theorem Tracks.nonempty (h : l.Tracks fetches handed) {marker : Marker}
    (hstage : l.stage = .following marker) : marker.isEmpty = false := by
  have hdue : (Intake.ofFetches fetches).due = some (some marker) := by
    rw [← h.due, hstage]
    rfl
  have hlast := Intake.marker_of_due hdue
  split at hlast
  · contradiction
  · obtain ⟨m, _, hne, hm⟩ := hlast
    rwa [Option.some.inj hm]

theorem Tracks.paged (h : l.Tracks fetches handed) {answer : Except Failure (Option (List Split))}
    (hp : Paged l new answer l') :
    l'.Tracks (fetches ++ new) (handed ++ Handout.splits (some answer)) := by
  cases hp with
  | buffered hb =>
    rw [List.append_nil]
    exact ⟨h.guard, h.due, by simpa using h.conserved, h.counted, fun _ => rfl,
      h.asked⟩
  | fetched hb hdue hf => exact h.fetched hb hdue hf
  | stale f hstage hmarker => exact absurd (h.nonempty hstage) (by simp [hmarker])
  | ended hb hstage =>
    have hdue := h.due
    rw [hstage] at hdue
    rw [List.append_nil]
    exact ⟨h.guard, hdue, by simpa using h.conserved, h.counted, fun _ => hb,
      h.asked⟩
  | spent f hb hstage hkind => simpa using h

theorem Paged.after_page {page : List Split} (hb : l.buffered = [])
    (hp : Paged l new (.ok (some page)) l') : l'.buffered = [] ∧ l'.stage ≠ .reported := by
  cases hp with
  | buffered hne => exact absurd hb hne
  | fetched _ _ hf =>
    cases hf with
    | accepted page hpage =>
      refine ⟨hb, ?_⟩
      cases hcont : page.continuation <;> simp [accept, hcont]

theorem Tracks.stepped (h : l.Tracks fetches handed)
    {answer : Option (Except Failure (Option Split))} (hs : Stepped l new answer l') :
    l'.Tracks (fetches ++ new) (handed ++ (Handout.ofSplit answer).splits) := by
  cases hs with
  | @buffered s rest hb =>
    have hconserved := h.conserved
    rw [hb] at hconserved
    rw [List.append_nil]
    refine ⟨h.guard, h.due, by simpa using hconserved, h.counted, ?_, h.asked⟩
    intro hstage
    rw [h.drained hstage] at hb
    contradiction
  | failed hb hp => exact h.paged hp
  | ended hb hp => exact h.paged hp
  | @paged _ page l' hb hp =>
    -- A page never comes from a listing that has told its end, so `drained` stands.
    have h' := h.paged hp
    have hconserved := h'.conserved
    obtain ⟨hempty, hstage⟩ := hp.after_page hb
    rw [hempty] at hconserved
    exact ⟨h'.guard, h'.due, by simpa using hconserved, h'.counted, fun hr => absurd hr hstage,
      h'.asked⟩

theorem Paged.reported_iff {answer : Except Failure (Option (List Split))}
    (hp : Paged l new answer l') :
    l'.stage = .reported ↔ answer = .ok none ∨ l.stage = .reported := by
  cases hp with
  | buffered hb => simp
  | fetched hb hdue hf =>
    have hstage : l.stage ≠ .reported := by
      intro hr
      rw [hr] at hdue
      contradiction
    cases hf with
    | failed f => simp
    | refused page f _ hpage => simp
    | accepted page hpage => cases hcont : page.continuation <;> simp [accept, hcont, hstage]
  | stale f hstage hmarker => simp
  | ended hb hstage => simp
  | spent f hb hstage hkind => simp

theorem Paged.of_reported {answer : Except Failure (Option (List Split))} (hb : l.buffered = [])
    (hstage : l.stage = .reported) (hp : Paged l new answer l') :
    new = [] ∧ ∃ f, answer = .error f ∧ f.kind = .listingExhausted := by
  cases hp with
  | buffered hne => exact absurd hb hne
  | fetched _ hdue _ => simp [hstage, ListingStage.due] at hdue
  | stale f hfollowing _ => simp [hstage] at hfollowing
  | ended _ hexhausted => simp [hstage] at hexhausted
  | spent f _ _ hkind => exact ⟨rfl, f, rfl, hkind⟩

theorem Paged.of_exhausted {answer : Except Failure (Option (List Split))} (hb : l.buffered = [])
    (hstage : l.stage = .exhausted) (hp : Paged l new answer l') :
    new = [] ∧ answer = .ok none := by
  cases hp with
  | buffered hne => exact absurd hb hne
  | fetched _ hdue _ => simp [hstage, ListingStage.due] at hdue
  | stale f hfollowing _ => simp [hstage] at hfollowing
  | ended _ _ => exact ⟨rfl, rfl⟩
  | spent f _ hreported _ => simp [hstage] at hreported

theorem Stepped.reported_iff {answer : Option (Except Failure (Option Split))}
    (hs : Stepped l new answer l') :
    l'.stage = .reported ↔ answer = some (.ok none) ∨ l.stage = .reported := by
  cases hs with
  | buffered hb => simp
  | failed hb hp => simpa using hp.reported_iff
  | ended hb hp => simpa using hp.reported_iff
  | paged hb hp => simpa using hp.reported_iff

theorem Stepped.of_reported {answer : Option (Except Failure (Option Split))}
    (hb : l.buffered = []) (hstage : l.stage = .reported) (hs : Stepped l new answer l') :
    new = [] ∧ ∃ f, answer = some (.error f) ∧ f.kind = .listingExhausted := by
  cases hs with
  | buffered hne => simp [hb] at hne
  | failed _ hp => simpa using hp.of_reported hb hstage
  | ended _ hp => simpa using hp.of_reported hb hstage
  | paged _ hp => simpa using hp.of_reported hb hstage

theorem Stepped.of_exhausted {answer : Option (Except Failure (Option Split))}
    (hb : l.buffered = []) (hstage : l.stage = .exhausted) (hs : Stepped l new answer l') :
    new = [] ∧ answer = some (.ok none) := by
  cases hs with
  | buffered hne => simp [hb] at hne
  | failed _ hp => simpa using hp.of_exhausted hb hstage
  | ended _ hp => simpa using hp.of_exhausted hb hstage
  | paged _ hp => simpa using hp.of_exhausted hb hstage

/-- Before the end was told, only the service itself can say that the listing was exhausted. -/
theorem Tracks.exhausted_by_service (h : l.Tracks fetches handed) (hstage : l.stage ≠ .reported)
    {f : Failure} (hs : Stepped l new (some (.error f)) l') (hkind : f.kind = .listingExhausted) :
    ∃ marker, ⟨marker, .error f⟩ ∈ new := by
  cases hs with
  | failed hb hp =>
    cases hp with
    | fetched _ hdue hf =>
      cases hf with
      | failed => exact ⟨_, List.mem_singleton_self _⟩
      | refused page _ horder _ => simp [horder] at hkind
    | stale _ hfollowing hmarker => exact absurd (h.nonempty hfollowing) (by simp [hmarker])
    | spent _ _ hreported _ => exact absurd hreported hstage

end Listing

/-- How a caller pulls. A pull of a split takes at least one step, and at most `more` others. -/
inductive PullStyle
  | page
  | split (more : Nat)
deriving DecidableEq, Repr

def PullStyle.pull (svc : ReadService σ) :
    PullStyle → Listing → Exchange σ → Handout × Listing × Exchange σ
  | .page, l, x => let r := l.nextPage svc x; (some r.1, r.2)
  | .split more, l, x => let r := l.nextSplit svc (more + 1) x; (.ofSplit r.1, r.2)

/-- A pull as its caller and its service see it: what it gave, and the requests that it made. -/
structure Pull where
  answer : Handout
  fetches : List Fetch

namespace Listing

def watch (svc : ReadService σ) (style : PullStyle) (l : Listing) (x : Exchange σ) :
    Pull × Listing :=
  (⟨(style.pull svc l x).1, (style.pull svc.journaled l (x.watched Fetch)).2.2.journal⟩,
    (style.pull svc l x).2.1)

theorem watch_eq (svc : ReadService σ) (style : PullStyle) (l : Listing) (x : Exchange σ) :
    l.watch svc style x =
      (⟨(style.pull svc.journaled l (x.watched Fetch)).1,
        (style.pull svc.journaled l (x.watched Fetch)).2.2.journal⟩,
        (style.pull svc.journaled l (x.watched Fetch)).2.1) := by
  cases style with
  | page =>
    have hplain := l.nextPage_plain svc (x.watched Fetch)
    rw [Exchange.plain_watched] at hplain
    simp only [watch, PullStyle.pull, hplain]
  | split more =>
    have hplain := l.nextSplit_plain svc (more + 1) (x.watched Fetch)
    rw [Exchange.plain_watched] at hplain
    simp only [watch, PullStyle.pull, hplain]

theorem watch_paged (svc : ReadService σ) (l : Listing) (x : Exchange σ) :
    ∃ answer, (l.watch svc .page x).1.answer = some answer ∧
      l.Paged (l.watch svc .page x).1.fetches answer (l.watch svc .page x).2 := by
  obtain ⟨new, hjournal, hp⟩ := l.paged svc (x.watched Fetch)
  rw [Exchange.journal_watched, List.nil_append] at hjournal
  rw [watch_eq]
  simp only [PullStyle.pull, hjournal]
  exact ⟨_, rfl, hp⟩

variable {l l' : Listing} {fetches : List Fetch} {handed : List Split}

structure Pulled (l : Listing) (p : Pull) (l' : Listing) : Prop where
  reported_iff : l'.stage = .reported ↔ p.answer = some (.ok none) ∨ l.stage = .reported
  of_reported : l.buffered = [] → l.stage = .reported →
    p.fetches = [] ∧ ∃ f, p.answer = some (.error f) ∧ f.kind = .listingExhausted
  of_exhausted : l.buffered = [] → l.stage = .exhausted →
    p.fetches = [] ∧ p.answer = some (.ok none)

/-- Where a pull of a split stands that began on a listing, with what it has given so far. -/
structure Pulling (l : Listing) (fetches : List Fetch) (handed : List Split)
    (answer : Option (Except Failure (Option Split))) (s : Listing × Exchange (σ × List Fetch)) :
    Prop where
  tracks : s.1.Tracks (fetches ++ s.2.journal) (handed ++ (Handout.ofSplit answer).splits)
  reported_iff : s.1.stage = .reported ↔ answer = some (.ok none) ∨ l.stage = .reported

theorem Pulling.step {s : Listing × Exchange (σ × List Fetch)} (h : Pulling l fetches handed none s)
    (svc : ReadService σ) : Pulling l fetches handed (stepSplit svc.journaled s).1
      (stepSplit svc.journaled s).2 := by
  obtain ⟨l₁, y₁⟩ := s
  obtain ⟨new, hjournal, hs⟩ := l₁.stepped svc y₁
  have htracks := h.tracks
  rw [Handout.splits_ofSplit_none, List.append_nil] at htracks
  constructor
  · rw [hjournal, ← List.append_assoc]
    exact htracks.stepped hs
  · simpa [h.reported_iff] using hs.reported_iff

theorem Tracks.nextSplit (svc : ReadService σ) (rounds : Nat) (y : Exchange (σ × List Fetch))
    (h : l.Tracks (fetches ++ y.journal) handed) :
    Pulling l fetches handed (l.nextSplit svc.journaled rounds y).1
      (l.nextSplit svc.journaled rounds y).2 := by
  have hstart : Pulling l fetches handed none (l, y) := ⟨by simpa using h, by simp⟩
  exact settle_keeps (fun s hs => hs.step svc) rounds (l, y) hstart

theorem Tracks.watch (svc : ReadService σ) (style : PullStyle) (x : Exchange σ)
    (h : l.Tracks fetches handed) :
    (l.watch svc style x).2.Tracks (fetches ++ (l.watch svc style x).1.fetches)
      (handed ++ (l.watch svc style x).1.answer.splits) ∧
      Pulled l (l.watch svc style x).1 (l.watch svc style x).2 := by
  cases style with
  | page =>
    obtain ⟨answer, hanswer, hp⟩ := l.watch_paged svc x
    rw [hanswer]
    refine ⟨h.paged hp, by simpa [hanswer] using hp.reported_iff, ?_, ?_⟩
    · intro hb hstage
      simpa [hanswer] using hp.of_reported hb hstage
    · intro hb hstage
      simpa [hanswer] using hp.of_exhausted hb hstage
  | split more =>
    rw [watch_eq]
    have hstart : l.Tracks (fetches ++ (x.watched Fetch).journal) handed := by simpa using h
    have hpulling := hstart.nextSplit svc (more + 1) (x.watched Fetch)
    obtain ⟨new, hjournal, hs⟩ := l.stepped svc (x.watched Fetch)
    rw [Exchange.journal_watched, List.nil_append] at hjournal
    have hfirst : ∀ {a}, (stepSplit svc.journaled (l, x.watched Fetch)).1 = some a →
        l.nextSplit svc.journaled (more + 1) (x.watched Fetch) =
          stepSplit svc.journaled (l, x.watched Fetch) := fun ha => settle_of_settled ha more
    simp only [PullStyle.pull]
    refine ⟨hpulling.tracks, ?_, ?_, ?_⟩
    · rw [Handout.ofSplit_eq_end_iff]
      exact hpulling.reported_iff
    · intro hb hstage
      obtain ⟨hnew, f, hf, hkind⟩ := hs.of_reported hb hstage
      rw [hfirst hf, hf]
      exact ⟨hjournal.trans hnew, f, rfl, hkind⟩
    · intro hb hstage
      obtain ⟨hnew, ha⟩ := hs.of_exhausted hb hstage
      rw [hfirst ha, ha]
      exact ⟨hjournal.trans hnew, rfl⟩

end Listing

end TableExchange
