import TableExchange.Proofs.Read.ListingTracks

/-!
Runs of a listing: pulls of pages and of splits in any order, with restarts in between, on a service
that answers in any way. Between two restarts no split is lost, repeated or reordered, keys ascend,
every request carries the marker of the last accepted page, and the end is told once.
-/
namespace TableExchange

variable {σ : Type}

inductive ListingCall
  | pull (style : PullStyle)
  | restart

/-- What happened since the last restart: the pulls in their order, and the listing they left. -/
structure Stretch where
  pulls : List Pull
  listing : Listing

/-- The stretches of a run, the current one last. Every call finds its own surroundings, since
others may have used the service since the last call. -/
def stretches (svc : ReadService σ) : Stretch → List (ListingCall × Exchange σ) → List Stretch
  | s, [] => [s]
  | s, (.restart, _) :: rest => s :: stretches svc ⟨[], s.listing.restart⟩ rest
  | s, (.pull style, x) :: rest =>
    let r := s.listing.watch svc style x
    stretches svc ⟨s.pulls ++ [r.1], r.2⟩ rest

/-- The pages of the answers that were accepted: those whose keys ascend from all earlier ones. -/
def accepted (fetches : List Fetch) : List SplitPage :=
  (Intake.ofFetches fetches).pages

namespace Pull

def requests (pulls : List Pull) : List Fetch :=
  pulls.flatMap (·.fetches)

def handed (pulls : List Pull) : List Split :=
  pulls.flatMap (·.answer.splits)

def delivered (pulls : List Pull) : List Split :=
  (accepted (requests pulls)).flatMap (·.splits)

def LastPageCame (pulls : List Pull) : Prop :=
  ∃ page ∈ accepted (requests pulls), page.continuation = none

def EndTold (pulls : List Pull) : Prop :=
  ∃ p ∈ pulls, p.answer = some (.ok none)

@[simp] theorem requests_concat (pulls : List Pull) (p : Pull) :
    requests (pulls ++ [p]) = requests pulls ++ p.fetches := by
  simp [requests]

@[simp] theorem handed_concat (pulls : List Pull) (p : Pull) :
    handed (pulls ++ [p]) = handed pulls ++ p.answer.splits := by
  simp [handed]

theorem endTold_concat (pulls : List Pull) (p : Pull) :
    EndTold (pulls ++ [p]) ↔ EndTold pulls ∨ p.answer = some (.ok none) :=
  exists_mem_concat

structure TellsEndOnce (before : List Pull) (p : Pull) : Prop where
  /-- The end is told only after the last page came and everything was handed out, and not twice. -/
  only : p.answer = some (.ok none) →
    LastPageCame (before ++ [p]) ∧ handed before = delivered (before ++ [p]) ∧ ¬EndTold before
  /-- The first pull after the last split tells the end. -/
  first : LastPageCame before → handed before = delivered before → ¬EndTold before →
    p.fetches = [] ∧ p.answer = some (.ok none)
  /-- Every later pull fails. -/
  later : EndTold before →
    p.fetches = [] ∧ ∃ f, p.answer = some (.error f) ∧ f.kind = .listingExhausted

end Pull

namespace Stretch

open Pull

structure Faithful (s : Stretch) : Prop where
  /-- Nothing is lost, repeated or reordered. -/
  conserved : handed s.pulls ++ s.listing.buffered = delivered s.pulls
  /-- Keys ascend strictly, also across pages. -/
  ascending : ((handed s.pulls).map (·.key)).Pairwise (· < ·)
  /-- A request carries the marker of the last accepted page, which is not empty; before any page
  was accepted it carries none. -/
  marked : AtEach (fun before f =>
    match (accepted before).getLast? with
    | none => f.marker = none
    | some page => ∃ m, page.continuation = some m ∧ m.isEmpty = false ∧ f.marker = some m)
    (requests s.pulls)
  /-- After a page without a continuation there is no request. -/
  closed : AtEach (fun before _ => ∀ page ∈ accepted before, page.continuation ≠ none)
    (requests s.pulls)
  ends : AtEach TellsEndOnce s.pulls
  counted : s.listing.pagesFetched = (accepted (requests s.pulls)).length

structure Tracked (s : Stretch) : Prop where
  tracks : s.listing.Tracks (requests s.pulls) (handed s.pulls)
  told : s.listing.stage = .reported ↔ EndTold s.pulls
  ends : AtEach TellsEndOnce s.pulls

theorem tracked_start (session : TableSession) (scope : Scope) :
    Tracked ⟨[], .start session scope⟩ where
  tracks := Listing.tracks_start session scope
  told := by simp [Listing.start, EndTold]
  ends := atEach_nil _

theorem lastPageCame_iff {pulls : List Pull} {l : Listing} {splits : List Split}
    (h : l.Tracks (requests pulls) splits) : LastPageCame pulls ↔ l.stage.due = none := by
  rw [h.due]
  exact h.asked.connected.due_eq_none_iff.symm

theorem Tracked.tellsEndOnce {s : Stretch} (h : s.Tracked) {p : Pull} {l : Listing}
    (htracks : l.Tracks (requests (s.pulls ++ [p])) (handed (s.pulls ++ [p])))
    (hp : Listing.Pulled s.listing p l) : TellsEndOnce s.pulls p where
  only hend := by
    have hstage : l.stage = .reported := hp.reported_iff.mpr (.inl hend)
    refine ⟨(lastPageCame_iff htracks).mpr (by rw [hstage]; rfl), ?_, ?_⟩
    · have hconserved := htracks.conserved
      rw [htracks.drained hstage, List.append_nil, handed_concat, hend, Handout.splits_end,
        List.append_nil] at hconserved
      exact hconserved
    · intro htold
      have hreported := h.told.mpr htold
      obtain ⟨_, f, hf, _⟩ := hp.of_reported (h.tracks.drained hreported) hreported
      rw [hend] at hf
      simp at hf
  first hlast hall htold := by
    have hconserved : handed s.pulls ++ s.listing.buffered = handed s.pulls ++ [] := by
      rw [List.append_nil]
      exact h.tracks.conserved.trans hall.symm
    have hbuffered : s.listing.buffered = [] := List.append_cancel_left hconserved
    have hdue := (lastPageCame_iff h.tracks).mp hlast
    cases hstage : s.listing.stage with
    | initial => simp [hstage, ListingStage.due] at hdue
    | following marker => simp [hstage, ListingStage.due] at hdue
    | exhausted => exact hp.of_exhausted hbuffered hstage
    | reported => exact absurd (h.told.mp hstage) htold
  later htold := by
    have hreported := h.told.mpr htold
    exact hp.of_reported (h.tracks.drained hreported) hreported

theorem Tracked.pull {s : Stretch} (h : s.Tracked) (svc : ReadService σ) (style : PullStyle)
    (x : Exchange σ) : Tracked ⟨s.pulls ++ [(s.listing.watch svc style x).1],
      (s.listing.watch svc style x).2⟩ := by
  obtain ⟨htracks, hp⟩ := h.tracks.watch svc style x
  rw [← requests_concat, ← handed_concat] at htracks
  refine ⟨htracks, ?_, atEach_concat.mpr ⟨h.ends, h.tellsEndOnce htracks hp⟩⟩
  rw [endTold_concat, hp.reported_iff, h.told, or_comm]

theorem Tracked.stretches {s : Stretch} (h : s.Tracked) (svc : ReadService σ)
    (calls : List (ListingCall × Exchange σ)) : ∀ t ∈ stretches svc s calls, t.Tracked := by
  induction calls generalizing s with
  | nil =>
    intro t ht
    rw [TableExchange.stretches, List.mem_singleton] at ht
    exact ht ▸ h
  | cons call rest ih =>
    obtain ⟨call, x⟩ := call
    cases call with
    | restart =>
      intro t ht
      rcases List.mem_cons.mp ht with rfl | ht
      · exact h
      · exact ih (tracked_start s.listing.session s.listing.scope) t ht
    | pull style => exact ih (h.pull svc style x)

theorem Tracked.faithful {s : Stretch} (h : s.Tracked) : s.Faithful where
  conserved := h.tracks.conserved
  ascending := h.tracks.ascending
  marked before f after hsplit :=
    Intake.marker_of_due (h.tracks.asked.due before f after hsplit)
  closed := h.tracks.asked.continued
  ends := h.ends
  counted := h.tracks.counted

end Stretch

/-- Between two restarts a listing is faithful, whatever its service answers. -/
theorem stretches_faithful (svc : ReadService σ) (session : TableSession) (scope : Scope)
    (calls : List (ListingCall × Exchange σ)) :
    ∀ s ∈ stretches svc ⟨[], .start session scope⟩ calls, s.Faithful := by
  intro s hs
  exact ((Stretch.tracked_start session scope).stretches svc calls s hs).faithful

/-- A service whose answers to page requests are laid down, and that has nothing else to offer. -/
def ReadService.taped : ReadService (List (Except Failure SplitPage)) where
  lookUp _ _ _ tape := (.error (.of .unknown "not on the tape"), tape)
  release _ tape := (.ok (), tape)
  createRead _ _ tape := (.error (.of .unknown "not on the tape"), tape)
  listSplits _ _ _ tape :=
    match tape with
    | [] => (.error (.of .unknown "the tape has ended"), [])
    | answer :: rest => (answer, rest)
  listRange _ _ _ tape := (.error (.of .unknown "not on the tape"), tape)

/-- A pull that finds the given answers to come. -/
def onTape (style : PullStyle) (tape : List (Except Failure SplitPage)) :
    ListingCall × Exchange (List (Except Failure SplitPage)) :=
  (.pull style, { service := tape })

def tapedSession : TableSession :=
  ⟨"session-1", ⟨"p", "default", "t"⟩, .batchRead, .active, none, none⟩

/-- A fault before the first page and one before the second, pulls of both styles, and a restart. -/
def tapedCalls : List (ListingCall × Exchange (List (Except Failure SplitPage))) :=
  let first : SplitPage := ⟨[⟨"a", "1"⟩, ⟨"b", "2"⟩], some ⟨"m"⟩, none⟩
  let last : SplitPage := ⟨[⟨"c", "3"⟩], none, none⟩
  [onTape (.split 0) [], onTape (.split 3) [.ok first], onTape .page [],
    onTape (.split 3) [.error (.of .requestFailed "down")], onTape (.split 3) [.ok last],
    onTape .page [], onTape (.split 0) [], (.restart, { service := [] }), onTape .page []]

def tapedStretch : Stretch :=
  (stretches .taped ⟨[], .start tapedSession {}⟩ tapedCalls).headD ⟨[], .start tapedSession {}⟩

theorem stretches_faithful_on_tape :
    tapedStretch ∈ stretches .taped ⟨[], .start tapedSession {}⟩ tapedCalls ∧
      tapedStretch.Faithful ∧
      (Pull.handed tapedStretch.pulls).map (·.key) = ["a", "b", "c"] ∧
      (Pull.requests tapedStretch.pulls).map (·.marker) =
        [none, none, some ⟨"m"⟩, some ⟨"m"⟩] := by
  have hmem : tapedStretch ∈ stretches .taped ⟨[], .start tapedSession {}⟩ tapedCalls :=
    List.mem_cons_self
  refine ⟨hmem, stretches_faithful .taped tapedSession {} tapedCalls _ hmem, ?_, ?_⟩
  · decide +kernel
  · decide +kernel

/-- Not every request after the first one carries a marker: the first one may have failed. -/
theorem second_request_unmarked :
    ¬∀ f ∈ (Pull.requests tapedStretch.pulls).tail,
      ∃ m, f.marker = some m ∧ m.isEmpty = false := by
  intro h
  have hmarkers : ((Pull.requests tapedStretch.pulls).tail.map (·.marker)) =
      [none, some ⟨"m"⟩, some ⟨"m"⟩] := by decide +kernel
  have hnone : none ∈ (Pull.requests tapedStretch.pulls).tail.map (·.marker) := by
    rw [hmarkers]
    exact List.mem_cons_self
  obtain ⟨f, hf, hmarker⟩ := List.mem_map.mp hnone
  obtain ⟨m, hm, _⟩ := h f hf
  rw [hmarker] at hm
  contradiction

end TableExchange
