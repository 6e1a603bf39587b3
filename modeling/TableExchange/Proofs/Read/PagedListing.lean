import TableExchange.Proofs.Memory.Paging
import TableExchange.Proofs.Read.ListingTracks

/-!
A listing of a session of the in-memory service. The pages that the service cuts at the markers
follow each other without a gap, their keys pass the order check, and every step of a pull brings
the listing closer to its end.
-/
namespace TableExchange

open Memory (Store Serves Addressable room slice markerAt pageCount)

/-- The session and the scope that are listed, the splits that the session was created with, and
the requests that came before. -/
structure Stock where
  session : TableSession
  scope : Scope
  splits : List Split
  earlier : List (Option Marker)
  ascending : (splits.map (·.key)).Pairwise (· < ·)
  fits : Addressable splits

namespace Stock

variable (st : Stock)

def size : Nat :=
  room st.scope

def total : Nat :=
  pageCount st.size st.splits.length

def taken (k : Nat) : List Split :=
  st.splits.take (k * st.size)

/-- Where a listing stands after a number of pages. -/
def stageAt (k : Nat) : ListingStage :=
  if k = 0 then .initial
  else if k * st.size < st.splits.length then .following ⟨toString (k * st.size)⟩
  else .exhausted

/-- What becomes of a listing when its next page comes in. -/
def next (l : Listing) : Listing :=
  { l with
    stage := st.stageAt (l.pagesFetched + 1)
    lastKey := (st.taken (l.pagesFetched + 1)).getLast?.map (·.key)
    pagesFetched := l.pagesFetched + 1 }

variable {st} {k : Nat}

theorem size_pos : 0 < st.size :=
  Memory.room_pos st.scope

/-- The stage says whether a page is due. -/
theorem due_stageAt : (st.stageAt k).due =
    if k = 0 ∨ k * st.size < st.splits.length then some (markerAt st.size k) else none := by
  by_cases hzero : k = 0
  · simp [stageAt, hzero, ListingStage.due, markerAt]
  · by_cases hk : k * st.size < st.splits.length
    · simp [stageAt, hzero, hk, ListingStage.due, markerAt]
    · simp [stageAt, hzero, hk, ListingStage.due]

theorem exhausted_iff :
    st.stageAt k = .exhausted ↔ k ≠ 0 ∧ st.splits.length ≤ k * st.size := by
  unfold stageAt
  split
  · next hzero => simp [hzero]
  · next hzero =>
    split
    · next hlt => simp [hlt]
    · next hle => simpa [hzero] using not_lt.mp hle

/-- A key that is not above the first one is not above any. -/
theorem le_key {first : String} (hfirst : ∀ split ∈ st.splits.head?, first ≤ split.key)
    {split : Split} (hsplit : split ∈ st.splits) : first ≤ split.key := by
  have hascending := st.ascending
  cases hsplits : st.splits with
  | nil => simp [hsplits] at hsplit
  | cons s rest =>
    rw [hsplits] at hfirst hsplit hascending
    have hs : first ≤ s.key := hfirst s rfl
    rcases List.mem_cons.mp hsplit with rfl | hrest
    · exact hs
    · exact hs.trans (le_of_lt ((List.pairwise_cons.mp hascending).1 _ (List.mem_map_of_mem hrest)))

theorem stageAt_ne_reported : st.stageAt k ≠ .reported := by
  unfold stageAt
  split
  · simp
  · split <;> simp

/-- The keys of a page ascend from the last one before it. -/
theorem ascent_slice : ascent ((st.taken k).getLast?.map (·.key)) (slice st.size k st.splits) =
    slice st.size k st.splits := by
  have hall := st.ascending
  rw [← List.take_append_drop (k * st.size) st.splits, List.map_append,
    List.pairwise_append] at hall
  obtain ⟨-, hrest, hacross⟩ := hall
  have hsub : (slice st.size k st.splits).Sublist (st.splits.drop (k * st.size)) :=
    List.take_sublist _ _
  refine ascent_eq_self (hrest.sublist (hsub.map _)) ?_
  intro s hs key hkey
  obtain ⟨last, hlast, rfl⟩ := Option.map_eq_some_iff.mp hkey
  exact hacross last.key (List.mem_map_of_mem (List.mem_of_getLast? hlast)) s.key
    (List.mem_map_of_mem (hsub.subset hs))

theorem guardAfter_slice :
    guardAfter ((st.taken k).getLast?.map (·.key)) (slice st.size k st.splits) =
      (st.taken (k + 1)).getLast?.map (·.key) := by
  have htaken : st.taken (k + 1) = st.taken k ++ slice st.size k st.splits :=
    (Memory.take_slice st.size k st.splits).symm
  rw [guardAfter, ascent_slice, htaken, List.getLast?_append]
  cases (slice st.size k st.splits).getLast? with
  | none => rfl
  | some s => rfl

/-- Behind a page a listing stands at the next one. -/
theorem accept_page (hk : k * st.size ≤ st.splits.length) (l : Listing) :
    l.accept (Memory.page st.splits st.scope (k * st.size).toUInt64) =
      { l with stage := st.stageAt (k + 1), pagesFetched := l.pagesFetched + 1 } := by
  have hpage := Memory.page_eq st.fits hk
  by_cases hlast : st.splits.length ≤ (k + 1) * st.size
  · have hcont : (Memory.page st.splits st.scope (k * st.size).toUInt64).continuation = none := by
      rw [size, hpage, ← size, if_pos hlast]
      rfl
    simp only [Listing.accept, hcont, stageAt, Nat.succ_ne_zero, if_false, not_lt.mpr hlast]
  · have hcont : (Memory.page st.splits st.scope (k * st.size).toUInt64).continuation =
        some ⟨toString ((k + 1) * st.size)⟩ := by
      rw [size, hpage, ← size, if_neg hlast]
      simp only [SplitPage.continuation, Option.filter_some, Marker.isEmpty,
        Memory.isEmpty_toString, Bool.not_false, if_true]
    simp only [Listing.accept, hcont, stageAt, Nat.succ_ne_zero, if_false, not_le.mp hlast, if_true]

end Stock

structure Paging (st : Stock) (handed : List Split) (l : Listing) (x : Exchange Store) : Prop where
  serves : Serves x.service st.session.id st.splits
  requests : x.service.listRequests =
    st.earlier ++ (List.range l.pagesFetched).map (markerAt st.size)
  session : l.session = st.session
  scope : l.scope = st.scope
  stage : l.stage = st.stageAt l.pagesFetched ∨
    l.stage = .reported ∧ l.buffered = [] ∧ st.stageAt l.pagesFetched = .exhausted
  guard : l.lastKey = (st.taken l.pagesFetched).getLast?.map (·.key)
  conserved : handed ++ l.buffered = st.taken l.pagesFetched
  bounded : l.pagesFetched ≤ st.total

structure Advanced (st : Stock) (handed : List Split) (l : Listing) (answer : Handout)
    (l' : Listing) (x' : Exchange Store) : Prop where
  paging : Paging st (handed ++ answer.splits) l' x'
  told : l'.stage = .reported ↔ answer = some (.ok none) ∨ l.stage = .reported
  failed : ∀ f, answer = some (.error f) → l.stage = .reported
  /-- Each step fetches a page, hands out a split, or tells the end. -/
  progress : l'.stage ≠ .reported →
    l.pagesFetched + handed.length < l'.pagesFetched + (handed ++ answer.splits).length

/-- What a pull of a page does: it hands out what is held, or fetches a page, or tells the end, or
fails after that. -/
inductive Turned (st : Stock) (handed : List Split) (l : Listing) (x : Exchange Store) :
    Except Failure (Option (List Split)) → Listing → Exchange Store → Prop
  | held (h : l.buffered ≠ []) :
      Turned st handed l x (.ok (some l.buffered)) { l with buffered := [] } x
  | fetched {page : List Split} {l' : Listing} {x' : Exchange Store} (h : l.buffered = [])
      (hcount : l'.pagesFetched = l.pagesFetched + 1) (hempty : l'.buffered = [])
      (hstage : l.stage ≠ .reported) (hstage' : l'.stage ≠ .reported)
      (hpaging : Paging st (handed ++ page) l' x') :
      Turned st handed l x (.ok (some page)) l' x'
  | ended (h : l.buffered = []) (hstage : l.stage = .exhausted) :
      Turned st handed l x (.ok none) { l with stage := .reported } x
  | spent (f : Failure) (h : l.buffered = []) (hstage : l.stage = .reported) :
      Turned st handed l x (.error f) l x

variable {st : Stock} {handed : List Split} {l l₁ l₂ : Listing} {x x₁ x₂ : Exchange Store}

/-- A listing with a page due asks for it, if it holds no splits. -/
theorem Listing.nextPage_of_due {σ : Type} (svc : ReadService σ) {marker : Option Marker}
    (hb : l.buffered = []) (hdue : l.stage.due = some marker) (x : Exchange σ) :
    l.nextPage svc x = l.fetch svc marker x := by
  have hempty : (!l.buffered.isEmpty) = false := by simp [hb]
  simp only [Listing.nextPage, hempty, Bool.false_eq_true, if_false]
  cases hstage : l.stage with
  | initial =>
    rw [hstage] at hdue
    obtain rfl : none = marker := Option.some.inj hdue
    rfl
  | following m =>
    rw [hstage] at hdue
    obtain rfl : some m = marker := Option.some.inj hdue
    rfl
  | exhausted | reported =>
    rw [hstage] at hdue
    contradiction

/-- The next page comes in as the service cut it. -/
theorem Paging.fetch_eq (h : Paging st handed l x)
    (hle : l.pagesFetched * st.size ≤ st.splits.length) :
    ∃ x', l.fetch Memory.reading (markerAt st.size l.pagesFetched) x =
        (.ok (some (slice st.size l.pagesFetched st.splits)), st.next l, x') ∧
      x'.service = x.service.requested (markerAt st.size l.pagesFetched) := by
  have hask : fetchPage Memory.reading l.session l.scope (markerAt st.size l.pagesFetched) x =
      (.ok (Memory.page st.splits st.scope (l.pagesFetched * st.size).toUInt64),
        { x with service := x.service.requested (markerAt st.size l.pagesFetched) }) := by
    have hlist := h.serves.listSplits st.fits hle
    simp only [fetchPage, Memory.isEmpty_markerAt, Bool.false_eq_true, if_false, h.session,
      h.scope, Exchange.ask, Memory.reading, Stock.size, hlist]
  have hsplits : (Memory.page st.splits st.scope (l.pagesFetched * st.size).toUInt64).splits =
      slice st.size l.pagesFetched st.splits := by
    rw [Stock.size, Memory.page_eq st.fits hle]
  -- The keys of the page pass the check.
  have hcheck : l.checkOrder (slice st.size l.pagesFetched st.splits) =
      (.ok (), { l with lastKey := (st.taken (l.pagesFetched + 1)).getLast?.map (·.key) }) := by
    refine Prod.ext ?_ ?_
    · rcases l.checkOrder_answer (slice st.size l.pagesFetched st.splits) with
        ⟨hok, -⟩ | ⟨_, _, -, hne⟩
      · exact hok
      · exact absurd (h.guard ▸ Stock.ascent_slice) hne
    · rw [l.checkOrder_listing, h.guard, Stock.guardAfter_slice]
  simp only [Listing.fetch, hask, hsplits, hcheck, Stock.accept_page hle]
  exact ⟨_, rfl, rfl⟩

theorem Paging.next (h : Paging st handed l x) (hb : l.buffered = [])
    (hdue : l.pagesFetched = 0 ∨ l.pagesFetched * st.size < st.splits.length)
    (hservice : x₁.service = x.service.requested (markerAt st.size l.pagesFetched)) :
    Paging st (handed ++ slice st.size l.pagesFetched st.splits) (st.next l) x₁ where
  serves := by
    rw [hservice]
    exact h.serves.of_eq rfl rfl
  requests := by
    show _ = st.earlier ++ (List.range (l.pagesFetched + 1)).map (markerAt st.size)
    rw [hservice, List.range_succ, List.map_append, ← List.append_assoc, ← h.requests]
    rfl
  session := h.session
  scope := h.scope
  stage := .inl rfl
  guard := rfl
  conserved := by
    have htaken := h.conserved
    rw [hb, List.append_nil] at htaken
    show (handed ++ _) ++ l.buffered = _
    rw [hb, List.append_nil, htaken]
    exact Memory.take_slice _ _ _
  bounded := by
    rcases hdue with hzero | hlt
    · show l.pagesFetched + 1 ≤ st.total
      rw [hzero]
      exact le_max_left _ _
    · exact Memory.lt_pageCount Stock.size_pos hlt

/-- What a pull of a page does. -/
theorem Paging.turned (h : Paging st handed l x) :
    Turned st handed l x (l.nextPage Memory.reading x).1 (l.nextPage Memory.reading x).2.1
      (l.nextPage Memory.reading x).2.2 := by
  by_cases hb : l.buffered = []
  · have hempty : (!l.buffered.isEmpty) = false := by simp [hb]
    rcases h.stage with hstage | ⟨hreported, -, -⟩
    · by_cases hdue : l.pagesFetched = 0 ∨ l.pagesFetched * st.size < st.splits.length
      · have hmarker : l.stage.due = some (markerAt st.size l.pagesFetched) := by
          rw [hstage, Stock.due_stageAt, if_pos hdue]
        have hle : l.pagesFetched * st.size ≤ st.splits.length := by
          rcases hdue with hzero | hlt
          · rw [hzero, Nat.zero_mul]
            exact Nat.zero_le _
          · exact hlt.le
        obtain ⟨x', hfetch, hservice⟩ := h.fetch_eq hle
        rw [l.nextPage_of_due Memory.reading hb hmarker, hfetch]
        have hbefore : l.stage ≠ .reported := hstage ▸ Stock.stageAt_ne_reported
        have hafter : (st.next l).stage ≠ .reported :=
          Stock.stageAt_ne_reported (k := l.pagesFetched + 1)
        exact .fetched hb rfl hb hbefore hafter (h.next hb hdue hservice)
      · have hexhausted : l.stage = .exhausted := by
          rw [hstage, Stock.stageAt, if_neg (not_or.mp hdue).1, if_neg (not_or.mp hdue).2]
        simp only [Listing.nextPage, hempty, Bool.false_eq_true, if_false, hexhausted]
        exact .ended hb hexhausted
    · simp only [Listing.nextPage, hempty, Bool.false_eq_true, if_false, hreported]
      exact .spent _ hb hreported
  · have hne : (!l.buffered.isEmpty) = true := by simpa using hb
    simp only [Listing.nextPage, hne, if_true]
    exact .held hb

/-- The end may be told once nothing is held and no page is due. -/
theorem Paging.report (h : Paging st handed l x) (hb : l.buffered = [])
    (hstage : l.stage = .exhausted) : Paging st handed { l with stage := .reported } x := by
  have hexhausted : st.stageAt l.pagesFetched = .exhausted := by
    rcases h.stage with hat | ⟨hreported, -, -⟩
    · rw [← hat, hstage]
    · rw [hstage] at hreported
      contradiction
  exact ⟨h.serves, h.requests, h.session, h.scope, .inr ⟨rfl, hb, hexhausted⟩, h.guard,
    h.conserved, h.bounded⟩

/-- What is held may be handed out. -/
theorem Paging.hand (h : Paging st handed l x) {now later : List Split}
    (hb : l.buffered = now ++ later) (hne : now ≠ []) :
    Paging st (handed ++ now) { l with buffered := later } x := by
  have hstage : l.stage = st.stageAt l.pagesFetched := by
    rcases h.stage with hat | ⟨-, hempty, -⟩
    · exact hat
    · rw [hb] at hempty
      exact absurd (List.append_eq_nil_iff.mp hempty).1 hne
  have hconserved := h.conserved
  rw [hb, ← List.append_assoc] at hconserved
  exact ⟨h.serves, h.requests, h.session, h.scope, .inl hstage, h.guard, hconserved, h.bounded⟩

/-- What came in may be held back. -/
theorem Paging.hold {page : List Split} (h : Paging st (handed ++ page) l x) (hb : l.buffered = [])
    (hstage : l.stage ≠ .reported) : Paging st handed { l with buffered := page } x := by
  have hat := h.stage.resolve_right fun hreported => hstage hreported.1
  have hconserved := h.conserved
  rw [hb, List.append_nil] at hconserved
  exact ⟨h.serves, h.requests, h.session, h.scope, .inl hat, h.guard, hconserved, h.bounded⟩

theorem Turned.advanced (h : Paging st handed l x) {answer : Except Failure (Option (List Split))}
    (ht : Turned st handed l x answer l₁ x₁) :
    Advanced st handed l (some answer) l₁ x₁ := by
  cases ht with
  | held hb =>
    have hpaging := h.hand (List.append_nil _).symm hb
    refine ⟨hpaging, by simp, by simp, ?_⟩
    intro _
    have hpos := List.length_pos_iff.mpr hb
    simp only [Handout.splits_some, List.length_append]
    omega
  | fetched hb hcount hempty hstage hstage' hpaging =>
    refine ⟨hpaging, by simp [hstage, hstage'], by simp, ?_⟩
    intro _
    simp only [Handout.splits_some, List.length_append, hcount]
    omega
  | ended hb hstage =>
    refine ⟨by simpa using h.report hb hstage, by simp, by simp, by simp⟩
  | spent f hb hstage =>
    exact ⟨by simpa using h, by simp, fun _ _ => hstage, fun hne => absurd hstage hne⟩

/-- One step towards a split. -/
theorem Paging.stepped (h : Paging st handed l x) :
    Advanced st handed l (.ofSplit (Listing.stepSplit Memory.reading (l, x)).1)
      (Listing.stepSplit Memory.reading (l, x)).2.1
      (Listing.stepSplit Memory.reading (l, x)).2.2 := by
  cases hb : l.buffered with
  | cons s rest =>
    have hfront : l.buffered = [s] ++ rest := hb
    have hpaging := h.hand hfront (List.cons_ne_nil s [])
    simp only [Listing.stepSplit, hb]
    refine ⟨hpaging, by simp [Handout.ofSplit], by simp [Handout.ofSplit], ?_⟩
    intro _
    simp
  | nil =>
    have hturned := h.turned
    simp only [Listing.stepSplit, hb]
    rcases hnext : l.nextPage Memory.reading x with ⟨answer, l', x'⟩
    rw [hnext] at hturned
    rcases answer with f | _ | page
    · exact hturned.advanced h
    · exact hturned.advanced h
    · -- The page is held back for the next step.
      cases hturned with
      | held hne => exact absurd hb hne
      | fetched _ hcount hempty hstage hstage' hpaging =>
        have hheld := hpaging.hold hempty hstage'
        refine ⟨by simpa using hheld, by simp [Handout.ofSplit, hstage, hstage'],
          by simp [Handout.ofSplit], ?_⟩
        intro _
        show l.pagesFetched + handed.length < l'.pagesFetched + _
        rw [Handout.splits_ofSplit_none, List.append_nil, hcount]
        omega

/-- A step that has not settled may be followed by a pull. -/
theorem Advanced.trans {answer : Handout} (h : Advanced st handed l none l₁ x₁)
    (h' : Advanced st handed l₁ answer l₂ x₂) : Advanced st handed l answer l₂ x₂ where
  paging := h'.paging
  told := by
    rw [h'.told, h.told]
    simp
  failed f hf := by
    rcases h.told.mp (h'.failed f hf) with hend | hstage
    · simp at hend
    · exact hstage
  progress hstage := by
    have hstage₁ : l₁.stage ≠ .reported := fun hreported => hstage (h'.told.mpr (.inr hreported))
    have hfirst := h.progress hstage₁
    have hrest := h'.progress hstage
    have hnone : (handed ++ Handout.splits none).length = handed.length := by simp [Handout.splits]
    omega

theorem Paging.nextSplit (h : Paging st handed l x) (more : Nat) :
    Advanced st handed l (.ofSplit (l.nextSplit Memory.reading (more + 1) x).1)
      (l.nextSplit Memory.reading (more + 1) x).2.1
      (l.nextSplit Memory.reading (more + 1) x).2.2 := by
  induction more generalizing l x with
  | zero =>
    have hone : l.nextSplit Memory.reading 1 x = Listing.stepSplit Memory.reading (l, x) :=
      settle_one _ _
    rw [hone]
    exact h.stepped
  | succ more ih =>
    have hstep := h.stepped
    rcases hfirst : Listing.stepSplit Memory.reading (l, x) with ⟨answer, l₁, x₁⟩
    rw [hfirst] at hstep
    cases answer with
    | some a =>
      have hdone : l.nextSplit Memory.reading (more + 2) x = (some a, l₁, x₁) := by
        simp only [Listing.nextSplit, settle, hfirst]
      rw [hdone]
      exact hstep
    | none =>
      have hrest : l.nextSplit Memory.reading (more + 2) x =
          l₁.nextSplit Memory.reading (more + 1) x₁ := by
        simp only [Listing.nextSplit, settle, hfirst]
      have hpaging : Paging st handed l₁ x₁ := by simpa using hstep.paging
      rw [hrest]
      exact hstep.trans (ih hpaging)

/-- A pull keeps the listing where the splits put it, whatever its style. -/
theorem Paging.pull (h : Paging st handed l x) (style : PullStyle) :
    Advanced st handed l (style.pull Memory.reading l x).1 (style.pull Memory.reading l x).2.1
      (style.pull Memory.reading l x).2.2 := by
  cases style with
  | page => exact h.turned.advanced h
  | split more => exact h.nextSplit more

/-- A change elsewhere in the service leaves the listing where it stands. -/
theorem Paging.of_service (h : Paging st handed l x)
    (hserves : Serves x₁.service st.session.id st.splits)
    (hrequests : x₁.service.listRequests = x.service.listRequests) : Paging st handed l x₁ :=
  ⟨hserves, hrequests.trans h.requests, h.session, h.scope, h.stage, h.guard, h.conserved,
    h.bounded⟩

end TableExchange
