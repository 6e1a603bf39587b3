import TableExchange.Proofs.Read.Stretches

/-!
Pulls of pages that fail. Whatever failed, the listing keeps its place: it holds the same splits and
makes the same request again. Only the key of its order guard may have moved, by the splits of a
refused page that came in order, and then it bars pages that would have been accepted before.
-/
namespace TableExchange

variable {σ : Type}

/-- The splits of a page come in as a whole exactly if their keys ascend from the last one on. -/
theorem ascent_eq_self_iff {last : Option String} {splits : List Split} :
    ascent last splits = splits ↔
      (splits.map (·.key)).Pairwise (· < ·) ∧ ∀ s ∈ splits, ∀ k ∈ last, k < s.key := by
  refine ⟨fun h => ?_, fun h => ascent_eq_self h.1 h.2⟩
  have hkeys := ascent_keys last splits
  rwa [h] at hkeys

/-- The guard's key has gone past an earlier one. -/
def Passed (last key : Option String) : Prop :=
  ∃ k ∈ key, ∀ j ∈ last, j < k

theorem Passed.ne {last key : Option String} (h : Passed last key) : key ≠ last := by
  rintro rfl
  obtain ⟨k, hk, hpast⟩ := h
  exact lt_irrefl k (hpast k hk)

theorem Passed.trans {a b c : Option String} (h : Passed a b) (h' : Passed b c) : Passed a c := by
  obtain ⟨j, hj, hpast⟩ := h
  obtain ⟨k, hk, hpast'⟩ := h'
  exact ⟨k, hk, fun i hi => lt_trans (hpast i hi) (hpast' j hj)⟩

/-- A page moves the guard's key past where it was, unless its first split is out of order. -/
theorem guardAfter_moves (last : Option String) (splits : List Split) :
    guardAfter last splits = last ∧ ascent last splits = [] ∨
      Passed last (guardAfter last splits) ∧ ascent last splits ≠ [] := by
  cases hin : (ascent last splits).getLast? with
  | none =>
    rw [List.getLast?_eq_none_iff] at hin
    exact .inl ⟨by simp [guardAfter, hin], hin⟩
  | some s =>
    have hs := List.mem_of_getLast? hin
    refine .inr ⟨⟨s.key, by simp [guardAfter, hin], ?_⟩, List.ne_nil_of_mem hs⟩
    exact (ascent_keys last splits).2 s hs

/-- Past the guard's key fewer pages ascend: those that did before and have no split up to it. -/
theorem ascent_past_iff {last key : Option String} (h : key = last ∨ Passed last key)
    (splits : List Split) :
    ascent key splits = splits ↔
      ascent last splits = splits ∧ ∀ s ∈ splits, ∀ k ∈ key, k < s.key := by
  simp only [ascent_eq_self_iff]
  constructor
  · rintro ⟨hpair, habove⟩
    refine ⟨⟨hpair, ?_⟩, habove⟩
    rcases h with rfl | ⟨k, hk, hpast⟩
    · exact habove
    · exact fun s hs j hj => lt_trans (hpast j hj) (habove s hs k hk)
  · rintro ⟨⟨hpair, -⟩, habove⟩
    exact ⟨hpair, habove⟩

namespace Listing

theorem fetch_ok_iff (svc : ReadService σ) (marker : Option Marker) (l : Listing) (x : Exchange σ)
    (answer : Option (List Split)) :
    (l.fetch svc marker x).1 = .ok answer ↔
      ∃ page, (fetchPage svc l.session l.scope marker x).1 = .ok page ∧
        answer = some page.splits ∧ ascent l.lastKey page.splits = page.splits := by
  unfold fetch
  rcases fetchPage svc l.session l.scope marker x with ⟨reply, x₁⟩
  cases reply with
  | error f => simp
  | ok page =>
    rcases hcheck : l.checkOrder page.splits with ⟨verdict, l₁⟩
    have hverdict := l.checkOrder_answer page.splits
    rw [hcheck] at hverdict
    rcases hverdict with ⟨hverdict, hascent⟩ | ⟨key, last, hverdict, hascent⟩
    · obtain rfl : verdict = .ok () := hverdict
      simp [hcheck, hascent, eq_comm]
    · obtain rfl : verdict = .error (l.outOfOrder key last) := hverdict
      simp [hcheck, hascent]

/-- A pull from an empty buffer tells the end, or hands out a page that ascends. -/
theorem nextPage_ok_iff (svc : ReadService σ) {l : Listing} (hb : l.buffered = []) (x : Exchange σ)
    (answer : Option (List Split)) :
    (l.nextPage svc x).1 = .ok answer ↔
      (l.stage = .exhausted ∧ answer = none) ∨ ∃ marker page, l.stage.due = some marker ∧
        (fetchPage svc l.session l.scope marker x).1 = .ok page ∧ answer = some page.splits ∧
          ascent l.lastKey page.splits = page.splits := by
  have hempty : (!l.buffered.isEmpty) = false := by simp [hb]
  simp only [nextPage, hempty, Bool.false_eq_true, if_false]
  cases hstage : l.stage with
  | initial => simp [ListingStage.due, fetch_ok_iff]
  | following marker => simp [ListingStage.due, fetch_ok_iff]
  | exhausted => simp [ListingStage.due, eq_comm]
  | reported => simp [ListingStage.due]

/-- With its guard's key moved on, a listing hands out what it would have handed out before, if that
is past the key. -/
theorem nextPage_past_iff (svc : ReadService σ) {l : Listing} (hb : l.buffered = [])
    {key : Option String} (h : key = l.lastKey ∨ Passed l.lastKey key) (x : Exchange σ)
    (answer : Option (List Split)) :
    (nextPage svc { l with lastKey := key } x).1 = .ok answer ↔
      (l.nextPage svc x).1 = .ok answer ∧ ∀ s ∈ answer.getD [], ∀ k ∈ key, k < s.key := by
  have hb' : ({ l with lastKey := key } : Listing).buffered = [] := hb
  rw [nextPage_ok_iff svc hb, nextPage_ok_iff svc hb']
  constructor
  · rintro (⟨hend, rfl⟩ | ⟨marker, page, hdue, hpage, rfl, hascent⟩)
    · exact ⟨.inl ⟨hend, rfl⟩, by simp⟩
    · obtain ⟨hbefore, hpast⟩ := (ascent_past_iff h page.splits).mp hascent
      exact ⟨.inr ⟨marker, page, hdue, hpage, rfl, hbefore⟩, hpast⟩
  · rintro ⟨⟨hend, rfl⟩ | ⟨marker, page, hdue, hpage, rfl, hbefore⟩, hpast⟩
    · exact .inl ⟨hend, rfl⟩
    · have hascent := (ascent_past_iff h page.splits).mpr ⟨hbefore, hpast⟩
      exact .inr ⟨marker, page, hdue, hpage, rfl, hascent⟩

theorem buffered_of_error {svc : ReadService σ} {l : Listing} {x : Exchange σ} {f : Failure}
    (h : (l.nextPage svc x).1 = .error f) : l.buffered = [] := by
  by_contra hb
  simp [nextPage, hb] at h

theorem journal_fetch (svc : ReadService σ) (marker : Option Marker) (l : Listing)
    (y : Exchange (σ × List Fetch)) :
    (l.fetch svc.journaled marker y).2.2.journal =
      (fetchPage svc.journaled l.session l.scope marker y).2.journal := by
  unfold fetch
  rcases fetchPage svc.journaled l.session l.scope marker y with ⟨reply, y₁⟩
  cases reply with
  | error f => rfl
  | ok page =>
    rcases hcheck : l.checkOrder page.splits with ⟨verdict, l₁⟩
    cases verdict <;> simp [hcheck]

/-- The guard's key has no part in what a pull asks for. -/
theorem journal_nextPage (svc : ReadService σ) (l : Listing) (key : Option String)
    (y : Exchange (σ × List Fetch)) :
    (nextPage svc.journaled { l with lastKey := key } y).2.2.journal =
      (l.nextPage svc.journaled y).2.2.journal := by
  unfold nextPage
  dsimp only
  split
  · rfl
  · cases l.stage with
    | initial => simp only [journal_fetch]
    | following marker => simp only [journal_fetch]
    | exhausted => rfl
    | reported => rfl

def arrived (fetches : List Fetch) : List SplitPage :=
  fetches.filterMap (·.answer.toOption)

/-- Pulls of pages in a row that all fail, with their requests. Every pull finds its own
surroundings, since others may have used the service since the last pull. -/
inductive Fails (svc : ReadService σ) (l : Listing) : List Fetch → Listing → Prop
  | once {x : Exchange σ} {f : Failure} (h : (l.watch svc .page x).1.answer = some (.error f)) :
      Fails svc l (l.watch svc .page x).1.fetches (l.watch svc .page x).2
  | again {fetches : List Fetch} {l₁ : Listing} (earlier : Fails svc l fetches l₁)
      {x : Exchange σ} {f : Failure} (h : (l₁.watch svc .page x).1.answer = some (.error f)) :
      Fails svc l (fetches ++ (l₁.watch svc .page x).1.fetches) (l₁.watch svc .page x).2

/-- Where pulls that failed leave a listing, and what the next pull makes of that. -/
structure Setback (l : Listing) (fetches : List Fetch) (l' : Listing) : Prop where
  /-- The stage, the buffer and the number of pages are as before; so is all but the guard's key. -/
  place : l' = { l with lastKey := l'.lastKey }
  /-- The guard's key is as before exactly if every page that came was refused at its first
  split. -/
  still_iff : l'.lastKey = l.lastKey ↔
    ∀ page ∈ arrived fetches, ascent l.lastKey page.splits = []
  onward : l'.lastKey = l.lastKey ∨ Passed l.lastKey l'.lastKey
  /-- The next pull makes the request that it would have made before. -/
  request : ∀ {τ : Type} (svc : ReadService τ) (x : Exchange τ),
    (l'.watch svc .page x).1.fetches = (l.watch svc .page x).1.fetches
  /-- It succeeds if it would have done so before, with splits past the guard's key. -/
  succeeds_iff : ∀ {τ : Type} (svc : ReadService τ) (x : Exchange τ) (page : Option (List Split)),
    (l'.watch svc .page x).1.answer = some (.ok page) ↔
      (l.watch svc .page x).1.answer = some (.ok page) ∧
        ∀ s ∈ page.getD [], ∀ k ∈ l'.lastKey, k < s.key

/-- What one failed pull does. -/
theorem Paged.of_error {l l' : Listing} {fetches : List Fetch} {f : Failure}
    (h : Paged l fetches (.error f) l') :
    l' = l ∧ arrived fetches = [] ∨ ∃ page, arrived fetches = [page] ∧
      l' = { l with lastKey := guardAfter l.lastKey page.splits } := by
  generalize hanswer : Except.error f = answer at h
  cases h with
  | buffered hb => simp at hanswer
  | fetched hb hdue hf =>
    cases hf with
    | failed failure => exact .inl ⟨rfl, rfl⟩
    | refused page failure hkind hpage => exact .inr ⟨page, rfl, rfl⟩
    | accepted page hpage => simp at hanswer
  | stale failure hstage hmarker => exact .inl ⟨rfl, rfl⟩
  | ended hb hstage => simp at hanswer
  | spent failure hb hstage hkind => exact .inl ⟨rfl, rfl⟩

/-- What failed pulls have made of a listing: the guard's key is where it was and no page that came
began in order, or one did and the key is past where it was. -/
structure Moved (l : Listing) (fetches : List Fetch) (l' : Listing) : Prop where
  place : l' = { l with lastKey := l'.lastKey }
  guard : l'.lastKey = l.lastKey ∧ (∀ page ∈ arrived fetches, ascent l.lastKey page.splits = []) ∨
    Passed l.lastKey l'.lastKey ∧ ∃ page ∈ arrived fetches, ascent l.lastKey page.splits ≠ []

theorem moved_start (l : Listing) : l.Moved [] l :=
  ⟨rfl, .inl ⟨rfl, by simp [arrived]⟩⟩

theorem Moved.pull {l l₁ l₂ : Listing} {fetches new : List Fetch} {f : Failure}
    (h : l.Moved fetches l₁) (hp : Paged l₁ new (.error f) l₂) : l.Moved (fetches ++ new) l₂ := by
  have harrived : arrived (fetches ++ new) = arrived fetches ++ arrived new := by simp [arrived]
  rcases hp.of_error with ⟨rfl, hnone⟩ | ⟨page, hone, rfl⟩
  · rw [hnone, List.append_nil] at harrived
    refine ⟨h.place, ?_⟩
    rw [harrived]
    exact h.guard
  · have hplace := h.place
    refine ⟨by rw [hplace], ?_⟩
    rw [harrived, hone]
    rcases h.guard with ⟨hsame, hall⟩ | ⟨hpast, p, hmem, hbegun⟩
    · rw [hsame]
      rcases guardAfter_moves l.lastKey page.splits with ⟨hstill, hfirst⟩ | ⟨hpast, hbegun⟩
      · refine .inl ⟨hstill, ?_⟩
        exact List.forall_mem_append.mpr ⟨hall, List.forall_mem_singleton.mpr hfirst⟩
      · exact .inr ⟨hpast, page, by simp, hbegun⟩
    · refine .inr ⟨?_, p, List.mem_append_left _ hmem, hbegun⟩
      rcases guardAfter_moves l₁.lastKey page.splits with ⟨hstill, -⟩ | ⟨hfurther, -⟩
      · exact hstill.symm ▸ hpast
      · exact hpast.trans hfurther

theorem Fails.moved {svc : ReadService σ} {l l' : Listing} {fetches : List Fetch}
    (h : Fails svc l fetches l') : l.buffered = [] ∧ l.Moved fetches l' := by
  have hpull : ∀ {l₁ : Listing} {earlier : List Fetch} {x : Exchange σ} {f : Failure},
      l.Moved earlier l₁ → (l₁.watch svc .page x).1.answer = some (.error f) →
        l.Moved (earlier ++ (l₁.watch svc .page x).1.fetches) (l₁.watch svc .page x).2 := by
    intro l₁ earlier x f hmoved hf
    obtain ⟨answer, hanswer, hp⟩ := l₁.watch_paged svc x
    obtain rfl : answer = .error f := Option.some.inj (hanswer.symm.trans hf)
    exact hmoved.pull hp
  induction h with
  | once hf => exact ⟨buffered_of_error (Option.some.inj hf), hpull l.moved_start hf⟩
  | again earlier hf ih => exact ⟨ih.1, hpull ih.2 hf⟩

theorem Moved.setback {l l' : Listing} {fetches : List Fetch} (hb : l.buffered = [])
    (h : l.Moved fetches l') : l.Setback fetches l' where
  place := h.place
  still_iff := by
    rcases h.guard with ⟨hsame, hall⟩ | ⟨hpast, page, hmem, hbegun⟩
    · exact iff_of_true hsame hall
    · exact iff_of_false hpast.ne fun hall => hbegun (hall page hmem)
  onward := h.guard.imp And.left And.left
  request svc x := by
    rw [h.place]
    exact journal_nextPage svc l _ (x.watched Fetch)
  succeeds_iff svc x page := by
    simp only [watch, PullStyle.pull, Option.some.injEq]
    rw [h.place]
    exact nextPage_past_iff svc hb (h.guard.imp And.left And.left) x page

end Listing

/-- However pulls of pages fail, and however often in a row, the listing keeps its place. -/
theorem failed_pulls_keep_place {svc : ReadService σ} {l l' : Listing} {fetches : List Fetch}
    (h : Listing.Fails svc l fetches l') : l.Setback fetches l' :=
  h.moved.2.setback h.moved.1

/-- A page whose keys do not ascend, but whose first split is in order. -/
def swappedPage : SplitPage :=
  ⟨[⟨"b", "2"⟩, ⟨"a", "1"⟩], some ⟨"m"⟩, none⟩

def mendedPage : SplitPage :=
  ⟨[⟨"a", "1"⟩, ⟨"b", "2"⟩], some ⟨"m"⟩, none⟩

/-- A new listing after one pull that the service let fail, and one whose page was refused. -/
def setBack : Listing :=
  let down : Except Failure SplitPage := .error (.of .requestFailed "down")
  ((((Listing.start tapedSession {}).watch .taped .page { service := [down] }).2).watch .taped .page
    { service := [.ok swappedPage] }).2

theorem failed_pulls_keep_place_on_tape :
    ∃ fetches, Listing.Fails .taped (.start tapedSession {}) fetches setBack ∧
      (Listing.start tapedSession {}).Setback fetches setBack ∧ setBack.lastKey = some "b" := by
  have hfails : Listing.Fails .taped (.start tapedSession {}) _ setBack :=
    .again (.once rfl) rfl
  exact ⟨_, hfails, failed_pulls_keep_place hfails, by decide⟩

/-- A refused page bars the page that it should have been, which a new listing hands out. -/
theorem refused_page_bars_retry :
    ((Listing.start tapedSession {}).watch .taped .page
        { service := [.ok mendedPage] }).1.answer = some (.ok (some mendedPage.splits)) ∧
      setBack.lastKey ≠ (Listing.start tapedSession {}).lastKey ∧
      ∃ f, (setBack.watch .taped .page { service := [.ok mendedPage] }).1.answer =
        some (.error f) ∧ f.kind = .orderViolated :=
  ⟨rfl, by decide, _, rfl, rfl⟩

end TableExchange
