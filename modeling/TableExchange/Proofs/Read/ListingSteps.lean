import TableExchange.Proofs.Read.Intake

/-!
What one call can do to a listing, beside the requests that it makes: one inversion for the order
check, for a request, for a pull of a page, and for a pull of a split. Keeping a journal changes no
answer.
-/
namespace TableExchange

variable {σ : Type}

def ListingStage.due : ListingStage → Option (Option Marker)
  | .initial => some none
  | .following marker => some (some marker)
  | .exhausted | .reported => none

/-- Through a view of its state, a service answers page requests as another one does. -/
def ReadService.PagesThrough {τ : Type} (svc : ReadService σ) (svc' : ReadService τ) (v : τ → σ) :
    Prop :=
  ∀ session scope marker t, svc.listSplits session scope marker (v t) =
    ((svc'.listSplits session scope marker t).1, v (svc'.listSplits session scope marker t).2)

theorem ReadService.pagesThrough_journaled (svc : ReadService σ) :
    svc.PagesThrough svc.journaled Prod.fst :=
  fun _ _ _ _ => rfl

namespace Listing

theorem checkOrder_listing (l : Listing) (splits : List Split) :
    (l.checkOrder splits).2 = { l with lastKey := guardAfter l.lastKey splits } := by
  induction splits generalizing l with
  | nil => simp [checkOrder]
  | cons s rest ih =>
    cases hl : l.lastKey with
    | none =>
      rw [guardAfter_cons_of_ascends rest rfl]
      simpa only [checkOrder, hl] using ih { l with lastKey := some s.key }
    | some last =>
      by_cases hle : s.key ≤ last
      · have hstop : ascent (some last) (s :: rest) = [] := by
          simp only [ascent, Option.all_some, decide_eq_true_eq, not_lt.mpr hle, if_false]
        simp only [checkOrder, hl, hle, if_true, guardAfter, hstop]
        rw [← hl]
        rfl
      · have hlt : (some last).all (· < s.key) = true := decide_eq_true (not_le.mp hle)
        rw [guardAfter_cons_of_ascends rest hlt]
        simpa only [checkOrder, hl, hle, if_false] using ih { l with lastKey := some s.key }

theorem checkOrder_answer (l : Listing) (splits : List Split) :
    ((l.checkOrder splits).1 = .ok () ∧ ascent l.lastKey splits = splits) ∨
      ∃ key last, (l.checkOrder splits).1 = .error (l.outOfOrder key last) ∧
        ascent l.lastKey splits ≠ splits := by
  induction splits generalizing l with
  | nil => exact .inl ⟨rfl, rfl⟩
  | cons s rest ih =>
    have hnext := ih { l with lastKey := some s.key }
    by_cases h : l.lastKey.all (· < s.key) = true
    · have hcheck : l.checkOrder (s :: rest) =
          { l with lastKey := some s.key : Listing }.checkOrder rest := by
        cases hl : l.lastKey with
        | none => simp only [checkOrder, hl]
        | some last =>
          rw [hl] at h
          have hlt : last < s.key := of_decide_eq_true h
          simp only [checkOrder, hl, not_le.mpr hlt, if_false]
      rw [hcheck]
      simp only [ascent, h, if_true, ne_eq, List.cons.injEq, true_and]
      exact hnext
    · right
      obtain ⟨last, hl⟩ : ∃ last, l.lastKey = some last := by
        cases hl : l.lastKey with
        | none => simp [hl] at h
        | some last => exact ⟨last, rfl⟩
      have hle : s.key ≤ last := by
        rw [hl] at h
        exact not_lt.mp fun hlt => h (decide_eq_true hlt)
      refine ⟨s.key, last, ?_, ?_⟩
      · simp only [checkOrder, hl, hle, if_true]
      · simp only [ascent, h]
        exact (List.cons_ne_nil s rest).symm

/-- What one request can do to a listing: its page is not delivered, refused, or accepted. -/
inductive Fetched (l : Listing) (marker : Option Marker) :
    Fetch → Except Failure (Option (List Split)) → Listing → Prop
  | failed (f : Failure) : Fetched l marker ⟨marker, .error f⟩ (.error f) l
  | refused (page : SplitPage) (f : Failure) (hkind : f.kind = .orderViolated)
      (hpage : ascent l.lastKey page.splits ≠ page.splits) :
      Fetched l marker ⟨marker, .ok page⟩ (.error f)
        { l with lastKey := guardAfter l.lastKey page.splits }
  | accepted (page : SplitPage) (hpage : ascent l.lastKey page.splits = page.splits) :
      Fetched l marker ⟨marker, .ok page⟩ (.ok (some page.splits))
        ({ l with lastKey := guardAfter l.lastKey page.splits : Listing }.accept page)

theorem fetched (svc : ReadService σ) (l : Listing) {marker : Option Marker}
    (hmarker : marker.any Marker.isEmpty = false) (y : Exchange (σ × List Fetch)) :
    ∃ f, (l.fetch svc.journaled marker y).2.2.journal = y.journal ++ [f] ∧
      Fetched l marker f (l.fetch svc.journaled marker y).1
        (l.fetch svc.journaled marker y).2.1 := by
  have hpage : fetchPage svc.journaled l.session l.scope marker y =
      y.ask (noted (Fetch.mk marker) (svc.listSplits l.session l.scope marker)) := by
    simp [fetchPage, hmarker, ReadService.journaled]
  obtain ⟨answer, y', hask, -, hjournal⟩ :=
    y.ask_noted (Fetch.mk marker) (svc.listSplits l.session l.scope marker)
  refine ⟨⟨marker, answer⟩, ?_⟩
  simp only [fetch, hpage, hask]
  cases answer with
  | error f => exact ⟨hjournal, .failed f⟩
  | ok page =>
    have hlisting := l.checkOrder_listing page.splits
    rcases hcheck : l.checkOrder page.splits with ⟨verdict, l'⟩
    rw [hcheck] at hlisting
    subst hlisting
    rcases l.checkOrder_answer page.splits with ⟨hverdict, hasc⟩ | ⟨key, last, hverdict, hasc⟩
    · rw [hcheck] at hverdict
      obtain rfl : verdict = .ok () := hverdict
      simp only [hcheck]
      exact ⟨hjournal, .accepted page hasc⟩
    · rw [hcheck] at hverdict
      obtain rfl : verdict = .error (l.outOfOrder key last) := hverdict
      simp only [hcheck]
      exact ⟨hjournal, .refused page _ rfl hasc⟩

/-- What a pull of a page can do, beside the requests that it makes. -/
inductive Paged (l : Listing) :
    List Fetch → Except Failure (Option (List Split)) → Listing → Prop
  | buffered (h : l.buffered ≠ []) : Paged l [] (.ok (some l.buffered)) { l with buffered := [] }
  | fetched {marker : Option Marker} {f : Fetch} {answer : Except Failure (Option (List Split))}
      {l' : Listing} (h : l.buffered = []) (hdue : l.stage.due = some marker)
      (hf : Fetched l marker f answer l') : Paged l [f] answer l'
  | stale {marker : Marker} (f : Failure) (hstage : l.stage = .following marker)
      (hmarker : marker.isEmpty = true) : Paged l [] (.error f) l
  | ended (h : l.buffered = []) (hstage : l.stage = .exhausted) :
      Paged l [] (.ok none) { l with stage := .reported }
  | spent (f : Failure) (h : l.buffered = []) (hstage : l.stage = .reported)
      (hkind : f.kind = .listingExhausted) : Paged l [] (.error f) l

theorem paged (svc : ReadService σ) (l : Listing) (y : Exchange (σ × List Fetch)) :
    ∃ fetches, (l.nextPage svc.journaled y).2.2.journal = y.journal ++ fetches ∧
      Paged l fetches (l.nextPage svc.journaled y).1 (l.nextPage svc.journaled y).2.1 := by
  by_cases hb : l.buffered = []
  · have hempty : (!l.buffered.isEmpty) = false := by simp [hb]
    simp only [nextPage, hempty, Bool.false_eq_true, if_false]
    cases hstage : l.stage with
    | initial =>
      have hmarker : (none : Option Marker).any Marker.isEmpty = false := rfl
      obtain ⟨f, hjournal, hf⟩ := fetched svc l hmarker y
      exact ⟨[f], hjournal, .fetched hb (by rw [hstage]; rfl) hf⟩
    | following marker =>
      cases hmarker : marker.isEmpty with
      | false =>
        have hsome : (some marker).any Marker.isEmpty = false := hmarker
        obtain ⟨f, hjournal, hf⟩ := fetched svc l hsome y
        exact ⟨[f], hjournal, .fetched hb (by rw [hstage]; rfl) hf⟩
      | true =>
        have hpage : fetchPage svc.journaled l.session l.scope (some marker) y =
            (.error (.of .staleMarker "The split listing already ended"
              (some s!"an empty marker was supplied for session {l.session.id}")), y) := by
          simp [fetchPage, hmarker]
        simp only [fetch, hpage]
        exact ⟨[], by simp, .stale _ hstage hmarker⟩
    | exhausted => exact ⟨[], by simp, .ended hb hstage⟩
    | reported => exact ⟨[], by simp, .spent _ hb hstage rfl⟩
  · have hne : (!l.buffered.isEmpty) = true := by simpa using hb
    simp only [nextPage, hne, if_true]
    exact ⟨[], by simp, .buffered hb⟩

/-- What one step towards a split can do, beside the requests that it makes. -/
inductive Stepped (l : Listing) :
    List Fetch → Option (Except Failure (Option Split)) → Listing → Prop
  | buffered {s : Split} {rest : List Split} (h : l.buffered = s :: rest) :
      Stepped l [] (some (.ok (some s))) { l with buffered := rest }
  | failed {fetches : List Fetch} {f : Failure} {l' : Listing} (h : l.buffered = [])
      (hpage : Paged l fetches (.error f) l') : Stepped l fetches (some (.error f)) l'
  | ended {fetches : List Fetch} {l' : Listing} (h : l.buffered = [])
      (hpage : Paged l fetches (.ok none) l') : Stepped l fetches (some (.ok none)) l'
  | paged {fetches : List Fetch} {page : List Split} {l' : Listing} (h : l.buffered = [])
      (hpage : Paged l fetches (.ok (some page)) l') :
      Stepped l fetches none { l' with buffered := page }

theorem stepped (svc : ReadService σ) (l : Listing) (y : Exchange (σ × List Fetch)) :
    ∃ fetches, (stepSplit svc.journaled (l, y)).2.2.journal = y.journal ++ fetches ∧
      Stepped l fetches (stepSplit svc.journaled (l, y)).1
        (stepSplit svc.journaled (l, y)).2.1 := by
  cases hb : l.buffered with
  | cons s rest =>
    simp only [stepSplit, hb]
    exact ⟨[], by simp, .buffered hb⟩
  | nil =>
    obtain ⟨fetches, hjournal, hpage⟩ := l.paged svc y
    refine ⟨fetches, ?_⟩
    simp only [stepSplit, hb]
    rcases hnext : l.nextPage svc.journaled y with ⟨answer, l', y'⟩
    rw [hnext] at hjournal hpage
    match answer, hpage with
    | .error f, hpage => exact ⟨hjournal, .failed hb hpage⟩
    | .ok none, hpage => exact ⟨hjournal, .ended hb hpage⟩
    | .ok (some page), hpage => exact ⟨hjournal, .paged hb hpage⟩

section Through

variable {τ : Type} {svc : ReadService σ} {svc' : ReadService τ} {v : τ → σ}

/-- A listing sees no more of a service than the answers to its page requests. -/
theorem fetchPage_through (h : svc.PagesThrough svc' v) (session : TableSession) (scope : Scope)
    (marker : Option Marker) (y : Exchange τ) :
    fetchPage svc session scope marker (y.through v) =
      ((fetchPage svc' session scope marker y).1,
        (fetchPage svc' session scope marker y).2.through v) := by
  unfold fetchPage
  split
  · rfl
  · have hanswer := h session scope marker y.service
    simp only [Exchange.ask, Exchange.through, Exchange.withService, hanswer]

theorem fetch_through (h : svc.PagesThrough svc' v) (marker : Option Marker) (l : Listing)
    (y : Exchange τ) : l.fetch svc marker (y.through v) =
      ((l.fetch svc' marker y).1, (l.fetch svc' marker y).2.1,
        (l.fetch svc' marker y).2.2.through v) := by
  simp only [fetch, fetchPage_through h]
  rcases fetchPage svc' l.session l.scope marker y with ⟨answer, y'⟩
  cases answer with
  | error f => rfl
  | ok page =>
    rcases hcheck : l.checkOrder page.splits with ⟨verdict, l'⟩
    cases verdict with
    | error f => simp only [hcheck]
    | ok u => simp only [hcheck]; rfl

theorem nextPage_through (h : svc.PagesThrough svc' v) (l : Listing) (y : Exchange τ) :
    l.nextPage svc (y.through v) =
      ((l.nextPage svc' y).1, (l.nextPage svc' y).2.1, (l.nextPage svc' y).2.2.through v) := by
  unfold nextPage
  split
  · rfl
  · split
    · exact fetch_through h none l y
    · exact fetch_through h _ l y
    · rfl
    · rfl

theorem nextSplit_through (h : svc.PagesThrough svc' v) (rounds : Nat) (l : Listing)
    (y : Exchange τ) : l.nextSplit svc rounds (y.through v) =
      ((l.nextSplit svc' rounds y).1, (l.nextSplit svc' rounds y).2.1,
        (l.nextSplit svc' rounds y).2.2.through v) := by
  refine settle_view (fun s => (s.1, s.2.through v)) ?_ rounds (l, y)
  rintro ⟨l, y⟩
  cases hb : l.buffered with
  | cons s rest => simp only [stepSplit, hb]
  | nil =>
    simp only [stepSplit, hb, nextPage_through h]
    rcases l.nextPage svc' y with ⟨answer, l', y'⟩
    match answer with
    | .error f => rfl
    | .ok none => rfl
    | .ok (some page) => rfl

end Through

theorem nextPage_plain (svc : ReadService σ) (l : Listing) (y : Exchange (σ × List Fetch)) :
    l.nextPage svc y.plain =
      ((l.nextPage svc.journaled y).1, (l.nextPage svc.journaled y).2.1,
        (l.nextPage svc.journaled y).2.2.plain) :=
  nextPage_through svc.pagesThrough_journaled l y

theorem nextSplit_plain (svc : ReadService σ) (rounds : Nat) (l : Listing)
    (y : Exchange (σ × List Fetch)) : l.nextSplit svc rounds y.plain =
      ((l.nextSplit svc.journaled rounds y).1, (l.nextSplit svc.journaled rounds y).2.1,
        (l.nextSplit svc.journaled rounds y).2.2.plain) :=
  nextSplit_through svc.pagesThrough_journaled rounds l y

end Listing

end TableExchange
