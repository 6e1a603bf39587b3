import Mathlib.Algebra.Order.BigOperators.Group.List
import Mathlib.Data.Finset.Card
import TableExchange.Proofs.Read.Drains
import TableExchange.Proofs.Read.FailedPulls

/-!
How often a listing asks. The order guard lets no key come in twice. So if all keys are from a
finite set, and a page brings a split whenever another page is to follow, a listing makes at most
one request more than there are keys, whatever markers it is sent on with.
-/
namespace TableExchange

variable {σ : Type}

structure SplitPage.Within (K : Finset String) (page : SplitPage) : Prop where
  keys : ∀ s ∈ page.splits, s.key ∈ K
  nonempty : page.continuation ≠ none → page.splits ≠ []

structure Drain.Bounded (K : Finset String) (rounds pulls : Nat) (d : Drain) : Prop where
  requests : d.fetches.length ≤ K.card + 1
  ends : K.card + 1 < rounds → K.card < pulls → d.ending ≠ none
  /-- An answer that comes again, as it does when the markers go round and the service answers a
  marker in one way, is the last one, and its page is out of order. -/
  repeated : ∀ before f between g after,
    d.fetches = before ++ f :: between ++ g :: after → f.answer = g.answer →
      after = [] ∧ ∃ failure, d.ending = some (.error failure) ∧ failure.kind = .orderViolated
  /-- Pages that are all to be followed by another one end out of order too. -/
  endless : (∀ f ∈ d.fetches, ∃ page, f.answer = .ok page ∧ page.continuation ≠ none) →
    d.ending ≠ none → ∃ failure, d.ending = some (.error failure) ∧ failure.kind = .orderViolated

theorem accepted_subset_arrived (fetches : List Fetch) :
    accepted fetches ⊆ Listing.arrived fetches := by
  unfold accepted Listing.arrived
  induction fetches using List.reverseRecOn with
  | nil => exact List.nil_subset _
  | append_singleton fetches f ih =>
    rw [Intake.ofFetches_concat, List.filterMap_append]
    have hearlier := List.subset_append_of_subset_left
      ([f].filterMap (·.answer.toOption)) ih
    cases hf : f.answer with
    | error failure => rwa [Intake.take_error _ hf]
    | ok page =>
      by_cases hascent : ascent (Intake.ofFetches fetches).guard page.splits = page.splits
      · rw [Intake.take_accepted _ hf hascent]
        refine List.append_subset.mpr ⟨hearlier, ?_⟩
        simp [hf, Except.toOption]
      · rwa [Intake.take_refused _ hf hascent]

/-- The splits that came in are no more than the keys there are. -/
theorem length_splits_le_card {K : Finset String} {fetches : List Fetch}
    (h : ∀ page ∈ accepted fetches, page.Within K) :
    (Intake.ofFetches fetches).splits.length ≤ K.card := by
  have hnodup : ((Intake.ofFetches fetches).splits.map (·.key)).Nodup :=
    (Intake.ordered_ofFetches fetches).ascending.imp ne_of_lt
  have hsubset : ((Intake.ofFetches fetches).splits.map (·.key)).toFinset ⊆ K := by
    intro key hkey
    obtain ⟨s, hs, rfl⟩ := List.mem_map.mp (List.mem_toFinset.mp hkey)
    obtain ⟨page, hpage, hmem⟩ := List.mem_flatMap.mp hs
    exact (h page hpage).keys s hmem
  calc (Intake.ofFetches fetches).splits.length
      = ((Intake.ofFetches fetches).splits.map (·.key)).toFinset.card := by
        rw [List.toFinset_card_of_nodup hnodup, List.length_map]
    _ ≤ K.card := Finset.card_le_card hsubset

/-- Pages with a split each are no more than their splits. -/
theorem length_pages_le_splits {i : Intake} (h : ∀ page ∈ i.pages, page.splits ≠ []) :
    i.pages.length ≤ i.splits.length := by
  calc i.pages.length
      = (i.pages.map fun page => page.splits.length).length := (List.length_map _).symm
    _ ≤ (i.pages.map fun page => page.splits.length).sum := by
        apply List.length_le_sum_of_one_le
        intro n hn
        obtain ⟨page, hpage, rfl⟩ := List.mem_map.mp hn
        exact List.length_pos_iff.mpr (h page hpage)
    _ = i.splits.length := by rw [Intake.splits, List.length_flatMap]

/-- The splits of a page that was taken in do not ascend a second time. -/
theorem not_takenIn_again {fetches : List Fetch} {page : SplitPage} {f : Fetch}
    (hpage : page ∈ accepted fetches) (hne : page.splits ≠ []) (hf : f.answer = .ok page) :
    ¬TakenIn fetches f := by
  rintro ⟨p, hp, hascent⟩
  obtain rfl : page = p := Except.ok.inj (hf.symm.trans hp)
  obtain ⟨s, hs⟩ := List.exists_mem_of_ne_nil _ hne
  have hin : s ∈ (Intake.ofFetches fetches).splits := List.mem_flatMap.mpr ⟨page, hpage, hs⟩
  obtain ⟨k, hk, hle⟩ := (Intake.ordered_ofFetches fetches).bounded s hin
  exact absurd ((ascent_eq_self_iff.mp hascent).2 s hs k hk) (not_lt.mpr hle)

namespace Listing

variable {l : Listing} {fetches : List Fetch} {handed : List Split}
  {ending : Option (Except Failure Unit)}

theorem Drained.tracks (h : l.Drained fetches handed ending) : l.Tracks fetches handed := by
  cases h with
  | going h => exact h.tracks
  | ended tracks _ _ => exact tracks
  | failed _ tracks _ _ _ => exact tracks

/-- Every request before another one brought a page that was taken in. -/
theorem Drained.taken (h : l.Drained fetches handed ending) {before after : List Fetch} {g : Fetch}
    (hsplit : fetches = before ++ g :: after) : AtEach TakenIn before := by
  cases h with
  | going h => exact (hsplit ▸ h.taken).earlier
  | ended _ htaken _ => exact (hsplit ▸ htaken).earlier
  | @failed earlier last _ hlast _ _ htaken _ =>
    -- What comes before `g` is within `earlier`, be `g` the last request or not.
    rcases List.eq_nil_or_concat after with rfl | ⟨between, b, rfl⟩
    · obtain ⟨rfl, -⟩ := List.append_inj' (hlast.symm.trans hsplit) rfl
      exact htaken
    · have hinit : earlier ++ [last] = (before ++ g :: between) ++ [b] := by
        simpa using hlast.symm.trans hsplit
      obtain ⟨rfl, -⟩ := List.append_inj' hinit rfl
      exact htaken.earlier

/-- A page that was not taken in is the last one, and it is out of order. -/
theorem Drained.refused (h : l.Drained fetches handed ending) {before after : List Fetch}
    {g : Fetch} {page : SplitPage} (hsplit : fetches = before ++ g :: after)
    (hg : g.answer = .ok page) (hrefused : ¬TakenIn before g) :
    after = [] ∧ ∃ failure, ending = some (.error failure) ∧ failure.kind = .orderViolated := by
  have hlast : after = [] := by
    rcases List.eq_nil_or_concat after with rfl | ⟨between, b, rfl⟩
    · rfl
    · have hinit : fetches = (before ++ g :: between) ++ b :: [] := by simpa using hsplit
      exact absurd (h.taken hinit before g between rfl) hrefused
  subst hlast
  refine ⟨rfl, ?_⟩
  cases h with
  | going h => exact absurd (h.taken before g [] hsplit) hrefused
  | ended _ htaken _ => exact absurd (htaken before g [] hsplit) hrefused
  | @failed earlier last f hlast _ _ _ hbreaks =>
    obtain ⟨-, hlast⟩ := List.append_inj' (hsplit.symm.trans hlast) rfl
    obtain rfl : g = last := by simpa using hlast
    rcases hbreaks with hfailed | ⟨hkind, -⟩
    · rw [hg] at hfailed
      contradiction
    · exact ⟨f, rfl, hkind⟩

variable {K : Finset String}

/-- The requests that others followed are no more than the keys. -/
theorem Drained.length_before (h : l.Drained fetches handed ending)
    (hpages : ∀ page ∈ arrived fetches, page.Within K) {before after : List Fetch} {g : Fetch}
    (hsplit : fetches = before ++ g :: after) : before.length ≤ K.card := by
  have harrived : ∀ page ∈ accepted before, page.Within K := by
    intro page hpage
    apply hpages
    rw [hsplit, arrived, List.filterMap_append]
    exact List.mem_append_left _ (accepted_subset_arrived before hpage)
  have hne : ∀ page ∈ accepted before, page.splits ≠ [] := fun page hpage =>
    (harrived page hpage).nonempty (h.tracks.asked.continued before g after hsplit page hpage)
  calc before.length
      = (accepted before).length := by
        simpa using congrArg List.length (answers_of_takenIn (h.taken hsplit))
    _ ≤ (Intake.ofFetches before).splits.length := length_pages_le_splits hne
    _ ≤ K.card := length_splits_le_card harrived

theorem Drained.length_fetches (h : l.Drained fetches handed ending)
    (hpages : ∀ page ∈ arrived fetches, page.Within K) : fetches.length ≤ K.card + 1 := by
  rcases List.eq_nil_or_concat fetches with rfl | ⟨before, last, hlast⟩
  · exact Nat.zero_le _
  · rw [hlast, List.length_concat]
    exact Nat.add_le_add_right (h.length_before hpages (hlast.trans List.concat_eq_append)) 1

theorem Drained.length_handed (h : l.Drained fetches handed ending)
    (hpages : ∀ page ∈ arrived fetches, page.Within K) : handed.length ≤ K.card := by
  have hconserved := congrArg List.length h.tracks.conserved
  rw [List.length_append] at hconserved
  have hcard := length_splits_le_card fun page hpage =>
    hpages page (accepted_subset_arrived fetches hpage)
  omega

/-- An answer that others followed does not come again in order. -/
theorem Drained.repeated (h : l.Drained fetches handed ending)
    (hpages : ∀ page ∈ arrived fetches, page.Within K) {before between after : List Fetch}
    {f g : Fetch} (hsplit : fetches = before ++ f :: between ++ g :: after)
    (hsame : f.answer = g.answer) :
    after = [] ∧ ∃ failure, ending = some (.error failure) ∧ failure.kind = .orderViolated := by
  obtain ⟨page, hpage, hf⟩ : ∃ page ∈ accepted (before ++ f :: between), .ok page = f.answer := by
    have hmem : f.answer ∈ (before ++ f :: between).map (·.answer) :=
      List.mem_map_of_mem (by simp)
    rw [answers_of_takenIn (h.taken hsplit)] at hmem
    exact List.mem_map.mp hmem
  have harrived : page ∈ arrived fetches := by
    rw [hsplit, arrived, List.filterMap_append]
    exact List.mem_append_left _ (accepted_subset_arrived _ hpage)
  have hne := (hpages page harrived).nonempty (h.tracks.asked.continued _ g after hsplit page hpage)
  have hg : g.answer = .ok page := (hf.trans hsame).symm
  exact h.refused hsplit hg (not_takenIn_again hpage hne hg)

theorem Drained.endless (h : l.Drained fetches handed ending)
    (hfollowed : ∀ f ∈ fetches, ∃ page, f.answer = .ok page ∧ page.continuation ≠ none)
    (hended : ending ≠ none) :
    ∃ failure, ending = some (.error failure) ∧ failure.kind = .orderViolated := by
  cases h with
  | going _ => exact absurd rfl hended
  | ended tracks _ hstage =>
    have hdue := tracks.due
    rw [hstage] at hdue
    obtain ⟨page, hpage, hnone⟩ := tracks.asked.connected.due_eq_none_iff.mp hdue.symm
    obtain ⟨f, hf, hanswer⟩ := List.mem_filterMap.mp (accepted_subset_arrived fetches hpage)
    obtain ⟨p, hp, hsome⟩ := hfollowed f hf
    rw [hp] at hanswer
    obtain rfl : p = page := Option.some.inj hanswer
    exact absurd hnone hsome
  | @failed before last f hlast _ _ _ hbreaks =>
    rcases hbreaks with hfailed | ⟨hkind, -⟩
    · obtain ⟨page, hpage, -⟩ := hfollowed last (by simp [hlast])
      rw [hpage] at hfailed
      contradiction
    · exact ⟨f, rfl, hkind⟩

end Listing

/-- The order guard bounds a listing of any service, also of one whose markers never end. -/
theorem drain_order_bounded (svc : ReadService σ) (session : TableSession) (scope : Scope)
    (rounds pulls : Nat) (x : Exchange σ) (K : Finset String)
    (hpages : ∀ page ∈ Listing.arrived
      ((Listing.start session scope).watchDrain svc rounds pulls x).fetches, page.Within K) :
    ((Listing.start session scope).watchDrain svc rounds pulls x).Bounded K rounds pulls := by
  obtain ⟨l, hdrained⟩ := Listing.drained_watchDrain svc session scope rounds pulls x
  refine ⟨hdrained.length_fetches hpages, ?_, fun _ _ _ _ _ => hdrained.repeated hpages,
    hdrained.endless⟩
  -- Pulls without an ending used up the splits or the requests that the keys allow.
  have hhanded := hdrained.length_handed hpages
  have hfetches := hdrained.length_fetches hpages
  intro hrounds hpulls hgoing
  rcases Listing.going_of_watchDrain svc rounds pulls _ x hgoing with hall | hasked
  · omega
  · omega

def circlePage (key next : String) : SplitPage :=
  ⟨[⟨key, "1"⟩], some ⟨next⟩, none⟩

/-- A service without a memory whose second marker leads to the third, and the third back. -/
def ReadService.circling : ReadService Unit where
  lookUp _ _ _ _ := (.error (.of .unknown "not offered"), ())
  release _ _ := (.ok (), ())
  createRead _ _ _ := (.error (.of .unknown "not offered"), ())
  listSplits _ _ marker _ :=
    (.ok (match marker with
      | none => circlePage "a" "m"
      | some ⟨"m"⟩ => circlePage "b" "n"
      | some _ => circlePage "c" "m"), ())
  listRange _ _ _ _ := (.error (.of .unknown "not offered"), ())

def circled : Drain :=
  (Listing.start tapedSession {}).watchDrain .circling 8 8 { service := () }

/-- The circle takes one request more than there are keys, and ends out of order. -/
theorem drain_order_bounded_on_circle :
    (∀ page ∈ Listing.arrived circled.fetches, page.Within {"a", "b", "c"}) ∧
      circled.Bounded {"a", "b", "c"} 8 8 ∧
      circled.fetches.map (·.marker) = [none, some ⟨"m"⟩, some ⟨"n"⟩, some ⟨"m"⟩] ∧
      ∃ failure, circled.ending = some (.error failure) ∧ failure.kind = .orderViolated := by
  have harrived : Listing.arrived circled.fetches =
      [circlePage "a" "m", circlePage "b" "n", circlePage "c" "m", circlePage "b" "n"] := by
    decide +kernel
  have hpages : ∀ page ∈ Listing.arrived circled.fetches, page.Within {"a", "b", "c"} := by
    rw [harrived]
    intro page hpage
    constructor
    · revert page
      decide
    · revert page
      decide
  have hbounded : circled.Bounded {"a", "b", "c"} 8 8 :=
    drain_order_bounded .circling tapedSession {} 8 8 { service := () } _ hpages
  have hended : circled.ending ≠ none := hbounded.ends (by decide) (by decide)
  refine ⟨hpages, hbounded, by decide +kernel, hbounded.endless ?_ hended⟩
  have hfollowed : circled.fetches.map (·.answer.toOption.bind (·.continuation)) =
      [some ⟨"m"⟩, some ⟨"n"⟩, some ⟨"m"⟩, some ⟨"n"⟩] := by
    decide +kernel
  intro f hf
  have hmem : f.answer.toOption.bind (·.continuation) ∈
      circled.fetches.map (·.answer.toOption.bind (·.continuation)) := List.mem_map_of_mem hf
  rw [hfollowed] at hmem
  cases hanswer : f.answer with
  | error failure => simp [hanswer, Except.toOption] at hmem
  | ok page =>
    refine ⟨page, rfl, ?_⟩
    intro hnone
    simp [hanswer, Except.toOption, hnone] at hmem

end TableExchange
