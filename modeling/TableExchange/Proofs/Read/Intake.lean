import Mathlib.Data.List.Induction
import Mathlib.Data.String.Basic
import TableExchange.Proofs.Service.Journal
import TableExchange.Read.Listing

/-!
What the answers to a listing's page requests amount to: the pages that count, the key up to which
splits have come in, and the request that is due next. All of it is read off the journal of the
requests and never off the listing.
-/
namespace TableExchange

structure Fetch where
  marker : Option Marker
  answer : Except Failure SplitPage

def ReadService.journaled {σ : Type} (svc : ReadService σ) : ReadService (σ × List Fetch) where
  lookUp t i k := unnoted (svc.lookUp t i k)
  release s := unnoted (svc.release s)
  createRead t c := unnoted (svc.createRead t c)
  listSplits s c m := noted (Fetch.mk m) (svc.listSplits s c m)
  listRange s l u := unnoted (svc.listRange s l u)

/-- The splits of a page up to the first whose key does not ascend, counted from a key on. -/
def ascent : Option String → List Split → List Split
  | _, [] => []
  | last, s :: rest => if last.all (· < s.key) then s :: ascent (some s.key) rest else []

/-- The greatest key once the ascending splits of a page have come in. -/
def guardAfter (last : Option String) (splits : List Split) : Option String :=
  ((ascent last splits).getLast?.map (·.key)).or last

@[simp] theorem guardAfter_nil (last : Option String) : guardAfter last [] = last := by
  simp [guardAfter, ascent]

theorem guardAfter_cons_of_ascends {last : Option String} {s : Split} (rest : List Split)
    (h : last.all (· < s.key) = true) :
    guardAfter last (s :: rest) = guardAfter (some s.key) rest := by
  simp only [guardAfter, ascent, h, if_true]
  cases hrest : ascent (some s.key) rest with
  | nil => rfl
  | cons t ts => simp [List.getLast?_cons]

theorem ascent_keys (last : Option String) (splits : List Split) :
    ((ascent last splits).map (·.key)).Pairwise (· < ·) ∧
      ∀ s ∈ ascent last splits, ∀ k ∈ last, k < s.key := by
  induction splits generalizing last with
  | nil => simp [ascent]
  | cons s rest ih =>
    obtain ⟨hpair, habove⟩ := ih (some s.key)
    simp only [ascent]
    split
    · next h =>
      have hs : ∀ k ∈ last, k < s.key := by
        intro k hk
        rw [Option.mem_def.mp hk] at h
        exact of_decide_eq_true h
      constructor
      · rw [List.map_cons, List.pairwise_cons]
        refine ⟨?_, hpair⟩
        intro key hkey
        obtain ⟨t, ht, rfl⟩ := List.mem_map.mp hkey
        exact habove t ht s.key rfl
      · intro t ht k hk
        rcases List.mem_cons.mp ht with rfl | ht
        · exact hs k hk
        · exact lt_trans (hs k hk) (habove t ht s.key rfl)
    · exact ⟨List.Pairwise.nil, fun t ht => absurd ht List.not_mem_nil⟩

/-- Keys that ascend from the last one on are accepted together. -/
theorem ascent_eq_self {last : Option String} {splits : List Split}
    (hpair : (splits.map (·.key)).Pairwise (· < ·)) (habove : ∀ s ∈ splits, ∀ k ∈ last, k < s.key) :
    ascent last splits = splits := by
  induction splits generalizing last with
  | nil => rfl
  | cons s rest ih =>
    obtain ⟨hs, hrest⟩ := List.pairwise_cons.mp hpair
    have hfirst : last.all (· < s.key) = true := by
      cases last with
      | none => rfl
      | some k => exact decide_eq_true (habove s List.mem_cons_self k rfl)
    have hlater : ascent (some s.key) rest = rest := by
      refine ih hrest ?_
      intro t ht k hk
      obtain rfl := Option.some.inj hk
      exact hs t.key (List.mem_map_of_mem ht)
    simp only [ascent, hfirst, if_true, hlater]

theorem guardAfter_bounds (last : Option String) (splits : List Split) :
    (∀ k ∈ last, ∃ g ∈ guardAfter last splits, k ≤ g) ∧
      ∀ s ∈ ascent last splits, ∃ g ∈ guardAfter last splits, s.key ≤ g := by
  induction splits generalizing last with
  | nil => exact ⟨fun k hk => ⟨k, by simpa using hk, le_rfl⟩, by simp [ascent]⟩
  | cons s rest ih =>
    by_cases h : last.all (· < s.key) = true
    · obtain ⟨hlast, hin⟩ := ih (some s.key)
      obtain ⟨g, hg, hsg⟩ := hlast s.key rfl
      rw [guardAfter_cons_of_ascends rest h]
      constructor
      · intro k hk
        rw [Option.mem_def.mp hk] at h
        exact ⟨g, hg, le_trans (le_of_lt (of_decide_eq_true h)) hsg⟩
      · intro t ht
        simp only [ascent, h, if_true, List.mem_cons] at ht
        rcases ht with rfl | ht
        · exact ⟨g, hg, hsg⟩
        · exact hin t ht
    · have hstop : ascent last (s :: rest) = [] := by simp only [ascent, h]; rfl
      have hguard : guardAfter last (s :: rest) = last := by simp [guardAfter, hstop]
      rw [hguard, hstop]
      exact ⟨fun k hk => ⟨k, hk, le_rfl⟩, by simp⟩

/-- The pages that count, and the greatest key that has come in. A refused page does not count but
may have raised the key. -/
structure Intake where
  guard : Option String := none
  pages : List SplitPage := []

namespace Intake

def take (i : Intake) (f : Fetch) : Intake :=
  match f.answer with
  | .error _ => i
  | .ok page =>
    { guard := guardAfter i.guard page.splits
      pages := if ascent i.guard page.splits = page.splits then i.pages ++ [page] else i.pages }

/-- Takes in the answers to all requests. -/
def ofFetches (fetches : List Fetch) : Intake :=
  fetches.foldl take {}

def splits (i : Intake) : List Split :=
  i.pages.flatMap (·.splits)

/-- The marker of the request that is due, or nothing after a page that no other one follows. The
first page is asked for without a marker. -/
def due (i : Intake) : Option (Option Marker) :=
  match i.pages.getLast? with
  | none => some none
  | some page => page.continuation.map some

@[simp] theorem ofFetches_nil : ofFetches [] = {} := rfl

@[simp] theorem ofFetches_concat (fetches : List Fetch) (f : Fetch) :
    ofFetches (fetches ++ [f]) = (ofFetches fetches).take f := by
  simp [ofFetches]

theorem take_error {f : Fetch} {failure : Failure} (i : Intake) (h : f.answer = .error failure) :
    i.take f = i := by
  simp [take, h]

theorem take_refused {f : Fetch} {page : SplitPage} (i : Intake) (h : f.answer = .ok page)
    (hp : ascent i.guard page.splits ≠ page.splits) :
    i.take f = { i with guard := guardAfter i.guard page.splits } := by
  simp [take, h, hp]

theorem take_accepted {f : Fetch} {page : SplitPage} (i : Intake) (h : f.answer = .ok page)
    (hp : ascent i.guard page.splits = page.splits) :
    i.take f = ⟨guardAfter i.guard page.splits, i.pages ++ [page]⟩ := by
  simp [take, h, hp]

/-- The keys that count ascend strictly, and none is beyond the greatest one. -/
structure Ordered (i : Intake) : Prop where
  ascending : (i.splits.map (·.key)).Pairwise (· < ·)
  bounded : ∀ s ∈ i.splits, ∃ g ∈ i.guard, s.key ≤ g

theorem Ordered.take {i : Intake} (h : i.Ordered) (f : Fetch) : (i.take f).Ordered := by
  cases hf : f.answer with
  | error failure => rwa [take_error i hf]
  | ok page =>
    obtain ⟨hold, hnew⟩ := guardAfter_bounds i.guard page.splits
    have hkept : ∀ s ∈ i.splits, ∃ g ∈ guardAfter i.guard page.splits, s.key ≤ g := by
      intro s hs
      obtain ⟨k, hk, hsk⟩ := h.bounded s hs
      obtain ⟨g, hg, hkg⟩ := hold k hk
      exact ⟨g, hg, le_trans hsk hkg⟩
    by_cases hp : ascent i.guard page.splits = page.splits
    · obtain ⟨hpair, habove⟩ := ascent_keys i.guard page.splits
      rw [hp] at hpair habove hnew
      have hsplits : (i.take f).splits = i.splits ++ page.splits := by
        simp [take_accepted i hf hp, splits]
      constructor
      · rw [hsplits, List.map_append, List.pairwise_append]
        refine ⟨h.ascending, hpair, ?_⟩
        intro a ha b hb
        obtain ⟨s, hs, rfl⟩ := List.mem_map.mp ha
        obtain ⟨t, ht, rfl⟩ := List.mem_map.mp hb
        obtain ⟨k, hk, hsk⟩ := h.bounded s hs
        exact lt_of_le_of_lt hsk (habove t ht k hk)
      · rw [hsplits, take_accepted i hf hp]
        intro s hs
        rcases List.mem_append.mp hs with hs | hs
        · exact hkept s hs
        · exact hnew s hs
    · rw [take_refused i hf hp]
      exact ⟨h.ascending, hkept⟩

theorem ordered_ofFetches (fetches : List Fetch) : (ofFetches fetches).Ordered := by
  induction fetches using List.reverseRecOn with
  | nil => exact ⟨List.Pairwise.nil, by simp [splits]⟩
  | append_singleton fetches f ih =>
    rw [ofFetches_concat]
    exact ih.take f

end Intake

end TableExchange
