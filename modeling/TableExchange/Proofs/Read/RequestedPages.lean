import TableExchange.Proofs.Memory.Paging
import TableExchange.Read.Listing

/-!
Single pages that are asked of the in-memory service, with any marker that a caller may bring along.
The offset that a marker names may lie among the splits, behind them, or so far behind that no word
is left for the end of the page. Such an end starts again from zero, and then the marker of a page
that nothing follows leads back into the list.
-/
namespace TableExchange

open Memory (Store Spells AsksFrom Addressable room page)

/-- What the page from an offset on should be. It has the splits from there on, as many as it has
room for. Its marker is empty exactly if no split follows; otherwise it names the end of the page,
which is a later offset and a valid one. -/
structure PageFrom (splits : List Split) (size offset : Nat) (p : SplitPage) : Prop where
  cut : p.splits = (splits.drop offset).take size
  marker : ∃ m, p.nextMarker = some m ∧ (m.isEmpty = true ↔ splits.drop (offset + size) = []) ∧
    (m.isEmpty = false → ∃ next, Spells m.text next ∧ next = offset + size ∧ offset < next ∧
      next < UInt64.size)

/-- What the page from an offset on is. Its end is a word; one that would lie beyond the words
starts again from zero, and comes to lie before the offset. -/
structure Cut (splits : List Split) (scope : Scope) (offset : Nat) (p : SplitPage) : Prop where
  announced : p.maxItems.map UInt32.toNat = some (room scope)
  /-- The page is what it should be as long as its end does not start again, or does so but still
  lies behind all splits. -/
  faithful_iff : PageFrom splits (room scope) offset p ↔
    offset + room scope < UInt64.size ∨ UInt64.size + splits.length ≤ offset + room scope
  /-- Beyond the words a page is empty, and its marker leads back to the splits behind its end. -/
  beyond : ∀ back, offset + room scope = UInt64.size + back →
    back < offset ∧ p.splits = [] ∧ ∃ m, p.nextMarker = some m ∧
      (m.isEmpty = true ↔ splits.drop back = []) ∧ (m.isEmpty = false → Spells m.text back)
  /-- Of a list that fits into memory no split is lost. -/
  handed : Addressable splits → p.splits = (splits.drop offset).take (room scope)

namespace Memory

variable {splits : List Split} {scope : Scope} {offset : UInt64}

theorem pageFrom_within (h : offset.toNat + room scope < UInt64.size) :
    PageFrom splits (room scope) offset.toNat (page splits scope offset) := by
  have hroom := room_pos scope
  rw [page_within h]
  refine ⟨rfl, _, rfl, isEmpty_endMarker_iff, ?_⟩
  intro hmore
  refine ⟨_, spells_endMarker hmore, rfl, ?_, h⟩
  omega

/-- Beyond the words a page is what it should be only if its marker is empty. -/
theorem pageFrom_beyond_iff {back : Nat} (h : offset.toNat + room scope = UInt64.size + back) :
    PageFrom splits (room scope) offset.toNat (page splits scope offset) ↔
      splits.length ≤ back := by
  obtain ⟨hback, hpage⟩ := page_beyond splits h
  rw [hpage]
  constructor
  · intro hp
    obtain ⟨m, hm, -, honward⟩ := hp.marker
    obtain rfl := Option.some.inj hm
    have hempty : (endMarker splits back).isEmpty = true := by
      by_contra hmore
      -- The marker would name the end of the page, which is no word.
      obtain ⟨next, -, hnext, -, hword⟩ := honward (Bool.eq_false_iff.mpr hmore)
      omega
    exact List.drop_eq_nil_iff.mp (isEmpty_endMarker_iff.mp hempty)
  · intro hlast
    have hempty : (endMarker splits back).isEmpty = true :=
      isEmpty_endMarker_iff.mpr (List.drop_eq_nil_of_le hlast)
    have hnone : splits.drop offset.toNat = [] := by
      apply List.drop_eq_nil_of_le
      omega
    have hfollow : splits.drop (offset.toNat + room scope) = [] := by
      apply List.drop_eq_nil_of_le
      omega
    constructor
    · rw [hnone, List.take_nil]
    · exact ⟨_, rfl, iff_of_true hempty hfollow, by simp [hempty]⟩

theorem cut_page (splits : List Split) (scope : Scope) (offset : UInt64) :
    Cut splits scope offset.toNat (page splits scope offset) where
  announced := rfl
  faithful_iff := by
    by_cases hword : offset.toNat + room scope < UInt64.size
    · exact iff_of_true (pageFrom_within hword) (.inl hword)
    · obtain ⟨back, hback⟩ := Nat.exists_eq_add_of_le (not_lt.mp hword)
      rw [pageFrom_beyond_iff hback]
      omega
  beyond back h := by
    obtain ⟨hback, hpage⟩ := page_beyond splits h
    rw [hpage]
    exact ⟨hback, rfl, _, rfl, isEmpty_endMarker_iff, spells_endMarker⟩
  handed hfits := by
    by_cases hword : offset.toNat + room scope < UInt64.size
    · exact (pageFrom_within hword).cut
    · obtain ⟨back, hback⟩ := Nat.exists_eq_add_of_le (not_lt.mp hword)
      have hroom : room scope < UInt32.size := (pageSize scope).toNat_lt_size
      have hnone : splits.drop offset.toNat = [] := by
        apply List.drop_eq_nil_of_le
        unfold Addressable at hfits
        omega
      rw [(page_beyond splits hback).2, hnone, List.take_nil]

end Memory

def Exchange.requested (marker : Option Marker) (x : Exchange Store) : Exchange Store :=
  { x with service := x.service.requested marker }

/-- What comes of asking for a page: the answer, and what is left behind. -/
inductive PageAsked (session : TableSession) (scope : Scope) (x : Exchange Store) :
    Option Marker → Except Failure SplitPage → Exchange Store → Prop
  /-- An empty marker is refused without a request. -/
  | stale {m : Marker} {f : Failure} (hempty : m.isEmpty = true) (hkind : f.kind = .staleMarker) :
      PageAsked session scope x (some m) (.error f) x
  | unknown {marker : Option Marker} (hgiven : marker.any Marker.isEmpty = false)
      (hsession : Memory.lookup session.id x.service.sessions = none) :
      PageAsked session scope x marker (.error (Memory.noSuchSession session.id))
        (x.requested marker)
  | invalid {m : Marker} (hgiven : m.isEmpty = false)
      (hsession : (Memory.lookup session.id x.service.sessions).isSome = true)
      (hmarker : ∀ n, Spells m.text n → UInt64.size ≤ n) :
      PageAsked session scope x (some m)
        (.error (Memory.fault 400 "InvalidMarker" s!"marker '{m.text}' is not valid"))
        (x.requested (some m))
  | served {marker : Option Marker} {offset : Nat} {p : SplitPage}
      (hgiven : marker.any Marker.isEmpty = false)
      (hsession : (Memory.lookup session.id x.service.sessions).isSome = true)
      (hoffset : AsksFrom marker offset) (hword : offset < UInt64.size)
      (hcut : Cut (x.service.splitsOf session.id) scope offset p) :
      PageAsked session scope x marker (.ok p) (x.requested marker)

/-- Whatever marker a page is asked for with, the service refuses it for the session or the marker,
or cuts the page at the offset that the marker names. -/
theorem page_requests_answered (session : TableSession) (scope : Scope) (marker : Option Marker)
    (x : Exchange Store) :
    PageAsked session scope x marker (fetchPage Memory.reading session scope marker x).1
      (fetchPage Memory.reading session scope marker x).2 := by
  unfold fetchPage
  by_cases hempty : marker.any Marker.isEmpty = true
  · rw [if_pos hempty]
    cases marker with
    | none => contradiction
    | some m => exact .stale hempty rfl
  · rw [if_neg hempty]
    have hgiven := Bool.eq_false_iff.mpr hempty
    cases hlookup : Memory.lookup session.id x.service.sessions with
    | none =>
      simp only [Exchange.ask, Memory.reading, Memory.listSplits_of_unknown hlookup]
      exact .unknown hgiven hlookup
    | some stored =>
      have hsession := Option.isSome_iff_exists.mpr ⟨stored, hlookup⟩
      rcases Memory.asksFrom_or marker with ⟨offset, hoffset⟩ | ⟨m, rfl, hinvalid⟩
      · simp only [Exchange.ask, Memory.reading, Memory.listSplits_of_asksFrom hsession hoffset]
        exact .served hgiven hsession hoffset offset.toNat_lt_size (Memory.cut_page _ scope offset)
      · simp only [Exchange.ask, Memory.reading, Memory.listSplits_of_invalid hsession hinvalid]
        exact .invalid hgiven hsession hinvalid

def numberedRead : Reply Store TableSession :=
  let table : TableRef := ⟨"p", "default", "t"⟩
  Memory.createRead table {} (({} : Store).addSplits table (Split.numbered 3))

/-- The page at the last offset of all leads back to the second split. -/
theorem last_offset_leads_back :
    ∃ session p, numberedRead.1 = .ok session ∧
      (fetchPage Memory.reading session {} (some ⟨"18446744073709551615"⟩)
        { service := numberedRead.2 }).1 = .ok p ∧
      p.nextMarker = some ⟨"1"⟩ ∧
      ¬ PageFrom (numberedRead.2.splitsOf session.id) 2 18446744073709551615 p := by
  refine ⟨_, ⟨[], some ⟨"1"⟩, some 2⟩, rfl, rfl, rfl, ?_⟩
  intro hp
  obtain ⟨m, hm, hempty, -⟩ := hp.marker
  obtain rfl := Option.some.inj hm
  have hend : Marker.isEmpty ⟨"1"⟩ = true := hempty.mpr (List.drop_eq_nil_of_le (by decide))
  contradiction

end TableExchange
