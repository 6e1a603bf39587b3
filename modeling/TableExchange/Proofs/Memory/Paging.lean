import Mathlib.Data.String.Basic
import TableExchange.Memory.Service
import TableExchange.Proofs.Memory.StoredSessions

/-!
The two ways in which the in-memory service hands out the splits of a session: in pages that are
cut at the offsets which their markers spell out, and in half-open ranges of keys.
-/
namespace TableExchange.Memory

theorem digitsNumber_eq (cs : List Char) : digitsNumber cs = Nat.ofDigitChars 10 cs 0 := by
  simp only [digitsNumber, Nat.ofDigitChars, Nat.mul_comm 10]
  rfl

theorem toList_toString (n : Nat) : (toString n).toList = Nat.toDigits 10 n := by
  rw [Nat.toString_eq_ofList_toDigits, String.toList_ofList]

/-- A text spells out a number: its digits, after a plus sign or without one. -/
def Spells (text : String) (n : Nat) : Prop :=
  ∃ digits, (text.toList = digits ∨ text.toList = '+' :: digits) ∧ digits ≠ [] ∧
    (∀ c ∈ digits, c.isDigit = true) ∧ Nat.ofDigitChars 10 digits 0 = n

theorem spells_toString (n : Nat) : Spells (toString n) n := by
  refine ⟨Nat.toDigits 10 n, .inl (toList_toString n), Nat.toDigits_ne_nil, ?_,
    Nat.ofDigitChars_ten_toDigits⟩
  intro c hc
  exact Nat.isDigit_of_mem_toDigits (by decide) (by decide) hc

/-- What is left of a text without a plus sign in front. -/
def unsigned : List Char → List Char
  | '+' :: rest => rest
  | cs => cs

theorem eq_unsigned_or (cs : List Char) : cs = unsigned cs ∨ cs = '+' :: unsigned cs := by
  unfold unsigned
  split
  · exact .inr rfl
  · exact .inl rfl

theorem unsigned_of_isDigit {cs : List Char} (h : ∀ c ∈ cs, c.isDigit = true) :
    unsigned cs = cs := by
  unfold unsigned
  split
  · next rest =>
    -- A plus sign is no digit.
    have hplus := h '+' List.mem_cons_self
    contradiction
  · rfl

theorem spells_iff {text : String} {n : Nat} :
    Spells text n ↔ unsigned text.toList ≠ [] ∧
      (∀ c ∈ unsigned text.toList, c.isDigit = true) ∧ digitsNumber (unsigned text.toList) = n := by
  rw [digitsNumber_eq]
  constructor
  · rintro ⟨digits, hform, hspelled⟩
    have hdigits : unsigned text.toList = digits := by
      rcases hform with hplain | hsigned
      · rw [hplain]
        exact unsigned_of_isDigit hspelled.2.1
      · rw [hsigned]
        rfl
    rw [hdigits]
    exact hspelled
  · intro h
    exact ⟨unsigned text.toList, eq_unsigned_or text.toList, h⟩

theorem offset?_eq_some_iff {text : String} {offset : UInt64} :
    offset? text = some offset ↔ Spells text offset.toNat := by
  have hread : offset? text =
      if (unsigned text.toList).isEmpty || !(unsigned text.toList).all Char.isDigit then none
      else if digitsNumber (unsigned text.toList) < UInt64.size then
        some (digitsNumber (unsigned text.toList)).toUInt64 else none := rfl
  rw [hread, spells_iff]
  generalize unsigned text.toList = digits
  by_cases hdigits : digits ≠ [] ∧ ∀ c ∈ digits, c.isDigit = true
  · have hnumeral : (digits.isEmpty || !digits.all Char.isDigit) = false := by
      simpa using hdigits
    rw [hnumeral, if_neg Bool.false_ne_true]
    by_cases hword : digitsNumber digits < UInt64.size
    · rw [if_pos hword, Option.some.injEq, ← UInt64.toNat_inj]
      simp only [UInt64.toNat_ofNat_of_lt' hword, Nat.toUInt64_eq]
      tauto
    · rw [if_neg hword]
      have hlt := offset.toNat_lt_size
      constructor
      · intro hnone
        contradiction
      · rintro ⟨-, -, hnumber⟩
        omega
  · have hnumeral : (digits.isEmpty || !digits.all Char.isDigit) = true := by
      rw [not_and_or] at hdigits
      simpa using hdigits
    rw [hnumeral, if_pos rfl]
    constructor
    · intro hnone
      contradiction
    · rintro ⟨hne, hall, -⟩
      exact absurd ⟨hne, hall⟩ hdigits

/-- A marker is not valid if it spells out no number, or one that is not a word. -/
theorem offset?_eq_none_iff {text : String} :
    offset? text = none ↔ ∀ n, Spells text n → UInt64.size ≤ n := by
  constructor
  · intro hnone n hspells
    by_contra hword
    have hoffset : offset? text = some n.toUInt64 := by
      apply offset?_eq_some_iff.mpr
      rw [UInt64.toNat_ofNat_of_lt' (not_le.mp hword)]
      exact hspells
    rw [hnone] at hoffset
    contradiction
  · intro hlarge
    cases hoffset : offset? text with
    | none => rfl
    | some offset =>
      have hle := hlarge _ (offset?_eq_some_iff.mp hoffset)
      exact absurd offset.toNat_lt_size (not_lt.mpr hle)

theorem isEmpty_toString (n : Nat) : (toString n).isEmpty = false := by
  rw [Bool.eq_false_iff]
  intro hempty
  have hnil := congrArg String.toList (String.isEmpty_iff.mp hempty)
  rw [toList_toString] at hnil
  exact Nat.toDigits_ne_nil hnil

def room (scope : Scope) : Nat :=
  (pageSize scope).toNat

def slice (size k : Nat) (splits : List Split) : List Split :=
  (splits.drop (k * size)).take size

/-- The marker of the page with a number: none for the first one, later its offset. -/
def markerAt (size k : Nat) : Option Marker :=
  if k = 0 then none else some ⟨toString (k * size)⟩

theorem isEmpty_markerAt (size k : Nat) : (markerAt size k).any Marker.isEmpty = false := by
  by_cases hzero : k = 0
  · rw [markerAt, if_pos hzero]
    rfl
  · rw [markerAt, if_neg hzero]
    exact isEmpty_toString _

/-- The number of pages of a size that a number of splits takes; without splits there is one. -/
def pageCount (size count : Nat) : Nat :=
  max 1 ((count + size - 1) / size)

/-- The offsets of all pages of a list are words, as they are for any list that fits into memory. -/
def Addressable (splits : List Split) : Prop :=
  splits.length + UInt32.size ≤ UInt64.size

theorem room_pos (scope : Scope) : 0 < room scope := by
  have hle : (1 : UInt32) ≤ pageSize scope := by
    show (1 : UInt32) ≤ if (1 : UInt32) ≤ scope.pageSize.getD defaultPageSize then _ else _
    split
    · assumption
    · exact UInt32.le_refl 1
  exact Nat.lt_of_lt_of_le Nat.zero_lt_one (UInt32.le_iff_toNat_le.mp hle)

/-- As long as splits are left there is one more page. -/
theorem lt_pageCount {size count k : Nat} (hsize : 0 < size) (hk : k * size < count) :
    k < pageCount size count := by
  refine lt_max_of_lt_right (Nat.lt_of_succ_le ((Nat.le_div_iff_mul_le hsize).mpr ?_))
  rw [Nat.succ_mul]
  omega

/-- The last page is the one after which nothing is left. -/
theorem pageCount_le {size count k : Nat} (hsize : 0 < size) (hzero : k ≠ 0)
    (hk : count ≤ k * size) : pageCount size count ≤ k := by
  refine max_le (Nat.one_le_iff_ne_zero.mpr hzero) (Nat.lt_succ_iff.mp ?_)
  rw [Nat.div_lt_iff_lt_mul hsize, Nat.succ_mul]
  omega

theorem take_slice (size k : Nat) (splits : List Split) :
    splits.take (k * size) ++ slice size k splits = splits.take ((k + 1) * size) := by
  rw [slice, Nat.succ_mul, List.take_add]

variable {splits : List Split} {scope : Scope} {k : Nat}

/-- The offset of a page is a word. -/
theorem offset_lt (hfits : Addressable splits) (hk : k * room scope ≤ splits.length) :
    k * room scope < UInt64.size := by
  have hsize : 0 < UInt32.size := by decide
  unfold Addressable at hfits
  omega

theorem toNat_offset (hfits : Addressable splits) (hk : k * room scope ≤ splits.length) :
    (k * room scope).toUInt64.toNat = k * room scope :=
  UInt64.toNat_ofNat_of_lt' (offset_lt hfits hk)

/-- The marker of the end of a page: an empty one if no split is left there, or else the offset. -/
def endMarker (splits : List Split) (stop : Nat) : Marker :=
  ⟨if splits.length ≤ stop then "" else toString stop⟩

theorem endMarker_of_lt {stop : Nat} (h : stop < splits.length) :
    endMarker splits stop = ⟨toString stop⟩ := by
  rw [endMarker, if_neg (not_le.mpr h)]

theorem isEmpty_endMarker_iff {stop : Nat} :
    (endMarker splits stop).isEmpty = true ↔ splits.drop stop = [] := by
  rw [List.drop_eq_nil_iff]
  constructor
  · intro hempty
    by_contra hleft
    rw [endMarker_of_lt (not_le.mp hleft)] at hempty
    exact Bool.false_ne_true ((isEmpty_toString stop).symm.trans hempty)
  · intro hlast
    rw [endMarker, if_pos hlast]
    rfl

theorem spells_endMarker {stop : Nat} (h : (endMarker splits stop).isEmpty = false) :
    Spells (endMarker splits stop).text stop := by
  have hleft : stop < splits.length := by
    by_contra hlast
    have hempty := isEmpty_endMarker_iff.mpr (List.drop_eq_nil_of_le (not_lt.mp hlast))
    rw [h] at hempty
    contradiction
  rw [endMarker_of_lt hleft]
  exact spells_toString stop

/-- A page that ends at a word has the splits from its offset on, and the marker of its end unless
nothing is left there. -/
theorem page_within {offset : UInt64} (h : offset.toNat + room scope < UInt64.size) :
    page splits scope offset =
      { splits := (splits.drop offset.toNat).take (room scope)
        nextMarker := some (endMarker splits (offset.toNat + room scope))
        maxItems := some (pageSize scope) } := by
  have hstop : (offset + (pageSize scope).toUInt64).toNat = offset.toNat + room scope := by
    rw [UInt64.toNat_add, UInt32.toNat_toUInt64]
    exact Nat.mod_eq_of_lt h
  have hsplits : (splits.take (min (offset.toNat + room scope) splits.length)).drop offset.toNat =
      (splits.drop offset.toNat).take (room scope) := by
    have htake : splits.take (min (offset.toNat + room scope) splits.length) =
        splits.take (offset.toNat + room scope) := by
      rw [List.take_eq_take_iff]
      omega
    rw [htake, List.drop_take, Nat.add_sub_cancel_left]
  simp only [page, hstop, hsplits, endMarker]
  by_cases hlast : splits.length ≤ offset.toNat + room scope
  · simp [hlast]
  · have hmin : min (offset.toNat + room scope) splits.length = offset.toNat + room scope := by
      omega
    simp [hmin]

/-- A page that would end beyond the words ends before its offset. It has no splits, and the marker
of that end unless nothing is left there. -/
theorem page_beyond (splits : List Split) {offset : UInt64} {back : Nat}
    (h : offset.toNat + room scope = UInt64.size + back) :
    back < offset.toNat ∧ page splits scope offset =
      { splits := []
        nextMarker := some (endMarker splits back)
        maxItems := some (pageSize scope) } := by
  have hword := offset.toNat_lt_size
  have hroom : room scope < UInt32.size := (pageSize scope).toNat_lt_size
  have hback : back < offset.toNat := by
    simp only [UInt64.size, UInt32.size] at hword hroom h
    omega
  have hstop : (offset + (pageSize scope).toUInt64).toNat = back := by
    rw [UInt64.toNat_add, UInt32.toNat_toUInt64]
    show (offset.toNat + room scope) % UInt64.size = back
    rw [h, Nat.add_mod_left]
    exact Nat.mod_eq_of_lt (hback.trans hword)
  have hsplits : (splits.take (min back splits.length)).drop offset.toNat = [] := by
    apply List.drop_eq_nil_of_le
    rw [List.length_take]
    omega
  refine ⟨hback, ?_⟩
  simp only [page, hstop, hsplits, endMarker]
  by_cases hlast : splits.length ≤ back
  · simp [hlast]
  · have hmin : min back splits.length = back := by omega
    simp [hmin]

/-- A page has its splits, and the marker of the next one unless it is the last. -/
theorem page_eq (hfits : Addressable splits) (hk : k * room scope ≤ splits.length) :
    page splits scope (k * room scope).toUInt64 =
      { splits := slice (room scope) k splits
        nextMarker := some ⟨if splits.length ≤ (k + 1) * room scope then ""
          else toString ((k + 1) * room scope)⟩
        maxItems := some (pageSize scope) } := by
  have hroom : room scope < UInt32.size := (pageSize scope).toNat_lt_size
  have hoffset := toNat_offset hfits hk
  have hword : (k * room scope).toUInt64.toNat + room scope < UInt64.size := by
    unfold Addressable at hfits
    omega
  rw [page_within hword, hoffset, Nat.succ_mul]
  rfl

/-- The split is in a range of keys, which has its lower end and, if it ends, not its upper one. -/
def within (range : String × Option String) (split : Split) : Bool :=
  range.1 ≤ split.key && range.2.all (split.key < ·)

def ranges : List String → List (String × Option String)
  | [] => []
  | [lower] => [(lower, none)]
  | lower :: upper :: rest => (lower, some upper) :: ranges (upper :: rest)

theorem within_none {lower : String} {split : Split} :
    within (lower, none) split = true ↔ lower ≤ split.key := by
  rw [within, Option.all_none, Bool.and_true, decide_eq_true_iff]

theorem within_some {lower upper : String} {split : Split} :
    within (lower, some upper) split = true ↔ lower ≤ split.key ∧ split.key < upper := by
  rw [within, Option.all_some, Bool.and_eq_true, decide_eq_true_iff, decide_eq_true_iff]

/-- A range is divided by a cut inside. -/
theorem filter_cut (hkeys : (splits.map (·.key)).Pairwise (· < ·)) {lower cut : String}
    (hcut : lower < cut) :
    splits.filter (within (lower, some cut)) ++ splits.filter (within (cut, none)) =
      splits.filter (within (lower, none)) := by
  induction splits with
  | nil => rfl
  | cons s rest ih =>
    obtain ⟨habove, hrest⟩ := List.pairwise_cons.mp hkeys
    by_cases hs : s.key < cut
    · have hnone : within (cut, none) s = false :=
        Bool.eq_false_iff.mpr fun hin => not_le.mpr hs (within_none.mp hin)
      have hsame : within (lower, some cut) s = within (lower, none) s := by
        rw [Bool.eq_iff_iff, within_some, within_none]
        exact and_iff_left hs
      simp only [List.filter_cons, hnone, hsame, Bool.false_eq_true, if_false]
      cases within (lower, none) s with
      | true => simpa using ih hrest
      | false => simpa using ih hrest
    · -- From here on all keys are beyond the cut.
      have hbeyond : ∀ t ∈ s :: rest, cut ≤ t.key := by
        intro t ht
        rcases List.mem_cons.mp ht with rfl | ht
        · exact not_lt.mp hs
        · exact le_trans (not_lt.mp hs) (le_of_lt (habove _ (List.mem_map_of_mem ht)))
      have hfirst : (s :: rest).filter (within (lower, some cut)) = [] := by
        refine List.filter_eq_nil_iff.mpr fun t ht hin => ?_
        exact not_lt.mpr (hbeyond t ht) (within_some.mp hin).2
      have hsecond : (s :: rest).filter (within (cut, none)) = s :: rest :=
        List.filter_eq_self.mpr fun t ht => within_none.mpr (hbeyond t ht)
      have hall : (s :: rest).filter (within (lower, none)) = s :: rest :=
        List.filter_eq_self.mpr fun t ht =>
          within_none.mpr (le_trans (le_of_lt hcut) (hbeyond t ht))
      rw [hfirst, hsecond, hall, List.nil_append]

/-- The ranges between ascending cuts divide what comes from the first cut on. -/
theorem flatMap_ranges (hkeys : (splits.map (·.key)).Pairwise (· < ·)) {first : String}
    {rest : List String} (hcuts : (first :: rest).Pairwise (· < ·)) :
    (ranges (first :: rest)).flatMap (fun range => splits.filter (within range)) =
      splits.filter (within (first, none)) := by
  induction rest generalizing first with
  | nil => simp [ranges]
  | cons second rest ih =>
    obtain ⟨habove, hrest⟩ := List.pairwise_cons.mp hcuts
    rw [ranges, List.flatMap_cons, ih hrest]
    exact filter_cut hkeys (habove second List.mem_cons_self)

theorem mem_cuts {cuts : List String} {range : String × Option String} (h : range ∈ ranges cuts) :
    range.1 ∈ cuts := by
  induction cuts with
  | nil => simp [ranges] at h
  | cons first rest ih =>
    cases rest with
    | nil =>
      obtain rfl := List.mem_singleton.mp h
      exact List.mem_cons_self
    | cons second rest =>
      rcases List.mem_cons.mp h with rfl | h
      · exact List.mem_cons_self
      · exact List.mem_cons_of_mem _ (ih h)

def Store.splitsOf (id : String) (s : Store) : List Split :=
  (lookup id s.sessionSplits).getD []

/-- A request for a page was taken down. -/
def Store.requested (marker : Option Marker) (s : Store) : Store :=
  { s with listRequests := s.listRequests ++ [marker] }

/-- The offset that is asked for: the start without a marker, or else the number that it spells
out. -/
def AsksFrom : Option Marker → Nat → Prop
  | none, offset => offset = 0
  | some m, offset => Spells m.text offset

theorem asksFrom_markerAt (size k : Nat) : AsksFrom (markerAt size k) (k * size) := by
  by_cases hzero : k = 0
  · rw [markerAt, if_pos hzero, hzero]
    exact Nat.zero_mul size
  · rw [markerAt, if_neg hzero]
    exact spells_toString _

theorem asksFrom_or (marker : Option Marker) :
    (∃ offset : UInt64, AsksFrom marker offset.toNat) ∨
      ∃ m, marker = some m ∧ ∀ n, Spells m.text n → UInt64.size ≤ n := by
  cases marker with
  | none => exact .inl ⟨0, rfl⟩
  | some m =>
    cases hread : offset? m.text with
    | none => exact .inr ⟨m, rfl, offset?_eq_none_iff.mp hread⟩
    | some offset => exact .inl ⟨offset, offset?_eq_some_iff.mp hread⟩

section

variable {s : Store} {session : TableSession} {scope : Scope} {marker : Option Marker}

theorem listSplits_of_unknown (h : lookup session.id s.sessions = none) :
    listSplits session scope marker s =
      (.error (noSuchSession session.id), s.requested marker) := by
  simp only [listSplits, h]
  rfl

theorem listSplits_of_asksFrom (h : (lookup session.id s.sessions).isSome = true) {offset : UInt64}
    (hoffset : AsksFrom marker offset.toNat) :
    listSplits session scope marker s =
      (.ok (page (s.splitsOf session.id) scope offset), s.requested marker) := by
  obtain ⟨stored, hstored⟩ := Option.isSome_iff_exists.mp h
  cases marker with
  | none =>
    obtain rfl : offset = 0 := UInt64.toNat_inj.mp hoffset
    simp only [listSplits, hstored]
    rfl
  | some m =>
    have hread := offset?_eq_some_iff.mpr hoffset
    simp only [listSplits, hstored, hread]
    rfl

theorem listSplits_of_invalid (h : (lookup session.id s.sessions).isSome = true) {m : Marker}
    (hmarker : ∀ n, Spells m.text n → UInt64.size ≤ n) :
    listSplits session scope (some m) s =
      (.error (fault 400 "InvalidMarker" s!"marker '{m.text}' is not valid"),
        s.requested (some m)) := by
  obtain ⟨stored, hstored⟩ := Option.isSome_iff_exists.mp h
  have hread := offset?_eq_none_iff.mpr hmarker
  simp only [listSplits, hstored, hread]
  rfl

end

structure Serves (s : Store) (id : String) (splits : List Split) : Prop where
  known : (lookup id s.sessions).isSome = true
  splits : lookup id s.sessionSplits = some splits

variable {s s' : Store} {session : TableSession}

theorem Serves.of_eq {id : String} (h : Serves s id splits) (hsessions : s'.sessions = s.sessions)
    (hsplits : s'.sessionSplits = s.sessionSplits) : Serves s' id splits := by
  constructor
  · rw [hsessions]
    exact h.known
  · rw [hsplits]
    exact h.splits

/-- A new session has the splits that its table has when it is created. -/
theorem createRead_serves (table : TableRef) (scope : Scope) (s : Store) :
    ∃ session, (createRead table scope s).1 = .ok session ∧
      Serves (createRead table scope s).2 session.id ((lookup table s.tables).getD []) := by
  refine ⟨_, rfl, ?_, lookup_assign_self _ _ _⟩
  exact Option.isSome_iff_exists.mpr ⟨_, lookup_assign_self _ _ _⟩

theorem Serves.listSplits (h : Serves s session.id splits) (hfits : Addressable splits)
    (hk : k * room scope ≤ splits.length) :
    listSplits session scope (markerAt (room scope) k) s =
      (.ok (page splits scope (k * room scope).toUInt64),
        s.requested (markerAt (room scope) k)) := by
  have hasks : AsksFrom (markerAt (room scope) k) (k * room scope).toUInt64.toNat := by
    rw [toNat_offset hfits hk]
    exact asksFrom_markerAt _ _
  have hsplits : s.splitsOf session.id = splits := by
    rw [Store.splitsOf, h.splits, Option.getD_some]
  rw [listSplits_of_asksFrom h.known hasks, hsplits]

theorem Serves.listRange (h : Serves s session.id splits) (lower : String)
    (upper : Option String) :
    listRange session lower upper s = (.ok (splits.filter (within (lower, upper))),
      { s with rangeRequests := s.rangeRequests ++ [(lower, upper)] }) := by
  obtain ⟨t, ht⟩ := Option.isSome_iff_exists.mp h.known
  simp only [Memory.listRange, ht, h.splits]
  rfl

end TableExchange.Memory
