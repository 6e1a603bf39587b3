import TableExchange.Write.Ledger

/-!
What a ledger that was only fed messages can resolve to: one message for each block with a message,
the blocks ascending, and every message one that was fed.
-/
namespace TableExchange

namespace SortedMap

variable {κ ν : Type} [Ord κ]

theorem keys_ascending (m : SortedMap κ ν) :
    m.keys.Pairwise fun a b => compare a b = .lt :=
  List.pairwise_map.mpr m.ascending

variable [Std.LawfulEqOrd κ]

theorem mem_of_get? {m : SortedMap κ ν} {k : κ} {v : ν} (h : m.get? k = some v) :
    (k, v) ∈ m.entries := by
  obtain ⟨entries, _⟩ := m
  simp only [get?] at h ⊢
  induction entries with
  | nil => simp [find?] at h
  | cons head rest ih =>
    rename_i hasc
    obtain ⟨k', v'⟩ := head
    simp only [find?] at h
    split at h
    · next heq =>
      obtain rfl : k = k' := Std.LawfulEqCmp.eq_of_compare heq
      obtain rfl : v' = v := Option.some.inj h
      exact List.mem_cons_self
    · exact List.mem_cons_of_mem _ (ih (List.pairwise_cons.mp hasc).2 h)

theorem mem_keys_of_get? {m : SortedMap κ ν} {k : κ} {v : ν} (h : m.get? k = some v) :
    k ∈ m.keys :=
  List.mem_map.mpr ⟨_, mem_of_get? h, rfl⟩

theorem get?_of_mem_keys {m : SortedMap κ ν} {k : κ} (h : k ∈ m.keys) :
    ∃ v, m.get? k = some v := by
  obtain ⟨entries, _⟩ := m
  simp only [get?, keys] at h ⊢
  induction entries with
  | nil => simp at h
  | cons head rest ih =>
    rename_i hasc
    obtain ⟨k', v'⟩ := head
    simp only [find?]
    split
    · exact ⟨v', rfl⟩
    · next hne =>
      rcases List.mem_cons.mp h with rfl | h
      · exact absurd Std.ReflOrd.compare_self hne
      · exact ih (List.pairwise_cons.mp hasc).2 h

theorem get?_of_mem {m : SortedMap κ ν} {k : κ} {v : ν} (h : (k, v) ∈ m.entries) :
    m.get? k = some v := by
  obtain ⟨entries, _⟩ := m
  simp only [get?] at h ⊢
  induction entries with
  | nil => simp at h
  | cons head rest ih =>
    rename_i hasc
    obtain ⟨hhead, hrest⟩ := List.pairwise_cons.mp hasc
    rcases List.mem_cons.mp h with rfl | h
    · simp [find?]
    · have hlt := hhead _ h
      have hne : compare k head.1 ≠ .eq := by
        intro heq
        rw [Std.LawfulEqCmp.eq_of_compare heq, Std.ReflOrd.compare_self] at hlt
        contradiction
      simp only [find?, hne, if_false]
      exact ih hrest h

/-- A key has one value. -/
theorem value_unique {m : SortedMap κ ν} {k : κ} {v w : ν} (hv : (k, v) ∈ m.entries)
    (hw : (k, w) ∈ m.entries) : v = w :=
  Option.some.inj ((get?_of_mem hv).symm.trans (get?_of_mem hw))

variable [Std.TransOrd κ]

/-- Maps with the same entries are equal, since both have them in the order of their keys. -/
theorem mem_ext {m n : SortedMap κ ν} (h : ∀ e, e ∈ m.entries ↔ e ∈ n.entries) : m = n := by
  have hirrefl : ∀ {a b : κ × ν}, compare a.1 b.1 = .lt → a ≠ b := by
    rintro a b hlt rfl
    simp at hlt
  have hperm : m.entries.Perm n.entries :=
    (List.perm_ext_iff_of_nodup (m.ascending.imp hirrefl) (n.ascending.imp hirrefl)).mpr h
  refine ext (hperm.eq_of_pairwise ?_ m.ascending n.ascending)
  intro a b _ _ hab hba
  exact absurd hba (Std.OrientedCmp.not_lt_of_lt hab)

theorem get?_ext {m n : SortedMap κ ν} (h : ∀ k, m.get? k = n.get? k) : m = n :=
  mem_ext fun e =>
    ⟨fun he => mem_of_get? ((h e.1).symm.trans (get?_of_mem he)),
      fun he => mem_of_get? ((h e.1).trans (get?_of_mem he))⟩

theorem insert_of_get? [DecidableEq κ] {m : SortedMap κ ν} {k : κ} {v : ν}
    (h : m.get? k = some v) : m.insert k v = m := by
  refine get?_ext fun j => ?_
  rw [get?_insert]
  split
  · next hj => rw [hj, h]
  · rfl

theorem insert_insert [DecidableEq κ] (m : SortedMap κ ν) (k : κ) (v w : ν) :
    (m.insert k v).insert k w = m.insert k w := by
  refine get?_ext fun j => ?_
  simp only [get?_insert]
  split <;> rfl

omit [Std.LawfulEqOrd κ] [Std.TransOrd κ] in
/-- The last value is that of the greatest key. -/
theorem greatest_of_last? {m : SortedMap κ ν} {v : ν} (h : m.last? = some v) :
    ∃ k, (k, v) ∈ m.entries ∧ ∀ e ∈ m.entries, e = (k, v) ∨ compare e.1 k = .lt := by
  simp only [last?, values, List.getLast?_map, Option.map_eq_some_iff] at h
  obtain ⟨⟨k, w⟩, hlast, rfl⟩ := h
  obtain ⟨init, hinit⟩ := List.getLast?_eq_some_iff.mp hlast
  have hasc := m.ascending
  rw [Ascending, hinit, List.pairwise_append] at hasc
  refine ⟨k, List.mem_of_getLast? hlast, fun e he => ?_⟩
  rw [hinit] at he
  rcases List.mem_append.mp he with he | he
  · exact .inr (hasc.2.2 e he _ (List.mem_singleton_self _))
  · exact .inl (List.mem_singleton.mp he)

theorem mem_insert {m : SortedMap κ ν} {k : κ} {v : ν} {e : κ × ν}
    (h : e ∈ (m.insert k v).entries) : e = (k, v) ∨ e ∈ m.entries :=
  fst_of_mem_upsert h

theorem mem_insert_self (m : SortedMap κ ν) (k : κ) (v : ν) :
    (k, v) ∈ (m.insert k v).entries :=
  mem_of_get? (m.get?_insert_self k v)

theorem mem_keys_insert [DecidableEq κ] {m : SortedMap κ ν} {k j : κ} {v : ν} :
    j ∈ (m.insert k v).keys ↔ j = k ∨ j ∈ m.keys := by
  constructor
  · intro h
    obtain ⟨e, he, rfl⟩ := List.mem_map.mp h
    rcases mem_insert he with rfl | he
    · exact .inl rfl
    · exact .inr (List.mem_map.mpr ⟨e, he, rfl⟩)
  · rintro (rfl | h)
    · exact mem_keys_of_get? (m.get?_insert_self j v)
    · obtain ⟨w, hw⟩ := get?_of_mem_keys h
      by_cases hjk : j = k
      · subst hjk
        exact mem_keys_of_get? (m.get?_insert_self j v)
      · rw [← m.get?_insert_of_ne v hjk] at hw
        exact mem_keys_of_get? hw

end SortedMap

namespace Ledger

def Holds (l : Ledger) (m : CommitMessage) : Prop :=
  ∃ attempts, (m.block, attempts) ∈ l.held.entries ∧ (m.attempt, m) ∈ attempts.entries

structure Filed (l : Ledger) : Prop where
  filed : ∀ block attempts, (block, attempts) ∈ l.held.entries →
    ∀ attempt m, (attempt, m) ∈ attempts.entries → m.block = block ∧ m.attempt = attempt
  nonempty : ∀ block attempts, (block, attempts) ∈ l.held.entries → attempts.entries ≠ []

theorem filed_start (policy : ConflictPolicy) : (start policy).Filed := by
  constructor
  · intro block attempts h
    exact absurd h List.not_mem_nil
  · intro block attempts h
    exact absurd h List.not_mem_nil

theorem mem_attemptsOf {l : Ledger} {block : UInt64} {e : UInt32 × CommitMessage}
    (h : e ∈ (l.attemptsOf block).entries) :
    (block, l.attemptsOf block) ∈ l.held.entries := by
  unfold attemptsOf at h ⊢
  cases hget : l.held.get? block with
  | none =>
    rw [hget] at h
    exact absurd h List.not_mem_nil
  | some attempts => exact SortedMap.mem_of_get? hget

variable {l : Ledger}

theorem Filed.choose (h : l.Filed) (block : UInt64) (attempt : UInt32) :
    (l.choose block attempt).Filed :=
  ⟨h.filed, h.nonempty⟩

inductive Added (l : Ledger) (m : CommitMessage) : Except Failure Unit → Ledger → Prop
  | present (h : l.message? m.block m.attempt = some m) : Added l m (.ok ()) l
  | clash {p : CommitMessage} (h : l.message? m.block m.attempt = some p) (hne : p ≠ m) :
      Added l m (.error (Ledger.clash m)) l
  | new (h : l.message? m.block m.attempt = none) : Added l m (.ok ())
      { l with held := l.held.insert m.block ((l.attemptsOf m.block).insert m.attempt m) }

theorem added (l : Ledger) (m : CommitMessage) : Added l m (l.add m).1 (l.add m).2 := by
  unfold add
  split
  · next present hpresent =>
    split
    · next heq =>
      subst heq
      exact .present hpresent
    · next hne => exact .clash hpresent hne
  · next hnone => exact .new hnone

theorem Added.filed {m : CommitMessage} {answer : Except Failure Unit} {l' : Ledger}
    (ha : Added l m answer l') (h : l.Filed) : l'.Filed := by
  cases ha with
  | present _ => exact h
  | clash _ _ => exact h
  | new _ =>
    constructor
    · intro block attempts hentry attempt m' hm'
      rcases SortedMap.mem_insert hentry with heq | hentry
      · obtain ⟨rfl, rfl⟩ := Prod.mk.inj heq
        rcases SortedMap.mem_insert hm' with heq | hm'
        · obtain ⟨rfl, rfl⟩ := Prod.mk.inj heq
          exact ⟨rfl, rfl⟩
        · exact h.filed _ _ (mem_attemptsOf hm') _ _ hm'
      · exact h.filed _ _ hentry _ _ hm'
    · intro block attempts hentry
      rcases SortedMap.mem_insert hentry with heq | hentry
      · obtain ⟨rfl, rfl⟩ := Prod.mk.inj heq
        exact List.ne_nil_of_mem (SortedMap.mem_insert_self _ _ _)
      · exact h.nonempty _ _ hentry

theorem Added.holds {m : CommitMessage} {answer : Except Failure Unit} {l' : Ledger}
    (ha : Added l m answer l') {m' : CommitMessage} (hm' : l'.Holds m') : m' = m ∨ l.Holds m' := by
  cases ha with
  | present _ => exact .inr hm'
  | clash _ _ => exact .inr hm'
  | new _ =>
    obtain ⟨attempts, hentry, hmem⟩ := hm'
    rcases SortedMap.mem_insert hentry with heq | hentry
    · obtain ⟨hblock, rfl⟩ := Prod.mk.inj heq
      rcases SortedMap.mem_insert hmem with heq | hmem
      · exact .inl (Prod.mk.inj heq).2
      · rw [← hblock] at hmem
        exact .inr ⟨_, mem_attemptsOf hmem, hmem⟩
    · exact .inr ⟨attempts, hentry, hmem⟩

theorem Added.keys {m : CommitMessage} {answer : Except Failure Unit} {l' : Ledger}
    (ha : Added l m answer l') (block : UInt64) :
    block ∈ l'.held.keys ↔ block = m.block ∨ block ∈ l.held.keys := by
  have hheld : ∀ {p}, l.message? m.block m.attempt = some p → m.block ∈ l.held.keys := by
    intro p hp
    exact List.mem_map.mpr ⟨_, mem_attemptsOf (SortedMap.mem_of_get? hp), rfl⟩
  cases ha with
  | present hp => exact ⟨.inr, fun hb => hb.elim (fun heq => heq ▸ hheld hp) id⟩
  | clash hp _ => exact ⟨.inr, fun hb => hb.elim (fun heq => heq ▸ hheld hp) id⟩
  | new _ => exact SortedMap.mem_keys_insert

theorem resolveBlock_mem {block : UInt64} {attempts : Attempts} {m : CommitMessage}
    (h : l.resolveBlock block attempts = .ok (some m)) :
    ∃ attempt, (attempt, m) ∈ attempts.entries := by
  unfold resolveBlock at h
  split at h
  · next attempt _ =>
    split at h
    · next m' hget =>
      obtain rfl : m' = m := by simpa using h
      exact ⟨attempt, SortedMap.mem_of_get? hget⟩
    · simp at h
  · split at h
    · have hlast : attempts.last? = some m := by simpa using h
      obtain ⟨e, he, hem⟩ := List.mem_map.mp (List.mem_of_getLast? hlast)
      exact ⟨e.1, by rwa [← hem]⟩
    · simp at h

theorem resolveBlock_ne_none {block : UInt64} {attempts : Attempts} (h : attempts.entries ≠ []) :
    l.resolveBlock block attempts ≠ .ok none := by
  unfold resolveBlock
  split
  · split <;> simp
  · split
    · have hvalues : attempts.values ≠ [] := by simpa [SortedMap.values] using h
      simpa [SortedMap.last?] using hvalues
    · simp

def Unsettled (f : Failure) : Prop :=
  f.kind = .invalidState ∨ f.kind = .conflictingMessages

theorem resolveBlock_error {block : UInt64} {attempts : Attempts} {f : Failure}
    (h : l.resolveBlock block attempts = .error f) : Unsettled f := by
  unfold resolveBlock at h
  split at h
  · split at h
    · simp at h
    · obtain rfl : unreceived _ _ = f := by simpa using h
      exact .inl rfl
  · split at h
    · simp at h
    · obtain rfl : undecided _ _ = f := by simpa using h
      exact .inr rfl

/-- One message for each entry, in their order, unless some entry fails. -/
theorem sortOut_map {entries : List (UInt64 × Attempts)}
    (hentries : ∀ e ∈ entries, e ∈ l.held.entries) (h : l.Filed) :
    let out := sortOut (entries.map fun e => l.resolveBlock e.1 e.2)
    (∀ f ∈ out.2, Unsettled f) ∧ (∀ m ∈ out.1, l.Holds m) ∧
      (out.2 = [] → out.1.map (·.block) = entries.map (·.1)) := by
  induction entries with
  | nil => simp [sortOut]
  | cons e rest ih =>
    obtain ⟨block, attempts⟩ := e
    have hentry := hentries _ List.mem_cons_self
    obtain ⟨hfailures, hmessages, hblocks⟩ :=
      ih fun e he => hentries e (List.mem_cons_of_mem _ he)
    simp only [List.map_cons]
    -- A block without a message would resolve to none and be left out.
    cases hresolve : l.resolveBlock block attempts with
    | error f =>
      refine ⟨?_, hmessages, by simp [sortOut]⟩
      intro f' hf'
      rcases List.mem_cons.mp hf' with rfl | hf'
      · exact resolveBlock_error hresolve
      · exact hfailures f' hf'
    | ok o =>
      cases o with
      | none => exact absurd hresolve (resolveBlock_ne_none (h.nonempty _ _ hentry))
      | some m =>
        obtain ⟨attempt, hm⟩ := resolveBlock_mem hresolve
        obtain ⟨hblock, hattempt⟩ := h.filed _ _ hentry _ _ hm
        refine ⟨hfailures, ?_, ?_⟩
        · intro m' hm'
          rcases List.mem_cons.mp hm' with rfl | hm'
          · exact ⟨attempts, hblock ▸ hentry, hattempt ▸ hm⟩
          · exact hmessages m' hm'
        · intro hnone
          simp only [sortOut, List.map_cons, hblock]
          rw [hblocks hnone]

/-- A filed ledger resolves to one held message for each of its blocks, in their order. -/
theorem Filed.resolve_ok (h : l.Filed) {messages : List CommitMessage}
    (hok : l.resolve = .ok messages) :
    messages.map (·.block) = l.held.keys ∧ ∀ m ∈ messages, l.Holds m := by
  obtain ⟨-, hmessages, hblocks⟩ := sortOut_map (fun e he => he) h
  simp only [resolve] at hok
  split at hok
  · next hnone =>
    obtain rfl := Except.ok.inj hok
    exact ⟨hblocks (List.isEmpty_iff.mp hnone), hmessages⟩
  · simp at hok

/-- The failure of a ledger that cannot be resolved is its own. -/
theorem Filed.resolve_error (h : l.Filed) {f : Failure} (herror : l.resolve = .error f) :
    Unsettled f := by
  obtain ⟨hfailures, -, -⟩ := sortOut_map (fun e he => he) h
  simp only [resolve] at herror
  split at herror
  · simp at herror
  · next hsome =>
    obtain rfl := Except.error.inj herror
    rcases hout : (sortOut (l.held.entries.map fun e => l.resolveBlock e.1 e.2)).2
      with _ | ⟨f, _ | ⟨g, rest⟩⟩
    · simp [hout] at hsome
    · rw [hout] at hfailures ⊢
      exact hfailures f List.mem_cons_self
    · rw [hout] at hfailures ⊢
      exact hfailures f List.mem_cons_self

end Ledger

end TableExchange
