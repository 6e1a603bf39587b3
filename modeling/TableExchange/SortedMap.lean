/-!
Finite maps as ascending lists of entries. Every map has one representation, so two maps with the
same entries are equal.
-/

namespace TableExchange

variable {κ ν : Type} [Ord κ]

def upsert (k : κ) (v : ν) : List (κ × ν) → List (κ × ν)
  | [] => [(k, v)]
  | (k', v') :: rest =>
    match compare k k' with
    | .lt => (k, v) :: (k', v') :: rest
    | .eq => (k, v) :: rest
    | .gt => (k', v') :: upsert k v rest

def find? (k : κ) : List (κ × ν) → Option ν
  | [] => none
  | (k', v') :: rest => if compare k k' = .eq then some v' else find? k rest

def Ascending (entries : List (κ × ν)) : Prop :=
  entries.Pairwise fun a b => compare a.1 b.1 = .lt

section Order

variable [Std.TransOrd κ] [Std.LawfulEqOrd κ]

omit [Std.TransOrd κ] [Std.LawfulEqOrd κ] in
theorem fst_of_mem_upsert {k : κ} {v : ν} {entries : List (κ × ν)} {e : κ × ν}
    (h : e ∈ upsert k v entries) : e = (k, v) ∨ e ∈ entries := by
  induction entries with
  | nil => simpa [upsert] using h
  | cons head rest ih =>
    obtain ⟨k', v'⟩ := head
    simp only [upsert] at h
    split at h
    · simpa using h
    · simp only [List.mem_cons] at h ⊢
      rcases h with h | h
      · exact .inl h
      · exact .inr (.inr h)
    · simp only [List.mem_cons] at h ⊢
      rcases h with h | h
      · exact .inr (.inl h)
      · rcases ih h with h | h
        · exact .inl h
        · exact .inr (.inr h)

theorem Ascending.upsert {entries : List (κ × ν)} (h : Ascending entries) (k : κ) (v : ν) :
    Ascending (upsert k v entries) := by
  induction entries with
  | nil => simp [TableExchange.upsert, Ascending]
  | cons head rest ih =>
    obtain ⟨k', v'⟩ := head
    obtain ⟨hhead, hrest⟩ := List.pairwise_cons.1 h
    simp only [TableExchange.upsert]
    split
    · next hlt =>
      refine List.pairwise_cons.2 ⟨fun e he => ?_, h⟩
      rcases List.mem_cons.1 he with rfl | he
      · exact hlt
      · exact Std.TransCmp.lt_trans hlt (hhead e he)
    · next heq =>
      have hk : k = k' := Std.LawfulEqCmp.eq_of_compare heq
      subst hk
      exact List.pairwise_cons.2 ⟨hhead, hrest⟩
    · next hgt =>
      refine List.pairwise_cons.2 ⟨fun e he => ?_, ih hrest⟩
      rcases fst_of_mem_upsert he with rfl | he
      · exact Std.OrientedCmp.lt_of_gt hgt
      · exact hhead e he

end Order

structure SortedMap (κ ν : Type) [Ord κ] where
  entries : List (κ × ν)
  ascending : Ascending entries

namespace SortedMap

def empty : SortedMap κ ν := ⟨[], List.Pairwise.nil⟩

instance : EmptyCollection (SortedMap κ ν) := ⟨empty⟩

instance : Inhabited (SortedMap κ ν) := ⟨empty⟩

def get? (m : SortedMap κ ν) (k : κ) : Option ν :=
  find? k m.entries

def keys (m : SortedMap κ ν) : List κ :=
  m.entries.map (·.1)

def values (m : SortedMap κ ν) : List ν :=
  m.entries.map (·.2)

def size (m : SortedMap κ ν) : Nat :=
  m.entries.length

def isEmpty (m : SortedMap κ ν) : Bool :=
  m.entries.isEmpty

@[ext] theorem ext {m n : SortedMap κ ν} (h : m.entries = n.entries) : m = n := by
  cases m; cases n; cases h; rfl

instance [DecidableEq κ] [DecidableEq ν] : DecidableEq (SortedMap κ ν) := fun m n =>
  decidable_of_iff (m.entries = n.entries) ⟨ext, fun h => h ▸ rfl⟩

instance [Repr κ] [Repr ν] : Repr (SortedMap κ ν) := ⟨fun m n => reprPrec m.entries n⟩

variable [Std.TransOrd κ] [Std.LawfulEqOrd κ]

def insert (m : SortedMap κ ν) (k : κ) (v : ν) : SortedMap κ ν :=
  ⟨upsert k v m.entries, m.ascending.upsert k v⟩

/-- The map of a list of entries; of two with one key the later counts. -/
def ofList (entries : List (κ × ν)) : SortedMap κ ν :=
  entries.foldl (fun m e => m.insert e.1 e.2) ∅

def last? (m : SortedMap κ ν) : Option ν :=
  m.values.getLast?

omit [Std.TransOrd κ] [Std.LawfulEqOrd κ] in
@[simp] theorem get?_empty (k : κ) : (∅ : SortedMap κ ν).get? k = none := rfl

theorem get?_insert_self (m : SortedMap κ ν) (k : κ) (v : ν) : (m.insert k v).get? k = some v := by
  obtain ⟨entries, _⟩ := m
  simp only [insert, get?]
  induction entries with
  | nil => simp [upsert, find?]
  | cons head rest ih =>
    rename_i h
    simp only [upsert]
    split
    · simp [find?]
    · simp [find?]
    · next hgt =>
      simp only [find?, hgt, reduceCtorEq, if_false]
      exact ih (List.pairwise_cons.1 h).2

theorem get?_insert_of_ne (m : SortedMap κ ν) {k j : κ} (v : ν) (hne : j ≠ k) :
    (m.insert k v).get? j = m.get? j := by
  have hcmp : compare j k ≠ .eq := fun h => hne (Std.LawfulEqCmp.eq_of_compare h)
  obtain ⟨entries, _⟩ := m
  simp only [insert, get?]
  induction entries with
  | nil => simp [upsert, find?, hcmp]
  | cons head rest ih =>
    rename_i h
    simp only [upsert]
    split
    · simp [find?, hcmp]
    · next heq =>
      have hk : k = head.1 := Std.LawfulEqCmp.eq_of_compare heq
      simp [find?, ← hk, hcmp]
    · simp only [find?]
      split
      · rfl
      · exact ih (List.pairwise_cons.1 h).2

theorem get?_insert [DecidableEq κ] (m : SortedMap κ ν) (k j : κ) (v : ν) :
    (m.insert k v).get? j = if j = k then some v else m.get? j := by
  split
  · next h => subst h; exact get?_insert_self m j v
  · next h => exact get?_insert_of_ne m v h

end SortedMap

end TableExchange
