import TableExchange.Failure.Basic

/-!
Equality of failures beside what they feed to a hash function. Equality looks at shapes and kinds;
the hash input has the descriptions as well, and nothing else. So equal failures hash equally
exactly if their descriptions agree.
-/
namespace TableExchange.Failure

mutual

def descriptions : Failure → List String
  | .single _ d _ _ => [d]
  | .many members => descriptionsOf members

def descriptionsOf : List Failure → List String
  | [] => []
  | f :: rest => descriptions f ++ descriptionsOf rest

end

theorem length_eq_of_sameAll {as bs : List Failure} (h : sameAll as bs = true) :
    as.length = bs.length := by
  induction as generalizing bs with
  | nil =>
    cases bs with
    | nil => rfl
    | cons b bs => simp [sameAll] at h
  | cons a as ih =>
    cases bs with
    | nil => simp [sameAll] at h
    | cons b bs =>
      simp only [sameAll, Bool.and_eq_true] at h
      simp [ih h.2]

mutual

/-- No hash input continues another one: the count of members says where an aggregate ends. -/
theorem same_of_hashPieces {a b : Failure} {r r' : List HashPiece}
    (h : a.hashPieces ++ r = b.hashPieces ++ r') :
    a.same b = true ∧ a.descriptions = b.descriptions ∧ r = r' := by
  match a, b with
  | .single k d t cs, .single k' d' t' cs' =>
    simp only [hashPieces, List.cons_append, List.nil_append, List.cons.injEq, HashPiece.kind.injEq,
      HashPiece.text.injEq, true_and] at h
    obtain ⟨rfl, rfl, rfl⟩ := h
    simp [same, descriptions]
  | .many as, .many bs =>
    simp only [hashPieces, List.cons_append, List.cons.injEq, HashPiece.count.injEq, true_and] at h
    obtain ⟨hlength, hpieces⟩ := h
    simpa only [same, descriptions] using sameAll_of_hashPieces hlength hpieces
  | .single k d t cs, .many bs => simp [hashPieces] at h
  | .many as, .single k d t cs => simp [hashPieces] at h

theorem sameAll_of_hashPieces {as bs : List Failure} {r r' : List HashPiece}
    (hlength : as.length = bs.length) (h : hashPiecesOf as ++ r = hashPiecesOf bs ++ r') :
    sameAll as bs = true ∧ descriptionsOf as = descriptionsOf bs ∧ r = r' := by
  match as, bs with
  | [], [] => exact ⟨rfl, rfl, h⟩
  | a :: as, b :: bs =>
    simp only [hashPiecesOf, List.append_assoc] at h
    obtain ⟨hfirst, hdescription, hrest⟩ := same_of_hashPieces h
    obtain ⟨hall, hdescriptions, hr⟩ := sameAll_of_hashPieces (Nat.succ.inj hlength) hrest
    refine ⟨?_, ?_, hr⟩
    · rw [sameAll, hfirst, hall, Bool.and_self]
    · rw [descriptionsOf, descriptionsOf, hdescription, hdescriptions]

end

mutual

/-- Equal failures have as many descriptions, so those of a list can be told apart by position. -/
theorem hashPieces_of_same {a b : Failure} {ds es : List String} (h : a.same b = true)
    (hd : a.descriptions ++ ds = b.descriptions ++ es) :
    a.hashPieces = b.hashPieces ∧ ds = es := by
  match a, b with
  | .single k d t cs, .single k' d' t' cs' =>
    obtain rfl : k = k' := by simpa [same] using h
    obtain ⟨rfl, rfl⟩ : d = d' ∧ ds = es := by simpa [descriptions] using hd
    exact ⟨rfl, rfl⟩
  | .many as, .many bs =>
    -- `same` of two aggregates is `sameAll` of their members.
    obtain ⟨hpieces, hrest⟩ := hashPiecesOf_of_sameAll h hd
    refine ⟨?_, hrest⟩
    rw [hashPieces, hashPieces, length_eq_of_sameAll h, hpieces]
  | .single k d t cs, .many bs => simp [same] at h
  | .many as, .single k d t cs => simp [same] at h

theorem hashPiecesOf_of_sameAll {as bs : List Failure} {ds es : List String}
    (h : sameAll as bs = true) (hd : descriptionsOf as ++ ds = descriptionsOf bs ++ es) :
    hashPiecesOf as = hashPiecesOf bs ∧ ds = es := by
  match as, bs with
  | [], [] => exact ⟨rfl, hd⟩
  | a :: as, b :: bs =>
    obtain ⟨hfirst, hall⟩ : a.same b = true ∧ sameAll as bs = true := by
      simpa [sameAll] using h
    simp only [descriptionsOf, List.append_assoc] at hd
    obtain ⟨hpieces, hdescriptions⟩ := hashPieces_of_same hfirst hd
    obtain ⟨hrest, hds⟩ := hashPiecesOf_of_sameAll hall hdescriptions
    refine ⟨?_, hds⟩
    rw [hashPiecesOf, hashPiecesOf, hpieces, hrest]
  | [], b :: bs => simp [sameAll] at h
  | a :: as, [] => simp [sameAll] at h

end

/-- Failures feed the same to a hash function exactly if they are equal and their descriptions
agree. -/
theorem hashPieces_eq_iff (a b : Failure) :
    a.hashPieces = b.hashPieces ↔ a.same b = true ∧ a.descriptions = b.descriptions := by
  constructor
  · intro h
    have hr : a.hashPieces ++ [] = b.hashPieces ++ [] := by rw [h]
    obtain ⟨hsame, hdescriptions, -⟩ := same_of_hashPieces hr
    exact ⟨hsame, hdescriptions⟩
  · rintro ⟨hsame, hdescriptions⟩
    have hds : a.descriptions ++ [] = b.descriptions ++ [] := by rw [hdescriptions]
    exact (hashPieces_of_same hsame hds).1

/-- Equality leaves out the descriptions, and the hash input does not. -/
theorem equal_failures_hash_apart :
    ∃ a b : Failure, a.same b = true ∧ a.hashPieces ≠ b.hashPieces :=
  ⟨.of .inputOutput "Disk failed", .of .inputOutput "other text", rfl, by decide⟩

end TableExchange.Failure
