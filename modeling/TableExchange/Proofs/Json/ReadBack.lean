import TableExchange.Proofs.Json.Tokens

/-!
Values are read back from their texts. A value is exact if nothing in it is broken and its numbers
are integers of 64 bits.
-/
namespace TableExchange.Json

mutual

/-- Nothing in the value is broken, and its numbers are integers of 64 bits. -/
def Exact : Json → Prop
  | .null => True
  | .bool _ => True
  | .integer n => FitsWord n
  | .decimal _ => False
  | .string _ => True
  | .array items => ExactItems items
  | .object members => ExactMembers members
  | .broken => False

def ExactItems : List Json → Prop
  | [] => True
  | j :: rest => Exact j ∧ ExactItems rest

def ExactMembers : List (String × Json) → Prop
  | [] => True
  | (_, j) :: rest => Exact j ∧ ExactMembers rest

end

theorem skipGap_cons {c : Char} (h : isGap c = false) (cs : List Char) :
    skipGap (c :: cs) = c :: cs := by
  rw [skipGap, List.dropWhile_cons_of_neg (by simp [h])]

def BeginsNumber (c : Char) : Prop :=
  c = '-' ∨ c.isDigit = true

theorem toString_begins (n : Int) :
    ∃ c cs, (toString n).toList = c :: cs ∧ BeginsNumber c := by
  cases n with
  | ofNat n =>
    rw [toList_ofNat]
    cases hds : decimalDigits n with
    | nil => simp [decimalDigits, Nat.toDigits_ne_nil] at hds
    | cons c cs => exact ⟨c, cs, rfl, .inr (isDigit_decimalDigits (hds ▸ List.mem_cons_self))⟩
  | negSucc n => exact ⟨_, _, toList_negSucc n, .inl rfl⟩

theorem BeginsNumber.not_isGap {c : Char} (h : BeginsNumber c) : isGap c = false := by
  rcases h with rfl | h
  · rfl
  · rw [isGap, Bool.eq_false_iff]
    intro hgap
    simp only [Bool.or_eq_true, beq_iff_eq] at hgap
    rcases hgap with ((rfl | rfl) | rfl) | rfl <;> contradiction

theorem BeginsNumber.ne {c d : Char} (h : BeginsNumber c) (hd : d.isDigit = false)
    (hm : d ≠ '-') : c ≠ d := by
  rintro rfl
  rcases h with rfl | h
  · contradiction
  · simp [hd] at h

theorem value?_of_beginsNumber {c : Char} (h : BeginsNumber c) (cs : List Char) (fuel : Nat) :
    value? (fuel + 1) (c :: cs) = number? (c :: cs) := by
  have hq : c ≠ '"' := h.ne (by decide) (by decide)
  have hb : c ≠ '[' := h.ne (by decide) (by decide)
  have hc : c ≠ '\x7b' := h.ne (by decide) (by decide)
  have hn : c ≠ 'n' := h.ne (by decide) (by decide)
  have ht : c ≠ 't' := h.ne (by decide) (by decide)
  have hf : c ≠ 'f' := h.ne (by decide) (by decide)
  rw [value?, skipGap_cons h.not_isGap]
  split <;> simp_all

/-- The text of an exact value starts neither with a gap nor with a closing bracket. -/
theorem renderChars_head {j : Json} (h : Exact j) :
    ∃ c cs, renderChars j = c :: cs ∧ isGap c = false ∧ c ≠ ']' := by
  cases j with
  | null => exact ⟨_, _, rfl, rfl, by decide⟩
  | bool b => cases b <;> exact ⟨_, _, rfl, rfl, by decide⟩
  | integer n =>
    obtain ⟨c, cs, hcs, hc⟩ := toString_begins n
    exact ⟨c, cs, hcs, hc.not_isGap, hc.ne rfl (by decide)⟩
  | decimal d => exact h.elim
  | string s => exact ⟨_, _, rfl, rfl, by decide⟩
  | array items => exact ⟨_, _, rfl, rfl, by decide⟩
  | object members => exact ⟨_, _, rfl, rfl, by decide⟩
  | broken => exact h.elim

theorem renderItems_cons (j k : Json) (rest : List Json) :
    renderItems (j :: k :: rest) = renderChars j ++ ',' :: renderItems (k :: rest) := rfl

theorem renderMembers_cons (name : String) (j : Json) (m : String × Json)
    (rest : List (String × Json)) : renderMembers ((name, j) :: m :: rest) =
      quoteChars name ++ ':' :: renderChars j ++ ',' :: renderMembers (m :: rest) := rfl

theorem renderItems_head {items : List Json} (hne : items ≠ []) (h : ExactItems items) :
    ∃ c cs, renderItems items = c :: cs ∧ isGap c = false ∧ c ≠ ']' := by
  match items, h with
  | [j], h => exact renderChars_head h.1
  | j :: k :: rest, h =>
    obtain ⟨c, cs, hcs, hc⟩ := renderChars_head h.1
    exact ⟨c, _, by rw [renderItems_cons, hcs]; rfl, hc⟩

theorem length_renderChars_pos {j : Json} (h : Exact j) : 0 < (renderChars j).length := by
  obtain ⟨c, cs, hcs, -⟩ := renderChars_head h
  rw [hcs]
  exact Nat.zero_lt_succ _

theorem endsNumber_of_mark {c : Char} (h : c ∈ [',', ']', '}']) (rest : List Char) :
    EndsNumber (c :: rest) := by
  intro d hd
  obtain rfl : c = d := by simpa using hd
  simp only [List.mem_cons, List.not_mem_nil, or_false] at h
  rcases h with rfl | rfl | rfl <;> decide

theorem quoted?_quoteChars (s : String) (rest : List Char) :
    ∃ cs, quoteChars s ++ rest = '"' :: cs ∧ quoted? cs = some (some s.toList, rest) :=
  ⟨_, by simp [quoteChars], quoted?_escaped s.toList rest⟩

section Steps

variable {fuel : Nat} {c : Char} {cs rest after : List Char} {j : Json} {items : List Json}
  {name : String} {members : List (String × Json)}

theorem value?_string (h : quoted? cs = some (some name.toList, rest)) :
    value? (fuel + 1) ('"' :: cs) = some (.string name, rest) := by
  simp [value?, skipGap_cons, isGap, h, textOr]

theorem value?_array (hgap : isGap c = false) (hclose : c ≠ ']')
    (h : items? fuel (c :: cs) = some (items, rest)) :
    value? (fuel + 1) ('[' :: c :: cs) = some (.array items, rest) := by
  simp [value?, skipGap_cons (show isGap '[' = false by decide), skipGap_cons hgap, hclose, h]

theorem value?_object (h : members? fuel ('"' :: cs) = some (some members, rest)) :
    value? (fuel + 1) ('{' :: '"' :: cs) = some (.object members, rest) := by
  simp [value?, skipGap_cons, isGap, h, objectOr]

theorem items?_last (h : value? fuel cs = some (j, ']' :: rest)) :
    items? (fuel + 1) cs = some ([j], rest) := by
  simp [items?, h, skipGap_cons, isGap]

theorem items?_more (h : value? fuel cs = some (j, ',' :: rest))
    (hmore : items? fuel rest = some (items, after)) :
    items? (fuel + 1) cs = some (j :: items, after) := by
  simp [items?, h, skipGap_cons, isGap, hmore]

theorem members?_last (hname : quoted? cs = some (some name.toList, ':' :: rest))
    (h : value? fuel rest = some (j, '}' :: after)) :
    members? (fuel + 1) ('"' :: cs) = some (some [(name, j)], after) := by
  simp [members?, hname, h, skipGap_cons, isGap, consMember]

theorem members?_more {more : List Char} (hname : quoted? cs = some (some name.toList, ':' :: rest))
    (h : value? fuel rest = some (j, ',' :: more))
    (hmore : members? fuel more = some (some members, after)) :
    members? (fuel + 1) ('"' :: cs) = some (some ((name, j) :: members), after) := by
  simp [members?, hname, h, skipGap_cons, isGap, consMember, hmore]

end Steps

-- The three statements go by induction on the value. From a value to the next one inside it the
-- reader takes two steps and at least one character, so fuel for twice the characters is enough.
mutual

/-- A value is read back from its text, whatever follows, if the fuel is enough for twice the
characters. -/
theorem value?_renderChars : ∀ {j : Json}, Exact j → ∀ {rest : List Char}, EndsNumber rest →
    ∀ {fuel : Nat}, 2 * (renderChars j).length ≤ fuel + 2 →
      value? (fuel + 1) (renderChars j ++ rest) = some (j, rest)
  | .null, _, rest, _, fuel, _ => by simp [renderChars, value?, skipGap_cons, isGap, word?]
  | .bool true, _, rest, _, fuel, _ => by simp [renderChars, value?, skipGap_cons, isGap, word?]
  | .bool false, _, rest, _, fuel, _ => by simp [renderChars, value?, skipGap_cons, isGap, word?]
  | .integer n, hj, rest, hrest, fuel, _ => by
    obtain ⟨c, cs, hcs, hc⟩ := toString_begins n
    have hnumber := number?_toString hj hrest
    rw [hcs, List.cons_append] at hnumber
    rw [renderChars, hcs, List.cons_append, value?_of_beginsNumber hc, hnumber]
  | .string s, _, rest, _, fuel, _ => by
    obtain ⟨cs, hcs, hquoted⟩ := quoted?_quoteChars s rest
    rw [renderChars, hcs, value?_string hquoted]
  | .array [], _, rest, _, fuel, _ => by
    simp [renderChars, renderItems, value?, skipGap_cons, isGap]
  | .array (j :: items), hj, rest, _, fuel, hfuel => by
    simp only [renderChars, List.length_cons, List.length_append, List.length_nil] at hfuel
    obtain ⟨fuel, rfl⟩ : ∃ k, fuel = k + 1 := ⟨fuel - 1, by omega⟩
    obtain ⟨c, cs, hcs, hgap, hclose⟩ := renderItems_head (by simp) hj
    have hitems := items?_renderItems (by simp) hj rest (show 2 * _ ≤ fuel + 1 by omega)
    rw [hcs, List.cons_append] at hitems
    have hvalue := value?_array hgap hclose hitems
    simpa [renderChars, hcs] using hvalue
  | .object [], _, rest, _, fuel, _ => by
    simp [renderChars, renderMembers, value?, skipGap_cons, isGap]
  | .object (m :: members), hj, rest, _, fuel, hfuel => by
    simp only [renderChars, List.length_cons, List.length_append, List.length_nil] at hfuel
    obtain ⟨fuel, rfl⟩ : ∃ k, fuel = k + 1 := ⟨fuel - 1, by omega⟩
    obtain ⟨cs, hcs, hmembers⟩ := members?_renderMembers (by simp) hj rest
      (show 2 * _ ≤ fuel + 1 by omega)
    have hvalue := value?_object hmembers
    rw [← hcs] at hvalue
    simpa [renderChars] using hvalue

/-- Items are read back from their text up to the closing bracket. -/
theorem items?_renderItems : ∀ {items : List Json}, items ≠ [] → ExactItems items →
    ∀ (rest : List Char) {fuel : Nat}, 2 * (renderItems items).length ≤ fuel + 1 →
      items? (fuel + 1) (renderItems items ++ ']' :: rest) = some (items, rest)
  | [], hne, _, _, _, _ => absurd rfl hne
  | [j], _, h, rest, fuel, hfuel => by
    have hpos := length_renderChars_pos h.1
    rw [renderItems] at hfuel ⊢
    obtain ⟨fuel, rfl⟩ : ∃ k, fuel = k + 1 := ⟨fuel - 1, by omega⟩
    exact items?_last (value?_renderChars h.1 (endsNumber_of_mark (by decide) rest) (by omega))
  | j :: k :: items, _, h, rest, fuel, hfuel => by
    have hpos := length_renderChars_pos h.1
    rw [renderItems_cons, List.length_append, List.length_cons] at hfuel
    obtain ⟨fuel, rfl⟩ : ∃ k, fuel = k + 1 := ⟨fuel - 1, by omega⟩
    have hmore := items?_renderItems (by simp) h.2 rest (show 2 * _ ≤ fuel + 1 by omega)
    rw [renderItems_cons, List.append_assoc, List.cons_append]
    exact items?_more (value?_renderChars h.1 (endsNumber_of_mark (by decide) _) (by omega)) hmore

/-- Members are read back from their text, which starts with a quoted name, up to the closing
brace. -/
theorem members?_renderMembers : ∀ {members : List (String × Json)}, members ≠ [] →
    ExactMembers members → ∀ (rest : List Char) {fuel : Nat},
      2 * (renderMembers members).length ≤ fuel + 1 →
        ∃ cs, renderMembers members ++ '}' :: rest = '"' :: cs ∧
          members? (fuel + 1) ('"' :: cs) = some (some members, rest)
  | [], hne, _, _, _, _ => absurd rfl hne
  | [(name, j)], _, h, rest, fuel, hfuel => by
    have hpos := length_renderChars_pos h.1
    simp only [renderMembers, List.length_append, List.length_cons] at hfuel
    obtain ⟨fuel, rfl⟩ : ∃ k, fuel = k + 1 := ⟨fuel - 1, by omega⟩
    obtain ⟨cs, hcs, hname⟩ := quoted?_quoteChars name (':' :: (renderChars j ++ '}' :: rest))
    have hvalue := value?_renderChars h.1 (endsNumber_of_mark (c := '}') (by decide) rest)
      (show 2 * _ ≤ fuel + 2 by omega)
    exact ⟨cs, by simpa [renderMembers] using hcs, members?_last hname hvalue⟩
  | (name, j) :: k :: members, _, h, rest, fuel, hfuel => by
    have hpos := length_renderChars_pos h.1
    simp only [renderMembers_cons, List.length_append, List.length_cons] at hfuel
    obtain ⟨fuel, rfl⟩ : ∃ k, fuel = k + 1 := ⟨fuel - 1, by omega⟩
    obtain ⟨more, hmore, hmembers⟩ := members?_renderMembers (by simp) h.2 rest
      (show 2 * _ ≤ fuel + 1 by omega)
    obtain ⟨cs, hcs, hname⟩ :=
      quoted?_quoteChars name (':' :: (renderChars j ++ ',' :: '"' :: more))
    have hvalue := value?_renderChars h.1 (endsNumber_of_mark (c := ',') (by decide) ('"' :: more))
      (show 2 * _ ≤ fuel + 2 by omega)
    rw [← hmore] at hcs
    exact ⟨cs, by simpa [renderMembers_cons] using hcs, members?_more hname hvalue hmembers⟩

end

/-- An exact value is read back from its text. -/
theorem parse?_render {j : Json} (h : Exact j) : parse? (render j) = some j := by
  have hend : EndsNumber [] := by simp [EndsNumber]
  have hvalue := value?_renderChars h hend
    (show 2 * _ ≤ 2 * (renderChars j).length + 1 + 2 by omega)
  rw [List.append_nil] at hvalue
  simp [parse?, render, hvalue, skipGap]

end TableExchange.Json
