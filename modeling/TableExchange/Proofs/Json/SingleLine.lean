import TableExchange.Proofs.Json.Tokens

/-!
The compact text of a value stands on one line: whatever its texts and member names hold, and
however deep it goes, no line feed is written.
-/
namespace TableExchange.Json

theorem hexDigit_ne_lineFeed : ∀ n < 32, hexDigit (n / 16) ≠ '\n' ∧ hexDigit (n % 16) ≠ '\n' := by
  decide

theorem lineFeed_not_mem_escapeChar (c : Char) : '\n' ∉ escapeChar c := by
  unfold escapeChar
  split_ifs with h1 h2 h3 h4 h5 h6 h7 h8
  · decide
  · decide
  · decide
  · decide
  · decide
  · decide
  · decide
  · have hdigits := hexDigit_ne_lineFeed c.toNat h8
    simp [hdigits.1.symm, hdigits.2.symm]
  · -- A character that stays as it is, is none of those that are escaped.
    simpa [eq_comm] using h3

theorem lineFeed_not_mem_quoteChars (s : String) : '\n' ∉ quoteChars s := by
  simp [quoteChars, lineFeed_not_mem_escapeChar]

theorem lineFeed_not_mem_decimalDigits (n : Nat) : '\n' ∉ decimalDigits n := by
  intro h
  have hdigit := isDigit_decimalDigits h
  contradiction

theorem lineFeed_not_mem_nat (n : Nat) : '\n' ∉ (toString n).toList := by
  have htext : (toString n).toList = decimalDigits n := Nat.toList_repr
  rw [htext]
  exact lineFeed_not_mem_decimalDigits n

theorem lineFeed_not_mem_int (n : Int) : '\n' ∉ (toString n).toList := by
  cases n with
  | ofNat n =>
    rw [toList_ofNat]
    exact lineFeed_not_mem_decimalDigits n
  | negSucc n =>
    rw [toList_negSucc, List.mem_cons, not_or]
    exact ⟨by decide, lineFeed_not_mem_decimalDigits (n + 1)⟩

theorem lineFeed_not_mem_exponentText (e : Int) : '\n' ∉ (exponentText e).toList := by
  unfold exponentText
  split
  · exact lineFeed_not_mem_int e
  · rw [String.toList_append, List.mem_append, not_or]
    exact ⟨by decide, lineFeed_not_mem_int e⟩

/-- Digits and exponent are written without a line feed in every notation. -/
theorem lineFeed_not_mem_layout (digits : Nat) (k : Int) : '\n' ∉ (layout digits k).toList := by
  have hdigits := lineFeed_not_mem_nat digits
  have htake (n : Nat) : '\n' ∉ (toString digits).toList.take n :=
    fun h => hdigits (List.mem_of_mem_take h)
  have hdrop (n : Nat) : '\n' ∉ (toString digits).toList.drop n :=
    fun h => hdigits (List.mem_of_mem_drop h)
  have hzeros (n : Nat) : '\n' ∉ List.replicate n '0' := by simp
  have hexponent := lineFeed_not_mem_exponentText
  unfold layout
  dsimp only
  split_ifs <;>
    simp only [String.toList_append, String.toList_ofList, List.mem_append, not_or, hdigits, htake,
      hdrop, hzeros, hexponent, not_false_eq_true, true_and, and_true] <;> decide

theorem lineFeed_not_mem_floatText (f : Float) : '\n' ∉ (floatText f).toList := by
  unfold floatText
  extract_lets negative magnitude body
  have hbody : '\n' ∉ body.toList := by
    unfold body
    split
    · decide
    · -- Whichever digits the search finds, they are laid out.
      rcases shortest magnitude with ⟨digits, k⟩
      exact lineFeed_not_mem_layout digits k
  split
  · rw [String.toList_append, List.mem_append, not_or]
    exact ⟨by decide, hbody⟩
  · exact hbody

theorem lineFeed_not_mem_decimalText (d : Decimal) : '\n' ∉ (decimalText d).toList := by
  unfold decimalText
  split
  · exact lineFeed_not_mem_floatText _
  · decide

mutual

theorem lineFeed_not_mem_renderChars (j : Json) : '\n' ∉ renderChars j := by
  match j with
  | .null => decide
  | .bool true => decide
  | .bool false => decide
  | .integer n => exact lineFeed_not_mem_int n
  | .decimal d => exact lineFeed_not_mem_decimalText d
  | .string s => exact lineFeed_not_mem_quoteChars s
  | .array items => simp [renderChars, lineFeed_not_mem_renderItems items]
  | .object members => simp [renderChars, lineFeed_not_mem_renderMembers members]
  | .broken => decide

theorem lineFeed_not_mem_renderItems (items : List Json) : '\n' ∉ renderItems items := by
  match items with
  | [] => simp [renderItems]
  | [j] => exact lineFeed_not_mem_renderChars j
  | j :: k :: rest =>
    simp [renderItems, lineFeed_not_mem_renderChars j, lineFeed_not_mem_renderItems (k :: rest)]

theorem lineFeed_not_mem_renderMembers (members : List (String × Json)) :
    '\n' ∉ renderMembers members := by
  match members with
  | [] => simp [renderMembers]
  | [(name, j)] =>
    simp [renderMembers, lineFeed_not_mem_quoteChars, lineFeed_not_mem_renderChars j]
  | (name, j) :: m :: rest =>
    simp [renderMembers, lineFeed_not_mem_quoteChars, lineFeed_not_mem_renderChars j,
      lineFeed_not_mem_renderMembers (m :: rest)]

end

end TableExchange.Json
