import Mathlib.Data.String.Basic
import TableExchange.Json.Printer
import TableExchange.Json.Reader

/-!
Quoted texts and integers are read back from the characters that are written for them, whatever
follows: a text ends with its closing mark, and an integer where no digit, point or exponent
follows.
-/
namespace TableExchange.Json

theorem quoted?_close (rest : List Char) : quoted? ('"' :: rest) = some (some [], rest) := by
  rw [quoted?]
  rfl

theorem quoted?_char {cs rest : List Char} {c : Char} (h : element? cs = some (.char c, rest)) :
    quoted? cs = (quoted? rest).map fun r => (r.1.map (c :: ·), r.2) := by
  rw [quoted?]
  split
  · simp_all
  · simp_all
  · next c' rest' h' =>
    simp_all
  · simp_all

theorem control_escaped : ∀ n < 32,
    hex4? '0' '0' (hexDigit (n / 16)) (hexDigit (n % 16)) = some n := by
  decide

theorem element?_escapeChar (c : Char) (rest : List Char) :
    element? (escapeChar c ++ rest) = some (.char c, rest) := by
  unfold escapeChar
  split_ifs with h1 h2 h3 h4 h5 h6 h7 h8
  · subst h1; rfl
  · subst h2; rfl
  · subst h3; rfl
  · subst h4; rfl
  · subst h5; rfl
  · obtain rfl : c = Char.ofNat 8 := by rw [← h6, Char.ofNat_toNat]
    rfl
  · obtain rfl : c = Char.ofNat 12 := by rw [← h7, Char.ofNat_toNat]
    rfl
  · have hhex := control_escaped c.toNat h8
    simp only [List.cons_append, List.nil_append, element?, hhex, Option.map_some, unitElement]
    rw [if_neg (by omega), if_neg (by omega), Char.ofNat_toNat]
  · simp only [List.cons_append, List.nil_append]
    unfold element?
    split
    all_goals simp_all

theorem quoted?_escaped (cs rest : List Char) :
    quoted? (cs.flatMap escapeChar ++ '"' :: rest) = some (some cs, rest) := by
  induction cs with
  | nil => exact quoted?_close rest
  | cons c cs ih =>
    rw [List.flatMap_cons, List.append_assoc, quoted?_char (element?_escapeChar c _), ih]
    rfl

/-- The input does not go on with a character that a number could still take. -/
def EndsNumber (rest : List Char) : Prop :=
  ∀ c ∈ rest.head?, c.isDigit = false ∧ c ≠ '.' ∧ c ≠ 'e' ∧ c ≠ 'E'

def decimalDigits (n : Nat) : List Char :=
  Nat.toDigits 10 n

theorem isDigit_decimalDigits {n : Nat} {c : Char} (h : c ∈ decimalDigits n) : c.isDigit = true :=
  Nat.isDigit_of_mem_toDigits (by decide) (by decide) h

theorem digits_append {ds rest : List Char} (hds : ∀ c ∈ ds, c.isDigit = true)
    (hrest : EndsNumber rest) : digits (ds ++ rest) = (ds.map digitValue, rest) := by
  have htake : rest.takeWhile Char.isDigit = [] ∧ rest.dropWhile Char.isDigit = rest := by
    cases rest with
    | nil => exact ⟨rfl, rfl⟩
    | cons c cs => simp [(hrest c rfl).1]
  rw [digits, List.takeWhile_append_of_pos hds, List.dropWhile_append_of_pos hds, htake.1,
    htake.2, List.append_nil]

theorem digitsValue_decimalDigits (n : Nat) :
    digitsValue ((decimalDigits n).map digitValue) = n := by
  have h : ∀ (cs : List Char) (m : Nat), (cs.map digitValue).foldl (fun n d => n * 10 + d) m =
      Nat.ofDigitChars 10 cs m := by
    intro cs m
    simp only [List.foldl_map, Nat.ofDigitChars, Nat.mul_comm 10]
    rfl
  rw [digitsValue, h, decimalDigits, Nat.ofDigitChars_ten_toDigits]

theorem digitValue_digitChar : ∀ n < 10, digitValue n.digitChar = n := by
  decide

/-- A positive number does not start with the digit zero. -/
theorem head?_decimalDigits {n : Nat} (hn : n ≠ 0) :
    ((decimalDigits n).map digitValue).head? ≠ some 0 := by
  induction n using Nat.strongRecOn with
  | _ n ih =>
    unfold decimalDigits at ih ⊢
    rcases Nat.lt_or_ge n 10 with hlt | hge
    · rw [Nat.toDigits_of_lt_base hlt, List.map_singleton, digitValue_digitChar n hlt]
      simpa using hn
    · -- The digits begin with those of a tenth of the number, which is positive as well.
      have hnil : (Nat.toDigits 10 (n / 10)).map digitValue ≠ [] := by
        simp [Nat.toDigits_ne_nil]
      rw [Nat.toDigits_of_base_le (by decide) hge, List.map_append,
        List.head?_append_of_ne_nil _ hnil]
      exact ih (n / 10) (by omega) (by omega)

theorem decimalDigits_zero : decimalDigits 0 = ['0'] := rfl

/-- Digits of a number have no leading zero, unless it is zero. -/
theorem leads_decimalDigits (n : Nat) :
    ¬((decimalDigits n).map digitValue = [] ∨
      ((decimalDigits n).map digitValue).head? = some 0 ∧
        1 < ((decimalDigits n).map digitValue).length) := by
  rintro (hnil | ⟨hzero, hlength⟩)
  · simp [decimalDigits, Nat.toDigits_ne_nil] at hnil
  · by_cases hn : n = 0
    · subst hn
      simp [decimalDigits_zero] at hlength
    · exact head?_decimalDigits hn hzero

theorem fraction?_of_endsNumber {rest : List Char} (h : EndsNumber rest) :
    fraction? rest = some ([], rest) := by
  cases rest with
  | nil => rfl
  | cons c cs =>
    have hpoint := (h c rfl).2.1
    unfold fraction?
    split <;> simp_all

theorem exponent?_of_endsNumber {rest : List Char} (h : EndsNumber rest) :
    exponent? rest = some (none, rest) := by
  cases rest with
  | nil => rfl
  | cons c cs =>
    have hmark := (h c rfl).2.2
    simp [exponent?, hmark.1, hmark.2]

theorem decimalDigits_ne_minus {n : Nat} {rest tail : List Char} :
    decimalDigits n ++ rest ≠ '-' :: tail := by
  intro h
  cases hds : decimalDigits n with
  | nil => simp [decimalDigits, Nat.toDigits_ne_nil] at hds
  | cons d ds =>
    have hd : d.isDigit = true := isDigit_decimalDigits (hds ▸ List.mem_cons_self)
    rw [hds] at h
    obtain rfl := (List.cons.inj h).1
    contradiction

theorem number?_decimalDigits (n : Nat) {rest : List Char} (h : EndsNumber rest) :
    number? (decimalDigits n ++ rest) =
      some (numberOf false ((decimalDigits n).map digitValue) [] none, rest) := by
  have hsplit := digits_append (fun c hc => isDigit_decimalDigits (n := n) hc) h
  have hleads := leads_decimalDigits n
  unfold number?
  split
  · next negative unsigned heq =>
    split at heq
    · next tail hminus => exact absurd hminus decimalDigits_ne_minus
    · obtain ⟨rfl, rfl⟩ := Prod.mk.inj heq
      simp only [hsplit, hleads, if_false, fraction?_of_endsNumber h, exponent?_of_endsNumber h,
        Option.bind_eq_bind, Option.bind_some, Option.pure_def]

theorem number?_minus (n : Nat) {rest : List Char} (h : EndsNumber rest) :
    number? ('-' :: decimalDigits n ++ rest) =
      some (numberOf true ((decimalDigits n).map digitValue) [] none, rest) := by
  have hsplit := digits_append (fun c hc => isDigit_decimalDigits (n := n) hc) h
  have hleads := leads_decimalDigits n
  simp only [number?, List.cons_append, hsplit, hleads, if_false, fraction?_of_endsNumber h,
    exponent?_of_endsNumber h, Option.bind_eq_bind, Option.bind_some, Option.pure_def]

/-- The integers that 64 bits hold, with or without a sign. -/
def FitsWord (n : Int) : Prop :=
  -9223372036854775808 ≤ n ∧ n < UInt64.size

theorem toList_ofNat (n : Nat) : (toString (Int.ofNat n)).toList = decimalDigits n :=
  Nat.toList_repr

theorem toList_negSucc (n : Nat) :
    (toString (Int.negSucc n)).toList = '-' :: decimalDigits (n + 1) := by
  show ("-" ++ (n + 1).repr).toList = _
  rw [String.toList_append, Nat.toList_repr]
  rfl

/-- An integer of 64 bits is read back from its digits. -/
theorem number?_toString {n : Int} (hn : FitsWord n) {rest : List Char} (h : EndsNumber rest) :
    number? ((toString n).toList ++ rest) = some (.integer n, rest) := by
  obtain ⟨hlow, hhigh⟩ := hn
  cases n with
  | ofNat n =>
    have hsize : ¬UInt64.size ≤ n := Nat.not_le.mpr (Int.ofNat_lt.mp hhigh)
    rw [toList_ofNat, number?_decimalDigits n h]
    simp [numberOf, digitsValue_decimalDigits, hsize]
  | negSucc n =>
    have hzero : n + 1 ≠ 0 := Nat.succ_ne_zero n
    have hsize : ¬9223372036854775808 < n + 1 := by omega
    rw [toList_negSucc, number?_minus (n + 1) h]
    simp only [numberOf, digitsValue_decimalDigits, hzero, hsize]
    rfl

end TableExchange.Json
