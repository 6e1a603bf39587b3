import TableExchange.Text.CaseRanges

/-!
Lower-casing of texts. Every character has its own small form, except the capital sigma, whose
form depends on whether it ends a word.
-/

namespace TableExchange.Text

def lowerChar (c : Char) : List Char :=
  if c.toNat = 0x130 then ['i', Char.ofNat 0x307]
  else match caseRuns.find? (·.holds c.toNat) with
    | some run => [Char.ofNat (c.toNat + run.up - run.down)]
    | none => [c]

def startsCased (cs : List Char) : Bool :=
  match cs.dropWhile fun c => inRanges passedOverRanges c.toNat with
  | c :: _ => inRanges casedRanges c.toNat
  | [] => false

/-- Lower-cases the characters after `before`, which is held in reverse. A capital sigma that
follows a cased character and precedes none takes its final form. -/
def lowerChars (before : List Char) : List Char → List Char
  | [] => []
  | c :: rest =>
    (if c.toNat = 0x3A3 then
      if startsCased before && !startsCased rest then [Char.ofNat 0x3C2] else [Char.ofNat 0x3C3]
    else lowerChar c) ++ lowerChars (c :: before) rest

def lowercase (s : String) : String :=
  String.ofList (lowerChars [] s.toList)

def smallChars : List Char := "abcdefghijklmnopqrstuvwxyz_".toList

theorem lowerChar_of_small {c : Char} (h : c ∈ smallChars) :
    c.toNat ≠ 0x3A3 ∧ lowerChar c = [c] := by
  have hall : smallChars.all (fun c => c.toNat ≠ 0x3A3 ∧ lowerChar c = [c]) = true := by
    decide +kernel
  exact of_decide_eq_true (List.all_eq_true.mp hall c h)

theorem lowercase_of_small {s : String} (h : s.toList.all (· ∈ smallChars) = true) :
    lowercase s = s := by
  have hchars (cs before : List Char) (hcs : ∀ c ∈ cs, c ∈ smallChars) :
      lowerChars before cs = cs := by
    induction cs generalizing before with
    | nil => rfl
    | cons c rest ih =>
      obtain ⟨hsigma, hself⟩ := lowerChar_of_small (hcs c List.mem_cons_self)
      have hrest := ih (c :: before) fun d hd => hcs d (List.mem_cons_of_mem _ hd)
      simp [lowerChars, hsigma, hself, hrest]
  have hsmall : ∀ c ∈ s.toList, c ∈ smallChars := by simpa using h
  rw [lowercase, hchars _ _ hsmall, String.ofList_toList]

end TableExchange.Text
