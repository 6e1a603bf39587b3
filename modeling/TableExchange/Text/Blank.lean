/-!
Blank characters, blank texts and trimming. A character is blank when Unicode gives it the
property White_Space.
-/

namespace TableExchange.Text

def isBlankChar (c : Char) : Bool :=
  let n := c.toNat
  (9 ≤ n && n ≤ 13) || n == 0x20 || n == 0x85 || n == 0xA0 || n == 0x1680 ||
    (0x2000 ≤ n && n ≤ 0x200A) || n == 0x2028 || n == 0x2029 || n == 0x202F || n == 0x205F ||
    n == 0x3000

def trimChars (cs : List Char) : List Char :=
  ((cs.dropWhile isBlankChar).reverse.dropWhile isBlankChar).reverse

def trim (s : String) : String :=
  String.ofList (trimChars s.toList)

def isBlank (s : String) : Bool :=
  s.toList.all isBlankChar

theorem isBlankChar_of_isWhitespace {c : Char} (h : c.isWhitespace = true) :
    isBlankChar c = true := by
  simp only [Char.isWhitespace, Bool.or_eq_true, decide_eq_true_eq] at h
  rcases h with ((rfl | rfl) | rfl) | rfl <;> decide

@[simp] theorem isBlank_empty : isBlank "" = true := rfl

end TableExchange.Text
