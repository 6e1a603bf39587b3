import TableExchange.Text.CompositionTable

/-!
The composed form of a text. Characters that stand for a base and its marks are taken apart, the
marks after each base are put in the order of their classes, and every base takes up the marks
that it has a character for. Characters that stand for a single other one stay as they are.
-/

namespace TableExchange.Text

/-- The class of a mark. It is zero for every character that is no mark. -/
def markClass (c : Char) : Nat :=
  match classRanges.find? fun r => r.1 ≤ c.toNat && c.toNat ≤ r.2.1 with
  | some r => r.2.2
  | none => 0

/-- The two characters that a character stands for. A Hangul syllable of three letters stands for
the syllable of two and the third letter. -/
def parts? (c : Char) : Option (Char × Char) :=
  let n := c.toNat
  if 0xAC00 ≤ n ∧ n ≤ 0xD7A3 then
    let i := n - 0xAC00
    if i % 28 = 0 then some (Char.ofNat (0x1100 + i / 588), Char.ofNat (0x1161 + i % 588 / 28))
    else some (Char.ofNat (n - i % 28), Char.ofNat (0x11A7 + i % 28))
  else (compositePairs.find? (·.1 = n)).map fun r => (Char.ofNat r.2.1, Char.ofNat r.2.2)

def whole? (first second : Char) : Option Char :=
  let a := first.toNat
  let b := second.toNat
  if 0x1100 ≤ a ∧ a ≤ 0x1112 ∧ 0x1161 ≤ b ∧ b ≤ 0x1175 then
    some (Char.ofNat (0xAC00 + (a - 0x1100) * 588 + (b - 0x1161) * 28))
  else if 0xAC00 ≤ a ∧ a ≤ 0xD7A3 ∧ (a - 0xAC00) % 28 = 0 ∧ 0x11A8 ≤ b ∧ b ≤ 0x11C2 then
    some (Char.ofNat (a + (b - 0x11A7)))
  else (compositePairs.find? fun r => r.2.1 = a && r.2.2 = b).map fun r => Char.ofNat r.1

/-- Takes a character apart, `depth` times at most. -/
def takenApart : Nat → Char → List Char
  | 0, c => [c]
  | depth + 1, c =>
    match parts? c with
    | some (first, second) => takenApart depth first ++ [second]
    | none => [c]

/-- Puts a character before ordered ones: behind the marks at their head that have a lower class,
unless it is no mark itself. -/
def placeMark (c : Char) : List Char → List Char
  | [] => [c]
  | d :: rest =>
    if markClass d ≠ 0 ∧ markClass d < markClass c then d :: placeMark c rest
    else c :: d :: rest

/-- Lets a base take up what follows it. A mark is out of reach behind one of its own class that
was not taken up, and so is any other character behind such a mark; `waiting` holds these marks,
the last one first. -/
def takeUp (base : Char) (waiting : List Char) : List Char → List Char
  | [] => base :: waiting.reverse
  | c :: rest =>
    let inReach := match waiting with
      | [] => true
      | w :: _ => markClass w < markClass c
    match if inReach then whole? base c else none with
    | some taken => takeUp taken waiting rest
    | none =>
      if markClass c = 0 then base :: waiting.reverse ++ takeUp c [] rest
      else takeUp base (c :: waiting) rest

/-- The composed form of a text. No character holds more than three marks. -/
def composed (cs : List Char) : List Char :=
  match (cs.flatMap (takenApart 4)).foldr placeMark [] with
  | [] => []
  | base :: rest => takeUp base [] rest

@[simp] theorem composed_nil : composed [] = [] := rfl

theorem length_placeMark (c : Char) (cs : List Char) :
    (placeMark c cs).length = cs.length + 1 := by
  induction cs with
  | nil => rfl
  | cons d rest ih =>
    unfold placeMark
    split
    · simp [ih]
    · simp

end TableExchange.Text
