/-!
What a terminal shows of a text. Control characters and the sequences that they start are no part
of it; line ends, tabs and the like are.
-/

namespace TableExchange.Text

/-- What the characters before have started: nothing, a sequence that a letter or a sign ends, one
with parameters, or a string. A bell ends only some strings. -/
inductive Sequence
  | plain
  | escape
  | parameters
  | string (bell : Bool)
deriving DecidableEq, Repr

def isBetween (low high : Nat) (c : Char) : Bool :=
  low ≤ c.toNat && c.toNat ≤ high

/-- Whether a control character leaves a mark on the screen. -/
def movesOn (c : Char) : Bool :=
  c = '\t' || c = '\n' || c = '\r' || c.toNat = 0x0C

def startedBy (c : Char) : Sequence :=
  if c = '[' then .parameters
  else if c = ']' then .string true
  else if c = 'P' || c = 'X' || c.toNat = 0x5E || c = '_' then .string false
  else if isBetween 0x30 0x7E c then .plain
  else .escape

def Sequence.after (state : Sequence) (c : Char) : Sequence :=
  if c.toNat = 0x1B then .escape
  else if c.toNat = 0x18 || c.toNat = 0x1A then .plain
  else match state with
    | .plain => .plain
    | .escape => startedBy c
    | .parameters => if isBetween 0x40 0x7E c then .plain else .parameters
    | .string bell => if bell && c.toNat = 0x07 then .plain else .string bell

def Sequence.shows (state : Sequence) (c : Char) : Bool :=
  match state with
  | .plain => movesOn c || (0x20 ≤ c.toNat && c.toNat ≠ 0x7F)
  | .string _ => false
  | _ => movesOn c

/-- What is shown of the characters that follow in a state. A shown one ends any sequence. -/
def shownFrom : Sequence → List Char → List Char
  | _, [] => []
  | state, c :: rest =>
    if state.shows c then c :: shownFrom .plain rest else shownFrom (state.after c) rest

def shown (s : String) : String :=
  String.ofList (shownFrom .plain s.toList)

def fromFirstChars? (mark : List Char) : List Char → Option (List Char)
  | [] => if mark.isEmpty then some [] else none
  | c :: rest => if mark.isPrefixOf (c :: rest) then some (c :: rest) else fromFirstChars? mark rest

def fromFirst? (mark s : String) : Option String :=
  (fromFirstChars? mark.toList s.toList).map String.ofList

theorem shownFrom_plain {cs : List Char}
    (h : ∀ c ∈ cs, 0x20 ≤ c.toNat ∧ c.toNat ≠ 0x7F) : shownFrom .plain cs = cs := by
  induction cs with
  | nil => rfl
  | cons c rest ih =>
    have hc := h c (by simp)
    simp [shownFrom, Sequence.shows, hc.1, hc.2, ih fun x hx => h x (by simp [hx])]

end TableExchange.Text
