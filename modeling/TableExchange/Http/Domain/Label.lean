import TableExchange.Http.Domain.Direction
import TableExchange.Http.Domain.Joining
import TableExchange.Http.Domain.Mapping
import TableExchange.Http.Punycode
import TableExchange.Text.Composition

/-!
Labels of domain names: what may stand in a label beyond ASCII, and how labels are read from ASCII
and written in it.
-/

namespace TableExchange.Http.Domain

def joinsOn (side : Joining) (cs : List Char) : Bool :=
  match cs.dropWhile fun c => joining c = .transparent with
  | c :: _ => joining c = side || joining c = .dual
  | [] => false

/-- Whether joiners stand where they have a meaning: both kinds after a sign that cancels a vowel,
and the one that keeps letters apart between letters that would join. The characters before are
held in reverse. -/
def joinersFit (before : List Char) : List Char → Bool
  | [] => true
  | c :: rest =>
    let cancelled := before.head?.any fun b => Text.markClass b = 9
    (match c.toNat with
      | 0x200C => cancelled || (joinsOn .left before && joinsOn .right rest)
      | 0x200D => cancelled
      | _ => true) && joinersFit (c :: before) rest

/-- Whether a label starts with a character of its own and its joiners have a meaning. -/
def isWellFormed (label : List Char) : Bool :=
  !label.head?.any isMark && joinersFit [] label

/-- Directions that may stand in a label of either kind. -/
def isWeak (d : Direction) : Bool :=
  d = .number || d = .sign || d = .separator || d = .terminator || d = .neutral ||
    d = .boundary || d = .nonspacing

def isRightward (d : Direction) : Bool :=
  d = .right || d = .arabic

def needsOrder (c : Char) : Bool :=
  isRightward (direction c) || direction c = .arabicNumber

/-- Whether the directions in a label keep it apart from its neighbours: it starts with a letter,
all else runs the same way, and it ends in a letter or a number, whose digits are of one kind if
the label runs from right to left. -/
def isOrdered (label : List Char) : Bool :=
  let ds := ((label.map direction).reverse.dropWhile (· = .nonspacing)).reverse
  match ds.head?, ds.getLast? with
  | some .left, some last => (last = .left || last = .number) &&
      ds.all fun d => d = .left || isWeak d
  | some first, some last => isRightward first &&
      (isRightward last || last = .number || last = .arabicNumber) &&
      (ds.all fun d => isRightward d || d = .arabicNumber || isWeak d) &&
      !(ds.contains .number && ds.contains .arabicNumber)
  | _, _ => label.isEmpty

def isAscii (cs : List Char) : Bool :=
  cs.all (·.toNat < 0x80)

def mark : List Char := "xn--".toList

/-- The most characters that stand for a label. -/
def longestCode : Nat := 2000

/-- The most characters of a label that is written in ASCII. -/
def longestLabel : Nat := 1000

/-- What a label stands for. Only labels that are no ASCII themselves, consist of plain characters
and are composed have a form in ASCII. -/
def meaning? (label : List Char) : Option (List Char) :=
  if mark.isPrefixOf label then
    let code := label.drop mark.length
    if code.isEmpty || longestCode < code.length || !isAscii code then none
    else (Punycode.decode? code).filter fun cs =>
      !isAscii cs && cs.all isPlain && Text.composed cs = cs && isWellFormed cs
  else if isAscii label || isWellFormed label then some label
  else none

def labelText? (label : List Char) : Option (List Char) :=
  if isAscii label then some label
  else if longestLabel < label.length then none
  else some (mark ++ Punycode.encode label)

end TableExchange.Http.Domain
