/-!
Places in a text of YAML: what is left to read, and where it stands. Columns count from zero, and a
line ends at a line feed, at a carriage return, or at both of them in this order.
-/

namespace TableExchange.Yaml

def isBlank (c : Char) : Bool :=
  c = ' ' || c = '\t'

def isBreak (c : Char) : Bool :=
  c = '\n' || c = '\r'

/-- Whether a character has a meaning of its own in flow collections. -/
def isFlowMark (c : Char) : Bool :=
  ",[]\x7b\x7d".toList.contains c

/-- Whether a character may stand in a word: a letter, a digit, an underscore or a hyphen. -/
def isWordChar (c : Char) : Bool :=
  c.isAlphanum || c = '_' || c = '-'

/-- A place in a text. `fresh` says that only blanks precede it on its line. -/
structure Cursor where
  rest : List Char
  index : Nat := 0
  line : Nat := 0
  column : Nat := 0
  fresh : Bool := true
deriving DecidableEq, Repr

namespace Cursor

/-- The start of a text, which ends before its first zero character. -/
def start (text : List Char) : Cursor :=
  { rest := text.takeWhile fun c => c.toNat ≠ 0 }

def atEnd (c : Cursor) : Bool :=
  c.rest.isEmpty

def next? (c : Cursor) : Option Char :=
  c.rest.head?

def second? (c : Cursor) : Option Char :=
  c.rest[1]?

def nextIs (c : Cursor) (x : Char) : Bool :=
  c.next? = some x

def nextHas (c : Cursor) (p : Char → Bool) : Bool :=
  c.next?.any p

def endsLine (x : Option Char) : Bool :=
  x.all isBreak

def endsWord (x : Option Char) : Bool :=
  x.all fun c => isBlank c || isBreak c

/-- Moves past blanks that follow; the line stays as fresh as it was. -/
def skipBlanks (p : Char → Bool) (c : Cursor) : Cursor :=
  let count := (c.rest.takeWhile p).length
  { c with rest := c.rest.drop count, index := c.index + count, column := c.column + count }

def skipBlank (c : Cursor) : Cursor :=
  { c with rest := c.rest.drop 1, index := c.index + 1, column := c.column + 1 }

def skip (count : Nat) (c : Cursor) : Cursor :=
  { c with
    rest := c.rest.drop count, index := c.index + count, column := c.column + count
    fresh := false }

def skipBreak (c : Cursor) : Cursor :=
  let width := match c.rest with
    | '\r' :: '\n' :: _ => 2
    | _ => 1
  { rest := c.rest.drop width, index := c.index + width, line := c.line + 1 }

def skipLine (c : Cursor) : Cursor :=
  let count := (c.rest.takeWhile fun x => !isBreak x).length
  if count = 0 then c else c.skip count

/-- What blanks and a comment before the end of a line were made of. -/
structure Gap where
  tabs : Bool
  spaces : Bool
deriving DecidableEq, Repr

/-- Moves past blanks and a comment. A comment must follow a blank. -/
def skipGap? (c : Cursor) : Option (Gap × Cursor) :=
  let blanks := c.rest.takeWhile isBlank
  let after := c.skipBlanks isBlank
  let gap : Gap := ⟨blanks.contains '\t', blanks.contains ' '⟩
  if after.nextIs '#' then
    if blanks.isEmpty then none else some (gap, after.skipLine)
  else some (gap, after)

/-- The place after blanks and a comment. -/
def afterGap? (c : Cursor) : Option Cursor :=
  c.skipGap?.map (·.2)

/-- Whether a mark of three characters stands at the start of a line as a word. -/
def atMark (mark : String) (c : Cursor) : Bool :=
  c.column = 0 && mark.toList.isPrefixOf c.rest && endsWord c.rest[3]?

def atDocumentStart (c : Cursor) : Bool :=
  c.atMark "---"

def atDocumentEnd (c : Cursor) : Bool :=
  c.atMark "..."

def atDocumentMark (c : Cursor) : Bool :=
  c.atDocumentStart || c.atDocumentEnd

/-- The text of the longest run of characters with a property, and the place after it. -/
def takeRun (p : Char → Bool) (c : Cursor) : List Char × Cursor :=
  let run := c.rest.takeWhile p
  (run, if run.isEmpty then c else c.skip run.length)

@[simp] theorem rest_skip (count : Nat) (c : Cursor) : (c.skip count).rest = c.rest.drop count :=
  rfl

@[simp] theorem rest_skipBlank (c : Cursor) : c.skipBlank.rest = c.rest.drop 1 := rfl

theorem takeRun_append {p : Char → Bool} {c : Cursor} :
    (c.takeRun p).1 ++ (c.takeRun p).2.rest = c.rest := by
  simp only [takeRun]
  split
  · next h => simp [List.isEmpty_iff.1 h]
  · exact List.prefix_iff_eq_append.1 (List.takeWhile_prefix p)

end Cursor

end TableExchange.Yaml
