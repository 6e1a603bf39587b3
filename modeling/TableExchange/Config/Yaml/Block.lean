import TableExchange.Config.Yaml.Cursor

/-!
Block scalars: the lines below a mark that are indented more than what surrounds them, as they are
or folded. The mark says what becomes of the line ends after the last line.
-/

namespace TableExchange.Yaml

/-- What becomes of the line ends after the last line: one is kept, none, or all. -/
inductive Chomping
  | clip
  | strip
  | keep
deriving DecidableEq, Repr

def Chomping.ofChar? : Char → Option Chomping
  | '+' => some keep
  | '-' => some strip
  | _ => none

/-- The header of a block scalar. The extra indentation is zero where the first line sets it. -/
structure BlockHeader where
  chomping : Chomping := .clip
  extra : Nat := 0
deriving DecidableEq, Repr

/-- Reads a digit of a header, if there is one. It must not be zero. -/
def headerDigit? (c : Cursor) : Option (Nat × Cursor) :=
  match c.next? with
  | some x =>
    if !x.isDigit then some (0, c) else if x = '0' then none else some (x.toNat - 48, c.skip 1)
  | none => some (0, c)

def headerChomping (c : Cursor) : Option Chomping × Cursor :=
  match c.next?.bind Chomping.ofChar? with
  | some chomping => (some chomping, c.skip 1)
  | none => (none, c)

/-- Reads a header: a chomping mark and a digit in any order, both optional. -/
def blockHeader? (c : Cursor) : Option (BlockHeader × Cursor) :=
  match headerChomping c with
  | (some chomping, c) => (headerDigit? c).map fun (extra, c) => ({ chomping, extra }, c)
  | (none, c) => do
    let (extra, c) ← headerDigit? c
    if extra = 0 then return ({}, c)
    let (chomping, c) := headerChomping c
    return ({ chomping := chomping.getD .clip, extra }, c)

/-- Moves past spaces before a column. -/
def skipIndent (column : Nat) (c : Cursor) : Cursor :=
  let count := min (c.rest.takeWhile (· = ' ')).length (column - c.column)
  { c with rest := c.rest.drop count, index := c.index + count, column := c.column + count }

/-- Moves past empty lines, which it counts, to the indentation of the next line. -/
def skipEmptyLines (column : Nat) : Nat → Nat → Cursor → Nat × Cursor
  | 0, breaks, c => (breaks, c)
  | fuel + 1, breaks, c =>
    let c := skipIndent column c
    if c.nextHas isBreak then skipEmptyLines column fuel (breaks + 1) c.skipBreak else (breaks, c)

/-- Moves past empty lines, which it counts, and past the indentation of the next line. The widest
indentation on the way comes first in the answer. -/
def skipFirstLines : Nat → Nat → Nat → Cursor → Nat × Nat × Cursor
  | 0, widest, breaks, c => (widest, breaks, c)
  | fuel + 1, widest, breaks, c =>
    let c := c.skipBlanks (· = ' ')
    let widest := max widest c.column
    if c.nextHas isBreak then skipFirstLines fuel widest (breaks + 1) c.skipBreak
    else (widest, breaks, c)

/-- The lines read so far: their text, the ends of lines after it, and whether the last line starts
with a blank. -/
structure BlockLines where
  text : List Char := []
  ended : Bool := false
  breaks : Nat := 0
  blankStart : Bool := false
deriving DecidableEq, Repr

namespace BlockLines

/-- The text of a number of line ends. -/
def breakText (n : Nat) : List Char :=
  List.replicate n '\n'

/-- What stands between the last line and one that starts with a blank or not. Folding turns the
only line end between two lines without blanks into a space. -/
def between (literal blank : Bool) (b : BlockLines) : List Char :=
  if !literal && b.ended && !b.blankStart && !blank then
    if b.breaks = 0 then [' '] else breakText b.breaks
  else breakText ((if b.ended then 1 else 0) + b.breaks)

/-- The text with what chomping leaves of the line ends. `open` says that the text of the whole
stream ends within the last line. -/
def chomped (chomping : Chomping) (isOpen : Bool) (b : BlockLines) : List Char :=
  b.text ++
    (if chomping = .strip then []
      else breakText ((if b.ended then 1 else 0) + (if isOpen then 1 else 0))) ++
    (if chomping = .keep then breakText b.breaks else [])

end BlockLines

def blockLines (literal : Bool) (indent : Nat) : Nat → BlockLines → Cursor → BlockLines × Cursor
  | 0, b, c => (b, c)
  | fuel + 1, b, c =>
    if c.column ≠ indent || c.atEnd || (indent = 0 && c.atDocumentEnd) then (b, c)
    else
      let blank := c.nextHas isBlank
      let line := c.rest.takeWhile fun x => !isBreak x
      let text := b.text ++ b.between literal blank ++ line
      let after := c.skipBlanks fun x => !isBreak x
      if after.atEnd then ({ text, blankStart := blank }, after)
      else
        let (breaks, next) := skipEmptyLines indent after.rest.length 0 after.skipBreak
        blockLines literal indent fuel { text, ended := true, breaks, blankStart := blank } next

/-- The text of a block scalar without lines. `broken` says that the header's line ended. -/
def emptyBlock (chomping : Chomping) (broken : Bool) (breaks : Nat) : List Char :=
  let one := if broken then ['\n'] else []
  match chomping with
  | .strip => []
  | .clip => one
  | .keep => if breaks = 0 then one else BlockLines.breakText breaks

/-- Reads a block scalar whose mark is next, inside of an indentation. -/
def blockScalar? (literal : Bool) (outer : Int) (c : Cursor) : Option (List Char × Cursor) := do
  let line := c.line
  let (header, c) ← blockHeader? (c.skip 1)
  let c ← c.afterGap?
  if !Cursor.endsLine c.next? then none
  let broken := c.nextHas isBreak
  let c := if broken then c.skipBreak else c
  if c.nextIs '\t' then none
  let fuel := c.rest.length + 1
  let (indent, breaks, c) :=
    if header.extra = 0 then
      let (widest, breaks, c) := skipFirstLines fuel 0 0 c
      let least := max widest (outer + 1).toNat
      (if 0 < outer then max least 1 else least, breaks, c)
    else
      let indent := if 0 ≤ outer then outer.toNat + header.extra else header.extra
      (indent, skipEmptyLines indent fuel 0 c)
  if c.atEnd then
    return (if c.line = line then [] else emptyBlock header.chomping broken breaks, c)
  if c.column < indent ∧ outer < Int.ofNat c.column then none
  let (lines, c) := blockLines literal indent fuel { breaks } c
  return (lines.chomped header.chomping (c.atEnd && max indent 1 ≤ c.column), c)

end TableExchange.Yaml
