import TableExchange.Config.Yaml.Cursor

/-!
Plain and quoted scalars. Both may go on over several lines: one end of a line counts as a space,
and of several in a row each but the first counts as a line feed.
-/

namespace TableExchange.Yaml

/-- The blanks between two words of a scalar: those on one line, and how many lines ended since.
`joined` says that the first end was escaped and does not count. -/
structure Blanks where
  spaces : List Char := []
  joined : Bool := false
  breaks : Nat := 0
deriving DecidableEq, Repr

namespace Blanks

def text (b : Blanks) : List Char :=
  if b.joined then List.replicate b.breaks '\n'
  else match b.breaks with
    | 0 => b.spaces
    | 1 => [' ']
    | n + 1 => List.replicate n '\n'

/-- One more end of a line. -/
def withBreak (b : Blanks) : Blanks :=
  { b with spaces := [], breaks := b.breaks + 1 }

def withSpace (b : Blanks) (x : Char) : Blanks :=
  { b with spaces := b.spaces ++ [x] }

/-- Whether a line has ended, so that further blanks do not count. -/
def ended (b : Blanks) : Bool :=
  b.joined || b.breaks ≠ 0

@[simp] theorem text_empty : ({} : Blanks).text = [] := rfl

end Blanks

def endsPlain (inFlow : Bool) (x : Char) (rest : List Char) : Bool :=
  (x = ':' && (Cursor.endsWord rest.head? || (inFlow && rest.head?.any isFlowMark))) ||
    (inFlow && isFlowMark x)

def plainWord (inFlow : Bool) : List Char → List Char
  | [] => []
  | x :: rest =>
    if isBlank x || isBreak x || endsPlain inFlow x rest then [] else x :: plainWord inFlow rest

/-- Reads the blanks after a word. A tab may stand before the least indentation only if nothing
follows it on its line. -/
def plainBlanks? (indent : Int) : Nat → Cursor → Blanks → Option (Blanks × Cursor)
  | 0, _, _ => none
  | fuel + 1, c, b =>
    match c.next? with
    | none => some (b, c)
    | some x =>
      if isBreak x then plainBlanks? indent fuel c.skipBreak b.withBreak
      else if !isBlank x then some (b, c)
      else if !c.fresh then plainBlanks? indent fuel c.skipBlank (b.withSpace x)
      else if x = '\t' ∧ Int.ofNat c.column < indent then do
        let after ← c.afterGap?
        if Cursor.endsLine after.next? then plainBlanks? indent fuel after b else none
      else plainBlanks? indent fuel c.skipBlank b

/-- Reads the words of a plain scalar, after the given blanks. -/
def plainWords? (inFlow : Bool) (indent : Int) : Nat → Cursor → Blanks →
    Option (List Char × Cursor)
  | 0, _, _ => none
  | fuel + 1, c, b =>
    if c.atDocumentMark || c.nextIs '#' then some ([], c)
    else if inFlow && c.nextIs '-' && c.second?.any isFlowMark then none
    else
      let word := plainWord inFlow c.rest
      let text := if word.isEmpty then [] else b.text ++ word
      let after := if word.isEmpty then c else c.skip word.length
      if !after.nextHas fun x => isBlank x || isBreak x then some (text, after)
      else do
        let (b, next) ← plainBlanks? indent (after.rest.length + 1) after
          (if word.isEmpty then b else {})
        if !inFlow && decide (Int.ofNat next.column < indent) then some (text, next)
        else
          let (more, last) ← plainWords? inFlow indent fuel next b
          return (text ++ more, last)

/-- Reads a plain scalar whose further lines have at least an indentation. -/
def plainScalar? (inFlow : Bool) (indent : Int) (c : Cursor) : Option (List Char × Cursor) :=
  if inFlow && decide (Int.ofNat c.column < indent) then none
  else plainWords? inFlow indent (c.rest.length + 1) c {}

def digitsIn? (base : Nat) (cs : List Char) : Option Nat :=
  if cs.isEmpty then none
  else cs.foldlM (fun n c => do
    let d ← if c.isDigit then some (c.toNat - 48)
      else if 'a' ≤ c ∧ c ≤ 'f' then some (c.toNat - 87)
      else if 'A' ≤ c ∧ c ≤ 'F' then some (c.toNat - 55)
      else none
    if d < base then some (n * base + d) else none) 0

def escapes : List (Char × Nat) :=
  [('0', 0), ('a', 7), ('b', 8), ('t', 9), ('\t', 9), ('n', 10), ('v', 11), ('f', 12), ('r', 13),
    ('e', 27), (' ', 32), ('"', 34), ('/', 47), ('\\', 92), ('N', 0x85), ('_', 0xA0),
    ('L', 0x2028), ('P', 0x2029)]

def escapeWidths : List (Char × Nat) :=
  [('x', 2), ('u', 4), ('U', 8)]

/-- Reads an escape whose backslash is next. -/
def escape? (c : Cursor) : Option (Char × Cursor) := do
  let letter ← c.second?
  match escapes.lookup letter, escapeWidths.lookup letter with
  | some n, _ => some (Char.ofNat n, c.skip 2)
  | none, some width =>
    let digits := (c.rest.drop 2).take width
    if digits.length < width then none
    else
      let n ← digitsIn? 16 digits
      if n.isValidChar then some (Char.ofNat n, c.skip (width + 2)) else none
  | none, none => none

inductive QuoteMark
  | single
  | double
deriving DecidableEq, Repr

def QuoteMark.char : QuoteMark → Char
  | single => '\x27'
  | double => '"'

/-- Reads up to a blank, an end of a line or the closing mark. The flag says that an escaped end
of a line came last. In single marks, only the mark itself can be escaped, by writing it twice. -/
def quotedWord? (mark : QuoteMark) : Nat → Cursor → Option (List Char × Bool × Cursor)
  | 0, _ => none
  | fuel + 1, c =>
    match c.rest with
    | [] => some ([], false, c)
    | x :: rest =>
      let goOn (y : Char) (c : Cursor) : Option (List Char × Bool × Cursor) :=
        (quotedWord? mark fuel c).map fun (text, joined, c) => (y :: text, joined, c)
      if isBlank x || isBreak x then some ([], false, c)
      else if x = mark.char then
        if mark = .single ∧ rest.head? = some x then goOn x (c.skip 2) else some ([], false, c)
      else if x = '\\' ∧ mark = .double then
        if rest.head?.any isBreak then some ([], true, (c.skip 1).skipBreak)
        else (escape? c).bind fun (y, c) => goOn y c
      else goOn x (c.skip 1)

/-- Reads the blanks after a word. A tab must not stand before the least indentation. -/
def quotedBlanks? (indent : Int) : Nat → Cursor → Blanks → Option (Blanks × Cursor)
  | 0, _, _ => none
  | fuel + 1, c, b =>
    match c.next? with
    | none => some (b, c)
    | some x =>
      if isBreak x then quotedBlanks? indent fuel c.skipBreak b.withBreak
      else if !isBlank x then some (b, c)
      else if !b.ended then quotedBlanks? indent fuel c.skipBlank (b.withSpace x)
      else if x = '\t' ∧ Int.ofNat c.column < indent then none
      else quotedBlanks? indent fuel c.skipBlank b

/-- Reads the words of a quoted scalar up to its closing mark. -/
def quotedWords? (mark : QuoteMark) (indent : Int) : Nat → Cursor → Option (List Char × Cursor)
  | 0, _ => none
  | fuel + 1, c =>
    if c.atDocumentMark || c.atEnd || decide (Int.ofNat c.column < indent) then none
    else do
      let (text, joined, c) ← quotedWord? mark (c.rest.length + 1) c
      if c.nextIs mark.char then return (text, c)
      let (b, c) ← quotedBlanks? indent (c.rest.length + 1) c { joined }
      let (more, c) ← quotedWords? mark indent fuel c
      return (text ++ b.text ++ more, c)

/-- Whether a quoted scalar may be followed by a character. A key outside of flow collections ends
on the line where it starts. -/
def mayFollowQuoted (inFlow sameLine : Bool) (x : Option Char) : Bool :=
  Cursor.endsLine x || (x = some ':' && (inFlow || sameLine)) ||
    (inFlow && x.any fun c => ",]\x7d".toList.contains c)

def quotedScalar? (mark : QuoteMark) (inFlow : Bool) (indent : Int) (c : Cursor) :
    Option (List Char × Cursor) := do
  let (text, closing) ← quotedWords? mark indent (c.rest.length + 1) (c.skip 1)
  let after ← (closing.skip 1).afterGap?
  if mayFollowQuoted inFlow (decide (c.line = after.line)) after.next? then
    some (text, after)
  else none

end TableExchange.Yaml
