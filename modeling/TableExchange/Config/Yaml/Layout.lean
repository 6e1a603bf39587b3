import TableExchange.Config.Yaml.Cursor
import TableExchange.Config.Yaml.Token

/-!
The layout of a text while its tokens are read: indentation, flow collections, and where a key may
have started. A key is known only at its colon, so its tokens are noted beside the others with the
number of the token that they precede, and put in at the end.
-/

namespace TableExchange.Yaml

/-- A place where a key may have started. A required one must turn out to be a key. -/
structure KeyPlace where
  possible : Bool := false
  required : Bool := false
  number : Nat := 0
  index : Nat := 0
  line : Nat := 0
  column : Nat := 0
deriving DecidableEq, Repr

/-- An indentation that was left for a deeper one. `block` says that the deeper one belongs to a
collection, whose end is a token. -/
structure OuterIndent where
  indent : Int
  block : Bool
deriving DecidableEq, Repr

/-- The state of reading tokens. Every flow sequence that is open says whether it holds a mapping
without brackets right now. `wordColumn` is where the last anchor, alias or tag started. The tokens
stand in reverse. -/
structure Layout where
  cursor : Cursor
  tokens : List Token := []
  count : Nat := 0
  inserted : List (Nat × List Token) := []
  keyAllowed : Bool := true
  keys : List KeyPlace := [{}]
  indent : Int := -1
  indents : List OuterIndent := []
  flow : Nat := 0
  sequences : List Bool := []
  mappingStarted : Bool := false
  adjacentAt : Nat := 0
  wordColumn : Nat := 0
  done : Bool := false
deriving Repr

namespace Layout

def deepestFlow : Nat := 255

def inFlow (l : Layout) : Bool :=
  l.flow ≠ 0

def column (l : Layout) : Int :=
  Int.ofNat l.cursor.column

def push (l : Layout) (t : Token) : Layout :=
  { l with tokens := t :: l.tokens, count := l.count + 1 }

/-- Notes tokens that precede the token of a number. Later notes come first. -/
def insertBefore (number : Nat) (ts : List Token) (l : Layout) : Layout :=
  { l with inserted := (number, ts) :: l.inserted }

/-- Moves to another place. -/
def goTo (l : Layout) (c : Cursor) : Layout :=
  { l with cursor := c }

/-- Says whether a key may start at the next token. -/
def allowKey (allowed : Bool) (l : Layout) : Layout :=
  { l with keyAllowed := allowed }

/-- Whether the innermost indentation belongs to a block collection. -/
def inBlock (l : Layout) : Bool :=
  l.indents.head?.any (·.block)

def closeTo (column : Int) : List OuterIndent → Layout → Layout
  | [], l => { l with indents := [] }
  | outer :: rest, l =>
    if l.indent ≤ column then { l with indents := outer :: rest }
    else
      let l := { l with indent := outer.indent }
      closeTo column rest (if outer.block then l.push .blockEnd else l)

/-- Leaves the block collections that are indented more than a column. -/
def unroll (column : Int) (l : Layout) : Layout :=
  if l.inFlow then l else closeTo column l.indents l

/-- Leaves an indentation that no collection came to use. -/
def dropSpare (l : Layout) : Layout :=
  match l.indents with
  | outer :: rest =>
    if outer.block then l else { l with indent := outer.indent, indents := rest }
  | [] => l

/-- Opens a block collection at a column, unless one is open there. Its token comes before the
token of a number, or last. -/
def roll (column : Nat) (before : Option Nat) (t : Token) (l : Layout) : Layout :=
  if l.inFlow then l
  else
    let l := if l.indent ≤ Int.ofNat column then l.dropSpare else l
    if l.indent < Int.ofNat column then
      let l := { l with
        indents := ⟨l.indent, true⟩ :: l.indents
        indent := Int.ofNat column }
      match before with
      | some number => l.insertBefore number [t]
      | none => l.push t
    else l

/-- Demands one more column from what follows inside a block collection. -/
def rollSpare (l : Layout) : Layout :=
  if !l.inFlow && l.inBlock then
    { l with indents := ⟨l.indent, false⟩ :: l.indents, indent := l.indent + 1 }
  else l

def unrollSpare (l : Layout) : Layout :=
  let spare := l.indents.takeWhile fun o => !o.block
  { l with
    indent := (spare.getLast?.map (·.indent)).getD l.indent
    indents := l.indents.dropWhile fun o => !o.block }

/-- Gives up the key of the innermost level, unless it is required. -/
def dropKey? (l : Layout) : Option Layout :=
  match l.keys with
  | [] => some l
  | k :: rest =>
    if k.possible && k.required then none
    else some { l with keys := { k with possible := false } :: rest }

/-- Notes that a key may start here. -/
def saveKey? (l : Layout) : Option Layout :=
  if !l.keyAllowed then some l
  else do
    let l ← l.dropKey?
    let k : KeyPlace := {
      possible := true
      required := !l.inFlow && decide (l.indent = l.column) && l.inBlock
      number := l.count
      index := l.cursor.index
      line := l.cursor.line
      column := l.cursor.column }
    return { l with keys := k :: l.keys.drop 1 }

def longestKey : Nat := 1024

/-- Gives up keys outside of flow collections that did not end on their line or grew too long. -/
def dropStaleKeys? (l : Layout) : Option Layout :=
  let stale (k : KeyPlace) : Bool :=
    k.possible && !l.inFlow &&
      (k.line < l.cursor.line || k.index + longestKey < l.cursor.index)
  if l.keys.any fun k => stale k && k.required then none
  else some { l with keys := l.keys.map fun k => if stale k then { k with possible := false } else k }

def dropAllKeys? (l : Layout) : Option Layout :=
  if l.keys.any fun k => k.possible && k.required then none
  else some { l with keys := l.keys.map fun k => { k with possible := false } }

def enterFlow? (l : Layout) : Option Layout :=
  if l.flow = deepestFlow then none
  else some { l with flow := l.flow + 1, keys := {} :: l.keys }

def leaveFlow (l : Layout) : Layout :=
  if l.inFlow then { l with flow := l.flow - 1, keys := l.keys.drop 1 } else l

def endBareMapping (l : Layout) : Layout :=
  match l.sequences with
  | true :: rest => { l with mappingStarted := false, sequences := false :: rest }.push .flowMappingEnd
  | _ => l

/-- Whether a colon starts a mapping without brackets. -/
def startsBareMapping (l : Layout) : Bool :=
  !l.sequences.isEmpty && !l.mappingStarted

/-- Puts the noted tokens before the tokens of their numbers. -/
def merge (inserted : List (Nat × List Token)) : Nat → List Token → List Token
  | _, [] => []
  | number, t :: rest =>
    ((inserted.filter (·.1 = number)).map (·.2)).flatten ++ t :: merge inserted (number + 1) rest

def allTokens (l : Layout) : List Token :=
  merge l.inserted 0 l.tokens.reverse

theorem merge_nil (number : Nat) (ts : List Token) : merge [] number ts = ts := by
  induction ts generalizing number with
  | nil => rfl
  | cons t rest ih => simp [merge, ih]

@[simp] theorem allTokens_push (l : Layout) (t : Token) (h : l.inserted = []) :
    (l.push t).allTokens = l.allTokens ++ [t] := by
  simp [allTokens, push, h, merge_nil]

end Layout

end TableExchange.Yaml
