import TableExchange.Config.Yaml.Block
import TableExchange.Config.Yaml.Layout
import TableExchange.Config.Yaml.Mark
import TableExchange.Text.Letters

/-!
Reading the tokens of a text. Each step moves past blanks and comments, leaves the collections that
the new column ends, and reads one token.
-/

namespace TableExchange.Yaml

namespace Layout

/-- Moves past blanks, comments and line ends. Outside of flow collections a key may start on a new
line. A tab must not stand in the indentation of a line with content. -/
def skipToToken? : Nat → Layout → Option Layout
  | 0, l => some l
  | fuel + 1, l =>
    match l.cursor.next? with
    | none => some l
    | some x =>
      if x = '\t' ∧ !l.indents.isEmpty ∧ l.cursor.fresh ∧ l.column < l.indent then do
        let c ← l.cursor.afterGap?
        if Cursor.endsLine c.next? then skipToToken? fuel (l.goTo c) else none
      else if isBlank x then skipToToken? fuel (l.goTo l.cursor.skipBlank)
      else if isBreak x then
        let l := l.goTo l.cursor.skipBreak
        skipToToken? fuel (if l.inFlow then l else l.allowKey true)
      else if x = '#' then skipToToken? fuel (l.goTo l.cursor.skipLine)
      else some l

/-- Moves past everything up to the next token. -/
def toToken? (l : Layout) : Option Layout :=
  skipToToken? (l.cursor.rest.length + 1) l

/-- Moves past a mark of one character and the blanks and the comment after it. -/
def pastMark? (l : Layout) : Option Layout := do
  return l.goTo (← (l.cursor.skip 1).afterGap?)

/-- Ends all block collections before a mark that concerns the document. -/
def toMargin? (l : Layout) : Option Layout := do
  return (← (l.unroll (-1)).dropKey?).allowKey false

def directive? (l : Layout) : Option Layout := do
  let l ← l.toMargin?
  let (t, c) ← directiveToken? l.cursor
  return (l.goTo c).push t

def documentStart? (l : Layout) : Option Layout := do
  let l ← l.toMargin?
  return (l.goTo (l.cursor.skip 3)).push .documentStart

/-- Reads the mark where a document ends. Nothing may follow it on its line. -/
def documentEnd? (l : Layout) : Option Layout := do
  let l ← l.toMargin?
  let c ← (l.cursor.skip 3).afterGap?
  if Cursor.endsLine c.next? then some ((l.goTo c).push .documentEnd) else none

def streamEnd? (l : Layout) : Option Layout := do
  let l ← l.dropAllKeys?
  return { ((l.unroll (-1)).push .streamEnd) with done := true }

def openFlow? (t : Token) (l : Layout) : Option Layout := do
  let l ← l.saveKey?
  let l ← l.rollSpare.enterFlow?
  let l ← (l.allowKey true).pastMark?
  let l := if t = .flowMappingStart then { l with mappingStarted := true }
    else { l with sequences := false :: l.sequences }
  return l.push t

/-- Closes a flow sequence or a flow mapping. A value may stand right after the colon that follows
it. -/
def closeFlow? (t : Token) (l : Layout) : Option Layout := do
  let l ← l.dropKey?
  let l := l.leaveFlow.allowKey false
  let l := if t = .flowSequenceEnd then
      let ended := l.endBareMapping
      { ended with sequences := ended.sequences.drop 1 }
    else l
  let l ← l.pastMark?
  let l := if l.inFlow then { l with adjacentAt := l.cursor.index } else l
  return l.push t

/-- Reads the comma between two entries. -/
def flowEntry? (l : Layout) : Option Layout := do
  let l ← l.dropKey?
  let l ← (l.allowKey true).endBareMapping.pastMark?
  return l.push .flowEntry

def afterProperty (l : Layout) : Bool :=
  match l.tokens with
  | .anchor _ :: _ => true
  | .tag _ _ :: _ => true
  | _ => false

/-- Whether an anchor or a tag at the margin precedes a hyphen at the margin. -/
def misplacedProperty (l : Layout) : Bool :=
  l.afterProperty && l.cursor.column = 0 && l.wordColumn = 0 && 0 ≤ l.indent

/-- Reads the hyphen of an entry of a block sequence. -/
def blockEntry? (l : Layout) : Option Layout := do
  if l.inFlow || !l.keyAllowed || l.misplacedProperty then none
  let column := l.cursor.column
  let (gap, c) ← (l.cursor.skip 1).skipGap?
  let l := (l.roll column none .blockSequenceStart).goTo c
  if gap.tabs && c.nextIs '-' && Cursor.endsWord c.second? then none
  let l := if c.nextHas fun x => isBreak x || isFlowMark x then l.rollSpare else l
  let l ← l.dropKey?
  return (l.allowKey true).push .blockEntry

/-- Moves past spaces, line ends and comments, of which there must be one. -/
def skipSpacing? : Nat → Bool → Layout → Option Layout
  | 0, found, l => if found then some l else none
  | fuel + 1, found, l =>
    match l.cursor.next? with
    | none => if found then some l else none
    | some x =>
      if x = ' ' then skipSpacing? fuel true (l.goTo l.cursor.skipBlank)
      else if isBreak x then
        let l := l.goTo l.cursor.skipBreak
        skipSpacing? fuel true (if l.inFlow then l else l.allowKey true)
      else if x = '#' then skipSpacing? fuel found (l.goTo l.cursor.skipLine)
      else if found && x ≠ '\t' then some l
      else none

/-- Reads the question mark before a key. -/
def key? (l : Layout) : Option Layout := do
  if !l.inFlow && !l.keyAllowed then none
  let l := if l.inFlow then { l with mappingStarted := true }
    else l.roll l.cursor.column none .blockMappingStart
  let l ← l.dropKey?
  let l := l.allowKey (!l.inFlow)
  let l ← skipSpacing? (l.cursor.rest.length + 1) false (l.goTo (l.cursor.skip 1))
  return l.push .key

/-- Moves past a colon. If only tabs follow it, neither a letter, a digit nor a hyphen may come
next. -/
def pastColon? (l : Layout) : Option Layout := do
  let c := l.cursor.skip 1
  if !c.nextIs '\t' then return l.goTo c
  let (gap, c) ← c.skipGap?
  if !gap.spaces && c.nextHas fun x => x = '-' || Text.isAlphanumeric x then none
  return l.goTo c

/-- Reads the colon before a value. The key before it is either simple, so that its start is known
only now, or it had a mark of its own or is empty. -/
def value? (l : Layout) : Option Layout := do
  let k := l.keys.head?.getD {}
  let start := l.cursor
  let bare := l.startsBareMapping
  let l := if bare then { l with sequences := true :: l.sequences.drop 1 } else l
  let l ← l.pastColon?
  if k.possible then
    if bare && k.line < start.line then none
    let opening := if bare then [.flowMappingStart, .key] else [.key]
    let l := l.insertBefore k.number opening
    let l := (l.roll k.column (some k.number) .blockMappingStart).rollSpare
    let l := { l with keys := { k with possible := false } :: l.keys.drop 1 }
    return (l.allowKey false).push .value
  else
    let l := if bare then l.push .flowMappingStart else l
    if !l.inFlow && !l.keyAllowed then none
    let l := (l.roll start.column none .blockMappingStart).rollSpare
    return (l.allowKey (!l.inFlow)).push .value

/-- Reads a colon in a flow collection that no blank follows. -/
def flowValue? (l : Layout) : Option Layout :=
  if l.cursor.index ≠ l.adjacentAt && l.cursor.second?.any (fun x => x = '[' || x = '\x7b') then none
  else l.value?

/-- Reads something that may be a key, after which no key may start on the same line. -/
def word? (read : Layout → Cursor → Option (Token × Cursor)) (l : Layout) : Option Layout := do
  let l := (← l.saveKey?).allowKey false
  let (t, c) ← read l l.cursor
  return { l with cursor := c, wordColumn := l.cursor.column }.push t

def anchor? : Layout → Option Layout :=
  word? fun _ c => (anchorName? c).map fun (name, c) => (.anchor name, c)

def alias? : Layout → Option Layout :=
  word? fun _ c => (anchorName? c).map fun (name, c) => (.aliasOf name, c)

def tag? : Layout → Option Layout :=
  word? fun l c => tagToken? l.inFlow c

/-- Reads a block scalar, after which a key may start. -/
def block? (literal : Bool) (l : Layout) : Option Layout := do
  let l := ((← l.saveKey?).allowKey true).unrollSpare
  let (text, c) ← blockScalar? literal l.indent l.cursor
  return (l.goTo c).push (.scalar .quoted (String.ofList text))

/-- Reads a quoted scalar. A value may stand right after the colon that follows it. -/
def quoted? (mark : QuoteMark) (l : Layout) : Option Layout := do
  let l := (← l.saveKey?).allowKey false
  let (text, c) ← quotedScalar? mark l.inFlow l.indent l.cursor
  let l ← (l.goTo c).toToken?
  return { l with adjacentAt := l.cursor.index }.push (.scalar .quoted (String.ofList text))

/-- Reads a plain scalar. If it ends at the start of a line, a key may start there. -/
def plain? (l : Layout) : Option Layout := do
  let l := ((← l.saveKey?).allowKey false).unrollSpare
  let (text, c) ← plainScalar? l.inFlow (l.indent + 1) l.cursor
  let l := if c.fresh then l.allowKey true else l
  return (l.goTo c).push (.scalar .plain (String.ofList text))

def tokenAt? (x : Char) (l : Layout) : Option Layout :=
  let second := l.cursor.second?
  let endsWord := Cursor.endsWord second
  if x = '[' then l.openFlow? .flowSequenceStart
  else if x = '\x7b' then l.openFlow? .flowMappingStart
  else if x = ']' then l.closeFlow? .flowSequenceEnd
  else if x = '\x7d' then l.closeFlow? .flowMappingEnd
  else if x = ',' then l.flowEntry?
  else if x = '-' ∧ endsWord then l.blockEntry?
  else if x = '?' ∧ endsWord then l.key?
  else if x = ':' ∧ endsWord then l.value?
  else if x = ':' ∧ l.inFlow ∧ (second.any isFlowMark ∨ l.cursor.index = l.adjacentAt) then
    l.flowValue?
  else if x = '*' then l.alias?
  else if x = '&' then l.anchor?
  else if x = '!' then l.tag?
  else if x = '|' ∧ !l.inFlow then l.block? true
  else if x = '>' ∧ !l.inFlow then l.block? false
  else if x = '\x27' then l.quoted? .single
  else if x = '"' then l.quoted? .double
  else if "%@\x60".toList.contains x then none
  else l.plain?

def step? (l : Layout) : Option Layout := do
  let l ← l.toToken?
  let l := (← l.dropStaleKeys?).unroll l.column
  match l.cursor.next? with
  | none => l.streamEnd?
  | some x =>
    if l.cursor.column = 0 ∧ x = '%' then l.directive?
    else if l.cursor.atDocumentStart then l.documentStart?
    else if l.cursor.atDocumentEnd then l.documentEnd?
    else if l.column < l.indent then none
    else l.tokenAt? x

/-- Reads tokens up to the end of the stream. -/
def steps? : Nat → Layout → Option Layout
  | 0, _ => none
  | fuel + 1, l => l.step?.bind fun next => if next.done then some next else steps? fuel next

end Layout

/-- The tokens of a text. Each step but the last one moves on by a character. -/
def tokens? (s : String) : Option (List Token) :=
  let cursor := Cursor.start s.toList
  (Layout.steps? (cursor.rest.length + 2) { cursor }).map Layout.allTokens

end TableExchange.Yaml
