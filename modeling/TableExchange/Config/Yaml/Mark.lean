import TableExchange.Config.Yaml.Flow
import TableExchange.Config.Yaml.Token

/-!
Anchors, aliases, tags and directives: the tokens that start with a mark and a name.
-/

namespace TableExchange.Yaml

def isAnchorChar (c : Char) : Bool :=
  !isBlank c && !isBreak c && !isFlowMark c && c.toNat ≠ 0xFEFF

/-- Reads the name of an anchor or an alias whose mark is next. -/
def anchorName? (c : Cursor) : Option (String × Cursor) :=
  match (c.skip 1).takeRun isAnchorChar with
  | ([], _) => none
  | (name, c) => some (String.ofList name, c)

def isAddressChar (c : Char) : Bool :=
  (isWordChar c && c ≠ '_') || "#;/?:@&=+$,_.!~*\x27()[]%".toList.contains c

def isTagChar (c : Char) : Bool :=
  isAddressChar c && !isFlowMark c && c ≠ '!'

/-- The byte of two digits after a percent sign. -/
def escapedByte? (cs : List Char) : Option Nat :=
  match cs with
  | '%' :: a :: b :: _ => digitsIn? 16 [a, b]
  | _ => none

/-- How many bytes a first byte announces. -/
def announced? (byte : Nat) : Option Nat :=
  if byte < 0x80 then some 1
  else if byte < 0xC0 then none
  else if byte < 0xE0 then some 2
  else if byte < 0xF0 then some 3
  else if byte < 0xF8 then some 4
  else none

/-- Reads further escaped bytes, each of which must start with the bits of one. -/
def followers? : Nat → Nat → Cursor → Option (Nat × Cursor)
  | 0, code, c => some (code, c)
  | count + 1, code, c => do
    let byte ← escapedByte? c.rest
    if byte / 64 = 2 then followers? count (code * 256 + byte) (c.skip 3) else none

/-- Reads an escaped character: the number that its bytes make side by side. -/
def escapedChar? (c : Cursor) : Option (Char × Cursor) := do
  let byte ← escapedByte? c.rest
  let width ← announced? byte
  let (code, c) ← followers? (width - 1) byte (c.skip 3)
  if code.isValidChar then some (Char.ofNat code, c) else none

/-- Reads characters with a property, with their escapes. -/
def addressRun? (p : Char → Bool) : Nat → Cursor → Option (List Char × Cursor)
  | 0, c => some ([], c)
  | fuel + 1, c =>
    match c.next? with
    | none => some ([], c)
    | some x =>
      if !p x then some ([], c)
      else do
        let (y, c) ← if x = '%' then escapedChar? c else some (x, c.skip 1)
        let (more, c) ← addressRun? p fuel c
        return (y :: more, c)

/-- Reads an exclamation mark, word characters, and perhaps a second mark. -/
def tagHandle? (c : Cursor) : Option (List Char × Cursor) :=
  if !c.nextIs '!' then none
  else
    let (word, c) := (c.skip 1).takeRun isWordChar
    if c.nextIs '!' then some ('!' :: word ++ ['!'], c.skip 1) else some ('!' :: word, c)

def isNamedHandle (handle : List Char) : Bool :=
  2 ≤ handle.length && handle.head? = some '!' && handle.getLast? = some '!'

/-- Reads a tag after its opening sign: the address itself. -/
def wholeTag? (c : Cursor) : Option (Token × Cursor) := do
  let (address, c) ← addressRun? isAddressChar c.rest.length c
  if c.nextIs '>' then some (.tag "" (String.ofList address), c.skip 1) else none

/-- Reads a tag with a handle, or with the handle of one mark. The tag of a single mark has no
handle. -/
def shortTag? (c : Cursor) : Option (Token × Cursor) := do
  let (handle, c) ← tagHandle? c
  let (more, c) ← addressRun? isTagChar c.rest.length c
  if isNamedHandle handle then
    if more.isEmpty then none else some (.tag (String.ofList handle) (String.ofList more), c)
  else
    match handle.drop 1 ++ more with
    | [] => some (.tag "" "!", c)
    | suffix => some (.tag "!" (String.ofList suffix), c)

def tagToken? (inFlow : Bool) (c : Cursor) : Option (Token × Cursor) := do
  let (token, c) ← if c.second? = some '<' then wholeTag? (c.skip 2) else shortTag? c
  if Cursor.endsWord c.next? || (inFlow && c.nextHas isFlowMark) then some (token, c) else none

/-- Reads a number of at most nine digits. -/
def versionNumber? (c : Cursor) : Option Cursor :=
  let (digits, c) := c.takeRun Char.isDigit
  if digits.isEmpty || 9 < digits.length then none else some c

def versionToken? (c : Cursor) : Option (Token × Cursor) := do
  let c ← versionNumber? (c.skipBlanks isBlank)
  if !c.nextIs '.' then none
  let c ← versionNumber? (c.skip 1)
  return (.version, c)

/-- Reads what a handle stands for. -/
def tagLead? (c : Cursor) : Option (List Char × Cursor) := do
  let x ← c.next?
  if x = '!' then
    let (more, c) ← addressRun? isAddressChar c.rest.length (c.skip 1)
    return ('!' :: more, c)
  else if isTagChar x then addressRun? isAddressChar c.rest.length c
  else none

def tagDirective? (c : Cursor) : Option (Token × Cursor) := do
  let (handle, c) ← tagHandle? (c.skipBlanks isBlank)
  if handle ≠ ['!'] ∧ isNamedHandle handle = false then none
  let (lead, c) ← tagLead? (c.skipBlanks isBlank)
  if Cursor.endsWord c.next? then
    some (.tagDirective (String.ofList handle) (String.ofList lead), c)
  else none

/-- Reads a directive whose mark is next, with the end of its line. An unknown one counts as one
about an empty handle. -/
def directiveToken? (c : Cursor) : Option (Token × Cursor) := do
  let (name, c) := (c.skip 1).takeRun isWordChar
  if name.isEmpty || !Cursor.endsWord c.next? then none
  let (token, c) ← match String.ofList name with
    | "YAML" => versionToken? c
    | "TAG" => tagDirective? c
    | _ => some (.tagDirective "" "", c.skipLine)
  let c ← c.afterGap?
  if !Cursor.endsLine c.next? then none
  return (token, if c.atEnd then c else c.skipBreak)

end TableExchange.Yaml
