import TableExchange.Config.Yaml.Scalar
import TableExchange.Config.Yaml.Tokens

/-!
The values that tokens make up. A file holds at most one document, and the document must be a table
whose keys are texts or integers, each of them once.
-/

namespace TableExchange.Yaml

/-- The state of reading values: the tokens that are left, what handles of tags stand for, which
anchor a name belongs to, and the values of the anchors. -/
structure Reading where
  tokens : List Token
  handles : List (String × String) := []
  anchors : List (String × Nat) := []
  values : List (Nat × Option ConfigValue) := []
  count : Nat := 0

abbrev Parse := StateT Reading Option

namespace Parse

def peek : Parse Token := do (← get).tokens.head?

def skip : Parse Unit :=
  modify fun r => { r with tokens := r.tokens.drop 1 }

/-- A key of a mapping. An integer differs from a text with the same digits. -/
inductive Key
  | text (s : String)
  | integer (n : Int)
deriving DecidableEq, Repr

def Key.ofValue? : ConfigValue → Option Key
  | .text s => some (.text s)
  | .integer n => some (.integer n)
  | _ => none

def Key.name : Key → String
  | text s => s
  | integer n => toString n

/-- Pairs keys with values. Where a key is expected, a node without a value is passed over. -/
def pairs? : List (Option ConfigValue) → Option (List (Key × ConfigValue))
  | none :: rest => pairs? rest
  | some k :: v :: rest => do return (← Key.ofValue? k, v.getD .nil) :: (← pairs? rest)
  | [some _] => some []
  | [] => some []

def hasRepetition : List Key → Bool
  | [] => false
  | k :: rest => rest.contains k || hasRepetition rest

def table? (nodes : List (Option ConfigValue)) : Option ConfigValue := do
  let pairs ← pairs? nodes
  if hasRepetition (pairs.map (·.1)) then none
  return .table (pairs.foldl (fun es p => ConfigValue.assign p.1.name p.2 es) [])

/-- The value that an alias stands for, which is absent while it is still being read. -/
def lookUp (name : String) : Parse (Option ConfigValue) := do
  let r ← get
  let number ← r.anchors.lookup name
  return (r.values.lookup number).join

def takeAnchor (name : String) : Parse Nat := do
  skip
  modifyGet fun r =>
    (r.count, { r with anchors := (name, r.count) :: r.anchors, count := r.count + 1 })

def takeTag (handle suffix : String) : Parse (String × String) := do
  skip
  match (← get).handles.lookup handle with
  | some lead => return (lead, suffix)
  | none =>
    if handle = "!!" then return (coreHandle, suffix)
    else if isNamedHandle handle.toList then failure
    else return (handle, suffix)

/-- Takes an anchor and a tag in any order, both optional. -/
def takeProperties : Parse (Option Nat × Option (String × String)) := do
  match ← peek with
  | .anchor name =>
    let number ← takeAnchor name
    match ← peek with
    | .tag handle suffix => return (some number, some (← takeTag handle suffix))
    | _ => return (some number, none)
  | .tag handle suffix =>
    let tag ← takeTag handle suffix
    match ← peek with
    | .anchor name => return (some (← takeAnchor name), some tag)
    | _ => return (none, some tag)
  | _ => return (none, none)

def note (number : Option Nat) (v : Option ConfigValue) : Parse Unit :=
  match number with
  | some n => modify fun r => { r with values := (n, v) :: r.values }
  | none => return

mutual

/-- Reads a node. Block collections, and block sequences without an indentation of their own, are
nodes only where they may stand. -/
def node (block indentless : Bool) : Nat → Parse (Option ConfigValue)
  | 0 => failure
  | fuel + 1 => do
    match ← peek with
    | .aliasOf name =>
      skip
      lookUp name
    | _ =>
      let (number, tag) ← takeProperties
      let v ← content block indentless (number.isSome || tag.isSome) tag fuel
      note number v
      return v

/-- Reads what follows the anchor and the tag of a node. After one of them it may be missing. -/
def content (block indentless mayMiss : Bool) (tag : Option (String × String)) :
    Nat → Parse (Option ConfigValue)
  | 0 => failure
  | fuel + 1 => do
    let start ← peek
    if start = .blockEntry ∧ indentless then return some (.list (← bareItems fuel))
    else if start = .blockSequenceStart ∧ block then
      skip
      return some (.list (← blockItems fuel))
    else if start = .blockMappingStart ∧ block then
      skip
      return some (← table? (← blockEntries fuel))
    else match start with
      | .scalar style s =>
        skip
        scalarValue? style tag s
      | .flowSequenceStart =>
        skip
        return some (.list (← flowItems true fuel))
      | .flowMappingStart =>
        skip
        return some (← table? (← flowEntries true fuel))
      | _ => if mayMiss then scalarValue? .plain tag "" else failure

/-- Reads the node after a mark, which is empty if one of some tokens follows the mark. -/
def nodeUnless (block indentless : Bool) (stops : List Token) : Nat → Parse (Option ConfigValue)
  | 0 => failure
  | fuel + 1 => do
    if stops.contains (← peek) then return some .nil
    node block indentless fuel

def blockItems : Nat → Parse (List ConfigValue)
  | 0 => failure
  | fuel + 1 => do
    match ← peek with
    | .blockEnd =>
      skip
      return []
    | .blockEntry =>
      skip
      let item ← nodeUnless true false [.blockEntry, .blockEnd] fuel
      return item.getD .nil :: (← blockItems fuel)
    | _ => failure

/-- Reads the items of a block sequence that has no indentation of its own. -/
def bareItems : Nat → Parse (List ConfigValue)
  | 0 => failure
  | fuel + 1 => do
    match ← peek with
    | .blockEntry =>
      skip
      let item ← nodeUnless true false [.blockEntry, .key, .value, .blockEnd] fuel
      return item.getD .nil :: (← bareItems fuel)
    | _ => return []

/-- Reads the keys and values of a block mapping in turn. -/
def blockEntries : Nat → Parse (List (Option ConfigValue))
  | 0 => failure
  | fuel + 1 => do
    let stops := [.key, .value, .blockEnd]
    match ← peek with
    | .blockEnd =>
      skip
      return []
    | .key =>
      skip
      let k ← nodeUnless true true stops fuel
      let v ← valueNode true stops fuel
      return k :: v :: (← blockEntries fuel)
    | .value =>
      let v ← valueNode true stops fuel
      return some .nil :: v :: (← blockEntries fuel)
    | _ => failure

/-- Reads the value of a key, which may be missing. -/
def valueNode (block : Bool) (stops : List Token) : Nat → Parse (Option ConfigValue)
  | 0 => failure
  | fuel + 1 => do
    if (← peek) = .value then
      skip
      nodeUnless block block stops fuel
    else return some .nil

/-- Reads the keys and values of a flow mapping in turn. A comma stands before each pair but the
first one. -/
def flowEntries (first : Bool) : Nat → Parse (List (Option ConfigValue))
  | 0 => failure
  | fuel + 1 => do
    let stops := [.flowEntry, .flowMappingEnd]
    if !first && (← peek) ≠ .flowMappingEnd then
      if (← peek) ≠ .flowEntry then failure
      skip
    match ← peek with
    | .flowMappingEnd =>
      skip
      return []
    | .key =>
      skip
      let k ← nodeUnless false false (.value :: stops) fuel
      let v ← valueNode false stops fuel
      return k :: v :: (← flowEntries false fuel)
    | .value =>
      let v ← valueNode false stops fuel
      return some .nil :: v :: (← flowEntries false fuel)
    | _ =>
      let k ← node false false fuel
      return k :: some .nil :: (← flowEntries false fuel)

/-- Reads the items of a flow sequence. A comma stands before each item but the first one, and an
item with a key is a mapping of one entry. -/
def flowItems (first : Bool) : Nat → Parse (List ConfigValue)
  | 0 => failure
  | fuel + 1 => do
    if !first && (← peek) ≠ .flowSequenceEnd then
      if (← peek) ≠ .flowEntry then failure
      skip
    match ← peek with
    | .flowSequenceEnd =>
      skip
      return []
    | .key =>
      skip
      let item ← bareMapping fuel
      return item :: (← flowItems false fuel)
    | _ =>
      let item ← node false false fuel
      return item.getD .nil :: (← flowItems false fuel)

/-- Reads the mapping of one entry that a key starts in a flow sequence. -/
def bareMapping : Nat → Parse ConfigValue
  | 0 => failure
  | fuel + 1 => do
    let stops := [.flowEntry, .flowSequenceEnd]
    let k ← if (.value :: stops).contains (← peek) then do
        skip
        pure (some .nil)
      else node false false fuel
    let v ← valueNode false stops fuel
    table? [k, v]

end

/-- Moves past the marks where documents end. -/
def skipDocumentEnds : Parse Unit :=
  modify fun r => { r with tokens := r.tokens.dropWhile (· = .documentEnd) }

/-- Takes directives. Only the last one counts, and there may be one version. -/
def takeDirectives (hasVersion : Bool) : Nat → Parse Unit
  | 0 => failure
  | fuel + 1 => do
    match ← peek with
    | .version =>
      if hasVersion then failure
      modify fun r => { r with handles := [] }
      skip
      takeDirectives true fuel
    | .tagDirective handle lead =>
      modify fun r => { r with handles := [(handle, lead)] }
      skip
      takeDirectives hasVersion fuel
    | _ => return

def markedDocument (fuel : Nat) : Parse (Option ConfigValue) := do
  takeDirectives false fuel
  if (← peek) ≠ .documentStart then failure
  skip
  let stops := [.version, .documentStart, .documentEnd, .streamEnd]
  match ← peek with
  | .tagDirective _ _ => return some .nil
  | _ => nodeUnless true false stops fuel

/-- Reads the only document of a file, or the empty table of a file without one. -/
def onlyDocument (fuel : Nat) : Parse (Option ConfigValue) := do
  skipDocumentEnds
  let v ← match ← peek with
    | .streamEnd => pure (some (.table []))
    | .version => markedDocument fuel
    | .tagDirective _ _ => markedDocument fuel
    | .documentStart => markedDocument fuel
    | _ => node true false fuel
  skipDocumentEnds
  if (← peek) = .streamEnd then return v else failure

end Parse

def parse? (s : String) : Option ConfigValue := do
  let tokens ← tokens? s
  match (Parse.onlyDocument (3 * tokens.length + 4)).run { tokens } with
  | some (some (.table es), _) => some (.table es)
  | _ => none

end TableExchange.Yaml
