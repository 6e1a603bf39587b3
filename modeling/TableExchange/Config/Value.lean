import TableExchange.Json.Record
import TableExchange.Text.Lowercase

/-!
Values of configuration sources, and how one source is laid over another: tables entry by entry,
everything else as a whole. The names of entries count in small letters. A field takes a scalar of
any kind that can be converted to its type.
-/

namespace TableExchange

inductive ConfigValue where
  | nil
  | bool (b : Bool)
  | integer (n : Int)
  | real (f : Float)
  | text (s : String)
  | list (items : List ConfigValue)
  | table (entries : List (String × ConfigValue))
deriving Repr, Inhabited

namespace ConfigValue

def find? (name : String) : List (String × ConfigValue) → Option ConfigValue
  | [] => none
  | (k, v) :: rest => if k = name then some v else find? name rest

/-- Sets the entry of a name in its place, or at the end. -/
def assign (name : String) (v : ConfigValue) :
    List (String × ConfigValue) → List (String × ConfigValue)
  | [] => [(name, v)]
  | (k, w) :: rest => if k = name then (k, v) :: rest else (k, w) :: assign name v rest

def entries : ConfigValue → List (String × ConfigValue)
  | table es => es
  | _ => []

def entry? (name : String) (v : ConfigValue) : Option ConfigValue :=
  find? name v.entries

mutual

def overlay (below : Option ConfigValue) : ConfigValue → ConfigValue
  | table es => overlayEntries (below.getD (table [])) es
  | nil => nil
  | bool b => bool b
  | integer n => integer n
  | real f => real f
  | text s => text s
  | list items => list items

/-- Lays entries over a value, one after another. The first one turns it into a table. -/
def overlayEntries (below : ConfigValue) : List (String × ConfigValue) → ConfigValue
  | [] => below
  | (name, v) :: rest =>
    let k := Text.lowercase name
    overlayEntries (table (assign k (overlay (below.entry? k) v) below.entries)) rest

end

def items : ConfigValue → List ConfigValue
  | list vs => vs
  | _ => []

/-- Sets an item of a list, with nil for the items that are missing before it. -/
def setItem (vs : List ConfigValue) (n : Nat) (v : ConfigValue) : List ConfigValue :=
  (vs ++ List.replicate (n + 1 - vs.length) nil).set n v

/-- The position in a list of a given length that an index means. A negative one counts from the
end. -/
def position? (length : Nat) (index : Int) : Option Nat :=
  let n := if 0 ≤ index then index else Int.ofNat length + index
  if 0 ≤ n then some n.toNat else none

@[simp] theorem find?_assign_self (name : String) (v : ConfigValue)
    (es : List (String × ConfigValue)) : find? name (assign name v es) = some v := by
  induction es with
  | nil => simp [assign, find?]
  | cons head rest ih => by_cases h : head.1 = name <;> simp [assign, find?, h, ih]

theorem find?_assign_of_ne {name other : String} (h : other ≠ name) (v : ConfigValue)
    (es : List (String × ConfigValue)) : find? other (assign name v es) = find? other es := by
  induction es with
  | nil => simp [assign, find?, Ne.symm h]
  | cons head rest ih =>
    by_cases hk : head.1 = name
    · simp [assign, find?, hk, Ne.symm h]
    · simp [assign, find?, hk, ih]

/-- A finite float without an exponent, and without a fraction if it has none. -/
def positional (digits : Nat) (k : Int) : String :=
  let cs := Nat.toDigits 10 digits
  if 0 ≤ k then String.ofList (cs ++ List.replicate k.toNat '0')
  else
    let places := (-k).toNat
    let padded := List.replicate (places + 1 - cs.length) '0' ++ cs
    String.ofList (padded.take (padded.length - places) ++ ['.'] ++
      padded.drop (padded.length - places))

def realText (f : Float) : String :=
  if f.isNaN then "NaN"
  else
    let negative := hasMinus f
    let magnitude := if negative then -f else f
    let body := if f.isInf then "inf" else if magnitude == 0.0 then "0" else
      let (digits, k) := shortest magnitude
      positional digits k
    if negative then "-" ++ body else body

def toText? : ConfigValue → Option String
  | text s => some s
  | bool true => some "true"
  | bool false => some "false"
  | integer n => some (toString n)
  | real f => some (realText f)
  | _ => none

/-- The number of 64 bits that decimal digits spell, with an optional plus sign. -/
def spelledWord? (s : String) : Option UInt64 :=
  let digits := match s.toList with
    | '+' :: rest => rest
    | cs => cs
  if digits.isEmpty || !digits.all Char.isDigit then none
  else
    let n : Nat := digits.foldl (fun n c => n * 10 + (c.toNat - 48)) 0
    if n < UInt64.size then some n.toUInt64 else none

/-- The words for the two truth values, and the numbers they stand for. -/
def truthWords : List (String × UInt64) :=
  [("true", 1), ("on", 1), ("yes", 1), ("false", 0), ("off", 0), ("no", 0)]

/-- A scalar as an unsigned number of 64 bits. A fraction is rounded, and kept within the range. -/
def toWord? : ConfigValue → Option UInt64
  | bool b => some (if b then 1 else 0)
  | integer n => if 0 ≤ n ∧ n < UInt64.size then some n.toNat.toUInt64 else none
  | real f => some f.round.toUInt64
  | text s => (truthWords.lookup (Text.lowercase s)).or (spelledWord? s)
  | _ => none

/-- One of several named alternatives, in any case: the name itself, or a table with one entry of
that name. -/
def toVariant? {α : Type} (alternatives : List (String × α)) (v : ConfigValue) : Option α :=
  let named (name : String) : Option α :=
    (alternatives.find? fun a => Text.lowercase a.1 == Text.lowercase name).map (·.2)
  match v with
  | text s => named s
  | table [(k, _)] => named k
  | _ => none

/-- What a section offers for its fields: the entries of a table by name, or the items of a list
in order. -/
def fields (names : List String) : ConfigValue → Option (List (Option ConfigValue))
  | table es => some (names.map fun name => find? name es)
  | list items => some ((List.range names.length).map fun i => items[i]?)
  | _ => none

/-- A field that stands for a default where it is missing. -/
def orElse {α : Type} (read : ConfigValue → Option α) (default : α) :
    Option ConfigValue → Option α
  | some v => read v
  | none => some default

def optional {α : Type} (read : ConfigValue → Option α) : Option ConfigValue → Option (Option α)
  | none => some none
  | some nil => some none
  | some v => (read v).map some

end ConfigValue

end TableExchange
