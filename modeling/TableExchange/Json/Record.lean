import TableExchange.Json.Shortest

/-!
Reading records from JSON. A record is an object with named members, or an array with the fields
in their declared order. Unknown members are passed over, a known one must not occur twice, and an
array must not be longer than the record.
-/

namespace TableExchange.Json

/-- What a value offers for one field. Only an array that ends early cuts a field off. -/
inductive Slot
  | given (j : Json)
  | absent
  | cutOff

def member? (name : String) (members : List (String × Json)) : Option Json :=
  members.lookup name

/-- Whether some known name occurs twice. -/
def repeats (names : List String) (members : List (String × Json)) : Bool :=
  names.any fun name => 1 < (members.filter (·.1 == name)).length

def slotsInOrder : List String → List Json → List Slot
  | [], _ => []
  | _ :: names, [] => .cutOff :: slotsInOrder names []
  | _ :: names, j :: items => .given j :: slotsInOrder names items

def slotOf (members : List (String × Json)) (name : String) : Slot :=
  match member? name members with
  | some j => .given j
  | none => .absent

def slots (names : List String) : Json → Option (List Slot)
  | .object members =>
    if repeats names members then none else some (names.map (slotOf members))
  | .array items =>
    if names.length < items.length then none else some (slotsInOrder names items)
  | _ => none

@[simp] theorem length_slotsInOrder (names : List String) (items : List Json) :
    (slotsInOrder names items).length = names.length := by
  induction names generalizing items with
  | nil => simp [slotsInOrder]
  | cons _ _ ih => cases items <;> simp [slotsInOrder, ih]

def Slot.required (read : Json → Option α) : Slot → Option α
  | .given j => read j
  | _ => none

def nullOr (read : Json → Option α) : Json → Option (Option α)
  | .null => some none
  | j => (read j).map some

/-- A field that may be missing from an object, but not from an array. -/
def Slot.optional (read : Json → Option α) : Slot → Option (Option α)
  | .given j => nullOr read j
  | .absent => some none
  | .cutOff => none

/-- A field that stands for a default wherever it is missing. -/
def Slot.orElse (read : Json → Option α) (default : α) : Slot → Option α
  | .given j => read j
  | _ => some default

def text? : Json → Option String
  | .string s => some s
  | _ => none

def bool? : Json → Option Bool
  | .bool b => some b
  | _ => none

def integerIn? (low high : Int) : Json → Option Int
  | .integer n => if low ≤ n ∧ n ≤ high then some n else none
  | _ => none

def word32? (j : Json) : Option UInt32 :=
  (integerIn? 0 (UInt32.size - 1) j).map fun n => UInt32.ofNat n.toNat

def word64? (j : Json) : Option UInt64 :=
  (integerIn? 0 (UInt64.size - 1) j).map fun n => UInt64.ofNat n.toNat

def signed32? (j : Json) : Option Int32 :=
  (integerIn? Int32.minValue.toInt Int32.maxValue.toInt j).map Int32.ofInt

def signed64? (j : Json) : Option Int64 :=
  (integerIn? Int64.minValue.toInt Int64.maxValue.toInt j).map Int64.ofInt

def list? (read : Json → Option α) : Json → Option (List α)
  | .array items => items.mapM read
  | _ => none

/-- The name of a plain alternative: the text itself, or an object whose only member has that name
and the value null. -/
def variantName? : Json → Option String
  | .string s => some s
  | .object [(name, .null)] => some name
  | _ => none

/-- One of several named alternatives. -/
def variant? (table : List (String × α)) (j : Json) : Option α :=
  (variantName? j).bind fun name => table.lookup name

def variantText [BEq α] (table : List (String × α)) (a : α) : Json :=
  match table.find? (·.2 == a) with
  | some (name, _) => .string name
  | none => .null

mutual

/-- Whether a value is free of broken parts and its numbers are in range, with at most `depth`
open brackets at any place. -/
def isPlain : Nat → Json → Bool
  | _, .broken => false
  | _, .decimal d => (d.toFloat?).isSome
  | 0, .array _ => false
  | 0, .object _ => false
  | depth + 1, .array items => allPlain depth items
  | depth + 1, .object members => allMembersPlain depth members
  | _, _ => true

def allPlain : Nat → List Json → Bool
  | _, [] => true
  | depth, j :: rest => isPlain depth j && allPlain depth rest

def allMembersPlain : Nat → List (String × Json) → Bool
  | _, [] => true
  | depth, (_, j) :: rest => isPlain depth j && allMembersPlain depth rest

end

/-- How deep brackets may nest in a value that is read for its own sake. -/
def depthLimit : Nat := 127

/-- Reads any value for its own sake. -/
def plain? (j : Json) : Option Json :=
  if isPlain depthLimit j then some j else none

end TableExchange.Json
