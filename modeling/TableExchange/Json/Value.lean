/-!
JSON values as they are read and written, and the two kinds of numbers: integers of at most 64
bits, and everything else that the grammar admits, kept digit by digit.
-/

namespace TableExchange

/-- A number written with a fraction, an exponent, or more digits than 64 bits hold. -/
structure Decimal where
  negative : Bool
  whole : List Nat
  fraction : List Nat
  exponent : Option Int
deriving DecidableEq, Repr

/-- A JSON value. `broken` is a well-formed piece of syntax that stands for no value: a text or a
member name with an unpaired surrogate escape. -/
inductive Json where
  | null
  | bool (b : Bool)
  | integer (n : Int)
  | decimal (d : Decimal)
  | string (s : String)
  | array (items : List Json)
  | object (members : List (String × Json))
  | broken
deriving Repr, Inhabited

namespace Json

def nat (n : Nat) : Json :=
  .integer n

def optional (write : α → Json) : Option α → Json
  | none => .null
  | some a => write a

@[simp] theorem optional_none (write : α → Json) : optional write none = .null := rfl

@[simp] theorem optional_some (write : α → Json) (a : α) : optional write (some a) = write a := rfl

def texts (entries : List (String × String)) : Json :=
  .object (entries.map fun e => (e.1, .string e.2))

end Json

end TableExchange
