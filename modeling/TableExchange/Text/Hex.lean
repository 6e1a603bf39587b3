/-!
Bytes written as pairs of hexadecimal digits in small letters.
-/

namespace TableExchange.Text.Hex

def digit (n : Nat) : Char :=
  if n < 10 then Char.ofNat (48 + n) else Char.ofNat (87 + n)

def value? (c : Char) : Option Nat :=
  let n := c.toNat
  if 48 ≤ n ∧ n ≤ 57 then some (n - 48) else if 97 ≤ n ∧ n ≤ 102 then some (n - 87) else none

def pair (b : UInt8) : List Char :=
  [digit (b.toNat / 16), digit (b.toNat % 16)]

def encode (bytes : List UInt8) : String :=
  String.ofList (bytes.flatMap pair)

/-- The bytes that pairs of digits spell, if all of them do. -/
def decodeChars : List Char → Option (List UInt8)
  | [] => some []
  | [_] => none
  | a :: b :: rest => do
    return ((← value? a) * 16 + (← value? b)).toUInt8 :: (← decodeChars rest)

def decode (s : String) : Option (List UInt8) :=
  decodeChars s.toList

theorem value?_digit {n : Nat} (h : n < 16) : value? (digit n) = some n := by
  have all : ∀ m ∈ List.range 16, value? (digit m) = some m := by decide
  exact all n (List.mem_range.mpr h)

theorem decodeChars_encode (bytes : List UInt8) :
    decodeChars (bytes.flatMap pair) = some bytes := by
  induction bytes with
  | nil => rfl
  | cons b rest ih =>
    have hb : b.toNat < 256 := b.toNat_lt
    have high : value? (digit (b.toNat / 16)) = some (b.toNat / 16) := value?_digit (by omega)
    have low : value? (digit (b.toNat % 16)) = some (b.toNat % 16) := value?_digit (by omega)
    have whole : (b.toNat / 16 * 16 + b.toNat % 16).toUInt8 = b := by
      rw [Nat.div_add_mod']
      exact UInt8.ofNat_toNat
    simp only [List.flatMap_cons, pair, List.cons_append, List.nil_append, decodeChars, high, low,
      ih, whole, bind, Option.bind, pure]

end TableExchange.Text.Hex
