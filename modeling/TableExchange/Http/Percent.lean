import TableExchange.Text.Utf8

/-!
Percent-encoding. A byte outside a set of kept ones is written as a percent sign and two digits;
which bytes are kept depends on the part of an address. Form encoding also writes a space as a
plus sign.
-/

namespace TableExchange.Http

def capitalHex (n : Nat) : Char :=
  if n < 10 then Char.ofNat (48 + n) else Char.ofNat (55 + n)

def escapeByte (b : UInt8) : List Char :=
  ['%', capitalHex (b.toNat / 16), capitalHex (b.toNat % 16)]

def encodeByte (kept : UInt8 → Bool) (b : UInt8) : List Char :=
  if kept b then [Char.ofNat b.toNat] else escapeByte b

def percentEncode (kept : UInt8 → Bool) (cs : List Char) : List Char :=
  (Text.Utf8.encode (String.ofList cs)).flatMap (encodeByte kept)

/-- The value of a hexadecimal digit of either case. -/
def hexDigit? (c : Char) : Option Nat :=
  let n := c.toNat
  if 48 ≤ n ∧ n ≤ 57 then some (n - 48)
  else if 97 ≤ n ∧ n ≤ 102 then some (n - 87)
  else if 65 ≤ n ∧ n ≤ 70 then some (n - 55)
  else none

/-- The bytes of a text with its escapes resolved; a percent sign that starts none is kept. -/
def percentDecode : List Char → List UInt8
  | '%' :: a :: b :: rest =>
    match hexDigit? a, hexDigit? b with
    | some high, some low => (high * 16 + low).toUInt8 :: percentDecode rest
    | _, _ => 0x25 :: percentDecode (a :: b :: rest)
  | c :: rest => Text.Utf8.encode (String.ofList [c]) ++ percentDecode rest
  | [] => []

def printableExcept (taken : String) (b : UInt8) : Bool :=
  0x20 < b && b < 0x7F && !taken.toList.any (·.toNat == b.toNat)

def keptInFragment : UInt8 → Bool :=
  printableExcept "\"<>\x60"

def keptInQuery (special : Bool) : UInt8 → Bool :=
  printableExcept (if special then "\"#<>\x27" else "\"#<>")

def keptInPath : UInt8 → Bool :=
  printableExcept "\"<>\x60#?\x7b\x7d"

def keptInUser : UInt8 → Bool :=
  printableExcept "\"<>\x60#?\x7b\x7d/:;=@[\\]^|"

/-- The bytes kept in a place whose inner structure is unknown: all but the control characters. -/
def keptRaw (b : UInt8) : Bool :=
  0x20 ≤ b && b < 0x7F

def isAlphanumeric (b : UInt8) : Bool :=
  (0x30 ≤ b && b ≤ 0x39) || (0x41 ≤ b && b ≤ 0x5A) || (0x61 ≤ b && b ≤ 0x7A)

def keptInForm (b : UInt8) : Bool :=
  isAlphanumeric b || b == 0x2A || b == 0x2D || b == 0x2E || b == 0x5F

def formEncode (s : String) : List Char :=
  (Text.Utf8.encode s).flatMap fun b => if b == 0x20 then ['+'] else encodeByte keptInForm b

/-- Named values as the text of a query. -/
def formPairs (pairs : List (String × String)) : List Char :=
  ['&'].intercalate (pairs.map fun p => formEncode p.1 ++ ['='] ++ formEncode p.2)

@[simp] theorem length_escapeByte (b : UInt8) : (escapeByte b).length = 3 := rfl

end TableExchange.Http
