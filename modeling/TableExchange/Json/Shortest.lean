import TableExchange.Json.Value

/-!
Numbers that are no 64-bit integers: their value as a binary floating-point number and its shortest
decimal text.

The value is the significand, cut where 64 bits end, scaled once by a power of ten. The text has
the fewest digits that read back to the same number, and of those the nearest.
-/

namespace TableExchange

def significandLimit : Nat := UInt64.size - 1

/-- Digits read into a significand: the value so far, the digits taken, and whether one was left
out for lack of room. -/
structure Taken where
  value : Nat
  count : Nat
  full : Bool
deriving DecidableEq, Repr

/-- Takes digits while the significand has room for them. -/
def takeDigits (value : Nat) : List Nat → Taken
  | [] => ⟨value, 0, false⟩
  | d :: rest =>
    if value * 10 + d ≤ significandLimit then
      let t := takeDigits (value * 10 + d) rest
      { t with count := t.count + 1 }
    else ⟨value, 0, true⟩

/-- The significand and the power of ten of a number. Whole digits without room count in the
exponent; a fraction digit without room ends the significand. -/
def Decimal.scaled (d : Decimal) : Nat × Int :=
  let w := takeDigits 0 d.whole
  let f := takeDigits w.value d.fraction
  (f.value, Int.ofNat (d.whole.length - w.count) - Int.ofNat f.count + d.exponent.getD 0)

/-- Divides by the highest exact power until the exponent is in reach. -/
def scaleDown : Nat → Float → Int → Float
  | 0, f, _ => f
  | fuel + 1, f, e =>
    if e < -308 then
      if f == 0.0 then f else scaleDown fuel (f / 1e308) (e + 308)
    else f / Float.ofScientific 1 false e.natAbs

/-- The value of a number, absent when it lies beyond the finite range. -/
def Decimal.toFloat? (d : Decimal) : Option Float :=
  let (s, e) := d.scaled
  let f := s.toUInt64.toFloat
  let magnitude : Option Float :=
    if 0 ≤ e then
      if f == 0.0 then some 0.0
      else if 308 < e then none
      else
        let scaled := f * Float.ofScientific 1 false e.natAbs
        if scaled.isInf then none else some scaled
    else some (scaleDown 64 f e)
  magnitude.map fun m => if d.negative then -m else m

/-- The bit that every normal significand has: `2 ^ 52`. -/
def leadingBit : Nat := 4503599627370496

/-- Whether a float has a minus sign, which zero may have too. -/
def hasMinus (f : Float) : Bool :=
  9223372036854775808 ≤ f.toBits.toNat

/-- The integer part of a positive float's value `m * 2 ^ q`, as `m` and `q`. -/
def floatParts (f : Float) : Nat × Int :=
  let bits := f.toBits.toNat
  let biased := bits / leadingBit % 2048
  let low := bits % leadingBit
  if biased = 0 then (low, -1074) else (leadingBit + low, Int.ofNat biased - 1075)

/-- The interval of reals that round to a number, in units of `2 ^ (q - 2)`: the lower end, the
number, the upper end, and whether the ends belong to it. -/
structure Cell where
  lower : Nat
  middle : Nat
  upper : Nat
  scale : Int
  closed : Bool
deriving DecidableEq, Repr

/-- The cell of a positive float. Below a power of two the grid is twice as fine. -/
def cellOf (f : Float) : Cell :=
  let (m, q) := floatParts f
  let lower := if m = leadingBit && q ≠ -1074 then 4 * m - 1 else 4 * m - 2
  ⟨lower, 4 * m, 4 * m + 2, q - 2, m % 2 == 0⟩

def compareGrid (digits : Nat) (k : Int) (n : Nat) (scale : Int) : Ordering :=
  let left := digits * Nat.pow 10 k.toNat * Nat.pow 2 (-scale).toNat
  let right := n * Nat.pow 2 scale.toNat * Nat.pow 10 (-k).toNat
  compare left right

def Cell.holds (c : Cell) (digits : Nat) (k : Int) : Bool :=
  let low := compareGrid digits k c.lower c.scale
  let high := compareGrid digits k c.upper c.scale
  (low == .gt || (c.closed && low == .eq)) && (high == .lt || (c.closed && high == .eq))

/-- The largest multiple of `10 ^ k` that is not above the cell's number. -/
def Cell.floorAt (c : Cell) (k : Int) : Nat :=
  c.middle * Nat.pow 2 c.scale.toNat * Nat.pow 10 (-k).toNat /
    (Nat.pow 10 k.toNat * Nat.pow 2 (-c.scale).toNat)

/-- The decimal on the grid of `10 ^ k` that lies in the cell, the nearer one of two. -/
def Cell.hit? (c : Cell) (k : Int) : Option Nat :=
  let low := c.floorAt k
  let high := low + 1
  match c.holds low k && low ≠ 0, c.holds high k with
  | true, true =>
    let twice := compareGrid (2 * low + 1) k (2 * c.middle) c.scale
    some (if twice == .gt || (twice == .eq && low % 2 == 0) then low else high)
  | true, false => some low
  | false, true => some high
  | false, false => none

/-- The first grid with a hit, from coarse to fine. -/
def Cell.firstHit (c : Cell) : Nat → Int → Nat × Int
  | 0, k => (c.floorAt k, k)
  | fuel + 1, k =>
    match c.hit? k with
    | some digits => (digits, k)
    | none => c.firstHit fuel (k - 1)

/-- Moves trailing zeros of the digits into the exponent. -/
def dropZeros : Nat → Nat × Int → Nat × Int
  | 0, p => p
  | fuel + 1, (digits, k) =>
    if digits ≠ 0 && digits % 10 == 0 then dropZeros fuel (digits / 10, k + 1) else (digits, k)

/-- The shortest digits and exponent of a positive finite float. -/
def shortest (f : Float) : Nat × Int :=
  let c := cellOf f
  dropZeros 400 (c.firstHit 700 310)

def exponentText (e : Int) : String :=
  if e < 0 then toString e else "+" ++ toString e

/-- Digits and exponent as text. From `1e-5` up to below `1e16` the notation is positional and has
a fraction; outside of it the exponent stands after the first digit. -/
def layout (digits : Nat) (k : Int) : String :=
  let text := toString digits
  let length := text.length
  let point := Int.ofNat length + k
  if 0 ≤ k && point ≤ 16 then
    text ++ String.ofList (List.replicate k.toNat '0') ++ ".0"
  else if 0 < point && point ≤ 16 then
    String.ofList (text.toList.take point.toNat) ++ "." ++ String.ofList (text.toList.drop point.toNat)
  else if -5 < point && point ≤ 0 then
    "0." ++ String.ofList (List.replicate (-point).toNat '0') ++ text
  else
    let tail := String.ofList (text.toList.drop 1)
    String.ofList (text.toList.take 1) ++ (if length = 1 then "" else "." ++ tail) ++
      "e" ++ exponentText (point - 1)

def floatText (f : Float) : String :=
  let negative := hasMinus f
  let magnitude := if negative then -f else f
  let body := if magnitude == 0.0 then "0.0" else
    let (digits, k) := shortest magnitude
    layout digits k
  if negative then "-" ++ body else body

/-- The text of a number that is no 64-bit integer; beyond the finite range there is none, and
null stands for it. -/
def decimalText (d : Decimal) : String :=
  match d.toFloat? with
  | some f => floatText f
  | none => "null"

end TableExchange
