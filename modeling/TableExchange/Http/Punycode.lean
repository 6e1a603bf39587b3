/-!
Punycode: the text of a label in ASCII. The ASCII characters come first; the positions and values
of the others follow as numbers of variable length, whose digit thresholds adapt to what was
written before. Decoding reads the numbers back and inserts the characters one by one.
-/

namespace TableExchange.Http.Punycode

/-- A digit: the letters count from 0, the decimal digits from 26. -/
def digit (n : Nat) : Char :=
  if n < 26 then Char.ofNat (97 + n) else Char.ofNat (22 + n)

def threshold (k bias : Nat) : Nat :=
  if k ≤ bias then 1 else if bias + 26 ≤ k then 26 else k - bias

theorem one_le_threshold (k bias : Nat) : 1 ≤ threshold k bias := by
  unfold threshold
  split
  · omega
  · split <;> omega

/-- A number of variable length, its low digits first. -/
def number (bias k q : Nat) : List Char :=
  let t := threshold k bias
  if q < t then [digit q]
  else digit (t + (q - t) % (36 - t)) :: number bias (k + 36) ((q - t) / (36 - t))
termination_by q
decreasing_by
  have h := one_le_threshold k bias
  exact Nat.lt_of_le_of_lt (Nat.div_le_self _ _) (by omega)

/-- Scales a delta down until it fits the lowest range, and counts the digits that this takes. -/
def scaled (delta k : Nat) : Nat × Nat :=
  if 455 < delta then scaled (delta / 35) (k + 36) else (delta, k)
termination_by delta
decreasing_by exact Nat.div_lt_self (by omega) (by omega)

/-- The bias after a number was written; `count` is the number of characters placed by now. -/
def adapted (delta count : Nat) (first : Bool) : Nat :=
  let halved := if first then delta / 700 else delta / 2
  let (rest, k) := scaled (halved + halved / count) 0
  k + 36 * rest / (rest + 38)

structure Progress where
  out : List Char
  delta : Nat
  bias : Nat
  placed : Nat

/-- Passes one character of the label while those of value `m` are placed. -/
def place (basic m : Nat) (p : Progress) (c : Char) : Progress :=
  if c.toNat < m then { p with delta := p.delta + 1 }
  else if c.toNat = m then
    { out := p.out ++ number p.bias 36 p.delta
      delta := 0
      bias := adapted p.delta (p.placed + 1) (p.placed = basic)
      placed := p.placed + 1 }
  else p

def placeAll (label : List Char) (basic : Nat) : List Nat → Nat → Progress → Progress
  | [], _, p => p
  | m :: rest, n, p =>
    let p := { p with delta := p.delta + (m - n) * (p.placed + 1) }
    let p := label.foldl (place basic m) p
    placeAll label basic rest (m + 1) { p with delta := p.delta + 1 }

def ascending (values : List Nat) : List Nat :=
  (values.mergeSort (· ≤ ·)).eraseDups

def encode (label : List Char) : List Char :=
  let (basic, others) := label.partition (·.toNat < 0x80)
  let values := ascending (others.map Char.toNat)
  let p := placeAll label basic.length values 128
    { out := [], delta := 0, bias := 72, placed := basic.length }
  basic ++ (if basic.isEmpty then [] else ['-']) ++ p.out

def digitValue? (c : Char) : Option Nat :=
  let n := c.toNat
  if 97 ≤ n ∧ n ≤ 122 then some (n - 97)
  else if 48 ≤ n ∧ n ≤ 57 then some (n - 22)
  else none

/-- Reads a number whose next digit has the given weight, and tells what follows it. Numbers and
weights have at most 32 bits. -/
def readNumber? (bias k weight : Nat) : List Char → Option (Nat × List Char)
  | [] => none
  | c :: rest => do
    let d ← digitValue? c
    let t := threshold k bias
    if d < t then some (d * weight, rest)
    else if 4294967296 ≤ weight * (36 - t) then none
    else
      let (n, rest) ← readNumber? bias (k + 36) (weight * (36 - t)) rest
      some (d * weight + n, rest)

theorem length_lt_of_readNumber? {bias k weight n : Nat} {cs rest : List Char}
    (h : readNumber? bias k weight cs = some (n, rest)) : rest.length < cs.length := by
  induction cs generalizing k weight n rest with
  | nil => simp [readNumber?] at h
  | cons c cs ih =>
    cases hd : digitValue? c with
    | none => simp [readNumber?, hd] at h
    | some d =>
      simp only [readNumber?, hd, Option.bind_eq_bind, Option.bind_some] at h
      split at h
      · simp at h
        simp [h.2]
      · split at h
        · simp at h
        · cases hr : readNumber? bias (k + 36) (weight * (36 - threshold k bias)) cs with
          | none => simp [hr] at h
          | some p =>
            obtain ⟨m, r⟩ := p
            simp [hr] at h
            have := ih hr
            simp only [List.length_cons, ← h.2]
            omega

/-- Inserts the characters that a text tells about. `n` is the last character and `i` the place
from which positions count on. -/
def insertAll (bias n i : Nat) (out code : List Char) : Option (List Char) :=
  match code with
  | [] => some out
  | c :: rest =>
    match _h : readNumber? bias 36 1 (c :: rest) with
    | none => none
    | some (delta, after) =>
      let count := out.length + 1
      let n := n + (i + delta) / count
      let place := (i + delta) % count
      if i + delta < 4294967296 ∧ n.isValidChar then
        insertAll (adapted delta count (i = 0)) n (place + 1)
          (out.take place ++ Char.ofNat n :: out.drop place) after
      else none
termination_by code.length
decreasing_by exact length_lt_of_readNumber? _h

/-- What precedes the last hyphen, and what follows it. A hyphen at the start counts as a digit. -/
def cutHyphen (code : List Char) : List Char × List Char :=
  match code.reverse.dropWhile (· ≠ '-') with
  | [] => ([], code)
  | [_] => ([], code)
  | _ :: before => (before.reverse, (code.reverse.takeWhile (· ≠ '-')).reverse)

def decode? (code : List Char) : Option (List Char) :=
  let (basic, tail) := cutHyphen code
  insertAll 72 128 0 basic tail

end TableExchange.Http.Punycode
