import TableExchange.Json.Value

/-!
Reading JSON text. Between tokens only space, tab, line feed and carriage return may stand, and
after the value nothing else. A text with an unpaired surrogate escape is well-formed syntax, so
it is read as `broken` and matters only where its value is asked for.
-/

namespace TableExchange.Json

def isGap (c : Char) : Bool :=
  c == ' ' || c == '\t' || c == '\n' || c == '\r'

def skipGap (cs : List Char) : List Char :=
  cs.dropWhile isGap

def hexValue? (c : Char) : Option Nat :=
  let n := c.toNat
  if 48 ≤ n ∧ n ≤ 57 then some (n - 48)
  else if 97 ≤ n ∧ n ≤ 102 then some (n - 87)
  else if 65 ≤ n ∧ n ≤ 70 then some (n - 55)
  else none

def hex4? (a b c d : Char) : Option Nat := do
  return (← hexValue? a) * 4096 + (← hexValue? b) * 256 + (← hexValue? c) * 16 + (← hexValue? d)

def shortEscape? (c : Char) : Option Char :=
  if c = '"' then some '"'
  else if c = '\\' then some '\\'
  else if c = '/' then some '/'
  else if c = 'b' then some (Char.ofNat 8)
  else if c = 'f' then some (Char.ofNat 12)
  else if c = 'n' then some '\n'
  else if c = 'r' then some '\r'
  else if c = 't' then some '\t'
  else none

/-- One element of a quoted text: its closing mark, a character, or an unpaired surrogate. -/
inductive Element
  | close
  | char (c : Char)
  | unpaired
deriving DecidableEq, Repr

/-- A low surrogate escape at the head of the input, and the rest. -/
def lowSurrogate? : List Char → Option (Nat × List Char)
  | '\\' :: 'u' :: a :: b :: c :: d :: rest =>
    match hex4? a b c d with
    | some n => if 0xDC00 ≤ n ∧ n ≤ 0xDFFF then some (n, rest) else none
    | none => none
  | _ => none

def unitElement (n : Nat) (rest : List Char) : Element × List Char :=
  if 0xD800 ≤ n ∧ n ≤ 0xDBFF then
    match lowSurrogate? rest with
    | some (m, after) => (.char (Char.ofNat (0x10000 + (n - 0xD800) * 1024 + (m - 0xDC00))), after)
    | none => (.unpaired, rest)
  else if 0xDC00 ≤ n ∧ n ≤ 0xDFFF then (.unpaired, rest)
  else (.char (Char.ofNat n), rest)

/-- Reads one element of a quoted text. Control characters must be escaped. -/
def element? : List Char → Option (Element × List Char)
  | [] => none
  | '"' :: rest => some (.close, rest)
  | '\\' :: 'u' :: a :: b :: c :: d :: rest => (hex4? a b c d).map fun n => unitElement n rest
  | '\\' :: e :: rest => (shortEscape? e).map fun c => (.char c, rest)
  | c :: rest => if c = '\\' ∨ c.toNat < 32 then none else some (.char c, rest)

theorem lowSurrogate?_shorter {cs rest : List Char} {n : Nat}
    (h : lowSurrogate? cs = some (n, rest)) : rest.length < cs.length := by
  unfold lowSurrogate? at h
  split at h
  · split at h
    · split at h
      · simp only [Option.some.injEq, Prod.mk.injEq] at h
        simp only [← h.2, List.length_cons]
        omega
      · exact absurd h (by simp)
    · exact absurd h (by simp)
  · exact absurd h (by simp)

theorem unitElement_length_le (n : Nat) (rest : List Char) :
    (unitElement n rest).2.length ≤ rest.length := by
  unfold unitElement
  split
  · split
    · next h => exact Nat.le_of_lt (lowSurrogate?_shorter h)
    · exact Nat.le_refl _
  · split <;> exact Nat.le_refl _

/-- Every element takes at least one character. -/
theorem element?_shorter {cs rest : List Char} {e : Element}
    (h : element? cs = some (e, rest)) : rest.length < cs.length := by
  unfold element? at h
  split at h
  · exact absurd h (by simp)
  · simp only [Option.some.injEq, Prod.mk.injEq] at h
    simp [← h.2]
  · next a b c d tail =>
    simp only [Option.map_eq_some_iff] at h
    obtain ⟨n, _, hn⟩ := h
    have := unitElement_length_le n tail
    rw [hn] at this
    simp only [List.length_cons]
    exact Nat.lt_of_le_of_lt this (by omega)
  · simp only [Option.map_eq_some_iff, Prod.mk.injEq] at h
    obtain ⟨_, _, _, rfl⟩ := h
    simp only [List.length_cons]
    omega
  · split at h
    · exact absurd h (by simp)
    · simp only [Option.some.injEq, Prod.mk.injEq] at h
      simp [← h.2]

/-- Reads the rest of a quoted text up to its closing mark. The characters are absent when a
surrogate is unpaired. -/
def quoted? (cs : List Char) : Option (Option (List Char) × List Char) :=
  match h : element? cs with
  | none => none
  | some (.close, rest) => some (some [], rest)
  | some (.char c, rest) =>
    have := element?_shorter h
    (quoted? rest).map fun r => (r.1.map (c :: ·), r.2)
  | some (.unpaired, rest) =>
    have := element?_shorter h
    (quoted? rest).map fun r => (none, r.2)
termination_by cs.length

def digitValue (c : Char) : Nat :=
  c.toNat - 48

def digits (cs : List Char) : List Nat × List Char :=
  ((cs.takeWhile Char.isDigit).map digitValue, cs.dropWhile Char.isDigit)

def digitsValue (ds : List Nat) : Nat :=
  ds.foldl (fun n d => n * 10 + d) 0

/-- Reads the digits after a decimal point, if one stands here. -/
def fraction? : List Char → Option (List Nat × List Char)
  | '.' :: rest =>
    match digits rest with
    | ([], _) => none
    | (ds, after) => some (ds, after)
  | cs => some ([], cs)

def exponentSign : List Char → Bool × List Char
  | '+' :: rest => (false, rest)
  | '-' :: rest => (true, rest)
  | cs => (false, cs)

def exponent? : List Char → Option (Option Int × List Char)
  | c :: rest =>
    if c = 'e' ∨ c = 'E' then
      let (negative, after) := exponentSign rest
      match digits after with
      | ([], _) => none
      | (ds, tail) =>
        let n : Int := digitsValue ds
        some (some (if negative then -n else n), tail)
    else some (none, c :: rest)
  | [] => some (none, [])

/-- The value of a number: an integer if it is written as one and 64 bits hold it. A negative zero
is no integer. -/
def numberOf (negative : Bool) (whole fraction : List Nat) (exponent : Option Int) : Json :=
  let n := digitsValue whole
  let asDecimal := Json.decimal ⟨negative, whole, fraction, exponent⟩
  if fraction ≠ [] ∨ exponent ≠ none then asDecimal
  else if negative then
    if n = 0 ∨ 9223372036854775808 < n then asDecimal else .integer (-(n : Int))
  else if UInt64.size ≤ n then asDecimal
  else .integer n

def number? (cs : List Char) : Option (Json × List Char) := do
  let (negative, unsigned) := match cs with
    | '-' :: rest => (true, rest)
    | _ => (false, cs)
  let (whole, afterWhole) := digits unsigned
  if whole = [] ∨ (whole.head? = some 0 ∧ 1 < whole.length) then none
  let (fraction, afterFraction) ← fraction? afterWhole
  let (exponent, rest) ← exponent? afterFraction
  return (numberOf negative whole fraction exponent, rest)

/-- The rest of the input after a fixed word. -/
def word? (word : List Char) (cs : List Char) : Option (List Char) :=
  if word.isPrefixOf cs then some (cs.drop word.length) else none

/-- A value with broken parts stands for no value. -/
def textOr (chars : Option (List Char)) : Json :=
  match chars with
  | some cs => .string (String.ofList cs)
  | none => .broken

/-- Puts a member in front of the members read after it. -/
def consMember (name : Option (List Char)) (value : Json) :
    Option (List (String × Json)) → Option (List (String × Json))
  | some members => name.map fun n => (String.ofList n, value) :: members
  | none => none

def objectOr : Option (List (String × Json)) → Json
  | some members => .object members
  | none => .broken

mutual

/-- Reads a value; `fuel` bounds the tokens. -/
def value? : Nat → List Char → Option (Json × List Char)
  | 0, _ => none
  | fuel + 1, cs =>
    match skipGap cs with
    | '"' :: rest => (quoted? rest).map fun r => (textOr r.1, r.2)
    | '[' :: rest =>
      match skipGap rest with
      | ']' :: after => some (.array [], after)
      | _ => (items? fuel rest).map fun r => (.array r.1, r.2)
    | '{' :: rest =>
      match skipGap rest with
      | '}' :: after => some (.object [], after)
      | _ => (members? fuel rest).map fun r => (objectOr r.1, r.2)
    | 'n' :: rest => (word? ['u', 'l', 'l'] rest).map fun r => (.null, r)
    | 't' :: rest => (word? ['r', 'u', 'e'] rest).map fun r => (.bool true, r)
    | 'f' :: rest => (word? ['a', 'l', 's', 'e'] rest).map fun r => (.bool false, r)
    | other => number? other

def items? : Nat → List Char → Option (List Json × List Char)
  | 0, _ => none
  | fuel + 1, cs =>
    match value? fuel cs with
    | none => none
    | some (item, rest) =>
      match skipGap rest with
      | ',' :: after => (items? fuel after).map fun r => (item :: r.1, r.2)
      | ']' :: after => some ([item], after)
      | _ => none

/-- Reads the members of an object and its closing brace. The members are absent when a name is
broken. -/
def members? : Nat → List Char → Option (Option (List (String × Json)) × List Char)
  | 0, _ => none
  | fuel + 1, cs =>
    match skipGap cs with
    | '"' :: rest =>
      match quoted? rest with
      | none => none
      | some (name, afterName) =>
        match skipGap afterName with
        | ':' :: afterColon =>
          match value? fuel afterColon with
          | none => none
          | some (item, afterItem) =>
            match skipGap afterItem with
            | ',' :: after => (members? fuel after).map fun r => (consMember name item r.1, r.2)
            | '}' :: after => some (consMember name item (some []), after)
            | _ => none
        | _ => none
    | _ => none

end

def parse? (s : String) : Option Json :=
  match value? (2 * s.length + 2) s.toList with
  | some (j, rest) => if (skipGap rest).isEmpty then some j else none
  | none => none

end TableExchange.Json
