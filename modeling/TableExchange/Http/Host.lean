import TableExchange.Http.Domain
import TableExchange.Http.Percent

/-!
Hosts of addresses: names, and network addresses of both versions. A name whose last label is a
number is an address of version 4 in one of its many spellings, or no host at all.
-/

namespace TableExchange.Http

/-- A host. `other` is the host of an address whose scheme gives it no further meaning. -/
inductive Host
  | domain (name : List Char)
  | version4 (address : Nat)
  | version6 (pieces : List Nat)
  | other (text : List Char)
deriving DecidableEq, Repr

namespace Host

def numberIn? (base : Nat) (cs : List Char) : Option Nat :=
  cs.foldlM (fun n c => do
    let d ← hexDigit? c
    if d < base then some (n * base + d) else none) 0

/-- One part of an address of version 4: hexadecimal, octal or decimal. -/
def part? : List Char → Option Nat
  | [] => none
  | '0' :: 'x' :: rest => numberIn? 16 rest
  | '0' :: 'X' :: rest => numberIn? 16 rest
  | '0' :: rest => numberIn? 8 rest
  | cs => numberIn? 10 cs

/-- The labels of a name, without the empty one after a final dot. -/
def labels (cs : List Char) : List (List Char) :=
  let all := Domain.cutAll '.' cs
  if 1 < all.length && all.getLast? = some [] then all.dropLast else all

def endsInNumber (cs : List Char) : Bool :=
  match (labels cs).getLast? with
  | some label => (!label.isEmpty && label.all Char.isDigit) ||
      (("0x".toList.isPrefixOf label || "0X".toList.isPrefixOf label) && (part? label).isSome)
  | none => false

/-- Adds up the leading parts, each of one byte, and the last one, which fills the rest. -/
def sumParts (parts : List Nat) : Option Nat :=
  match parts.reverse with
  | [] => none
  | last :: front =>
    if parts.length ≤ 4 && front.all (· < 256) && last < Nat.pow 256 (5 - parts.length) then
      some (last + ((List.range front.length).zip front.reverse).foldl
        (fun sum p => sum + p.2 * Nat.pow 256 (3 - p.1)) 0)
    else none

def version4? (cs : List Char) : Option Host :=
  ((labels cs).mapM part?).bind fun parts => (sumParts parts).map version4

def piece? (cs : List Char) : Option Nat :=
  if cs.isEmpty || 4 < cs.length then none else numberIn? 16 cs

/-- A byte of an embedded address of version 4, without leading zeros. -/
def byte? (cs : List Char) : Option Nat :=
  if cs.isEmpty || 3 < cs.length || (1 < cs.length && cs.head? = some '0') then none
  else (numberIn? 10 cs).filter (· < 256)

/-- The two pieces of an embedded address of version 4. -/
def embedded? (cs : List Char) : Option (List Nat) := do
  match ← (Domain.cutAll '.' cs).mapM byte? with
  | [a, b, c, d] => some [a * 256 + b, c * 256 + d]
  | _ => none

/-- Pieces between colons; the last one may be an embedded address. -/
def pieces? : List (List Char) → Option (List Nat)
  | [] => some []
  | [last] => if last.contains '.' then embedded? last else (piece? last).map ([·])
  | p :: rest => do return (← piece? p) :: (← pieces? rest)

def cutPair : List Char → List Char × Option (List Char)
  | ':' :: ':' :: rest => ([], some rest)
  | c :: rest => let (before, after) := cutPair rest; (c :: before, after)
  | [] => ([], none)

def side? (cs : List Char) : Option (List Nat) :=
  if cs.isEmpty then some [] else pieces? (Domain.cutAll ':' cs)

/-- Reads an address of version 6. A pair of colons stands for at least one piece of zero. -/
def version6? (cs : List Char) : Option Host := do
  match cutPair cs with
  | (all, none) =>
    let ps ← side? all
    if ps.length = 8 then some (version6 ps) else none
  | (before, some after) =>
    let front ← if before.contains '.' then none else side? before
    let back ← side? after
    if front.length + back.length ≤ 7 then
      some (version6 (front ++ List.replicate (8 - front.length - back.length) 0 ++ back))
    else none

/-- Characters that end a host or have a meaning beside it. -/
def isReserved (c : Char) : Bool :=
  "#/:<>?@[\\]^|".toList.contains c

def isForbidden (c : Char) : Bool :=
  isReserved c || c = ' ' || c = '\t' || c = '\n' || c = '\r' || c.toNat = 0

def isForbiddenInName (c : Char) : Bool :=
  isReserved c || c = '%' || c.toNat ≤ 0x20 || c.toNat = 0x7F

/-- Reads a name, or an address of version 4. Escapes in it have to be those of a text. -/
def name? (cs : List Char) : Option Host := do
  let typed ← (Text.Utf8.decode (percentDecode cs)).toOption
  let ascii ← Domain.ascii? typed.toList
  if ascii.isEmpty || ascii.any isForbiddenInName then none
  else if endsInNumber ascii then version4? ascii
  else some (domain ascii)

def ofChars? (special : Bool) (cs : List Char) : Option Host :=
  match cs with
  | '[' :: rest => if rest.getLast? = some ']' then version6? rest.dropLast else none
  | _ =>
    if special then name? cs
    else if cs.any isForbidden then none
    else some (other (percentEncode keptRaw cs))

/-- Where the longest run of two or more zeros starts, and its length; the first one of several. -/
def longestZeros (ps : List Nat) : Nat × Nat :=
  let runAt (i : Nat) : Nat := ((ps.drop i).takeWhile (· = 0)).length
  (List.range ps.length).foldl
    (fun best i => if best.2 < runAt i && 1 < runAt i then (i, runAt i) else best) (0, 0)

def piecesText (ps : List Nat) : List Char :=
  [':'].intercalate (ps.map fun p => Nat.toDigits 16 p)

def version6Text (ps : List Nat) : List Char :=
  match longestZeros ps with
  | (_, 0) => piecesText ps
  | (start, length) =>
    piecesText (ps.take start) ++ [':', ':'] ++ piecesText (ps.drop (start + length))

def version4Text (n : Nat) : List Char :=
  ['.'].intercalate ([n / 16777216, n / 65536 % 256, n / 256 % 256, n % 256].map (Nat.toDigits 10))

def chars : Host → List Char
  | domain name => name
  | version4 n => version4Text n
  | version6 ps => ['['] ++ version6Text ps ++ [']']
  | other text => text

end Host

end TableExchange.Http
