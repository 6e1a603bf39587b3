/-!
The UTF-8 encoding form. Decoding either accepts all bytes, or tells where the first ill-formed
sequence starts and how many bytes it spans; mending puts a replacement character there instead.
-/

namespace TableExchange.Text.Utf8

def encode (s : String) : List UInt8 :=
  s.toUTF8.toList

/-- Where decoding stops. A span is absent when the bytes end inside a sequence. -/
structure Flaw where
  start : Nat
  span : Option Nat
deriving DecidableEq, Repr

def Flaw.message (flaw : Flaw) : String :=
  match flaw.span with
  | some n => s!"invalid utf-8 sequence of {n} bytes from index {flaw.start}"
  | none => s!"incomplete utf-8 byte sequence from index {flaw.start}"

/-- What stands at the head of a byte string. -/
inductive Head
  | done
  | char (c : Char) (width : Nat)
  | bad (span : Nat)
  | cut
deriving DecidableEq, Repr

def isTail (b : UInt8) : Bool :=
  0x80 ≤ b && b ≤ 0xBF

/-- The second bytes that may follow a lead byte of three or four: they leave out overlong forms,
surrogates and numbers above the last character. -/
def secondFits (lead second : UInt8) : Bool :=
  if lead = 0xE0 then 0xA0 ≤ second && second ≤ 0xBF
  else if lead = 0xED then 0x80 ≤ second && second ≤ 0x9F
  else if lead = 0xF0 then 0x90 ≤ second && second ≤ 0xBF
  else if lead = 0xF4 then 0x80 ≤ second && second ≤ 0x8F
  else isTail second

def tailBits (b : UInt8) : Nat :=
  b.toNat % 64

def head : List UInt8 → Head
  | [] => .done
  | a :: rest =>
    if a < 0x80 then .char (Char.ofNat a.toNat) 1
    else if a < 0xC2 || 0xF4 < a then .bad 1
    else if a < 0xE0 then
      match rest with
      | [] => .cut
      | b :: _ =>
        if isTail b then .char (Char.ofNat (a.toNat % 32 * 64 + tailBits b)) 2 else .bad 1
    else if a < 0xF0 then
      match rest with
      | [] => .cut
      | [b] => if secondFits a b then .cut else .bad 1
      | b :: c :: _ =>
        if !secondFits a b then .bad 1
        else if !isTail c then .bad 2
        else .char (Char.ofNat (a.toNat % 16 * 4096 + tailBits b * 64 + tailBits c)) 3
    else
      match rest with
      | [] => .cut
      | [b] => if secondFits a b then .cut else .bad 1
      | [b, c] => if !secondFits a b then .bad 1 else if isTail c then .cut else .bad 2
      | b :: c :: d :: _ =>
        if !secondFits a b then .bad 1
        else if !isTail c then .bad 2
        else if !isTail d then .bad 3
        else .char
          (Char.ofNat (a.toNat % 8 * 262144 + tailBits b * 4096 + tailBits c * 64 + tailBits d)) 4

/-- Decodes at most `fuel` sequences; `start` counts the bytes already read. -/
def decodeFrom : Nat → Nat → List UInt8 → Except Flaw (List Char)
  | 0, _, _ => .ok []
  | fuel + 1, start, bytes =>
    match head bytes with
    | .done => .ok []
    | .char c width => (decodeFrom fuel (start + width) (bytes.drop width)).map (c :: ·)
    | .bad span => .error ⟨start, some span⟩
    | .cut => .error ⟨start, none⟩

def decode (bytes : List UInt8) : Except Flaw String :=
  (decodeFrom bytes.length 0 bytes).map String.ofList

/-- Decodes at most `fuel` sequences with a replacement character for each flaw. -/
def mendFrom : Nat → List UInt8 → List Char
  | 0, _ => []
  | fuel + 1, bytes =>
    match head bytes with
    | .done => []
    | .char c width => c :: mendFrom fuel (bytes.drop width)
    | .bad span => Char.ofNat 0xFFFD :: mendFrom fuel (bytes.drop span)
    | .cut => [Char.ofNat 0xFFFD]

/-- The text that bytes encode, each flaw replaced. -/
def mend (bytes : List UInt8) : String :=
  String.ofList (mendFrom bytes.length bytes)

end TableExchange.Text.Utf8
