import TableExchange.Http.Domain.MappingTable
import TableExchange.Text.Lowercase

/-!
What a character of a domain name becomes. Characters that become themselves are the ones of which
names consist in the end.
-/

namespace TableExchange.Http.Domain

def holds (c : Char) (range : Nat × Nat) : Bool :=
  range.1 ≤ c.toNat && c.toNat ≤ range.2

def replacement? (c : Char) : Option Nat :=
  let n := c.toNat
  replacedSymbols.lookup n <|> replacedIdeographs.lookup n <|> replacedForms.lookup n <|>
    replacedLetters.lookup n <|> replacedVariants.lookup n

def spelling? (c : Char) : Option (List Nat) :=
  let n := c.toNat
  spelledSymbols.lookup n <|> spelledWords.lookup n <|> spelledLigatures.lookup n <|>
    spelledNumbers.lookup n

/-- The small form of a letter. The small forms of the older Cherokee letters are no part of names:
there the capital ones stay. -/
def smallForm (c : Char) : List Char :=
  if 0x13A0 ≤ c.toNat && c.toNat ≤ 0x13F5 then [c] else Text.lowerChar c

def changed (c : Char) : List Char :=
  match movedRanges.find? fun r => holds c (r.1, r.2.1) with
  | some r => [Char.ofNat (r.2.2 + (c.toNat - r.1))]
  | none =>
    match replacement? c, spelling? c with
    | some n, _ => [Char.ofNat n]
    | none, some ns => ns.map Char.ofNat
    | none, none => smallForm c

def mapped? (c : Char) : Option (List Char) :=
  if c.toNat < 0x80 then some [c.toLower]
  else if ignoredRanges.any (holds c) then some []
  else
    let cs := changed c
    if cs = [c] && disallowedRanges.any (holds c) then none else some cs

def isPlain (c : Char) : Bool :=
  mapped? c = some [c]

def mappedText? (cs : List Char) : Option (List Char) :=
  (cs.mapM mapped?).map List.flatten

end TableExchange.Http.Domain
