import TableExchange.Json.Shortest

/-!
Compact JSON text. Members keep their order, nothing is written between tokens, and texts escape
the quotation mark, the backslash and the control characters only.
-/

namespace TableExchange.Json

def hexDigit (n : Nat) : Char :=
  if n < 10 then Char.ofNat (48 + n) else Char.ofNat (87 + n)

/-- The characters that stand for one character inside a quoted text. -/
def escapeChar (c : Char) : List Char :=
  if c = '"' then ['\\', '"']
  else if c = '\\' then ['\\', '\\']
  else if c = '\n' then ['\\', 'n']
  else if c = '\r' then ['\\', 'r']
  else if c = '\t' then ['\\', 't']
  else if c.toNat = 8 then ['\\', 'b']
  else if c.toNat = 12 then ['\\', 'f']
  else if c.toNat < 32 then ['\\', 'u', '0', '0', hexDigit (c.toNat / 16), hexDigit (c.toNat % 16)]
  else [c]

def quoteChars (s : String) : List Char :=
  '"' :: s.toList.flatMap escapeChar ++ ['"']

mutual

/-- The characters of a value's compact text. -/
def renderChars : Json → List Char
  | .null => "null".toList
  | .bool true => "true".toList
  | .bool false => "false".toList
  | .integer n => (toString n).toList
  | .decimal d => (decimalText d).toList
  | .string s => quoteChars s
  | .array items => '[' :: renderItems items ++ [']']
  | .object members => '{' :: renderMembers members ++ ['}']
  | .broken => "null".toList

def renderItems : List Json → List Char
  | [] => []
  | [j] => renderChars j
  | j :: rest => renderChars j ++ ',' :: renderItems rest

def renderMembers : List (String × Json) → List Char
  | [] => []
  | [(name, j)] => quoteChars name ++ ':' :: renderChars j
  | (name, j) :: rest => quoteChars name ++ ':' :: renderChars j ++ ',' :: renderMembers rest

end

def render (j : Json) : String :=
  String.ofList (renderChars j)

end TableExchange.Json
