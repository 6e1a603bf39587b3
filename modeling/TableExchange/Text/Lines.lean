/-!
The lines of a text. A line ends at a line feed, a carriage return directly before that line feed
belongs to the ending, and a text that ends with a line feed has no empty line after it.
-/

namespace TableExchange.Text

/-- Cuts at every line feed; the flag says whether a line feed closed the piece. -/
def closedPieces : List Char → List Char → List (List Char × Bool)
  | acc, [] => if acc.isEmpty then [] else [(acc.reverse, false)]
  | acc, c :: rest =>
    if c = '\n' then (acc.reverse, true) :: closedPieces [] rest
    else closedPieces (c :: acc) rest

/-- A closed piece loses the carriage return that stands directly before its line feed. -/
def withoutReturn : List Char × Bool → List Char
  | (cs, true) => if cs.getLast? = some '\r' then cs.dropLast else cs
  | (cs, false) => cs

def lines (s : String) : List String :=
  (closedPieces [] s.toList).map fun piece => String.ofList (withoutReturn piece)

/-- Joins texts with one line feed between neighbours. -/
def joinLines (ls : List String) : String :=
  "\n".intercalate ls

end TableExchange.Text
