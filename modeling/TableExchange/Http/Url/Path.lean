import TableExchange.Http.Percent
import TableExchange.Http.Url.Scheme

/-!
Paths of addresses. A path is read segment by segment onto the text that is there already; the
segments for this place and its parent are resolved on the way. Drive letters at the head of a
path are kept: a parent segment does not leave the drive.
-/

namespace TableExchange.Http.Url

/-- A segment of a path as it is read: its text, and whether a slash follows. -/
structure Segment where
  text : List Char
  closed : Bool
deriving DecidableEq, Repr

def segments (kind : SchemeKind) : List Char → List Segment
  | [] => [⟨[], false⟩]
  | c :: rest =>
    if kind.isSlash c then ⟨[], true⟩ :: segments kind rest
    else match segments kind rest with
      | [] => [⟨[c], false⟩]
      | piece :: pieces => { piece with text := c :: piece.text } :: pieces

/-- The text of a segment in which the escaped dot counts as a dot. -/
def undotted : List Char → List Char
  | '%' :: '2' :: e :: rest =>
    if e = 'e' ∨ e = 'E' then '.' :: undotted rest else '%' :: '2' :: e :: undotted rest
  | c :: rest => c :: undotted rest
  | [] => []

/-- Whether a segment names a drive, with a colon or a bar. -/
def isDriveLetter : List Char → Bool
  | [letter, colon] => letter.isAlpha && (colon = ':' || colon = '|')
  | _ => false

def upToSlash (text : List Char) : List Char :=
  (text.reverse.dropWhile (· ≠ '/')).reverse

def afterSlash (text : List Char) : List Char :=
  (text.reverse.takeWhile (· ≠ '/')).reverse

def endsInSlash (text : List Char) : Bool :=
  text.getLast? = some '/'

/-- A path while it is read: what is there, and whether a drive took the place of the host. -/
structure PathProgress where
  text : List Char
  isDrive : Bool := false
deriving DecidableEq, Repr

/-- Whether a segment starts with the name of a drive, up to a slash of either kind. -/
def startsWithDrive (segment : List Char) : Bool :=
  isDriveLetter (segment.take 2) && (segment.length = 2 || segment[2]? = some '\\')

/-- Leaves out the slash at the end, unless it is the first one or follows a drive. -/
def withoutSlash (text : List Char) : List Char :=
  let front := text.dropLast
  if endsInSlash text && front.contains '/' && !startsWithDrive (afterSlash front) then front
  else text

/-- Leaves out the last segment. The drive of a file is no segment. -/
def withoutLast (kind : SchemeKind) (text : List Char) : List Char :=
  let segment := afterSlash text
  if kind = .file && isDriveLetter segment && segment.getLast? = some ':' then text
  else upToSlash text

def slashed (text : List Char) : List Char :=
  if endsInSlash text then text else text ++ ['/']

def addSegment (kind : SchemeKind) (p : PathProgress) (s : Segment) : PathProgress :=
  let slash := if s.closed then ['/'] else []
  let dots := undotted s.text
  if dots = ['.', '.'] then
    let text := withoutLast kind (withoutSlash p.text)
    { p with text := if s.closed then slashed text else text }
  else if dots = ['.'] then { p with text := slashed p.text }
  else if kind = .file && p.text.length = 1 && isDriveLetter s.text then
    { text := p.text ++ s.text.take 1 ++ [':'] ++ slash, isDrive := true }
  else { p with text := p.text ++ percentEncode keptInPath s.text ++ slash }

/-- Reads a path onto the text that is there already. The path of a file has one leading slash. -/
def pathFrom (kind : SchemeKind) (start cs : List Char) : PathProgress :=
  let p := (segments kind cs).foldl (addSegment kind) { text := start }
  if kind = .file then { p with text := '/' :: p.text.dropWhile (· = '/') } else p

def pathAfterHost (kind : SchemeKind) (cs : List Char) : PathProgress :=
  match cs with
  | [] => pathFrom kind (if kind.isSpecial then ['/'] else []) []
  | c :: rest => pathFrom kind ['/'] (if kind.isSlash c then rest else cs)

theorem upToSlash_append_afterSlash (text : List Char) :
    upToSlash text ++ afterSlash text = text := by
  unfold upToSlash afterSlash
  rw [← List.reverse_append, List.takeWhile_append_dropWhile, List.reverse_reverse]

end TableExchange.Http.Url
