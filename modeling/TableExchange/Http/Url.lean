import TableExchange.Http.Url.Authority
import TableExchange.Http.Url.Path

/-!
Absolute addresses: reading them from text, with all their spellings, and writing them in one
normal form.
-/

namespace TableExchange.Http

/-- An absolute address. Without an authority the path is the text after the scheme. -/
structure Url where
  scheme : List Char
  authority : Option Url.Authority := none
  path : List Char := []
  query : Option (List Char) := none
  fragment : Option (List Char) := none
deriving DecidableEq, Repr

namespace Url

def Authority.ofHost (host : Option Host) : Authority :=
  { credentials := {}, host, port := none }

def endsPath (c : Char) : Bool :=
  c = '?' || c = '#'

/-- Reads the place of a file after the two slashes before it: a host, which may be this one, or a
drive at once. -/
def filePlace? (cs : List Char) : Option (Option Host × PathProgress) := do
  let (text, rest) := cutAt SchemeKind.file.endsAuthority cs
  if isDriveLetter text then return (none, pathFrom .file ['/'] cs)
  if text.isEmpty then return (none, pathFrom .file ['/'] rest)
  let host ← Host.ofChars? true text
  if host = .domain "localhost".toList then return (none, pathFrom .file ['/'] rest)
  let path := pathAfterHost .file rest
  return (if path.isDrive then none else some host, path)

/-- Reads the address of a file after the scheme's colon. -/
def file? (scheme cs : List Char) : Option Url := do
  let (host, path) ← match cs with
    | a :: b :: rest =>
      if SchemeKind.file.isSlash a && SchemeKind.file.isSlash b then filePlace? rest
      else some (none, pathFrom .file (if SchemeKind.file.isSlash a then [] else ['/']) cs)
    | _ => some (none, pathFrom .file ['/'] cs)
  return { scheme, authority := some (Authority.ofHost host), path := path.text }

/-- Reads authority and path, and tells what follows them. -/
def withAuthority? (kind : SchemeKind) (scheme cs : List Char) : Option (Url × List Char) := do
  let (authority, rest) ← authority? kind cs
  let (path, rest) := cutAt endsPath rest
  return ({ scheme, authority, path := (pathAfterHost kind path).text }, rest)

/-- Reads all of an address up to its query. -/
def hierarchy? (scheme cs : List Char) : Option (Url × List Char) :=
  let kind := SchemeKind.ofChars scheme
  let (path, rest) := cutAt endsPath cs
  match kind, cs with
  | .web _, _ => withAuthority? kind scheme (cs.dropWhile kind.isSlash)
  | .file, _ => (file? scheme path).map fun u => (u, rest)
  | .general, '/' :: '/' :: after => withAuthority? kind scheme after
  | .general, '/' :: _ => some ({ scheme, path := (pathFrom kind ['/'] (path.drop 1)).text }, rest)
  | .general, _ => some ({ scheme, path := percentEncode keptRaw path }, rest)

/-- Control characters and spaces at the two ends, and tabs and line ends anywhere, do not count. -/
def cleaned (cs : List Char) : List Char :=
  let blank (c : Char) : Bool := c.toNat ≤ 0x20
  (((cs.dropWhile blank).reverse.dropWhile blank).reverse).filter fun c =>
    c ≠ '\t' ∧ c ≠ '\n' ∧ c ≠ '\r'

def afterMark : List Char → Option (List Char)
  | [] => none
  | _ :: rest => some rest

def ofString? (s : String) : Option Url := do
  let (scheme, rest) ← scheme? (cleaned s.toList)
  let (u, rest) ← hierarchy? scheme rest
  let (query, fragment) := cutAt (· = '#') rest
  let special := (SchemeKind.ofChars scheme).isSpecial
  return { u with
    query := (afterMark query).map (percentEncode (keptInQuery special))
    fragment := (afterMark fragment).map (percentEncode keptInFragment) }

def withPairs (u : Url) (pairs : List (String × String)) : Url :=
  match u.query with
  | some q => { u with query := some (q ++ (if q.isEmpty then [] else ['&']) ++ formPairs pairs) }
  | none => { u with query := some (formPairs pairs) }

/-- Leaves out who asks. -/
def withoutUser (u : Url) : Url :=
  { u with authority := u.authority.map fun a => { a with credentials := {} } }

def userText (u : Url) : List Char :=
  match u.authority with
  | some a => a.credentials.chars
  | none => []

/-- The text of authority and path. Without an authority, a path that starts like one gets a
segment for this place in front. -/
def placeText (u : Url) : List Char :=
  match u.authority with
  | some a => ['/', '/'] ++ a.chars ++ u.path
  | none => if ['/', '/'].isPrefixOf u.path then ['/', '.'] ++ u.path else u.path

def markedText (mark : Char) : Option (List Char) → List Char
  | some cs => mark :: cs
  | none => []

def text (u : Url) : String :=
  String.ofList (u.scheme ++ [':'] ++ u.placeText ++ markedText '?' u.query ++
    markedText '#' u.fragment)

def hasPlainHost (u : Url) : Bool :=
  match u.authority.bind (·.host) with
  | some (.domain name) => name.all fun c => c.isAlphanum || "!$&'()*+,-.;=_~".toList.contains c
  | some (.other _) => false
  | some _ => true
  | none => false

end Url

end TableExchange.Http
