/-!
Schemes of addresses. Those of the web need a host, take a backslash for a slash, and leave out
their usual port; so do files, except that they need no host and have no port.
-/

namespace TableExchange.Http.Url

/-- What a scheme means for the rest of an address. -/
inductive SchemeKind
  | web (usualPort : Nat)
  | file
  | general
deriving DecidableEq, Repr

/-- The part before the first character with a property, and the part from there on. -/
def cutAt (stop : Char → Bool) (cs : List Char) : List Char × List Char :=
  (cs.takeWhile fun c => !stop c, cs.dropWhile fun c => !stop c)

def SchemeKind.ofChars (scheme : List Char) : SchemeKind :=
  match String.ofList scheme with
  | "http" => .web 80
  | "https" => .web 443
  | "ws" => .web 80
  | "wss" => .web 443
  | "ftp" => .web 21
  | "file" => .file
  | _ => .general

/-- Whether a backslash counts as a slash. -/
def SchemeKind.isSpecial (kind : SchemeKind) : Bool :=
  kind ≠ .general

/-- The port that an address leaves out. -/
def SchemeKind.usualPort? : SchemeKind → Option Nat
  | .web port => some port
  | _ => none

/-- Whether a character separates the segments of a path. -/
def SchemeKind.isSlash (kind : SchemeKind) (c : Char) : Bool :=
  c = '/' || (kind.isSpecial && c = '\\')

def SchemeKind.endsAuthority (kind : SchemeKind) (c : Char) : Bool :=
  kind.isSlash c || c = '?' || c = '#'

def isSchemeChar (c : Char) : Bool :=
  c.isAlphanum || c = '+' || c = '-' || c = '.'

/-- The scheme in small letters, and what follows its colon. -/
def scheme? (cs : List Char) : Option (List Char × List Char) :=
  match cutAt (· = ':') cs with
  | (c :: name, _ :: rest) =>
    if c.isAlpha && name.all isSchemeChar then some ((c :: name).map Char.toLower, rest) else none
  | _ => none

end TableExchange.Http.Url
