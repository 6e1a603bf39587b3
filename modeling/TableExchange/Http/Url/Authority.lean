import TableExchange.Http.Host
import TableExchange.Http.Url.Scheme

/-!
Authorities of addresses: who asks, which host, and which port.
-/

namespace TableExchange.Http.Url

structure Credentials where
  user : List Char := []
  password : Option (List Char) := none
deriving DecidableEq, Repr

structure Authority where
  credentials : Credentials
  host : Option Host
  port : Option Nat
deriving DecidableEq, Repr

def Credentials.isEmpty (c : Credentials) : Bool :=
  c.user.isEmpty && c.password.isNone

/-- Reads user and password, which the first colon separates. An empty password counts as none. -/
def Credentials.ofChars (cs : List Char) : Credentials :=
  match cutAt (· = ':') cs with
  | (user, _ :: c :: rest) =>
    ⟨percentEncode keptInUser user, some (percentEncode keptInUser (c :: rest))⟩
  | (user, _) => ⟨percentEncode keptInUser user, none⟩

def Credentials.chars (c : Credentials) : List Char :=
  if c.isEmpty then []
  else c.user ++ (match c.password with
    | some p => ':' :: p
    | none => []) ++ ['@']

/-- What precedes the last at-sign, if there is one, and what follows it. -/
def cutUser (cs : List Char) : Option (List Char) × List Char :=
  match cs.reverse.dropWhile (· ≠ '@') with
  | [] => (none, cs)
  | _ :: before => (some before.reverse, (cs.reverse.takeWhile (· ≠ '@')).reverse)

/-- Reads who asks, and tells what follows. An at-sign alone needs a place after it. -/
def credentials? (kind : SchemeKind) (cs : List Char) : Option (Credentials × List Char) :=
  let (front, back) := cutAt kind.endsAuthority cs
  match cutUser front with
  | (none, _) => some ({}, cs)
  | (some [], place) => if place.isEmpty && !back.isEmpty then none else some ({}, place ++ back)
  | (some text, place) => some (Credentials.ofChars text, place ++ back)

/-- The text of a host, and what follows it. A colon in brackets does not end it. -/
def cutHost (kind : SchemeKind) (bracketed : Bool) : List Char → List Char × List Char
  | [] => ([], [])
  | c :: rest =>
    if kind.endsAuthority c || (c = ':' && !bracketed) then ([], c :: rest)
    else
      let (text, after) := cutHost kind (c = '[' || (bracketed && c ≠ ']')) rest
      (c :: text, after)

/-- Reads a port after its colon, and tells what follows. It is absent if it is empty or usual. -/
def port? (kind : SchemeKind) (cs : List Char) : Option (Option Nat × List Char) :=
  let (digits, rest) := cutAt (fun c => c = '/' || c = '\\' || c = '?' || c = '#') cs
  let n := digits.foldl (fun n c => n * 10 + (c.toNat - 48)) 0
  if !digits.all Char.isDigit || 65535 < n then none
  else some (if digits.isEmpty || kind.usualPort? = some n then none else some n, rest)

/-- Reads an authority, and tells what follows. Without a host there is neither user nor port, and
the addresses of the web need a host. -/
def authority? (kind : SchemeKind) (cs : List Char) : Option (Authority × List Char) := do
  let (credentials, rest) ← credentials? kind cs
  let (text, rest) := cutHost kind false rest
  let (port, rest) ← match rest with
    | ':' :: digits => if text.isEmpty then none else port? kind digits
    | _ => some (none, rest)
  if text.isEmpty then
    if kind.isSpecial || !credentials.isEmpty then none else some (⟨credentials, none, port⟩, rest)
  else some (⟨credentials, some (← Host.ofChars? kind.isSpecial text), port⟩, rest)

def Authority.chars (a : Authority) : List Char :=
  a.credentials.chars ++ (match a.host with
    | some h => h.chars
    | none => []) ++ (match a.port with
    | some n => ':' :: Nat.toDigits 10 n
    | none => [])

end TableExchange.Http.Url
