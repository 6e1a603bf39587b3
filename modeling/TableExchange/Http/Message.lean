import TableExchange.Http.Url

/-!
Requests, responses, and what can keep a request from being answered.
-/

namespace TableExchange.Http

inductive Method
  | get
  | post
  | put
  | delete
deriving DecidableEq, Repr

def Method.text : Method → String
  | get => "GET"
  | post => "POST"
  | put => "PUT"
  | delete => "DELETE"

/-- What a request carries: nothing, a JSON text, or bytes that are sent piece by piece. -/
inductive Payload
  | none
  | json (text : String)
  | stream
deriving DecidableEq, Repr

def Payload.contentType : Payload → Option String
  | none => Option.none
  | json _ => some "application/json"
  | stream => some "application/octet-stream"

/-- A request. The token is the value of its authorization header; the login is the user part that
stood in its address. -/
structure Request where
  method : Method
  url : Url
  login : String
  token : Option String
  payload : Payload
deriving DecidableEq, Repr

/-- A response. The body is absent when it could not be read to its end. -/
structure Response where
  status : Nat
  requestId : Option String
  body : Option String
deriving DecidableEq, Repr

def isSuccess (status : Nat) : Bool :=
  200 ≤ status && status < 300

def reasonPhrases : List (Nat × String) :=
  [(100, "Continue"), (101, "Switching Protocols"), (102, "Processing"), (200, "OK"),
    (201, "Created"), (202, "Accepted"), (203, "Non Authoritative Information"),
    (204, "No Content"), (205, "Reset Content"), (206, "Partial Content"), (207, "Multi-Status"),
    (208, "Already Reported"), (226, "IM Used"), (300, "Multiple Choices"),
    (301, "Moved Permanently"), (302, "Found"), (303, "See Other"), (304, "Not Modified"),
    (305, "Use Proxy"), (307, "Temporary Redirect"), (308, "Permanent Redirect"),
    (400, "Bad Request"), (401, "Unauthorized"), (402, "Payment Required"), (403, "Forbidden"),
    (404, "Not Found"), (405, "Method Not Allowed"), (406, "Not Acceptable"),
    (407, "Proxy Authentication Required"), (408, "Request Timeout"), (409, "Conflict"),
    (410, "Gone"), (411, "Length Required"), (412, "Precondition Failed"),
    (413, "Payload Too Large"), (414, "URI Too Long"), (415, "Unsupported Media Type"),
    (416, "Range Not Satisfiable"), (417, "Expectation Failed"), (418, "I'm a teapot"),
    (421, "Misdirected Request"), (422, "Unprocessable Entity"), (423, "Locked"),
    (424, "Failed Dependency"), (425, "Too Early"), (426, "Upgrade Required"),
    (428, "Precondition Required"), (429, "Too Many Requests"),
    (431, "Request Header Fields Too Large"), (451, "Unavailable For Legal Reasons"),
    (500, "Internal Server Error"), (501, "Not Implemented"), (502, "Bad Gateway"),
    (503, "Service Unavailable"), (504, "Gateway Timeout"), (505, "HTTP Version Not Supported"),
    (506, "Variant Also Negotiates"), (507, "Insufficient Storage"), (508, "Loop Detected"),
    (510, "Not Extended"), (511, "Network Authentication Required")]

def reasonPhrase? (status : Nat) : Option String :=
  reasonPhrases.lookup status

def isHeaderValue (s : String) : Bool :=
  s.toList.all fun c => (32 ≤ c.toNat && c.toNat ≠ 127) || c = '\t'

/-- The text of a header that is read: visible ASCII, without the blanks around it. -/
def headerText? (s : String) : Option String :=
  let blank (c : Char) : Bool := c = ' ' || c = '\t'
  let cs := ((s.toList.dropWhile blank).reverse.dropWhile blank).reverse
  if cs.all fun c => (32 ≤ c.toNat && c.toNat < 127) || c = '\t' then some (String.ofList cs)
  else none

inductive Obstacle
  | unreachable
  | timedOut
  | brokenBody
  | closedEarly
deriving DecidableEq, Repr

end TableExchange.Http
