import CloudReconciler.Effect.Procedure
import CloudReconciler.Http.Url
import CloudReconciler.Json.Reader

/-! # The wire — requests as they are sent and replies as they come back

    A draft becomes a request when its address has a host, its headers can
    be sent and its scheme is one that is served.  A request that was sent
    has a reply unless the connection failed. -/

namespace CloudReconciler.Http

/-- A request before it has been checked. -/
structure Draft where
  method : String
  url : String
  headers : List (String × String) := []
  body : Option (List UInt8) := none

/-- A request that can be sent. -/
structure WireRequest where
  method : String
  url : Url
  headers : List (String × String)
  body : List UInt8
  deriving DecidableEq, Repr

/-- A reply; it is incomplete when the connection ended inside its body. -/
structure WireReply where
  status : UInt16
  body : List UInt8
  isComplete : Bool := true
  deriving DecidableEq, Repr

/-- Calls of the wire; a failed connection has no reply. -/
def WireCalls : Interface where
  Call := WireRequest
  Reply _ := Option WireReply

/-- Why there is no readable reply. -/
inductive WireFault where
  /-- The draft cannot be sent. -/
  | unbuilt (url : Option String)
  /-- The connection failed. -/
  | unsent (url : String)
  /-- The body is incomplete or is not the expected document. -/
  | undecoded
  deriving DecidableEq, Repr

/-- The wording of a wire fault. -/
def WireFault.text : WireFault → String
  | .unbuilt none => "builder error"
  | .unbuilt (some url) => "builder error for url (" ++ url ++ ")"
  | .unsent url => "error sending request for url (" ++ url ++ ")"
  | .undecoded => "error decoding response body"

/-! ## Requests -/

/-- A character of a header's name. -/
def isTokenChar (c : Char) : Bool :=
  c.isAlphanum || c ∈ "!#$%&'*+-.^_\x60|~".toList

/-- The name of a header can be sent. -/
def isHeaderName (s : String) : Bool := s ≠ "" && s.toList.all isTokenChar

/-- The value of a header can be sent. -/
def isHeaderValue (s : String) : Bool :=
  s.toList.all fun c => (' ' ≤ c && c != '\x7f') || c == '\t'

/-- The user and password of an address, where the user is a text; a password that is none does
    not count. -/
def Authority.credentials? (a : Authority) : Option (String × Option String) := do
  let plain? (s : String) : Option String := Utf8.decode? (percentDecode s.toList)
  let user ← plain? a.user
  let password := a.password.bind plain?
  if user = "" ∧ password = none then none else some (user, password)

/-- The header that carries a user and password. -/
def basicAuthorization (user : String) (password : Option String) : String × String :=
  let credentials := Utf8.encode (user ++ ":" ++ password.getD "")
  ("authorization", "Basic " ++ String.ofList (base64 credentials))

/-- The address without user and password, and the header that carries them instead. -/
def withoutCredentials (url : Url) : Url × List (String × String) :=
  match url.authority.bind Authority.credentials? with
  | none => (url, [])
  | some (user, password) =>
      ({ url with authority := url.authority.map fun a => { a with user := "", password := none } },
        [basicAuthorization user password])

/-- The longest address that is sent. -/
def longestAddress : Nat := 65534

/-- The address can be sent: its host has no quotes and braces, and it is not too long. -/
def isSendable (url : Url) : Bool :=
  url.text.length ≤ longestAddress &&
    url.authority.all fun a => !a.host.toList.any (· ∈ ['"', '\x60', '\x7b', '\x7d'])

namespace Draft

/-- The request of a draft.  User and password move from the address to a header, and whatever is
    not said otherwise is accepted. -/
def build (d : Draft) : Except WireFault WireRequest :=
  match Url.read? d.url with
  | none => .error (.unbuilt none)
  | some url =>
      if !url.hasHost then .error (.unbuilt (some url.text))
      else
        let (bare, credentials) := withoutCredentials url
        if !d.headers.all fun (name, value) => isHeaderName name && isHeaderValue value then
          .error (.unbuilt none)
        else if !(bare.scheme = "http" || bare.scheme = "https") || !isSendable bare then
          .error (.unbuilt (some bare.text))
        else
          let headers := d.headers.map fun (name, value) => (name.map Char.toLower, value)
          let accept := if headers.any (·.1 == "accept") then [] else [("accept", "*/*")]
          .ok
            { method := d.method
              url := bare
              headers := credentials ++ headers ++ accept
              body := d.body.getD [] }

/-- Sends a draft. -/
def send (d : Draft) : Procedure WireCalls (Except WireFault WireReply) :=
  match d.build with
  | .error f => .done (.error f)
  | .ok request =>
      .call request fun
        | some reply => .done (.ok reply)
        | none => .done (.error (.unsent request.url.text))

end Draft

/-! ## Replies -/

namespace WireReply

/-- The status says that the request succeeded. -/
def isSuccess (r : WireReply) : Bool := 200 ≤ r.status && r.status < 300

/-- The body. -/
def bytes (r : WireReply) : Except WireFault (List UInt8) :=
  if r.isComplete then .ok r.body else .error .undecoded

/-- The body as text; an incomplete body is read as nothing. -/
def bodyText (r : WireReply) : String := if r.isComplete then Utf8.decodeLossy r.body else ""

/-- The value that the body describes. -/
def decode {α : Type} (decode? : Json → Option α) (r : WireReply) : Except WireFault α :=
  match (if r.isComplete then Json.ofBytes? r.body else none).bind decode? with
  | some a => .ok a
  | none => .error .undecoded

end WireReply

/-- The standard reasons of statuses. -/
def reasons : List (UInt16 × String) :=
  [(100, "Continue"), (101, "Switching Protocols"), (102, "Processing"), (103, "Early Hints"),
    (200, "OK"), (201, "Created"), (202, "Accepted"), (203, "Non Authoritative Information"),
    (204, "No Content"), (205, "Reset Content"), (206, "Partial Content"), (207, "Multi-Status"),
    (208, "Already Reported"), (226, "IM Used"), (300, "Multiple Choices"),
    (301, "Moved Permanently"), (302, "Found"), (303, "See Other"), (304, "Not Modified"),
    (305, "Use Proxy"), (307, "Temporary Redirect"), (308, "Permanent Redirect"),
    (400, "Bad Request"), (401, "Unauthorized"), (402, "Payment Required"), (403, "Forbidden"),
    (404, "Not Found"), (405, "Method Not Allowed"), (406, "Not Acceptable"),
    (407, "Proxy Authentication Required"), (408, "Request Timeout"), (409, "Conflict"),
    (410, "Gone"), (411, "Length Required"), (412, "Precondition Failed"),
    (413, "Payload Too Large"), (414, "URI Too Long"), (415, "Unsupported Media Type"),
    (416, "Range Not Satisfiable"), (417, "Expectation Failed"), (418, "I'm a teapot"),
    (421, "Misdirected Request"), (422, "Unprocessable Entity"), (423, "Locked"),
    (424, "Failed Dependency"), (425, "Too Early"), (426, "Upgrade Required"),
    (428, "Precondition Required"), (429, "Too Many Requests"),
    (431, "Request Header Fields Too Large"), (451, "Unavailable For Legal Reasons"),
    (500, "Internal Server Error"), (501, "Not Implemented"), (502, "Bad Gateway"),
    (503, "Service Unavailable"), (504, "Gateway Timeout"), (505, "HTTP Version Not Supported"),
    (506, "Variant Also Negotiates"), (507, "Insufficient Storage"), (508, "Loop Detected"),
    (510, "Not Extended"), (511, "Network Authentication Required")]

/-- A status with its standard reason. -/
def statusText (status : UInt16) : String :=
  toString status.toNat ++ " " ++
    ((reasons.find? (·.1 == status)).map Prod.snd).getD "<unknown status code>"

end CloudReconciler.Http
