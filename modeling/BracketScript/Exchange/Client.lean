import BracketScript.Exchange
import BracketScript.Exchange.Url

/-!
# Sending requests

How a request goes out over connections and what comes of the replies. Each connection carries one
request and one reply; a reply may send the client on to another place. Which replies there are is
given beforehand, one for each connection that is accepted.

## Main definitions

* `Reply`: what a server sends back on a connection
* `Arrival`: a request as a server receives it
* `Client.Refusal`: why there is no reply
* `Client.exchange`: the reply to a request, after redirections
* `Client.send`: what becomes of a request, and what the server receives
-/

namespace BracketScript

/-- What a server sends back on a connection. -/
structure Reply where
  /-- The status code. -/
  status : Nat
  /-- The header fields. -/
  headers : List (String × String)
  /-- The bytes after the head, before the connection is closed. -/
  body : Bytes
  /-- How many bytes the head announces. -/
  length : Nat
  deriving Repr, Inhabited

/-- A request as a server receives it. -/
structure Arrival where
  /-- What is asked for. -/
  method : String
  /-- What it is asked of. -/
  target : String
  /-- The header fields that tell something about this request. -/
  headers : List (String × String)
  /-- The body. -/
  body : Bytes
  deriving Repr, Inhabited

namespace Client

/-- Why there is no reply. -/
inductive Refusal where
  | badHeader (name value : String)
  | badUrl (fault : UrlFault)
  | unknownScheme (url : Url)
  /-- Nobody accepts a connection. -/
  | refused (url : Url)
  | tooManyRedirects (url : Url)
  deriving Repr

/-- How many times in a row a client may be sent on. -/
def maxRedirects : Nat := 4

/-- The wording of a refusal. -/
def Refusal.message : Refusal → String
  | badHeader name value => "Bad Header: invalid header '" ++ name ++ ": " ++ value ++ "'"
  | badUrl fault => "Bad URL: failed to parse URL: " ++ fault.message
  | unknownScheme url => url.text ++ ": Unknown Scheme: unknown scheme '" ++ url.scheme ++ "'"
  | refused url =>
    url.text ++ ": Connection Failed: Connect error: Connection refused (os error 111)"
  | tooManyRedirects url =>
    url.text ++ ": Too Many Redirects: reached max redirects (" ++
      Text.natText (maxRedirects + 1) ++ ")"

/-- A text in lower case, as far as ASCII goes. -/
def lower (s : String) : String := String.ofList (s.toList.map Text.asciiLower)

/-- A character of the name of a header field. -/
def isTokenChar (c : Char) : Bool :=
  Text.isAsciiLetter c || Text.isAsciiDigit c || "!#$%&*+-.^_`|~\x27".toList.contains c

/-- A header field that can be sent: its name is a token and its value is a line of ASCII. -/
def isField (field : String × String) : Bool :=
  !field.1.isEmpty && field.1.toList.all isTokenChar &&
    field.2.toList.all fun c => c == '\t' || (0x20 ≤ c.toNat && c.toNat ≤ 0x7e)

/-- There is a header field of the given name, which is in lower case. -/
def hasField (name : String) (fields : List (String × String)) : Bool :=
  fields.any fun field => lower field.1 == name

/-- The fields with one more, unless there is one of that name. -/
def withField (name value : String) (fields : List (String × String)) : List (String × String) :=
  if hasField name fields then fields else (name, value) :: fields

/-- The fields that are no longer sent after a redirection: the length of the body, and what proves
who is asking. -/
def isDropped (field : String × String) : Bool :=
  ["content-length", "cookie", "authorization"].contains (lower field.1)

/-- The fields that every client sends, whatever the request. -/
def isUsual (field : String × String) : Bool :=
  ["host", "user-agent", "accept", "accept-encoding"].contains (lower field.1)

/-- Fields in order. -/
def inOrder (fields : List (String × String)) : List (String × String) :=
  fields.mergeSort fun a b => a.1 < b.1 || (a.1 == b.1 && a.2 ≤ b.2)

/-- A request as it arrives. -/
def arrival (method target : String) (fields : List (String × String)) (body : Bytes) :
    Arrival where
  method
  target
  headers := inOrder ((fields.filter fun field => !isUsual field).map fun field =>
    (lower field.1, Text.trim field.2))
  body

/-- The place that a reply sends the client on to: a text relative to the place it came from. -/
def location? (reply : Reply) : Option String :=
  (reply.headers.find? fun field => lower field.1 == "location").map Prod.snd

/-- The client may follow a reply to a request: a request with a body is not sent twice. -/
def isFollowed (method : String) (status : Nat) : Bool :=
  [301, 302, 303].contains status || ([307, 308].contains status && method == "GET")

/-- Sends a request over a connection for each of the replies until one of them does not send the
client on; `count` redirections may follow. The refusals name the address `first`. -/
def exchange (first : Url) :
    Nat → List Reply → Url → String → List (String × String) → Bytes →
      Except Refusal Reply × List Arrival
  | _, [], _, _, _, _ => (.error (.refused first), [])
  | count, reply :: replies, url, method, fields, body =>
    let sent := arrival method url.target fields body
    if reply.status < 300 ∨ 398 < reply.status then (.ok reply, [sent])
    else match count, location? reply with
      | 0, _ => (.error (.tooManyRedirects first), [sent])
      | _, none => (.ok reply, [sent])
      | count + 1, some location =>
        if isFollowed method reply.status then
          match url.resolve location with
          | .error fault => (.error (.badUrl fault), [sent])
          | .ok next =>
            let (result, later) := exchange first count replies next "GET"
              (fields.filter fun field => !isDropped field) []
            (result, sent :: later)
        else (.ok reply, [sent])

/-- The body of a reply, unless the connection was closed too early. -/
def bodyOf? (reply : Reply) : Option String :=
  if reply.status = 204 ∨ reply.status = 304 then some ""
  else if reply.body.length < reply.length then none
  else some (Bytes.toStringLossy (reply.body.take reply.length))

/-- The header fields and the bytes that a request is sent with. -/
def payload (request : Request) : List (String × String) × Bytes :=
  match request.method, request.body with
  | .get, _ => (request.headers, [])
  | .post, none => (withField "content-length" "0" request.headers, [])
  | .post, some json =>
    let bytes := Bytes.ofString json.compact
    (withField "content-type" "application/json"
      (withField "content-length" (Text.natText bytes.length) request.headers), bytes)

/-- The address of a request that can be sent. -/
def address (request : Request) : Except Refusal Url :=
  match request.headers.find? fun field => !isField field with
  | some (name, value) => .error (.badHeader name value)
  | none =>
    match Url.parse request.url with
    | .error fault => .error (.badUrl fault)
    | .ok url =>
      if url.scheme = "http" ∨ url.scheme = "https" then .ok url else .error (.unknownScheme url)

/-- What becomes of a request when there are the given replies, and what the server receives. -/
def send (replies : List Reply) (request : Request) :
    Except ExchangeError String × List Arrival :=
  let refuse (refusal : Refusal) : Except ExchangeError String :=
    .error (.connection request.method request.url refusal.message)
  match address request with
  | .error refusal => (refuse refusal, [])
  | .ok url =>
    let (fields, body) := payload request
    match exchange url maxRedirects replies url request.method.name fields body with
    | (.error refusal, arrivals) => (refuse refusal, arrivals)
    | (.ok reply, arrivals) =>
      let result : Except ExchangeError String :=
        if 400 ≤ reply.status then
          .error (.status request.method request.url reply.status ((bodyOf? reply).getD ""))
        else match bodyOf? reply with
          | some text => .ok text
          | none =>
            .error (.unreadable request.url "response body closed before all bytes were read")
      (result, arrivals)

end Client

end BracketScript
