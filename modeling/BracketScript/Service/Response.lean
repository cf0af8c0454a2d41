import BracketScript.Json.Printer
import BracketScript.Text.Utf8

/-!
# Responses of the service

A response has a status code and a JSON value. It is sent as a complete HTTP/1.1 response after
which the connection is closed.

## Main definitions

* `Response`: a response
* `Response.encode`: the bytes that are sent
-/

namespace BracketScript

/-- A response of the service. -/
structure Response where
  /-- The status code. -/
  status : Nat
  /-- The JSON value it carries. -/
  body : Json
  deriving Inhabited, Repr

/-- The phrase for a status code. -/
def reasonPhrase (status : Nat) : String :=
  match status with
  | 200 => "OK"
  | 400 => "Bad Request"
  | 404 => "Not Found"
  | 405 => "Method Not Allowed"
  | 408 => "Request Timeout"
  | 413 => "Payload Too Large"
  | _ => "Internal Server Error"

namespace Response

/-- A successful response. -/
def ok (body : Json) : Response := ⟨200, body⟩

/-- A response that reports an error. -/
def error (status : Nat) (message : String) : Response :=
  ⟨status, .object [("Error", .string message)]⟩

/-- The text of a response, with its head. -/
def text (r : Response) : String :=
  let body := r.body.compact
  "HTTP/1.1 " ++ Text.natText r.status ++ " " ++ reasonPhrase r.status ++
    "\r\nContent-Type: application/json\r\nContent-Length: " ++
    Text.natText body.utf8ByteSize ++ "\r\nConnection: close\r\n\r\n" ++ body

/-- The bytes of a response. -/
def encode (r : Response) : Bytes := Bytes.ofString r.text

end Response

end BracketScript
