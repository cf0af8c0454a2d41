import BracketScript.Text.Decimal

/-!
# Errors of the service

Why a request to the service is not answered by results.

## Main definitions

* `ServiceError`: an error
* `ServiceError.message`, `ServiceError.status`: its wording and its status code
-/

namespace BracketScript

/-- The longest head of a request, in bytes. -/
def maxHead : Nat := 64 * 1024

/-- The longest body of a request, in bytes. -/
def maxBody : Nat := 1024 * 1024

/-- Why a request is not answered by results. -/
inductive ServiceError where
  /-- The request is malformed. -/
  | badRequest (text : String)
  /-- The request announces a body that is too long. -/
  | payloadTooLarge
  /-- The request did not arrive in time. -/
  | timeout
  /-- The evaluation broke off. -/
  | join (text : String)
  /-- The connection failed. -/
  | io (text : String)
  deriving DecidableEq, Repr, Inhabited

namespace ServiceError

/-- The wording of an error. -/
def message : ServiceError → String
  | badRequest text => text
  | payloadTooLarge => "request body exceeds " ++ Text.natText maxBody ++ " bytes"
  | timeout => "request timed out"
  | join text => "evaluation task failed: " ++ text
  | io text => text

/-- The status code of the response that reports an error. -/
def status : ServiceError → Nat
  | badRequest _ => 400
  | payloadTooLarge => 413
  | timeout => 408
  | join _ => 500
  | io _ => 500

end ServiceError

end BracketScript
