import Dispatch.Error

/-!
# Errors as HTTP responses

An error is answered with its status and its text.
-/
namespace Dispatch

/-- An HTTP response, as far as an error determines it. -/
structure Response where
  status : Nat
  contentType : List String
  body : String
  deriving DecidableEq, Repr

/-- A plain text response. -/
def Response.plainText (status : Nat) (body : String) : Response :=
  ⟨status, ["text/plain"], body⟩

/-- The response to an operation that failed. -/
def Error.response (e : Error) : Response := .plainText e.status e.message

end Dispatch
