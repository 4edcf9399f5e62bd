import SecretServer.Core.Basic

namespace SecretServer.Api

/-! `ExceptionHandlingMiddleware`: every exception becomes an `ApiError`. -/

inductive HttpStatusCode where
  | badRequest
  | unauthorized
  | forbidden
  | internalServerError
  deriving DecidableEq, Repr

def HttpStatusCode.value : HttpStatusCode → Nat
  | .badRequest => 400
  | .unauthorized => 401
  | .forbidden => 403
  | .internalServerError => 500

inductive ErrorCode where
  | internalServerError
  | validationFailure
  | unauthorized
  | forbiddenAccess
  | badRequest
  deriving DecidableEq, Repr

def ErrorCode.toString : ErrorCode → String
  | .internalServerError => "InternalServerError"
  | .validationFailure => "ValidationFailure"
  | .unauthorized => "Unauthorized"
  | .forbiddenAccess => "ForbiddenAccess"
  | .badRequest => "BadRequest"

structure ApiError where
  message : String
  code : String
  errorId : Guid
  deriving DecidableEq

inductive HttpResponse (α : Type) where
  | success (body : α)
  | failure (statusCode : Nat) (contentType : String) (body : ApiError)
  deriving DecidableEq

namespace ExceptionHandlingMiddleware

/-- The cases of the `switch`: status, messages and code. -/
def classify : Exception → HttpStatusCode × List String × ErrorCode
  | .validation errors =>
      (.badRequest, errors.map ValidationFailure.errorMessage, .validationFailure)
  | .unauthorizedAccess _ => (.unauthorized, ["Unauthorized Access"], .unauthorized)
  | .forbiddenAccess _ => (.forbidden, ["Forbidden Access"], .forbiddenAccess)
  | .badRequest _ => (.badRequest, ["Bad Request"], .badRequest)
  | _ =>
      (.internalServerError, ["Internal Exception Occurred"], .internalServerError)

def errorCode (exception : Exception) : ErrorCode := (classify exception).2.2

def handle (errorId : Guid) (exception : Exception) : Nat × String × ApiError :=
  let (statusCode, message, errorCode) := classify exception
  (statusCode.value, "application/json",
    ⟨", ".intercalate message, errorCode.toString, errorId⟩)

/-- `Invoke`, with the outcome of the rest of the pipeline. -/
def invoke {α : Type} (outcome : Except Exception α) (errorId : Guid) :
    HttpResponse α :=
  match outcome with
  | .ok body => .success body
  | .error exception =>
      let (statusCode, contentType, body) := handle errorId exception
      .failure statusCode contentType body

theorem invoke_error_congr {α : Type} {first second : Exception}
    (same : classify first = classify second) :
    invoke (.error first : Except Exception α) = invoke (.error second) := by
  funext errorId
  simp only [invoke, handle, same]

end ExceptionHandlingMiddleware

end SecretServer.Api
