import SmartTravel.Lib.Dict
import SmartTravel.Lib.Json

/-!
# Problem details

How an exception that leaves an endpoint becomes a response. An `AppError` is rendered with the status, code and title
of its class; everything else is an internal error whose text tells the client nothing. `requestId` is what
`request_id_ctx` holds where the handler runs.
-/

namespace SmartTravel

open Py

/-- `AppError` and its subclasses. -/
inductive AppErrorClass where
  | appError
  | notFound
  | conflict
  | authentication
  | permissionDenied
  | rateLimited
  | providerUnavailable
deriving DecidableEq

namespace AppErrorClass

/-- `status_code`. -/
def statusCode : AppErrorClass → ℕ
  | .appError => 400
  | .notFound => 404
  | .conflict => 409
  | .authentication => 401
  | .permissionDenied => 403
  | .rateLimited => 429
  | .providerUnavailable => 503

/-- `code`. -/
def code : AppErrorClass → String
  | .appError => "bad_request"
  | .notFound => "not_found"
  | .conflict => "conflict"
  | .authentication => "unauthorized"
  | .permissionDenied => "forbidden"
  | .rateLimited => "rate_limited"
  | .providerUnavailable => "provider_unavailable"

/-- `title`. -/
def title : AppErrorClass → String
  | .appError => "Bad Request"
  | .notFound => "Resource Not Found"
  | .conflict => "Conflict"
  | .authentication => "Authentication Failed"
  | .permissionDenied => "Permission Denied"
  | .rateLimited => "Too Many Requests"
  | .providerUnavailable => "Upstream Provider Unavailable"

end AppErrorClass

structure AppError where
  kind : AppErrorClass
  detail : String
  extra : Dict String Json := Dict.empty

/-- A response as its receiver sees it. -/
structure Response where
  status : ℕ
  mediaType : String
  body : Json
deriving DecidableEq

/-- The response of an endpoint that returns. -/
def jsonResponse (status : ℕ) (body : Json) : Response := ⟨status, "application/json", body⟩

/-- `PROBLEM_CONTENT_TYPE`. -/
def problemContentType : String := "application/problem+json"

/-- `_problem`. -/
def problem (requestId : Option String) (statusCode : ℕ) (code title detail : String)
    (extra : Dict String Json) : Response :=
  let body : Dict String Json := Dict.empty
    |>.set "type" (.str ("https://smarttravel.dev/errors/" ++ code))
    |>.set "title" (.str title)
    |>.set "status" (.int statusCode)
    |>.set "code" (.str code)
    |>.set "detail" (.str detail)
    |>.set "trace_id" (requestId.elim .null .str)
  ⟨statusCode, problemContentType, .obj (body.update extra).items⟩

/-- What leaves an endpoint: an `AppError`, or any other exception. -/
inductive Raised where
  | app (error : AppError)
  | other

/-- The exception handlers `_handle_app_error` and `_handle_unexpected`. -/
def Raised.response (requestId : Option String) : Raised → Response
  | .app e => problem requestId e.kind.statusCode e.kind.code e.kind.title e.detail e.extra
  | .other => problem requestId 500 "internal_error" "Internal Server Error"
      "An unexpected error occurred. The incident has been logged." Dict.empty

/-- An application error has the status of its class, everything else is a 500. -/
theorem Raised.response_status (requestId : Option String) (e : Raised) :
    (e.response requestId).status = match e with
      | .app e => e.kind.statusCode
      | .other => 500 := by
  cases e <;> rfl

end SmartTravel
