/-!
# The application error hierarchy

Every class of the hierarchy is its status code, its error code and a detail;
the default details are the ones the classes carry.
-/

namespace CrawlerApi.Errors

structure CrawlerAPIError where
  statusCode : Nat := 500
  errorCode : String := "internal_error"
  detail : String := "Internal server error"
deriving DecidableEq, Repr

def authenticationError : CrawlerAPIError :=
  ⟨401, "authentication_failed", "Invalid or missing API key"⟩

def authorizationError (detail : String) : CrawlerAPIError := ⟨403, "forbidden", detail⟩

def keyExpiredError : CrawlerAPIError := ⟨401, "key_expired", "API key has expired"⟩

def keyRevokedError : CrawlerAPIError := ⟨401, "key_revoked", "API key has been revoked"⟩

def scopeError (detail : String) : CrawlerAPIError := ⟨403, "insufficient_scope", detail⟩

def notFoundError (detail : String) : CrawlerAPIError := ⟨404, "not_found", detail⟩

def conflictError (detail : String) : CrawlerAPIError := ⟨409, "conflict", detail⟩

/-- How a request ends when it does not answer: with an error of the hierarchy,
with a constraint of the database refusing the commit, or with a bug trap. -/
inductive RequestError where
  | api (error : CrawlerAPIError)
  | integrityError
  | runtimeError (message : String)
deriving DecidableEq, Repr

end CrawlerApi.Errors
