import CrawlerApi.Keys.Table

/-!
# Fetch results, errors and policies

The data the fetchers, the retry loop and the worker exchange.  Policies are read
attribute by attribute, with `None` for an attribute that is missing, so every
field the loop reads is optional.
-/

namespace CrawlerApi.Fetch

open Keys

inductive Engine where
  | httpx | curlCffi | playwright | camoufox
deriving DecidableEq, Repr

inductive ProxyType where
  | datacenter | residential | isp | mobile
deriving DecidableEq, Repr

abbrev Headers := List (String × String)

/-- `headers[name] = value` on a dictionary in insertion order. -/
def Headers.set (headers : Headers) (name value : String) : Headers :=
  if headers.any fun header => header.1 = name then
    headers.map fun header => if header.1 = name then (name, value) else header
  else headers ++ [(name, value)]

abbrev Bytes := List UInt8

structure FetchResult where
  url : String
  statusCode : Int
  headers : Headers := []
  body : Bytes := []
  encoding : String := "utf-8"
  elapsedMs : Int := 0
  proxyId : Option Uuid := none
  engine : Engine := .httpx
  blocked : Bool := false
  blockReason : Option String := none
  retriesUsed : Nat := 0
  traceId : Option String := none
  rawBody : Bytes := []
  rawHeaders : Headers := []
  tierUsed : Nat := 0
deriving DecidableEq, Repr

/-- What a call can raise: the errors the loop tells apart, any other
`Exception` with its text, and a cancellation, which is none. -/
inductive Exn where
  | fetchError (message : String) (statusCode : Option Int) (blocked : Bool)
  | proxyPoolUnavailable (detail : String)
  | proxyPoolExhausted (detail : String)
  | exception (message : String)
  | cancelled
deriving DecidableEq, Repr

/-- `str(exc)`. -/
def Exn.message : Exn → String
  | .fetchError message .. => message
  | .proxyPoolUnavailable detail | .proxyPoolExhausted detail => detail
  | .exception message => message
  | .cancelled => ""

structure Proxy where
  id : Uuid
  url : String
  country : Option String := none
  city : Option String := none
  proxyType : ProxyType := .datacenter
deriving DecidableEq, Repr

structure Policy where
  proxyPoolId : Option Uuid := none
  minDelayMs : Option Int := none
  maxDelayMs : Option Int := none
  maxRetries : Option Int := none
  headerProfile : Option Headers := none
  useProxy : Option Bool := none
  proxyCountry : Option String := none
  proxyCity : Option String := none
  antibotType : Option String := none
  proxyType : Option ProxyType := none
  escalationTier : Option Int := none
  maxEscalationAttempts : Option Int := none
deriving DecidableEq, Repr

end CrawlerApi.Fetch
