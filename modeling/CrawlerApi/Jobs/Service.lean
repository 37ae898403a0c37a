import CrawlerApi.Core.Text
import CrawlerApi.Keys.Table

/-!
# Jobs and the job service

The data of `POST /v1/fetch`, the Redis keys of the job service and its
commands.  The key families `idempotency:` and `job:` are two maps, so they
never meet.  The stored result stays a type parameter.
-/

namespace CrawlerApi.Jobs

open Keys

inductive JobStatus where
  | pending | running | completed | failed
deriving DecidableEq, Repr

inductive Mode where
  | static | stealth | browser | camoufox
deriving DecidableEq, Repr

inductive Json where
  | null
  | bool (value : Bool)
  | number (text : String)
  | string (text : String)
  | array (items : List Json)
  | object (fields : List (String × Json))

abbrev Options := List (String × Json)

namespace Options

def get (options : Options) (name : String) : Option Json :=
  (options.find? fun field => field.1 = name).map Prod.snd

/-- `options[name] = value`, keeping the position of a field that is there. -/
def set (options : Options) (name : String) (value : Json) : Options :=
  if options.any fun field => field.1 = name then
    options.map fun field => if field.1 = name then (name, value) else field
  else options ++ [(name, value)]

def override (options : Options) (name : String) (value : Option Json) : Options :=
  match value with
  | none => options
  | some value => options.set name value

end Options

structure JobCreate where
  url : String
  mode : Mode := .static
  callbackUrl : Option String := none
  idempotencyKey : Option String := none
  useProxy : Option Bool := none
  proxyCountry : Option String := none
  proxyCity : Option String := none
  proxyType : Option String := none
  sessionKey : Option String := none
  options : Options := []

def JobCreate.mergedOptions (text : TextMethods) (body : JobCreate) : Options :=
  let options := body.options.override "use_proxy" (body.useProxy.map .bool)
  let options := options.override "proxy_country" (body.proxyCountry.map (.string ∘ text.upper))
  let options := options.override "proxy_city" (body.proxyCity.map .string)
  let options := options.override "proxy_type" (body.proxyType.map .string)
  options.override "session_key" (body.sessionKey.map .string)

/-- `merged_options.get("sync") is True`. -/
def Options.isSync (options : Options) : Bool :=
  match options.get "sync" with
  | some (.bool true) => true
  | _ => false

/-- The payload of `job:{id}:status`. -/
structure StatusData (ρ : Type) where
  status : JobStatus
  createdAt : Option Instant
  updatedAt : Option Instant := none
  result : Option ρ := none

/-- The keyword arguments `enqueue_job` passes to `fetch_task`. -/
structure FetchTask where
  jobId : String
  url : String
  mode : Mode
  apiKeyPrefix : String
  applicationId : Uuid
  domain : String
  proxyPoolId : Option Uuid
  callbackUrl : Option String
  options : Options
  traceId : Option String

structure JobResponse where
  jobId : String
  status : JobStatus
  createdAt : Instant
  idempotencyKey : Option String

structure JobResultResponse (ρ : Type) where
  jobId : String
  status : JobStatus
  result : Option ρ
  error : Option String
  createdAt : Instant
  completedAt : Option Instant

structure Redis (ρ : Type) where
  idempotency : String → Option String
  jobStatus : String → Option (StatusData ρ)
  jobError : String → Option String
  queue : List FetchTask

def Redis.empty : Redis ρ := ⟨fun _ => none, fun _ => none, fun _ => none, []⟩

namespace JobService

/-- `idempotency:{application_id}:{key[:128]}`. -/
def idempotencyKey (applicationId : Uuid) (key : String) : String :=
  "idempotency:" ++ toString applicationId ++ ":" ++ String.ofList (key.toList.take 128)

def handleIdempotency (redis : Redis ρ) (key : String) (applicationId : Uuid) : Option String :=
  redis.idempotency (idempotencyKey applicationId key)

def storeIdempotency (redis : Redis ρ) (key jobId : String) (applicationId : Uuid) : Redis ρ :=
  let cell := idempotencyKey applicationId key
  { redis with
    idempotency := fun other => if other = cell then some jobId else redis.idempotency other }

def setStatus (redis : Redis ρ) (jobId : String) (data : StatusData ρ) : Redis ρ :=
  { redis with
    jobStatus := fun other => if other = jobId then some data else redis.jobStatus other }

def setError (redis : Redis ρ) (jobId error : String) : Redis ρ :=
  { redis with
    jobError := fun other => if other = jobId then some error else redis.jobError other }

def enqueueJob (redis : Redis ρ) (task : FetchTask) : Redis ρ :=
  { redis with queue := redis.queue ++ [task] }

/-- What `get_result` makes of the two values it read. -/
def getResult (jobId : String) (data : StatusData ρ) (error : Option String) (now : Instant) :
    JobResultResponse ρ where
  jobId := jobId
  status := data.status
  result := data.result
  error := error
  createdAt := (data.createdAt.or data.updatedAt).getD now
  completedAt := if data.status = .completed ∨ data.status = .failed then data.updatedAt else none

end JobService

end CrawlerApi.Jobs
