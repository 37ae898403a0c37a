import CrawlerApi.Fetch.Schema
import CrawlerApi.Jobs.Service
import CrawlerApi.Worker.Learner

/-!
# The fetch task

`fetch_task` with its two exception handlers.  Every await has a name, and the
environment says of each how it ends; the status writes and the callbacks of a
run are kept in the order in which they take effect.
-/

namespace CrawlerApi.Worker

open Keys Fetch Jobs Foundation

def modeToEngine : Mode → Engine
  | .static => .httpx
  | .stealth => .curlCffi
  | .browser => .playwright
  | .camoufox => .camoufox

def selectEngine (policy : Option PolicyRow) (mode : Mode) : Engine :=
  match policy with
  | some row => row.engine
  | none => modeToEngine mode

inductive Site where
  | runningGet | runningSet
  | policySelect
  | archiveSelect | archiveUpload | archiveCommit | archiveRefresh
  | completedGet | completedSet
  | learnerSelect | learnerCommit | learnerRollback
  | usageExecute | usageCommit
  | errorGet | errorStatusSet | errorSet
  | handlerUsageExecute | handlerUsageCommit
deriving DecidableEq, Repr

structure CallbackPayload where
  jobId : String
  status : JobStatus
  result : Option FetchResultSchema
  error : Option String

structure Context where
  text : TextMethods
  codecs : Codecs
  hasWarcStorage : Bool := true
  callbackHmacSecret : String := ""

/-- What a run meets: how its awaits end and which of them fail in a flush, what the
database holds, what the retry loop returns and leaves in the session. -/
structure Environment where
  deliveries : Site → Delivery Exn
  now : Site → Instant
  month : Nat
  policy : Option PolicyRow
  lockedRow : Option PolicyRow
  fetch : Outcome
  fetchReports : List Report := []
  fetchBreaksSession : Bool := false
  fetchExpiresSession : Bool := false
  inFlush : Site → Bool := fun _ => false
  isRevisit : Bool := false
  rotates : Bool := false

structure World where
  redis : Redis FetchResultSchema
  session : JobSession
  statusWrites : List (StatusData FetchResultSchema) := []
  callbacks : List CallbackPayload := []

abbrev Task := EStateM Exn World

section Steps

variable (context : Context) (environment : Environment) (task : FetchTask)

def awaiting (site : Site) (change : World → World) : Task Unit := fun world =>
  match (environment.deliveries site).outcome with
  | .ok () => .ok () ((environment.deliveries site).effect change world)
  | .error exn => .error exn ((environment.deliveries site).effect change world)

def onSession (step : JobSession → JobSession × Except Exn Unit) : Task Unit := fun world =>
  let result := step world.session
  match result.2 with
  | .ok () => .ok () { world with session := result.1 }
  | .error exn => .error exn { world with session := result.1 }

def World.writeStatus (jobId : String) (data : StatusData FetchResultSchema) (world : World) :
    World :=
  { world with
    redis := JobService.setStatus world.redis jobId data
    statusWrites := world.statusWrites ++ [data] }

/-- The payload of a status write: `created_at` stays what it was. -/
def statusPayload (world : World) (status : JobStatus) (now : Instant)
    (result : Option FetchResultSchema) : StatusData FetchResultSchema where
  status := status
  createdAt := some (((world.redis.jobStatus task.jobId).bind StatusData.createdAt).getD now)
  updatedAt := some now
  result := result

def setStatus (get set : Site) (status : JobStatus) (result : Option FetchResultSchema) :
    Task Unit := do
  awaiting environment get id
  let world ← EStateM.get
  awaiting environment set
    (World.writeStatus task.jobId (statusPayload task world status (environment.now get) result))

def setError (error : String) : Task Unit := do
  setStatus environment task .errorGet .errorStatusSet .failed none
  awaiting environment .errorSet fun world =>
    { world with redis := JobService.setError world.redis task.jobId error }

def bytesPerGib : Nat := 1024 * 1024 * 1024

def costCents (bodyBytes : Nat) : Nat := (bodyBytes * 350 + (bytesPerGib - 1)) / bytesPerGib

def swallow (result : JobSession × Except Exn Unit) : JobSession × Except Exn Unit :=
  match result.2 with
  | .error .cancelled => result
  | _ => (result.1, .ok ())

def upsertUsage (execute commit : Site) (bodyBytes : Nat) (session : JobSession) :
    JobSession × Except Exn Unit :=
  let statement :=
    .usage task.applicationId environment.month bodyBytes (costCents bodyBytes)
  let executed := session.execute sessionExceptions [statement] (environment.deliveries execute)
  swallow <|
    match executed.2 with
    | .error exn => (executed.1, .error exn)
    | .ok () => executed.1.commit sessionExceptions (environment.deliveries commit)

def scheduleCallback (status : JobStatus) (result : Option FetchResultSchema)
    (error : Option String) : Task Unit :=
  if task.callbackUrl.getD "" ≠ "" ∧ context.callbackHmacSecret ≠ "" then
    modify fun world => { world with
      callbacks := world.callbacks ++ [⟨task.jobId, status, result, error⟩] }
  else pure ()

/-- `storage.archive` as the job's session sees it: the lookup and the upload
swallow exceptions, the index row is committed with all that is pending. -/
def archive (url : String) (body : Bytes) (session : JobSession) : JobSession × Except Exn Unit :=
  let looked := session.execute sessionExceptions [] (environment.deliveries .archiveSelect)
  let uploaded := (environment.deliveries .archiveUpload).outcome
  if looked.2 = .error .cancelled then looked
  else if environment.rotates ∧ uploaded = .error .cancelled then (looked.1, uploaded)
  else
    let row := .warcIndex url (context.codecs.sha256 body) environment.isRevisit
    let committed := (looked.1.add row).commit sessionExceptions
      (environment.deliveries .archiveCommit)
    match committed.2 with
    | .error exn => (committed.1, .error exn)
    | .ok () => committed.1.execute sessionExceptions [] (environment.deliveries .archiveRefresh)

/-- The session as the retry loop leaves it. -/
def Environment.leaves (environment : Environment) (session : JobSession) : JobSession :=
  { session with
    pending := session.pending ++ environment.fetchReports.map .proxyReport
    broken := environment.fetchBreaksSession
    expired := environment.fetchBreaksSession && environment.fetchExpiresSession
    brokenOfExpired := fun h => (Bool.and_eq_true_iff.mp h).1 }

def fetchStep : Task FetchResult := fun world =>
  let session := environment.leaves world.session
  match environment.fetch with
  | .ok result => .ok result { world with session := session }
  | .error exn => .error exn { world with session := session }

/-- Step 6: the body and the headers for the API. -/
def normalizeResult (result : FetchResult) : FetchResult × Integrity :=
  let raw := if result.rawBody ≠ [] then result.rawBody else result.body
  let headers := if result.rawHeaders ≠ [] then result.rawHeaders else result.headers
  let encoding := headers.get "content-encoding"
  let decoded := match decodeBody context.text context.codecs raw encoding with
    | .ok decoded => decoded
    | .error _ => (result.body, encoding)
  ({ result with
      headers := normalizeHeaders context.text result.headers decoded.1.length
      body := decoded.1 },
    { integrity context.codecs decoded.1 with originalContentEncoding := decoded.2 })

def archiveStep (result : FetchResult) : Task Unit :=
  let warcBody := if result.rawBody ≠ [] then result.rawBody else result.body
  if ¬ result.blocked ∧ context.hasWarcStorage then
    onSession (archive context environment result.url warcBody)
  else pure ()

def prepare : Task (FetchResult × FetchResultSchema) := do
  setStatus environment task .runningGet .runningSet .running none
  onSession (Session.execute sessionExceptions [] (environment.deliveries .policySelect))
  let fetched ← fetchStep environment
  let normalized := normalizeResult context fetched
  archiveStep context environment normalized.1
  pure (normalized.1, .fromResult context.text normalized.1 normalized.2)

def learnerDeliveries : LearnerDeliveries where
  select := environment.deliveries .learnerSelect
  commit := environment.deliveries .learnerCommit
  rollback := environment.deliveries .learnerRollback
  selectInFlush := environment.inFlush .learnerSelect
  commitInFlush := environment.inFlush .learnerCommit

def account (result : FetchResult) : Task Unit := do
  onSession (recordOutcome context.text (learnerDeliveries environment) environment.lockedRow
    (environment.now .learnerSelect) result environment.policy)
  onSession (upsertUsage environment task .usageExecute .usageCommit result.body.length)

def body : Task Unit := do
  let prepared ← prepare context environment task
  setStatus environment task .completedGet .completedSet .completed (some prepared.2)
  account context environment task prepared.1
  scheduleCallback context task .completed (some prepared.2) none

def handler (exn : Exn) : Task Unit := do
  let error := if exn = .cancelled then "Worker shutdown" else exn.message
  setError environment task error
  onSession (upsertUsage environment task .handlerUsageExecute .handlerUsageCommit 0)
  scheduleCallback context task .failed none (some error)
  if exn = .cancelled then throw exn

/-- `async with` closes the session however the task ends. -/
def World.closeSession (world : World) : World := { world with session := world.session.close }

def fetchTask : Task Unit := fun world =>
  match tryCatch (body context environment task) (handler context environment task) world with
  | .ok () final => .ok () final.closeSession
  | .error exn final => .error exn final.closeSession

end Steps

/-- The world a run leaves behind, however it ends. -/
def finalWorld (result : EStateM.Result Exn World α) : World :=
  match result with
  | .ok _ world => world
  | .error _ world => world

end CrawlerApi.Worker
