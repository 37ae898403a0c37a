import CrawlerApi.Core.Errors
import CrawlerApi.Foundation.Run
import CrawlerApi.Jobs.Service
import CrawlerApi.Keys.Service

/-!
# Batches and the read endpoints

`POST /batches/` enqueues one job a URL and records the batch when all are
enqueued; the reads aggregate what the job keys hold.  Who enqueued a job is in
none of the keys: the store carries it beside them.
-/

namespace CrawlerApi.Jobs

open Errors Keys

inductive TaskState where
  | pending | started | success | failure | retry | revoked
deriving DecidableEq, Repr

/-- `_STATE_MAP`. -/
def stateMap : JobStatus → TaskState
  | .pending => .pending
  | .running => .started
  | .completed => .success
  | .failed => .failure

def TaskState.isTerminal (state : TaskState) : Bool := state = .success ∨ state = .failure

structure JobStatusResponse where
  jobId : String
  state : TaskState
  createdAt : Option Instant

/-- `progress` is the exact quotient. -/
structure BatchStatusResponse where
  batchId : String
  total : Nat
  completed : Nat
  progress : Rat
  jobs : List JobStatusResponse

structure BatchResults (ρ : Type) where
  batchId : String
  total : Nat
  successful : Nat
  failed : Nat
  results : List (JobResultResponse ρ)

/-- The value of `batch:{id}`. -/
structure BatchInfo where
  batchId : String
  jobIds : List String
  createdAt : Instant
  totalCount : Nat

/-- The keys of the jobs and of the batches, with who enqueued each. -/
structure Store (ρ : Type) where
  redis : Redis ρ
  batches : String → Option BatchInfo
  jobOwner : String → Option Uuid
  batchOwner : String → Option Uuid

namespace JobService

variable {ρ : Type}

def enqueue (redis : Redis ρ) (task : FetchTask) (now : Instant) : Redis ρ :=
  enqueueJob (setStatus redis task.jobId { status := .pending, createdAt := some now }) task

def getStatusData (redis : Redis ρ) (jobId : String) : Except CrawlerAPIError (StatusData ρ) :=
  match redis.jobStatus jobId with
  | none => .error (notFoundError "Job not found")
  | some data => .ok data

/-- `get_result`, both reads of it. -/
def readResult (redis : Redis ρ) (jobId : String) (now : Instant) :
    Except CrawlerAPIError (JobResultResponse ρ) :=
  match redis.jobStatus jobId with
  | none => .error (notFoundError "Job not found")
  | some data => .ok (getResult jobId data (redis.jobError jobId) now)

end JobService

namespace BatchService

variable {ρ : Type}

/-- A job of a batch whose status is gone counts as failed. -/
def jobStatus (redis : Redis ρ) (jobId : String) : JobStatusResponse :=
  match JobService.getStatusData redis jobId with
  | .ok data => ⟨jobId, stateMap data.status, data.createdAt⟩
  | .error _ => ⟨jobId, .failure, none⟩

def getBatchStatus (store : Store ρ) (batchId : String) : Option BatchStatusResponse :=
  (store.batches batchId).map fun info =>
    let jobs := info.jobIds.map (jobStatus store.redis)
    let completed := (jobs.filter fun job => job.state.isTerminal).length
    { batchId := batchId
      total := jobs.length
      completed := completed
      progress := if jobs.length > 0 then mkRat completed jobs.length else 0
      jobs := jobs }

def getBatchResults (store : Store ρ) (batchId : String) (now : Instant) :
    Option (BatchResults ρ) :=
  (store.batches batchId).map fun info =>
    let results := info.jobIds.filterMap fun jobId =>
      (JobService.readResult store.redis jobId now).toOption
    { batchId := batchId
      total := info.jobIds.length
      successful := (results.filter fun result => result.status = .completed).length
      failed := (results.filter fun result => result.status = .failed).length
      results := results }

end BatchService

inductive Read where
  | job (jobId : String)
  | batchStatus (batchId : String)
  | batchResults (batchId : String)

inductive ReadResponse (ρ : Type) where
  | job (result : JobResultResponse ρ)
  | batchStatus (status : BatchStatusResponse)
  | batchResults (results : BatchResults ρ)
  | failed (error : CrawlerAPIError)
  | httpException (statusCode : Nat) (detail : String)

def ReadResponse.NotFound {ρ : Type} : ReadResponse ρ → Prop
  | .failed error => error.statusCode = 404
  | .httpException statusCode _ => statusCode = 404
  | _ => False

section Endpoints

variable {ρ : Type}

def getJob (store : Store ρ) (jobId : String) (now : Instant) : ReadResponse ρ :=
  match JobService.readResult store.redis jobId now with
  | .ok result => .job result
  | .error error => .failed error

def getBatchStatus (store : Store ρ) (batchId : String) : ReadResponse ρ :=
  match BatchService.getBatchStatus store batchId with
  | none => .httpException 404 "Batch not found"
  | some status => .batchStatus status

def getBatchResults (store : Store ρ) (batchId : String) (now : Instant) : ReadResponse ρ :=
  match BatchService.getBatchResults store batchId now with
  | none => .httpException 404 "Batch not found"
  | some results => .batchResults results

/-- `require_scope(SCOPE_FETCH)` on a resolved key. -/
def withFetchScope (apiKey : ApiKey) (response : ReadResponse ρ) : ReadResponse ρ :=
  if scopeFetch ∈ apiKey.scopes then response
  else .failed (scopeError s!"Scope '{scopeFetch}' required")

/-- A read with the key that `resolve_api_key` gives. -/
def serveRead (store : Store ρ) (apiKey : ApiKey) (now : Instant) : Read → ReadResponse ρ
  | .job jobId => getJob store jobId now
  | .batchStatus batchId => withFetchScope apiKey (getBatchStatus store batchId)
  | .batchResults batchId => withFetchScope apiKey (getBatchResults store batchId now)

end Endpoints

end CrawlerApi.Jobs
