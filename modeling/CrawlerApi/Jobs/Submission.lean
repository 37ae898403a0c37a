import CrawlerApi.Foundation.Run
import CrawlerApi.Jobs.Service
import Mathlib.Logic.Function.Basic

/-!
# `POST /v1/fetch`, await by await

Every request is a program counter over the awaits of `create_fetch` and of the
service methods it calls.  A step lets one request complete the await it stands
at, or lets that await raise, with or without its Redis command having been
carried out; between the steps of one request any other request may step, and
the worker may write the status of a job.
-/

namespace CrawlerApi.Jobs

open Keys

structure FetchRequest where
  body : JobCreate
  apiKeyPrefix : String
  applicationId : Uuid
  domain : String
  traceId : Option String := none

inductive Response (ρ : Type) where
  | accepted (response : JobResponse)
  | replayed (jobId : String) (status : JobStatus) (createdAt : Instant)
      (idempotencyKey : Option String)
  | result (response : JobResultResponse ρ)

def Response.jobId : Response ρ → String
  | .accepted response => response.jobId
  | .replayed jobId .. => jobId
  | .result response => response.jobId

/-- The await a request stands at.  `readStatus` and `readError` are the two
reads of `get_result`, for a replay or (`sync`) for a finished polled job; `left`
is how many reads of the poll loop are still to come after this one. -/
inductive Phase (ρ : Type) where
  | admission
  | lookup
  | readStatus (jobId : String) (sync : Bool)
  | readError (jobId : String) (sync : Bool) (data : StatusData ρ)
  | createPool (jobId : String)
  | setStatus (jobId : String)
  | enqueueJob (jobId : String)
  | closePool (jobId : String)
  | observe (jobId : String)
  | store (jobId : String)
  | poll (jobId : String) (left : Nat)
  | sleep (jobId : String) (left : Nat)
  | responded (response : Response ρ)
  | raised (during : Phase ρ) (applied : Bool)

/-- The key when `if body.idempotency_key` takes it for one. -/
def FetchRequest.key (request : FetchRequest) : Option String :=
  request.body.idempotencyKey.filter (· ≠ "")

section Request

variable {ρ : Type} (text : TextMethods) (request : FetchRequest)

def FetchRequest.task (jobId : String) : FetchTask where
  jobId := jobId
  url := request.body.url
  mode := request.body.mode
  apiKeyPrefix := request.apiKeyPrefix
  applicationId := request.applicationId
  domain := request.domain
  proxyPoolId := none
  callbackUrl := request.body.callbackUrl
  options := request.body.mergedOptions text
  traceId := request.traceId

def Phase.command (now : Instant) (redis : Redis ρ) : Phase ρ → Redis ρ
  | .setStatus jobId =>
      JobService.setStatus redis jobId { status := .pending, createdAt := some now }
  | .enqueueJob jobId => JobService.enqueueJob redis (request.task text jobId)
  | .store jobId =>
      match request.key with
      | some key => JobService.storeIdempotency redis key jobId request.applicationId
      | none => redis
  | _ => redis

def FetchRequest.accept (jobId : String) (status : JobStatus) (now : Instant) : Phase ρ :=
  .responded (.accepted ⟨jobId, status, now, request.body.idempotencyKey⟩)

def FetchRequest.finish (jobId : String) (now : Instant) : Phase ρ :=
  if (request.body.mergedOptions text).isSync then .poll jobId 299
  else request.accept jobId .pending now

/-- Where a request stands after its await completes; `jobId` is the identifier
it draws when it gets to draw one. -/
def Phase.resume (redis : Redis ρ) (jobId : String) (now : Instant) :
    Phase ρ → Option (Phase ρ)
  | .admission => some (if request.key.isSome then .lookup else .createPool jobId)
  | .lookup =>
      match request.key.bind (JobService.handleIdempotency redis · request.applicationId) with
      | some existing => some (.readStatus existing false)
      | none => some (.createPool jobId)
  | .readStatus job sync =>
      match redis.jobStatus job with
      | some data => some (.readError job sync data)
      | none => some (.raised (.readStatus job sync) false)
  | .readError job sync data =>
      let response := JobService.getResult job data (redis.jobError job) now
      if sync then some (.responded (.result response))
      else some (.responded
        (.replayed job response.status response.createdAt request.body.idempotencyKey))
  | .createPool job => some (.setStatus job)
  | .setStatus job => some (.enqueueJob job)
  | .enqueueJob job => some (.closePool job)
  | .closePool job => some (.observe job)
  | .observe job =>
      some (if request.key.isSome then .store job else request.finish text job now)
  | .store job => some (request.finish text job now)
  | .poll job left =>
      match redis.jobStatus job with
      | none => some (.raised (.poll job left) false)
      | some data =>
          if data.status = .completed ∨ data.status = .failed then some (.readStatus job true)
          else some (.sleep job left)
  -- the loop sleeps behind its last read too, and answers only then
  | .sleep job 0 => some (request.accept job .running now)
  | .sleep job (left + 1) => some (.poll job left)
  | .responded _ | .raised .. => none

inductive Resumed (redis : Redis ρ) (drawn : String) (now : Instant) : Phase ρ → Phase ρ → Prop
  | keyed : request.key.isSome = true → Resumed redis drawn now .admission .lookup
  | unkeyed : request.key = none → Resumed redis drawn now .admission (.createPool drawn)
  | found (existing : String) :
      request.key.bind (JobService.handleIdempotency redis · request.applicationId) =
        some existing →
      Resumed redis drawn now .lookup (.readStatus existing false)
  | missed :
      request.key.bind (JobService.handleIdempotency redis · request.applicationId) = none →
      Resumed redis drawn now .lookup (.createPool drawn)
  | read (job : String) (sync : Bool) (data : StatusData ρ) : redis.jobStatus job = some data →
      Resumed redis drawn now (.readStatus job sync) (.readError job sync data)
  | unread (job : String) (sync : Bool) :
      Resumed redis drawn now (.readStatus job sync) (.raised (.readStatus job sync) false)
  | replayed (job : String) (data : StatusData ρ) (status : JobStatus) (createdAt : Instant) :
      Resumed redis drawn now (.readError job false data)
        (.responded (.replayed job status createdAt request.body.idempotencyKey))
  | answered (job : String) (data : StatusData ρ) :
      Resumed redis drawn now (.readError job true data)
        (.responded (.result (JobService.getResult job data (redis.jobError job) now)))
  | pooled (job : String) : Resumed redis drawn now (.createPool job) (.setStatus job)
  | written (job : String) : Resumed redis drawn now (.setStatus job) (.enqueueJob job)
  | enqueued (job : String) : Resumed redis drawn now (.enqueueJob job) (.closePool job)
  | closed (job : String) : Resumed redis drawn now (.closePool job) (.observe job)
  | observed (job : String) : request.key.isSome = true →
      Resumed redis drawn now (.observe job) (.store job)
  | unstored (job : String) : request.key = none →
      Resumed redis drawn now (.observe job) (request.finish text job now)
  | stored (job : String) : Resumed redis drawn now (.store job) (request.finish text job now)
  | lost (job : String) (left : Nat) :
      Resumed redis drawn now (.poll job left) (.raised (.poll job left) false)
  | ended (job : String) (left : Nat) (data : StatusData ρ) : redis.jobStatus job = some data →
      data.status = .completed ∨ data.status = .failed →
      Resumed redis drawn now (.poll job left) (.readStatus job true)
  | unfinished (job : String) (left : Nat) (data : StatusData ρ) :
      redis.jobStatus job = some data → ¬ (data.status = .completed ∨ data.status = .failed) →
      Resumed redis drawn now (.poll job left) (.sleep job left)
  | awake (job : String) (left : Nat) :
      Resumed redis drawn now (.sleep job (left + 1)) (.poll job left)
  | timedOut (job : String) :
      Resumed redis drawn now (.sleep job 0) (request.accept job .running now)

variable {text request}

theorem resume_resumed {redis : Redis ρ} {drawn : String} {now : Instant} {phase next : Phase ρ}
    (h : phase.resume text request redis drawn now = some next) :
    Resumed text request redis drawn now phase next := by
  unfold Phase.resume at h
  split at h
  · split at h
    · rename_i hkey
      cases h
      exact .keyed hkey
    · rename_i hkey
      cases h
      exact .unkeyed (Option.not_isSome_iff_eq_none.mp hkey)
  · split at h
    · rename_i existing hfound
      cases h
      exact .found existing hfound
    · rename_i hmissed
      cases h
      exact .missed hmissed
  · rename_i job sync
    split at h
    · rename_i data hdata
      cases h
      exact .read job sync data hdata
    · cases h
      exact .unread job sync
  · rename_i job sync data
    cases sync with
    | true =>
        cases h
        exact .answered job data
    | false =>
        cases h
        exact .replayed job data _ _
  · cases h
    exact .pooled _
  · cases h
    exact .written _
  · cases h
    exact .enqueued _
  · cases h
    exact .closed _
  · split at h
    · rename_i hkey
      cases h
      exact .observed _ hkey
    · rename_i hkey
      cases h
      exact .unstored _ (Option.not_isSome_iff_eq_none.mp hkey)
  · cases h
    exact .stored _
  · rename_i job left
    split at h
    · cases h
      exact .lost job left
    · rename_i data hdata
      split at h
      · rename_i hended
        cases h
        exact .ended job left data hdata hended
      · rename_i hrunning
        cases h
        exact .unfinished job left data hdata hrunning
  · cases h
    exact .timedOut _
  · cases h
    exact .awake _ _
  · cases h
  · cases h

end Request

structure State (ρ : Type) where
  redis : Redis ρ
  phases : Nat → Phase ρ

def State.initial : State ρ := ⟨Redis.empty, fun _ => .admission⟩

inductive Action (ρ : Type) where
  | complete (i : Nat) (jobId : String) (now : Instant)
  | raise (i : Nat) (applied : Bool) (now : Instant)
  | work (jobId : String) (data : StatusData ρ) (error : Option String)

def step (text : TextMethods) (requests : Nat → FetchRequest) (state : State ρ) :
    Action ρ → Option (State ρ)
  | .complete i jobId now => do
      let phase ← (state.phases i).resume text (requests i) state.redis jobId now
      some ⟨(state.phases i).command text (requests i) now state.redis,
        Function.update state.phases i phase⟩
  | .raise i applied now => do
      let _ ← (state.phases i).resume text (requests i) state.redis "" now
      some ⟨if applied then (state.phases i).command text (requests i) now state.redis
          else state.redis,
        Function.update state.phases i (.raised (state.phases i) applied)⟩
  | .work jobId data error =>
      let redis := JobService.setStatus state.redis jobId data
      some { state with
        redis := match error with
          | none => redis
          | some text => JobService.setError redis jobId text }

end CrawlerApi.Jobs
