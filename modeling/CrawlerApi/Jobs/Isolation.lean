import CrawlerApi.Jobs.Batches

/-!
# Tenants and the job store

The read endpoints answer any key with whatever stands under the id, so the
jobs and batches of one application are open to every other.  What an
application reads of its own does not depend on the others: a batch holds jobs
of its creator only.
-/

namespace CrawlerApi.Jobs

open Errors Foundation Keys

structure BatchRequest where
  urls : List String
  mode : Mode := .static
  apiKeyPrefix : String
  applicationId : Uuid
  callbackUrl : Option String := none
  options : Options := []

structure BatchFlight where
  request : BatchRequest
  batchId : String
  jobIds : List String
  urls : List String

def BatchRequest.task (request : BatchRequest) (url domain jobId : String) : FetchTask where
  jobId := jobId
  url := url
  mode := request.mode
  apiKeyPrefix := request.apiKeyPrefix
  applicationId := request.applicationId
  domain := domain
  proxyPoolId := none
  callbackUrl := request.callbackUrl
  options := request.options
  traceId := none

structure System (ρ : Type) where
  store : Store ρ
  flights : Nat → Option BatchFlight

def System.initial {ρ : Type} : System ρ where
  store := ⟨Redis.empty, fun _ => none, fun _ => none, fun _ => none⟩
  flights _ := none

/-- The steps that write what the reads see.  An enqueue that is not `queued` was interrupted
behind its status write. -/
inductive StoreAction (ρ : Type) where
  | fetch (task : FetchTask) (now : Instant) (queued : Bool)
  | createBatch (handle : Nat) (request : BatchRequest) (batchId : String)
  | enqueueNext (handle : Nat) (jobId domain : String) (now : Instant) (queued : Bool)
  | saveBatch (handle : Nat) (now : Instant)
  | work (jobId : String) (data : StatusData ρ) (error : Option String)
  | expireStatus (jobId : String)
  | expireError (jobId : String)
  | expireBatch (batchId : String)

section Steps

variable {ρ : Type}

def Store.enqueue (store : Store ρ) (task : FetchTask) (now : Instant) (queued : Bool) :
    Store ρ :=
  { store with
    redis :=
      if queued then JobService.enqueue store.redis task now
      else JobService.setStatus store.redis task.jobId
        { status := .pending, createdAt := some now }
    jobOwner := fun other =>
      if other = task.jobId then some task.applicationId else store.jobOwner other }

def System.settle (system : System ρ) (handle : Nat) (flight : Option BatchFlight) :
    System ρ :=
  { system with
    flights := fun other => if other = handle then flight else system.flights other }

/-- `uuid4` draws no id twice. -/
def storeStep (system : System ρ) : StoreAction ρ → Option (System ρ)
  | .fetch task now queued =>
      if system.store.jobOwner task.jobId = none then
        some { system with store := system.store.enqueue task now queued }
      else none
  | .createBatch handle request batchId =>
      if system.store.batchOwner batchId = none then
        some { system.settle handle (some ⟨request, batchId, [], request.urls⟩) with
          store := { system.store with
            batchOwner := fun other =>
              if other = batchId then some request.applicationId
              else system.store.batchOwner other } }
      else none
  | .enqueueNext handle jobId domain now queued =>
      match system.flights handle with
      | some ⟨request, batchId, jobIds, url :: urls⟩ =>
          if system.store.jobOwner jobId = none then
            some { system.settle handle
                (if queued then some ⟨request, batchId, jobIds ++ [jobId], urls⟩ else none) with
              store := system.store.enqueue (request.task url domain jobId) now queued }
          else none
      | _ => none
  | .saveBatch handle now =>
      match system.flights handle with
      | some ⟨request, batchId, jobIds, []⟩ =>
          some { system.settle handle none with
            store := { system.store with
              batches := fun other =>
                if other = batchId then some ⟨batchId, jobIds, now, request.urls.length⟩
                else system.store.batches other } }
      | _ => none
  | .work jobId data error =>
      if system.store.redis.queue.any fun task => task.jobId = jobId then
        let redis := JobService.setStatus system.store.redis jobId data
        some { system with
          store := { system.store with
            redis := match error with
              | none => redis
              | some text => JobService.setError redis jobId text } }
      else none
  | .expireStatus jobId =>
      some { system with
        store := { system.store with
          redis := { system.store.redis with
            jobStatus := fun other =>
              if other = jobId then none else system.store.redis.jobStatus other } } }
  | .expireError jobId =>
      some { system with
        store := { system.store with
          redis := { system.store.redis with
            jobError := fun other =>
              if other = jobId then none else system.store.redis.jobError other } } }
  | .expireBatch batchId =>
      some { system with
        store := { system.store with
          batches := fun other =>
            if other = batchId then none else system.store.batches other } }

end Steps

section Ownership

variable {ρ : Type} {system next : System ρ} {store : Store ρ} {handle : Nat}
  {flight : BatchFlight} {task : FetchTask} {now : Instant} {queued : Bool}

/-- The batch and its jobs belong to the application. -/
def Store.Holds (store : Store ρ) (application : Uuid) (batchId : String)
    (jobIds : List String) : Prop :=
  store.batchOwner batchId = some application ∧
    ∀ jobId ∈ jobIds, store.jobOwner jobId = some application

/-- What is stored has an owner, and a batch belongs to the owner of its jobs. -/
structure Owned (system : System ρ) : Prop where
  status : ∀ jobId, system.store.jobOwner jobId = none →
    system.store.redis.jobStatus jobId = none
  queue : ∀ task ∈ system.store.redis.queue, system.store.jobOwner task.jobId ≠ none
  batch : ∀ batchId, system.store.batchOwner batchId = none →
    system.store.batches batchId = none
  members : ∀ batchId info, system.store.batches batchId = some info →
    ∃ application, system.store.Holds application batchId info.jobIds
  flights : ∀ handle flight, system.flights handle = some flight →
    system.store.Holds flight.request.applicationId flight.batchId flight.jobIds

theorem jobOwner_enqueue {jobId : String} {application : Uuid}
    (hfresh : store.jobOwner task.jobId = none) (h : store.jobOwner jobId = some application) :
    (store.enqueue task now queued).jobOwner jobId = some application := by
  have hne : jobId ≠ task.jobId := by
    rintro rfl
    rw [hfresh] at h
    cases h
  simpa [Store.enqueue, hne] using h

theorem Store.Holds.enqueue {application : Uuid} {batchId : String} {jobIds : List String}
    (h : store.Holds application batchId jobIds) (hfresh : store.jobOwner task.jobId = none) :
    (store.enqueue task now queued).Holds application batchId jobIds :=
  ⟨h.1, fun jobId hmem => jobOwner_enqueue hfresh (h.2 jobId hmem)⟩

theorem Owned.enqueue (h : Owned system) (hfresh : system.store.jobOwner task.jobId = none) :
    Owned { system with store := system.store.enqueue task now queued } where
  status jobId hnone := by
    dsimp only [Store.enqueue] at hnone ⊢
    split at hnone
    · cases hnone
    · rename_i hne
      have hbefore := h.status jobId hnone
      cases queued <;>
        simpa [JobService.enqueue, JobService.enqueueJob, JobService.setStatus, hne] using hbefore
  queue other hmem := by
    dsimp only [Store.enqueue] at hmem ⊢
    split
    · exact Option.some_ne_none _
    · rename_i hne
      cases queued with
      | false => exact h.queue other hmem
      | true =>
          rcases List.mem_append.mp hmem with hold | hnew
          · exact h.queue other hold
          · exact absurd (congrArg FetchTask.jobId (List.mem_singleton.mp hnew)) hne
  batch := h.batch
  members batchId info hinfo := by
    obtain ⟨application, hholds⟩ := h.members batchId info hinfo
    exact ⟨application, hholds.enqueue hfresh⟩
  flights handle flight hflight := (h.flights handle flight hflight).enqueue hfresh

theorem Owned.settle {settled : Option BatchFlight} (h : Owned system)
    (hsettled : ∀ flight, settled = some flight →
      system.store.Holds flight.request.applicationId flight.batchId flight.jobIds) :
    Owned (system.settle handle settled) where
  status := h.status
  queue := h.queue
  batch := h.batch
  members := h.members
  flights other flight hflight := by
    dsimp only [System.settle] at hflight
    split at hflight
    · exact hsettled flight hflight
    · exact h.flights other flight hflight

theorem Owned.drawBatch (application : Uuid) {batchId : String} (h : Owned system)
    (hfresh : system.store.batchOwner batchId = none) :
    Owned { system with
      store := { system.store with
        batchOwner := fun other =>
          if other = batchId then some application else system.store.batchOwner other } } := by
  have hholds (owner : Uuid) (other : String) (jobIds : List String)
      (hother : system.store.Holds owner other jobIds) : Store.Holds { system.store with
        batchOwner := fun other =>
          if other = batchId then some application else system.store.batchOwner other }
        owner other jobIds := by
    refine ⟨?_, hother.2⟩
    have hne : other ≠ batchId := by
      rintro rfl
      have howner := hother.1
      rw [hfresh] at howner
      cases howner
    simpa [hne] using hother.1
  constructor
  · exact h.status
  · exact h.queue
  · intro other hnone
    dsimp only at hnone
    split at hnone
    · cases hnone
    · exact h.batch other hnone
  · intro other info hinfo
    obtain ⟨owner, hmembers⟩ := h.members other info hinfo
    exact ⟨owner, hholds owner other info.jobIds hmembers⟩
  · intro handle flight hflight
    exact hholds _ _ _ (h.flights handle flight hflight)

theorem Owned.save {application : Uuid} {info : BatchInfo} {batchId : String} (h : Owned system)
    (hholds : system.store.Holds application batchId info.jobIds) :
    Owned { system with
      store := { system.store with
        batches := fun other =>
          if other = batchId then some info else system.store.batches other } } where
  status := h.status
  queue := h.queue
  batch other hnone := by
    have hne : other ≠ batchId := by
      rintro rfl
      have howner := hholds.1
      rw [show system.store.batchOwner other = none from hnone] at howner
      cases howner
    simpa [hne] using h.batch other hnone
  members other stored hstored := by
    dsimp only at hstored
    split at hstored
    · rename_i heq
      cases hstored
      exact ⟨application, heq ▸ hholds⟩
    · exact h.members other stored hstored
  flights := h.flights

theorem Owned.work {jobId : String} {data : StatusData ρ} {redis : Redis ρ} (h : Owned system)
    (howner : system.store.jobOwner jobId ≠ none)
    (hstatus : redis.jobStatus =
      (JobService.setStatus system.store.redis jobId data).jobStatus)
    (hqueue : redis.queue = system.store.redis.queue) :
    Owned { system with store := { system.store with redis := redis } } where
  status other hnone := by
    have hne : other ≠ jobId := by
      rintro rfl
      exact howner hnone
    simpa [hstatus, JobService.setStatus, hne] using h.status other hnone
  queue task hmem := h.queue task (hqueue ▸ hmem)
  batch := h.batch
  members := h.members
  flights := h.flights

theorem owned_enqueueNext {request : BatchRequest} {batchId jobId url domain : String}
    {jobIds urls : List String} (h : Owned system)
    (hflight : system.flights handle = some ⟨request, batchId, jobIds, url :: urls⟩)
    (hfresh : system.store.jobOwner jobId = none) :
    Owned { system.settle handle
        (if queued then some ⟨request, batchId, jobIds ++ [jobId], urls⟩ else none) with
      store := system.store.enqueue (request.task url domain jobId) now queued } := by
  have hholds : (system.store.enqueue (request.task url domain jobId) now queued).Holds
      request.applicationId batchId jobIds :=
    (h.flights handle _ hflight).enqueue hfresh
  have hstored : Owned
      { system with store := system.store.enqueue (request.task url domain jobId) now queued } :=
    h.enqueue hfresh
  apply hstored.settle
  intro settled hsettled
  split at hsettled
  · cases hsettled
    refine ⟨hholds.1, fun other hmem => ?_⟩
    rcases List.mem_append.mp hmem with hold | hnew
    · exact hholds.2 other hold
    · rw [List.mem_singleton.mp hnew]
      exact if_pos rfl
  · cases hsettled

theorem owned_step (h : Owned system) (action : StoreAction ρ)
    (hstep : storeStep system action = some next) : Owned next := by
  cases action with
  | fetch task now queued =>
      dsimp only [storeStep] at hstep
      split at hstep
      · rename_i hfresh
        cases hstep
        exact h.enqueue hfresh
      · cases hstep
  | createBatch handle request batchId =>
      dsimp only [storeStep] at hstep
      split at hstep
      · rename_i hfresh
        cases hstep
        apply (h.drawBatch request.applicationId hfresh).settle
        intro flight hflight
        cases hflight
        exact ⟨if_pos rfl, List.forall_mem_nil _⟩
      · cases hstep
  | enqueueNext handle jobId domain now queued =>
      dsimp only [storeStep] at hstep
      split at hstep
      · rename_i hflight
        split at hstep
        · rename_i hfresh
          cases hstep
          exact owned_enqueueNext h hflight hfresh
        · cases hstep
      · cases hstep
  | saveBatch handle now =>
      dsimp only [storeStep] at hstep
      split at hstep
      · rename_i hflight
        cases hstep
        exact (h.save (h.flights handle _ hflight)).settle nofun
      · cases hstep
  | work jobId data error =>
      dsimp only [storeStep] at hstep
      split at hstep
      · rename_i hqueued
        cases hstep
        obtain ⟨task, hmem, hid⟩ := List.any_eq_true.mp hqueued
        have howner := h.queue task hmem
        rw [of_decide_eq_true hid] at howner
        cases error with
        | none => exact h.work howner rfl rfl
        | some text => exact h.work howner rfl rfl
      · cases hstep
  | expireStatus jobId =>
      cases hstep
      refine ⟨fun other hnone => ?_, h.queue, h.batch, h.members, h.flights⟩
      dsimp only
      split
      · rfl
      · exact h.status other hnone
  | expireError jobId =>
      cases hstep
      exact ⟨h.status, h.queue, h.batch, h.members, h.flights⟩
  | expireBatch batchId =>
      cases hstep
      refine ⟨h.status, h.queue, fun other hnone => ?_, fun other info hinfo => ?_, h.flights⟩
      · dsimp only
        split
        · rfl
        · exact h.batch other hnone
      · dsimp only at hinfo
        split at hinfo
        · cases hinfo
        · exact h.members other info hinfo

def Reachable (system : System ρ) : Prop :=
  ∃ actions, run storeStep .initial actions = some system

theorem Reachable.owned (h : Reachable system) : Owned system := by
  obtain ⟨actions, hrun⟩ := h
  have hinit : Owned (System.initial : System ρ) := by
    constructor <;> simp [System.initial, Redis.empty]
  exact run_kept (fun _ action _ h hstep => owned_step h action hstep) hinit hrun

end Ownership

section Reads

variable {ρ : Type} {left right store : Store ρ} {application : Uuid} {apiKey : ApiKey}
  {now : Instant} {read : Read}

def Read.owner (store : Store ρ) : Read → Option Uuid
  | .job jobId => store.jobOwner jobId
  | .batchStatus batchId => store.batchOwner batchId
  | .batchResults batchId => store.batchOwner batchId

def Read.Stored (store : Store ρ) : Read → Prop
  | .job jobId => store.redis.jobStatus jobId ≠ none
  | .batchStatus batchId => store.batches batchId ≠ none
  | .batchResults batchId => store.batches batchId ≠ none

/-- The key has the scope that the endpoint requires. -/
def Read.Admits (apiKey : ApiKey) : Read → Prop
  | .job _ => True
  | .batchStatus _ => scopeFetch ∈ apiKey.scopes
  | .batchResults _ => scopeFetch ∈ apiKey.scopes

/-- The path names a stored job or batch of another application. -/
def Read.Foreign (store : Store ρ) (application : Uuid) (read : Read) : Prop :=
  read.Stored store ∧ ∃ other, read.owner store = some other ∧ other ≠ application

/-- The stores differ only in what other applications enqueued. -/
structure DiffersElsewhere (application : Uuid) (left right : Store ρ) : Prop where
  jobs : ∀ jobId, left.jobOwner jobId = some application ∨
      right.jobOwner jobId = some application →
    left.jobOwner jobId = right.jobOwner jobId ∧
      left.redis.jobStatus jobId = right.redis.jobStatus jobId ∧
      left.redis.jobError jobId = right.redis.jobError jobId
  batches : ∀ batchId, left.batchOwner batchId = some application ∨
      right.batchOwner batchId = some application →
    left.batchOwner batchId = right.batchOwner batchId ∧
      left.batches batchId = right.batches batchId

/-- The request is answered alike from both stores, and with 404 for what the
application of the key does not own. -/
def Isolated (left right : Store ρ) (apiKey : ApiKey) (now : Instant) (read : Read) : Prop :=
  serveRead left apiKey now read = serveRead right apiKey now read ∧
    (read.Admits apiKey → read.owner left ≠ some apiKey.applicationId →
      (serveRead left apiKey now read).NotFound)

theorem withFetchScope_of_mem {response : ReadResponse ρ} (h : scopeFetch ∈ apiKey.scopes) :
    withFetchScope apiKey response = response := if_pos h

theorem withFetchScope_of_not_mem {first second : ReadResponse ρ}
    (h : scopeFetch ∉ apiKey.scopes) :
    withFetchScope apiKey first = withFetchScope apiKey second := by
  unfold withFetchScope
  rw [if_neg h, if_neg h]

theorem serveRead_turnedAway (h : ¬ read.Admits apiKey) :
    serveRead left apiKey now read = serveRead right apiKey now read := by
  cases read with
  | job jobId => exact absurd trivial h
  | batchStatus batchId => exact withFetchScope_of_not_mem h
  | batchResults batchId => exact withFetchScope_of_not_mem h

theorem serveRead_missing (hleft : ¬ read.Stored left) (hright : ¬ read.Stored right) :
    serveRead left apiKey now read = serveRead right apiKey now read := by
  cases read <;> dsimp only [Read.Stored] at hleft hright <;> rw [not_not] at hleft hright <;>
    simp [serveRead, getJob, getBatchStatus, getBatchResults, JobService.readResult,
      BatchService.getBatchStatus, BatchService.getBatchResults, hleft, hright]

theorem serveRead_notFound_iff (hadmits : read.Admits apiKey) :
    (serveRead store apiKey now read).NotFound ↔ ¬ read.Stored store := by
  cases read with
  | job jobId =>
      dsimp only [serveRead, getJob, JobService.readResult, Read.Stored]
      cases store.redis.jobStatus jobId <;> simp [ReadResponse.NotFound, notFoundError]
  | batchStatus batchId =>
      dsimp only [serveRead, getBatchStatus, BatchService.getBatchStatus, Read.Stored]
      rw [withFetchScope_of_mem hadmits]
      cases store.batches batchId <;> simp [ReadResponse.NotFound]
  | batchResults batchId =>
      dsimp only [serveRead, getBatchResults, BatchService.getBatchResults, Read.Stored]
      rw [withFetchScope_of_mem hadmits]
      cases store.batches batchId <;> simp [ReadResponse.NotFound]

section Application

variable {left right : System ρ} (hdiffers : DiffersElsewhere application left.store right.store)

include hdiffers

theorem readResult_own {jobId : String}
    (howner : left.store.jobOwner jobId = some application) :
    JobService.readResult left.store.redis jobId now =
      JobService.readResult right.store.redis jobId now := by
  obtain ⟨-, hstatus, herror⟩ := hdiffers.jobs jobId (.inl howner)
  unfold JobService.readResult
  rw [hstatus, herror]

theorem jobStatus_own {jobId : String} (howner : left.store.jobOwner jobId = some application) :
    BatchService.jobStatus left.store.redis jobId =
      BatchService.jobStatus right.store.redis jobId := by
  obtain ⟨-, hstatus, -⟩ := hdiffers.jobs jobId (.inl howner)
  unfold BatchService.jobStatus JobService.getStatusData
  rw [hstatus]

theorem owner_iff : read.owner left.store = some application ↔
    read.owner right.store = some application := by
  have hjob (jobId : String) : left.store.jobOwner jobId = some application ↔
      right.store.jobOwner jobId = some application := by
    refine ⟨fun h => ?_, fun h => ?_⟩
    · exact (hdiffers.jobs jobId (.inl h)).1.symm.trans h
    · exact (hdiffers.jobs jobId (.inr h)).1.trans h
  have hbatch (batchId : String) : left.store.batchOwner batchId = some application ↔
      right.store.batchOwner batchId = some application := by
    refine ⟨fun h => ?_, fun h => ?_⟩
    · exact (hdiffers.batches batchId (.inl h)).1.symm.trans h
    · exact (hdiffers.batches batchId (.inr h)).1.trans h
  cases read with
  | job jobId => exact hjob jobId
  | batchStatus batchId => exact hbatch batchId
  | batchResults batchId => exact hbatch batchId

theorem serveRead_own (hleft : Owned left) (howner : read.owner left.store = some application) :
    serveRead left.store apiKey now read = serveRead right.store apiKey now read := by
  have hmembers (batchId : String) (info : BatchInfo)
      (hbatch : left.store.batchOwner batchId = some application)
      (hinfo : left.store.batches batchId = some info) :
      ∀ jobId ∈ info.jobIds, left.store.jobOwner jobId = some application := by
    obtain ⟨owner, hholder, hjobs⟩ := hleft.members batchId info hinfo
    cases Option.some.inj (hholder.symm.trans hbatch)
    exact hjobs
  cases read with
  | job jobId =>
      dsimp only [serveRead, getJob]
      rw [readResult_own hdiffers howner]
  | batchStatus batchId =>
      have hsame := (hdiffers.batches batchId (.inl howner)).2
      dsimp only [serveRead, getBatchStatus, BatchService.getBatchStatus]
      rw [← hsame]
      cases hinfo : left.store.batches batchId with
      | none => rfl
      | some info =>
          have hjobs : info.jobIds.map (BatchService.jobStatus left.store.redis) =
              info.jobIds.map (BatchService.jobStatus right.store.redis) :=
            List.map_congr_left fun jobId hmem =>
              jobStatus_own hdiffers (hmembers batchId info howner hinfo jobId hmem)
          simp only [Option.map_some, hjobs]
  | batchResults batchId =>
      have hsame := (hdiffers.batches batchId (.inl howner)).2
      dsimp only [serveRead, getBatchResults, BatchService.getBatchResults]
      rw [← hsame]
      cases hinfo : left.store.batches batchId with
      | none => rfl
      | some info =>
          have hjobs : info.jobIds.filterMap (fun jobId =>
                (JobService.readResult left.store.redis jobId now).toOption) =
              info.jobIds.filterMap (fun jobId =>
                (JobService.readResult right.store.redis jobId now).toOption) :=
            List.filterMap_congr fun jobId hmem => congrArg Except.toOption
              (readResult_own hdiffers (hmembers batchId info howner hinfo jobId hmem))
          simp only [Option.map_some, hjobs]

end Application

theorem Owned.owner_of_stored {system : System ρ} (h : Owned system)
    (hstored : read.Stored system.store) :
    ∃ application, read.owner system.store = some application := by
  rw [← Option.ne_none_iff_exists']
  cases read with
  | job jobId => exact fun hnone => hstored (h.status jobId hnone)
  | batchStatus batchId => exact fun hnone => hstored (h.batch batchId hnone)
  | batchResults batchId => exact fun hnone => hstored (h.batch batchId hnone)

theorem Owned.not_stored {system : System ρ} (h : Owned system)
    (howner : read.owner system.store ≠ some application)
    (hforeign : ¬ read.Foreign system.store application) : ¬ read.Stored system.store := by
  intro hstored
  obtain ⟨other, hother⟩ := h.owner_of_stored hstored
  apply hforeign ⟨hstored, other, hother, ?_⟩
  rintro rfl
  exact howner hother

theorem Read.Foreign.owner_ne (h : read.Foreign store application) :
    read.owner store ≠ some application := by
  obtain ⟨-, other, hother, hne⟩ := h
  rw [hother]
  exact fun heq => hne (Option.some.inj heq)

theorem differsElsewhere_enqueue {task : FetchTask} {queued : Bool}
    (hfresh : store.jobOwner task.jobId = none) (hother : task.applicationId ≠ application) :
    DiffersElsewhere application store (store.enqueue task now queued) where
  jobs jobId howner := by
    have hne : jobId ≠ task.jobId := by
      rintro rfl
      simp [Store.enqueue, hfresh, hother] at howner
    cases queued <;>
      simp [Store.enqueue, JobService.enqueue, JobService.enqueueJob, JobService.setStatus, hne]
  batches batchId _ := ⟨rfl, rfl⟩

/-- Nothing but the id stands between an application and the jobs of another: a read is
isolated exactly when no other application's record stands under its id. -/
theorem reads_isolated_iff {left right : System ρ} (hleft : Reachable left)
    (hright : Reachable right)
    (hdiffers : DiffersElsewhere apiKey.applicationId left.store right.store) :
    Isolated left.store right.store apiKey now read ↔
      (read.Admits apiKey → ¬ read.Foreign left.store apiKey.applicationId ∧
        ¬ read.Foreign right.store apiKey.applicationId) := by
  constructor
  · intro ⟨hsame, hhidden⟩ hadmits
    have hleftHidden (howner : read.owner left.store ≠ some apiKey.applicationId) :
        ¬ read.Stored left.store :=
      (serveRead_notFound_iff hadmits).mp (hhidden hadmits howner)
    have hrightHidden (howner : read.owner left.store ≠ some apiKey.applicationId) :
        ¬ read.Stored right.store := by
      apply (serveRead_notFound_iff hadmits).mp
      rw [← hsame]
      exact hhidden hadmits howner
    refine ⟨fun hforeign => hleftHidden hforeign.owner_ne hforeign.1, fun hforeign => ?_⟩
    apply hrightHidden ?_ hforeign.1
    rw [ne_eq, owner_iff hdiffers]
    exact hforeign.owner_ne
  · intro hclear
    by_cases hadmits : read.Admits apiKey
    · obtain ⟨hleftClear, hrightClear⟩ := hclear hadmits
      by_cases howner : read.owner left.store = some apiKey.applicationId
      · exact ⟨serveRead_own hdiffers hleft.owned howner, fun _ hne => absurd howner hne⟩
      · have hleftMissing := hleft.owned.not_stored howner hleftClear
        have hrightMissing := hright.owned.not_stored
          (fun h => howner ((owner_iff hdiffers).mpr h)) hrightClear
        refine ⟨serveRead_missing hleftMissing hrightMissing, fun _ _ => ?_⟩
        exact (serveRead_notFound_iff hadmits).mpr hleftMissing
    · exact ⟨serveRead_turnedAway hadmits, fun h => absurd h hadmits⟩

end Reads

def sampleTask (jobId : String) (applicationId : Uuid) : FetchTask where
  jobId := jobId
  url := "https://example.com/"
  mode := .static
  apiKeyPrefix := "crwlOper"
  applicationId := applicationId
  domain := "example.com"
  proxyPoolId := none
  callbackUrl := none
  options := []
  traceId := none

/-- Application 1 has enqueued `job-a`. -/
def ownSystem : System Unit where
  store := (System.initial : System Unit).store.enqueue (sampleTask "job-a" 1) 10 true
  flights _ := none

/-- Application 2 has enqueued `job-b` as well. -/
def sharedSystem : System Unit where
  store := ownSystem.store.enqueue (sampleTask "job-b" 2) 11 true
  flights _ := none

def readerKey : ApiKey where
  id := 1
  applicationId := 1
  keyPrefix := "crwlOper"
  hashedKey := "$argon2id$crwlOper-1"
  scopes := [scopeFetch]
  mode := "live"
  createdAt := 0

theorem ownSystem_reachable : Reachable ownSystem :=
  ⟨[.fetch (sampleTask "job-a" 1) 10 true], rfl⟩

theorem sharedSystem_reachable : Reachable sharedSystem :=
  ⟨[.fetch (sampleTask "job-a" 1) 10 true, .fetch (sampleTask "job-b" 2) 11 true], rfl⟩

theorem sharedSystem_differs : DiffersElsewhere 1 ownSystem.store sharedSystem.store :=
  differsElsewhere_enqueue rfl (by decide)

theorem own_job_isolated :
    Isolated ownSystem.store sharedSystem.store readerKey 20 (.job "job-a") := by
  apply (reads_isolated_iff ownSystem_reachable sharedSystem_reachable sharedSystem_differs).mpr
  intro _
  refine ⟨fun ⟨_, other, howner, hne⟩ => ?_, fun ⟨_, other, howner, hne⟩ => ?_⟩
  · exact hne (Option.some.inj howner).symm
  · exact hne (Option.some.inj howner).symm

/-- The key of application 1 reads `job-b`. -/
theorem other_job_answered :
    Reachable ownSystem ∧ Reachable sharedSystem ∧
      DiffersElsewhere readerKey.applicationId ownSystem.store sharedSystem.store ∧
      ¬ Isolated ownSystem.store sharedSystem.store readerKey 20 (.job "job-b") := by
  refine ⟨ownSystem_reachable, sharedSystem_reachable, sharedSystem_differs, fun ⟨hsame, _⟩ => ?_⟩
  have hleft : serveRead ownSystem.store readerKey 20 (.job "job-b") =
      .failed (notFoundError "Job not found") := rfl
  have hright : serveRead sharedSystem.store readerKey 20 (.job "job-b") =
      .job ⟨"job-b", .pending, none, none, 11, none⟩ := rfl
  rw [hleft, hright] at hsame
  cases hsame

end CrawlerApi.Jobs
