import CrawlerApi.Core.Domains
import CrawlerApi.Foundation.Session
import CrawlerApi.Jobs.Isolation

/-!
# Creating a batch, await by await

`create_batch` enqueues the jobs one by one and records the batch behind the last of
them.  Every await may raise, with or without its command carried out; what it raises
leaves the store as it stands.
-/

namespace CrawlerApi.Jobs

open Foundation Keys

structure Raised (σ : Type) where
  message : String
  state : σ

def awaited {σ : Type} (delivery : Delivery String) (command : σ → σ) (state : σ) :
    Except (Raised σ) σ :=
  match delivery.outcome with
  | .ok () => .ok (delivery.effect command state)
  | .error message => .error ⟨message, delivery.effect command state⟩

/-- The awaits of `JobService.enqueue`. -/
structure EnqueueAwaits where
  createPool : Delivery String := .completes
  setStatus : Delivery String := .completes
  enqueueJob : Delivery String := .completes
  closePool : Delivery String := .completes
  observe : Delivery String := .completes

/-- The awaits of `create_batch`, those of an enqueue by the index of its URL, and the
ids the call draws. -/
structure BatchAwaits where
  batchId : String
  jobId : Nat → String
  enqueue : Nat → EnqueueAwaits
  save : Delivery String
  now : Instant

structure BatchResponse where
  batchId : String
  jobIds : List String
  totalCount : Nat

section Creation

variable {ρ : Type}

def JobService.enqueueAwaited (awaits : EnqueueAwaits) (redis : Redis ρ) (task : FetchTask)
    (now : Instant) : Except (Raised (Redis ρ)) (Redis ρ) := do
  let redis ← awaited awaits.createPool id redis
  let redis ← awaited awaits.setStatus
    (JobService.setStatus · task.jobId { status := .pending, createdAt := some now }) redis
  let redis ← awaited awaits.enqueueJob (JobService.enqueueJob · task) redis
  let redis ← awaited awaits.closePool id redis
  awaited awaits.observe id redis

variable (tables : TextTables) (registeredDomain : String → String) (request : BatchRequest)
  (awaits : BatchAwaits)

def BatchService.enqueueUrls (redis : Redis ρ) (jobIds : List String) :
    List String → Except (Raised (Redis ρ)) (Redis ρ × List String)
  | [] => .ok (redis, jobIds)
  | url :: urls =>
      match Domains.normalizeHostnameOr tables registeredDomain url with
      | .error message => .error ⟨message, redis⟩
      | .ok domain => do
          let jobId := awaits.jobId jobIds.length
          let redis ← JobService.enqueueAwaited (awaits.enqueue jobIds.length) redis
            (request.task url domain jobId) awaits.now
          BatchService.enqueueUrls redis (jobIds ++ [jobId]) urls

def saveBatchInfo (batchId : String) (info : BatchInfo) (store : Store ρ) : Store ρ :=
  { store with
    batches := fun other => if other = batchId then some info else store.batches other }

def BatchService.createBatch (store : Store ρ) :
    Except (Raised (Store ρ)) (Store ρ × BatchResponse) :=
  match BatchService.enqueueUrls tables registeredDomain request awaits store.redis []
      request.urls with
  | .error raised => .error ⟨raised.message, { store with redis := raised.state }⟩
  | .ok (redis, jobIds) => do
      let info : BatchInfo := ⟨awaits.batchId, jobIds, awaits.now, request.urls.length⟩
      let store ← awaited awaits.save (saveBatchInfo awaits.batchId info)
        { store with redis := redis }
      .ok (store, ⟨awaits.batchId, jobIds, request.urls.length⟩)

/-- Nothing was enqueued on the way to the second store, or a batch of it lists every
job that was. -/
def AllOrRecorded (before left : Store ρ) : Prop :=
  ∃ added, left.redis.queue = before.redis.queue ++ added ∧
    (added = [] ∨ ∃ batchId info, left.batches batchId = some info ∧
      ∀ task ∈ added, task.jobId ∈ info.jobIds)

/-- The store a raised call leaves is that of all or recorded. -/
def CreatesAllOrRecords (store : Store ρ) : Prop :=
  ∀ raised, BatchService.createBatch tables registeredDomain request awaits store =
    .error raised → AllOrRecorded store raised.state

end Creation

structure EnqueueAwaits.Queued (awaits : EnqueueAwaits) : Prop where
  createPool : awaits.createPool = .completes
  setStatus : awaits.setStatus = .completes
  enqueueJob : awaits.enqueueJob.Applied

structure EnqueueAwaits.Complete (awaits : EnqueueAwaits) : Prop where
  createPool : awaits.createPool = .completes
  setStatus : awaits.setStatus = .completes
  enqueueJob : awaits.enqueueJob = .completes
  closePool : awaits.closePool = .completes
  observe : awaits.observe = .completes

theorem EnqueueAwaits.Complete.queued {awaits : EnqueueAwaits} (h : awaits.Complete) :
    awaits.Queued := ⟨h.createPool, h.setStatus, by rw [h.enqueueJob]; trivial⟩

section Conditions

variable (tables : TextTables) (registeredDomain : String → String) (awaits : BatchAwaits)

def HasDomain (url : String) : Prop :=
  ∃ domain, Domains.normalizeHostnameOr tables registeredDomain url = .ok domain

/-- From the index on, the job of the first URL gets into the queue. -/
def QueuesFirst (index : Nat) (urls : List String) : Prop :=
  ∃ url rest, urls = url :: rest ∧ HasDomain tables registeredDomain url ∧
    (awaits.enqueue index).Queued

/-- From the index on, every URL's enqueue completes. -/
def EnqueuesAll : Nat → List String → Prop
  | _, [] => True
  | index, url :: urls => HasDomain tables registeredDomain url ∧
      (awaits.enqueue index).Complete ∧ EnqueuesAll (index + 1) urls

end Conditions

section Enqueue

variable {ρ : Type} {awaits : EnqueueAwaits} {redis : Redis ρ} {task : FetchTask} {now : Instant}

theorem enqueueAwaited_complete (h : awaits.Complete) :
    JobService.enqueueAwaited awaits redis task now = .ok (JobService.enqueue redis task now) := by
  unfold JobService.enqueueAwaited
  rw [h.createPool, h.setStatus, h.enqueueJob, h.closePool, h.observe]
  rfl

inductive EnqueueRaises (awaits : EnqueueAwaits) (redis : Redis ρ) (task : FetchTask) :
    Except (Raised (Redis ρ)) (Redis ρ) → Prop where
  | unqueued {raised : Raised (Redis ρ)} : ¬ awaits.Queued → raised.state.queue = redis.queue →
      EnqueueRaises awaits redis task (.error raised)
  | queued {raised : Raised (Redis ρ)} : awaits.Queued →
      raised.state.queue = redis.queue ++ [task] → EnqueueRaises awaits redis task (.error raised)

theorem enqueueAwaited_raises (h : ¬ awaits.Complete) :
    EnqueueRaises awaits redis task (JobService.enqueueAwaited awaits redis task now) := by
  obtain ⟨createPool, setStatus, enqueueJob, closePool, observe⟩ := awaits
  cases createPool with
  | raises message applied =>
      apply EnqueueRaises.unqueued
      · intro hqueued
        cases hqueued.createPool
      · cases applied with
        | true => rfl
        | false => rfl
  | completes =>
      cases setStatus with
      | raises message applied =>
          apply EnqueueRaises.unqueued
          · intro hqueued
            cases hqueued.setStatus
          · cases applied with
            | true => rfl
            | false => rfl
      | completes =>
          cases enqueueJob with
          | raises message applied =>
              cases applied with
              | true => exact .queued ⟨rfl, rfl, rfl⟩ rfl
              | false =>
                  apply EnqueueRaises.unqueued
                  · intro hqueued
                    cases hqueued.enqueueJob
                  · rfl
          | completes =>
              cases closePool with
              | raises message applied =>
                  apply EnqueueRaises.queued
                  · exact ⟨rfl, rfl, trivial⟩
                  · cases applied with
                    | true => rfl
                    | false => rfl
              | completes =>
                  cases observe with
                  | raises message applied =>
                      apply EnqueueRaises.queued
                      · exact ⟨rfl, rfl, trivial⟩
                      · cases applied with
                        | true => rfl
                        | false => rfl
                  | completes => exact absurd ⟨rfl, rfl, rfl, rfl, rfl⟩ h

end Enqueue

section Loop

variable {ρ : Type} {tables : TextTables} {registeredDomain : String → String}
  {request : BatchRequest} {awaits : BatchAwaits}

def Drawn (awaits : BatchAwaits) (added : List FetchTask) : Prop :=
  ∀ task ∈ added, ∃ n, task.jobId = awaits.jobId n

/-- The ends of the loop over the URLs: the jobs it added to the queue, and their ids
behind those it started with. -/
inductive EnqueueEnds (tables : TextTables) (registeredDomain : String → String)
    (awaits : BatchAwaits) (redis : Redis ρ) (jobIds : List String) (urls : List String) :
    Except (Raised (Redis ρ)) (Redis ρ × List String) → Prop where
  | enqueued {left : Redis ρ} {added : List FetchTask} :
      EnqueuesAll tables registeredDomain awaits jobIds.length urls →
      left.queue = redis.queue ++ added → Drawn awaits added → added.length = urls.length →
      EnqueueEnds tables registeredDomain awaits redis jobIds urls
        (.ok (left, jobIds ++ added.map FetchTask.jobId))
  | raised {raised : Raised (Redis ρ)} {added : List FetchTask} :
      ¬ EnqueuesAll tables registeredDomain awaits jobIds.length urls →
      raised.state.queue = redis.queue ++ added → Drawn awaits added →
      (added ≠ [] ↔ QueuesFirst tables registeredDomain awaits jobIds.length urls) →
      EnqueueEnds tables registeredDomain awaits redis jobIds urls (.error raised)

theorem drawn_nil (awaits : BatchAwaits) : Drawn awaits [] :=
  fun _ h => absurd h List.not_mem_nil

theorem Drawn.cons {task : FetchTask} {added : List FetchTask} {n : Nat}
    (hid : task.jobId = awaits.jobId n) (h : Drawn awaits added) :
    Drawn awaits (task :: added) := by
  intro other hother
  rcases List.mem_cons.mp hother with rfl | hrest
  · exact ⟨n, hid⟩
  · exact h other hrest

theorem queuesFirst_cons {index : Nat} {url : String} {urls : List String} :
    QueuesFirst tables registeredDomain awaits index (url :: urls) ↔
      HasDomain tables registeredDomain url ∧ (awaits.enqueue index).Queued := by
  constructor
  · rintro ⟨_, _, hcons, hqueues⟩
    cases hcons
    exact hqueues
  · intro hqueues
    exact ⟨url, urls, rfl, hqueues⟩

section Cons

variable {redis : Redis ρ} {jobIds urls : List String} {url : String} {task : FetchTask}

theorem EnqueueEnds.unqueued {raised : Raised (Redis ρ)}
    (hnot : ¬ (HasDomain tables registeredDomain url ∧ (awaits.enqueue jobIds.length).Queued))
    (hleft : raised.state.queue = redis.queue) :
    EnqueueEnds tables registeredDomain awaits redis jobIds (url :: urls) (.error raised) := by
  refine @EnqueueEnds.raised ρ _ _ _ _ _ _ _ [] ?_ ?_ (drawn_nil _) ?_
  · intro hall
    exact hnot ⟨hall.1, hall.2.1.queued⟩
  · rw [hleft, List.append_nil]
  · rw [queuesFirst_cons]
    exact iff_of_false (fun h => h rfl) hnot

theorem EnqueueEnds.queued {raised : Raised (Redis ρ)}
    (hdomain : HasDomain tables registeredDomain url)
    (hqueued : (awaits.enqueue jobIds.length).Queued)
    (hnot : ¬ (awaits.enqueue jobIds.length).Complete)
    (hid : task.jobId = awaits.jobId jobIds.length)
    (hleft : raised.state.queue = redis.queue ++ [task]) :
    EnqueueEnds tables registeredDomain awaits redis jobIds (url :: urls) (.error raised) := by
  refine @EnqueueEnds.raised ρ _ _ _ _ _ _ _ [task] ?_ hleft ((drawn_nil _).cons hid) ?_
  · intro hall
    exact hnot hall.2.1
  · rw [queuesFirst_cons]
    exact iff_of_true (List.cons_ne_nil _ _) ⟨hdomain, hqueued⟩

theorem EnqueueEnds.cons {next : Redis ρ}
    {result : Except (Raised (Redis ρ)) (Redis ρ × List String)}
    (hdomain : HasDomain tables registeredDomain url)
    (hcomplete : (awaits.enqueue jobIds.length).Complete)
    (hid : task.jobId = awaits.jobId jobIds.length)
    (hnext : next.queue = redis.queue ++ [task])
    (h : EnqueueEnds tables registeredDomain awaits next (jobIds ++ [task.jobId]) urls result) :
    EnqueueEnds tables registeredDomain awaits redis jobIds (url :: urls) result := by
  cases h with
  | @enqueued left added hall hleft hdrawn hlength =>
      rw [List.length_append, List.length_singleton] at hall
      rw [hnext, List.append_assoc] at hleft
      rw [List.append_assoc]
      exact @EnqueueEnds.enqueued ρ _ _ _ _ _ (url :: urls) left (task :: added)
        ⟨hdomain, hcomplete, hall⟩ hleft (hdrawn.cons hid) (congrArg Nat.succ hlength)
  | @raised raised added hnot hleft hdrawn hfirst =>
      rw [List.length_append, List.length_singleton] at hnot
      rw [hnext, List.append_assoc] at hleft
      refine .raised (fun hall => hnot hall.2.2) hleft (hdrawn.cons hid) ?_
      · rw [queuesFirst_cons]
        exact iff_of_true (List.cons_ne_nil _ _) ⟨hdomain, hcomplete.queued⟩

end Cons

theorem enqueueUrls_ends (urls : List String) (redis : Redis ρ) (jobIds : List String) :
    EnqueueEnds tables registeredDomain awaits redis jobIds urls
      (BatchService.enqueueUrls tables registeredDomain request awaits redis jobIds urls) := by
  induction urls generalizing redis jobIds with
  | nil =>
      have hends := @EnqueueEnds.enqueued ρ tables registeredDomain awaits redis jobIds [] redis []
        trivial (List.append_nil _).symm (drawn_nil _) rfl
      rw [List.map_nil, List.append_nil] at hends
      exact hends
  | cons url urls ih =>
      unfold BatchService.enqueueUrls
      cases hdomain : Domains.normalizeHostnameOr tables registeredDomain url with
      | error message =>
          apply EnqueueEnds.unqueued
          · rintro ⟨⟨domain, h⟩, -⟩
            rw [hdomain] at h
            cases h
          · rfl
      | ok domain =>
          dsimp only
          have hid : (request.task url domain (awaits.jobId jobIds.length)).jobId =
            awaits.jobId jobIds.length := rfl
          by_cases hcomplete : (awaits.enqueue jobIds.length).Complete
          · rw [enqueueAwaited_complete hcomplete]
            exact .cons ⟨domain, hdomain⟩ hcomplete hid rfl (ih _ _)
          · have hraises := @enqueueAwaited_raises ρ _ redis
              (request.task url domain (awaits.jobId jobIds.length)) awaits.now hcomplete
            generalize JobService.enqueueAwaited _ redis _ awaits.now = result at hraises ⊢
            cases hraises with
            | unqueued hnot hleft => exact .unqueued (fun h => hnot h.2) hleft
            | queued hqueued hleft => exact .queued ⟨domain, hdomain⟩ hqueued hcomplete hid hleft

end Loop

section Batch

variable {ρ : Type} {tables : TextTables} {registeredDomain : String → String}
  {request : BatchRequest} {awaits : BatchAwaits} {store : Store ρ}

/-- `uuid4` draws no id that a batch of the store lists. -/
def FreshIds (awaits : BatchAwaits) (store : Store ρ) : Prop :=
  ∀ batchId info, store.batches batchId = some info → ∀ n, awaits.jobId n ∉ info.jobIds

theorem allOrRecorded_unsaved {left : Store ρ} {added : List FetchTask}
    (hfresh : FreshIds awaits store) (hbatches : left.batches = store.batches)
    (hqueue : left.redis.queue = store.redis.queue ++ added) (hdrawn : Drawn awaits added) :
    AllOrRecorded store left ↔ added = [] := by
  constructor
  · rintro ⟨others, hothers, hrecorded⟩
    rw [hqueue, List.append_cancel_left_eq] at hothers
    subst hothers
    rcases hrecorded with hnil | ⟨batchId, info, hinfo, hlisted⟩
    · exact hnil
    · rw [hbatches] at hinfo
      cases added with
      | nil => rfl
      | cons task rest =>
          obtain ⟨n, hid⟩ := hdrawn task (List.mem_cons_self ..)
          have hmem := hlisted task (List.mem_cons_self ..)
          rw [hid] at hmem
          exact absurd hmem (hfresh batchId info hinfo n)
  · intro hnil
    exact ⟨added, hqueue, .inl hnil⟩

theorem allOrRecorded_saved {left : Store ρ} {added : List FetchTask} {batchId : String}
    {info : BatchInfo} (hqueue : left.redis.queue = store.redis.queue ++ added)
    (hinfo : left.batches batchId = some info) (hids : info.jobIds = added.map FetchTask.jobId) :
    AllOrRecorded store left := by
  refine ⟨added, hqueue, .inr ⟨batchId, info, hinfo, ?_⟩⟩
  intro task htask
  rw [hids]
  exact List.mem_map_of_mem htask

theorem createsAllOrRecords_of_interrupted (hfresh : FreshIds awaits store)
    (hnot : ¬ EnqueuesAll tables registeredDomain awaits 0 request.urls) :
    CreatesAllOrRecords tables registeredDomain request awaits store ↔
      ¬ QueuesFirst tables registeredDomain awaits 0 request.urls := by
  have hends := @enqueueUrls_ends ρ tables registeredDomain request awaits request.urls
    store.redis []
  unfold CreatesAllOrRecords BatchService.createBatch
  generalize BatchService.enqueueUrls _ _ _ _ store.redis [] request.urls = result at hends ⊢
  cases hends with
  | enqueued hall => exact absurd hall hnot
  | @raised raised added _ hleft hdrawn hfirst =>
      have hrecorded := @allOrRecorded_unsaved ρ awaits store { store with redis := raised.state }
        added hfresh rfl hleft hdrawn
      constructor
      · intro hkept hqueues
        exact hfirst.mpr hqueues (hrecorded.mp (hkept _ rfl))
      · intro hqueues other hother
        cases hother
        apply hrecorded.mpr
        by_contra hadded
        exact hqueues (hfirst.mp hadded)

/-- Behind the loop only the save can lose the jobs. -/
theorem createsAllOrRecords_of_enqueued (hfresh : FreshIds awaits store)
    (hall : EnqueuesAll tables registeredDomain awaits 0 request.urls) :
    CreatesAllOrRecords tables registeredDomain request awaits store ↔
      request.urls = [] ∨ awaits.save.Applied := by
  have hends := @enqueueUrls_ends ρ tables registeredDomain request awaits request.urls
    store.redis []
  unfold CreatesAllOrRecords BatchService.createBatch
  generalize BatchService.enqueueUrls _ _ _ _ store.redis [] request.urls = result at hends ⊢
  cases hends with
  | raised hnot => exact absurd hall hnot
  | @enqueued left added _ hleft hdrawn hlength =>
      cases hsave : awaits.save with
      | completes =>
          apply iff_of_true
          · intro raised hraised
            cases hraised
          · exact .inr trivial
      | raises message applied =>
          cases applied with
          | true =>
              apply iff_of_true
              · intro raised hraised
                cases hraised
                exact allOrRecorded_saved hleft (if_pos rfl) (List.nil_append _)
              · exact .inr rfl
          | false =>
              have hrecorded := @allOrRecorded_unsaved ρ awaits store { store with redis := left }
                added hfresh rfl hleft hdrawn
              have hempty : added = [] ↔ request.urls = [] := by
                rw [← List.length_eq_zero_iff, hlength, List.length_eq_zero_iff]
              constructor
              · intro hkept
                exact .inl (hempty.mp (hrecorded.mp (hkept _ rfl)))
              · intro hcondition raised hraised
                cases hraised
                rcases hcondition with hnil | happlied
                · exact hrecorded.mpr (hempty.mpr hnil)
                · cases happlied

theorem queuesFirst_of_enqueuesAll {index : Nat} {urls : List String}
    (h : EnqueuesAll tables registeredDomain awaits index urls) :
    QueuesFirst tables registeredDomain awaits index urls ↔ urls ≠ [] := by
  cases urls with
  | nil =>
      constructor
      · rintro ⟨url, rest, hnil, -⟩
        cases hnil
      · exact fun hne => absurd rfl hne
  | cons url urls =>
      exact iff_of_true (queuesFirst_cons.mpr ⟨h.1, h.2.1.queued⟩) (List.cons_ne_nil _ _)

/-- A batch is all or recorded exactly when, once the first job is in the queue, everything
completes up to the save and the save is carried out. -/
theorem createBatch_allOrRecorded_iff (tables : TextTables) (registeredDomain : String → String)
    (request : BatchRequest) (awaits : BatchAwaits) (store : Store ρ)
    (hfresh : FreshIds awaits store) :
    CreatesAllOrRecords tables registeredDomain request awaits store ↔
      (QueuesFirst tables registeredDomain awaits 0 request.urls →
        EnqueuesAll tables registeredDomain awaits 0 request.urls ∧ awaits.save.Applied) := by
  by_cases hall : EnqueuesAll tables registeredDomain awaits 0 request.urls
  · rw [createsAllOrRecords_of_enqueued hfresh hall, queuesFirst_of_enqueuesAll hall]
    constructor
    · rintro (hnil | happlied) hne
      · exact absurd hnil hne
      · exact ⟨hall, happlied⟩
    · intro hcondition
      by_cases hnil : request.urls = []
      · exact .inl hnil
      · exact .inr (hcondition hnil).2
  · rw [createsAllOrRecords_of_interrupted hfresh hall]
    constructor
    · exact fun hnone hqueues => absurd hqueues hnone
    · exact fun hcondition hqueues => hall (hcondition hqueues).1

end Batch

/-! Redis goes away while the second URL is enqueued. -/

def pairRequest : BatchRequest where
  urls := ["http://a.example/", "http://b.example/"]
  apiKeyPrefix := "ck_test"
  applicationId := 1

def outageAwaits : BatchAwaits where
  batchId := "batch"
  jobId n := if n = 0 then "first" else "second"
  enqueue n := { createPool := if n = 0 then .completes else .raises "ConnectionError" false }
  save := .completes
  now := 0

def emptyStore : Store Unit := System.initial.store

theorem freshIds_empty : FreshIds outageAwaits emptyStore :=
  fun _ _ h => nomatch h

theorem interrupted_batch_unrecorded : ¬ CreatesAllOrRecords asciiTables (fun host => host)
    pairRequest outageAwaits emptyStore := by
  have hdomain : HasDomain asciiTables (fun host => host) "http://a.example/" :=
    ⟨"a.example", by decide +kernel⟩
  have hnot : ¬ EnqueuesAll asciiTables (fun host => host) outageAwaits 0 pairRequest.urls := by
    rintro ⟨-, -, -, hsecond, -⟩
    cases hsecond.createPool
  rw [createsAllOrRecords_of_interrupted freshIds_empty hnot, not_not]
  exact queuesFirst_cons.mpr ⟨hdomain, rfl, rfl, trivial⟩

def lostReplyAwaits : BatchAwaits :=
  { outageAwaits with enqueue := fun _ => {}, save := .raises "TimeoutError" true }

theorem lost_reply_recorded : FreshIds lostReplyAwaits emptyStore ∧ CreatesAllOrRecords asciiTables
    (fun host => host) pairRequest lostReplyAwaits emptyStore := by
  have hfresh : FreshIds lostReplyAwaits emptyStore := fun _ _ h => nomatch h
  have hfirst : HasDomain asciiTables (fun host => host) "http://a.example/" :=
    ⟨"a.example", by decide +kernel⟩
  have hsecond : HasDomain asciiTables (fun host => host) "http://b.example/" :=
    ⟨"b.example", by decide +kernel⟩
  have hcomplete : (lostReplyAwaits.enqueue 0).Complete := ⟨rfl, rfl, rfl, rfl, rfl⟩
  refine ⟨hfresh, (createBatch_allOrRecorded_iff asciiTables (fun host => host) pairRequest
    lostReplyAwaits emptyStore hfresh).mpr fun _ => ⟨?_, rfl⟩⟩
  exact ⟨hfirst, hcomplete, hsecond, hcomplete, trivial⟩

end CrawlerApi.Jobs
