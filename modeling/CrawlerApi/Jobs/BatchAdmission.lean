import CrawlerApi.Foundation.Run
import CrawlerApi.Jobs.BatchCreation
import CrawlerApi.Limits.RateLimiter
import CrawlerApi.Worker.Policies
import Mathlib.Data.List.Dedup

/-!
# `POST /batches/`, await by await

The guard of every URL, the rate limit of every domain, and then a job for every URL.  Any
batches run at once, next to other requests and the workers, and any await may raise.
-/

namespace CrawlerApi.Jobs.BatchAdmission

open Foundation Keys Limits Domains
open Worker (PolicyTable DomainPolicy resolvePolicy)

/-- An `HTTPException`, or an exception nothing catches, which answers 500. -/
inductive Failure where
  | httpException (statusCode : Nat) (detail : String)
  | raised (message : String)

def ofGuard : Except SsrfGuard.Exn Unit → Except Failure Unit
  | .ok () => .ok ()
  | .error (.ssrfError message) | .error (.exception message) => .error (.raised message)

/-- `validate_url_against_ssrf`. -/
def validateUrlAgainstSsrf (tables : TextTables) (resolve : Resolver) (url : String) :
    Except Failure Unit :=
  match Foundation.Url.urlparse tables.toTables url.toList [] with
  | .error message => .error (.raised message)
  | .ok parsed =>
      match parsed.toSplitResult.hostname tables.toTables with
      | none => .error (.httpException 422 "Invalid URL: cannot extract hostname.")
      | some host => do
          let host := String.ofList host
          ofGuard (SsrfGuard.checkHostBlocked tables host)
          match resolve host with
          | .addresses ips => ofGuard (SsrfGuard.checkAddrsBlocked ips)
          | .gaierror _ => .error (.httpException 422 ("Cannot resolve hostname '" ++ host ++ "'."))
          | .osError message | .exception message => .error (.raised message)

inductive Stage where
  | createPool | setStatus | enqueueJob | closePool | observe
deriving DecidableEq

inductive Reply where
  | accepted (response : BatchResponse)
  | rateLimited (domain : String) (result : RateLimitResult)
  | refused (failure : Failure)

/-- The await a request stands at, with the domains or URLs it has still to come to. -/
inductive Phase where
  | start
  | resolve (domain : String) (left : List String)
  | check (domain : String) (rps : Rat) (left : List String)
  | enqueue (stage : Stage) (task : FetchTask) (jobIds left : List String)
  | save (jobIds : List String)
  | responded (reply : Reply)

/-- What a request leaves behind: that all its URLs passed the guard, a reply of the limiter, a
job in the queue, the record of the batch. -/
inductive Event where
  | guarded (dns : Nat → Resolver)
  | charged (domain : String) (rps : Rat) (result : RateLimitResult)
  | queued (task : FetchTask)
  | recorded (info : BatchInfo)

structure Entry where
  request : Nat
  event : Event

structure State (ρ : Type) where
  limits : Limits.Redis
  policies : PolicyTable
  store : Store ρ
  phases : Nat → Phase

inductive Action (ρ : Type) where
  /-- The code before the first await; `order` is that of the set of the domains. -/
  | receive (i : Nat) (dns : Nat → Resolver) (order : List String) (jobId : String)
  /-- An await completes; `jobId` is the id drawn behind it. -/
  | complete (i : Nat) (jobId batchId : String) (evaluation : Evaluation) (now : Instant)
  | raise (i : Nat) (applied : Bool) (message batchId : String) (now : Instant)
  | elsewhere (limits : Limits.Redis) (policies : PolicyTable) (redis : Redis ρ)
      (batches : String → Option BatchInfo) (tasks : List FetchTask)

section Endpoint

variable (tables : TextTables) (registeredDomain : String → String) (ssrfEnabled : Bool)

def guardUrls (dns : Nat → Resolver) : Nat → List String → Except Failure Unit
  | _, [] => .ok ()
  | n, url :: urls =>
      match validateUrlAgainstSsrf tables (dns n) url with
      | .error failure => .error failure
      | .ok () => guardUrls dns (n + 1) urls

/-- `{normalize_domain(str(u)) for u in request.urls}`. -/
def uniqueDomains (request : BatchRequest) : List String :=
  (request.urls.map (normalizeDomain tables registeredDomain)).dedup

/-- `float(getattr(_policy, "rate_limit_rps", None) or 1.0)`. -/
def rateOf (policy : Option DomainPolicy) : Rat :=
  match policy with
  | none => 1
  | some policy => if policy.rateLimitRps = 0 then 1 else policy.rateLimitRps

/-- The loop of `create_batch`, up to its next await. -/
def nextJob (request : BatchRequest) (jobId : String) (jobIds : List String) :
    List String → Phase
  | [] => .save jobIds
  | url :: left =>
      match normalizeHostnameOr tables registeredDomain url with
      | .error message => .responded (.refused (.raised message))
      | .ok domain => .enqueue .createPool (request.task url domain jobId) jobIds left

def nextDomain (request : BatchRequest) (jobId : String) : List String → Phase
  | [] => nextJob tables registeredDomain request jobId [] request.urls
  | domain :: left => .resolve domain left

def nextStage (request : BatchRequest) (stage : Stage) (task : FetchTask)
    (jobIds left : List String) (jobId : String) : Phase :=
  match stage with
  | .createPool => .enqueue .setStatus task jobIds left
  | .setStatus => .enqueue .enqueueJob task jobIds left
  | .enqueueJob => .enqueue .closePool task jobIds left
  | .closePool => .enqueue .observe task jobIds left
  | .observe => nextJob tables registeredDomain request jobId (jobIds ++ [task.jobId]) left

end Endpoint

section Steps

variable {ρ : Type}

def Stage.command (stage : Stage) (task : FetchTask) (now : Instant) (redis : Redis ρ) : Redis ρ :=
  match stage with
  | .setStatus =>
      JobService.setStatus redis task.jobId { status := .pending, createdAt := some now }
  | .enqueueJob => JobService.enqueueJob redis task
  | _ => redis

def Stage.event (stage : Stage) (task : FetchTask) : Option Event :=
  match stage with
  | .enqueueJob => some (.queued task)
  | _ => none

def State.become (state : State ρ) (i : Nat) (phase : Phase) : State ρ :=
  { state with phases := Function.update state.phases i phase }

def State.command (state : State ρ) (command : Redis ρ → Redis ρ) : State ρ :=
  { state with store := { state.store with redis := command state.store.redis } }

def State.save (state : State ρ) (info : BatchInfo) : State ρ :=
  { state with store := saveBatchInfo info.batchId info state.store }

variable (tables : TextTables) (registeredDomain : String → String) (ssrfEnabled : Bool)
  (requests : Nat → BatchRequest)

def step (state : State ρ) : Action ρ → State ρ × Option Entry
  | .receive i dns order jobId =>
      match state.phases i with
      | .start =>
          if order.Perm (uniqueDomains tables registeredDomain (requests i)) then
            match if ssrfEnabled then guardUrls tables dns 0 (requests i).urls else .ok () with
            | .error failure => (state.become i (.responded (.refused failure)), none)
            | .ok () =>
                (state.become i (nextDomain tables registeredDomain (requests i) jobId order),
                  some ⟨i, .guarded dns⟩)
          else (state, none)
      | _ => (state, none)
  | .complete i jobId batchId evaluation now =>
      match state.phases i with
      | .resolve domain left =>
          match resolvePolicy tables registeredDomain state.policies ("https://" ++ domain) with
          | .error message => (state.become i (.responded (.refused (.raised message))), none)
          | .ok policy => (state.become i (.check domain (rateOf policy) left), none)
      | .check domain rps left =>
          let checked := checkDomain tables registeredDomain domain rps state.limits evaluation
          ({ state.become i
                (if checked.2.allowed then
                  nextDomain tables registeredDomain (requests i) jobId left
                else .responded (.rateLimited domain checked.2)) with
              limits := checked.1 },
            some ⟨i, .charged domain rps checked.2⟩)
      | .enqueue stage task jobIds left =>
          ((state.become i (nextStage tables registeredDomain (requests i) stage task jobIds left
              jobId)).command (stage.command task now),
            (stage.event task).map (⟨i, ·⟩))
      | .save jobIds =>
          let info : BatchInfo := ⟨batchId, jobIds, now, (requests i).urls.length⟩
          ((state.become i (.responded (.accepted
              ⟨batchId, jobIds, (requests i).urls.length⟩))).save info,
            some ⟨i, .recorded info⟩)
      | _ => (state, none)
  | .raise i applied message batchId now =>
      match state.phases i with
      | .resolve _ _ => (state.become i (.responded (.refused (.raised message))), none)
      | .enqueue stage task _ _ =>
          let state := state.become i (.responded (.refused (.raised message)))
          if applied then
            (state.command (stage.command task now), (stage.event task).map (⟨i, ·⟩))
          else (state, none)
      | .save jobIds =>
          let info : BatchInfo := ⟨batchId, jobIds, now, (requests i).urls.length⟩
          let state := state.become i (.responded (.refused (.raised message)))
          if applied then (state.save info, some ⟨i, .recorded info⟩) else (state, none)
      | _ => (state, none)
  | .elsewhere limits policies redis batches tasks =>
      ({ state with
          limits := limits
          policies := policies
          store := { state.store with
            redis := { redis with queue := state.store.redis.queue ++ tasks }
            batches := batches } },
        none)

end Steps

/-! ### The history of one batch -/

structure Charge where
  domain : String
  rps : Rat
  result : RateLimitResult

structure Trace where
  dns : Nat → Resolver
  order : List String
  charges : List Charge
  tasks : List FetchTask
  info : Option BatchInfo

def Trace.events (trace : Trace) : List Event :=
  .guarded trace.dns :: (trace.charges.map (fun charge =>
    .charged charge.domain charge.rps charge.result) ++ trace.tasks.map .queued ++
      trace.info.toList.map .recorded)

/-- What the request itself leaves of a log. -/
def eventsOf (i : Nat) (log : List Entry) : List Event :=
  log.filterMap fun entry => if entry.request = i then some entry.event else none

section Histories

variable (tables : TextTables) (registeredDomain : String → String) (ssrfEnabled : Bool)
  (request : BatchRequest)

def Files (url : String) (task : FetchTask) : Prop :=
  ∃ domain, normalizeHostnameOr tables registeredDomain url = .ok domain ∧
    task = request.task url domain task.jobId

def Guarded (dns : Nat → Resolver) : Prop :=
  ssrfEnabled = true → ∀ n url, request.urls[n]? = some url →
    validateUrlAgainstSsrf tables (dns n) url = .ok ()

/-- One charge for each domain, in the order of the set, and the jobs of the URLs, in theirs. -/
structure Orderly (trace : Trace) : Prop where
  guarded : Guarded tables ssrfEnabled request trace.dns
  order : trace.order.Perm (uniqueDomains tables registeredDomain request)
  charges : trace.charges.map Charge.domain <+: trace.order
  admitted : ∀ charge ∈ trace.charges.dropLast, charge.result.allowed = true
  queued : trace.tasks ≠ [] → trace.charges.map Charge.domain = trace.order ∧
    ∀ charge ∈ trace.charges, charge.result.allowed = true
  filed : ∃ urls, urls <+: request.urls ∧
    List.Forall₂ (Files tables registeredDomain request) urls trace.tasks
  recorded : ∀ info ∈ trace.info,
    List.Forall₂ (Files tables registeredDomain request) request.urls trace.tasks ∧
      info.jobIds = trace.tasks.map FetchTask.jobId ∧ info.totalCount = request.urls.length

/-! ### The invariant -/

/-- A batch whose guard has passed, and which has come to the end of `done` domains. -/
structure Trace.Passed (trace : Trace) (left : List String) : Prop where
  guarded : Guarded tables ssrfEnabled request trace.dns
  order : trace.order.Perm (uniqueDomains tables registeredDomain request)
  charges : trace.order = trace.charges.map Charge.domain ++ left
  admitted : ∀ charge ∈ trace.charges, charge.result.allowed = true

/-- Its jobs are those of the URLs before `left`. -/
structure Trace.Filed (trace : Trace) (jobIds left : List String) : Prop where
  passed : trace.Passed tables registeredDomain ssrfEnabled request []
  urls : ∃ urls, request.urls = urls ++ left ∧
    List.Forall₂ (Files tables registeredDomain request) urls trace.tasks
  jobIds : jobIds = trace.tasks.map FetchTask.jobId

def Stage.isQueued : Stage → Bool
  | .closePool | .observe => true
  | _ => false

def Phase.Tracks (events : List Event) : Phase → Prop
  | .start => events = []
  | .resolve domain left | .check domain _ left => ∃ trace : Trace,
      trace.Passed tables registeredDomain ssrfEnabled request (domain :: left) ∧
        trace.tasks = [] ∧ trace.info = none ∧ events = trace.events
  | .enqueue stage task jobIds left => ∃ (trace : Trace) (url : String),
      trace.Filed tables registeredDomain ssrfEnabled request jobIds (url :: left) ∧
        Files tables registeredDomain request url task ∧ trace.info = none ∧
        events = trace.events ++ (if stage.isQueued then [.queued task] else [])
  | .save jobIds => ∃ trace : Trace,
      trace.Filed tables registeredDomain ssrfEnabled request jobIds [] ∧ trace.info = none ∧
        events = trace.events
  | .responded (.accepted response) => ∃ (trace : Trace) (info : BatchInfo),
      Orderly tables registeredDomain ssrfEnabled request trace ∧ events = trace.events ∧
        trace.info = some info ∧
        response = ⟨info.batchId, info.jobIds, info.totalCount⟩
  | .responded (.refused (.raised _)) => events = [] ∨ ∃ trace : Trace,
      Orderly tables registeredDomain ssrfEnabled request trace ∧ events = trace.events
  | .responded (.refused (.httpException ..)) => events = []
  | .responded (.rateLimited domain result) => ∃ trace : Trace,
      Orderly tables registeredDomain ssrfEnabled request trace ∧ events = trace.events ∧
        trace.tasks = [] ∧ trace.info = none ∧
        ∃ charge, trace.charges.getLast? = some charge ∧ charge.domain = domain ∧
          charge.result = result ∧ result.allowed = false

end Histories

section Invariant

variable {tables : TextTables} {registeredDomain : String → String} {ssrfEnabled : Bool}
  {request : BatchRequest} {trace : Trace} {left jobIds : List String} {events : List Event}

theorem events_charge (htasks : trace.tasks = []) (hinfo : trace.info = none) (charge : Charge) :
    { trace with charges := trace.charges ++ [charge] }.events =
      trace.events ++ [.charged charge.domain charge.rps charge.result] := by
  simp [Trace.events, htasks, hinfo]

theorem events_task (hinfo : trace.info = none) (task : FetchTask) :
    { trace with tasks := trace.tasks ++ [task] }.events = trace.events ++ [.queued task] := by
  simp [Trace.events, hinfo]

theorem events_info (hinfo : trace.info = none) (info : BatchInfo) :
    { trace with info := some info }.events = trace.events ++ [.recorded info] := by
  simp [Trace.events, hinfo]

theorem Trace.Passed.orderly (h : trace.Passed tables registeredDomain ssrfEnabled request left)
    (htasks : trace.tasks = []) (hinfo : trace.info = none) :
    Orderly tables registeredDomain ssrfEnabled request trace where
  guarded := h.guarded
  order := h.order
  charges := ⟨left, h.charges.symm⟩
  admitted := fun charge hcharge => h.admitted charge (List.dropLast_subset _ hcharge)
  queued := fun hne => absurd htasks hne
  filed := ⟨[], List.nil_prefix, by rw [htasks]; exact .nil⟩
  recorded := by simp [hinfo]

theorem Trace.Filed.orderly
    (h : trace.Filed tables registeredDomain ssrfEnabled request jobIds left)
    (hinfo : trace.info = none) : Orderly tables registeredDomain ssrfEnabled request trace where
  guarded := h.passed.guarded
  order := h.passed.order
  charges := ⟨[], h.passed.charges.symm⟩
  admitted := fun charge hcharge => h.passed.admitted charge (List.dropLast_subset _ hcharge)
  queued := fun _ => ⟨by simpa using h.passed.charges.symm, h.passed.admitted⟩
  filed := by
    obtain ⟨urls, hurls, hfiled⟩ := h.urls
    exact ⟨urls, ⟨left, hurls.symm⟩, hfiled⟩
  recorded := by simp [hinfo]

theorem Trace.Filed.queue {url : String} {task : FetchTask}
    (h : trace.Filed tables registeredDomain ssrfEnabled request jobIds (url :: left))
    (htask : Files tables registeredDomain request url task) :
    { trace with tasks := trace.tasks ++ [task] }.Filed tables registeredDomain ssrfEnabled request
      (jobIds ++ [task.jobId]) left where
  passed := ⟨h.passed.guarded, h.passed.order, h.passed.charges, h.passed.admitted⟩
  urls := by
    obtain ⟨urls, hurls, hfiled⟩ := h.urls
    refine ⟨urls ++ [url], by simpa using hurls, ?_⟩
    exact List.rel_append hfiled (.cons htask .nil)
  jobIds := by simp [h.jobIds]

theorem Trace.Filed.record
    (h : trace.Filed tables registeredDomain ssrfEnabled request jobIds []) (batchId : String)
    (now : Instant) : Orderly tables registeredDomain ssrfEnabled request
      { trace with info := some ⟨batchId, jobIds, now, request.urls.length⟩ } where
  guarded := h.passed.guarded
  order := h.passed.order
  charges := ⟨[], h.passed.charges.symm⟩
  admitted := fun charge hcharge => h.passed.admitted charge (List.dropLast_subset _ hcharge)
  queued := fun _ => ⟨by simpa using h.passed.charges.symm, h.passed.admitted⟩
  filed := by
    obtain ⟨urls, hurls, hfiled⟩ := h.urls
    exact ⟨urls, ⟨[], hurls.symm⟩, hfiled⟩
  recorded := by
    obtain ⟨urls, hurls, hfiled⟩ := h.urls
    rw [List.append_nil] at hurls
    intro info hinfo
    cases hinfo
    exact ⟨hurls ▸ hfiled, h.jobIds, rfl⟩

theorem tracks_nextJob (h : trace.Filed tables registeredDomain ssrfEnabled request jobIds left)
    (hinfo : trace.info = none) (jobId : String) :
    (nextJob tables registeredDomain request jobId jobIds left).Tracks tables registeredDomain
      ssrfEnabled request trace.events := by
  cases left with
  | nil => exact ⟨trace, h, hinfo, rfl⟩
  | cons url left =>
      unfold nextJob
      cases hdomain : normalizeHostnameOr tables registeredDomain url with
      | error message =>
          dsimp only
          rw [hdomain]
          exact .inr ⟨trace, h.orderly hinfo, rfl⟩
      | ok domain =>
          dsimp only
          rw [hdomain]
          exact ⟨trace, url, h, ⟨domain, hdomain, rfl⟩, hinfo, (List.append_nil _).symm⟩

theorem tracks_nextDomain
    (h : trace.Passed tables registeredDomain ssrfEnabled request left)
    (htasks : trace.tasks = []) (hinfo : trace.info = none) (jobId : String) :
    (nextDomain tables registeredDomain request jobId left).Tracks tables registeredDomain
      ssrfEnabled request trace.events := by
  cases left with
  | nil =>
      refine tracks_nextJob ⟨h, ⟨[], rfl, ?_⟩, ?_⟩ hinfo jobId
      · rw [htasks]
        exact .nil
      · rw [htasks]
        rfl
  | cons domain left => exact ⟨trace, h, htasks, hinfo, rfl⟩

theorem guardUrls_ok {dns : Nat → Resolver} {first : Nat} {urls : List String}
    (h : guardUrls tables dns first urls = .ok ()) : ∀ n url, urls[n]? = some url →
      validateUrlAgainstSsrf tables (dns (first + n)) url = .ok () := by
  induction urls generalizing first with
  | nil => intro n url hurl; cases hurl
  | cons head urls ih =>
      unfold guardUrls at h
      split at h
      · cases h
      · rename_i hhead
        intro n url hurl
        cases n with
        | zero =>
            cases hurl
            exact hhead
        | succ n =>
            have hrest := ih h n url hurl
            rwa [Nat.add_right_comm, Nat.add_assoc] at hrest

theorem guarded_of_ok {dns : Nat → Resolver}
    (h : (if ssrfEnabled then guardUrls tables dns 0 request.urls else .ok ()) = .ok ()) :
    Guarded tables ssrfEnabled request dns := by
  intro henabled n url hurl
  rw [henabled] at h
  have haccepted := guardUrls_ok h n url hurl
  rwa [Nat.zero_add] at haccepted

theorem tracks_admitted {dns : Nat → Resolver} {order : List String}
    (hguarded : Guarded tables ssrfEnabled request dns)
    (horder : order.Perm (uniqueDomains tables registeredDomain request)) (jobId : String) :
    (nextDomain tables registeredDomain request jobId order).Tracks tables registeredDomain
      ssrfEnabled request [.guarded dns] := by
  have hpassed : (⟨dns, order, [], [], none⟩ : Trace).Passed tables registeredDomain ssrfEnabled
      request order := ⟨hguarded, horder, rfl, List.forall_mem_nil _⟩
  exact tracks_nextDomain hpassed rfl rfl jobId

theorem tracks_denied {domain : String} {rps : Rat} {result : RateLimitResult}
    (h : trace.Passed tables registeredDomain ssrfEnabled request (domain :: left))
    (htasks : trace.tasks = []) (hinfo : trace.info = none) (hdenied : result.allowed = false) :
    (Phase.responded (.rateLimited domain result)).Tracks tables registeredDomain ssrfEnabled
      request (trace.events ++ [.charged domain rps result]) := by
  refine ⟨{ trace with charges := trace.charges ++ [⟨domain, rps, result⟩] }, ?_,
    (events_charge htasks hinfo ⟨domain, rps, result⟩).symm, htasks, hinfo,
    ⟨domain, rps, result⟩, List.getLast?_concat, rfl, rfl, hdenied⟩
  exact {
    guarded := h.guarded
    order := h.order
    charges := ⟨left, by simp [h.charges]⟩
    admitted := by
      rw [List.dropLast_concat]
      exact h.admitted
    queued := fun hne => absurd htasks hne
    filed := ⟨[], List.nil_prefix, by rw [htasks]; exact .nil⟩
    recorded := by simp [hinfo] }

theorem Trace.Passed.charge {domain : String} {rps : Rat} {result : RateLimitResult}
    (h : trace.Passed tables registeredDomain ssrfEnabled request (domain :: left))
    (hallowed : result.allowed = true) :
    { trace with charges := trace.charges ++ [(⟨domain, rps, result⟩ : Charge)] }.Passed tables
      registeredDomain ssrfEnabled request left where
  guarded := h.guarded
  order := h.order
  charges := by simp [h.charges]
  admitted := by
    intro charge hcharge
    rcases List.mem_append.mp hcharge with hbefore | hlast
    · exact h.admitted charge hbefore
    · rw [List.mem_singleton.mp hlast]
      exact hallowed

theorem tracks_charged {domain : String} {rps : Rat} {result : RateLimitResult}
    (h : trace.Passed tables registeredDomain ssrfEnabled request (domain :: left))
    (htasks : trace.tasks = []) (hinfo : trace.info = none) (jobId : String) :
    (if result.allowed then nextDomain tables registeredDomain request jobId left
      else .responded (.rateLimited domain result)).Tracks tables registeredDomain ssrfEnabled
      request (trace.events ++ [.charged domain rps result]) := by
  cases hallowed : result.allowed with
  | false => exact tracks_denied h htasks hinfo hallowed
  | true =>
      rw [← events_charge htasks hinfo ⟨domain, rps, result⟩]
      exact tracks_nextDomain (h.charge hallowed) htasks hinfo jobId

theorem tracks_nextStage {stage : Stage} {task : FetchTask}
    (h : (Phase.enqueue stage task jobIds left).Tracks tables registeredDomain ssrfEnabled request
      events) (jobId : String) :
    (nextStage tables registeredDomain request stage task jobIds left jobId).Tracks tables
      registeredDomain ssrfEnabled request (events ++ (stage.event task).toList) := by
  obtain ⟨trace, url, hfiled, htask, hinfo, rfl⟩ := h
  cases stage with
  | createPool => exact ⟨trace, url, hfiled, htask, hinfo, by simp [Stage.event, Stage.isQueued]⟩
  | setStatus => exact ⟨trace, url, hfiled, htask, hinfo, by simp [Stage.event, Stage.isQueued]⟩
  | enqueueJob => exact ⟨trace, url, hfiled, htask, hinfo, by simp [Stage.event, Stage.isQueued]⟩
  | closePool => exact ⟨trace, url, hfiled, htask, hinfo, by simp [Stage.event, Stage.isQueued]⟩
  | observe =>
      have hevents := events_task hinfo task
      simp only [Stage.event, Stage.isQueued, Option.toList_none, List.append_nil, if_true]
      rw [← hevents]
      exact tracks_nextJob (hfiled.queue htask) hinfo jobId

theorem tracks_interrupted {stage : Stage} {task : FetchTask} {message : String} (applied : Bool)
    (h : (Phase.enqueue stage task jobIds left).Tracks tables registeredDomain ssrfEnabled request
      events) :
    (Phase.responded (.refused (.raised message))).Tracks tables registeredDomain ssrfEnabled
      request (events ++ (if applied then (stage.event task).toList else [])) := by
  obtain ⟨trace, url, hfiled, htask, hinfo, rfl⟩ := h
  have hbefore := hfiled.orderly hinfo
  have hafter := (hfiled.queue htask).orderly hinfo
  have hevents := events_task hinfo task
  cases stage with
  | createPool => exact .inr ⟨trace, hbefore, by simp [Stage.event, Stage.isQueued]⟩
  | setStatus => exact .inr ⟨trace, hbefore, by simp [Stage.event, Stage.isQueued]⟩
  | enqueueJob =>
      cases applied with
      | false => exact .inr ⟨trace, hbefore, by simp [Stage.isQueued]⟩
      | true => exact .inr ⟨_, hafter, by simp [Stage.event, Stage.isQueued, hevents]⟩
  | closePool => exact .inr ⟨_, hafter, by simp [Stage.event, Stage.isQueued, hevents]⟩
  | observe => exact .inr ⟨_, hafter, by simp [Stage.event, Stage.isQueued, hevents]⟩

theorem tracks_unresolved {domain message : String}
    (h : (Phase.resolve domain left).Tracks tables registeredDomain ssrfEnabled request events) :
    (Phase.responded (.refused (.raised message))).Tracks tables registeredDomain ssrfEnabled
      request events := by
  obtain ⟨trace, hpassed, htasks, hinfo, rfl⟩ := h
  exact .inr ⟨trace, hpassed.orderly htasks hinfo, rfl⟩

theorem tracks_recorded
    (h : (Phase.save jobIds).Tracks tables registeredDomain ssrfEnabled request events)
    (batchId : String) (now : Instant) :
    (Phase.responded (.accepted ⟨batchId, jobIds, request.urls.length⟩)).Tracks tables
      registeredDomain ssrfEnabled request
      (events ++ [.recorded ⟨batchId, jobIds, now, request.urls.length⟩]) := by
  obtain ⟨trace, hfiled, hinfo, rfl⟩ := h
  exact ⟨_, _, hfiled.record batchId now, (events_info hinfo _).symm, rfl, rfl⟩

theorem tracks_unrecorded {message : String} (applied : Bool)
    (h : (Phase.save jobIds).Tracks tables registeredDomain ssrfEnabled request events)
    (batchId : String) (now : Instant) :
    (Phase.responded (.refused (.raised message))).Tracks tables registeredDomain ssrfEnabled
      request (events ++
        (if applied then [.recorded ⟨batchId, jobIds, now, request.urls.length⟩] else [])) := by
  obtain ⟨trace, hfiled, hinfo, rfl⟩ := h
  cases applied with
  | false => exact .inr ⟨trace, hfiled.orderly hinfo, List.append_nil _⟩
  | true => exact .inr ⟨_, hfiled.record batchId now, (events_info hinfo _).symm⟩

end Invariant

end CrawlerApi.Jobs.BatchAdmission
