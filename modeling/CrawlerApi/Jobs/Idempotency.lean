import CrawlerApi.Jobs.Submission

/-!
# Idempotency keys

A protocol of roles says what the requests of one key do to its cell and to the
queue; every await of `create_fetch` is a move of it.  The protocol keeps one
job per key as long as nobody starts a submission while another one has not
recorded its job.
-/

namespace CrawlerApi.Jobs

open Foundation Keys

inductive Role where
  | idle
  | submitting (job : String)
  | submitted (job : String)
  | naming (job : String)
deriving DecidableEq

def Role.pending : Role → Bool
  | .submitting _ | .submitted _ => true
  | .idle | .naming _ => false

structure Shared where
  cell : Option String
  jobs : List String

/-- What one request may do to the shared cell and queue; `alone` says that no
other request is pending. -/
inductive Move (alone : Prop) : Shared → Role → Shared → Role → Prop where
  | stay : Move alone shared role shared role
  | hit : Move alone ⟨some job, jobs⟩ .idle ⟨some job, jobs⟩ (.naming job)
  | miss (job : String) : alone → Move alone ⟨none, jobs⟩ .idle ⟨none, jobs⟩ (.submitting job)
  | abandon : Move alone shared (.submitting job) shared .idle
  | enqueue :
      Move alone ⟨cell, jobs⟩ (.submitting job) ⟨cell, jobs ++ [job]⟩ (.submitted job)
  | record : Move alone ⟨cell, jobs⟩ (.submitted job) ⟨some job, jobs⟩ (.naming job)
  | recordUnanswered : Move alone ⟨cell, jobs⟩ (.submitted job) ⟨some job, jobs⟩ .idle
  | leave : Move alone shared (.naming job) shared .idle

inductive Era : Shared → (Nat → Role) → Prop where
  | untouched : (∀ k, roles k = .idle) → Era ⟨none, []⟩ roles
  | submitting (i : Nat) : roles i = .submitting job → (∀ k, k ≠ i → roles k = .idle) →
      Era ⟨none, []⟩ roles
  | submitted (i : Nat) : roles i = .submitted job → (∀ k, k ≠ i → roles k = .idle) →
      Era ⟨none, [job]⟩ roles
  | recorded : (∀ k, roles k = .idle ∨ roles k = .naming job) → Era ⟨some job, [job]⟩ roles

section Protocol

variable {shared next : Shared} {roles : Nat → Role} {i : Nat} {job : String} {role : Role}

theorem Era.of_submitting (era : Era shared roles) (hat : roles i = .submitting job) :
    shared = ⟨none, []⟩ ∧ ∀ k, k ≠ i → roles k = .idle := by
  cases era with
  | untouched hidle => rw [hidle i] at hat; cases hat
  | submitting j hj hother =>
      by_cases h : i = j
      · exact ⟨rfl, h ▸ hother⟩
      · rw [hother i h] at hat; cases hat
  | submitted j hj hother =>
      by_cases h : i = j
      · rw [h, hj] at hat; cases hat
      · rw [hother i h] at hat; cases hat
  | recorded hroles => rcases hroles i with h | h <;> rw [h] at hat <;> cases hat

theorem Era.of_submitted (era : Era shared roles) (hat : roles i = .submitted job) :
    shared = ⟨none, [job]⟩ ∧ ∀ k, k ≠ i → roles k = .idle := by
  cases era with
  | untouched hidle => rw [hidle i] at hat; cases hat
  | submitting j hj hother =>
      by_cases h : i = j
      · rw [h, hj] at hat; cases hat
      · rw [hother i h] at hat; cases hat
  | submitted j hj hother =>
      by_cases h : i = j
      · rw [h, hj] at hat
        cases hat
        exact ⟨rfl, h ▸ hother⟩
      · rw [hother i h] at hat; cases hat
  | recorded hroles => rcases hroles i with h | h <;> rw [h] at hat <;> cases hat

theorem Era.of_naming (era : Era shared roles) (hat : roles i = .naming job) :
    shared = ⟨some job, [job]⟩ ∧ ∀ k, roles k = .idle ∨ roles k = .naming job := by
  cases era with
  | untouched hidle => rw [hidle i] at hat; cases hat
  | submitting j hj hother | submitted j hj hother =>
      by_cases h : i = j
      · rw [h, hj] at hat; cases hat
      · rw [hother i h] at hat; cases hat
  | recorded hroles =>
      rcases hroles i with h | h
      · rw [h] at hat; cases hat
      · rw [h] at hat
        cases hat
        exact ⟨rfl, hroles⟩

theorem Era.of_alone (era : Era ⟨none, jobs⟩ roles) (halone : ∀ k, (roles k).pending = false) :
    jobs = [] ∧ ∀ k, roles k = .idle := by
  cases era with
  | untouched hidle => exact ⟨rfl, hidle⟩
  | submitting j hj _ | submitted j hj _ =>
      have hpending := halone j
      rw [hj] at hpending
      cases hpending

private theorem recorded_update (hroles : ∀ k, k ≠ i → roles k = .idle ∨ roles k = .naming job)
    (hrole : role = .idle ∨ role = .naming job) :
    Era ⟨some job, [job]⟩ (Function.update roles i role) := by
  refine .recorded fun k => ?_
  by_cases h : k = i
  · rw [h, Function.update_self]
    exact hrole
  · rw [Function.update_of_ne h]
    exact hroles k h

private theorem update_others (hother : ∀ k, k ≠ i → roles k = .idle) (k : Nat) (h : k ≠ i) :
    Function.update roles i role k = .idle := by
  rw [Function.update_of_ne h, hother k h]

theorem Era.length_jobs (era : Era shared roles) : shared.jobs.length ≤ 1 := by
  cases era with
  | untouched | submitting => exact Nat.zero_le 1
  | submitted | recorded => exact Nat.le_refl 1

theorem Era.move (era : Era shared roles)
    (hmove : Move (∀ k, (roles k).pending = false) shared (roles i) next role) :
    Era next (Function.update roles i role) := by
  generalize hat : roles i = start at hmove
  cases hmove with
  | stay =>
      rw [← hat, Function.update_eq_self]
      exact era
  | hit =>
      cases era with
      | recorded hroles => exact recorded_update (fun k _ => hroles k) (.inr rfl)
  | miss job halone =>
      obtain ⟨rfl, hidle⟩ := era.of_alone halone
      exact .submitting i (Function.update_self ..) (update_others fun k _ => hidle k)
  | abandon =>
      obtain ⟨rfl, hother⟩ := era.of_submitting hat
      refine .untouched fun k => ?_
      by_cases h : k = i
      · rw [h, Function.update_self]
      · exact update_others hother k h
  | enqueue =>
      obtain ⟨heq, hother⟩ := era.of_submitting hat
      cases heq
      exact .submitted i (Function.update_self ..) (update_others hother)
  | record =>
      obtain ⟨heq, hother⟩ := era.of_submitted hat
      cases heq
      exact recorded_update (fun k h => .inl (hother k h)) (.inr rfl)
  | recordUnanswered =>
      obtain ⟨heq, hother⟩ := era.of_submitted hat
      cases heq
      exact recorded_update (fun k h => .inl (hother k h)) (.inl rfl)
  | leave =>
      obtain ⟨rfl, hroles⟩ := era.of_naming hat
      exact recorded_update (fun k _ => hroles k) (.inl rfl)

end Protocol

/-- What the phase of a request amounts to.  A request that raised after its
`enqueue_job` took effect and before its key was stored has submitted a job. -/
def Phase.role : Phase ρ → Role
  | .admission | .lookup => .idle
  | .readStatus job _ | .readError job _ _ | .poll job _ | .sleep job _ => .naming job
  | .createPool job | .setStatus job | .enqueueJob job => .submitting job
  | .closePool job | .observe job | .store job => .submitted job
  | .responded response => .naming response.jobId
  | .raised (.enqueueJob job) true | .raised (.closePool job) _ | .raised (.observe job) _
  | .raised (.store job) false => .submitted job
  | .raised .. => .idle

/-- The cell of one key and the jobs of the queue. -/
def Redis.shared (redis : Redis ρ) (applicationId : Uuid) (key : String) : Shared :=
  ⟨JobService.handleIdempotency redis key applicationId, redis.queue.map FetchTask.jobId⟩

/-- Every request is of the application and carries the key. -/
structure Carries (requests : Nat → FetchRequest) (applicationId : Uuid) (key : String) : Prop where
  application : ∀ i, (requests i).applicationId = applicationId
  idempotencyKey : ∀ i, (requests i).body.idempotencyKey = some key

/-- A lookup misses only while no other request is between its own missed lookup
and the store of its job. -/
def LookupAlone (applicationId : Uuid) (key : String) (state : State ρ) : Action ρ → Prop
  | .complete i _ _ => state.phases i = .lookup →
      JobService.handleIdempotency state.redis key applicationId = none →
        ∀ k, (state.phases k).role.pending = false
  | .raise .. | .work .. => True

section Refinement

variable {text : TextMethods} {request : FetchRequest} {redis : Redis ρ}
  {phase next : Phase ρ} {applicationId : Uuid} {key jobId : String} {now : Instant}

private theorem shared_store (job : String) :
    (JobService.storeIdempotency redis key job applicationId).shared applicationId key =
      ⟨some job, redis.queue.map FetchTask.jobId⟩ := by
  simp [Redis.shared, JobService.handleIdempotency, JobService.storeIdempotency]

private theorem shared_enqueue (task : FetchTask) :
    (JobService.enqueueJob redis task).shared applicationId key =
      ⟨JobService.handleIdempotency redis key applicationId,
        redis.queue.map FetchTask.jobId ++ [task.jobId]⟩ := by
  simp [Redis.shared, JobService.handleIdempotency, JobService.enqueueJob]

theorem shared_command (happ : request.applicationId = applicationId)
    (hkey : request.key = some key) :
    (phase.command text request now redis).shared applicationId key =
      match phase with
      | .enqueueJob job => ⟨JobService.handleIdempotency redis key applicationId,
          redis.queue.map FetchTask.jobId ++ [job]⟩
      | .store job => ⟨some job, redis.queue.map FetchTask.jobId⟩
      | _ => redis.shared applicationId key := by
  cases phase with
  | enqueueJob job => exact shared_enqueue _
  | store job =>
      simp only [Phase.command, hkey]
      rw [happ, shared_store]
  | _ => rfl

theorem role_finish (job : String) :
    (request.finish text job now : Phase ρ).role = .naming job := by
  unfold FetchRequest.finish
  split
  · rfl
  · rfl

/-- Completing an await is a move of the protocol. -/
theorem resume_moves (happ : request.applicationId = applicationId)
    (hkey : request.key = some key) {alone : Prop}
    (halone : phase = .lookup → JobService.handleIdempotency redis key applicationId = none → alone)
    (h : phase.resume text request redis jobId now = some next) :
    Move alone (redis.shared applicationId key) phase.role
      ((phase.command text request now redis).shared applicationId key) next.role := by
  have hresumed := resume_resumed h
  rw [shared_command happ hkey]
  cases hresumed with
  | unkeyed hnone | unstored job hnone => exact absurd (hkey.symm.trans hnone) nofun
  | found existing hfound =>
      rw [hkey, Option.bind_some, happ] at hfound
      unfold Redis.shared
      rw [hfound]
      exact .hit
  | missed hmissed =>
      rw [hkey, Option.bind_some, happ] at hmissed
      unfold Redis.shared
      rw [hmissed]
      exact .miss _ (halone rfl hmissed)
  | enqueued job => exact .enqueue
  | stored job =>
      rw [role_finish]
      exact .record
  | unread job sync => exact .leave
  | lost job left => exact .leave
  | _ => exact .stay

theorem raise_moves (happ : request.applicationId = applicationId)
    (hkey : request.key = some key) {alone : Prop} (applied : Bool)
    (h : phase.resume text request redis jobId now = some next) :
    Move alone (redis.shared applicationId key) phase.role
      ((if applied then phase.command text request now redis else redis).shared applicationId key)
      (Phase.raised phase applied).role := by
  rw [apply_ite (Redis.shared · applicationId key), shared_command happ hkey]
  cases phase with
  | admission | lookup =>
      cases applied
      · exact .stay
      · exact .stay
  | readStatus job sync | poll job left | sleep job left =>
      cases applied
      · exact .leave
      · exact .leave
  | readError job sync data =>
      cases applied
      · exact .leave
      · exact .leave
  | createPool job | setStatus job =>
      cases applied
      · exact .abandon
      · exact .abandon
  | enqueueJob job =>
      cases applied
      · exact .abandon
      · exact .enqueue
  | closePool job | observe job =>
      cases applied
      · exact .stay
      · exact .stay
  | store job =>
      cases applied
      · exact .stay
      · exact .recordUnanswered
  | responded response => cases h
  | raised during inner => cases h

end Refinement

def State.Era (applicationId : Uuid) (key : String) (state : State ρ) : Prop :=
  Jobs.Era (state.redis.shared applicationId key) fun i => (state.phases i).role

/-- At most one task is enqueued, and every response names its job. -/
structure Idempotent (state : State ρ) : Prop where
  atMostOne : state.redis.queue.length ≤ 1
  named : ∀ i response, state.phases i = .responded response →
    ∃ task, state.redis.queue = [task] ∧ task.jobId = response.jobId

section Runs

variable {text : TextMethods} {requests : Nat → FetchRequest} {applicationId : Uuid}
  {key : String} {state next : State ρ} {action : Action ρ}

theorem Carries.request_key (carries : Carries requests applicationId key) (hkey : key ≠ "")
    (i : Nat) : (requests i).key = some key := by
  simp [FetchRequest.key, carries.idempotencyKey i, hkey]

theorem role_update (phases : Nat → Phase ρ) (i : Nat) (phase : Phase ρ) :
    (fun k => (Function.update phases i phase k).role) =
      Function.update (fun k => (phases k).role) i phase.role := by
  funext k
  by_cases h : k = i
  · rw [h, Function.update_self, Function.update_self]
  · rw [Function.update_of_ne h, Function.update_of_ne h]

theorem era_step (hkey : key ≠ "") (carries : Carries requests applicationId key)
    (hera : state.Era applicationId key) (halone : LookupAlone applicationId key state action)
    (hstep : step text requests state action = some next) : next.Era applicationId key := by
  cases action with
  | complete i jobId now =>
      obtain ⟨phase, hresume, hnext⟩ := Option.bind_eq_some_iff.mp hstep
      cases hnext
      unfold State.Era
      rw [role_update]
      exact hera.move
        (resume_moves (carries.application i) (carries.request_key hkey i) halone hresume)
  | raise i applied now =>
      obtain ⟨phase, hresume, hnext⟩ := Option.bind_eq_some_iff.mp hstep
      cases hnext
      unfold State.Era
      rw [role_update]
      exact hera.move
        (raise_moves (carries.application i) (carries.request_key hkey i) applied hresume)
  | work jobId data error =>
      cases hstep
      cases error
      · exact hera
      · exact hera

theorem era_initial (applicationId : Uuid) (key : String) :
    (State.initial : State ρ).Era applicationId key := .untouched fun _ => rfl

theorem State.Era.idempotent (hera : state.Era applicationId key) : Idempotent state := by
  constructor
  · have hlength := Jobs.Era.length_jobs hera
    rwa [Redis.shared, List.length_map] at hlength
  · intro i response hphase
    have hrole : (state.phases i).role = .naming response.jobId := by rw [hphase]; rfl
    obtain ⟨hshared, -⟩ := Jobs.Era.of_naming hera hrole
    exact List.map_eq_singleton_iff.mp (congrArg Shared.jobs hshared)

/-- Any number of requests with one key, in any interleaving in which a lookup
misses only while no other request is between its missed lookup and its store. -/
theorem create_fetch_idempotent (hkey : key ≠ "")
    (carries : Carries requests applicationId key) {actions : List (Action ρ)}
    (halone : Along (step text requests) (LookupAlone applicationId key) .initial actions)
    (hrun : run (step text requests) .initial actions = some state) : Idempotent state := by
  have hera : state.Era applicationId key :=
    run_invariant (fun _ _ _ hera halone hstep => era_step hkey carries hera halone hstep)
      (era_initial applicationId key) halone hrun
  exact hera.idempotent

end Runs

/-! Two clients of one application send the same key. -/

theorem lookupAlone_of_busy {state : State ρ} {i : Nat} {jobId : String} {now : Instant}
    (h : (state.phases i).role ≠ .idle) :
    LookupAlone applicationId key state (.complete i jobId now) :=
  fun hat => absurd (hat ▸ rfl) h

def sampleRequests : Nat → FetchRequest := fun _ =>
  { body := { url := "https://example.com/", idempotencyKey := some "key-1" }
    apiKeyPrefix := "crwlAb-1"
    applicationId := 1
    domain := "example.com" }

theorem sampleRequests_carries : Carries sampleRequests 1 "key-1" := ⟨fun _ => rfl, fun _ => rfl⟩

def oneAfterTheOther : List (Action Unit) :=
  List.replicate 8 (.complete 0 "job-a" 0) ++ List.replicate 4 (.complete 1 "job-b" 0)

private theorem oneAfterTheOther_alone :
    Along (step asciiText sampleRequests) (LookupAlone 1 "key-1") .initial oneAfterTheOther := by
  refine .cons rfl (fun h => nomatch h) (.cons rfl (fun _ _ k => ?_) ?_)
  · cases k with
    | zero => rfl
    | succ k => rfl
  refine .cons rfl (lookupAlone_of_busy (by decide)) ?_
  refine .cons rfl (lookupAlone_of_busy (by decide)) ?_
  refine .cons rfl (lookupAlone_of_busy (by decide)) ?_
  refine .cons rfl (lookupAlone_of_busy (by decide)) ?_
  refine .cons rfl (lookupAlone_of_busy (by decide)) ?_
  refine .cons rfl (lookupAlone_of_busy (by decide)) ?_
  refine .cons rfl (fun h => nomatch h) (.cons rfl (fun _ h => nomatch h) ?_)
  exact .cons rfl (lookupAlone_of_busy (by decide))
    (.cons rfl (lookupAlone_of_busy (by decide)) (along_nil _))

theorem create_fetch_idempotent_replay :
    ∃ state, run (step asciiText sampleRequests) .initial oneAfterTheOther = some state ∧
      Idempotent state :=
  ⟨_, rfl, create_fetch_idempotent (by decide) sampleRequests_carries oneAfterTheOther_alone rfl⟩

/-- Both lookups run before either request stores its job. -/
theorem interleaved_lookups_enqueue_twice :
    ¬ ∀ (requests : Nat → FetchRequest) (applicationId : Uuid) (key : String), key ≠ "" →
      Carries requests applicationId key → ∀ (actions : List (Action Unit)) state,
      run (step asciiText requests) .initial actions = some state → Idempotent state := by
  intro hall
  have htwice := hall sampleRequests 1 "key-1" (by decide) sampleRequests_carries
    [.complete 0 "" 0, .complete 1 "" 0, .complete 0 "job-a" 0, .complete 1 "job-b" 0,
      .complete 0 "" 0, .complete 0 "" 0, .complete 0 "" 0,
      .complete 1 "" 0, .complete 1 "" 0, .complete 1 "" 0] _ rfl
  exact absurd htwice.atMostOne (by decide)

end CrawlerApi.Jobs
