import CrawlerApi.Jobs.Submission

/-!
# What the answers of `POST /v1/fetch` name

Any requests of any applications, in any interleaving, with any of their awaits raising and the
worker at work between them.  An answer names the request's own queued job, or replays one
that a request of the same application queued under a key of the same cell.
-/

namespace CrawlerApi.Jobs

open Keys Foundation

/-! ### The cell of an idempotency key -/

theorem colon_not_mem_toString (n : Nat) : ':' ∉ (toString n).toList := by
  intro h
  rw [Nat.toString_eq_repr, Nat.toList_repr] at h
  exact absurd (Nat.isDigit_of_mem_toDigits (by decide) (by decide) h) (by decide)

theorem takeWhile_append_colon {before after : List Char} (h : ':' ∉ before) :
    (before ++ ':' :: after).takeWhile (· ≠ ':') = before := by
  induction before with
  | nil => rfl
  | cons c rest ih =>
      have hc : c ≠ ':' := (List.ne_of_not_mem_cons h).symm
      rw [List.cons_append, List.takeWhile_cons_of_pos (by simpa using hc),
        ih (List.not_mem_of_not_mem_cons h)]

theorem idempotencyKey_inj {applicationId other : Uuid} {key otherKey : String}
    (h : JobService.idempotencyKey applicationId key =
      JobService.idempotencyKey other otherKey) :
    applicationId = other ∧ key.toList.take 128 = otherKey.toList.take 128 := by
  have hchars := congrArg String.toList h
  simp only [JobService.idempotencyKey, String.toList_append, List.append_assoc,
    List.append_cancel_left_eq, String.toList_ofList] at hchars
  have hcolon : ":".toList = [':'] := rfl
  rw [hcolon] at hchars
  simp only [List.singleton_append] at hchars
  have hid : (toString applicationId).toList = (toString other).toList := by
    have htaken := congrArg (List.takeWhile (· ≠ ':')) hchars
    rwa [takeWhile_append_colon (colon_not_mem_toString applicationId),
      takeWhile_append_colon (colon_not_mem_toString other)] at htaken
  refine ⟨?_, ?_⟩
  · rw [Nat.toString_eq_repr, Nat.toString_eq_repr, Nat.toList_repr, Nat.toList_repr] at hid
    have hvalue := congrArg (fun digits => Nat.ofDigitChars 10 digits 0) hid
    simpa only [Nat.ofDigitChars_ten_toDigits] using hvalue
  · rw [hid] at hchars
    exact (List.cons.inj (List.append_cancel_left hchars)).2

section Answers

variable {ρ : Type} (text : TextMethods) (requests : Nat → FetchRequest)

/-- A request of the application whose key has this one's cell has put the job into the queue. -/
def Submitted (applicationId : Uuid) (key jobId : String) (queue : List FetchTask) : Prop :=
  ∃ k other, (requests k).applicationId = applicationId ∧ (requests k).key = some other ∧
    other.toList.take 128 = key.toList.take 128 ∧ (requests k).task text jobId ∈ queue

def FetchRequest.Replays (request : FetchRequest) (jobId : String) (queue : List FetchTask) :
    Prop :=
  ∃ key, request.key = some key ∧ Submitted text requests request.applicationId key jobId queue

def Response.Names (request : FetchRequest) (queue : List FetchTask) : Response ρ → Prop
  | .accepted response => request.task text response.jobId ∈ queue
  | .result response => request.task text response.jobId ∈ queue
  | .replayed jobId _ _ _ => request.Replays text requests jobId queue

/-- The same of a request on its way to an answer. -/
def Phase.Names (request : FetchRequest) (queue : List FetchTask) : Phase ρ → Prop
  | .closePool job | .observe job | .store job | .poll job _ | .sleep job _
  | .readStatus job true | .readError job true _ => request.task text job ∈ queue
  | .readStatus job false | .readError job false _ => request.Replays text requests job queue
  | .responded response => response.Names text requests request queue
  | _ => True

structure Named (state : State ρ) : Prop where
  cells : ∀ applicationId key jobId,
    JobService.handleIdempotency state.redis key applicationId = some jobId →
      Submitted text requests applicationId key jobId state.redis.queue
  phases : ∀ i, (state.phases i).Names text requests (requests i) state.redis.queue

variable {text requests} {queue later : List FetchTask} {request : FetchRequest}
  {redis : Redis ρ} {phase next : Phase ρ} {state : State ρ}

theorem Submitted.mono {applicationId : Uuid} {key jobId : String}
    (h : Submitted text requests applicationId key jobId queue) (hsubset : queue ⊆ later) :
    Submitted text requests applicationId key jobId later := by
  obtain ⟨k, other, happlication, hkey, hcell, hmem⟩ := h
  exact ⟨k, other, happlication, hkey, hcell, hsubset hmem⟩

theorem FetchRequest.Replays.mono {jobId : String} (h : request.Replays text requests jobId queue)
    (hsubset : queue ⊆ later) : request.Replays text requests jobId later := by
  obtain ⟨key, hkey, hsubmitted⟩ := h
  exact ⟨key, hkey, hsubmitted.mono hsubset⟩

theorem Phase.Names.mono (h : phase.Names text requests request queue) (hsubset : queue ⊆ later) :
    phase.Names text requests request later := by
  cases phase with
  | admission => trivial
  | lookup => trivial
  | createPool job => trivial
  | setStatus job => trivial
  | enqueueJob job => trivial
  | raised during applied => trivial
  | closePool job => exact hsubset h
  | observe job => exact hsubset h
  | store job => exact hsubset h
  | poll job left => exact hsubset h
  | sleep job left => exact hsubset h
  | readStatus job sync =>
      cases sync with
      | true => exact hsubset h
      | false => exact FetchRequest.Replays.mono h hsubset
  | readError job sync data =>
      cases sync with
      | true => exact hsubset h
      | false => exact FetchRequest.Replays.mono h hsubset
  | responded response =>
      cases response with
      | accepted response => exact hsubset h
      | result response => exact hsubset h
      | replayed jobId status createdAt idempotencyKey => exact FetchRequest.Replays.mono h hsubset

theorem command_queue (now : Instant) :
    (phase.command text request now redis).queue =
      match phase with
      | .enqueueJob job => redis.queue ++ [request.task text job]
      | _ => redis.queue := by
  cases phase with
  | store job =>
      simp only [Phase.command]
      split <;> rfl
  | _ => rfl

theorem queue_subset_command (now : Instant) :
    redis.queue ⊆ (phase.command text request now redis).queue := by
  rw [command_queue]
  split
  · exact List.subset_append_left _ _
  · exact List.Subset.refl _

theorem finish_names {job : String} {now : Instant} (h : request.task text job ∈ queue) :
    (request.finish text job now : Phase ρ).Names text requests request queue := by
  unfold FetchRequest.finish
  split
  · exact h
  · exact h

theorem resume_names {drawn : String} {now : Instant}
    (hcells : ∀ applicationId key jobId,
      JobService.handleIdempotency redis key applicationId = some jobId →
        Submitted text requests applicationId key jobId redis.queue)
    (hphase : phase.Names text requests request redis.queue)
    (h : phase.resume text request redis drawn now = some next) :
    next.Names text requests request (phase.command text request now redis).queue := by
  cases resume_resumed h with
  | found existing hfound =>
      obtain ⟨key, hkey, hcell⟩ := Option.bind_eq_some_iff.mp hfound
      exact ⟨key, hkey, hcells _ _ _ hcell⟩
  | read job sync data hdata =>
      cases sync with
      | true => exact hphase
      | false => exact hphase
  | enqueued job =>
      rw [command_queue]
      exact List.mem_append_right _ (List.mem_singleton_self _)
  | unstored job hkey => exact finish_names hphase
  | stored job =>
      rw [command_queue]
      exact finish_names hphase
  | keyed | unkeyed | missed | unread | pooled | written | lost => trivial
  | replayed | answered | closed | observed | ended | unfinished | awake | timedOut => exact hphase

theorem command_cells {i : Nat} {now : Instant}
    (hcells : ∀ applicationId key jobId,
      JobService.handleIdempotency redis key applicationId = some jobId →
        Submitted text requests applicationId key jobId redis.queue)
    (hphase : phase.Names text requests (requests i) redis.queue) :
    ∀ applicationId key jobId,
      JobService.handleIdempotency (phase.command text (requests i) now redis) key applicationId =
        some jobId →
      Submitted text requests applicationId key jobId
        (phase.command text (requests i) now redis).queue := by
  intro applicationId key jobId h
  cases phase with
  | store job =>
      simp only [Phase.command] at h ⊢
      split at h
      · rename_i own hown
        simp only [JobService.handleIdempotency, JobService.storeIdempotency] at h
        split at h
        · rename_i hcell
          cases h
          obtain ⟨happlication, hbegin⟩ := idempotencyKey_inj hcell
          exact ⟨i, own, happlication.symm, hown, hbegin.symm, hphase⟩
        · exact hcells _ _ _ h
      · exact hcells _ _ _ h
  | enqueueJob job =>
      exact (hcells _ _ _ h).mono (List.subset_append_left _ _)
  | _ => exact hcells _ _ _ h

theorem named_initial : Named text requests (State.initial : State ρ) where
  cells := fun _ _ _ h => by cases h
  phases := fun _ => trivial

theorem Named.step {action : Action ρ} {after : State ρ} (h : Named text requests state)
    (hstep : Jobs.step text requests state action = some after) :
    Named text requests after := by
  cases action with
  | complete i drawn now =>
      obtain ⟨phase, hresume, hafter⟩ := Option.bind_eq_some_iff.mp hstep
      cases hafter
      refine ⟨command_cells h.cells (h.phases i), fun k => ?_⟩
      by_cases hk : k = i
      · subst hk
        simp only [Function.update_self]
        exact resume_names h.cells (h.phases k) hresume
      · simp only [Function.update_of_ne hk]
        exact (h.phases k).mono (queue_subset_command now)
  | raise i applied now =>
      obtain ⟨phase, -, hafter⟩ := Option.bind_eq_some_iff.mp hstep
      cases hafter
      cases applied with
      | true =>
          refine ⟨command_cells h.cells (h.phases i), fun k => ?_⟩
          by_cases hk : k = i
          · subst hk
            simp only [Function.update_self]
            trivial
          · simp only [Function.update_of_ne hk]
            exact (h.phases k).mono (queue_subset_command now)
      | false =>
          refine ⟨h.cells, fun k => ?_⟩
          by_cases hk : k = i
          · subst hk
            simp only [Function.update_self]
            trivial
          · simp only [Function.update_of_ne hk]
            exact h.phases k
  | work jobId data error =>
      cases hstep
      cases error with
      | none => exact ⟨h.cells, h.phases⟩
      | some message => exact ⟨h.cells, h.phases⟩

/-- Whatever interleaves and fails, an answer that is no replay names a job that is queued with
the request's own url, mode, options, callback and application; and a replay names one that a
request of the same application queued, whose key begins with the same 128 characters. -/
theorem answers_name_jobs (text : TextMethods) (requests : Nat → FetchRequest)
    (actions : List (Action ρ)) (state : State ρ)
    (hrun : run (Jobs.step text requests) .initial actions = some state) (i : Nat)
    (response : Response ρ) (hresponse : state.phases i = .responded response) :
    response.Names text requests (requests i) state.redis.queue := by
  have hnamed : Named text requests state :=
    run_kept (fun _ _ _ h hstep => h.step hstep) named_initial hrun
  have hphase := hnamed.phases i
  rwa [hresponse] at hphase

def twoRequests : Nat → FetchRequest := fun _ =>
  { body := { url := "https://example.com/", idempotencyKey := some "key-1" }
    apiKeyPrefix := "crwlAb-1"
    applicationId := 1
    domain := "example.com" }

def acceptedThenReplayed : List (Action Unit) :=
  List.replicate 8 (.complete 0 "job-a" 0) ++ List.replicate 4 (.complete 1 "job-b" 0)

theorem answers_name_jobs_replayed : ∃ state response,
    run (Jobs.step asciiText twoRequests) .initial acceptedThenReplayed = some state ∧
      state.phases 1 = .responded response ∧
        response.Names asciiText twoRequests (twoRequests 1) state.redis.queue :=
  ⟨_, _, rfl, rfl, answers_name_jobs asciiText twoRequests acceptedThenReplayed _ rfl 1 _ rfl⟩

end Answers

end CrawlerApi.Jobs
