import CrawlerApi.Jobs.BatchAdmission

/-!
# What a batch leaves behind, and what its answer tells of it

In any run each request has its own events in the one order of the code, and the jobs it
reports are in the queue.
-/

namespace CrawlerApi.Jobs.BatchAdmission

open Foundation Keys Limits

section Runs

variable {ρ : Type} {tables : TextTables} {registeredDomain : String → String}
  {ssrfEnabled : Bool} {requests : Nat → BatchRequest} {state : State ρ} {log : List Entry}

/-- What a step does to the phases: at most one request moves on, and leaves at most one event. -/
structure Moves (tables : TextTables) (registeredDomain : String → String) (ssrfEnabled : Bool)
    (requests : Nat → BatchRequest) (state next : State ρ) (i : Nat) (phase : Phase)
    (event : Option Event) : Prop where
  phases : next.phases = Function.update state.phases i phase
  tracks : ∀ events,
    (state.phases i).Tracks tables registeredDomain ssrfEnabled (requests i) events →
    phase.Tracks tables registeredDomain ssrfEnabled (requests i) (events ++ event.toList)

def Advances (tables : TextTables) (registeredDomain : String → String) (ssrfEnabled : Bool)
    (requests : Nat → BatchRequest) (state : State ρ) (action : Action ρ) : Prop :=
  ((step tables registeredDomain ssrfEnabled requests state action).1.phases = state.phases ∧
      (step tables registeredDomain ssrfEnabled requests state action).2 = none) ∨
    ∃ i phase event, Moves tables registeredDomain ssrfEnabled requests state
        (step tables registeredDomain ssrfEnabled requests state action).1 i phase event ∧
      (step tables registeredDomain ssrfEnabled requests state action).2 = event.map (⟨i, ·⟩)

theorem advances_receive (i : Nat) (dns : Nat → Resolver) (order : List String) (jobId : String) :
    Advances tables registeredDomain ssrfEnabled requests state (.receive i dns order jobId) := by
  unfold Advances step
  dsimp only
  split
  · rename_i hphase
    split
    · rename_i horder
      split
      · rename_i failure hguard
        refine .inr ⟨i, _, none, ⟨rfl, fun events hevents => ?_⟩, rfl⟩
        rw [hphase] at hevents
        subst hevents
        cases failure with
        | httpException statusCode detail => rfl
        | raised message => exact .inl rfl
      · rename_i hguard
        refine .inr ⟨i, _, some (.guarded dns), ⟨rfl, fun events hevents => ?_⟩, rfl⟩
        rw [hphase] at hevents
        subst hevents
        exact tracks_admitted (guarded_of_ok hguard) horder jobId
    · exact .inl ⟨rfl, rfl⟩
  · exact .inl ⟨rfl, rfl⟩

theorem advances_complete (i : Nat) (jobId batchId : String) (evaluation : Evaluation)
    (now : Instant) : Advances tables registeredDomain ssrfEnabled requests state
      (.complete i jobId batchId evaluation now) := by
  unfold Advances step
  dsimp only
  split
  · rename_i domain left hphase
    split
    · rename_i message _
      refine .inr ⟨i, _, none, ⟨rfl, fun events hevents => ?_⟩, rfl⟩
      rw [hphase] at hevents
      rw [Option.toList_none, List.append_nil]
      exact tracks_unresolved hevents
    · refine .inr ⟨i, _, none, ⟨rfl, fun events hevents => ?_⟩, rfl⟩
      rw [hphase] at hevents
      rw [Option.toList_none, List.append_nil]
      exact hevents
  · rename_i domain rps left hphase
    refine .inr ⟨i, _, some (.charged domain rps _), ⟨rfl, fun events hevents => ?_⟩, rfl⟩
    rw [hphase] at hevents
    obtain ⟨trace, hpassed, htasks, hinfo, rfl⟩ := hevents
    exact tracks_charged hpassed htasks hinfo jobId
  · rename_i stage task jobIds left hphase
    refine .inr ⟨i, _, stage.event task, ⟨rfl, fun events hevents => ?_⟩, rfl⟩
    rw [hphase] at hevents
    exact tracks_nextStage hevents jobId
  · rename_i jobIds hphase
    refine .inr ⟨i, _, some (.recorded _), ⟨rfl, fun events hevents => ?_⟩, rfl⟩
    rw [hphase] at hevents
    exact tracks_recorded hevents batchId now
  · exact .inl ⟨rfl, rfl⟩

theorem advances_raise (i : Nat) (applied : Bool) (message batchId : String) (now : Instant) :
    Advances tables registeredDomain ssrfEnabled requests state
      (.raise i applied message batchId now) := by
  unfold Advances step
  dsimp only
  split
  · rename_i domain left hphase
    refine .inr ⟨i, _, none, ⟨rfl, fun events hevents => ?_⟩, rfl⟩
    rw [hphase] at hevents
    rw [Option.toList_none, List.append_nil]
    exact tracks_unresolved hevents
  · rename_i stage task jobIds left hphase
    refine .inr ⟨i, .responded (.refused (.raised message)),
      if applied then stage.event task else none, ⟨?_, fun events hevents => ?_⟩, ?_⟩
    · cases applied <;> rfl
    · rw [hphase] at hevents
      cases applied with
      | false => exact tracks_interrupted false hevents
      | true => exact tracks_interrupted true hevents
    · cases applied <;> rfl
  · rename_i jobIds hphase
    refine .inr ⟨i, .responded (.refused (.raised message)),
      if applied then some (.recorded ⟨batchId, jobIds, now, (requests i).urls.length⟩)
      else none, ⟨?_, fun events hevents => ?_⟩, ?_⟩
    · cases applied <;> rfl
    · rw [hphase] at hevents
      cases applied with
      | false => exact tracks_unrecorded false hevents batchId now
      | true => exact tracks_unrecorded true hevents batchId now
    · cases applied <;> rfl
  · exact .inl ⟨rfl, rfl⟩

theorem step_advances (state : State ρ) (action : Action ρ) :
    Advances tables registeredDomain ssrfEnabled requests state action := by
  cases action with
  | receive i dns order jobId => exact advances_receive i dns order jobId
  | complete i jobId batchId evaluation now =>
      exact advances_complete i jobId batchId evaluation now
  | raise i applied message batchId now => exact advances_raise i applied message batchId now
  | elsewhere limits policies redis batches tasks => exact .inl ⟨rfl, rfl⟩

theorem eventsOf_append (i : Nat) (before after : List Entry) :
    eventsOf i (before ++ after) = eventsOf i before ++ eventsOf i after :=
  List.filterMap_append

theorem eventsOf_self (i : Nat) (event : Option Event) :
    eventsOf i (event.map fun event => Entry.mk i event).toList = event.toList := by
  cases event with
  | none => rfl
  | some event => simp [eventsOf]

theorem eventsOf_other {i j : Nat} (h : i ≠ j) (event : Option Event) :
    eventsOf j (event.map fun event => Entry.mk i event).toList = [] := by
  cases event with
  | none => rfl
  | some event => simp [eventsOf, h]

/-- Every request's history is the one of the await it stands at, and its jobs are queued. -/
structure Tracked (tables : TextTables) (registeredDomain : String → String) (ssrfEnabled : Bool)
    (requests : Nat → BatchRequest) (state : State ρ) (log : List Entry) : Prop where
  phases : ∀ i, (state.phases i).Tracks tables registeredDomain ssrfEnabled (requests i)
    (eventsOf i log)
  queue : ∀ i task, .queued task ∈ eventsOf i log → task ∈ state.store.redis.queue

theorem tracked_phases (action : Action ρ)
    (h : Tracked tables registeredDomain ssrfEnabled requests state log) (j : Nat) :
    ((step tables registeredDomain ssrfEnabled requests state action).1.phases j).Tracks tables
      registeredDomain ssrfEnabled (requests j) (eventsOf j
        (log ++ (step tables registeredDomain ssrfEnabled requests state action).2.toList)) := by
  rw [eventsOf_append]
  rcases step_advances state action with ⟨hphases, hnone⟩ | ⟨i, phase, event, hmoves, hevent⟩
  · rw [hphases, hnone]
    have hold := h.phases j
    rwa [← List.append_nil (eventsOf j log)] at hold
  · rw [hmoves.phases, hevent]
    by_cases hij : i = j
    · subst hij
      rw [Function.update_self, eventsOf_self]
      exact hmoves.tracks _ (h.phases i)
    · rw [Function.update_of_ne (Ne.symm hij), eventsOf_other hij, List.append_nil]
      exact h.phases j

theorem command_queue (stage : Stage) (task : FetchTask) (now : Instant) (redis : Redis ρ) :
    (stage.command task now redis).queue = redis.queue ++ (stage.event task).toList.map fun _ =>
      task := by
  cases stage <;> simp [Stage.command, Stage.event, JobService.setStatus, JobService.enqueueJob]

theorem step_queue (state : State ρ) (action : Action ρ) :
    ∃ tasks, (step tables registeredDomain ssrfEnabled requests state action).1.store.redis.queue =
        state.store.redis.queue ++ tasks ∧
      ∀ i task, (step tables registeredDomain ssrfEnabled requests state action).2 =
        some ⟨i, .queued task⟩ → task ∈ tasks := by
  cases action with
  | receive i dns order jobId =>
      unfold step
      dsimp only
      split
      · split
        · split
          · exact ⟨[], (List.append_nil _).symm, nofun⟩
          · exact ⟨[], (List.append_nil _).symm, nofun⟩
        · exact ⟨[], (List.append_nil _).symm, nofun⟩
      · exact ⟨[], (List.append_nil _).symm, nofun⟩
  | complete i jobId batchId evaluation now =>
      unfold step
      dsimp only
      split
      · split
        · exact ⟨[], (List.append_nil _).symm, nofun⟩
        · exact ⟨[], (List.append_nil _).symm, nofun⟩
      · exact ⟨[], (List.append_nil _).symm, nofun⟩
      · rename_i stage task jobIds left _
        refine ⟨_, command_queue stage task now state.store.redis, fun j other hevent => ?_⟩
        cases stage <;> cases hevent
        exact List.mem_singleton_self _
      · exact ⟨[], (List.append_nil _).symm, nofun⟩
      · exact ⟨[], (List.append_nil _).symm, nofun⟩
  | raise i applied message batchId now =>
      unfold step
      dsimp only
      split
      · exact ⟨[], (List.append_nil _).symm, nofun⟩
      · rename_i stage task jobIds left _
        split
        · refine ⟨_, command_queue stage task now state.store.redis, fun j other hevent => ?_⟩
          cases stage <;> cases hevent
          exact List.mem_singleton_self _
        · exact ⟨[], (List.append_nil _).symm, nofun⟩
      · split
        · exact ⟨[], (List.append_nil _).symm, nofun⟩
        · exact ⟨[], (List.append_nil _).symm, nofun⟩
      · exact ⟨[], (List.append_nil _).symm, nofun⟩
  | elsewhere limits policies redis batches tasks => exact ⟨tasks, rfl, nofun⟩

theorem mem_eventsOf {i : Nat} {event : Event} : event ∈ eventsOf i log ↔ ⟨i, event⟩ ∈ log := by
  unfold eventsOf
  rw [List.mem_filterMap]
  constructor
  · rintro ⟨⟨j, other⟩, hmem, hsome⟩
    dsimp only at hsome
    split at hsome
    · rename_i hsame
      cases hsome
      exact hsame ▸ hmem
    · cases hsome
  · intro hmem
    exact ⟨⟨i, event⟩, hmem, if_pos rfl⟩

theorem tracked_queue (action : Action ρ)
    (h : Tracked tables registeredDomain ssrfEnabled requests state log) (i : Nat)
    (task : FetchTask) (hqueued : .queued task ∈ eventsOf i (log ++
      (step tables registeredDomain ssrfEnabled requests state action).2.toList)) :
    task ∈
      (step tables registeredDomain ssrfEnabled requests state action).1.store.redis.queue := by
  obtain ⟨tasks, hqueue, hreported⟩ :=
    @step_queue ρ tables registeredDomain ssrfEnabled requests state action
  rw [hqueue]
  rcases List.mem_append.mp (mem_eventsOf.mp hqueued) with hbefore | hlast
  · exact List.mem_append_left _ (h.queue i task (mem_eventsOf.mpr hbefore))
  · exact List.mem_append_right _ (hreported i task (Option.mem_toList.mp hlast))

theorem tracked_logged (start : State ρ) (hstart : ∀ i, start.phases i = .start)
    (actions : List (Action ρ)) :
    Tracked tables registeredDomain ssrfEnabled requests
      (serveAll (step tables registeredDomain ssrfEnabled requests) start actions)
      (logged (step tables registeredDomain ssrfEnabled requests) start actions) := by
  have hinit : Tracked tables registeredDomain ssrfEnabled requests start [] :=
    ⟨fun i => by rw [hstart i]; rfl, fun _ _ h => nomatch h⟩
  have hrun := logged_invariant (Tracked tables registeredDomain ssrfEnabled requests)
    (fun _ _ action h => ⟨tracked_phases action h, tracked_queue action h⟩) actions hinit
  rwa [List.nil_append] at hrun

theorem Phase.Tracks.orderly {request : BatchRequest} {phase : Phase} {events : List Event}
    (h : phase.Tracks tables registeredDomain ssrfEnabled request events) :
    events = [] ∨ ∃ trace, Orderly tables registeredDomain ssrfEnabled request trace ∧
      events = trace.events := by
  cases phase with
  | start => exact .inl h
  | resolve domain left =>
      obtain ⟨trace, hpassed, htasks, hinfo, hevents⟩ := h
      exact .inr ⟨trace, hpassed.orderly htasks hinfo, hevents⟩
  | check domain rps left =>
      obtain ⟨trace, hpassed, htasks, hinfo, hevents⟩ := h
      exact .inr ⟨trace, hpassed.orderly htasks hinfo, hevents⟩
  | enqueue stage task jobIds left =>
      obtain ⟨trace, url, hfiled, htask, hinfo, rfl⟩ := h
      cases stage.isQueued with
      | false => exact .inr ⟨trace, hfiled.orderly hinfo, List.append_nil _⟩
      | true => exact .inr ⟨_, (hfiled.queue htask).orderly hinfo, (events_task hinfo task).symm⟩
  | save jobIds =>
      obtain ⟨trace, hfiled, hinfo, hevents⟩ := h
      exact .inr ⟨trace, hfiled.orderly hinfo, hevents⟩
  | responded reply =>
      cases reply with
      | accepted response =>
          obtain ⟨trace, info, horderly, hevents, -, -⟩ := h
          exact .inr ⟨trace, horderly, hevents⟩
      | rateLimited domain result =>
          obtain ⟨trace, horderly, hevents, -⟩ := h
          exact .inr ⟨trace, horderly, hevents⟩
      | refused failure =>
          cases failure with
          | httpException statusCode detail => exact .inl h
          | raised message => exact h

/-- Whatever runs at the same time, a batch does nothing before the guard has accepted all its
URLs, charges no domain twice, queues nothing before every domain is admitted, and queues one
job for each URL, in order. -/
theorem batch_histories (tables : TextTables) (registeredDomain : String → String)
    (ssrfEnabled : Bool) (requests : Nat → BatchRequest) (start : State ρ)
    (hstart : ∀ i, start.phases i = .start) (actions : List (Action ρ)) (i : Nat) :
    eventsOf i (logged (step tables registeredDomain ssrfEnabled requests) start actions) = [] ∨
      ∃ trace, Orderly tables registeredDomain ssrfEnabled (requests i) trace ∧
        eventsOf i (logged (step tables registeredDomain ssrfEnabled requests) start actions) =
          trace.events :=
  ((tracked_logged start hstart actions).phases i).orderly

/-- What the answer to a batch tells of what it left behind and of the queue. -/
def Reply.Tells (tables : TextTables) (registeredDomain : String → String)
    (request : BatchRequest) (queue : List FetchTask) (events : List Event) : Reply → Prop
  | .accepted response => ∃ (tasks : List FetchTask) (createdAt : Instant),
      List.Forall₂ (Files tables registeredDomain request) request.urls tasks ∧
        response.jobIds = tasks.map FetchTask.jobId ∧
        response.totalCount = request.urls.length ∧
        (∀ task ∈ tasks, task ∈ queue) ∧
        .recorded ⟨response.batchId, response.jobIds, createdAt, response.totalCount⟩ ∈ events
  -- nothing comes after the charge that was denied
  | .rateLimited domain result => result.allowed = false ∧
      (∃ rps, events.getLast? = some (.charged domain rps result)) ∧
      ∀ task, .queued task ∉ events
  | .refused (.httpException ..) => events = []
  | .refused (.raised _) => True

theorem mem_events_task {trace : Trace} {task : FetchTask} :
    .queued task ∈ trace.events ↔ task ∈ trace.tasks := by
  simp [Trace.events]

/-- The history of a batch that queued nothing ends with its last charge. -/
theorem getLast?_events {trace : Trace} {charge : Charge} (htasks : trace.tasks = [])
    (hinfo : trace.info = none) (hlast : trace.charges.getLast? = some charge) :
    trace.events.getLast? = some (.charged charge.domain charge.rps charge.result) := by
  obtain ⟨before, hcharges⟩ := List.getLast?_eq_some_iff.mp hlast
  have hevents : trace.events = (.guarded trace.dns :: before.map fun charge =>
      .charged charge.domain charge.rps charge.result) ++
        [.charged charge.domain charge.rps charge.result] := by
    simp [Trace.events, htasks, hinfo, hcharges]
  rw [hevents]
  exact List.getLast?_concat

/-- An accepted batch has a job in the queue for each of its URLs, and its record lists them; one
refused with 422 has charged no domain, and one refused with 429 has queued nothing and ended with
the charge it reports. -/
theorem batch_answers (tables : TextTables) (registeredDomain : String → String)
    (ssrfEnabled : Bool) (requests : Nat → BatchRequest) (start : State ρ)
    (hstart : ∀ i, start.phases i = .start) (actions : List (Action ρ)) (i : Nat) (reply : Reply)
    (hreply : (serveAll (step tables registeredDomain ssrfEnabled requests) start
      actions).phases i = .responded reply) :
    reply.Tells tables registeredDomain (requests i)
      (serveAll (step tables registeredDomain ssrfEnabled requests) start
        actions).store.redis.queue
      (eventsOf i (logged (step tables registeredDomain ssrfEnabled requests) start actions)) := by
  have htracked := @tracked_logged ρ tables registeredDomain ssrfEnabled requests start hstart
    actions
  have hphase := htracked.phases i
  rw [hreply] at hphase
  cases reply with
  | accepted response =>
      obtain ⟨trace, info, horderly, hevents, hinfo, rfl⟩ := hphase
      obtain ⟨hfiled, hjobIds, htotal⟩ := horderly.recorded info hinfo
      refine ⟨trace.tasks, info.createdAt, hfiled, hjobIds, htotal, fun task htask => ?_, ?_⟩
      · refine htracked.queue i task ?_
        rw [hevents]
        exact mem_events_task.mpr htask
      · rw [hevents]
        simp [Trace.events, hinfo]
  | rateLimited domain result =>
      obtain ⟨trace, -, hevents, htasks, hinfo, charge, hlast, rfl, rfl, hdenied⟩ := hphase
      refine ⟨hdenied, ⟨charge.rps, ?_⟩, fun task hmem => ?_⟩
      · rw [hevents]
        exact getLast?_events htasks hinfo hlast
      · rw [hevents, mem_events_task, htasks] at hmem
        cases hmem
  | refused failure =>
      cases failure with
      | httpException statusCode detail => exact hphase
      | raised message => trivial

end Runs

/-! ### A batch of two URLs -/

def pairRequests : Nat → BatchRequest := fun _ =>
  { urls := ["http://example.com/a", "http://www.example.com/b"], apiKeyPrefix := "pk"
    applicationId := 1 }

def noBatches : State Unit where
  limits := Limits.Redis.empty
  policies := Worker.emptyPolicies
  store := emptyStore
  phases := fun _ => .start

def pairRun : List (Action Unit) :=
  let await (jobId : String) : Action Unit :=
    .complete 0 jobId "batch"
      { started := 0, evaluatedAt := 0, random := id, outcome := .refused } 5
  .receive 0 (fun _ _ => .addresses []) ["example.com"] "" :: await "" :: await "job-a" ::
    List.replicate 4 (await "") ++ await "job-b" :: List.replicate 6 (await "")

def Phase.accepted : Phase → Option (String × List String × Nat)
  | .responded (.accepted response) =>
      some (response.batchId, response.jobIds, response.totalCount)
  | _ => none

theorem eq_of_accepted {phase : Phase} {batchId : String} {jobIds : List String} {total : Nat}
    (h : phase.accepted = some (batchId, jobIds, total)) :
    phase = .responded (.accepted ⟨batchId, jobIds, total⟩) := by
  unfold Phase.accepted at h
  split at h
  · cases h
    rfl
  · cases h

def pairStep : State Unit → Action Unit → State Unit × Option Entry :=
  step asciiTables (fun _ => "example.com") false pairRequests

theorem batch_histories_pair : eventsOf 0 (logged pairStep noBatches pairRun) = [] ∨
    ∃ trace, Orderly asciiTables (fun _ => "example.com") false (pairRequests 0) trace ∧
      eventsOf 0 (logged pairStep noBatches pairRun) = trace.events :=
  batch_histories asciiTables (fun _ => "example.com") false pairRequests noBatches (fun _ => rfl)
    pairRun 0

theorem pair_responded : (serveAll pairStep noBatches pairRun).phases 0 =
    .responded (.accepted ⟨"batch", ["job-a", "job-b"], 2⟩) :=
  eq_of_accepted (by decide +kernel)

theorem batch_answers_pair : (Reply.accepted ⟨"batch", ["job-a", "job-b"], 2⟩).Tells asciiTables
    (fun _ => "example.com") (pairRequests 0)
    (serveAll pairStep noBatches pairRun).store.redis.queue
    (eventsOf 0 (logged pairStep noBatches pairRun)) :=
  batch_answers asciiTables (fun _ => "example.com") false pairRequests noBatches (fun _ => rfl)
    pairRun 0 _ pair_responded

end CrawlerApi.Jobs.BatchAdmission
