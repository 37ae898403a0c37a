import CrawlerApi.Jobs.Queueing

/-!
# The answer of a sync request

`create_fetch` polls the status and then reads it again for its answer.  What it answers with is
final all the same, as long as the worker takes no job back.
-/

namespace CrawlerApi.Jobs

open Keys Foundation

def JobStatus.final : JobStatus → Bool
  | .completed | .failed => true
  | .pending | .running => false

theorem ended_of_final {status : JobStatus} (h : status.final = true) :
    status = .completed ∨ status = .failed := by
  cases status with
  | completed => exact .inl rfl
  | failed => exact .inr rfl
  | pending => cases h
  | running => cases h

theorem final_of_ended {status : JobStatus} (h : status = .completed ∨ status = .failed) :
    status.final = true := by
  rcases h with rfl | rfl
  · rfl
  · rfl

section Sync

variable {ρ : Type} {text : TextMethods} {requests : Nat → FetchRequest} {redis : Redis ρ}
  {state : State ρ}

/-- The worker writes about queued jobs only, and never takes one back. -/
def WorksForward (state : State ρ) : Action ρ → Prop
  | .work jobId data _ => jobId ∈ state.redis.queue.map FetchTask.jobId ∧
      ∀ before, state.redis.jobStatus jobId = some before → before.status.final = true →
        data.status.final = true
  | .complete .. | .raise .. => True

def Redis.Finished (redis : Redis ρ) (jobId : String) : Prop :=
  ∃ data, redis.jobStatus jobId = some data ∧ data.status.final = true

def Phase.Knows (redis : Redis ρ) : Phase ρ → Prop
  | .createPool job | .setStatus job => redis.jobStatus job = none
  | .readStatus job true => redis.Finished job
  | .readError _ true data => data.status.final = true
  | .responded (.result response) => response.status.final = true
  | _ => True

structure Settled (text : TextMethods) (requests : Nat → FetchRequest) (state : State ρ) :
    Prop where
  matched : Matched text requests state.claims state.redis.queue
  claimed : ∀ job data, state.redis.jobStatus job = some data →
    ∃ i queued, state.claims i = some (job, queued)
  knows : ∀ i, (state.phases i).Knows state.redis

variable {phase next : Phase ρ} {request : FetchRequest} {later : Redis ρ}

theorem Phase.Knows.congr (h : phase.Knows redis)
    (hsame : ∀ job queued, phase.claim = some (job, queued) →
      later.jobStatus job = redis.jobStatus job) : phase.Knows later := by
  cases phase with
  | createPool job => exact (hsame job false rfl).trans h
  | setStatus job => exact (hsame job false rfl).trans h
  | readStatus job sync =>
      cases sync with
      | true =>
          obtain ⟨data, hdata, hfinal⟩ := h
          exact ⟨data, (hsame job true rfl).trans hdata, hfinal⟩
      | false => trivial
  | readError job sync data =>
      cases sync with
      | true => exact h
      | false => trivial
  | responded response =>
      cases response with
      | result response => exact h
      | accepted response => trivial
      | replayed jobId status createdAt idempotencyKey => trivial
  | _ => trivial

theorem command_jobStatus (phase : Phase ρ) (redis : Redis ρ) (request : FetchRequest)
    (now : Instant) (job : String) :
    (phase.command text request now redis).jobStatus job = redis.jobStatus job ∨
      phase = .setStatus job := by
  cases phase with
  | setStatus own =>
      by_cases hjob : job = own
      · exact .inr (hjob ▸ rfl)
      · exact .inl (if_neg hjob)
  | store own =>
      simp only [Phase.command]
      split
      · exact .inl rfl
      · exact .inl rfl
  | _ => exact .inl rfl

theorem Stirs.keeps {file : String → FetchTask} {drawn : Option String}
    {queue after : List FetchTask} {before claim : Option (String × Bool)} {job : String}
    {queued : Bool} (h : Stirs file drawn queue before claim after)
    (hbefore : before = some (job, queued)) : ∃ now, claim = some (job, now) := by
  cases h with
  | stay => exact ⟨queued, hbefore⟩
  | draw => cases hbefore
  | enqueue =>
      cases hbefore
      exact ⟨true, rfl⟩

theorem knows_finish {job : String} {now : Instant} :
    (request.finish text job now : Phase ρ).Knows redis := by
  unfold FetchRequest.finish
  split
  · trivial
  · trivial

theorem resume_knows {drawn : String} {now : Instant} (h : phase.Knows redis)
    (hfresh : phase.draws = true → redis.jobStatus drawn = none)
    (hresume : phase.resume text request redis drawn now = some next) :
    next.Knows (phase.command text request now redis) := by
  cases resume_resumed hresume with
  | unkeyed | missed => exact hfresh rfl
  | read job sync data hdata =>
      cases sync with
      | true =>
          obtain ⟨stored, hstored, hfinal⟩ := h
          rw [hdata] at hstored
          cases hstored
          exact hfinal
      | false => trivial
  | answered job data => exact h
  | pooled job => exact h
  | unstored job hkey => exact knows_finish
  | stored job => exact knows_finish
  | ended job left data hdata hended => exact ⟨data, hdata, final_of_ended hended⟩
  | _ => trivial

theorem Settled.others {i : Nat} {drawn : Option String} {claim : Option (String × Bool)}
    {queue : List FetchTask} {claims : Nat → Option (String × Bool)}
    (h : Settled text requests state)
    (hstirs : Stirs ((requests i).task text) drawn state.redis.queue (state.claims i) claim queue)
    (hclaims : claims = Function.update state.claims i claim)
    (hwrites : ∀ job, later.jobStatus job = state.redis.jobStatus job ∨
      state.phases i = .setStatus job) :
    (∀ job data, later.jobStatus job = some data → ∃ k queued, claims k = some (job, queued)) ∧
      ∀ k, k ≠ i → (state.phases k).Knows later := by
  have hkept : ∀ k job queued, state.claims k = some (job, queued) →
      ∃ kept, claims k = some (job, kept) := by
    intro k job queued hk
    rw [hclaims]
    by_cases hki : k = i
    · subst hki
      rw [Function.update_self]
      exact hstirs.keeps hk
    · exact ⟨queued, by rw [Function.update_of_ne hki, hk]⟩
  refine ⟨fun job data hdata => ?_, fun k hki => ?_⟩
  · rcases hwrites job with hsame | hown
    · obtain ⟨k, queued, hk⟩ := h.claimed job data (hsame ▸ hdata)
      exact ⟨k, hkept k job queued hk⟩
    · exact ⟨i, hkept i job false (congrArg Phase.claim hown)⟩
  · refine (h.knows k).congr fun job queued hk => ?_
    rcases hwrites job with hsame | hown
    · exact hsame
    · exact absurd (h.matched.apart k i job queued false hk (congrArg Phase.claim hown)) hki

theorem Settled.worked {jobId : String} {data : StatusData ρ} (h : Settled text requests state)
    (hqueued : jobId ∈ state.redis.queue.map FetchTask.jobId)
    (hfinal : ∀ before, state.redis.jobStatus jobId = some before → before.status.final = true →
      data.status.final = true)
    (hlater : ∀ job, later.jobStatus job =
      if job = jobId then some data else state.redis.jobStatus job)
    (hmatched : Matched text requests state.claims later.queue) :
    Settled text requests { state with redis := later } where
  matched := hmatched
  claimed := by
    intro job written hjob
    dsimp only at hjob
    rw [hlater] at hjob
    split at hjob
    · rename_i hsame
      obtain ⟨task, htask, hid⟩ := List.mem_map.mp hqueued
      obtain ⟨i, hi, -⟩ := h.matched.queued task htask
      exact ⟨i, true, by rw [hsame, ← hid]; exact hi⟩
    · exact h.claimed job written hjob
  knows := by
    intro k
    have hknows := h.knows k
    by_cases hown : ∃ queued, state.claims k = some (jobId, queued)
    · obtain ⟨queued, hclaim⟩ := hown
      cases queued with
      | false => exact absurd hqueued (h.matched.waiting k jobId hclaim)
      | true =>
          unfold State.claims at hclaim
          dsimp only
          cases hphase : state.phases k with
          | createPool job =>
              rw [hphase] at hclaim
              cases hclaim
          | setStatus job =>
              rw [hphase] at hclaim
              cases hclaim
          | readStatus job sync =>
              rw [hphase] at hknows hclaim
              cases sync with
              | true =>
                  cases hclaim
                  obtain ⟨stored, hstored, hbefore⟩ := hknows
                  exact ⟨data, by rw [hlater, if_pos rfl], hfinal stored hstored hbefore⟩
              | false => trivial
          | readError job sync read =>
              rw [hphase] at hknows
              cases sync with
              | true => exact hknows
              | false => trivial
          | responded response =>
              rw [hphase] at hknows
              cases response with
              | result response => exact hknows
              | accepted response => trivial
              | replayed job status createdAt idempotencyKey => trivial
          | _ => trivial
    · refine hknows.congr fun job queued hclaim => ?_
      rw [hlater, if_neg]
      rintro rfl
      exact hown ⟨queued, hclaim⟩

theorem Settled.step {action : Action ρ} {after : State ρ} (h : Settled text requests state)
    (hfresh : FreshDraw state action) (hforward : WorksForward state action)
    (hstep : Jobs.step text requests state action = some after) :
    Settled text requests after := by
  have hmatched := matched_step h.matched hfresh hstep
  cases action with
  | complete i drawn now =>
      obtain ⟨phase, hresume, hafter⟩ := Option.bind_eq_some_iff.mp hstep
      cases hafter
      obtain ⟨hclaimed, hothers⟩ := h.others (resume_stirs hresume)
        (claims_update state.phases i phase)
        (command_jobStatus (state.phases i) state.redis (requests i) now)
      refine ⟨hmatched, hclaimed, fun k => ?_⟩
      by_cases hki : k = i
      · subst hki
        simp only [Function.update_self]
        refine resume_knows (h.knows k) (fun hdraws => ?_) hresume
        cases hstatus : state.redis.jobStatus drawn with
        | none => rfl
        | some data =>
            obtain ⟨other, queued, hother⟩ := h.claimed drawn data hstatus
            exact absurd hother (hfresh hdraws other queued)
      · simp only [Function.update_of_ne hki]
        exact hothers k hki
  | raise i applied now =>
      obtain ⟨phase, hresume, hafter⟩ := Option.bind_eq_some_iff.mp hstep
      cases hafter
      have hwrites : ∀ job, (if applied then
            (state.phases i).command text (requests i) now state.redis
          else state.redis).jobStatus job = state.redis.jobStatus job ∨
            state.phases i = .setStatus job := by
        intro job
        split
        · exact command_jobStatus (state.phases i) state.redis (requests i) now job
        · exact .inl rfl
      obtain ⟨hclaimed, hothers⟩ := h.others (raise_stirs applied hresume)
        (claims_update state.phases i (.raised (state.phases i) applied)) hwrites
      refine ⟨hmatched, hclaimed, fun k => ?_⟩
      by_cases hki : k = i
      · subst hki
        simp only [Function.update_self]
        trivial
      · simp only [Function.update_of_ne hki]
        exact hothers k hki
  | work jobId data error =>
      obtain ⟨hqueued, hfinal⟩ := hforward
      cases hstep
      cases error with
      | none => exact h.worked hqueued hfinal (fun _ => rfl) hmatched
      | some message => exact h.worked hqueued hfinal (fun _ => rfl) hmatched

theorem settled_initial : Settled text requests (State.initial : State ρ) where
  matched := matched_initial
  claimed := fun _ _ h => by cases h
  knows := fun _ => trivial

theorem Settled.run {actions : List (Action ρ)} {final : State ρ}
    (h : Settled text requests state)
    (halong : Along (Jobs.step text requests)
      (fun state action => FreshDraw state action ∧ WorksForward state action) state actions)
    (hrun : Foundation.run (Jobs.step text requests) state actions = some final) :
    Settled text requests final :=
  run_invariant (fun _ _ _ h hguard hstep => h.step hguard.1 hguard.2 hstep) h halong hrun

/-- As long as ids are fresh and the worker writes about queued jobs and takes none back from
completed or failed, the result a sync request answers with is final. -/
theorem sync_answer_final (text : TextMethods) (requests : Nat → FetchRequest)
    (actions : List (Action ρ)) (state : State ρ)
    (hrun : run (Jobs.step text requests) .initial actions = some state)
    (halong : Along (Jobs.step text requests)
      (fun state action => FreshDraw state action ∧ WorksForward state action) .initial actions)
    (i : Nat) (response : JobResultResponse ρ)
    (hresponse : state.phases i = .responded (.result response)) :
    response.status.final = true ∧
      state.redis.queue.filter (·.jobId = response.jobId) =
        [(requests i).task text response.jobId] := by
  have hsettled : Settled text requests state := settled_initial.run halong hrun
  have hknows := hsettled.knows i
  rw [hresponse] at hknows
  have hclaim : state.claims i = some (response.jobId, true) := congrArg Phase.claim hresponse
  exact ⟨hknows, filter_jobId hsettled.matched.nodup (hsettled.matched.filed i _ hclaim)⟩

def syncRequests : Nat → FetchRequest := fun _ =>
  { body := { url := "https://example.com/", options := [("sync", .bool true)] }
    apiKeyPrefix := "crwlAb-1"
    applicationId := 1
    domain := "example.com" }

def polledToTheEnd : List (Action Unit) :=
  List.replicate 6 (.complete 0 "job-a" 0) ++
    .work "job-a" { status := .completed, createdAt := some 0, result := some () } none ::
      List.replicate 3 (.complete 0 "job-a" 0)

theorem sync_answer_final_polled : ∃ state response,
    run (Jobs.step asciiText syncRequests) .initial polledToTheEnd = some state ∧
      state.phases 0 = .responded (.result response) ∧ response.status.final = true := by
  refine ⟨_, _, rfl, rfl, (sync_answer_final asciiText syncRequests polledToTheEnd _ rfl ?_ 0 _
    rfl).1⟩
  refine .cons rfl ⟨fun _ _ _ => nofun, trivial⟩ ?_
  refine .cons rfl ⟨nofun, trivial⟩ (.cons rfl ⟨nofun, trivial⟩ ?_)
  refine .cons rfl ⟨nofun, trivial⟩ (.cons rfl ⟨nofun, trivial⟩ ?_)
  refine .cons rfl ⟨nofun, trivial⟩ (.cons rfl ⟨trivial, ?_⟩ ?_)
  · exact ⟨List.mem_singleton_self _, fun _ _ _ => rfl⟩
  refine .cons rfl ⟨nofun, trivial⟩ (.cons rfl ⟨nofun, trivial⟩ ?_)
  exact .cons rfl ⟨nofun, trivial⟩ (along_nil _)

end Sync

/-! ### Answers in time -/

section Progress

variable {ρ : Type} {text : TextMethods} {requests : Nat → FetchRequest} {request : FetchRequest}
  {redis : Redis ρ} {phase next : Phase ρ} {state after : State ρ} {jobId : String}

/-- The request is so many awaits from its answer about the finished job: its result if the
request still `reads` the status, and that it runs behind the last read. -/
inductive Phase.Answering (request : FetchRequest) (jobId : String) :
    Bool → Nat → Phase ρ → Prop
  | sleep (left : Nat) : Answering request jobId true 4 (.sleep jobId (left + 1))
  | poll (left : Nat) : Answering request jobId true 3 (.poll jobId left)
  | readStatus : Answering request jobId true 2 (.readStatus jobId true)
  | readError (data : StatusData ρ) : Answering request jobId true 1 (.readError jobId true data)
  | result {response : JobResultResponse ρ} (hjob : response.jobId = jobId) :
      Answering request jobId true 0 (.responded (.result response))
  | lastSleep : Answering request jobId false 1 (.sleep jobId 0)
  | timedOut (now : Instant) :
      Answering request jobId false 0 (request.accept jobId .running now)

def Phase.AnsweredFinal (jobId : String) (phase : Phase ρ) : Prop :=
  ∃ response, phase = .responded (.result response) ∧ response.jobId = jobId ∧
    response.status.final = true

def Action.completes (i : Nat) : Action ρ → Bool
  | .complete k _ _ => k = i
  | .raise .. | .work .. => false

def Action.raises (i : Nat) : Action ρ → Bool
  | .raise k _ _ => k = i
  | .complete .. | .work .. => false

theorem Phase.Answering.resume {reads : Bool} {left : Nat} {drawn : String} {now : Instant}
    (h : phase.Answering request jobId reads left) (hfinished : redis.Finished jobId)
    (hresume : phase.resume text request redis drawn now = some next) :
    ∃ closer, left = closer + 1 ∧ next.Answering request jobId reads closer := by
  obtain ⟨data, hdata, hfinal⟩ := hfinished
  cases h with
  | sleep left =>
      cases hresume
      exact ⟨3, rfl, .poll left⟩
  | poll left =>
      simp only [Phase.resume, hdata, if_pos (ended_of_final hfinal)] at hresume
      cases hresume
      exact ⟨2, rfl, .readStatus⟩
  | readStatus =>
      simp only [Phase.resume, hdata] at hresume
      cases hresume
      exact ⟨1, rfl, .readError data⟩
  | readError read =>
      cases hresume
      exact ⟨0, rfl, .result rfl⟩
  | lastSleep =>
      cases hresume
      exact ⟨0, rfl, .timedOut now⟩
  | result hjob | timedOut => cases hresume

/-- A finished job stays finished. -/
theorem Settled.finished {action : Action ρ} (h : Settled text requests state)
    (hforward : WorksForward state action)
    (hstep : Jobs.step text requests state action = some after)
    (hfinished : state.redis.Finished jobId) : after.redis.Finished jobId := by
  have hcommand : ∀ i now,
      ((state.phases i).command text (requests i) now state.redis).Finished jobId := by
    intro i now
    obtain ⟨data, hdata, hfinal⟩ := hfinished
    rcases command_jobStatus (state.phases i) state.redis (requests i) now jobId with hsame | hown
    · exact ⟨data, hsame.trans hdata, hfinal⟩
    · have hknows := h.knows i
      rw [hown] at hknows
      exact absurd (hknows.symm.trans hdata) nofun
  cases action with
  | complete i drawn now =>
      obtain ⟨phase, -, hafter⟩ := Option.bind_eq_some_iff.mp hstep
      cases hafter
      exact hcommand i now
  | raise i applied now =>
      obtain ⟨phase, -, hafter⟩ := Option.bind_eq_some_iff.mp hstep
      cases hafter
      cases applied with
      | false => exact hfinished
      | true => exact hcommand i now
  | work job data error =>
      obtain ⟨-, hkept⟩ := hforward
      have hwritten : (JobService.setStatus state.redis job data).Finished jobId := by
        obtain ⟨before, hbefore, hfinal⟩ := hfinished
        by_cases hsame : jobId = job
        · subst hsame
          exact ⟨data, if_pos rfl, hkept before hbefore hfinal⟩
        · exact ⟨before, (if_neg hsame).trans hbefore, hfinal⟩
      cases hstep
      cases error with
      | none => exact hwritten
      | some message => exact hwritten

theorem Phase.Answering.step {action : Action ρ} {reads : Bool} {i left : Nat}
    (h : (state.phases i).Answering (requests i) jobId reads left)
    (hfinished : state.redis.Finished jobId)
    (hraises : action.raises i = false)
    (hstep : Jobs.step text requests state action = some after) :
    ∃ closer, left = closer + (if action.completes i then 1 else 0) ∧
      (after.phases i).Answering (requests i) jobId reads closer := by
  cases action with
  | complete k drawn now =>
      obtain ⟨phase, hresume, hafter⟩ := Option.bind_eq_some_iff.mp hstep
      cases hafter
      by_cases hki : k = i
      · subst hki
        obtain ⟨closer, rfl, hnext⟩ := h.resume hfinished hresume
        refine ⟨closer, by simp [Action.completes], ?_⟩
        simpa only [Function.update_self] using hnext
      · refine ⟨left, by simp [Action.completes, hki], ?_⟩
        simpa only [Function.update_of_ne (Ne.symm hki)] using h
  | raise k applied now =>
      obtain ⟨phase, -, hafter⟩ := Option.bind_eq_some_iff.mp hstep
      cases hafter
      have hki : k ≠ i := by simpa [Action.raises] using hraises
      refine ⟨left, rfl, ?_⟩
      simpa only [Function.update_of_ne hki.symm] using h
  | work job data error =>
      cases hstep
      exact ⟨left, rfl, h⟩

theorem Phase.Answering.run {actions : List (Action ρ)} {final : State ρ} {reads : Bool}
    {i left : Nat} (h : (state.phases i).Answering (requests i) jobId reads left)
    (hfinished : state.redis.Finished jobId)
    (hsettled : Settled text requests state)
    (halong : Along (Jobs.step text requests)
      (fun state action => FreshDraw state action ∧ WorksForward state action) state actions)
    (hraises : ∀ action ∈ actions, action.raises i = false)
    (hrun : Foundation.run (Jobs.step text requests) state actions = some final) :
    ∃ closer, left = closer + actions.countP (·.completes i) ∧
      (final.phases i).Answering (requests i) jobId reads closer := by
  induction actions generalizing state left with
  | nil =>
      cases hrun
      exact ⟨left, rfl, h⟩
  | cons action actions ih =>
      obtain ⟨next, hstep, hrest⟩ := run_cons_eq_some.mp hrun
      obtain ⟨⟨hfresh, hforward⟩, hlater⟩ := halong
      obtain ⟨middle, hmiddle, hnext⟩ :=
        h.step hfinished (hraises action (List.mem_cons_self ..)) hstep
      obtain ⟨closer, hcloser, hfinal⟩ := ih hnext (hsettled.finished hforward hstep hfinished)
        (hsettled.step hfresh hforward hstep) (hlater next hstep)
        (fun other hother => hraises other (List.mem_cons_of_mem _ hother)) hrest
      refine ⟨closer, ?_, hfinal⟩
      rw [hmiddle, hcloser, List.countP_cons]
      omega

theorem Phase.Answering.answered {actions : List (Action ρ)} {final : State ρ} {reads : Bool}
    {i left : Nat} (h : (state.phases i).Answering (requests i) jobId reads left)
    (hfinished : state.redis.Finished jobId) (hsettled : Settled text requests state)
    (halong : Along (Jobs.step text requests)
      (fun state action => FreshDraw state action ∧ WorksForward state action) state actions)
    (hraises : ∀ action ∈ actions, action.raises i = false)
    (hrun : Foundation.run (Jobs.step text requests) state actions = some final)
    (hawaits : left ≤ actions.countP (·.completes i)) :
    (final.phases i).Answering (requests i) jobId reads 0 := by
  obtain ⟨closer, hcloser, hfinal⟩ := h.run hfinished hsettled halong hraises hrun
  have hzero : closer = 0 := by omega
  exact hzero ▸ hfinal

theorem Phase.Answering.answeredFinal (h : phase.Answering request jobId true 0)
    (hknows : phase.Knows redis) : phase.AnsweredFinal jobId := by
  cases h with
  | result hjob => exact ⟨_, rfl, hjob, hknows⟩

/-- Once the job of a polling request is finished, a request that reads its status answers with
the final result after three awaits, and one that sleeps before a read after four, whatever other
requests and the workers do between them; behind its last read it answers that the job runs. -/
theorem polled_answers (text : TextMethods) (requests : Nat → FetchRequest)
    (before actions : List (Action ρ)) (state final : State ρ)
    (hbefore : run (Jobs.step text requests) .initial before = some state)
    (hguarded : Along (Jobs.step text requests)
      (fun state action => FreshDraw state action ∧ WorksForward state action) .initial before)
    (i : Nat) (jobId : String) (hfinished : state.redis.Finished jobId)
    (hrun : run (Jobs.step text requests) state actions = some final)
    (halong : Along (Jobs.step text requests)
      (fun state action => FreshDraw state action ∧ WorksForward state action) state actions)
    (hraises : ∀ action ∈ actions, action.raises i = false) :
    (∀ left, state.phases i = .poll jobId left → 3 ≤ actions.countP (·.completes i) →
      (final.phases i).AnsweredFinal jobId) ∧
    (∀ left, state.phases i = .sleep jobId (left + 1) → 4 ≤ actions.countP (·.completes i) →
      (final.phases i).AnsweredFinal jobId) ∧
    (state.phases i = .sleep jobId 0 → 1 ≤ actions.countP (·.completes i) →
      ∃ now, final.phases i = (requests i).accept jobId .running now) := by
  have hsettled : Settled text requests state := settled_initial.run hguarded hbefore
  have hknows := (hsettled.run halong hrun).knows i
  refine ⟨fun left hphase hawaits => ?_, fun left hphase hawaits => ?_, fun hphase hawaits => ?_⟩
  · have hanswering : (state.phases i).Answering (requests i) jobId true 3 := hphase ▸ .poll left
    exact (hanswering.answered hfinished hsettled halong hraises hrun hawaits).answeredFinal hknows
  · have hanswering : (state.phases i).Answering (requests i) jobId true 4 := hphase ▸ .sleep left
    exact (hanswering.answered hfinished hsettled halong hraises hrun hawaits).answeredFinal hknows
  · have hanswering : (state.phases i).Answering (requests i) jobId false 1 := hphase ▸ .lastSleep
    have hlast := hanswering.answered hfinished hsettled halong hraises hrun hawaits
    generalize final.phases i = last at hlast
    cases hlast with
    | timedOut now => exact ⟨now, rfl⟩

def sleepsOnce : List (Action Unit) :=
  List.replicate 7 (.complete 0 "job-a" 0) ++
    .work "job-a" { status := .completed, createdAt := some 0, result := some () } none ::
      List.replicate 4 (.complete 0 "job-a" 0)

theorem polled_answers_asleep : ∃ state final,
    run (Jobs.step asciiText syncRequests) .initial (sleepsOnce.take 8) = some state ∧
      run (Jobs.step asciiText syncRequests) state (sleepsOnce.drop 8) = some final ∧
      state.phases 0 = .sleep "job-a" 299 ∧ (final.phases 0).AnsweredFinal "job-a" := by
  refine ⟨_, _, rfl, rfl, rfl, ?_⟩
  refine (polled_answers asciiText syncRequests (sleepsOnce.take 8) (sleepsOnce.drop 8)
    _ _ rfl ?_ 0 "job-a" ⟨_, rfl, rfl⟩ rfl ?_ ?_).2.1 298 rfl ?_
  · refine .cons rfl ⟨fun _ _ _ => nofun, trivial⟩ ?_
    refine .cons rfl ⟨nofun, trivial⟩ (.cons rfl ⟨nofun, trivial⟩ ?_)
    refine .cons rfl ⟨nofun, trivial⟩ (.cons rfl ⟨nofun, trivial⟩ ?_)
    refine .cons rfl ⟨nofun, trivial⟩ (.cons rfl ⟨nofun, trivial⟩ ?_)
    exact .cons rfl ⟨trivial, List.mem_singleton_self _, fun _ _ _ => rfl⟩ (along_nil _)
  · refine .cons rfl ⟨nofun, trivial⟩ (.cons rfl ⟨nofun, trivial⟩ ?_)
    exact .cons rfl ⟨nofun, trivial⟩ (.cons rfl ⟨nofun, trivial⟩ (along_nil _))
  · simp [sleepsOnce, Action.raises]
  · simp [sleepsOnce, Action.completes]

end Progress

end CrawlerApi.Jobs
