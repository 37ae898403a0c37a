import CrawlerApi.Jobs.Answers

/-!
# One job for each request

Queue and requests match one to one as long as the ids drawn are fresh: no job is lost, none is
doubled, and no two requests share one.
-/

namespace CrawlerApi.Jobs

open Keys Foundation

/-- The job a request has drawn for itself, and whether it is in the queue. -/
def Phase.claim : Phase ρ → Option (String × Bool)
  | .createPool job | .setStatus job | .enqueueJob job => some (job, false)
  | .closePool job | .observe job | .store job | .poll job _ | .sleep job _
  | .readStatus job true | .readError job true _ => some (job, true)
  | .responded (.accepted response) => some (response.jobId, true)
  | .responded (.result response) => some (response.jobId, true)
  | .raised (.enqueueJob job) true => some (job, true)
  | .raised during _ => during.claim
  | _ => none

def Phase.draws : Phase ρ → Bool
  | .admission | .lookup => true
  | _ => false

section Claims

variable {ρ : Type} {text : TextMethods} {requests : Nat → FetchRequest} {request : FetchRequest}
  {queue : List FetchTask} {redis : Redis ρ} {phase next : Phase ρ} {state : State ρ}

inductive Stirs (file : String → FetchTask) (drawn : Option String) (queue : List FetchTask) :
    Option (String × Bool) → Option (String × Bool) → List FetchTask → Prop where
  | stay {claim : Option (String × Bool)} : Stirs file drawn queue claim claim queue
  | draw {job : String} (hdrawn : drawn = some job) :
      Stirs file drawn queue none (some (job, false)) queue
  | enqueue {job : String} :
      Stirs file drawn queue (some (job, false)) (some (job, true)) (queue ++ [file job])

theorem claim_finish (job : String) (now : Instant) :
    (request.finish text job now : Phase ρ).claim = some (job, true) := by
  unfold FetchRequest.finish
  split
  · rfl
  · rfl

theorem resume_stirs {drawn : String} {now : Instant}
    (h : phase.resume text request redis drawn now = some next) :
    Stirs (request.task text) (if phase.draws then some drawn else none) redis.queue phase.claim
      next.claim (phase.command text request now redis).queue := by
  cases resume_resumed h with
  | unkeyed | missed => exact .draw rfl
  | enqueued job => exact .enqueue
  | unstored job hkey =>
      rw [claim_finish]
      exact .stay
  | stored job =>
      rw [claim_finish, command_queue]
      exact .stay
  | read job sync data hdata =>
      cases sync with
      | true => exact .stay
      | false => exact .stay
  | _ => exact .stay

theorem raise_stirs {drawn : String} {now : Instant} (applied : Bool)
    (h : phase.resume text request redis drawn now = some next) :
    Stirs (request.task text) none redis.queue phase.claim (Phase.raised phase applied).claim
      (if applied then phase.command text request now redis else redis).queue := by
  cases applied with
  | false =>
      cases phase <;> exact .stay
  | true =>
      cases phase with
      | enqueueJob job => exact .enqueue
      | store job =>
          rw [if_pos rfl, command_queue]
          exact .stay
      | raised during applied => cases h
      | _ => exact .stay

structure Matched (text : TextMethods) (requests : Nat → FetchRequest)
    (claims : Nat → Option (String × Bool)) (queue : List FetchTask) : Prop where
  nodup : (queue.map FetchTask.jobId).Nodup
  apart : ∀ i k job first second,
    claims i = some (job, first) → claims k = some (job, second) → i = k
  queued : ∀ task ∈ queue, ∃ i, claims i = some (task.jobId, true) ∧
    task = (requests i).task text task.jobId
  filed : ∀ i job, claims i = some (job, true) → (requests i).task text job ∈ queue
  waiting : ∀ i job, claims i = some (job, false) → job ∉ queue.map FetchTask.jobId

section Updates

variable {claims : Nat → Option (String × Bool)} {i : Nat} {job : String}

theorem Matched.draw (h : Matched text requests claims queue) (hnone : claims i = none)
    (hnew : ∀ k queued, claims k ≠ some (job, queued)) :
    Matched text requests (Function.update claims i (some (job, false))) queue where
  nodup := h.nodup
  apart := by
    intro a k other first second ha hk
    by_cases hai : a = i
    · by_cases hki : k = i
      · rw [hai, hki]
      · rw [hai, Function.update_self] at ha
        rw [Function.update_of_ne hki] at hk
        cases ha
        exact absurd hk (hnew k second)
    · rw [Function.update_of_ne hai] at ha
      by_cases hki : k = i
      · rw [hki, Function.update_self] at hk
        cases hk
        exact absurd ha (hnew a first)
      · rw [Function.update_of_ne hki] at hk
        exact h.apart a k other first second ha hk
  queued := by
    intro task htask
    obtain ⟨k, hk, hown⟩ := h.queued task htask
    refine ⟨k, ?_, hown⟩
    rw [Function.update_of_ne, hk]
    rintro rfl
    rw [hnone] at hk
    cases hk
  filed := by
    intro k other hk
    by_cases hki : k = i
    · rw [hki, Function.update_self] at hk
      cases hk
    · rw [Function.update_of_ne hki] at hk
      exact h.filed k other hk
  waiting := by
    intro k other hk hmem
    by_cases hki : k = i
    · rw [hki, Function.update_self] at hk
      cases hk
      obtain ⟨task, htask, hid⟩ := List.mem_map.mp hmem
      obtain ⟨owner, howner, -⟩ := h.queued task htask
      exact hnew owner true (hid ▸ howner)
    · rw [Function.update_of_ne hki] at hk
      exact h.waiting k other hk hmem

theorem Matched.enqueue (h : Matched text requests claims queue)
    (hat : claims i = some (job, false)) :
    Matched text requests (Function.update claims i (some (job, true)))
      (queue ++ [(requests i).task text job]) where
  nodup := by
    rw [List.map_append, List.map_singleton]
    refine List.nodup_append.mpr ⟨h.nodup, List.pairwise_singleton _ _, fun id hid last hlast => ?_⟩
    rw [List.mem_singleton] at hlast
    rintro rfl
    have hjob : id = job := hlast
    exact h.waiting i job hat (hjob ▸ hid)
  apart := by
    have hbefore : ∀ k other queued,
        Function.update claims i (some (job, true)) k = some (other, queued) →
          ∃ earlier, claims k = some (other, earlier) := by
      intro k other queued hk
      by_cases hki : k = i
      · rw [hki, Function.update_self] at hk
        cases hk
        exact ⟨false, hki ▸ hat⟩
      · rw [Function.update_of_ne hki] at hk
        exact ⟨queued, hk⟩
    intro a k other first second ha hk
    obtain ⟨earlier, ha⟩ := hbefore a other first ha
    obtain ⟨before, hk⟩ := hbefore k other second hk
    exact h.apart a k other earlier before ha hk
  queued := by
    intro task htask
    rcases List.mem_append.mp htask with hold | hlast
    · obtain ⟨k, hk, hown⟩ := h.queued task hold
      refine ⟨k, ?_, hown⟩
      rw [Function.update_of_ne, hk]
      rintro rfl
      rw [hat] at hk
      cases hk
    · rw [List.mem_singleton] at hlast
      subst hlast
      exact ⟨i, Function.update_self .., rfl⟩
  filed := by
    intro k other hk
    by_cases hki : k = i
    · rw [hki, Function.update_self] at hk
      cases hk
      rw [hki]
      exact List.mem_append_right _ (List.mem_singleton_self _)
    · rw [Function.update_of_ne hki] at hk
      exact List.mem_append_left _ (h.filed k other hk)
  waiting := by
    intro k other hk hmem
    by_cases hki : k = i
    · rw [hki, Function.update_self] at hk
      cases hk
    · rw [Function.update_of_ne hki] at hk
      rw [List.map_append, List.mem_append] at hmem
      rcases hmem with hold | hlast
      · exact h.waiting k other hk hold
      · rw [List.map_singleton, List.mem_singleton] at hlast
        exact hki (h.apart k i other false false hk (hlast ▸ hat))

theorem Matched.stirs {claim : Option (String × Bool)} {later : List FetchTask}
    {drawn : Option String} (h : Matched text requests claims queue)
    (hfresh : ∀ job ∈ drawn, ∀ k queued, claims k ≠ some (job, queued))
    (hstirs : Stirs ((requests i).task text) drawn queue (claims i) claim later) :
    Matched text requests (Function.update claims i claim) later := by
  generalize hbefore : claims i = before at hstirs
  cases hstirs with
  | stay =>
      rw [← hbefore, Function.update_eq_self]
      exact h
  | draw hdrawn => exact h.draw hbefore (hfresh _ hdrawn)
  | enqueue => exact h.enqueue hbefore

end Updates

def FreshDraw (state : State ρ) : Action ρ → Prop
  | .complete i drawn _ => (state.phases i).draws = true →
      ∀ k queued, (state.phases k).claim ≠ some (drawn, queued)
  | .raise .. | .work .. => True

def State.claims (state : State ρ) (i : Nat) : Option (String × Bool) := (state.phases i).claim

theorem claims_update (phases : Nat → Phase ρ) (i : Nat) (phase : Phase ρ) :
    (fun k => (Function.update phases i phase k).claim) =
      Function.update (fun k => (phases k).claim) i phase.claim := by
  funext k
  by_cases h : k = i
  · rw [h, Function.update_self, Function.update_self]
  · rw [Function.update_of_ne h, Function.update_of_ne h]

theorem matched_step {action : Action ρ} {after : State ρ}
    (h : Matched text requests state.claims state.redis.queue) (hfresh : FreshDraw state action)
    (hstep : Jobs.step text requests state action = some after) :
    Matched text requests after.claims after.redis.queue := by
  cases action with
  | complete i drawn now =>
      obtain ⟨phase, hresume, hafter⟩ := Option.bind_eq_some_iff.mp hstep
      cases hafter
      have hdrawn : ∀ job ∈ if (state.phases i).draws then some drawn else none,
          ∀ k queued, state.claims k ≠ some (job, queued) := by
        intro job hjob
        split at hjob
        · rename_i hdraws
          cases hjob
          exact hfresh hdraws
        · cases hjob
      have hstirs := h.stirs hdrawn (resume_stirs hresume)
      unfold State.claims at hstirs ⊢
      rw [claims_update]
      exact hstirs
  | raise i applied now =>
      obtain ⟨phase, hresume, hafter⟩ := Option.bind_eq_some_iff.mp hstep
      cases hafter
      have hstirs := h.stirs (fun _ hjob => by cases hjob) (raise_stirs applied hresume)
      unfold State.claims at hstirs ⊢
      rw [claims_update]
      exact hstirs
  | work jobId data error =>
      cases hstep
      cases error with
      | none => exact h
      | some message => exact h

theorem matched_initial :
    Matched text requests (State.initial : State ρ).claims
      (State.initial : State ρ).redis.queue where
  nodup := .nil
  apart := fun _ _ _ _ _ h => by cases h
  queued := fun _ h => by cases h
  filed := fun _ _ h => by cases h
  waiting := fun _ _ h => by cases h

theorem matched_run {actions : List (Action ρ)}
    (hfresh : Along (Jobs.step text requests) FreshDraw .initial actions)
    (hrun : run (Jobs.step text requests) .initial actions = some state) :
    Matched text requests state.claims state.redis.queue :=
  run_invariant (fun _ _ _ h hfresh hstep => matched_step h hfresh hstep) matched_initial hfresh
    hrun

theorem filter_jobId {task : FetchTask} (hnodup : (queue.map FetchTask.jobId).Nodup)
    (hmem : task ∈ queue) : queue.filter (·.jobId = task.jobId) = [task] := by
  induction queue with
  | nil => cases hmem
  | cons first rest ih =>
      rw [List.map_cons, List.nodup_cons] at hnodup
      have hnone : ∀ other ∈ rest, other.jobId ≠ first.jobId := by
        intro other hother hid
        exact hnodup.1 (hid ▸ List.mem_map_of_mem hother)
      rcases List.mem_cons.mp hmem with rfl | hrest
      · rw [List.filter_cons_of_pos (by simp), List.filter_eq_nil_iff.mpr]
        intro other hother
        simpa using hnone other hother
      · rw [List.filter_cons_of_neg (by simpa using (hnone task hrest).symm), ih hnodup.2 hrest]

/-- With fresh ids no job is lost and none is doubled: every queued task is the one of exactly one
request, every request that got past its `enqueue_job` has its task in the queue once, and one
that did not has none. -/
theorem one_job_each (text : TextMethods) (requests : Nat → FetchRequest)
    (actions : List (Action ρ)) (state : State ρ)
    (hrun : run (Jobs.step text requests) .initial actions = some state)
    (hfresh : Along (Jobs.step text requests) FreshDraw .initial actions) :
    (∀ task ∈ state.redis.queue, ∃ i, (state.phases i).claim = some (task.jobId, true) ∧
      task = (requests i).task text task.jobId ∧
      ∀ k queued, (state.phases k).claim = some (task.jobId, queued) → k = i) ∧
    (∀ i job queued, (state.phases i).claim = some (job, queued) →
      state.redis.queue.filter (·.jobId = job) =
        if queued then [(requests i).task text job] else []) := by
  have h := matched_run hfresh hrun
  refine ⟨fun task htask => ?_, fun i job queued hclaim => ?_⟩
  · obtain ⟨i, hi, hown⟩ := h.queued task htask
    exact ⟨i, hi, hown, fun k queued hk => h.apart k i task.jobId queued true hk hi⟩
  · cases queued with
    | false =>
        refine List.filter_eq_nil_iff.mpr fun task htask hid => ?_
        rw [decide_eq_true_eq] at hid
        exact h.waiting i job hclaim (hid ▸ List.mem_map_of_mem htask)
    | true =>
        exact filter_jobId h.nodup (h.filed i job hclaim)

def plainRequests : Nat → FetchRequest := fun _ =>
  { body := { url := "https://example.com/" }
    apiKeyPrefix := "crwlAb-1"
    applicationId := 1
    domain := "example.com" }

/-- The first step draws the id, in a state in which no request has one. -/
theorem one_job_each_accepted : ∃ state,
    run (Jobs.step (ρ := Unit) asciiText plainRequests) .initial
        (List.replicate 6 (.complete 0 "job-a" 0)) = some state ∧
      state.redis.queue.filter (·.jobId = "job-a") =
        [(plainRequests 0).task asciiText "job-a"] := by
  refine ⟨_, rfl, (one_job_each asciiText plainRequests (List.replicate 6 (.complete 0 "job-a" 0)) _
    rfl ?_).2 0 "job-a" true rfl⟩
  refine .cons rfl (fun _ k queued h => nomatch h) (.cons rfl (fun h => nomatch h) ?_)
  refine .cons rfl (fun h => nomatch h) (.cons rfl (fun h => nomatch h) ?_)
  exact .cons rfl (fun h => nomatch h) (.cons rfl (fun h => nomatch h) (along_nil _))

end Claims

end CrawlerApi.Jobs
