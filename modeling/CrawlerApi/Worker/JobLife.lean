import CrawlerApi.Jobs.SyncAnswer
import CrawlerApi.Worker.Commands

/-!
# A job from its request to its answer

Requests of `POST /v1/fetch` and the runs of their jobs, over one Redis.  A queued job is run
once at most; each write of a run comes at its own moment, and a worker may die between two.
-/

namespace CrawlerApi.Worker.JobLife

open Keys Fetch Jobs Foundation

/-- What a run writes about its job, in order.  It reads no error, and no one else writes the
status of a queued job. -/
def runCommands (context : Context) (environment : Environment) (task : FetchTask)
    (redis : Redis FetchResultSchema) : List Command :=
  let final := finalWorld
    (fetchTask context environment task (World.start { redis with jobError := fun _ => none }))
  final.statusWrites.map .setStatus ++ (final.redis.jobError task.jobId).toList.map .setError

/-- A run under way, with the writes it has made and those to come. -/
structure Run where
  context : Context
  environment : Environment
  task : FetchTask
  redis : Redis FetchResultSchema
  written : List Command
  left : List Command
  within : written ++ left <+: runCommands context environment task redis

def Run.start (context : Context) (environment : Environment) (task : FetchTask)
    (redis : Redis FetchResultSchema) : Run where
  context := context
  environment := environment
  task := task
  redis := redis
  written := []
  left := runCommands context environment task redis
  within := List.prefix_rfl

def Run.advance (run : Run) (command : Command) (left : List Command)
    (h : run.left = command :: left) : Run :=
  { run with
    written := run.written ++ [command]
    left := left
    within := by
      have hwithin := run.within
      rwa [h, ← List.singleton_append, ← List.append_assoc] at hwithin }

def Run.kill (run : Run) : Run :=
  { run with
    left := []
    within := (List.append_nil run.written).symm ▸
      (List.prefix_append run.written run.left).trans run.within }

structure State where
  api : Jobs.State FetchResultSchema
  runs : String → Option Run

def State.initial : State := ⟨.initial, fun _ => none⟩

inductive Action where
  | complete (i : Nat) (jobId : String) (now : Instant)
  | raise (i : Nat) (applied : Bool) (now : Instant)
  | start (jobId : String) (context : Context) (environment : Environment)
  | write (jobId : String)
  | kill (jobId : String)

def State.setRun (state : State) (jobId : String) (run : Run) : State :=
  { state with runs := Function.update state.runs jobId (some run) }

def State.apply (state : State) (jobId : String) (command : Command) : State :=
  { state with api := { state.api with redis := command.apply jobId state.api.redis } }

def step (text : TextMethods) (requests : Nat → FetchRequest) (state : State) :
    Action → Option State
  | .complete i jobId now =>
      (Jobs.step text requests state.api (.complete i jobId now)).map ({ state with api := · })
  | .raise i applied now =>
      (Jobs.step text requests state.api (.raise i applied now)).map ({ state with api := · })
  | .start jobId context environment =>
      match state.api.redis.queue.find? (·.jobId = jobId), state.runs jobId with
      | some task, none =>
          some (state.setRun jobId (.start context environment task state.api.redis))
      | _, _ => none
  | .write jobId =>
      match state.runs jobId with
      | none => none
      | some run =>
          match h : run.left with
          | [] => none
          | command :: left =>
              some ((state.apply jobId command).setRun jobId (run.advance command left h))
  | .kill jobId => (state.runs jobId).map fun run => state.setRun jobId run.kill

/-! ### The writes of a run -/

section Writes

variable {context : Context} {environment : Environment} {task : FetchTask}
  {redis : Redis FetchResultSchema} {commands before behind : List Command}

theorem runCommands_eq (context : Context) (environment : Environment) (task : FetchTask)
    (redis : Redis FetchResultSchema) :
    ∃ before behind, BodyCommands context environment before ∧ HandlerCommands behind ∧
      runCommands context environment task redis = before ++ behind := by
  obtain ⟨before, behind, hbefore, hbehind, hwrote⟩ :=
    fetchTask_wrote context environment task { redis with jobError := fun _ => none }
  refine ⟨before, behind, hbefore, hbehind, ?_⟩
  unfold runCommands
  dsimp only
  rw [hwrote.redis, hwrote.statusWrites]
  cases hbefore <;> cases hbehind <;>
    simp [World.start, replay, Command.apply, Command.status?, JobService.setStatus,
      JobService.setError]

def Forward (first second : Command) : Prop :=
  ∀ before after, first = .setStatus before → second = .setStatus after →
    before.status.final = true → after.status.final = true

theorem forward_of_body (h : BodyCommands context environment commands) :
    commands.Pairwise Forward := by
  cases h with
  | nothing => exact .nil
  | running hrunning => exact List.pairwise_singleton _ _
  | completed hrunning hfetch hcompleted hresult =>
      refine List.pairwise_pair.mpr ?_
      intro before after hbefore _ hfinal
      cases hbefore
      rw [hrunning] at hfinal
      cases hfinal

theorem forward_of_handler (h : HandlerCommands behind) (first : Command) :
    ∀ second ∈ behind, Forward first second := by
  intro second hsecond before after _ hafter _
  subst hafter
  have hfailed := h.failed_of_mem (List.mem_filterMap.mpr ⟨_, hsecond, rfl⟩)
  rw [hfailed]
  rfl

theorem runCommands_forward : (runCommands context environment task redis).Pairwise Forward := by
  obtain ⟨before, behind, hbefore, hbehind, heq⟩ :=
    runCommands_eq context environment task redis
  rw [heq, List.pairwise_append]
  refine ⟨forward_of_body hbefore, ?_, fun first _ second hsecond =>
    forward_of_handler hbehind first second hsecond⟩
  exact List.pairwise_of_forall_mem_list fun first _ second hsecond =>
    forward_of_handler hbehind first second hsecond

theorem completed_of_runCommands {data : StatusData FetchResultSchema}
    (h : .setStatus data ∈ runCommands context environment task redis)
    (hcompleted : data.status = .completed) :
    ∃ fetched, environment.fetch = .ok fetched ∧
      data.result = some (publishedSchema context fetched) := by
  obtain ⟨before, behind, hbefore, hbehind, heq⟩ :=
    runCommands_eq context environment task redis
  rw [heq] at h
  rcases List.mem_append.mp h with hfirst | hlast
  · exact hbefore.completed_of_mem (List.mem_filterMap.mpr ⟨_, hfirst, rfl⟩) hcompleted
  · rw [hbehind.failed_of_mem (List.mem_filterMap.mpr ⟨_, hlast, rfl⟩)] at hcompleted
    cases hcompleted

end Writes

section Runs

variable {run : Run} {command : Command} {left : List Command}

def Run.Wrote (run : Run) (data : StatusData FetchResultSchema) : Prop :=
  .setStatus data ∈ run.written

theorem Run.Wrote.mem {data : StatusData FetchResultSchema} (h : run.Wrote data) :
    .setStatus data ∈ runCommands run.context run.environment run.task run.redis :=
  run.within.subset (List.mem_append_left _ h)

theorem Run.forward {data next : StatusData FetchResultSchema} (h : run.Wrote data)
    (hleft : run.left = .setStatus next :: left) (hfinal : data.status.final = true) :
    next.status.final = true := by
  have hforward := runCommands_forward.sublist run.within.sublist
  rw [hleft] at hforward
  have hpair := (List.pairwise_append.mp hforward).2.2 _ h _ (List.mem_cons_self ..)
  exact hpair data next rfl rfl hfinal

theorem Run.Wrote.advance {data : StatusData FetchResultSchema} (h : run.Wrote data)
    (hleft : run.left = command :: left) : (run.advance command left hleft).Wrote data :=
  List.mem_append_left _ h

end Runs

/-! ### The invariant -/

section Invariant

variable {text : TextMethods} {requests : Nat → FetchRequest} {state next : State}
  {redis : Redis FetchResultSchema} {runs later : String → Option Run}

/-- The run of the job has written what the answer tells. -/
def Tells (runs : String → Option Run) (jobId : String)
    (holds : StatusData FetchResultSchema → Prop) : Prop :=
  ∃ run data, runs jobId = some run ∧ run.Wrote data ∧ holds data

def Reads (runs : String → Option Run) : Phase FetchResultSchema → Prop
  | .readError job true data => Tells runs job (· = data)
  | .responded (.result response) => Tells runs response.jobId fun data =>
      response.status = data.status ∧ response.result = data.result
  | _ => True

structure Lived (text : TextMethods) (requests : Nat → FetchRequest) (state : State) : Prop where
  settled : Settled text requests state.api
  queued : ∀ jobId run, state.runs jobId = some run →
    run.task ∈ state.api.redis.queue ∧ run.task.jobId = jobId
  written : ∀ jobId data, state.api.redis.jobStatus jobId = some data →
    data.status.final = true → Tells state.runs jobId (· = data)
  reads : ∀ i, Reads state.runs (state.api.phases i)

def FreshIds (state : State) : Action → Prop
  | .complete i jobId now => FreshDraw state.api (.complete i jobId now)
  | _ => True

def Later (runs later : String → Option Run) : Prop :=
  ∀ jobId run, runs jobId = some run →
    ∃ after, later jobId = some after ∧ ∀ data, run.Wrote data → after.Wrote data

theorem Tells.mono {jobId : String} {holds : StatusData FetchResultSchema → Prop}
    (h : Tells runs jobId holds) (hlater : Later runs later) : Tells later jobId holds := by
  obtain ⟨run, data, hrun, hwrote, hholds⟩ := h
  obtain ⟨after, hafter, hkept⟩ := hlater jobId run hrun
  exact ⟨after, data, hafter, hkept data hwrote, hholds⟩

theorem Reads.mono {phase : Phase FetchResultSchema} (h : Reads runs phase)
    (hlater : Later runs later) : Reads later phase := by
  cases phase with
  | readError job sync data =>
      cases sync with
      | true => exact Tells.mono h hlater
      | false => trivial
  | responded response =>
      cases response with
      | result response => exact Tells.mono h hlater
      | accepted response => trivial
      | replayed jobId status createdAt idempotencyKey => trivial
  | _ => trivial

theorem later_setRun {jobId : String} {run : Run}
    (h : ∀ before, state.runs jobId = some before → ∀ data, before.Wrote data → run.Wrote data) :
    Later state.runs (state.setRun jobId run).runs := by
  intro other before hbefore
  unfold State.setRun
  dsimp only
  by_cases hsame : other = jobId
  · subst hsame
    exact ⟨run, Function.update_self .., h before hbefore⟩
  · exact ⟨before, by rw [Function.update_of_ne hsame, hbefore], fun _ hwrote => hwrote⟩

theorem settled_setError {api : Jobs.State FetchResultSchema} {jobId error : String}
    (h : Settled text requests api) :
    Settled text requests { api with redis := JobService.setError api.redis jobId error } where
  matched := h.matched
  claimed := h.claimed
  knows := fun i => (h.knows i).congr fun _ _ _ => rfl

theorem reads_finish {request : FetchRequest} {job : String} {now : Instant} :
    Reads runs (request.finish text job now) := by
  unfold FetchRequest.finish
  split
  · trivial
  · trivial

theorem reads_resume {phase after : Phase FetchResultSchema} {request : FetchRequest}
    {drawn : String} {now : Instant}
    (hwritten : ∀ jobId data, redis.jobStatus jobId = some data → data.status.final = true →
      Tells runs jobId (· = data))
    (hknows : phase.Knows redis) (hreads : Reads runs phase)
    (hresume : phase.resume text request redis drawn now = some after) : Reads runs after := by
  cases resume_resumed hresume with
  | read job sync data hdata =>
      cases sync with
      | true =>
          obtain ⟨stored, hstored, hfinal⟩ := hknows
          rw [hdata] at hstored
          cases hstored
          exact hwritten job data hdata hfinal
      | false => trivial
  | answered job data =>
      obtain ⟨run, stored, hrun, hwrote, rfl⟩ := hreads
      exact ⟨run, stored, hrun, hwrote, rfl, rfl⟩
  | unstored job hkey => exact reads_finish
  | stored job => exact reads_finish
  | _ => trivial

theorem final_of_command {phase : Phase FetchResultSchema} {request : FetchRequest}
    {now : Instant} {jobId : String} {data : StatusData FetchResultSchema}
    (h : (phase.command text request now redis).jobStatus jobId = some data)
    (hfinal : data.status.final = true) : redis.jobStatus jobId = some data := by
  rcases command_jobStatus phase redis request now jobId with hsame | rfl
  · rw [← hsame, h]
  · have hpending : (Phase.command text request now redis (.setStatus jobId)).jobStatus jobId =
        some { status := .pending, createdAt := some now } := if_pos rfl
    rw [hpending] at h
    cases h
    cases hfinal

theorem Lived.complete {i : Nat} {drawn : String} {now : Instant}
    {after : Jobs.State FetchResultSchema} (h : Lived text requests state)
    (hfresh : FreshDraw state.api (.complete i drawn now))
    (hstep : Jobs.step text requests state.api (.complete i drawn now) = some after) :
    Lived text requests { state with api := after } := by
  have hsettled := h.settled.step hfresh trivial hstep
  obtain ⟨phase, hresume, hafter⟩ := Option.bind_eq_some_iff.mp hstep
  cases hafter
  refine ⟨hsettled, fun jobId run hrun => ?_, fun jobId data hdata hfinal => ?_, fun k => ?_⟩
  · obtain ⟨htask, hid⟩ := h.queued jobId run hrun
    exact ⟨queue_subset_command now htask, hid⟩
  · exact h.written jobId data (final_of_command hdata hfinal) hfinal
  · dsimp only
    by_cases hki : k = i
    · subst hki
      rw [Function.update_self]
      exact reads_resume h.written (h.settled.knows k) (h.reads k) hresume
    · rw [Function.update_of_ne hki]
      exact h.reads k

theorem Lived.raise {i : Nat} {applied : Bool} {now : Instant}
    {after : Jobs.State FetchResultSchema} (h : Lived text requests state)
    (hstep : Jobs.step text requests state.api (.raise i applied now) = some after) :
    Lived text requests { state with api := after } := by
  have hfresh : FreshDraw state.api (.raise i applied now) := trivial
  have hsettled := h.settled.step hfresh trivial hstep
  obtain ⟨phase, hresume, hafter⟩ := Option.bind_eq_some_iff.mp hstep
  cases hafter
  refine ⟨hsettled, fun jobId run hrun => ?_, fun jobId data hdata hfinal => ?_, fun k => ?_⟩
  · obtain ⟨htask, hid⟩ := h.queued jobId run hrun
    refine ⟨?_, hid⟩
    cases applied with
    | false => exact htask
    | true => exact queue_subset_command now htask
  · cases applied with
    | false => exact h.written jobId data hdata hfinal
    | true => exact h.written jobId data (final_of_command hdata hfinal) hfinal
  · dsimp only
    by_cases hki : k = i
    · subst hki
      rw [Function.update_self]
      trivial
    · rw [Function.update_of_ne hki]
      exact h.reads k

theorem Lived.setRun {jobId : String} {run : Run} (h : Lived text requests state)
    (hqueued : run.task ∈ state.api.redis.queue ∧ run.task.jobId = jobId)
    (hkept : ∀ before, state.runs jobId = some before →
      ∀ data, before.Wrote data → run.Wrote data) :
    Lived text requests (state.setRun jobId run) where
  settled := h.settled
  queued := by
    intro other after hafter
    unfold State.setRun at hafter
    dsimp only at hafter
    by_cases hsame : other = jobId
    · subst hsame
      rw [Function.update_self] at hafter
      cases hafter
      exact hqueued
    · rw [Function.update_of_ne hsame] at hafter
      exact h.queued other after hafter
  written := fun other data hdata hfinal =>
    (h.written other data hdata hfinal).mono (later_setRun hkept)
  reads := fun i => (h.reads i).mono (later_setRun hkept)

/-- A write of a run, behind which the run has written it. -/
theorem Lived.write {jobId : String} {run : Run} {command : Command} {left : List Command}
    (h : Lived text requests state) (hrun : state.runs jobId = some run)
    (hleft : run.left = command :: left) :
    Lived text requests
      ((state.apply jobId command).setRun jobId (run.advance command left hleft)) := by
  have hqueued := h.queued jobId run hrun
  have hrunning : (state.setRun jobId (run.advance command left hleft)).runs jobId =
      some (run.advance command left hleft) := Function.update_self ..
  have hadvanced : ∀ before, state.runs jobId = some before →
      ∀ data, before.Wrote data → (run.advance command left hleft).Wrote data := by
    intro before hbefore data hwrote
    rw [hrun] at hbefore
    cases hbefore
    exact hwrote.advance hleft
  have hlater := later_setRun hadvanced
  have hnext : (run.advance command left hleft).task ∈ state.api.redis.queue ∧
      (run.advance command left hleft).task.jobId = jobId := hqueued
  have hrest := h.setRun hnext hadvanced
  cases command with
  | setError error =>
      exact ⟨settled_setError h.settled, hrest.queued, hrest.written, hrest.reads⟩
  | setStatus data =>
      refine ⟨?_, hrest.queued, fun other stored hstored hfinal => ?_, hrest.reads⟩
      · have hknown : jobId ∈ state.api.redis.queue.map FetchTask.jobId :=
          hqueued.2 ▸ List.mem_map_of_mem hqueued.1
        refine h.settled.worked hknown ?_ (fun _ => rfl) h.settled.matched
        intro before hbefore hfinal
        obtain ⟨same, written, hsame, hwrote, rfl⟩ := h.written jobId before hbefore hfinal
        rw [hrun] at hsame
        cases hsame
        exact run.forward hwrote hleft hfinal
      · by_cases hsame : other = jobId
        · subst hsame
          have hdata : (State.apply state other (.setStatus data)).api.redis.jobStatus other =
              some data := if_pos rfl
          have hequal : some stored = some data := hstored.symm.trans hdata
          cases hequal
          exact ⟨_, data, hrunning, List.mem_append_right _ (List.mem_singleton_self _), rfl⟩
        · have hkept : (State.apply state jobId (.setStatus data)).api.redis.jobStatus other =
              state.api.redis.jobStatus other := if_neg hsame
          exact (h.written other stored (hkept.symm.trans hstored) hfinal).mono hlater

theorem Lived.step {action : Action} (h : Lived text requests state)
    (hfresh : FreshIds state action)
    (hstep : JobLife.step text requests state action = some next) : Lived text requests next := by
  cases action with
  | complete i jobId now =>
      obtain ⟨after, hafter, rfl⟩ := Option.map_eq_some_iff.mp hstep
      exact h.complete hfresh hafter
  | raise i applied now =>
      obtain ⟨after, hafter, rfl⟩ := Option.map_eq_some_iff.mp hstep
      exact h.raise hafter
  | start jobId context environment =>
      unfold JobLife.step at hstep
      dsimp only at hstep
      split at hstep
      · rename_i task htask hnone
        cases hstep
        have hid : task.jobId = jobId := by simpa using List.find?_some htask
        refine h.setRun ⟨List.mem_of_find?_eq_some htask, hid⟩ ?_
        intro before hbefore
        rw [hnone] at hbefore
        cases hbefore
      · cases hstep
  | write jobId =>
      unfold JobLife.step at hstep
      dsimp only at hstep
      split at hstep
      · cases hstep
      · rename_i run hrun
        split at hstep
        · cases hstep
        · rename_i command left hleft
          cases hstep
          exact h.write hrun hleft
  | kill jobId =>
      obtain ⟨run, hrun, rfl⟩ := Option.map_eq_some_iff.mp hstep
      refine h.setRun (h.queued jobId run hrun) fun before hbefore data hwrote => ?_
      rw [hrun] at hbefore
      cases hbefore
      exact hwrote

theorem lived_initial : Lived text requests .initial where
  settled := settled_initial
  queued := fun _ _ h => by cases h
  written := fun _ _ h => by cases h
  reads := fun _ => trivial

/-- The result a sync request answers with is a final status that the run of its own job has
written; a completed one carries what that run fetched. -/
theorem sync_answer_of_run (text : TextMethods) (requests : Nat → FetchRequest)
    (actions : List Action) (state : State)
    (hrun : run (JobLife.step text requests) .initial actions = some state)
    (hfresh : Along (JobLife.step text requests) FreshIds .initial actions) (i : Nat)
    (response : JobResultResponse FetchResultSchema)
    (hresponse : state.api.phases i = .responded (.result response)) :
    ∃ run : Run, state.runs response.jobId = some run ∧
      run.task = (requests i).task text response.jobId ∧
      ∃ data, run.Wrote data ∧ data.status.final = true ∧ response.status = data.status ∧
        response.result = data.result ∧
        (response.status = .completed → ∃ fetched, run.environment.fetch = .ok fetched ∧
          response.result = some (publishedSchema run.context fetched)) := by
  have hlived : Lived text requests state :=
    run_invariant (fun _ _ _ h hguard hstep => h.step hguard hstep) lived_initial hfresh hrun
  have hreads := hlived.reads i
  have hknows := hlived.settled.knows i
  rw [hresponse] at hreads hknows
  obtain ⟨run, data, hjob, hwrote, hstatus, hresult⟩ := hreads
  refine ⟨run, hjob, ?_, data, hwrote, hstatus ▸ hknows, hstatus, hresult, fun hcompleted => ?_⟩
  · obtain ⟨hqueued, hid⟩ := hlived.queued response.jobId run hjob
    obtain ⟨owner, howner, htask⟩ := hlived.settled.matched.queued run.task hqueued
    have hclaim : state.api.claims i = some (response.jobId, true) := congrArg Phase.claim hresponse
    rw [hid] at howner htask
    rw [htask, hlived.settled.matched.apart owner i response.jobId true true howner hclaim]
  · obtain ⟨fetched, hfetch, hpublished⟩ :=
      completed_of_runCommands hwrote.mem (hstatus.symm.trans hcompleted)
    exact ⟨fetched, hfetch, hresult.trans hpublished⟩

end Invariant

/-! ### A run in time -/

section Completion

variable {text : TextMethods} {requests : Nat → FetchRequest} {state : State}

theorem setRun_runs (state : State) (jobId : String) (run : Run) :
    (state.setRun jobId run).runs jobId = some run := Function.update_self ..

theorem step_start {jobId : String} {task : FetchTask} (context : Context)
    (environment : Environment)
    (htask : state.api.redis.queue.find? (·.jobId = jobId) = some task)
    (hnone : state.runs jobId = none) :
    step text requests state (.start jobId context environment) =
      some (state.setRun jobId (.start context environment task state.api.redis)) := by
  unfold step
  dsimp only
  rw [htask, hnone]

theorem step_write {jobId : String} {run : Run} {command : Command} {left : List Command}
    (hrun : state.runs jobId = some run) (hleft : run.left = command :: left) :
    step text requests state (.write jobId) =
      some ((state.apply jobId command).setRun jobId (run.advance command left hleft)) := by
  unfold step
  dsimp only
  split
  · rename_i hnone
    rw [hnone] at hrun
    cases hrun
  · rename_i other hother
    rw [hother] at hrun
    cases hrun
    split
    · rename_i hnil
      rw [hnil] at hleft
      cases hleft
    · rename_i next rest hnext
      obtain ⟨rfl, rfl⟩ := List.cons.inj (hleft.symm.trans hnext)
      rfl

/-- A run that is left alone makes all its writes. -/
theorem writes_all (text : TextMethods) (requests : Nat → FetchRequest) {jobId : String}
    {run : Run} {left : List Command} (state : State) (hrun : state.runs jobId = some run)
    (hleft : run.left = left) :
    ∃ written, Foundation.run (step text requests) state
        (List.replicate left.length (.write jobId)) = some written ∧
      Along (step text requests) FreshIds state (List.replicate left.length (.write jobId)) ∧
      written.api.redis = replay jobId left state.api.redis ∧
      written.api.phases = state.api.phases := by
  induction left generalizing state run with
  | nil => exact ⟨state, rfl, along_nil _, rfl, rfl⟩
  | cons command left ih =>
      have hstep := @step_write text requests state jobId run command left hrun hleft
      obtain ⟨written, hwrites, hwritten, hredis, hphases⟩ := ih _
        (setRun_runs (state.apply jobId command) jobId (run.advance command left hleft)) rfl
      exact ⟨written, run_cons_eq_some.mpr ⟨_, hstep, hwrites⟩,
        .cons hstep trivial hwritten, hredis, hphases⟩

def State.become (state : State) (i : Nat) (phase : Phase FetchResultSchema) : State :=
  { state with api := { state.api with phases := Function.update state.api.phases i phase } }

theorem become_phases (state : State) (i : Nat) (phase : Phase FetchResultSchema) :
    (state.become i phase).api.phases i = phase := Function.update_self ..

theorem step_become {i : Nat} {drawn : String} {now : Instant}
    {phase next : Phase FetchResultSchema}
    (hreads : phase.command text (requests i) now state.api.redis = state.api.redis)
    (hresume : phase.resume text (requests i) state.api.redis drawn now = some next) :
    step text requests (state.become i phase) (.complete i drawn now) =
      some (state.become i next) := by
  have hredis : (state.become i phase).api.redis = state.api.redis := rfl
  unfold step Jobs.step
  dsimp only
  rw [become_phases, hredis, hresume, hreads]
  unfold State.become
  dsimp only [Option.bind_eq_bind, Option.bind_some, Option.map_some]
  rw [Function.update_idem]

theorem freshIds_become {i : Nat} {drawn : String} {now : Instant}
    {phase : Phase FetchResultSchema} (h : phase.draws = false) :
    FreshIds (state.become i phase) (.complete i drawn now) := by
  intro hdraws
  rw [become_phases, h] at hdraws
  cases hdraws

theorem answered_of_final (text : TextMethods) (requests : Nat → FetchRequest) {i left : Nat}
    {jobId : String} (drawn : String) (now : Instant) {data : StatusData FetchResultSchema}
    (hphase : state.api.phases i = .poll jobId left)
    (hdata : state.api.redis.jobStatus jobId = some data) (hfinal : data.status.final = true) :
    ∃ answered, run (step text requests) state (List.replicate 3 (.complete i drawn now)) =
        some answered ∧
      Along (step text requests) FreshIds state (List.replicate 3 (.complete i drawn now)) ∧
      answered.api.phases i = .responded (.result
        (JobService.getResult jobId data (state.api.redis.jobError jobId) now)) := by
  have hstart : state = state.become i (.poll jobId left) := by
    unfold State.become
    rw [← hphase, Function.update_eq_self]
  have hfirst : Phase.resume text (requests i) state.api.redis drawn now (.poll jobId left) =
      some (.readStatus jobId true) := by
    simp only [Phase.resume, hdata]
    exact if_pos (ended_of_final hfinal)
  have hsecond : Phase.resume text (requests i) state.api.redis drawn now
      (.readStatus jobId true) = some (.readError jobId true data) := by
    simp only [Phase.resume, hdata]
  have hone : step text requests (state.become i (.poll jobId left)) (.complete i drawn now) =
      some (state.become i (.readStatus jobId true)) := step_become rfl hfirst
  have htwo : step text requests (state.become i (.readStatus jobId true))
      (.complete i drawn now) = some (state.become i (.readError jobId true data)) :=
    step_become rfl hsecond
  have hthree : step text requests (state.become i (.readError jobId true data))
      (.complete i drawn now) = some (state.become i (.responded (.result
        (JobService.getResult jobId data (state.api.redis.jobError jobId) now)))) :=
    step_become rfl rfl
  have hfresh : FreshIds (state.become i (.poll jobId left)) (.complete i drawn now) :=
    freshIds_become rfl
  rw [← hstart] at hone hfresh
  refine ⟨_, ?_, ?_, become_phases state ..⟩
  · exact run_cons_eq_some.mpr ⟨_, hone, run_cons_eq_some.mpr ⟨_, htwo,
      run_cons_eq_some.mpr ⟨_, hthree, run_nil _⟩⟩⟩
  · exact .cons hone hfresh (.cons htwo (freshIds_become rfl)
      (.cons hthree (freshIds_become rfl) (along_nil _)))

end Completion

def allCompletes : Environment := { shutdownInUsage with deliveries := fun _ => .completes }

def answeredInTime : List Action :=
  List.replicate 6 (.complete 0 "job-a" 0) ++
    (.start "job-a" plainContext allCompletes ::
      (List.replicate 2 (.write "job-a") ++ List.replicate 3 (.complete 0 "job-a" 0)))

theorem runCommands_allCompletes (redis : Redis FetchResultSchema) :
    ∃ running published,
      runCommands plainContext allCompletes ((syncRequests 0).task asciiText "job-a") redis =
        [.setStatus running, .setStatus published] ∧ published.status = .completed :=
  ⟨_, _, rfl, rfl⟩

theorem polling_syncRequests : ∃ polling,
    run (step asciiText syncRequests) .initial (List.replicate 6 (.complete 0 "job-a" 0)) =
        some polling ∧
      Along (step asciiText syncRequests) FreshIds .initial
        (List.replicate 6 (.complete 0 "job-a" 0)) ∧
      polling.api.phases 0 = .poll "job-a" 299 ∧
      polling.api.redis.queue = [(syncRequests 0).task asciiText "job-a"] ∧
      polling.runs "job-a" = none := by
  refine ⟨_, rfl, ?_, rfl, rfl, rfl⟩
  refine .cons rfl (fun _ _ _ => nofun) (.cons rfl nofun (.cons rfl nofun ?_))
  exact .cons rfl nofun (.cons rfl nofun (.cons rfl nofun (along_nil _)))

theorem sync_answer_of_run_in_time : ∃ state response,
    run (step asciiText syncRequests) .initial answeredInTime = some state ∧
      state.api.phases 0 = .responded (.result response) ∧ response.status = .completed ∧
      ∃ run fetched, state.runs response.jobId = some run ∧
        run.environment.fetch = .ok fetched ∧
        response.result = some (publishedSchema run.context fetched) := by
  obtain ⟨polling, hpolling, hfresh, hphase, hqueue, hruns⟩ := polling_syncRequests
  obtain ⟨running, published, hcommands, hcompleted⟩ :=
    runCommands_allCompletes polling.api.redis
  have hstart : step asciiText syncRequests polling
      (.start "job-a" plainContext allCompletes) = some _ :=
    step_start plainContext allCompletes (by rw [hqueue]; rfl) hruns
  obtain ⟨written, hwrites, hwritten, hredis, hphases⟩ := writes_all asciiText syncRequests _
    (setRun_runs polling "job-a" (.start plainContext allCompletes _ polling.api.redis)) hcommands
  have hstored : written.api.redis.jobStatus "job-a" = some published := by
    rw [hredis]
    rfl
  have hpolled : written.api.phases 0 = .poll "job-a" 299 := by
    rw [hphases]
    exact hphase
  obtain ⟨answered, hanswered, hlast, hresponse⟩ :=
    answered_of_final asciiText syncRequests "job-a" 0 hpolled hstored (hcompleted ▸ rfl)
  have hrun : run (step asciiText syncRequests) .initial answeredInTime = some answered := by
    have htwo : run (step asciiText syncRequests) _ (List.replicate 2 (.write "job-a")) =
        some written := hwrites
    rw [answeredInTime, run_append, hpolling, Option.bind_some, run_cons, hstart,
      Option.bind_some, run_append, htwo, Option.bind_some]
    exact hanswered
  have halong := along_append hpolling hfresh (.cons hstart trivial
    (along_append hwrites hwritten hlast))
  obtain ⟨run, hjob, -, data, -, -, -, -, hfetched⟩ :=
    sync_answer_of_run asciiText syncRequests answeredInTime answered hrun halong 0 _ hresponse
  obtain ⟨fetched, hfetch, hresult⟩ := hfetched hcompleted
  exact ⟨answered, _, hrun, hresponse, hcompleted, run, fetched, hjob, hfetch, hresult⟩

end CrawlerApi.Worker.JobLife
