import CrawlerApi.Foundation.Run
import CrawlerApi.Worker.Commands

/-!
# Reading the result of a job

The status and the error of a job are two keys, written and read by commands of their
own.  Runs of the task take the job up one after the other and may stop anywhere; reads
go on all the time.  An error is never taken back.
-/

namespace CrawlerApi.Worker

open Keys Fetch Jobs Foundation

structure RunWrites where
  commands : List Command
  ran : ∃ context environment before behind, BodyCommands context environment before ∧
    HandlerCommands behind ∧ commands = before ++ behind

/-- Every run is one of them. -/
theorem fetchTask_runWrites (context : Context) (environment : Environment) (task : FetchTask)
    (redis : Redis FetchResultSchema) :
    ∃ run : RunWrites, Wrote task.jobId (World.start redis) run.commands
      (finalWorld (fetchTask context environment task (World.start redis))) := by
  obtain ⟨before, behind, hbefore, hbehind, hwrote⟩ :=
    fetchTask_wrote context environment task redis
  exact ⟨⟨before ++ behind, context, environment, before, behind, hbefore, hbehind, rfl⟩, hwrote⟩

abbrev Reader := Nat

/-- The keys, what the run at work has still to write, what each read under way has of
the status, and the responses so far. -/
structure JobState where
  redis : Redis FetchResultSchema
  remaining : List Command := []
  reads : Reader → Option (StatusData FetchResultSchema) := fun _ => none
  responses : List (JobResultResponse FetchResultSchema) := []

inductive JobAction where
  | begin (run : RunWrites)
  | write
  | stop
  | getStatus (reader : Reader)
  | getError (reader : Reader) (now : Instant)

def JobState.setRead (state : JobState) (reader : Reader)
    (data : Option (StatusData FetchResultSchema)) : JobState :=
  { state with reads := fun other => if other = reader then data else state.reads other }

section System

variable (jobId : String)

/-- One command.  A run begins when the one before has stopped, and a job without a status
is not found. -/
def jobStep (state : JobState) : JobAction → Option JobState
  | .begin run =>
      if state.remaining.isEmpty then some { state with remaining := run.commands } else none
  | .write =>
      match state.remaining with
      | [] => none
      | command :: rest =>
          some { state with redis := command.apply jobId state.redis, remaining := rest }
  | .stop => some { state with remaining := [] }
  | .getStatus reader => some (state.setRead reader (state.redis.jobStatus jobId))
  | .getError reader now =>
      match state.reads reader with
      | none => none
      | some data =>
          some { state.setRead reader none with
            responses := state.responses ++
              [JobService.getResult jobId data (state.redis.jobError jobId) now] }

/-- A job that was enqueued: no error, and no failure. -/
structure Enqueued (state : JobState) : Prop where
  remaining : state.remaining = []
  reads : ∀ reader, state.reads reader = none
  responses : state.responses = []
  error : state.redis.jobError jobId = none

/-- An error is there exactly if the status is `failed`. -/
def ErrorMatches (response : JobResultResponse FetchResultSchema) : Prop :=
  response.error ≠ none ↔ response.status = .failed

/-- No status but `failed` is written behind an error, no error is written while a read is
under way that saw another status, and no read lies between the failed status and its
error. -/
def Orderly (state : JobState) : JobAction → Prop
  | .write =>
      (∀ data rest, state.remaining = .setStatus data :: rest → data.status ≠ .failed →
        state.redis.jobError jobId = none) ∧
      (∀ error rest, state.remaining = .setError error :: rest →
        ∀ reader data, state.reads reader = some data → data.status = .failed)
  | .getError reader _ =>
      ∀ data, state.reads reader = some data → data.status = .failed →
        state.redis.jobError jobId ≠ none
  | _ => True

end System

def ErrorsFollow (failed : Prop) : List Command → Prop
  | [] => True
  | .setStatus data :: rest => ErrorsFollow (data.status = .failed) rest
  | .setError _ :: rest => failed ∧ ErrorsFollow failed rest

section Invariant

variable {jobId : String} {state next : JobState} {action : JobAction} {failed : Prop}

theorem RunWrites.errorsFollow (run : RunWrites) : ErrorsFollow failed run.commands := by
  obtain ⟨context, environment, before, behind, hbefore, hbehind, hcommands⟩ := run.ran
  have hhandler (failed : Prop) : ErrorsFollow failed behind := by
    cases hbehind with
    | nothing => trivial
    | failed _ => trivial
    | error hfailed => exact ⟨hfailed, trivial⟩
  rw [hcommands]
  cases hbefore with
  | nothing => exact hhandler _
  | running _ => exact hhandler _
  | completed _ _ _ _ => exact hhandler _

def StatusIs (jobId : String) (state : JobState) (status : JobStatus) : Prop :=
  ∃ data, state.redis.jobStatus jobId = some data ∧ data.status = status

structure Visible (jobId : String) (state : JobState) : Prop where
  status : ∀ data, state.redis.jobStatus jobId = some data → data.status ≠ .failed →
    state.redis.jobError jobId = none
  reads : ∀ reader data, state.reads reader = some data → data.status ≠ .failed →
    state.redis.jobError jobId = none
  remaining : ErrorsFollow (StatusIs jobId state .failed) state.remaining
  responses : ∀ response ∈ state.responses, ErrorMatches response

theorem Enqueued.visible (h : Enqueued jobId state) : Visible jobId state where
  status _ _ _ := h.error
  reads _ _ _ _ := h.error
  remaining := by rw [h.remaining]; trivial
  responses := by rw [h.responses]; exact List.forall_mem_nil _

theorem errorsFollow_of_imp {other : Prop} (himp : failed → other) {commands : List Command}
    (h : ErrorsFollow failed commands) : ErrorsFollow other commands := by
  induction commands with
  | nil => trivial
  | cons command rest ih =>
      cases command with
      | setStatus data => exact h
      | setError error => exact ⟨himp h.1, ih h.2⟩

private theorem visible_setStatus {data : StatusData FetchResultSchema} {rest : List Command}
    (h : Visible jobId state) (hremaining : state.remaining = .setStatus data :: rest)
    (hclear : data.status ≠ .failed → state.redis.jobError jobId = none) :
    Visible jobId { state with
      redis := (Command.setStatus data).apply jobId state.redis
      remaining := rest } where
  status other hother hstatus := by
    have hsame : some data = some other := (if_pos rfl).symm.trans hother
    cases hsame
    exact hclear hstatus
  reads := h.reads
  remaining := by
    have hfollow := h.remaining
    rw [hremaining] at hfollow
    exact errorsFollow_of_imp (fun hfailed => ⟨data, if_pos rfl, hfailed⟩) hfollow
  responses := h.responses

private theorem visible_setError {error : String} {rest : List Command}
    (h : Visible jobId state) (hremaining : state.remaining = .setError error :: rest)
    (hreads : ∀ reader data, state.reads reader = some data → data.status = .failed) :
    Visible jobId { state with
      redis := (Command.setError error).apply jobId state.redis
      remaining := rest } := by
  have hfollow := h.remaining
  rw [hremaining] at hfollow
  obtain ⟨⟨failed, hstored, hfailed⟩, hrest⟩ := hfollow
  refine ⟨fun data hdata hstatus => ?_, fun reader data hdata hstatus => ?_, hrest, h.responses⟩
  · have hsame : some failed = some data := hstored.symm.trans hdata
    cases hsame
    exact absurd hfailed hstatus
  · exact absurd (hreads reader data hdata) hstatus

private theorem visible_setRead {reader : Reader} {data : Option (StatusData FetchResultSchema)}
    (h : Visible jobId state)
    (hread : ∀ status, data = some status → status.status ≠ .failed →
      state.redis.jobError jobId = none) : Visible jobId (state.setRead reader data) where
  status := h.status
  reads other status hother := by
    by_cases hreader : other = reader
    · have hdata : data = some status := (if_pos hreader).symm.trans hother
      exact hread status hdata
    · exact h.reads other status ((if_neg hreader).symm.trans hother)
  remaining := h.remaining
  responses := h.responses

private theorem errorMatches_getResult {data : StatusData FetchResultSchema} {reader : Reader}
    {now : Instant} (h : Visible jobId state) (hdata : state.reads reader = some data)
    (horderly : data.status = .failed → state.redis.jobError jobId ≠ none) :
    ErrorMatches (JobService.getResult jobId data (state.redis.jobError jobId) now) := by
  by_cases hfailed : data.status = .failed
  · exact iff_of_true (horderly hfailed) hfailed
  · exact iff_of_false (not_not.mpr (h.reads reader data hdata hfailed)) hfailed

theorem visible_step (h : Visible jobId state) (horderly : Orderly jobId state action)
    (hstep : jobStep jobId state action = some next) : Visible jobId next := by
  cases action with
  | begin run =>
      dsimp only [jobStep] at hstep
      split at hstep
      · cases hstep
        exact ⟨h.status, h.reads, run.errorsFollow, h.responses⟩
      · cases hstep
  | write =>
      dsimp only [jobStep] at hstep
      cases hremaining : state.remaining with
      | nil =>
          rw [hremaining] at hstep
          cases hstep
      | cons command rest =>
          rw [hremaining] at hstep
          cases hstep
          cases command with
          | setStatus data =>
              exact visible_setStatus h hremaining (horderly.1 data rest hremaining)
          | setError error =>
              exact visible_setError h hremaining (horderly.2 error rest hremaining)
  | stop =>
      cases hstep
      exact ⟨h.status, h.reads, trivial, h.responses⟩
  | getStatus reader =>
      cases hstep
      exact visible_setRead h h.status
  | getError reader now =>
      dsimp only [jobStep] at hstep
      cases hdata : state.reads reader with
      | none =>
          rw [hdata] at hstep
          cases hstep
      | some data =>
          rw [hdata] at hstep
          cases hstep
          have hkept : Visible jobId (state.setRead reader none) :=
            visible_setRead h fun status hnone => by cases hnone
          refine ⟨hkept.status, hkept.reads, hkept.remaining, fun response hresponse => ?_⟩
          rcases List.mem_append.mp hresponse with hbefore | hnew
          · exact h.responses response hbefore
          · rw [List.mem_singleton.mp hnew]
            exact errorMatches_getResult h hdata (horderly data hdata)

end Invariant

/-- In every orderly interleaving of runs and reads each response has an error exactly if
its status is `failed`. -/
theorem errors_visible {jobId : String} {state final : JobState} {actions : List JobAction}
    (hstart : Enqueued jobId state) (horderly : Along (jobStep jobId) (Orderly jobId) state actions)
    (hrun : run (jobStep jobId) state actions = some final) :
    ∀ response ∈ final.responses, ErrorMatches response :=
  (run_invariant (fun _ _ _ h => visible_step h) hstart.visible horderly hrun).responses

/-! ### Two runs of one job -/

def statusOf (status : JobStatus) : StatusData FetchResultSchema where
  status := status
  createdAt := some 0
  updatedAt := some 1

def interruptedRun : RunWrites where
  commands := [.setStatus (statusOf .running), .setStatus (statusOf .failed),
    .setError "Worker shutdown"]
  ran := ⟨plainContext, shutdownInUsage, [.setStatus (statusOf .running)],
    [.setStatus (statusOf .failed), .setError "Worker shutdown"], .running rfl, .error rfl, rfl⟩

def enqueuedJob : JobState where
  redis := JobService.setStatus Redis.empty "job-1"
    { status := .pending, createdAt := some 0 }

theorem enqueuedJob_enqueued : Enqueued "job-1" enqueuedJob := ⟨rfl, fun _ => rfl, rfl, rfl⟩

theorem read_behind_error_matches :
    ∃ final, run (jobStep "job-1") enqueuedJob
        [.begin interruptedRun, .write, .write, .write, .getStatus 0, .getError 0 5] = some final ∧
      ∀ response ∈ final.responses, ErrorMatches response := by
  refine ⟨_, rfl, ?_⟩
  refine @errors_visible "job-1" enqueuedJob _
    [.begin interruptedRun, .write, .write, .write, .getStatus 0, .getError 0 5]
    enqueuedJob_enqueued ?_ rfl
  refine .cons rfl trivial (.cons rfl ⟨fun _ _ _ _ => rfl, nofun⟩ ?_)
  refine .cons rfl ⟨fun _ _ _ _ => rfl, nofun⟩ (.cons rfl ⟨?_, ?_⟩ ?_)
  · intro data rest hremaining
    cases hremaining
  · intro error rest _ reader data hread
    cases hread
  · exact .cons rfl trivial (.cons rfl (fun _ _ _ => Option.some_ne_none _) (along_nil _))

/-- A second run leaves the error of the first beside its own status, and a read between
the two writes of a failure finds no error. -/
theorem error_beside_running :
    (∃ final, run (jobStep "job-1") enqueuedJob
        [.begin interruptedRun, .write, .write, .write, .begin interruptedRun, .write,
          .getStatus 0, .getError 0 5] = some final ∧
      ∃ response ∈ final.responses, ¬ ErrorMatches response) ∧
    ∃ final, run (jobStep "job-1") enqueuedJob
        [.begin interruptedRun, .write, .write, .getStatus 0, .getError 0 5] = some final ∧
      ∃ response ∈ final.responses, ¬ ErrorMatches response := by
  constructor
  · refine ⟨_, rfl, _, List.mem_singleton_self _, fun h => ?_⟩
    have hstatus := h.mp (Option.some_ne_none "Worker shutdown")
    cases hstatus
  · refine ⟨_, rfl, _, List.mem_singleton_self _, fun h => ?_⟩
    exact absurd rfl (h.mpr rfl)

end CrawlerApi.Worker
