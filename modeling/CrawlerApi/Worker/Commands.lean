import CrawlerApi.Worker.Finality

/-!
# The Redis commands of a run

A run writes two keys of its job, the status and the error.  Whatever way its awaits end,
what it writes is `running` at most, then the completed result at most, then from a
handler the failed status and behind it the error.
-/

namespace CrawlerApi.Worker

open Keys Fetch Jobs Foundation

inductive Command where
  | setStatus (data : StatusData FetchResultSchema)
  | setError (error : String)

def Command.apply (jobId : String) (redis : Redis FetchResultSchema) :
    Command → Redis FetchResultSchema
  | .setStatus data => JobService.setStatus redis jobId data
  | .setError error => JobService.setError redis jobId error

def Command.status? : Command → Option (StatusData FetchResultSchema)
  | .setStatus data => some data
  | .setError _ => none

def replay (jobId : String) (commands : List Command) (redis : Redis FetchResultSchema) :
    Redis FetchResultSchema :=
  commands.foldl (Command.apply jobId) redis

/-- The step from one world to the other is that of the commands. -/
structure Wrote (jobId : String) (world : World) (commands : List Command) (after : World) :
    Prop where
  redis : after.redis = replay jobId commands world.redis
  statusWrites : after.statusWrites = world.statusWrites ++ commands.filterMap Command.status?

def publishedSchema (context : Context) (fetched : FetchResult) : FetchResultSchema :=
  .fromResult context.text (normalizeResult context fetched).1 (normalizeResult context fetched).2

inductive BodyCommands (context : Context) (environment : Environment) : List Command → Prop where
  | nothing : BodyCommands context environment []
  | running {begun : StatusData FetchResultSchema} : begun.status = .running →
      BodyCommands context environment [.setStatus begun]
  | completed {begun done : StatusData FetchResultSchema} {fetched : FetchResult} :
      begun.status = .running → environment.fetch = .ok fetched → done.status = .completed →
      done.result = some (publishedSchema context fetched) →
      BodyCommands context environment [.setStatus begun, .setStatus done]

inductive HandlerCommands : List Command → Prop where
  | nothing : HandlerCommands []
  | failed {data : StatusData FetchResultSchema} : data.status = .failed →
      HandlerCommands [.setStatus data]
  | error {data : StatusData FetchResultSchema} {error : String} : data.status = .failed →
      HandlerCommands [.setStatus data, .setError error]

section Commands

variable {context : Context} {environment : Environment} {task : FetchTask}
  {world middle after : World} {first second : List Command} {jobId : String}

theorem Wrote.refl (world : World) : Wrote jobId world [] world :=
  ⟨rfl, (List.append_nil _).symm⟩

theorem Wrote.trans (h : Wrote jobId world first middle) (hnext : Wrote jobId middle second after) :
    Wrote jobId world (first ++ second) after := by
  refine ⟨?_, ?_⟩
  · rw [hnext.redis, h.redis, replay, replay, replay, List.foldl_append]
  · rw [hnext.statusWrites, h.statusWrites, List.filterMap_append, List.append_assoc]

theorem Wrote.of_same (h : Wrote jobId world first middle) (hredis : after.redis = middle.redis)
    (hwrites : after.statusWrites = middle.statusWrites) : Wrote jobId world first after :=
  ⟨hredis.trans h.redis, hwrites.trans h.statusWrites⟩

theorem wrote_writeStatus (data : StatusData FetchResultSchema) :
    Wrote jobId world [.setStatus data] (world.writeStatus jobId data) := ⟨rfl, rfl⟩

private theorem publish_wrote {prepared : FetchResult × FetchResultSchema} {fetched : FetchResult}
    {begun : StatusData FetchResultSchema} {redis : Redis FetchResultSchema}
    (hfetch : environment.fetch = .ok fetched)
    (hprepared : prepared.2 = publishedSchema context fetched) (hrunning : begun.status = .running)
    (hbegun : Wrote task.jobId (World.start redis) [.setStatus begun] world)
    (hleft : LeftByFetch environment world.session) :
    ∃ commands, BodyCommands context environment commands ∧
      Wrote task.jobId (World.start redis) commands (finalWorld
        ((setStatus environment task .completedGet .completedSet .completed (some prepared.2) >>=
          fun _ => account context environment task prepared.1 >>=
          fun _ => scheduleCallback context task .completed (some prepared.2) none) world)) := by
  obtain ⟨payload, hcompleted, hresult, hset⟩ : ∃ payload : StatusData FetchResultSchema,
      payload.status = .completed ∧ payload.result = some prepared.2 ∧
        SetStatusEnds _ _ world (world.writeStatus task.jobId payload)
          (setStatus environment task .completedGet .completedSet .completed (some prepared.2)
            world) :=
    ⟨_, rfl, rfl, setStatus_ends ..⟩
  have hcommands : BodyCommands context environment [.setStatus begun, .setStatus payload] :=
    .completed hrunning hfetch hcompleted (hresult.trans (congrArg some hprepared))
  have hwrote : Wrote task.jobId (World.start redis) [.setStatus begun, .setStatus payload]
      (world.writeStatus task.jobId payload) := hbegun.trans (wrote_writeStatus payload)
  generalize hstep : setStatus environment task .completedGet .completedSet .completed
    (some prepared.2) world = answer at hset
  cases hset with
  | raisesBefore _ =>
      rw [bind_error hstep]
      exact ⟨_, .running hrunning, hbegun⟩
  | raisesAfter _ _ =>
      rw [bind_error hstep]
      exact ⟨_, hcommands, hwrote⟩
  | completes _ _ =>
      rw [bind_ok hstep]
      have hends : SessionEnds _ _ _ (account context environment task prepared.1
          (world.writeStatus task.jobId payload)) := account_ends prepared.1 hleft
      generalize haccount : account context environment task prepared.1
        (world.writeStatus task.jobId payload) = answer at hends
      cases hends with
      | raises session _ =>
          rw [bind_error haccount]
          exact ⟨_, hcommands, hwrote.of_same rfl rfl⟩
      | answers session _ _ =>
          rw [bind_ok haccount]
          obtain ⟨scheduled, -, hstep⟩ := scheduleCallback_ends context task .completed
            (some prepared.2) none { world.writeStatus task.jobId payload with session := session }
          rw [hstep]
          exact ⟨_, hcommands, hwrote.of_same rfl rfl⟩

theorem body_wrote (context : Context) (environment : Environment) (task : FetchTask)
    (redis : Redis FetchResultSchema) :
    ∃ commands, BodyCommands context environment commands ∧
      Wrote task.jobId (World.start redis) commands
        (finalWorld (body context environment task (World.start redis))) := by
  have hprepared : PrepareEnds context environment (World.start redis)
      (started environment task (World.start redis))
      (prepare context environment task (World.start redis)) := prepare_ends rfl
  have hbegun : Wrote task.jobId (World.start redis) [.setStatus _]
      (started environment task (World.start redis)) := wrote_writeStatus _
  unfold body
  generalize hstep : prepare context environment task (World.start redis) = answer at hprepared
  cases hprepared with
  | notStarted _ =>
      rw [bind_error hstep]
      exact ⟨[], .nothing, .refl _⟩
  | raises session _ =>
      rw [bind_error hstep]
      exact ⟨_, .running rfl, hbegun.of_same rfl rfl⟩
  | ready _ hleft =>
      obtain ⟨fetched, hfetch, rfl⟩ := prepare_eq_ok hstep
      rw [bind_ok hstep]
      exact publish_wrote hfetch rfl rfl (hbegun.of_same rfl rfl) hleft

private theorem afterError_wrote (exn : Exn) (error : String) (world : World) :
    Wrote jobId world [] (finalWorld
      ((onSession (upsertUsage environment task .handlerUsageExecute .handlerUsageCommit 0) >>=
        fun _ => scheduleCallback context task .failed none (some error) >>=
        fun _ => if exn = .cancelled then throw exn else pure ()) world)) := by
  rcases upsertUsage_cases .handlerUsageExecute .handlerUsageCommit 0 with
    ⟨-, hanswer⟩ | ⟨-, hanswer⟩
  · rw [bind_ok (onSession_ok hanswer)]
    obtain ⟨scheduled, -, hstep⟩ := scheduleCallback_ends context task .failed none (some error)
      { world with session := (upsertUsage environment task .handlerUsageExecute
        .handlerUsageCommit 0 world.session).1 }
    rw [bind_ok hstep]
    split <;> exact (Wrote.refl world).of_same rfl rfl
  · rw [bind_error (onSession_error hanswer)]
    exact (Wrote.refl world).of_same rfl rfl

theorem handler_wrote (context : Context) (environment : Environment) (task : FetchTask)
    (exn : Exn) (world : World) :
    ∃ commands, HandlerCommands commands ∧
      Wrote task.jobId world commands
        (finalWorld (handler context environment task exn world)) := by
  unfold handler
  generalize (if exn = .cancelled then "Worker shutdown" else exn.message) = error
  obtain ⟨failed, hfailed, hset⟩ : ∃ failed : StatusData FetchResultSchema,
      failed.status = .failed ∧
        SetStatusEnds _ _ world (world.writeStatus task.jobId failed)
          (setStatus environment task .errorGet .errorStatusSet .failed none world) :=
    ⟨_, rfl, setStatus_ends ..⟩
  have hwrote : Wrote task.jobId world [.setStatus failed] (world.writeStatus task.jobId failed) :=
    wrote_writeStatus failed
  generalize hstep : setStatus environment task .errorGet .errorStatusSet .failed none world =
    answer at hset
  cases hset with
  | raisesBefore _ =>
      rw [bind_error (by rw [setError, bind_error hstep])]
      exact ⟨[], .nothing, .refl world⟩
  | raisesAfter _ _ =>
      rw [bind_error (by rw [setError, bind_error hstep])]
      exact ⟨_, .failed hfailed, hwrote⟩
  | completes _ _ =>
      have herror : Wrote task.jobId world [.setStatus failed, .setError error]
          { world.writeStatus task.jobId failed with
            redis := JobService.setError (world.writeStatus task.jobId failed).redis task.jobId
              error } :=
        hwrote.trans ⟨rfl, (List.append_nil _).symm⟩
      cases hsite : environment.deliveries .errorSet with
      | completes =>
          rw [bind_ok (by rw [setError, bind_ok hstep, awaiting_completes hsite])]
          exact ⟨_, .error hfailed, herror.trans (afterError_wrote exn error _)⟩
      | raises other applied =>
          rw [bind_error (by rw [setError, bind_ok hstep, awaiting_raises hsite])]
          cases applied with
          | true => exact ⟨_, .error hfailed, herror⟩
          | false => exact ⟨_, .failed hfailed, hwrote⟩

end Commands

/-- The commands of a run are those of the try block and those of a handler. -/
theorem fetchTask_wrote (context : Context) (environment : Environment) (task : FetchTask)
    (redis : Redis FetchResultSchema) :
    ∃ before behind, BodyCommands context environment before ∧ HandlerCommands behind ∧
      Wrote task.jobId (World.start redis) (before ++ behind)
        (finalWorld (fetchTask context environment task (World.start redis))) := by
  obtain ⟨before, hbefore, hbody⟩ := body_wrote context environment task redis
  cases hstep : body context environment task (World.start redis) with
  | ok _ final =>
      rw [hstep] at hbody
      refine ⟨before, [], hbefore, .nothing, ?_⟩
      rw [finalWorld_fetchTask_ok hstep, List.append_nil]
      exact hbody.of_same rfl rfl
  | error exn final =>
      rw [hstep] at hbody
      obtain ⟨behind, hbehind, hhandler⟩ := handler_wrote context environment task exn final
      refine ⟨before, behind, hbefore, hbehind, ?_⟩
      rw [finalWorld_fetchTask_error hstep]
      exact (hbody.trans hhandler).of_same rfl rfl

section Written

variable {context : Context} {environment : Environment} {commands : List Command}
  {data : StatusData FetchResultSchema}

theorem BodyCommands.completed_of_mem (h : BodyCommands context environment commands)
    (hmem : data ∈ commands.filterMap Command.status?) (hcompleted : data.status = .completed) :
    ∃ fetched, environment.fetch = .ok fetched ∧
      data.result = some (publishedSchema context fetched) := by
  cases h with
  | nothing => cases hmem
  | running hrunning =>
      rw [List.mem_singleton.mp hmem, hrunning] at hcompleted
      cases hcompleted
  | completed hrunning hfetch _ hresult =>
      rcases List.mem_cons.mp hmem with rfl | hlast
      · rw [hrunning] at hcompleted
        cases hcompleted
      · rw [List.mem_singleton.mp hlast]
        exact ⟨_, hfetch, hresult⟩

theorem HandlerCommands.failed_of_mem (h : HandlerCommands commands)
    (hmem : data ∈ commands.filterMap Command.status?) : data.status = .failed := by
  cases h with
  | nothing => cases hmem
  | failed hfailed => rw [List.mem_singleton.mp hmem, hfailed]
  | error hfailed => rw [List.mem_singleton.mp hmem, hfailed]

theorem completed_of_mem {task : FetchTask} {redis : Redis FetchResultSchema}
    (hmem : data ∈
      (finalWorld (fetchTask context environment task (World.start redis))).statusWrites)
    (hcompleted : data.status = .completed) :
    ∃ fetched, environment.fetch = .ok fetched ∧
      data.result = some (publishedSchema context fetched) := by
  obtain ⟨before, behind, hbefore, hbehind, hwrote⟩ :=
    fetchTask_wrote context environment task redis
  rw [hwrote.statusWrites, List.filterMap_append] at hmem
  rcases List.mem_append.mp hmem with hnone | hmem
  · cases hnone
  · rcases List.mem_append.mp hmem with hfirst | hlast
    · exact hbefore.completed_of_mem hfirst hcompleted
    · rw [hbehind.failed_of_mem hlast] at hcompleted
      cases hcompleted

end Written

/-- A run that nothing interrupts publishes what it fetched. -/
theorem published_of_quiet {context : Context} {environment : Environment}
    (hpublishes : Publishes context environment)
    (hquiet : ¬ (environment.deliveries .completedSet ≠ .completes ∨ AccountRaises environment))
    (task : FetchTask) (redis : Redis FetchResultSchema) :
    ∃ data ∈ (finalWorld (fetchTask context environment task (World.start redis))).statusWrites,
      ∃ fetched, environment.fetch = .ok fetched ∧ data.status = .completed ∧
        data.result = some (publishedSchema context fetched) := by
  have hbody := body_ends context environment task redis
  obtain ⟨commands, hcommands, hwrote⟩ := body_wrote context environment task redis
  generalize hstep : body context environment task (World.start redis) = answer at hbody hwrote
  cases hbody with
  | early hnot => exact absurd hpublishes hnot
  | interrupted _ hinterrupted => exact absurd hinterrupted hquiet
  | done _ htwo =>
      rw [finalWorld_fetchTask_ok hstep, statusWrites_closeSession]
      have hwrites := htwo.symm.trans hwrote.statusWrites
      cases hcommands with
      | nothing => cases hwrites
      | running _ => cases hwrites
      | completed _ hfetch hcompleted hresult =>
          refine ⟨_, ?_, _, hfetch, hcompleted, hresult⟩
          rw [htwo, hwrites]
          exact List.mem_cons_of_mem _ (List.mem_singleton_self _)

end CrawlerApi.Worker
