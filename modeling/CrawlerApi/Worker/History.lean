import CrawlerApi.Worker.EngineChoice
import CrawlerApi.Worker.Ledgers
import CrawlerApi.Worker.TierLaw

/-!
# The jobs of one domain

Static jobs of a domain run one after the other on its policy row.  What the learner
makes of one job is what the retry loop of the next one starts from.
-/

namespace CrawlerApi.Worker

open Keys Fetch Jobs Foundation

def Site.isDatabase : Site → Bool
  | .policySelect | .archiveSelect | .archiveCommit | .archiveRefresh
  | .learnerSelect | .learnerCommit | .learnerRollback
  | .usageExecute | .usageCommit | .handlerUsageExecute | .handlerUsageCommit => true
  | _ => false

structure LadderRow where
  row : PolicyRow
  unlocked : row.tierLocked = false
  httpx : row.engine = .httpx

/-- A static job, what the calls of its retry loop answer and how its other awaits end;
its statements succeed. -/
structure HistoryJob where
  context : Context
  task : FetchTask
  domain : String
  hasProxyManager : Bool := true
  overrides : Overrides := {}
  answers : Fetch.Environment
  environment : Environment
  redis : Redis FetchResultSchema
  static : task.mode = .static
  database : ∀ site, site.isDatabase = true → environment.deliveries site = .completes

def Statement.outcome : Statement → Option PolicyRow
  | .policyOutcome row => some row
  | _ => none

namespace JobRun

def completing (run : JobRun) : Task (FetchResult × FetchResultSchema) := do
  let prepared ← prepare run.context run.environment run.task
  setStatus run.environment run.task .completedGet .completedSet .completed (some prepared.2)
  pure prepared

/-- The `tier_used` the job hands to the learner. -/
def recordedTier (run : JobRun) : Option Nat :=
  match run.completing (World.start run.redis) with
  | .ok prepared _ => some prepared.1.tierUsed
  | .error _ _ => none

def outcomes (run : JobRun) : List PolicyRow := run.committed.filterMap Statement.outcome

end JobRun

def LadderRow.after (ladder : LadderRow) (run : JobRun) : PolicyRow :=
  run.outcomes.getLast?.getD ladder.row

section Job

variable (enablePremium : Bool)

def HistoryJob.request (job : HistoryJob) (row : PolicyRow) : Fetch.Request :=
  fetchRequest ⟨job.domain, job.hasProxyManager, enablePremium⟩ job.task (some row) job.overrides

def HistoryJob.run (job : HistoryJob) (row : PolicyRow) : JobRun where
  context := job.context
  task := job.task
  redis := job.redis
  environment := { job.environment with
    policy := some row
    lockedRow := some row
    fetch := fetchWithRetry job.context.text (job.request enablePremium row) job.answers
    fetchBreaksSession := false }

def startOf (row : PolicyRow) : Nat :=
  min (initialTier (some row.attributes)) (effectiveMaxTier enablePremium).val

theorem request_startTier (job : HistoryJob) (ladder : LadderRow) :
    (job.request enablePremium ladder.row).startTier.val = startOf enablePremium ladder.row := by
  have hladder : (job.request enablePremium ladder.row).requestedEngine = none :=
    fetchRequest_ladder ladder.httpx
  rw [startTier_of_none hladder, ladderStart_val]
  rfl

end Job

section Attempts

variable {enablePremium : Bool} {job : HistoryJob} {ladder : LadderRow} {row : PolicyRow}
  {result : FetchResult}

theorem tierUsed_between
    (h : (job.run enablePremium ladder.row).environment.fetch = .ok result) :
    startOf enablePremium ladder.row ≤ result.tierUsed ∧
      result.tierUsed ≤ (effectiveMaxTier enablePremium).val := by
  obtain ⟨last, hlast, hreturn⟩ := returns_last h
  have hmem := List.mem_of_getLast? hlast
  obtain ⟨-, -, -, htier⟩ := attempt_returns (reachable_of_mem hmem) hreturn
  have hstart := request_startTier enablePremium job ladder
  have hle := Fin.le_def.mp (attempts_between last hmem).1
  rw [htier, ← hstart]
  refine ⟨hle, ?_⟩
  rcases attempts_tier last hmem with hsame | ⟨-, hgate⟩
  · rw [hsame, hstart]
    exact Nat.min_le_right _ _
  · exact Fin.le_def.mp hgate

end Attempts

def Statement.isOutcome (statement : Statement) : Bool := statement.outcome.isSome

section Statements

variable {text : TextMethods} {session : JobSession} {statements : List Statement}

theorem outcomes_of_lacks (h : statements.countP Statement.isOutcome = 0) :
    statements.filterMap Statement.outcome = [] := by
  rw [List.countP_eq_zero] at h
  rw [List.filterMap_eq_nil_iff]
  intro statement hmem
  exact Option.not_isSome_iff_eq_none.mp (h statement hmem)

theorem recordOutcome_completes {deliveries : LearnerDeliveries} {row policy : PolicyRow}
    {now : Instant} {result : FetchResult} (hopen : session.broken = false)
    (hselect : deliveries.select = .completes) (hcommit : deliveries.commit = .completes) :
    recordOutcome text deliveries (some row) now result (some policy) session =
      ({ committed := session.committed ++ (session.pending ++
        [.policyOutcome (row.learn result result.tierUsed
          (BlockDetector.detectVendor text result.headers [] (result.body.take 65536)) now)]) },
        .ok ()) := by
  have hselected : session.execute sessionExceptions [] .completes = (session, .ok ()) := by
    rw [Session.execute, if_neg (Bool.eq_false_iff.mp hopen), List.append_nil]
  unfold recordOutcome
  rw [hselect, hcommit, hselected]
  dsimp only
  rw [Session.commit_outcome (by exact hopen), Delivery.outcome_completes]
  dsimp only
  rw [Session.commit_applied (by exact hopen) (by exact trivial)]
  rfl

end Statements

section Runs

variable {enablePremium : Bool} {job : HistoryJob} {ladder : LadderRow} {run : JobRun}

theorem body_eq : body run.context run.environment run.task =
    run.completing >>= fun prepared =>
      account run.context run.environment run.task prepared.1 >>= fun _ =>
        scheduleCallback run.context run.task .completed (some prepared.2) none := by
  unfold body JobRun.completing
  simp only [bind_assoc, pure_bind]

theorem completing_cut : CutEnds Statement.isOutcome
    (prepareCut run.context run.environment <|>
      statusCut run.environment .completedGet .completedSet run.environment.fetchBreaksSession)
    run.environment.fetchBreaksSession (run.completing (World.start run.redis)) := by
  have hprepare : CutEnds Statement.isOutcome _ _
      (prepare run.context run.environment run.task (World.start run.redis)) :=
    prepare_cut ⟨rfl, rfl⟩ (fun _ => rfl) (fun _ _ _ => rfl) rfl
  apply hprepare.bind
  intro prepared begun _ hlacks hbroken
  apply (setStatus_cut hlacks hbroken).seq
  · intro exn after hcut hlacks
    exact .raises hcut hlacks
  · intro _ after hcut _ hlacks hbroken
    exact .answers hcut hlacks hbroken

theorem completing_fetched {prepared : FetchResult × FetchResultSchema} {after : World}
    (h : run.completing (World.start run.redis) = .ok prepared after) :
    ∃ fetched, run.environment.fetch = .ok fetched ∧
      prepared.1.tierUsed = fetched.tierUsed := by
  unfold JobRun.completing at h
  obtain ⟨begun, _, hprepare, h⟩ := bind_eq_ok h
  obtain ⟨_, _, -, h⟩ := bind_eq_ok h
  cases h
  obtain ⟨fetched, hfetch, rfl⟩ := prepare_eq_ok hprepare
  exact ⟨fetched, hfetch, rfl⟩

theorem handler_outcomes {exn : Exn} {world : World}
    (hlacks : world.session.Lacks Statement.isOutcome) :
    (finalWorld (handler run.context run.environment run.task exn world)).session.committed.countP
      Statement.isOutcome = 0 := by
  by_cases h : world.session.broken = false ∧ HandlerCommits run.environment
  · rw [handler_commits exn h.2 h.1, List.countP_append, List.countP_append, hlacks.1, hlacks.2]
    rfl
  · rw [handler_skips exn h]
    exact hlacks.1

theorem outcomes_unrecorded (h : run.recordedTier = none) : run.outcomes = [] := by
  have hcut := @completing_cut run
  unfold JobRun.recordedTier at h
  cases hcompleting : run.completing (World.start run.redis) with
  | ok prepared after =>
      rw [hcompleting] at h
      cases h
  | error exn after =>
      rw [hcompleting] at hcut
      cases hcut with
      | raises _ hlacks =>
          have hbody : body run.context run.environment run.task (World.start run.redis) =
              .error exn after := by
            rw [body_eq]
            exact bind_error hcompleting
          rw [JobRun.outcomes, JobRun.committed, finalWorld_fetchTask_error hbody]
          exact outcomes_of_lacks (handler_outcomes hlacks)

theorem upsertUsage_completes {environment : Environment} {task : FetchTask} {session : JobSession}
    {execute commit : Site} {bodyBytes : Nat} (hopen : session.broken = false)
    (hexecute : environment.deliveries execute = .completes)
    (hcommit : environment.deliveries commit = .completes) :
    (upsertUsage environment task execute commit bodyBytes session).2 = .ok () ∧
      (upsertUsage environment task execute commit bodyBytes session).1.committed =
        session.committed ++ session.pending ++ [usageStatement environment task bodyBytes] := by
  refine ⟨?_, upsertUsage_commits hopen hexecute (hcommit ▸ trivial)⟩
  rcases @upsertUsage_cases environment task session execute commit bodyBytes with
    ⟨-, hanswer⟩ | ⟨hraises, -⟩
  · exact hanswer
  · exfalso
    generalize session.broken = broken at hraises
    cases hraises with
    | execute hcancelled =>
        rw [hexecute] at hcancelled
        cases hcancelled
    | commit _ hcancelled =>
        rw [hcommit] at hcancelled
        cases hcancelled

def learnedRow (context : Context) (environment : Environment) (row : PolicyRow)
    (result : FetchResult) : PolicyRow :=
  row.learn result result.tierUsed
    (BlockDetector.detectVendor context.text result.headers [] (result.body.take 65536))
    (environment.now .learnerSelect)

theorem account_completes {context : Context} {environment : Environment} {task : FetchTask}
    {row policy : PolicyRow} {result : FetchResult} {world : World}
    (hopen : world.session.broken = false) (hpolicy : environment.policy = some policy)
    (hrow : environment.lockedRow = some row)
    (hdatabase : ∀ site, site.isDatabase = true → environment.deliveries site = .completes) :
    ∃ session,
      account context environment task result world = .ok () { world with session := session } ∧
        session.committed = world.session.committed ++ (world.session.pending ++
          [.policyOutcome (learnedRow context environment row result)]) ++ [] ++
            [usageStatement environment task result.body.length] := by
  have hselect : (learnerDeliveries environment).select = .completes :=
    hdatabase .learnerSelect rfl
  have hcommit : (learnerDeliveries environment).commit = .completes :=
    hdatabase .learnerCommit rfl
  have hlearner := @recordOutcome_completes context.text world.session
    (learnerDeliveries environment) row policy (environment.now .learnerSelect) result hopen
    hselect hcommit
  rw [← hpolicy, ← hrow] at hlearner
  have husage := @upsertUsage_completes environment task
    (recordOutcome context.text (learnerDeliveries environment) environment.lockedRow
      (environment.now .learnerSelect) result environment.policy world.session).1
    .usageExecute .usageCommit result.body.length (by rw [hlearner])
    (hdatabase .usageExecute rfl) (hdatabase .usageCommit rfl)
  unfold account
  rw [bind_ok (onSession_ok (congrArg Prod.snd hlearner)), onSession_ok husage.1]
  refine ⟨_, rfl, ?_⟩
  rw [husage.2, hlearner]
  rfl

theorem outcomes_completed {row policy : PolicyRow} {prepared : FetchResult × FetchResultSchema}
    {after : World} (hopen : run.environment.fetchBreaksSession = false)
    (hpolicy : run.environment.policy = some policy)
    (hrow : run.environment.lockedRow = some row)
    (hdatabase : ∀ site, site.isDatabase = true → run.environment.deliveries site = .completes)
    (h : run.completing (World.start run.redis) = .ok prepared after) :
    run.outcomes = [learnedRow run.context run.environment row prepared.1] := by
  obtain ⟨hlacks, hbroken⟩ := (@completing_cut run).of_ok h
  obtain ⟨session, haccount, hsession⟩ := @account_completes run.context run.environment run.task
    row policy prepared.1 after (hbroken.trans hopen) hpolicy hrow hdatabase
  obtain ⟨scheduled, -, hstep⟩ := scheduleCallback_ends run.context run.task .completed
    (some prepared.2) none { after with session := session }
  have hbody : body run.context run.environment run.task (World.start run.redis) =
      .ok () { after with session := session, callbacks := after.callbacks ++ scheduled } := by
    rw [body_eq, bind_ok h, bind_ok haccount]
    exact hstep
  rw [JobRun.outcomes, JobRun.committed, finalWorld_fetchTask_ok hbody]
  change session.committed.filterMap Statement.outcome = _
  rw [hsession, List.append_nil, List.filterMap_append, List.filterMap_append,
    List.filterMap_append, outcomes_of_lacks hlacks.1, outcomes_of_lacks hlacks.2]
  rfl

theorem outcomes_recorded {tier : Nat}
    (h : (job.run enablePremium ladder.row).recordedTier = some tier) :
    startOf enablePremium ladder.row ≤ tier ∧ tier ≤ (effectiveMaxTier enablePremium).val ∧
      ∃ result : FetchResult, result.tierUsed = tier ∧
        (job.run enablePremium ladder.row).outcomes =
          [learnedRow job.context (job.run enablePremium ladder.row).environment ladder.row
            result] := by
  unfold JobRun.recordedTier at h
  cases hcompleting : (job.run enablePremium ladder.row).completing
      (World.start (job.run enablePremium ladder.row).redis) with
  | error exn after =>
      rw [hcompleting] at h
      cases h
  | ok prepared after =>
      rw [hcompleting] at h
      cases h
      obtain ⟨fetched, hfetch, htier⟩ := completing_fetched hcompleting
      obtain ⟨hlower, hupper⟩ := tierUsed_between hfetch
      refine ⟨htier ▸ hlower, htier ▸ hupper, prepared.1, rfl, ?_⟩
      exact outcomes_completed rfl rfl rfl job.database hcompleting

end Runs

/-- What a job of the history shows: where it starts, what it hands to the learner and the
tier it leaves stored. -/
structure HistoryEntry where
  start : Nat
  recorded : Option Nat
  left : Int

section Tiers

variable {enablePremium : Bool} {row : PolicyRow} {result : FetchResult} {tier : Nat}
  {vendor : Option String} {now : Instant}

theorem PolicyRow.learn_engine (row : PolicyRow) (result : FetchResult) (tierUsed : Int)
    (vendor : Option String) (now : Instant) :
    (row.learn result tierUsed vendor now).engine = row.engine := by
  unfold PolicyRow.learn
  cases vendor <;> dsimp only <;> split <;> split <;> rfl

theorem initialTier_attributes (row : PolicyRow) : initialTier (some row.attributes) =
    (max row.escalationTier (vendorFloor row.antibotType)).toNat := initialTier_some _

/-- The next job starts no lower than the tier the learner was handed, whatever it makes of
the vendor. -/
theorem le_startOf_learn (hunlocked : row.tierLocked = false)
    (htier : tier ≤ (effectiveMaxTier enablePremium).val) :
    tier ≤ startOf enablePremium (row.learn result tier vendor now) := by
  have hstored : (tier : Int) ≤ (row.learn result tier vendor now).escalationTier := by
    rw [PolicyRow.learn_tier, hunlocked]
    simp only [Bool.false_eq_true, if_false]
    split
    · omega
    · omega
  unfold startOf
  rw [initialTier_attributes]
  omega

/-- A tier no lower than the start of its job lowers the stored one only from above the
premium gate. -/
theorem learn_lowers (hunlocked : row.tierLocked = false)
    (hstart : startOf enablePremium row ≤ tier)
    (hlower : (row.learn result tier vendor now).escalationTier < row.escalationTier) :
    ((effectiveMaxTier enablePremium).val : Int) < row.escalationTier := by
  unfold startOf at hstart
  rw [initialTier_attributes] at hstart
  rw [PolicyRow.learn_tier, hunlocked] at hlower
  simp only [Bool.false_eq_true, if_false] at hlower
  split at hlower
  · omega
  · omega

end Tiers

/-- What a job makes of the row: nothing, or what the learner makes of a tier between the
job's start and the premium gate. -/
inductive Leaves (enablePremium : Bool) (row : PolicyRow) : Option Nat → PolicyRow → Prop where
  | unrecorded : Leaves enablePremium row none row
  | recorded {tier : Nat} (result : FetchResult) (vendor : Option String) (now : Instant) :
      startOf enablePremium row ≤ tier → tier ≤ (effectiveMaxTier enablePremium).val →
      Leaves enablePremium row (some tier) (row.learn result tier vendor now)

section Steps

variable {enablePremium : Bool} {ladder : LadderRow} {row after : PolicyRow}
  {recorded : Option Nat}

theorem job_leaves (enablePremium : Bool) (job : HistoryJob) (ladder : LadderRow) :
    Leaves enablePremium ladder.row (job.run enablePremium ladder.row).recordedTier
      (ladder.after (job.run enablePremium ladder.row)) := by
  unfold LadderRow.after
  cases hrecorded : (job.run enablePremium ladder.row).recordedTier with
  | none =>
      rw [outcomes_unrecorded hrecorded]
      exact .unrecorded
  | some tier =>
      obtain ⟨hlower, hupper, result, rfl, houtcomes⟩ := outcomes_recorded hrecorded
      rw [houtcomes]
      exact .recorded result _ _ hlower hupper

theorem Leaves.unlocked (h : Leaves enablePremium row recorded after)
    (hunlocked : row.tierLocked = false) : after.tierLocked = false := by
  cases h with
  | unrecorded => exact hunlocked
  | recorded result vendor now _ _ => rw [PolicyRow.learn_tierLocked, hunlocked]

theorem Leaves.httpx (h : Leaves enablePremium row recorded after)
    (hhttpx : row.engine = .httpx) : after.engine = .httpx := by
  cases h with
  | unrecorded => exact hhttpx
  | recorded result vendor now _ _ => rw [PolicyRow.learn_engine, hhttpx]

theorem Leaves.climbs (h : Leaves enablePremium row recorded after) :
    ∀ tier, recorded = some tier → startOf enablePremium row ≤ tier := by
  intro tier hrecorded
  cases h with
  | unrecorded => cases hrecorded
  | recorded result vendor now hlower _ =>
      cases hrecorded
      exact hlower

theorem Leaves.kept (h : Leaves enablePremium row recorded after)
    (hunlocked : row.tierLocked = false) :
    ∀ tier, recorded = some tier → tier ≤ startOf enablePremium after := by
  intro tier hrecorded
  cases h with
  | unrecorded => cases hrecorded
  | recorded result vendor now _ hupper =>
      cases hrecorded
      exact le_startOf_learn hunlocked hupper

theorem Leaves.start_le (h : Leaves enablePremium row recorded after)
    (hunlocked : row.tierLocked = false) :
    startOf enablePremium row ≤ startOf enablePremium after := by
  cases hrecorded : recorded with
  | none =>
      subst hrecorded
      cases h with
      | unrecorded => exact Nat.le_refl _
  | some tier => exact Nat.le_trans (h.climbs tier hrecorded) (h.kept hunlocked tier hrecorded)

theorem Leaves.lowers (h : Leaves enablePremium row recorded after)
    (hunlocked : row.tierLocked = false) (hlower : after.escalationTier < row.escalationTier) :
    ((effectiveMaxTier enablePremium).val : Int) < row.escalationTier := by
  cases h with
  | unrecorded => exact absurd hlower (Int.lt_irrefl _)
  | recorded result vendor now hstart _ => exact learn_lowers hunlocked hstart hlower

end Steps

section History

variable (enablePremium : Bool)

def historyStep (ladder : LadderRow) (job : HistoryJob) : LadderRow × HistoryEntry :=
  ({ row := ladder.after (job.run enablePremium ladder.row)
     unlocked := (job_leaves enablePremium job ladder).unlocked ladder.unlocked
     httpx := (job_leaves enablePremium job ladder).httpx ladder.httpx },
    { start := (job.request enablePremium ladder.row).startTier.val
      recorded := (job.run enablePremium ladder.row).recordedTier
      left := (ladder.after (job.run enablePremium ladder.row)).escalationTier })

/-- No job starts below a tier its domain has got to before, and the stored tier falls only
from above the premium gate. -/
structure NeverReclimbs (history : List (Served LadderRow HistoryJob HistoryEntry)) : Prop where
  ordered : history.Pairwise fun earlier later =>
    earlier.output.start ≤ later.output.start ∧
      ∀ tier, earlier.output.recorded = some tier → tier ≤ later.output.start
  climbs : ∀ served ∈ history, ∀ tier, served.output.recorded = some tier →
    served.output.start ≤ tier
  lowered : ∀ served ∈ history,
    served.output.left < served.before.row.escalationTier →
      ((effectiveMaxTier enablePremium).val : Int) < served.before.row.escalationTier

def HistoryEntry.Reaches (tier : Nat) (entry : HistoryEntry) : Prop :=
  tier = entry.start ∨ entry.recorded = some tier

theorem reached_kept (tier : Nat) (ladder : LadderRow) (job : HistoryJob)
    (h : (historyStep enablePremium ladder job).2.Reaches tier) :
    tier ≤ startOf enablePremium (historyStep enablePremium ladder job).1.row := by
  have hleaves := job_leaves enablePremium job ladder
  have hentry : (historyStep enablePremium ladder job).2.start = startOf enablePremium ladder.row :=
    request_startTier enablePremium job ladder
  rcases h with hstart | hrecorded
  · rw [hstart, hentry]
    exact hleaves.start_le ladder.unlocked
  · exact hleaves.kept ladder.unlocked tier hrecorded

theorem history_never_reclimbs (ladder : LadderRow) (jobs : List HistoryJob) :
    NeverReclimbs enablePremium (transcript (historyStep enablePremium) ladder jobs) where
  ordered := by
    have hpairs := @transcript_pairwise _ _ _ _ (historyStep enablePremium) (fun _ _ => True)
      (fun tier ladder => tier ≤ startOf enablePremium ladder.row)
      (fun tier entry => entry.start < tier) HistoryEntry.Reaches
      (fun tier ladder job _ hreaches => reached_kept enablePremium tier ladder job hreaches)
      (fun tier ladder job hmark _ => Nat.le_trans hmark
        ((job_leaves enablePremium job ladder).start_le ladder.unlocked))
      (fun tier ladder job hmark _ hless => by
        have hstart : (historyStep enablePremium ladder job).2.start = _ :=
          request_startTier enablePremium job ladder
        omega)
      ladder jobs (fun _ _ => trivial)
    refine hpairs.imp fun hpair => ⟨?_, fun tier hrecorded => ?_⟩
    · exact Nat.not_lt.mp (hpair _ (.inl rfl))
    · exact Nat.not_lt.mp (hpair tier (.inr hrecorded))
  climbs := by
    intro served hserved tier hrecorded
    rw [output_of_mem_transcript hserved] at hrecorded ⊢
    have hstart : (historyStep enablePremium served.before served.action).2.start = _ :=
      request_startTier enablePremium served.action served.before
    rw [hstart]
    exact (job_leaves enablePremium served.action served.before).climbs tier hrecorded
  lowered := by
    intro served hserved hlower
    rw [output_of_mem_transcript hserved] at hlower
    have hleaves := job_leaves enablePremium served.action served.before
    exact hleaves.lowers served.before.unlocked hlower

end History

def freshLadder : LadderRow := ⟨freshRow, rfl, rfl⟩

def challengedJob : HistoryJob where
  context := plainContext
  task := sampleTask .static
  domain := "example.com"
  answers := blockedBy .waf
  environment := { shutdownInUsage with deliveries := fun _ => .completes }
  redis := Redis.empty
  static := rfl
  database _ _ := rfl

example : (transcript (historyStep false) freshLadder [challengedJob, challengedJob]).map
    (fun served => (served.output.start, served.output.recorded)) =
      [(0, some 2), (2, some 2)] := by decide +kernel

end CrawlerApi.Worker
