import CrawlerApi.Worker.Finality

/-!
# Usage metering

The counter row of an application and month, as the upserts of a job move it.
The upsert of the try block and the one of the handlers share a session: an
interrupted upsert stays pending and the handler commits it with its own, and a
session that waits for its rollback takes neither.
-/

namespace CrawlerApi.Worker

open Keys Fetch Jobs Foundation

structure UsageCounter where
  requestCount : Nat
  bytesReceived : Nat
  costEurCents : Nat
deriving DecidableEq, Repr

/-- The table by application and month, the columns of its unique constraint. -/
abbrev UsageCounters := Uuid → Nat → Option UsageCounter

/-- `INSERT … ON CONFLICT DO UPDATE` -/
def UsageCounters.upsert (counters : UsageCounters) (applicationId : Uuid) (month bodyBytes
    costCents : Nat) : UsageCounters := fun application period =>
  if application = applicationId ∧ period = month then
    match counters application period with
    | none => some ⟨1, bodyBytes, costCents⟩
    | some row => some {
        requestCount := row.requestCount + 1
        bytesReceived := row.bytesReceived + bodyBytes
        costEurCents := row.costEurCents + costCents }
  else counters application period

def UsageCounters.execute (counters : UsageCounters) : Statement → UsageCounters
  | .usage applicationId month bodyBytes costCents =>
      counters.upsert applicationId month bodyBytes costCents
  | _ => counters

/-- `request_count`, 0 without a row. -/
def UsageCounters.requestCount (counters : UsageCounters) (applicationId : Uuid) (month : Nat) :
    Nat :=
  match counters applicationId month with
  | none => 0
  | some row => row.requestCount

def Statement.meters (applicationId : Uuid) (month : Nat) : Statement → Bool
  | .usage application period _ _ => application = applicationId ∧ period = month
  | _ => false

theorem requestCount_execute (counters : UsageCounters) (statement : Statement)
    (applicationId : Uuid) (month : Nat) :
    (counters.execute statement).requestCount applicationId month =
      counters.requestCount applicationId month +
        if statement.meters applicationId month then 1 else 0 := by
  cases statement with
  | usage application period bodyBytes costCents =>
      unfold UsageCounters.execute UsageCounters.upsert UsageCounters.requestCount Statement.meters
      by_cases hrow : applicationId = application ∧ month = period
      · obtain ⟨rfl, rfl⟩ := hrow
        cases hcounter : counters applicationId month <;> simp [hcounter]
      · have hother : ¬ (application = applicationId ∧ period = month) :=
          fun h => hrow ⟨h.1.symm, h.2.symm⟩
        simp [hrow, hother]
  | proxyReport report => rfl
  | warcIndex url sha256 isRevisit => rfl
  | policyOutcome row => rfl

theorem requestCount_foldl (statements : List Statement) (counters : UsageCounters)
    (applicationId : Uuid) (month : Nat) :
    (statements.foldl UsageCounters.execute counters).requestCount applicationId month =
      counters.requestCount applicationId month +
        statements.countP (Statement.meters applicationId month) := by
  induction statements generalizing counters with
  | nil => rfl
  | cons statement rest ih =>
      rw [List.foldl_cons, ih, requestCount_execute, List.countP_cons]
      omega

/-- The committed `request_count` of the job's application and month grows by 1. -/
def MetersOnce (context : Context) (environment : Environment) (task : FetchTask)
    (redis : Redis FetchResultSchema) : Prop :=
  ∀ counters : UsageCounters,
    ((finalWorld (fetchTask context environment task (World.start redis))).session.committed.foldl
        UsageCounters.execute counters).requestCount task.applicationId environment.month =
      counters.requestCount task.applicationId environment.month + 1

inductive KeepsSession (goesOn : Prop) (world : World) : EStateM.Result Exn World Unit → Prop where
  | answers {after : World} : goesOn → after.session = world.session →
      KeepsSession goesOn world (.ok () after)
  | raises {exn : Exn} {after : World} : ¬ goesOn → after.session = world.session →
      KeepsSession goesOn world (.error exn after)

structure HandlerCommits (environment : Environment) : Prop where
  get : environment.deliveries .errorGet = .completes
  statusSet : environment.deliveries .errorStatusSet = .completes
  set : environment.deliveries .errorSet = .completes
  execute : environment.deliveries .handlerUsageExecute = .completes
  commit : (environment.deliveries .handlerUsageCommit).Applied

section Handler

variable {context : Context} {environment : Environment} {task : FetchTask} {world : World}
  {session : JobSession} {kind : Statement → Bool}

theorem setStatus_keeps (environment : Environment) (task : FetchTask) (world : World)
    (get set : Site) (status : JobStatus) (result : Option FetchResultSchema) :
    KeepsSession (environment.deliveries get = .completes ∧ environment.deliveries set = .completes)
      world (setStatus environment task get set status result world) := by
  have hends := setStatus_ends environment task world get set status result
  generalize setStatus environment task get set status result world = answer at hends ⊢
  cases hends with
  | completes hget hset => exact .answers ⟨hget, hset⟩ rfl
  | raisesAfter _ hraises =>
      refine .raises (fun h => ?_) rfl
      rw [h.2] at hraises
      cases hraises
  | raisesBefore hnot =>
      refine .raises (fun h => hnot ⟨h.1, ?_⟩) rfl
      rw [h.2]
      trivial

theorem setError_keeps (environment : Environment) (task : FetchTask) (error : String)
    (world : World) :
    KeepsSession (environment.deliveries .errorGet = .completes ∧
        environment.deliveries .errorStatusSet = .completes ∧
        environment.deliveries .errorSet = .completes)
      world (setError environment task error world) := by
  have hstatus := setStatus_keeps environment task world .errorGet .errorStatusSet .failed none
  unfold setError
  generalize hstep : setStatus environment task .errorGet .errorStatusSet .failed none world =
    answer at hstatus
  cases hstatus with
  | raises hnot hsession =>
      rw [bind_error hstep]
      exact .raises (fun h => hnot ⟨h.1, h.2.1⟩) hsession
  | answers hgoes hsession =>
      rw [bind_ok hstep]
      cases hset : environment.deliveries .errorSet with
      | completes =>
          rw [awaiting_completes hset]
          exact .answers ⟨hgoes.1, hgoes.2, rfl⟩ hsession
      | raises exn applied =>
          rw [awaiting_raises hset]
          refine .raises (fun h => nomatch h.2.2) ?_
          cases applied <;> exact hsession

theorem committed_swallow (answer : JobSession × Except Exn Unit) :
    (swallow answer).1 = answer.1 := by
  unfold swallow
  split <;> rfl

def usageStatement (environment : Environment) (task : FetchTask) (bodyBytes : Nat) : Statement :=
  .usage task.applicationId environment.month bodyBytes (costCents bodyBytes)

@[simp] theorem meters_usageStatement (bodyBytes : Nat) :
    (usageStatement environment task bodyBytes).meters task.applicationId environment.month =
      true := by
  simp [usageStatement, Statement.meters]

theorem upsertUsage_commits {execute commit : Site} {bodyBytes : Nat}
    (hopen : session.broken = false) (hexecute : environment.deliveries execute = .completes)
    (hcommit : (environment.deliveries commit).Applied) :
    (upsertUsage environment task execute commit bodyBytes session).1.committed =
      session.committed ++ session.pending ++ [usageStatement environment task bodyBytes] := by
  unfold upsertUsage
  dsimp only
  rw [committed_swallow, hexecute]
  simp only [Session.execute, hopen, Bool.false_eq_true, if_false]
  cases hsite : environment.deliveries commit with
  | completes => simp [Session.commit, usageStatement]
  | raises exn applied =>
      rw [hsite] at hcommit
      replace hcommit : applied = true := hcommit
      simp [Session.commit, hcommit, usageStatement]

theorem upsertUsage_skips {execute commit : Site} {bodyBytes : Nat}
    (h : ¬ (session.broken = false ∧ environment.deliveries execute = .completes ∧
      (environment.deliveries commit).Applied)) :
    (upsertUsage environment task execute commit bodyBytes session).1.committed =
      session.committed := by
  unfold upsertUsage
  dsimp only
  rw [committed_swallow]
  cases hbroken : session.broken with
  | true => rw [Session.execute_of_broken hbroken]
  | false =>
      cases hexecute : environment.deliveries execute with
      | raises exn applied =>
          cases hinterrupts : sessionExceptions.interrupts exn <;>
            simp [Session.execute, hbroken, hinterrupts]
      | completes =>
          simp only [Session.execute, hbroken, Bool.false_eq_true, if_false]
          cases hcommit : environment.deliveries commit with
          | completes => exact absurd ⟨hbroken, hexecute, by rw [hcommit]; trivial⟩ h
          | raises exn applied =>
              cases applied with
              | true => exact absurd ⟨hbroken, hexecute, by rw [hcommit]; rfl⟩ h
              | false =>
                  simp only [Session.commit, Bool.false_eq_true, if_false]
                  split <;> rfl

private theorem afterUpsert_session (exn : Exn) (error : String) (world : World) :
    (finalWorld
      ((onSession (upsertUsage environment task .handlerUsageExecute .handlerUsageCommit 0) >>=
        fun _ => scheduleCallback context task .failed none (some error) >>=
        fun _ => if exn = .cancelled then throw exn else pure ()) world)).session =
      (upsertUsage environment task .handlerUsageExecute .handlerUsageCommit 0
        world.session).1 := by
  rcases upsertUsage_cases .handlerUsageExecute .handlerUsageCommit 0 with
    ⟨-, hanswer⟩ | ⟨-, hanswer⟩
  · rw [bind_ok (onSession_ok hanswer)]
    obtain ⟨scheduled, -, hstep⟩ := scheduleCallback_ends context task .failed none (some error)
      { world with session := (upsertUsage environment task .handlerUsageExecute
        .handlerUsageCommit 0 world.session).1 }
    rw [bind_ok hstep]
    split <;> rfl
  · rw [bind_error (onSession_error hanswer)]
    rfl

theorem handler_session (context : Context) (environment : Environment) (task : FetchTask)
    (exn : Exn) (world : World) :
    (finalWorld (handler context environment task exn world)).session = world.session ∧
        ¬ HandlerCommits environment ∨
      (finalWorld (handler context environment task exn world)).session =
          (upsertUsage environment task .handlerUsageExecute .handlerUsageCommit 0
            world.session).1 ∧
        (environment.deliveries .handlerUsageExecute = .completes →
          (environment.deliveries .handlerUsageCommit).Applied → HandlerCommits environment) := by
  unfold handler
  have hkeeps := setError_keeps environment task
    (if exn = .cancelled then "Worker shutdown" else exn.message) world
  generalize hstep : setError environment task
    (if exn = .cancelled then "Worker shutdown" else exn.message) world = answer at hkeeps
  cases hkeeps with
  | raises hnot hsession =>
      rw [bind_error hstep]
      exact .inl ⟨hsession, fun h => hnot ⟨h.get, h.statusSet, h.set⟩⟩
  | answers hgoes hsession =>
      rw [bind_ok hstep]
      refine .inr ⟨?_, fun hexecute hcommit => ⟨hgoes.1, hgoes.2.1, hgoes.2.2, hexecute, hcommit⟩⟩
      rw [afterUpsert_session, hsession]

theorem handler_commits (exn : Exn) (h : HandlerCommits environment)
    (hopen : world.session.broken = false) :
    (finalWorld (handler context environment task exn world)).session.committed =
      world.session.committed ++ world.session.pending ++ [usageStatement environment task 0] := by
  rcases handler_session context environment task exn world with ⟨-, hnot⟩ | ⟨hsession, -⟩
  · exact absurd h hnot
  · rw [hsession]
    exact upsertUsage_commits hopen h.execute h.commit

theorem handler_skips (exn : Exn)
    (h : ¬ (world.session.broken = false ∧ HandlerCommits environment)) :
    (finalWorld (handler context environment task exn world)).session.committed =
      world.session.committed := by
  rcases handler_session context environment task exn world with
    ⟨hsession, -⟩ | ⟨hsession, hcommits⟩
  · rw [hsession]
  · rw [hsession]
    exact upsertUsage_skips fun hall => h ⟨hall.1, hcommits hall.2.1 hall.2.2⟩

end Handler

def statusCut (environment : Environment) (get set : Site) (broken : Bool) : Option Bool :=
  match environment.deliveries get, environment.deliveries set with
  | .completes, .completes => none
  | _, _ => some broken

def statementCut : Delivery Exn → Option Bool
  | .completes => none
  | .raises exn _ => some (exn ≠ .cancelled)

def archiveCut (environment : Environment) : Option Bool :=
  if environment.fetchBreaksSession then some true
  else
    match environment.deliveries .archiveSelect with
    | .raises exn _ => some (exn ≠ .cancelled)
    | .completes =>
        if environment.rotates ∧
            (environment.deliveries .archiveUpload).outcome = .error .cancelled then some false
        else
          match environment.deliveries .archiveCommit with
          | .raises exn applied => some (!applied && exn ≠ .cancelled)
          | .completes => statementCut (environment.deliveries .archiveRefresh)

def fetchCut (context : Context) (environment : Environment) : Option Bool :=
  match environment.fetch with
  | .error _ => some environment.fetchBreaksSession
  | .ok result =>
      if ¬ result.blocked ∧ context.hasWarcStorage then archiveCut environment else none

def learnerFailedCut (environment : Environment) (expired broken : Bool) : Option Bool :=
  if expired then some true
  else
    match environment.deliveries .learnerRollback with
    | .completes => none
    | .raises _ applied => some (!applied && broken)

def learnerCut (environment : Environment) : Option Bool :=
  if environment.policy = none then none
  else if environment.fetchBreaksSession then
    learnerFailedCut environment (environment.fetchExpiresSession ||
      environment.inFlush .learnerSelect) true
  else
    match environment.deliveries .learnerSelect with
    | .raises exn _ =>
        if exn = .cancelled then some false
        else learnerFailedCut environment (environment.inFlush .learnerSelect) true
    | .completes =>
        if environment.lockedRow = none then none
        else
          match environment.deliveries .learnerCommit with
          | .completes => none
          | .raises exn applied =>
              if exn = .cancelled then some false
              else learnerFailedCut environment (environment.inFlush .learnerCommit && !applied)
                (!applied)

def prepareCut (context : Context) (environment : Environment) : Option Bool :=
  statusCut environment .runningGet .runningSet false <|>
  statementCut (environment.deliveries .policySelect) <|>
  fetchCut context environment

/-- How an exception leaves the try block before the usage counter, if one does: with a
session that waits for its rollback or not. -/
def earlyCut (context : Context) (environment : Environment) : Option Bool :=
  prepareCut context environment <|>
  statusCut environment .completedGet .completedSet environment.fetchBreaksSession <|>
  learnerCut environment

inductive MeteredOnce (context : Context) (environment : Environment) : Prop where
  /-- The try block is left before the counter, on a session that takes statements. -/
  | handler : earlyCut context environment = some false → HandlerCommits environment →
      MeteredOnce context environment
  | counter : earlyCut context environment = none → brokenForUsage environment = false →
      environment.deliveries .usageExecute = .completes →
      (environment.deliveries .usageCommit).Applied →
      ((environment.deliveries .usageCommit).outcome = .error .cancelled →
        ¬ HandlerCommits environment) → MeteredOnce context environment
  /-- The counter is interrupted before it is sent, and the handler's is committed. -/
  | retried : earlyCut context environment = none → brokenForUsage environment = false →
      environment.deliveries .usageExecute = .raises .cancelled false →
      HandlerCommits environment → MeteredOnce context environment

/-- What a step over the job does before the counter: it answers with the session broken
or not, or raises as its cut says.  It meters nothing. -/
inductive CutEnds (kind : Statement → Bool) (cut : Option Bool) (broken : Bool) :
    EStateM.Result Exn World α → Prop where
  | answers {a : α} {after : World} : cut = none → after.session.Lacks kind →
      after.session.broken = broken → CutEnds kind cut broken (.ok a after)
  | raises {exn : Exn} {after : World} : cut = some after.session.broken →
      after.session.Lacks kind → CutEnds kind cut broken (.error exn after)

inductive SessionCut (kind : Statement → Bool) (cut : Option Bool) (broken : Bool)
    (answer : JobSession × Except Exn Unit) : Prop where
  | answers : cut = none → answer.2 = .ok () → answer.1.Lacks kind → answer.1.broken = broken →
      SessionCut kind cut broken answer
  | raises {exn : Exn} : cut = some answer.1.broken → answer.2 = .error exn →
      answer.1.Lacks kind → SessionCut kind cut broken answer

section Cuts

variable {context : Context} {environment : Environment} {task : FetchTask} {world : World}
  {session : JobSession} {kind : Statement → Bool} {broken : Bool}

/-- What follows a step runs exactly if the step has no cut. -/
theorem CutEnds.seq {motive : EStateM.Result Exn World β → Prop} {cut : Option Bool}
    {step : Task α} {rest : α → Task β} (h : CutEnds kind cut broken (step world))
    (hraises : ∀ exn after, cut = some after.session.broken → after.session.Lacks kind →
      motive (.error exn after))
    (hrest : ∀ a middle, cut = none → step world = .ok a middle → middle.session.Lacks kind →
      middle.session.broken = broken → motive (rest a middle)) :
    motive ((step >>= rest) world) := by
  generalize hstep : step world = answer at h
  cases h with
  | answers hcut hlacks hbroken =>
      rw [bind_ok hstep]
      exact hrest _ _ hcut hstep hlacks hbroken
  | raises hcut hlacks =>
      rw [bind_error hstep]
      exact hraises _ _ hcut hlacks

theorem CutEnds.bind {cut next : Option Bool} {after : Bool} {step : Task α} {rest : α → Task β}
    (h : CutEnds kind cut broken (step world))
    (hrest : ∀ a middle, step world = .ok a middle → middle.session.Lacks kind →
      middle.session.broken = broken → CutEnds kind next after (rest a middle)) :
    CutEnds kind (cut <|> next) after ((step >>= rest) world) := by
  apply h.seq
  · intro exn final hcut hlacks
    rw [hcut]
    exact .raises rfl hlacks
  · intro a middle hcut hstep hlacks hbroken
    rw [hcut]
    exact hrest a middle hstep hlacks hbroken

theorem CutEnds.of_ok {cut : Option Bool} {step : Task α} {a : α} {after : World}
    (h : CutEnds kind cut broken (step world)) (hstep : step world = .ok a after) :
    after.session.Lacks kind ∧ after.session.broken = broken := by
  rw [hstep] at h
  cases h with
  | answers _ hlacks hbroken => exact ⟨hlacks, hbroken⟩

theorem setStatus_cut {get set : Site} {status : JobStatus} {result : Option FetchResultSchema}
    (hlacks : world.session.Lacks kind) (hbroken : world.session.broken = broken) :
    CutEnds kind (statusCut environment get set broken) broken
      (setStatus environment task get set status result world) := by
  have hkeeps := setStatus_keeps environment task world get set status result
  unfold statusCut
  generalize setStatus environment task get set status result world = answer at hkeeps ⊢
  cases hkeeps with
  | answers hgoes hsession =>
      rw [hgoes.1, hgoes.2]
      exact .answers rfl (hsession ▸ hlacks) (hsession ▸ hbroken)
  | raises hnot hsession =>
      refine .raises ?_ (hsession ▸ hlacks)
      split
      · rename_i hget hset
        exact absurd ⟨hget, hset⟩ hnot
      · rw [hsession, hbroken]

theorem onSession_cut {cut : Option Bool} {step : JobSession → JobSession × Except Exn Unit}
    (h : SessionCut kind cut broken (step world.session)) :
    CutEnds kind cut broken (onSession step world) := by
  cases h with
  | answers hcut hanswer hlacks hbroken =>
      rw [onSession_ok hanswer]
      exact .answers hcut hlacks hbroken
  | raises hcut hanswer hlacks =>
      rw [onSession_error hanswer]
      exact .raises hcut hlacks

theorem execute_cut {delivery : Delivery Exn} (hlacks : session.Lacks kind)
    (hopen : session.broken = false) :
    SessionCut kind (statementCut delivery) false
      (session.execute sessionExceptions [] delivery) := by
  have hanswer : (session.execute sessionExceptions [] delivery).2 = delivery.outcome :=
    Session.execute_outcome hopen
  cases delivery with
  | completes => exact .answers rfl hanswer hlacks.execute (Session.broken_execute hopen)
  | raises exn applied =>
      refine .raises ?_ hanswer hlacks.execute
      rw [Session.broken_execute hopen]
      simp [statementCut, Session.Exceptions.breaks, sessionExceptions]

private theorem archive_cut_of_broken {url : String} {bytes : Bytes}
    (hselect : (session.execute sessionExceptions []
      (environment.deliveries .archiveSelect)).2 ≠ .error .cancelled)
    (hbroken : (session.execute sessionExceptions []
      (environment.deliveries .archiveSelect)).1.broken = true)
    (hlacks : session.Lacks kind)
    (hkind : ∀ url sha256 isRevisit, kind (.warcIndex url sha256 isRevisit) = false) :
    SessionCut kind (some true) broken (archive context environment url bytes session) := by
  have hlooked : (session.execute sessionExceptions []
    (environment.deliveries .archiveSelect)).1.Lacks kind := hlacks.execute
  unfold archive
  dsimp only
  rw [if_neg hselect]
  split
  · rename_i hupload
    exact .raises (by rw [hbroken]) hupload.2 hlooked
  · rw [Session.commit_of_broken (by simpa using hbroken)]
    exact .raises (by simp [hbroken]) rfl (hlooked.add (hkind ..))

private theorem uploaded_cut {row : Statement} (hopen : session.broken = false)
    (hlacks : session.Lacks kind) (hkind : kind row = false) :
    SessionCut kind
      (if environment.rotates ∧
          (environment.deliveries .archiveUpload).outcome = .error .cancelled then some false
        else
          match environment.deliveries .archiveCommit with
          | .raises exn applied => some (!applied && decide (exn ≠ .cancelled))
          | .completes => statementCut (environment.deliveries .archiveRefresh))
      false
      (if environment.rotates ∧
          (environment.deliveries .archiveUpload).outcome = .error .cancelled then
        (session, (environment.deliveries .archiveUpload).outcome)
      else
        match ((session.add row).commit sessionExceptions
          (environment.deliveries .archiveCommit)).2 with
        | .error exn => (((session.add row).commit sessionExceptions
            (environment.deliveries .archiveCommit)).1, .error exn)
        | .ok () => ((session.add row).commit sessionExceptions
            (environment.deliveries .archiveCommit)).1.execute sessionExceptions []
              (environment.deliveries .archiveRefresh)) := by
  split
  · rename_i hupload
    exact .raises (by rw [hopen]) hupload.2 hlacks
  · have hadded : (session.add row).broken = false := hopen
    obtain ⟨committed, hanswer, hbroken, -, hkept⟩ :=
      Session.commit_of_open sessionExceptions (environment.deliveries .archiveCommit) hadded
    have hcommitted := hkept kind (hlacks.add hkind)
    rw [hanswer]
    cases hcommit : environment.deliveries .archiveCommit with
    | completes =>
        rw [hcommit] at hbroken
        exact execute_cut hcommitted hbroken
    | raises exn applied =>
        refine .raises ?_ rfl hcommitted
        show _ = some committed.broken
        rw [hbroken, hcommit]
        simp [Session.Exceptions.breaksCommit, sessionExceptions]

theorem archive_cut {url : String} {bytes : Bytes} (hlacks : session.Lacks kind)
    (hkind : ∀ url sha256 isRevisit, kind (.warcIndex url sha256 isRevisit) = false)
    (hbroken : session.broken = environment.fetchBreaksSession) :
    SessionCut kind (archiveCut environment) environment.fetchBreaksSession
      (archive context environment url bytes session) := by
  unfold archiveCut
  split
  · rename_i hfetch
    rw [hfetch] at hbroken
    refine archive_cut_of_broken ?_ ?_ hlacks hkind
    · rw [Session.execute_of_broken hbroken]
      simp [sessionExceptions]
    · rw [Session.execute_of_broken hbroken]
      exact hbroken
  · rename_i hfetch
    rw [Bool.not_eq_true] at hfetch
    rw [hfetch] at hbroken ⊢
    have hlooked : (session.execute sessionExceptions []
        (environment.deliveries .archiveSelect)).2 = _ := Session.execute_outcome hbroken
    have hopen : (session.execute sessionExceptions []
        (environment.deliveries .archiveSelect)).1.broken = _ := Session.broken_execute hbroken
    cases hselect : environment.deliveries .archiveSelect with
    | raises exn applied =>
        by_cases hcancelled : exn = .cancelled
        · have hlast : decide (exn ≠ Exn.cancelled) = false := by simpa using hcancelled
          dsimp only
          rw [hlast]
          rw [hselect, hcancelled] at hlooked hopen
          unfold archive
          rw [hselect, hcancelled]
          dsimp only
          rw [if_pos (by rw [hlooked]; rfl)]
          exact .raises (by rw [hopen]; rfl) hlooked hlacks.execute
        · have hlast : decide (exn ≠ Exn.cancelled) = true := by simpa using hcancelled
          dsimp only
          rw [hlast]
          refine archive_cut_of_broken ?_ ?_ hlacks hkind
          · rw [hlooked, hselect]
            exact fun h => hcancelled (Except.error.inj h)
          · rw [hopen, hselect]
            simpa [Session.Exceptions.breaks, sessionExceptions] using hcancelled
    | completes =>
        rw [hselect] at hlooked hopen
        unfold archive
        rw [hselect]
        dsimp only
        have hnot : (session.execute sessionExceptions [] .completes).2 ≠ .error .cancelled := by
          rw [hlooked]
          simp
        rw [if_neg hnot]
        exact uploaded_cut hopen hlacks.execute (hkind ..)

private theorem learnerFailed_cut {inFlush expired : Bool} {exn : Exn} (hne : exn ≠ .cancelled)
    (hlacks : session.Lacks kind) (hbroken : session.broken = broken)
    (hexpired : (session.expire inFlush).expired = expired) :
    SessionCut kind (learnerFailedCut environment expired broken) false
      (learnerFailed (learnerDeliveries environment) inFlush session exn) := by
  unfold learnerFailed learnerFailedCut
  rw [if_neg hne, hexpired]
  split
  · rename_i htrue
    have hwaits : (session.expire inFlush).broken = true :=
      (session.expire inFlush).brokenOfExpired (hexpired.trans htrue)
    exact .raises (by rw [hwaits]) rfl hlacks
  · show SessionCut _ _ _ (session.rollback (environment.deliveries .learnerRollback))
    have hrolled : (session.rollback (environment.deliveries .learnerRollback)).1.Lacks kind :=
      hlacks.rollback
    cases hrollback : environment.deliveries .learnerRollback with
    | completes =>
        rw [hrollback] at hrolled
        exact .answers rfl rfl hrolled rfl
    | raises exn applied =>
        rw [hrollback] at hrolled
        refine .raises ?_ rfl hrolled
        subst hbroken
        cases applied <;> rfl

private theorem committed_cut (learn : PolicyRow → PolicyRow) (hopen : session.broken = false)
    (hlacks : session.Lacks kind) (hkind : ∀ row, kind (.policyOutcome row) = false) :
    SessionCut kind
      (if environment.lockedRow = none then none
        else
          match environment.deliveries .learnerCommit with
          | .completes => none
          | .raises exn applied =>
              if exn = .cancelled then some false
              else learnerFailedCut environment (environment.inFlush .learnerCommit && !applied)
                (!applied))
      false
      (match environment.lockedRow with
        | none => (session, .ok ())
        | some row =>
            match ((session.add (.policyOutcome (learn row))).commit sessionExceptions
              (environment.deliveries .learnerCommit)).2 with
            | .error exn => learnerFailed (learnerDeliveries environment)
                (environment.inFlush .learnerCommit)
                ((session.add (.policyOutcome (learn row))).commit sessionExceptions
                  (environment.deliveries .learnerCommit)).1 exn
            | .ok () => (((session.add (.policyOutcome (learn row))).commit sessionExceptions
                (environment.deliveries .learnerCommit)).1, .ok ())) := by
  cases environment.lockedRow with
  | none => exact .answers rfl rfl hlacks hopen
  | some row =>
      rw [if_neg nofun]
      dsimp only
      have hadded : (session.add (.policyOutcome (learn row))).broken = false := hopen
      obtain ⟨committed, hanswer, hbroken, hunexpired, hkept⟩ :=
        Session.commit_of_open sessionExceptions (environment.deliveries .learnerCommit) hadded
      have hcommitted := hkept kind (hlacks.add (hkind _))
      rw [hanswer]
      cases hcommit : environment.deliveries .learnerCommit with
      | completes =>
          rw [hcommit] at hbroken
          exact .answers rfl rfl hcommitted hbroken
      | raises exn applied =>
          rw [hcommit] at hbroken
          dsimp only [Delivery.outcome]
          split
          · rename_i hcancelled
            subst hcancelled
            refine .raises ?_ rfl hcommitted
            rw [learnerFailed, if_pos rfl, hbroken]
            cases applied <;> rfl
          · rename_i hcancelled
            have hwaits : committed.broken = !applied := by
              simp [hbroken, Session.Exceptions.breaksCommit, sessionExceptions, hcancelled]
            refine learnerFailed_cut hcancelled hcommitted hwaits ?_
            rw [Session.expired_expire, hunexpired, hwaits, Bool.false_or]

theorem learner_cut {now : Instant} {result : FetchResult} (hlacks : session.Lacks kind)
    (hkind : ∀ row, kind (.policyOutcome row) = false) (hleft : LeftByFetch environment session) :
    SessionCut kind (learnerCut environment) (brokenForUsage environment)
      (recordOutcome context.text (learnerDeliveries environment) environment.lockedRow now result
        environment.policy session) := by
  obtain ⟨hbroken, hexpired⟩ := hleft
  unfold learnerCut recordOutcome brokenForUsage
  cases environment.policy with
  | none => exact .answers rfl rfl hlacks (by simpa using hbroken)
  | some policy =>
      rw [if_neg nofun]
      dsimp only [Option.isNone_some, Bool.false_and, learnerDeliveries]
      split
      · rename_i hfetch
        rw [hfetch] at hbroken hexpired
        rw [Session.execute_of_broken hbroken]
        refine learnerFailed_cut nofun hlacks hbroken ?_
        rw [Session.expired_expire, hexpired, hbroken, Bool.true_and, Bool.and_true]
      · rename_i hfetch
        rw [Bool.not_eq_true] at hfetch
        rw [hfetch] at hbroken
        obtain ⟨selected, hanswer, hopen, hunexpired, hkept⟩ :=
          Session.execute_of_open sessionExceptions (environment.deliveries .learnerSelect) hbroken
        have hselected := hkept kind hlacks
        rw [hanswer]
        cases hselect : environment.deliveries .learnerSelect with
        | raises exn applied =>
            rw [hselect] at hopen
            dsimp only [Delivery.outcome]
            split
            · rename_i hcancelled
              subst hcancelled
              exact .raises (by rw [learnerFailed, if_pos rfl, hopen]; rfl) rfl hselected
            · rename_i hcancelled
              have hwaits : selected.broken = true := by
                simpa [hopen, Session.Exceptions.breaks, sessionExceptions] using hcancelled
              refine learnerFailed_cut hcancelled hselected hwaits ?_
              rw [Session.expired_expire, hunexpired, hwaits, Bool.false_or, Bool.and_true]
        | completes =>
            rw [hselect] at hopen
            exact committed_cut (fun row => row.learn result result.tierUsed _ now) hopen hselected
              hkind

theorem archiveStep_cut {result : FetchResult} (hlacks : world.session.Lacks kind)
    (hkind : ∀ url sha256 isRevisit, kind (.warcIndex url sha256 isRevisit) = false)
    (hbroken : world.session.broken = environment.fetchBreaksSession) :
    CutEnds kind
      (if ¬ result.blocked ∧ context.hasWarcStorage then archiveCut environment else none)
      environment.fetchBreaksSession (archiveStep context environment result world) := by
  unfold archiveStep
  split
  · exact onSession_cut (archive_cut hlacks hkind hbroken)
  · exact .answers rfl hlacks hbroken

theorem prepare_cut (hlacks : world.session.Lacks kind)
    (hreport : ∀ report, kind (.proxyReport report) = false)
    (hkind : ∀ url sha256 isRevisit, kind (.warcIndex url sha256 isRevisit) = false)
    (hopen : world.session.broken = false) :
    CutEnds kind (prepareCut context environment) environment.fetchBreaksSession
      (prepare context environment task world) := by
  unfold prepareCut prepare
  apply (setStatus_cut hlacks hopen).bind
  intro _ running _ hlacks hopen
  apply (onSession_cut (execute_cut hlacks hopen)).bind
  intro _ selected _ hlacks hopen
  have hreports : (environment.fetchReports.map Statement.proxyReport).countP kind = 0 := by
    simp [hreport]
  unfold fetchCut
  cases hfetch : environment.fetch with
  | error exn =>
      rw [bind_error (by unfold fetchStep; rw [hfetch])]
      exact .raises rfl ⟨hlacks.1, by simp [Environment.leaves, hlacks.2, hreports]⟩
  | ok fetched =>
      rw [bind_ok (by unfold fetchStep; rw [hfetch])]
      have hlacks : Session.Lacks kind (environment.leaves selected.session) :=
        ⟨hlacks.1, by simp [Environment.leaves, hlacks.2, hreports]⟩
      have harchive : CutEnds kind _ environment.fetchBreaksSession
          (archiveStep context environment (normalizeResult context fetched).1
            { selected with session := _ }) := archiveStep_cut hlacks hkind rfl
      apply harchive.seq
      · intro exn after hcut hlacks
        exact .raises hcut hlacks
      · intro _ middle hcut _ hlacks hbroken
        exact .answers hcut hlacks hbroken

end Cuts

section Metering

variable {context : Context} {environment : Environment} {task : FetchTask} {world : World}
  {session : JobSession}

def caught (context : Context) (environment : Environment) (task : FetchTask) :
    EStateM.Result Exn World Unit → World
  | .ok _ world => world
  | .error exn world => finalWorld (handler context environment task exn world)

theorem finalWorld_fetchTask : finalWorld (fetchTask context environment task world) =
    (caught context environment task (body context environment task world)).closeSession := by
  cases hbody : body context environment task world with
  | ok _ final => exact finalWorld_fetchTask_ok hbody
  | error exn final => exact finalWorld_fetchTask_error hbody

def metered (environment : Environment) (task : FetchTask) (world : World) : Nat :=
  world.session.committed.countP (Statement.meters task.applicationId environment.month)

/-- An end of the try block has one upsert committed exactly in the runs that meter once. -/
def Tallies (context : Context) (environment : Environment) (task : FetchTask)
    (answer : EStateM.Result Exn World Unit) : Prop :=
  metered environment task (caught context environment task answer) = 1 ↔
    MeteredOnce context environment

theorem metersOnce_iff_metered {redis : Redis FetchResultSchema} :
    MetersOnce context environment task redis ↔
      metered environment task (caught context environment task
        (body context environment task (World.start redis))) = 1 := by
  unfold MetersOnce metered
  rw [finalWorld_fetchTask]
  show (∀ counters : UsageCounters, (List.foldl UsageCounters.execute counters
    (caught context environment task (body context environment task
      (World.start redis))).session.committed).requestCount _ _ = _) ↔ _
  constructor
  · intro h
    have hcount := h fun _ _ => none
    rw [requestCount_foldl] at hcount
    omega
  · intro h counters
    rw [requestCount_foldl, h]

theorem left_of_prepare {redis : Redis FetchResultSchema}
    {prepared : FetchResult × FetchResultSchema}
    (h : prepare context environment task (World.start redis) = .ok prepared world) :
    LeftByFetch environment world.session := by
  have hends : PrepareEnds context environment (World.start redis) _
      (prepare context environment task (World.start redis)) := prepare_ends rfl
  rw [h] at hends
  cases hends with
  | ready _ hleft => exact hleft

theorem left_of_setStatus {get set : Site} {status : JobStatus}
    {result : Option FetchResultSchema} {after : World}
    (h : setStatus environment task get set status result world = .ok () after)
    (hleft : LeftByFetch environment world.session) :
    LeftByFetch environment after.session := by
  have hkeeps := setStatus_keeps environment task world get set status result
  rw [h] at hkeeps
  cases hkeeps with
  | answers _ hsession =>
      rw [hsession]
      exact hleft

private theorem early_meters {exn : Exn}
    (hcut : earlyCut context environment = some world.session.broken)
    (hlacks : world.session.Lacks (Statement.meters task.applicationId environment.month)) :
    Tallies context environment task (.error exn world) := by
  unfold Tallies metered caught
  by_cases h : world.session.broken = false ∧ HandlerCommits environment
  · rw [handler_commits exn h.2 h.1]
    refine iff_of_true ?_ (.handler (by rw [hcut, h.1]) h.2)
    simp [hlacks.1, hlacks.2]
  · rw [handler_skips exn h]
    refine iff_of_false (by simp [hlacks.1]) ?_
    rintro (⟨hfalse, hcommits⟩ | ⟨hnone, -⟩ | ⟨hnone, -⟩)
    · rw [hcut] at hfalse
      exact h ⟨Option.some.inj hfalse, hcommits⟩
    · rw [hcut] at hnone
      cases hnone
    · rw [hcut] at hnone
      cases hnone

theorem upsertUsage_interrupted {execute commit : Site} {bodyBytes : Nat} {applied : Bool}
    (hopen : session.broken = false)
    (hexecute : environment.deliveries execute = .raises .cancelled applied) :
    (upsertUsage environment task execute commit bodyBytes session).1 =
      { session with
        pending := if applied then session.pending ++ [usageStatement environment task bodyBytes]
          else session.pending } := by
  unfold upsertUsage
  dsimp only
  rw [committed_swallow, hexecute]
  simp [Session.execute, hopen, sessionExceptions, usageStatement]

theorem upsertUsage_uncommitted {execute commit : Site} {bodyBytes : Nat} {applied : Bool}
    (hopen : session.broken = false) (hexecute : environment.deliveries execute = .completes)
    (hcommit : environment.deliveries commit = .raises .cancelled applied) :
    (upsertUsage environment task execute commit bodyBytes session).1 =
      if applied then { committed :=
        session.committed ++ (session.pending ++ [usageStatement environment task bodyBytes]) }
      else { session with
        pending := session.pending ++ [usageStatement environment task bodyBytes] } := by
  unfold upsertUsage
  dsimp only
  rw [committed_swallow, hexecute]
  simp only [Session.execute, hopen, Bool.false_eq_true, if_false]
  rw [hcommit]
  cases applied <;> simp [Session.commit, sessionExceptions, usageStatement]

private theorem meteredOnce_interrupted {applied : Bool}
    (hcut : earlyCut context environment = none) (hopen : brokenForUsage environment = false)
    (hexecute : environment.deliveries .usageExecute = .raises .cancelled applied) :
    MeteredOnce context environment ↔ applied = false ∧ HandlerCommits environment := by
  constructor
  · rintro (⟨hsome, -⟩ | ⟨-, -, hcompletes, -⟩ | ⟨-, -, hretried, hcommits⟩)
    · rw [hcut] at hsome
      cases hsome
    · rw [hexecute] at hcompletes
      cases hcompletes
    · rw [hexecute] at hretried
      cases hretried
      exact ⟨rfl, hcommits⟩
  · rintro ⟨rfl, hcommits⟩
    exact .retried hcut hopen hexecute hcommits

private theorem meteredOnce_uncommitted {applied : Bool}
    (hcut : earlyCut context environment = none) (hopen : brokenForUsage environment = false)
    (hexecute : environment.deliveries .usageExecute = .completes)
    (hcommit : environment.deliveries .usageCommit = .raises .cancelled applied) :
    MeteredOnce context environment ↔ applied = true ∧ ¬ HandlerCommits environment := by
  constructor
  · rintro (⟨hsome, -⟩ | ⟨-, -, -, happlied, hcancelled⟩ | ⟨-, -, hretried, -⟩)
    · rw [hcut] at hsome
      cases hsome
    · rw [hcommit] at happlied hcancelled
      exact ⟨happlied, hcancelled rfl⟩
    · rw [hexecute] at hretried
      cases hretried
  · rintro ⟨rfl, hskips⟩
    exact .counter hcut hopen hexecute (by rw [hcommit]; rfl) fun _ => hskips

private theorem cancelled_meters {bodyBytes : Nat}
    (hcut : earlyCut context environment = none)
    (hlacks : session.Lacks (Statement.meters task.applicationId environment.month))
    (hbroken : session.broken = brokenForUsage environment)
    (hraises : UsageRaises environment .usageExecute .usageCommit session.broken)
    (hsession : world.session =
      (upsertUsage environment task .usageExecute .usageCommit bodyBytes session).1) :
    Tallies context environment task (.error .cancelled world) := by
  have hopen : session.broken = false := by
    generalize session.broken = waits at hraises
    cases hraises <;> rfl
  have hunbroken : brokenForUsage environment = false := hbroken.symm.trans hopen
  rw [hopen] at hraises
  unfold Tallies metered caught
  dsimp only
  cases hraises with
  | execute hexecute =>
      obtain ⟨applied, hexecute⟩ := Delivery.outcome_eq_error.mp hexecute
      rw [upsertUsage_interrupted hopen hexecute] at hsession
      rw [meteredOnce_interrupted hcut hunbroken hexecute]
      by_cases h : HandlerCommits environment
      · rw [handler_commits _ h (by rw [hsession]; exact hopen), hsession]
        cases applied <;> simp [hlacks.1, hlacks.2, h]
      · rw [handler_skips _ fun hall => h hall.2, hsession]
        simp [hlacks.1, h]
  | commit hexecute hcommit =>
      obtain ⟨applied, hcommit⟩ := Delivery.outcome_eq_error.mp hcommit
      rw [upsertUsage_uncommitted hopen hexecute hcommit] at hsession
      rw [meteredOnce_uncommitted hcut hunbroken hexecute hcommit]
      have hstill : world.session.broken = false := by
        rw [hsession]
        cases applied <;> simp [hopen]
      by_cases h : HandlerCommits environment
      · rw [handler_commits _ h hstill, hsession]
        cases applied <;> simp [hlacks.1, hlacks.2, h]
      · rw [handler_skips _ fun hall => h hall.2, hsession]
        cases applied <;> simp [hlacks.1, hlacks.2, h]

private theorem answered_meters {bodyBytes : Nat}
    (hcut : earlyCut context environment = none)
    (hlacks : session.Lacks (Statement.meters task.applicationId environment.month))
    (hbroken : session.broken = brokenForUsage environment)
    (hanswers : ¬ UsageRaises environment .usageExecute .usageCommit session.broken)
    (hsession : world.session =
      (upsertUsage environment task .usageExecute .usageCommit bodyBytes session).1) :
    Tallies context environment task (.ok () world) := by
  unfold Tallies metered caught
  dsimp only
  rw [hsession]
  by_cases h : session.broken = false ∧ environment.deliveries .usageExecute = .completes ∧
      (environment.deliveries .usageCommit).Applied
  · rw [upsertUsage_commits h.1 h.2.1 h.2.2]
    refine iff_of_true (by simp [hlacks.1, hlacks.2]) (.counter hcut (hbroken ▸ h.1) h.2.1 h.2.2 ?_)
    intro hcancelled
    exact absurd (h.1 ▸ .commit h.2.1 hcancelled) hanswers
  · rw [upsertUsage_skips h]
    refine iff_of_false (by simp [hlacks.1]) ?_
    rintro (⟨hsome, -⟩ | ⟨-, hopen, hexecute, hcommit, -⟩ | ⟨-, hopen, hexecute, -⟩)
    · rw [hcut] at hsome
      cases hsome
    · exact h ⟨hbroken.trans hopen, hexecute, hcommit⟩
    · refine hanswers ?_
      rw [hbroken.trans hopen]
      exact .execute (by rw [hexecute]; rfl)

private theorem usage_meters {prepared : FetchResult × FetchResultSchema}
    (hcut : earlyCut context environment = none)
    (hlacks : world.session.Lacks (Statement.meters task.applicationId environment.month))
    (hbroken : world.session.broken = brokenForUsage environment) :
    Tallies context environment task
      ((onSession (upsertUsage environment task .usageExecute .usageCommit
          prepared.1.body.length) >>= fun _ =>
        scheduleCallback context task .completed (some prepared.2) none) world) := by
  rcases upsertUsage_cases .usageExecute .usageCommit prepared.1.body.length with
    ⟨hnot, hanswer⟩ | ⟨hraises, hanswer⟩
  · rw [bind_ok (onSession_ok hanswer)]
    obtain ⟨scheduled, -, hstep⟩ := scheduleCallback_ends context task .completed
      (some prepared.2) none { world with session := (upsertUsage environment task .usageExecute
        .usageCommit prepared.1.body.length world.session).1 }
    rw [hstep]
    exact answered_meters hcut hlacks hbroken hnot rfl
  · rw [bind_error (onSession_error hanswer)]
    exact cancelled_meters hcut hlacks hbroken hraises rfl

end Metering

/-- A job is metered once exactly when at most one of its two upserts is sent and it is
committed. -/
theorem meters_once_iff (context : Context) (environment : Environment) (task : FetchTask)
    (redis : Redis FetchResultSchema) :
    MetersOnce context environment task redis ↔ MeteredOnce context environment := by
  rw [metersOnce_iff_metered]
  show Tallies context environment task _
  unfold body account
  have hprepare : CutEnds (Statement.meters task.applicationId environment.month) _ _
      (prepare context environment task (World.start redis)) :=
    prepare_cut ⟨rfl, rfl⟩ (fun _ => rfl) (fun _ _ _ => rfl) rfl
  apply hprepare.seq
  · intro exn after hcut hlacks
    exact early_meters (by rw [earlyCut, hcut]; rfl) hlacks
  · intro prepared world hprepared hstep hlacks hbroken
    have hleft := left_of_prepare hstep
    apply (setStatus_cut hlacks hbroken).seq
    · intro exn after hcut hlacks
      exact early_meters (by rw [earlyCut, hprepared, hcut]; rfl) hlacks
    · intro _ world hcompleted hstep hlacks hbroken
      replace hleft := left_of_setStatus hstep hleft
      rw [bind_assoc]
      apply (onSession_cut (learner_cut hlacks (fun _ => rfl) hleft)).seq
      · intro exn after hcut hlacks
        exact early_meters (by rw [earlyCut, hprepared, hcompleted, hcut]; rfl) hlacks
      · intro _ world hlearned _ hlacks hbroken
        exact usage_meters (by rw [earlyCut, hprepared, hcompleted, hlearned]; rfl) hlacks hbroken

def shutdownInCommit : Environment :=
  { shutdownInUsage with
    deliveries := fun site =>
      if site = .usageCommit then .raises .cancelled false else .completes }

theorem shutdown_counts_twice :
    ¬ MetersOnce plainContext shutdownInCommit plainTask Redis.empty := by
  intro h
  exact absurd (h fun _ _ => none) (by decide)

end CrawlerApi.Worker
