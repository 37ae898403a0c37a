import CrawlerApi.Worker.Metering

/-!
# What becomes of the reports of a job

`report_result` leaves its commit to the task.  The archive, the learner and the usage
counter each commit what is pending on the session; a statement that fails before one of
them takes the reports with it.
-/

namespace CrawlerApi.Worker

open Keys Fetch Jobs Foundation

section Conditions

variable (environment : Environment)

inductive CommitKeeps (delivery : Delivery Exn) : Prop where
  | applied : delivery.Applied → CommitKeeps delivery
  | cancelled : delivery.outcome = .error .cancelled → HandlerCommits environment →
      CommitKeeps delivery

inductive UsageKeeps : Prop where
  | committed : environment.deliveries .usageExecute = .completes →
      (environment.deliveries .usageCommit).Applied → UsageKeeps
  | cancelled : UsageRaises environment .usageExecute .usageCommit false →
      HandlerCommits environment → UsageKeeps

/-- The learner records the outcome, has no row for it, or is cancelled at its select. -/
inductive LearnerKeeps : Prop where
  | recorded : environment.policy ≠ none →
      environment.deliveries .learnerSelect = .completes → environment.lockedRow ≠ none →
      CommitKeeps environment (environment.deliveries .learnerCommit) → LearnerKeeps
  | unlearned : environment.policy = none → UsageKeeps environment → LearnerKeeps
  | unlocked : environment.deliveries .learnerSelect = .completes →
      environment.lockedRow = none → UsageKeeps environment → LearnerKeeps
  | cancelled : environment.policy ≠ none →
      (environment.deliveries .learnerSelect).outcome = .error .cancelled →
      HandlerCommits environment → LearnerKeeps

/-- The completed status is written and the learner goes on, or the handler commits. -/
inductive CompletedKeeps : Prop where
  | stored : environment.deliveries .completedGet = .completes →
      environment.deliveries .completedSet = .completes → LearnerKeeps environment →
      CompletedKeeps
  | failed : ¬ (environment.deliveries .completedGet = .completes ∧
        environment.deliveries .completedSet = .completes) →
      HandlerCommits environment → CompletedKeeps

def UploadCancelled : Prop :=
  environment.rotates = true ∧
    (environment.deliveries .archiveUpload).outcome = .error .cancelled

inductive ArchiveKeeps : Prop where
  | recorded : environment.deliveries .archiveSelect = .completes →
      ¬ UploadCancelled environment →
      CommitKeeps environment (environment.deliveries .archiveCommit) → ArchiveKeeps
  | lookup : (environment.deliveries .archiveSelect).outcome = .error .cancelled →
      HandlerCommits environment → ArchiveKeeps
  | upload : environment.deliveries .archiveSelect = .completes →
      UploadCancelled environment → HandlerCommits environment → ArchiveKeeps

end Conditions

/-- One of the commits behind the fetch takes effect before anything rolls back: the
archive's, the learner's, the counter's, or the handler's on a session that takes statements. -/
inductive ReportsKept (context : Context) (environment : Environment) : Prop where
  | failed {exn : Exn} : environment.fetch = .error exn → HandlerCommits environment →
      ReportsKept context environment
  | archived {result : FetchResult} : environment.fetch = .ok result → result.blocked = false →
      context.hasWarcStorage = true → ArchiveKeeps environment → ReportsKept context environment
  | unarchived {result : FetchResult} : environment.fetch = .ok result →
      (result.blocked = true ∨ context.hasWarcStorage = false) → CompletedKeeps environment →
      ReportsKept context environment

def Statement.report : Statement → Option Report
  | .proxyReport report => some report
  | _ => none

def reported (statements : List Statement) : List Report := statements.filterMap Statement.report

def waiting (session : JobSession) : List Report :=
  if session.broken then [] else reported session.pending

open Classical in
/-- The reports committed of a session, with those that wait if `keeps` holds. -/
noncomputable def carried (keeps : Prop) (session : JobSession) : List Report :=
  reported session.committed ++ if keeps then waiting session else []

section Reported

variable {session after : JobSession} {keeps : Prop} {statement : Statement}
  {delivery : Delivery Exn}

@[simp] theorem reported_append (before after : List Statement) :
    reported (before ++ after) = reported before ++ reported after := List.filterMap_append

@[simp] theorem reported_usage (environment : Environment) (task : FetchTask) (bodyBytes : Nat) :
    reported [usageStatement environment task bodyBytes] = [] := rfl

@[simp] theorem reported_made (reports : List Report) :
    reported (reports.map .proxyReport) = reports := by
  induction reports with
  | nil => rfl
  | cons report rest ih => exact congrArg (report :: ·) ih

theorem reported_other (h : statement.report = none) : reported [statement] = [] := by
  unfold reported
  rw [List.filterMap_cons_none h, List.filterMap_nil]

theorem waiting_broken (h : session.broken = true) : waiting session = [] := if_pos h

theorem waiting_open (h : session.broken = false) : waiting session = reported session.pending :=
  if_neg (Bool.eq_false_iff.mp h)

theorem carried_kept (h : keeps) :
    carried keeps session = reported session.committed ++ waiting session := by
  unfold carried
  rw [if_pos h]

theorem carried_lost (h : ¬ (session.broken = false ∧ keeps)) :
    carried keeps session = reported session.committed := by
  unfold carried
  split
  · rename_i hkeeps
    cases hbroken : session.broken with
    | true => rw [waiting_broken hbroken, List.append_nil]
    | false => exact absurd ⟨hbroken, hkeeps⟩ h
  · exact List.append_nil _

theorem carried_forgets (h : waiting session = []) :
    carried keeps session = reported session.committed := by
  unfold carried
  rw [h, ite_self, List.append_nil]

theorem carried_congr (hcommitted : reported after.committed = reported session.committed)
    (hwaiting : waiting after = waiting session) : carried keeps after = carried keeps session := by
  unfold carried
  rw [hcommitted, hwaiting]

structure AddsNothing (session after : JobSession) : Prop where
  committed : after.committed = session.committed
  waiting : waiting session = [] → waiting after = []

theorem AddsNothing.refl (session : JobSession) : AddsNothing session session := ⟨rfl, id⟩

theorem addsNothing_execute (session : JobSession) (delivery : Delivery Exn) :
    AddsNothing session (session.execute sessionExceptions [] delivery).1 := by
  refine ⟨Session.committed_execute, fun h => ?_⟩
  cases hbroken : session.broken with
  | true => rwa [Session.execute_of_broken hbroken]
  | false =>
      rw [waiting_open hbroken] at h
      unfold waiting
      rw [Session.pending_execute_nil, h, ite_self]

theorem addsNothing_learnerFailed (deliveries : LearnerDeliveries) (inFlush : Bool)
    (session : JobSession) (exn : Exn) :
    AddsNothing session (learnerFailed deliveries inFlush session exn).1 := by
  unfold learnerFailed
  split
  · exact .refl session
  · split
    · exact ⟨rfl, id⟩
    · refine ⟨Session.committed_rollback, fun h => ?_⟩
      rcases @Session.rollback_cases _ _ session deliveries.rollback with hsame | hnone
      · rw [hsame, h]
      · rw [hnone]
        rfl

theorem waiting_execute (hopen : session.broken = false)
    (hunbroken : sessionExceptions.breaks delivery = false) :
    waiting (session.execute sessionExceptions [] delivery).1 = waiting session := by
  have hstill : (session.execute sessionExceptions [] delivery).1.broken = false := by
    rw [Session.broken_execute hopen, hunbroken]
  rw [waiting_open hstill, waiting_open hopen, Session.pending_execute_nil]

theorem carried_execute (hopen : session.broken = false)
    (hunbroken : sessionExceptions.breaks delivery = false) :
    carried keeps (session.execute sessionExceptions [] delivery).1 = carried keeps session :=
  carried_congr (by rw [Session.committed_execute]) (waiting_execute hopen hunbroken)

theorem reported_commit (hopen : session.broken = false) (happlied : delivery.Applied)
    (hother : statement.report = none) :
    reported ((session.add statement).commit sessionExceptions delivery).1.committed =
      reported session.committed ++ waiting session := by
  have hadded : (session.add statement).broken = false := hopen
  rw [Session.commit_applied hadded happlied, waiting_open hopen]
  simp [Session.add, reported_other hother]

theorem waiting_commit (hopen : session.broken = false) (happlied : delivery.Applied) :
    waiting ((session.add statement).commit sessionExceptions delivery).1 = [] := by
  have hadded : (session.add statement).broken = false := hopen
  rw [Session.commit_applied hadded happlied]
  rfl

theorem carried_commit (hopen : session.broken = false) (hother : statement.report = none) :
    carried keeps ((session.add statement).commit sessionExceptions (.raises .cancelled false)).1 =
      carried keeps session := by
  apply carried_congr
  · simp [Session.commit, Session.add, hopen, sessionExceptions]
  · simp [Session.commit, Session.add, waiting, hopen, sessionExceptions, reported_other hother]

theorem commit_failed {exn : Exn} (hopen : session.broken = false) (hne : exn ≠ .cancelled) :
    ((session.add statement).commit sessionExceptions (.raises exn false)).1.committed =
        session.committed ∧
      ((session.add statement).commit sessionExceptions (.raises exn false)).1.broken = true := by
  simp [Session.commit, Session.add, hopen, sessionExceptions, hne]

end Reported

section Carrying

variable {context : Context} {environment : Environment} {task : FetchTask} {keeps : Prop}
  {rest : Task Unit} {world : World}

def kept (context : Context) (environment : Environment) (task : FetchTask)
    (answer : EStateM.Result Exn World Unit) : List Report :=
  reported (caught context environment task answer).session.committed

/-- The rest of the try block keeps the reports that are committed, and those that wait
exactly if `keeps` holds. -/
def Carries (context : Context) (environment : Environment) (task : FetchTask) (keeps : Prop)
    (rest : Task Unit) : Prop :=
  ∀ world, kept context environment task (rest world) = carried keeps world.session

theorem kept_error (exn : Exn) (world : World) :
    kept context environment task (.error exn world) =
      carried (HandlerCommits environment) world.session := by
  unfold kept caught
  by_cases h : world.session.broken = false ∧ HandlerCommits environment
  · rw [handler_commits exn h.2 h.1, carried_kept h.2, waiting_open h.1]
    simp
  · rw [handler_skips exn h, carried_lost h]

theorem Carries.of_ok {step : JobSession → JobSession × Except Exn Unit}
    {answer : JobSession × Except Exn Unit}
    (h : Carries context environment task keeps rest)
    (hanswer : step world.session = answer) (hok : answer.2 = .ok ()) :
    kept context environment task ((onSession step >>= fun _ => rest) world) =
      carried keeps answer.1 := by
  subst hanswer
  rw [bind_ok (onSession_ok hok), h]

theorem kept_of_error {step : JobSession → JobSession × Except Exn Unit}
    {answer : JobSession × Except Exn Unit} {exn : Exn}
    (hanswer : step world.session = answer) (herror : answer.2 = .error exn) :
    kept context environment task ((onSession step >>= fun _ => rest) world) =
      carried (HandlerCommits environment) answer.1 := by
  subst hanswer
  rw [bind_error (onSession_error herror), kept_error]

theorem Carries.of_forgets {step : JobSession → JobSession × Except Exn Unit}
    {answer : JobSession × Except Exn Unit}
    (h : Carries context environment task keeps rest)
    (hanswer : step world.session = answer) (hforgets : waiting answer.1 = []) :
    kept context environment task ((onSession step >>= fun _ => rest) world) =
      reported answer.1.committed := by
  cases hresult : answer.2 with
  | ok _ => rw [h.of_ok hanswer hresult, carried_forgets hforgets]
  | error exn => rw [kept_of_error hanswer hresult, carried_forgets hforgets]

theorem carries_callback (prepared : FetchResult × FetchResultSchema) :
    Carries context environment task False
      (scheduleCallback context task .completed (some prepared.2) none) := by
  intro world
  obtain ⟨scheduled, -, hstep⟩ := scheduleCallback_ends context task .completed
    (some prepared.2) none world
  rw [hstep, carried_lost fun h => h.2]
  rfl

private theorem kept_counted {bodyBytes : Nat} {prepared : FetchResult × FetchResultSchema}
    (hopen : world.session.broken = false)
    (hraises : ¬ UsageRaises environment .usageExecute .usageCommit false)
    (hanswer : (upsertUsage environment task .usageExecute .usageCommit bodyBytes
      world.session).2 = .ok ()) :
    kept context environment task
        ((onSession (upsertUsage environment task .usageExecute .usageCommit bodyBytes) >>=
          fun _ => scheduleCallback context task .completed (some prepared.2) none) world) =
      carried (UsageKeeps environment) world.session := by
  rw [(carries_callback prepared).of_ok rfl hanswer, carried_lost fun h => h.2]
  by_cases h : environment.deliveries .usageExecute = .completes ∧
      (environment.deliveries .usageCommit).Applied
  · have hkeeps : UsageKeeps environment := .committed h.1 h.2
    rw [upsertUsage_commits hopen h.1 h.2, carried_kept hkeeps, waiting_open hopen]
    simp
  · have hloses : ¬ UsageKeeps environment := by
      rintro (⟨hexecute, hcommit⟩ | ⟨hraised, -⟩)
      · exact h ⟨hexecute, hcommit⟩
      · exact hraises hraised
    rw [upsertUsage_skips fun hall => h hall.2, carried_lost fun hkept => hloses hkept.2]

private theorem kept_cancelled {bodyBytes : Nat} {prepared : FetchResult × FetchResultSchema}
    (hopen : world.session.broken = false)
    (hraises : UsageRaises environment .usageExecute .usageCommit false)
    (hanswer : (upsertUsage environment task .usageExecute .usageCommit bodyBytes
      world.session).2 = .error .cancelled) :
    kept context environment task
        ((onSession (upsertUsage environment task .usageExecute .usageCommit bodyBytes) >>=
          fun _ => scheduleCallback context task .completed (some prepared.2) none) world) =
      carried (UsageKeeps environment) world.session := by
  rw [kept_of_error rfl hanswer]
  have hretried : HandlerCommits environment → UsageKeeps environment := .cancelled hraises
  cases hraises with
  | execute hexecute =>
      obtain ⟨applied, hexecute⟩ := Delivery.outcome_eq_error.mp hexecute
      have hkeeps : UsageKeeps environment ↔ HandlerCommits environment := by
        constructor
        · rintro (⟨hcompletes, -⟩ | ⟨-, hcommits⟩)
          · rw [hexecute] at hcompletes
            cases hcompletes
          · exact hcommits
        · exact hretried
      rw [upsertUsage_interrupted hopen hexecute, hkeeps]
      refine carried_congr rfl ?_
      cases applied <;> simp [waiting, hopen]
  | commit hexecute hcommit =>
      obtain ⟨applied, hcommit⟩ := Delivery.outcome_eq_error.mp hcommit
      rw [upsertUsage_uncommitted hopen hexecute hcommit]
      cases applied with
      | true =>
          have hkeeps : UsageKeeps environment := .committed hexecute (by rw [hcommit]; rfl)
          rw [carried_kept hkeeps, waiting_open hopen, if_pos rfl, carried_forgets rfl]
          simp
      | false =>
          have hkeeps : UsageKeeps environment ↔ HandlerCommits environment := by
            constructor
            · rintro (⟨-, happlied⟩ | ⟨-, hcommits⟩)
              · rw [hcommit] at happlied
                cases happlied
              · exact hcommits
            · exact hretried
          rw [hkeeps, if_neg Bool.false_ne_true]
          refine carried_congr rfl ?_
          simp [waiting, hopen]

theorem carries_usage (bodyBytes : Nat) (prepared : FetchResult × FetchResultSchema) :
    Carries context environment task (UsageKeeps environment)
      (onSession (upsertUsage environment task .usageExecute .usageCommit bodyBytes) >>=
        fun _ => scheduleCallback context task .completed (some prepared.2) none) := by
  intro world
  cases hbroken : world.session.broken with
  | true =>
      have hsame : (upsertUsage environment task .usageExecute .usageCommit bodyBytes
          world.session).1 = world.session := by
        unfold upsertUsage
        dsimp only
        rw [committed_swallow, Session.execute_of_broken hbroken]
      have hlost : waiting world.session = [] := waiting_broken hbroken
      rw [(carries_callback prepared).of_forgets rfl (by rw [hsame]; exact hlost), hsame,
        carried_forgets hlost]
  | false =>
      rcases @upsertUsage_cases environment task world.session .usageExecute .usageCommit
        bodyBytes with ⟨hraises, hanswer⟩ | ⟨hraises, hanswer⟩
      · rw [hbroken] at hraises
        exact kept_counted hbroken hraises hanswer
      · rw [hbroken] at hraises
        exact kept_cancelled hbroken hraises hanswer

private theorem kept_committed {step : JobSession → JobSession × Except Exn Unit}
    {session : JobSession} {statement : Statement} {delivery : Delivery Exn}
    (done : JobSession → JobSession × Except Exn Unit)
    (failed : JobSession → Exn → JobSession × Except Exn Unit)
    (h : Carries context environment task keeps rest) (hopen : session.broken = false)
    (hother : statement.report = none)
    (hdone : ∀ session, AddsNothing session (done session).1)
    (hfailed : ∀ session exn, AddsNothing session (failed session exn).1)
    (hcancelled : ∀ session, failed session .cancelled = (session, .error .cancelled))
    (hanswer : step world.session =
      match ((session.add statement).commit sessionExceptions delivery).2 with
      | .error exn => failed ((session.add statement).commit sessionExceptions delivery).1 exn
      | .ok () => done ((session.add statement).commit sessionExceptions delivery).1) :
    kept context environment task ((onSession step >>= fun _ => rest) world) =
      carried (CommitKeeps environment delivery) session := by
  have hadded : (session.add statement).broken = false := hopen
  rw [Session.commit_outcome hadded] at hanswer
  cases delivery with
  | completes =>
      have happlied : (Delivery.completes : Delivery Exn).Applied := trivial
      dsimp only [Delivery.outcome] at hanswer
      rw [h.of_forgets hanswer ((hdone _).waiting (waiting_commit hopen happlied)),
        (hdone _).committed, reported_commit hopen happlied hother,
        carried_kept (CommitKeeps.applied happlied)]
  | raises exn applied =>
      dsimp only [Delivery.outcome] at hanswer
      cases applied with
      | true =>
          have happlied : (Delivery.raises exn true).Applied := rfl
          rw [h.of_forgets hanswer ((hfailed _ exn).waiting (waiting_commit hopen happlied)),
            (hfailed _ exn).committed, reported_commit hopen happlied hother,
            carried_kept (CommitKeeps.applied happlied)]
      | false =>
          by_cases hinterrupted : exn = .cancelled
          · subst hinterrupted
            have hkeeps : CommitKeeps environment (.raises .cancelled false) ↔
                HandlerCommits environment := by
              constructor
              · rintro (happlied | ⟨-, hcommits⟩)
                · cases happlied
                · exact hcommits
              · exact .cancelled rfl
            rw [kept_of_error (hanswer.trans (hcancelled _)) rfl, carried_commit hopen hother,
              hkeeps]
          · obtain ⟨hcommitted, hbroken⟩ := @commit_failed session statement exn hopen hinterrupted
            rw [h.of_forgets hanswer ((hfailed _ exn).waiting (waiting_broken hbroken)),
              (hfailed _ exn).committed, hcommitted]
            refine (carried_lost ?_).symm
            rintro ⟨-, happlied | ⟨hraised, -⟩⟩
            · cases happlied
            · exact hinterrupted (Except.error.inj hraised)

private theorem kept_unselected {result : FetchResult} {now : Instant} {exn : Exn} {applied : Bool}
    (h : Carries context environment task (UsageKeeps environment) rest)
    (hopen : world.session.broken = false) (hpolicy : environment.policy ≠ none)
    (hselect : environment.deliveries .learnerSelect = .raises exn applied) :
    kept context environment task
        ((onSession (recordOutcome context.text (learnerDeliveries environment)
          environment.lockedRow now result environment.policy) >>= fun _ => rest) world) =
      carried (LearnerKeeps environment) world.session := by
  have hanswer : recordOutcome context.text (learnerDeliveries environment)
      environment.lockedRow now result environment.policy world.session =
        learnerFailed (learnerDeliveries environment) (environment.inFlush .learnerSelect)
          (world.session.execute sessionExceptions []
            (environment.deliveries .learnerSelect)).1 exn := by
    obtain ⟨policy, hsome⟩ := Option.ne_none_iff_exists'.mp hpolicy
    unfold recordOutcome
    rw [hsome]
    dsimp only [learnerDeliveries]
    rw [Session.execute_outcome hopen, hselect]
    rfl
  by_cases hcancelled : exn = .cancelled
  · subst hcancelled
    have hkeeps : LearnerKeeps environment ↔ HandlerCommits environment := by
      constructor
      · rintro (⟨-, hcompletes, -, -⟩ | ⟨hnone, -⟩ | ⟨hcompletes, -, -⟩ | ⟨-, -, hcommits⟩)
        · rw [hselect] at hcompletes
          cases hcompletes
        · exact absurd hnone hpolicy
        · rw [hselect] at hcompletes
          cases hcompletes
        · exact hcommits
      · exact .cancelled hpolicy (by rw [hselect]; rfl)
    rw [learnerFailed, if_pos rfl] at hanswer
    rw [kept_of_error hanswer rfl, carried_execute hopen (by rw [hselect]; rfl), hkeeps]
  · have hbroken : (world.session.execute sessionExceptions []
        (environment.deliveries .learnerSelect)).1.broken = true := by
      rw [Session.broken_execute hopen, hselect]
      simpa [Session.Exceptions.breaks, sessionExceptions] using hcancelled
    have hfails := addsNothing_learnerFailed (learnerDeliveries environment)
      (environment.inFlush .learnerSelect)
      (world.session.execute sessionExceptions [] (environment.deliveries .learnerSelect)).1 exn
    rw [h.of_forgets hanswer (hfails.waiting (waiting_broken hbroken)), hfails.committed,
      Session.committed_execute]
    refine (carried_lost ?_).symm
    rintro ⟨-, ⟨-, hcompletes, -, -⟩ | ⟨hnone, -⟩ | ⟨hcompletes, -, -⟩ | ⟨-, hraised, -⟩⟩
    · rw [hselect] at hcompletes
      cases hcompletes
    · exact hpolicy hnone
    · rw [hselect] at hcompletes
      cases hcompletes
    · rw [hselect] at hraised
      exact hcancelled (Except.error.inj hraised)

private theorem kept_selected {result : FetchResult} {now : Instant} {policy : PolicyRow}
    (h : Carries context environment task (UsageKeeps environment) rest)
    (hopen : world.session.broken = false) (hpolicy : environment.policy = some policy)
    (hselect : environment.deliveries .learnerSelect = .completes) :
    kept context environment task
        ((onSession (recordOutcome context.text (learnerDeliveries environment)
          environment.lockedRow now result environment.policy) >>= fun _ => rest) world) =
      carried (LearnerKeeps environment) world.session := by
  have hsome : environment.policy ≠ none := by
    rw [hpolicy]
    exact Option.some_ne_none policy
  have hselected : (world.session.execute sessionExceptions [] .completes).2 =
      Delivery.completes.outcome := Session.execute_outcome hopen
  have hunbroken : sessionExceptions.breaks (environment.deliveries .learnerSelect) = false := by
    rw [hselect]
    rfl
  rw [← carried_execute hopen hunbroken]
  cases hrow : environment.lockedRow with
  | none =>
      have hanswer : recordOutcome context.text (learnerDeliveries environment) none now
          result environment.policy world.session =
            ((world.session.execute sessionExceptions []
              (environment.deliveries .learnerSelect)).1, .ok ()) := by
        unfold recordOutcome
        rw [hpolicy]
        dsimp only [learnerDeliveries]
        rw [hselect, hselected]
        rfl
      have hkeeps : LearnerKeeps environment ↔ UsageKeeps environment := by
        constructor
        · rintro (⟨-, -, hfound, -⟩ | ⟨hnone, -⟩ | ⟨-, -, husage⟩ | ⟨-, hraised, -⟩)
          · exact absurd hrow hfound
          · exact absurd hnone hsome
          · exact husage
          · rw [hselect] at hraised
            cases hraised
        · exact .unlocked hselect hrow
      rw [h.of_ok hanswer rfl, hkeeps]
  | some row =>
      have hkeeps : LearnerKeeps environment ↔
          CommitKeeps environment (environment.deliveries .learnerCommit) := by
        constructor
        · rintro (⟨-, -, -, hcommit⟩ | ⟨hnone, -⟩ | ⟨-, hmissing, -⟩ | ⟨-, hraised, -⟩)
          · exact hcommit
          · exact absurd hnone hsome
          · rw [hrow] at hmissing
            cases hmissing
          · rw [hselect] at hraised
            cases hraised
        · exact .recorded hsome hselect (by rw [hrow]; exact Option.some_ne_none row)
      have hstill : (world.session.execute sessionExceptions []
          (environment.deliveries .learnerSelect)).1.broken = false := by
        rw [Session.broken_execute hopen, hunbroken]
      let learned := row.learn result result.tierUsed (BlockDetector.detectVendor context.text
        result.headers [] (result.body.take 65536)) now
      have hother : (Statement.policyOutcome learned).report = none := rfl
      rw [hkeeps]
      refine kept_committed (fun session => (session, .ok ()))
        (learnerFailed (learnerDeliveries environment) (environment.inFlush .learnerCommit))
        h hstill hother AddsNothing.refl
        (addsNothing_learnerFailed (learnerDeliveries environment) _) (fun _ => if_pos rfl) ?_
      unfold recordOutcome
      rw [hpolicy]
      dsimp only [learnerDeliveries]
      rw [hselect, hselected]
      rfl

theorem carries_learner {result : FetchResult} (now : Instant)
    (h : Carries context environment task (UsageKeeps environment) rest) :
    Carries context environment task (LearnerKeeps environment)
      (onSession (recordOutcome context.text (learnerDeliveries environment)
        environment.lockedRow now result environment.policy) >>= fun _ => rest) := by
  intro world
  cases hpolicy : environment.policy with
  | none =>
      have hkeeps : LearnerKeeps environment ↔ UsageKeeps environment := by
        constructor
        · rintro (⟨hsome, -⟩ | ⟨-, husage⟩ | ⟨-, -, husage⟩ | ⟨hsome, -⟩)
          · exact absurd hpolicy hsome
          · exact husage
          · exact husage
          · exact absurd hpolicy hsome
        · exact .unlearned hpolicy
      have hanswer : recordOutcome context.text (learnerDeliveries environment)
          environment.lockedRow now result none world.session = (world.session, .ok ()) := rfl
      rw [h.of_ok hanswer rfl, hkeeps]
  | some policy =>
      rw [← hpolicy]
      cases hbroken : world.session.broken with
      | false =>
          cases hselect : environment.deliveries .learnerSelect with
          | completes => exact kept_selected h hbroken hpolicy hselect
          | raises exn applied => exact kept_unselected h hbroken (by simp [hpolicy]) hselect
      | true =>
          have hanswer : recordOutcome context.text (learnerDeliveries environment)
              environment.lockedRow now result environment.policy world.session =
                learnerFailed (learnerDeliveries environment) (environment.inFlush .learnerSelect)
                  world.session sessionExceptions.rejected := by
            unfold recordOutcome
            rw [hpolicy]
            dsimp only
            rw [Session.execute_of_broken hbroken]
            rfl
          have hlost : waiting world.session = [] := waiting_broken hbroken
          have hfails := addsNothing_learnerFailed (learnerDeliveries environment)
            (environment.inFlush .learnerSelect) world.session sessionExceptions.rejected
          rw [h.of_forgets hanswer (hfails.waiting hlost), hfails.committed, carried_forgets hlost]

theorem carries_status {result : Option FetchResultSchema}
    (h : Carries context environment task (LearnerKeeps environment) rest) :
    Carries context environment task (CompletedKeeps environment)
      (setStatus environment task .completedGet .completedSet .completed result >>=
        fun _ => rest) := by
  intro world
  have hstatus := setStatus_keeps environment task world .completedGet .completedSet .completed
    result
  generalize hstep : setStatus environment task .completedGet .completedSet .completed result
    world = answer at hstatus
  cases hstatus with
  | answers hstored hsession =>
      have hkeeps : CompletedKeeps environment ↔ LearnerKeeps environment := by
        constructor
        · rintro (⟨-, -, hlearner⟩ | ⟨hnot, -⟩)
          · exact hlearner
          · exact absurd hstored hnot
        · exact .stored hstored.1 hstored.2
      rw [bind_ok hstep, h, hsession, hkeeps]
  | raises hnot hsession =>
      have hkeeps : CompletedKeeps environment ↔ HandlerCommits environment := by
        constructor
        · rintro (⟨hget, hset, -⟩ | ⟨-, hcommits⟩)
          · exact absurd ⟨hget, hset⟩ hnot
          · exact hcommits
        · exact .failed hnot
      rw [bind_error hstep, kept_error, hsession, hkeeps]

private theorem archive_of_broken {url : String} {bytes : Bytes} {session : JobSession}
    (hbroken : (session.execute sessionExceptions []
      (environment.deliveries .archiveSelect)).1.broken = true) :
    (archive context environment url bytes session).1.committed = session.committed ∧
      waiting (archive context environment url bytes session).1 = [] := by
  have hadded : ((session.execute sessionExceptions []
      (environment.deliveries .archiveSelect)).1.add
        (.warcIndex url (context.codecs.sha256 bytes) environment.isRevisit)).broken = true :=
    hbroken
  unfold archive
  dsimp only
  rw [Session.commit_of_broken hadded]
  split_ifs
  · exact ⟨Session.committed_execute, waiting_broken hbroken⟩
  · exact ⟨Session.committed_execute, waiting_broken hbroken⟩
  · exact ⟨Session.committed_execute, waiting_broken hadded⟩

theorem ArchiveKeeps.unbroken (h : ArchiveKeeps environment) :
    sessionExceptions.breaks (environment.deliveries .archiveSelect) = false := by
  cases h with
  | recorded hselect =>
      rw [hselect]
      rfl
  | lookup hcancelled =>
      obtain ⟨applied, hselect⟩ := Delivery.outcome_eq_error.mp hcancelled
      rw [hselect]
      rfl
  | upload hselect =>
      rw [hselect]
      rfl

private theorem kept_archived {url : String} {bytes : Bytes}
    (h : Carries context environment task keeps rest) (hopen : world.session.broken = false)
    (hselect : environment.deliveries .archiveSelect = .completes) :
    kept context environment task
        ((onSession (archive context environment url bytes) >>= fun _ => rest) world) =
      carried (ArchiveKeeps environment) world.session := by
  have hlooked : (world.session.execute sessionExceptions []
      (environment.deliveries .archiveSelect)).2 = .ok () :=
    Session.execute_ok_iff.mpr ⟨hopen, hselect⟩
  have hstill : (world.session.execute sessionExceptions []
      (environment.deliveries .archiveSelect)).1.broken = false :=
    Session.broken_execute_of_ok hlooked
  have hunbroken : sessionExceptions.breaks (environment.deliveries .archiveSelect) = false := by
    rw [hselect]
    rfl
  rw [← carried_execute hopen hunbroken]
  by_cases hupload : environment.rotates = true ∧
      (environment.deliveries .archiveUpload).outcome = .error .cancelled
  · have hanswer : archive context environment url bytes world.session =
        ((world.session.execute sessionExceptions []
          (environment.deliveries .archiveSelect)).1, .error .cancelled) := by
      unfold archive
      dsimp only
      rw [hlooked, if_neg nofun, if_pos hupload, hupload.2]
    have hkeeps : ArchiveKeeps environment ↔ HandlerCommits environment := by
      constructor
      · rintro (⟨-, hnot, -⟩ | ⟨-, hcommits⟩ | ⟨-, -, hcommits⟩)
        · exact absurd hupload hnot
        · exact hcommits
        · exact hcommits
      · exact .upload hselect hupload
    rw [kept_of_error hanswer rfl, hkeeps]
  · have hkeeps : ArchiveKeeps environment ↔
        CommitKeeps environment (environment.deliveries .archiveCommit) := by
      constructor
      · rintro (⟨-, -, hcommit⟩ | ⟨hraised, -⟩ | ⟨-, hcancelled, -⟩)
        · exact hcommit
        · rw [hselect] at hraised
          cases hraised
        · exact absurd hcancelled hupload
      · exact .recorded hselect hupload
    have hother : (Statement.warcIndex url (context.codecs.sha256 bytes)
        environment.isRevisit).report = none := rfl
    rw [hkeeps]
    refine kept_committed
      (Session.execute sessionExceptions [] (environment.deliveries .archiveRefresh))
      (fun session exn => (session, .error exn)) h hstill hother
      (fun session => addsNothing_execute session (environment.deliveries .archiveRefresh))
      (fun session _ => .refl session) (fun _ => rfl) ?_
    have hnot : ¬ (world.session.execute sessionExceptions []
        (environment.deliveries .archiveSelect)).2 = .error .cancelled := by
      rw [hlooked]
      exact nofun
    exact (if_neg hnot).trans (if_neg hupload)

theorem carries_archive (url : String) (bytes : Bytes)
    (h : Carries context environment task keeps rest) :
    Carries context environment task (ArchiveKeeps environment)
      (onSession (archive context environment url bytes) >>= fun _ => rest) := by
  intro world
  by_cases hlooked : (world.session.execute sessionExceptions []
      (environment.deliveries .archiveSelect)).1.broken = true
  · obtain ⟨hcommitted, hforgets⟩ := @archive_of_broken context environment url bytes
      world.session hlooked
    rw [h.of_forgets rfl hforgets, hcommitted]
    refine (carried_lost ?_).symm
    rintro ⟨hopen, hkeeps⟩
    rw [Session.broken_execute hopen, hkeeps.unbroken] at hlooked
    cases hlooked
  · have hopen : world.session.broken = false := by
      rw [← Bool.not_eq_true]
      intro hbroken
      rw [Session.execute_of_broken hbroken] at hlooked
      exact hlooked hbroken
    cases hselect : environment.deliveries .archiveSelect with
    | completes => exact kept_archived h hopen hselect
    | raises exn applied =>
        have hcancelled : exn = .cancelled := by
          rw [Session.broken_execute hopen, hselect] at hlooked
          simpa [Session.Exceptions.breaks, sessionExceptions] using hlooked
        subst hcancelled
        have hraised : (world.session.execute sessionExceptions []
            (environment.deliveries .archiveSelect)).2 = .error .cancelled := by
          rw [Session.execute_outcome hopen, hselect]
          rfl
        have hanswer : archive context environment url bytes world.session =
            world.session.execute sessionExceptions []
              (environment.deliveries .archiveSelect) := by
          unfold archive
          dsimp only
          rw [if_pos hraised]
        have hkeeps : ArchiveKeeps environment ↔ HandlerCommits environment := by
          constructor
          · rintro (⟨hcompletes, -, -⟩ | ⟨-, hcommits⟩ | ⟨-, -, hcommits⟩)
            · rw [hselect] at hcompletes
              cases hcompletes
            · exact hcommits
            · exact hcommits
          · exact .lookup (by rw [hselect]; rfl)
        rw [kept_of_error hanswer hraised, carried_execute hopen (by rw [hselect]; rfl), hkeeps]

theorem carries_archiveStep {fetched result : FetchResult}
    (hfetch : environment.fetch = .ok fetched) (hblocked : result.blocked = fetched.blocked)
    (h : Carries context environment task (CompletedKeeps environment) rest) :
    Carries context environment task (ReportsKept context environment)
      (archiveStep context environment result >>= fun _ => rest) := by
  unfold archiveStep
  dsimp only
  by_cases harchives : ¬ result.blocked = true ∧ context.hasWarcStorage = true
  · rw [if_pos harchives]
    have hopen : fetched.blocked = false := by
      rw [← hblocked]
      exact Bool.eq_false_iff.mpr harchives.1
    have hkeeps : ReportsKept context environment ↔ ArchiveKeeps environment := by
      constructor
      · rintro (⟨herror, -⟩ | ⟨-, -, -, harchive⟩ | ⟨hother, hskips, -⟩)
        · rw [hfetch] at herror
          cases herror
        · exact harchive
        · rw [hfetch] at hother
          cases hother
          rcases hskips with hskips | hskips
          · rw [hopen] at hskips
            cases hskips
          · rw [harchives.2] at hskips
            cases hskips
      · exact .archived hfetch hopen harchives.2
    rw [hkeeps]
    exact carries_archive _ _ h
  · rw [if_neg harchives]
    have hkeeps : ReportsKept context environment ↔ CompletedKeeps environment := by
      constructor
      · rintro (⟨herror, -⟩ | ⟨hother, hopen, hstorage, -⟩ | ⟨-, -, hcompleted⟩)
        · rw [hfetch] at herror
          cases herror
        · rw [hfetch] at hother
          cases hother
          refine absurd ⟨?_, hstorage⟩ harchives
          rw [hblocked, hopen]
          exact Bool.false_ne_true
        · exact hcompleted
      · refine .unarchived hfetch ?_
        rw [← hblocked]
        by_cases hresult : result.blocked = true
        · exact .inl hresult
        · exact .inr (Bool.eq_false_iff.mpr fun hstorage => harchives ⟨hresult, hstorage⟩)
    rw [hkeeps]
    exact h

theorem carries_account (prepared : FetchResult × FetchResultSchema) :
    Carries context environment task (CompletedKeeps environment)
      (setStatus environment task .completedGet .completedSet .completed (some prepared.2) >>=
        fun _ => account context environment task prepared.1 >>= fun _ =>
          scheduleCallback context task .completed (some prepared.2) none) := by
  apply carries_status
  unfold account
  rw [bind_assoc]
  exact carries_learner _ (carries_usage _ prepared)

end Carrying

section Run

variable {context : Context} {environment : Environment} {task : FetchTask}
  {redis : Redis FetchResultSchema}

/-- The steps in front of the retry loop complete. -/
structure Fetches (environment : Environment) : Prop where
  get : environment.deliveries .runningGet = .completes
  set : environment.deliveries .runningSet = .completes
  select : environment.deliveries .policySelect = .completes

def madeReports (environment : Environment) (task : FetchTask) (redis : Redis FetchResultSchema) :
    List Report :=
  let fetched : Task Unit := do
    setStatus environment task .runningGet .runningSet .running none
    onSession (Session.execute sessionExceptions [] (environment.deliveries .policySelect))
    let _ ← fetchStep environment
  reported (finalWorld (fetched (World.start redis))).session.pending

/-- Every report made is committed when the session closes. -/
def ReportsSurvive (context : Context) (environment : Environment) (task : FetchTask)
    (redis : Redis FetchResultSchema) : Prop :=
  (madeReports environment task redis).Sublist
    (reported
      (finalWorld (fetchTask context environment task (World.start redis))).session.committed)

theorem start_fetches (h : Fetches environment) (task : FetchTask)
    (redis : Redis FetchResultSchema) : ∃ world : World, world.session = {} ∧
      ∀ {β : Type} (next : Unit → Task β),
        (setStatus environment task .runningGet .runningSet .running none >>= fun _ =>
          onSession (Session.execute sessionExceptions []
            (environment.deliveries .policySelect)) >>= next) (World.start redis) =
          next () world := by
  have hstatus := setStatus_keeps environment task (World.start redis) .runningGet .runningSet
    .running none
  generalize hstep : setStatus environment task .runningGet .runningSet .running none
    (World.start redis) = answer at hstatus
  cases hstatus with
  | raises hnot => exact absurd ⟨h.get, h.set⟩ hnot
  | @answers after _ hsession =>
      have hexecute : Session.execute sessionExceptions [] (environment.deliveries .policySelect)
          after.session = ({}, .ok ()) := by
        rw [hsession, h.select]
        rfl
      refine ⟨{ after with session := {} }, rfl, fun next => ?_⟩
      rw [bind_ok hstep, bind_ok (onSession_ok (by rw [hexecute])), hexecute]

theorem start_raises (h : ¬ Fetches environment) (task : FetchTask)
    (redis : Redis FetchResultSchema) : ∃ (exn : Exn) (world : World),
      world.session.committed = [] ∧ world.session.pending = [] ∧
      ∀ {β : Type} (next : Unit → Task β),
        (setStatus environment task .runningGet .runningSet .running none >>= fun _ =>
          onSession (Session.execute sessionExceptions []
            (environment.deliveries .policySelect)) >>= next) (World.start redis) =
          .error exn world := by
  have hstatus := setStatus_keeps environment task (World.start redis) .runningGet .runningSet
    .running none
  generalize hstep : setStatus environment task .runningGet .runningSet .running none
    (World.start redis) = answer at hstatus
  cases hstatus with
  | @raises exn after _ hsession =>
      refine ⟨exn, after, ?_, ?_, fun next => bind_error hstep⟩
      · rw [hsession]
        rfl
      · rw [hsession]
        rfl
  | @answers after hstored hsession =>
      have hopen : after.session.broken = false := by
        rw [hsession]
        rfl
      cases hselect : environment.deliveries .policySelect with
      | completes => exact absurd ⟨hstored.1, hstored.2, hselect⟩ h
      | raises exn applied =>
          refine ⟨exn, { after with session := (after.session.execute sessionExceptions []
            (.raises exn applied)).1 }, ?_, ?_, fun next => ?_⟩
          · rw [Session.committed_execute, hsession]
            rfl
          · rw [Session.pending_execute_nil, hsession]
            rfl
          · rw [bind_ok hstep]
            exact bind_error (onSession_error (Session.execute_outcome hopen))

/-- A run from its retry loop on. -/
private theorem kept_fetched {world : World} {rest : FetchResult → Task Unit}
    (hsession : world.session = {})
    (hrest : ∀ fetched, Carries context environment task (CompletedKeeps environment)
      (rest fetched)) :
    kept context environment task
        ((fetchStep environment >>= fun fetched =>
          archiveStep context environment (normalizeResult context fetched).1 >>= fun _ =>
            rest fetched) world) =
      carried (ReportsKept context environment) (environment.leaves {}) := by
  cases hfetch : environment.fetch with
  | error exn =>
      have hkeeps : ReportsKept context environment ↔ HandlerCommits environment := by
        constructor
        · rintro (⟨-, hcommits⟩ | ⟨hother, -⟩ | ⟨hother, -⟩)
          · exact hcommits
          · rw [hfetch] at hother
            cases hother
          · rw [hfetch] at hother
            cases hother
        · exact .failed hfetch
      rw [bind_error (by unfold fetchStep; rw [hfetch]), kept_error, hkeeps, hsession]
  | ok fetched =>
      have harchive := @carries_archiveStep context environment task (rest fetched) fetched
        (normalizeResult context fetched).1 hfetch rfl (hrest fetched)
      rw [bind_ok (by unfold fetchStep; rw [hfetch]), harchive, hsession]

private theorem kept_body (h : Fetches environment) :
    kept context environment task (body context environment task (World.start redis)) =
      carried (ReportsKept context environment) (environment.leaves {}) := by
  obtain ⟨world, hsession, hstart⟩ := start_fetches h task redis
  unfold body prepare
  simp only [bind_assoc, pure_bind]
  rw [hstart, kept_fetched hsession fun fetched => carries_account (_, _)]

theorem madeReports_fetches (h : Fetches environment) :
    madeReports environment task redis = environment.fetchReports := by
  obtain ⟨world, hsession, hstart⟩ := start_fetches h task redis
  have hpending :
      (finalWorld ((fetchStep environment >>= fun _ => pure ()) world)).session.pending =
        environment.fetchReports.map .proxyReport := by
    cases hfetch : environment.fetch with
    | ok fetched =>
        rw [bind_ok (by unfold fetchStep; rw [hfetch]), hsession]
        rfl
    | error exn =>
        rw [bind_error (by unfold fetchStep; rw [hfetch]), hsession]
        rfl
  unfold madeReports
  dsimp only
  rw [hstart, hpending, reported_made]

theorem madeReports_raises (h : ¬ Fetches environment) :
    madeReports environment task redis = [] := by
  obtain ⟨exn, world, -, hpending, hstart⟩ := start_raises h task redis
  unfold madeReports
  dsimp only
  rw [hstart]
  show reported world.session.pending = []
  rw [hpending]
  rfl

theorem reportsSurvive_iff_kept : ReportsSurvive context environment task redis ↔
    (madeReports environment task redis).Sublist
      (kept context environment task (body context environment task (World.start redis))) := by
  unfold ReportsSurvive kept
  rw [finalWorld_fetchTask]
  rfl

end Run

/-- The reports of a job are committed exactly if none was made, or the retry loop left the
session taking statements and the first commit behind it takes effect. -/
theorem reports_survive_iff (context : Context) (environment : Environment) (task : FetchTask)
    (redis : Redis FetchResultSchema) :
    ReportsSurvive context environment task redis ↔
      (Fetches environment → environment.fetchReports ≠ [] →
        environment.fetchBreaksSession = false ∧ ReportsKept context environment) := by
  rw [reportsSurvive_iff_kept]
  by_cases hfetches : Fetches environment
  · rw [madeReports_fetches hfetches, kept_body hfetches]
    by_cases hkept : environment.fetchBreaksSession = false ∧ ReportsKept context environment
    · have hopen : (environment.leaves {}).broken = false := hkept.1
      rw [carried_kept hkept.2, waiting_open hopen]
      show environment.fetchReports.Sublist
        ([] ++ reported (environment.fetchReports.map .proxyReport)) ↔ _
      rw [reported_made]
      exact iff_of_true (List.sublist_append_right _ _) fun _ _ => hkept
    · rw [carried_lost hkept]
      show environment.fetchReports.Sublist [] ↔ _
      rw [List.sublist_nil]
      constructor
      · exact fun hnone _ hsome => absurd hnone hsome
      · exact fun h => Classical.not_not.mp fun hsome => hkept (h hfetches hsome)
  · rw [madeReports_raises hfetches]
    exact iff_of_true (List.nil_sublist _) fun h => absurd h hfetches

def learnerFails : Environment where
  deliveries site :=
    if site = .learnerSelect then .raises (.exception "lock timeout") false else .completes
  now _ := 1000
  month := 0
  policy := some { id := 1, domain := "a.example" }
  lockedRow := some { id := 1, domain := "a.example" }
  fetch := .ok { url := "https://a.example/", statusCode := 403, blocked := true }
  fetchReports := [{
    proxyId := 7
    domain := "a.example"
    success := false
    reason := some "block"
    responseTimeMs := some 120
    engine := .httpx }]

/-- Everything else completes, and the report of the failure is gone. -/
theorem learner_drops_report :
    ¬ ReportsSurvive plainContext learnerFails plainTask Redis.empty := by
  unfold ReportsSurvive
  decide

end CrawlerApi.Worker
