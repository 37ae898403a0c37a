import CrawlerApi.Worker.Task

/-!
# Terminal job states

The learner and the usage counter run after the write of the completed status,
in the try block whose handlers write `failed`.  So the completed status is final
exactly when nothing comes out of the awaits from that write on, or the handler's
own write does not land.  Every callback carries the status that is stored.
-/

namespace CrawlerApi.Worker

open Keys Fetch Jobs Foundation

/-- No later write changes a status that was completed, or drops its result. -/
def CompletedIsFinal (writes : List (StatusData FetchResultSchema)) : Prop :=
  ∀ before write after, writes = before ++ write :: after →
    write.status = .completed → write.result ≠ none →
      ∀ later ∈ after, later.status = write.status ∧ later.result = write.result

/-- Every callback carries the status the job is left with. -/
def CallbacksMatch (jobId : String) (world : World) : Prop :=
  ∀ callback ∈ world.callbacks,
    ∃ stored, world.redis.jobStatus jobId = some stored ∧ callback.status = stored.status

/-- A job that starts: a new session, nothing written and nothing scheduled. -/
def World.start (redis : Redis FetchResultSchema) : World where
  redis := redis
  session := {}

inductive UsageRaises (environment : Environment) (execute commit : Site) : Bool → Prop where
  | execute : (environment.deliveries execute).outcome = .error .cancelled →
      UsageRaises environment execute commit false
  | commit : environment.deliveries execute = .completes →
      (environment.deliveries commit).outcome = .error .cancelled →
      UsageRaises environment execute commit false

/-- The session the usage counter gets waits for a rollback: without a policy nothing
rolls it back. -/
def brokenForUsage (environment : Environment) : Bool :=
  environment.policy.isNone && environment.fetchBreaksSession

structure LeftByFetch (environment : Environment) (session : JobSession) : Prop where
  broken : session.broken = environment.fetchBreaksSession
  expired : session.expired = (environment.fetchBreaksSession && environment.fetchExpiresSession)

inductive AccountRaises (environment : Environment) : Prop where
  | learner : environment.policy ≠ none →
      (learnerDeliveries environment).Raises environment.lockedRow environment.fetchBreaksSession
        (environment.fetchBreaksSession && environment.fetchExpiresSession) →
      AccountRaises environment
  | usage : UsageRaises environment .usageExecute .usageCommit (brokenForUsage environment) →
      AccountRaises environment

structure Archives (environment : Environment) : Prop where
  select : environment.deliveries .archiveSelect = .completes
  upload : environment.rotates = true →
    (environment.deliveries .archiveUpload).outcome ≠ .error .cancelled
  commit : environment.deliveries .archiveCommit = .completes
  refresh : environment.deliveries .archiveRefresh = .completes

structure Prepares (context : Context) (environment : Environment) : Prop where
  runningGet : environment.deliveries .runningGet = .completes
  runningSet : environment.deliveries .runningSet = .completes
  policySelect : environment.deliveries .policySelect = .completes
  fetch : ∃ result, environment.fetch = .ok result ∧
    (result.blocked = false ∧ context.hasWarcStorage = true →
      environment.fetchBreaksSession = false ∧ Archives environment)

structure Publishes (context : Context) (environment : Environment) : Prop
    extends Prepares context environment where
  completedGet : environment.deliveries .completedGet = .completes
  completedSet : (environment.deliveries .completedSet).Applied

structure FailedLands (environment : Environment) : Prop where
  get : environment.deliveries .errorGet = .completes
  set : (environment.deliveries .errorStatusSet).Applied

/-- A completed status was published, an exception comes out of the try block all
the same, and its handler's write takes effect. -/
structure Overwrites (context : Context) (environment : Environment) : Prop where
  publishes : Publishes context environment
  interrupted : environment.deliveries .completedSet ≠ .completes ∨ AccountRaises environment
  lands : FailedLands environment

/-- A status is written as a whole or not at all, and the run goes on only if both
awaits complete. -/
inductive SetStatusEnds (get set : Delivery Exn) (world written : World) :
    EStateM.Result Exn World Unit → Prop where
  | completes : get = .completes → set = .completes →
      SetStatusEnds get set world written (.ok () written)
  | raisesAfter {exn : Exn} : get = .completes → set = .raises exn true →
      SetStatusEnds get set world written (.error exn written)
  | raisesBefore {exn : Exn} : ¬ (get = .completes ∧ set.Applied) →
      SetStatusEnds get set world written (.error exn world)

section Steps

variable {context : Context} {environment : Environment} {task : FetchTask} {world middle : World}
  {exn : Exn} {session : JobSession}

@[simp] theorem statusWrites_writeStatus (jobId : String) (data : StatusData FetchResultSchema) :
    (world.writeStatus jobId data).statusWrites = world.statusWrites ++ [data] := rfl

@[simp] theorem callbacks_writeStatus (jobId : String) (data : StatusData FetchResultSchema) :
    (world.writeStatus jobId data).callbacks = world.callbacks := rfl

theorem jobStatus_writeStatus (jobId : String) (data : StatusData FetchResultSchema) :
    (world.writeStatus jobId data).redis.jobStatus jobId = some data := if_pos rfl

theorem bind_ok {step : Task α} {next : α → Task β} {a : α} (h : step world = .ok a middle) :
    (step >>= next) world = next a middle := by
  show EStateM.bind step next world = _
  rw [EStateM.bind, h]

theorem bind_error {step : Task α} {next : α → Task β} (h : step world = .error exn middle) :
    (step >>= next) world = .error exn middle := by
  show EStateM.bind step next world = _
  rw [EStateM.bind, h]

theorem bind_eq_ok {step : Task α} {next : α → Task β} {b : β} {final : World}
    (h : (step >>= next) world = .ok b final) :
    ∃ a middle, step world = .ok a middle ∧ next a middle = .ok b final := by
  cases hstep : step world with
  | ok a middle =>
      rw [bind_ok hstep] at h
      exact ⟨a, middle, rfl, h⟩
  | error exn middle =>
      rw [bind_error hstep] at h
      cases h

theorem onSession_ok {step : JobSession → JobSession × Except Exn Unit}
    (h : (step world.session).2 = .ok ()) :
    onSession step world = .ok () { world with session := (step world.session).1 } := by
  simp only [onSession, h]

theorem onSession_error {step : JobSession → JobSession × Except Exn Unit}
    (h : (step world.session).2 = .error exn) :
    onSession step world = .error exn { world with session := (step world.session).1 } := by
  simp only [onSession, h]

theorem awaiting_completes {site : Site} {change : World → World}
    (h : environment.deliveries site = .completes) :
    awaiting environment site change world = .ok () (change world) := by
  simp only [awaiting, h, Delivery.outcome, Delivery.effect]

theorem awaiting_raises {site : Site} {change : World → World} {applied : Bool}
    (h : environment.deliveries site = .raises exn applied) :
    awaiting environment site change world =
      .error exn (if applied then change world else world) := by
  simp only [awaiting, h, Delivery.outcome, Delivery.effect]

theorem setStatus_ends (environment : Environment) (task : FetchTask) (world : World)
    (get set : Site) (status : JobStatus) (result : Option FetchResultSchema) :
    SetStatusEnds (environment.deliveries get) (environment.deliveries set) world
      (world.writeStatus task.jobId
        (statusPayload task world status (environment.now get) result))
      (setStatus environment task get set status result world) := by
  unfold setStatus
  cases hget : environment.deliveries get with
  | raises exn applied =>
      rw [bind_error (awaiting_raises hget)]
      simp only [id_eq, ite_self]
      exact .raisesBefore nofun
  | completes =>
      rw [bind_ok (awaiting_completes hget)]
      show SetStatusEnds _ _ _ _ (awaiting environment set _ world)
      cases hset : environment.deliveries set with
      | completes =>
          rw [awaiting_completes hset]
          exact .completes rfl rfl
      | raises exn applied =>
          rw [awaiting_raises hset]
          cases applied with
          | true => exact .raisesAfter rfl rfl
          | false => exact .raisesBefore fun h => nomatch h.2

theorem scheduleCallback_ends (context : Context) (task : FetchTask) (status : JobStatus)
    (result : Option FetchResultSchema) (error : Option String) (world : World) :
    ∃ scheduled : List CallbackPayload, (∀ callback ∈ scheduled, callback.status = status) ∧
      scheduleCallback context task status result error world =
        .ok () { world with callbacks := world.callbacks ++ scheduled } := by
  unfold scheduleCallback
  split
  · exact ⟨[_], by simp, rfl⟩
  · refine ⟨[], by simp, ?_⟩
    rw [List.append_nil]
    rfl

theorem swallow_ok {answer : JobSession × Except Exn Unit} (h : answer.2 ≠ .error .cancelled) :
    (swallow answer).2 = .ok () := by
  unfold swallow
  split
  · rename_i heq
    exact absurd heq h
  · rfl

theorem swallow_cancelled {answer : JobSession × Except Exn Unit}
    (h : answer.2 = .error .cancelled) : (swallow answer).2 = .error .cancelled := by
  unfold swallow
  rw [h]
  exact h

theorem upsertUsage_cases (execute commit : Site) (bodyBytes : Nat) :
    (¬ UsageRaises environment execute commit session.broken ∧
      (upsertUsage environment task execute commit bodyBytes session).2 = .ok ()) ∨
    (UsageRaises environment execute commit session.broken ∧
      (upsertUsage environment task execute commit bodyBytes session).2 = .error .cancelled) := by
  cases hbroken : session.broken with
  | true =>
      refine .inl ⟨nofun, swallow_ok ?_⟩
      rw [Session.execute_of_broken hbroken]
      exact nofun
  | false =>
      unfold upsertUsage
      dsimp only
      split
      · rename_i other hother
        rw [Session.execute_outcome hbroken] at hother
        by_cases hcancelled : other = .cancelled
        · subst hcancelled
          exact .inr ⟨.execute hother, swallow_cancelled rfl⟩
        · refine .inl ⟨?_, swallow_ok fun h => hcancelled (Except.error.inj h)⟩
          rintro (hexecute | ⟨hexecute, -⟩)
          · rw [hexecute] at hother
            exact hcancelled (Except.error.inj hother).symm
          · simp [hexecute] at hother
      · rename_i hok
        have hopen := Session.broken_execute_of_ok hok
        rw [Session.execute_outcome hbroken, Delivery.outcome_eq_ok] at hok
        by_cases hcancelled : (environment.deliveries commit).outcome = .error .cancelled
        · refine .inr ⟨.commit hok hcancelled, swallow_cancelled ?_⟩
          rw [Session.commit_outcome hopen, hcancelled]
        · refine .inl ⟨?_, swallow_ok ?_⟩
          · rintro (hexecute | ⟨-, hcommit⟩)
            · simp [hok] at hexecute
            · exact hcancelled hcommit
          · rwa [Session.commit_outcome hopen]

/-- The archive call answers well exactly if the session takes statements and none of
its awaits lets it down. -/
theorem archive_settles (url : String) (body : Bytes) :
    Settles (¬ (session.broken = false ∧ Archives environment))
      (archive context environment url body session) := by
  unfold archive
  dsimp only
  split_ifs with hselect hupload
  · refine .raises ?_ hselect
    rintro ⟨hbroken, harchives⟩
    rw [Session.execute_outcome hbroken, harchives.select] at hselect
    cases hselect
  · exact .raises (fun h => h.2.upload hupload.1 hupload.2) hupload.2
  · split
    · rename_i exn hexn
      refine .raises ?_ rfl
      rintro ⟨hbroken, harchives⟩
      have hopen : ((session.execute sessionExceptions []
          (environment.deliveries .archiveSelect)).1.add
            (.warcIndex url (context.codecs.sha256 body) environment.isRevisit)).broken = false :=
        Session.broken_execute_of_ok (Session.execute_ok_iff.mpr ⟨hbroken, harchives.select⟩)
      rw [Session.commit_outcome hopen, harchives.commit] at hexn
      cases hexn
    · rename_i hcommit
      have hopen := Session.broken_commit_of_ok hcommit
      rw [Session.commit_ok_iff] at hcommit
      have hlooked := Session.execute_ok_of_open hcommit.1 fun exn hexn => by
        rw [of_decide_eq_true hexn]
        exact hselect
      rw [Session.execute_ok_iff] at hlooked
      generalize Session.commit sessionExceptions _ _ = committed at hopen ⊢
      cases hdone : (committed.1.execute sessionExceptions []
          (environment.deliveries .archiveRefresh)).2 with
      | ok =>
          refine .answers ?_ hdone (Session.broken_execute_of_ok hdone)
          exact not_not.mpr ⟨hlooked.1, hlooked.2, fun h => not_and.mp hupload h, hcommit.2,
            (Session.execute_ok_iff.mp hdone).2⟩
      | error exn =>
          refine .raises (fun h => ?_) hdone
          rw [Session.execute_ok_iff.mpr ⟨hopen, h.2.refresh⟩] at hdone
          cases hdone

/-- A step that leaves everything but the session as it was, and raises or leaves a
session that `keeps` tells. -/
inductive SessionEnds (raises : Prop) (keeps : JobSession → Prop) (world : World) :
    EStateM.Result Exn World Unit → Prop where
  | answers (session : JobSession) : ¬ raises → keeps session →
      SessionEnds raises keeps world (.ok () { world with session := session })
  | raises {exn : Exn} (session : JobSession) : raises →
      SessionEnds raises keeps world (.error exn { world with session := session })

theorem onSession_ends {raises : Prop} {step : JobSession → JobSession × Except Exn Unit}
    (h : Settles raises (step world.session)) :
    SessionEnds raises (fun session => session.broken = false) world (onSession step world) := by
  cases h with
  | answers hnot hanswer hopen =>
      rw [onSession_ok hanswer]
      exact .answers _ hnot hopen
  | raises hraises hanswer =>
      rw [onSession_error hanswer]
      exact .raises _ hraises

theorem SessionEnds.congr {raises other : Prop} {keeps kept : JobSession → Prop}
    {result : EStateM.Result Exn World Unit} (h : SessionEnds raises keeps world result)
    (hraises : raises ↔ other) (hkeeps : ∀ session, ¬ other → keeps session → kept session) :
    SessionEnds other kept world result := by
  cases h with
  | answers session hnot hkeep =>
      have hnot : ¬ other := fun h => hnot (hraises.mpr h)
      exact .answers session hnot (hkeeps session hnot hkeep)
  | raises session h => exact .raises session (hraises.mp h)

theorem archiveStep_ends (result : FetchResult) (hleft : LeftByFetch environment world.session) :
    SessionEnds
      (¬ (result.blocked = false ∧ context.hasWarcStorage = true →
        environment.fetchBreaksSession = false ∧ Archives environment))
      (LeftByFetch environment) world (archiveStep context environment result world) := by
  unfold archiveStep
  split
  · rename_i harchived
    rw [Bool.not_eq_true] at harchived
    refine (onSession_ends (archive_settles _ _)).congr ?_ fun session hnot hopen => ?_
    · rw [hleft.broken]
      exact ⟨fun h hall => h (hall harchived), fun h hall => h fun _ => hall⟩
    · have hfetch : environment.fetchBreaksSession = false := (not_not.mp hnot harchived).1
      refine ⟨hopen.trans hfetch.symm, ?_⟩
      rw [Session.expired_of_open hopen, hfetch, Bool.false_and]
  · rename_i hkept
    exact .answers world.session (not_not.mpr fun h => absurd ⟨by simp [h.1], h.2⟩ hkept) hleft

private theorem usage_ends (result : FetchResult)
    (hbroken : world.session.broken = brokenForUsage environment)
    (hlearner : environment.policy ≠ none →
      ¬ (learnerDeliveries environment).Raises environment.lockedRow
        environment.fetchBreaksSession
        (environment.fetchBreaksSession && environment.fetchExpiresSession)) :
    SessionEnds (AccountRaises environment) (fun _ => True) world
      (onSession (upsertUsage environment task .usageExecute .usageCommit result.body.length)
        world) := by
  rcases upsertUsage_cases .usageExecute .usageCommit result.body.length with
    ⟨hnot, hanswer⟩ | ⟨hraises, hanswer⟩
  · rw [onSession_ok hanswer]
    refine .answers _ ?_ trivial
    rintro (⟨hpolicy, hraises⟩ | hraises)
    · exact hlearner hpolicy hraises
    · exact hnot (hbroken ▸ hraises)
  · rw [onSession_error hanswer]
    exact .raises _ (.usage (hbroken ▸ hraises))

private theorem SessionEnds.of_session {raises : Prop} {keeps : JobSession → Prop}
    {result : EStateM.Result Exn World Unit}
    (h : SessionEnds raises keeps { world with session := session } result) :
    SessionEnds raises keeps world result := by
  cases h with
  | answers session hnot hkeeps => exact .answers session hnot hkeeps
  | raises session hraises => exact .raises session hraises

theorem account_ends (result : FetchResult) (hleft : LeftByFetch environment world.session) :
    SessionEnds (AccountRaises environment) (fun _ => True) world
      (account context environment task result world) := by
  unfold account
  cases hpolicy : environment.policy with
  | none =>
      rw [bind_ok (onSession_ok rfl)]
      refine (usage_ends result ?_ fun h => absurd hpolicy h).of_session
      simp [recordOutcome, brokenForUsage, hpolicy, hleft.broken]
  | some policy =>
      have hsome : environment.policy ≠ none := by simp [hpolicy]
      have hsettles := recordOutcome_settles context.text (learnerDeliveries environment)
        environment.lockedRow (environment.now .learnerSelect) result policy world.session
      rw [hleft.broken, hleft.expired] at hsettles
      cases hsettles with
      | answers hnot hanswer hopen =>
          rw [bind_ok (onSession_ok hanswer)]
          refine (usage_ends result ?_ fun _ => hnot).of_session
          simpa [brokenForUsage, hpolicy] using hopen
      | raises hraises hanswer =>
          rw [bind_error (onSession_error hanswer)]
          exact .raises _ (.learner hsome hraises)

/-- Up to the write of the completed status only `running` is written, and nothing is
scheduled. -/
inductive PrepareEnds (context : Context) (environment : Environment) (world started : World) :
    EStateM.Result Exn World (FetchResult × FetchResultSchema) → Prop where
  | ready {prepared : FetchResult × FetchResultSchema} {session : JobSession} :
      Prepares context environment → LeftByFetch environment session →
      PrepareEnds context environment world started
        (.ok prepared { started with session := session })
  | notStarted {exn : Exn} : ¬ Prepares context environment →
      PrepareEnds context environment world started (.error exn world)
  | raises {exn : Exn} (session : JobSession) : ¬ Prepares context environment →
      PrepareEnds context environment world started
        (.error exn { started with session := session })

def started (environment : Environment) (task : FetchTask) (world : World) : World :=
  world.writeStatus task.jobId
    (statusPayload task world .running (environment.now .runningGet) none)

private theorem finish_ends {begun : World} {fetched result : FetchResult}
    {prepared : FetchResult × FetchResultSchema}
    (hget : environment.deliveries .runningGet = .completes)
    (hset : environment.deliveries .runningSet = .completes)
    (hselect : environment.deliveries .policySelect = .completes)
    (hfetch : environment.fetch = .ok fetched) (hblocked : result.blocked = fetched.blocked)
    (hleft : LeftByFetch environment session) :
    PrepareEnds context environment world begun
      ((archiveStep context environment result >>= fun _ => pure prepared)
        { begun with session := session }) := by
  have hends : SessionEnds _ _ _
      (archiveStep context environment result { begun with session := session }) :=
    archiveStep_ends result hleft
  generalize hstep : archiveStep context environment result { begun with session := session } =
    answer at hends
  cases hends with
  | answers session hnot hkeeps =>
      rw [bind_ok hstep]
      exact .ready ⟨hget, hset, hselect, fetched, hfetch, hblocked ▸ not_not.mp hnot⟩ hkeeps
  | raises session hraises =>
      rw [bind_error hstep]
      refine .raises _ fun h => hraises ?_
      obtain ⟨other, hother, harchives⟩ := h.fetch
      rw [hfetch] at hother
      cases hother
      rwa [hblocked]

theorem prepare_ends (hopen : world.session.broken = false) :
    PrepareEnds context environment world (started environment task world)
      (prepare context environment task world) := by
  have hset := setStatus_ends environment task world .runningGet .runningSet .running none
  unfold prepare
  generalize hstep : setStatus environment task .runningGet .runningSet .running none world =
    result at hset
  cases hset with
  | raisesAfter hget hraises =>
      rw [bind_error hstep]
      refine .raises _ fun h => ?_
      rw [h.runningSet] at hraises
      cases hraises
  | raisesBefore hnot =>
      rw [bind_error hstep]
      refine .notStarted fun h => hnot ⟨h.runningGet, ?_⟩
      rw [h.runningSet]
      trivial
  | completes hget hset =>
      replace hstep : setStatus environment task .runningGet .runningSet .running none world =
        .ok () (started environment task world) := hstep
      rw [bind_ok hstep]
      replace hopen : (started environment task world).session.broken = false := hopen
      cases hselect : environment.deliveries .policySelect with
      | raises exn applied =>
          rw [bind_error (onSession_error (Session.execute_outcome hopen))]
          refine .raises _ fun h => ?_
          rw [h.policySelect] at hselect
          cases hselect
      | completes =>
          rw [bind_ok (onSession_ok (Session.execute_ok_iff.mpr ⟨hopen, rfl⟩))]
          cases hfetch : environment.fetch with
          | error exn =>
              rw [bind_error (by unfold fetchStep; rw [hfetch])]
              refine .raises _ fun h => ?_
              obtain ⟨result, hresult, -⟩ := h.fetch
              rw [hresult] at hfetch
              cases hfetch
          | ok fetched =>
              rw [bind_ok (by unfold fetchStep; rw [hfetch])]
              exact finish_ends hget hset hselect hfetch rfl ⟨rfl, rfl⟩

theorem prepare_eq_ok {prepared : FetchResult × FetchResultSchema} {after : World}
    (h : prepare context environment task world = .ok prepared after) :
    ∃ fetched, environment.fetch = .ok fetched ∧
      prepared = ((normalizeResult context fetched).1,
        .fromResult context.text (normalizeResult context fetched).1
          (normalizeResult context fetched).2) := by
  unfold prepare at h
  obtain ⟨_, running, -, h⟩ := bind_eq_ok h
  obtain ⟨_, selected, -, h⟩ := bind_eq_ok h
  obtain ⟨fetched, _, hfetch, h⟩ := bind_eq_ok h
  obtain ⟨_, archived, -, h⟩ := bind_eq_ok h
  cases h
  refine ⟨fetched, ?_, rfl⟩
  unfold fetchStep at hfetch
  cases hresult : environment.fetch with
  | ok result =>
      rw [hresult] at hfetch
      cases hfetch
      rfl
  | error exn =>
      rw [hresult] at hfetch
      cases hfetch

/-- The try block comes to nothing before the completed status, or raises behind it, or
ends with it stored. -/
inductive BodyEnds (context : Context) (environment : Environment) (jobId : String) :
    EStateM.Result Exn World Unit → Prop where
  | early {exn : Exn} {final : World} : ¬ Publishes context environment →
      (∀ write ∈ final.statusWrites, write.status ≠ .completed) → final.callbacks = [] →
      BodyEnds context environment jobId (.error exn final)
  | interrupted {exn : Exn} {final : World} {running completed : StatusData FetchResultSchema} :
      Publishes context environment →
      (environment.deliveries .completedSet ≠ .completes ∨ AccountRaises environment) →
      final.statusWrites = [running, completed] → running.status ≠ .completed →
      completed.status = .completed → completed.result ≠ none → final.callbacks = [] →
      BodyEnds context environment jobId (.error exn final)
  | done {final : World} {running completed : StatusData FetchResultSchema} :
      ¬ (environment.deliveries .completedSet ≠ .completes ∨ AccountRaises environment) →
      final.statusWrites = [running, completed] → running.status ≠ .completed →
      final.redis.jobStatus jobId = some completed →
      (∀ callback ∈ final.callbacks, callback.status = completed.status) →
      BodyEnds context environment jobId (.ok () final)

private theorem publish_ends {redis : Redis FetchResultSchema}
    {prepared : FetchResult × FetchResultSchema} (hprepares : Prepares context environment)
    (hleft : LeftByFetch environment session) :
    BodyEnds context environment task.jobId
      ((setStatus environment task .completedGet .completedSet .completed (some prepared.2) >>=
          fun _ => account context environment task prepared.1 >>=
          fun _ => scheduleCallback context task .completed (some prepared.2) none)
        { started environment task (World.start redis) with session := session }) := by
  generalize hworld : ({ started environment task (World.start redis) with session := session } :
    World) = world
  have hwrites : ∃ running, running.status = .running ∧ world.statusWrites = [running] :=
    ⟨_, rfl, by rw [← hworld]; rfl⟩
  have hcallbacks : world.callbacks = [] := by rw [← hworld]; rfl
  have hsession : LeftByFetch environment world.session := by
    rw [← hworld]
    exact hleft
  clear hworld
  obtain ⟨running, hrunning, hwrites⟩ := hwrites
  obtain ⟨payload, hcompleted, hresult, hset⟩ : ∃ payload : StatusData FetchResultSchema,
      payload.status = .completed ∧ payload.result ≠ none ∧
        SetStatusEnds _ _ world (world.writeStatus task.jobId payload)
          (setStatus environment task .completedGet .completedSet .completed (some prepared.2)
            world) :=
    ⟨_, rfl, Option.some_ne_none _, setStatus_ends ..⟩
  generalize hstep : setStatus environment task .completedGet .completedSet .completed
    (some prepared.2) world = answer at hset
  have hboth : (world.writeStatus task.jobId payload).statusWrites = [running, payload] := by
    simp [hwrites]
  have hfirst : running.status ≠ .completed := by simp [hrunning]
  cases hset with
  | raisesBefore hnot =>
      rw [bind_error hstep]
      refine .early (fun h => hnot ⟨h.completedGet, h.completedSet⟩) ?_ hcallbacks
      simp [hwrites, hrunning]
  | raisesAfter hget hraises =>
      rw [bind_error hstep]
      refine .interrupted ⟨hprepares, hget, by rw [hraises]; rfl⟩ (.inl ?_) hboth hfirst hcompleted
        hresult hcallbacks
      rw [hraises]
      exact nofun
  | completes hget hset =>
      rw [bind_ok hstep]
      have hends : SessionEnds _ _ _ (account context environment task prepared.1
          (world.writeStatus task.jobId payload)) := account_ends prepared.1 hsession
      generalize haccount : account context environment task prepared.1
        (world.writeStatus task.jobId payload) = answer at hends
      cases hends with
      | raises session hraises =>
          rw [bind_error haccount]
          exact .interrupted ⟨hprepares, hget, by rw [hset]; trivial⟩ (.inr hraises) hboth hfirst
            hcompleted hresult hcallbacks
      | answers session hnot hkeeps =>
          rw [bind_ok haccount]
          have hquiet : ¬ (environment.deliveries .completedSet ≠ .completes ∨
              AccountRaises environment) := not_or.mpr ⟨not_not.mpr hset, hnot⟩
          obtain ⟨scheduled, hscheduled, hstep⟩ := scheduleCallback_ends context task .completed
            (some prepared.2) none { world.writeStatus task.jobId payload with session := session }
          rw [hstep]
          refine .done hquiet hboth hfirst (jobStatus_writeStatus ..) fun callback hcallback => ?_
          rw [callbacks_writeStatus, hcallbacks, List.nil_append] at hcallback
          rw [hscheduled callback hcallback, hcompleted]

theorem body_ends (context : Context) (environment : Environment) (task : FetchTask)
    (redis : Redis FetchResultSchema) :
    BodyEnds context environment task.jobId
      (body context environment task (World.start redis)) := by
  have hprepared : PrepareEnds context environment (World.start redis) _
    (prepare context environment task (World.start redis)) := prepare_ends rfl
  unfold body
  generalize hstep : prepare context environment task (World.start redis) = answer at hprepared
  cases hprepared with
  | notStarted hnot =>
      rw [bind_error hstep]
      exact .early (fun h => hnot h.toPrepares) (by simp [World.start]) rfl
  | raises session hnot =>
      rw [bind_error hstep]
      refine .early (fun h => hnot h.toPrepares) (fun write hwrite => ?_) rfl
      rw [List.mem_singleton.mp hwrite]
      intro hcompleted
      cases hcompleted
  | ready hprepares hleft =>
      rw [bind_ok hstep]
      exact publish_ends hprepares hleft

inductive HandlerEnds (environment : Environment) (jobId : String) (world : World) :
    World → Prop where
  | lands {final : World} {failed : StatusData FetchResultSchema} : FailedLands environment →
      final.statusWrites = world.statusWrites ++ [failed] → failed.status = .failed →
      final.redis.jobStatus jobId = some failed →
      (∀ callback ∈ final.callbacks, callback ∈ world.callbacks ∨ callback.status = .failed) →
      HandlerEnds environment jobId world final
  | misses {final : World} : ¬ FailedLands environment →
      final.statusWrites = world.statusWrites → final.callbacks = world.callbacks →
      HandlerEnds environment jobId world final

private theorem finalWorld_rethrow :
    finalWorld ((if exn = .cancelled then throw exn else pure () : Task Unit) world) = world := by
  split <;> rfl

private theorem afterError_ends {error : String} {failed : StatusData FetchResultSchema}
    {recorded : World} (exn : Exn) (hlands : FailedLands environment)
    (hwrites : recorded.statusWrites = world.statusWrites ++ [failed])
    (hfailed : failed.status = .failed)
    (hstored : recorded.redis.jobStatus task.jobId = some failed)
    (hcallbacks : recorded.callbacks = world.callbacks) :
    HandlerEnds environment task.jobId world (finalWorld
      ((onSession (upsertUsage environment task .handlerUsageExecute .handlerUsageCommit 0) >>=
        fun _ => scheduleCallback context task .failed none (some error) >>=
        fun _ => if exn = .cancelled then throw exn else pure ()) recorded)) := by
  rcases upsertUsage_cases .handlerUsageExecute .handlerUsageCommit 0 with
    ⟨-, hanswer⟩ | ⟨-, hanswer⟩
  · rw [bind_ok (onSession_ok hanswer)]
    obtain ⟨scheduled, hscheduled, hstep⟩ := scheduleCallback_ends context task .failed none
      (some error) { recorded with session := (upsertUsage environment task .handlerUsageExecute
        .handlerUsageCommit 0 recorded.session).1 }
    rw [bind_ok hstep, finalWorld_rethrow]
    refine .lands hlands hwrites hfailed hstored fun callback hcallback => ?_
    rcases List.mem_append.mp hcallback with hbefore | hafter
    · exact .inl (hcallbacks ▸ hbefore)
    · exact .inr (hscheduled callback hafter)
  · rw [bind_error (onSession_error hanswer)]
    exact .lands hlands hwrites hfailed hstored fun callback hcallback =>
      .inl (hcallbacks ▸ hcallback)

theorem handler_ends (context : Context) (environment : Environment) (task : FetchTask)
    (exn : Exn) (world : World) :
    HandlerEnds environment task.jobId world
      (finalWorld (handler context environment task exn world)) := by
  unfold handler
  obtain ⟨failed, hfailed, hset⟩ : ∃ failed : StatusData FetchResultSchema,
      failed.status = .failed ∧
        SetStatusEnds _ _ world (world.writeStatus task.jobId failed)
          (setStatus environment task .errorGet .errorStatusSet .failed none world) :=
    ⟨_, rfl, setStatus_ends ..⟩
  generalize hstep : setStatus environment task .errorGet .errorStatusSet .failed none world =
    answer at hset
  cases hset with
  | raisesBefore hnot =>
      rw [bind_error (by rw [setError, bind_error hstep])]
      exact .misses (fun h => hnot ⟨h.get, h.set⟩) rfl rfl
  | raisesAfter hget hraises =>
      rw [bind_error (by rw [setError, bind_error hstep])]
      exact .lands ⟨hget, by rw [hraises]; rfl⟩ rfl hfailed (jobStatus_writeStatus ..)
        fun callback hcallback => .inl hcallback
  | completes hget hset =>
      have hlands : FailedLands environment := ⟨hget, by rw [hset]; trivial⟩
      cases herror : environment.deliveries .errorSet with
      | completes =>
          rw [bind_ok (by rw [setError, bind_ok hstep, awaiting_completes herror])]
          exact afterError_ends exn hlands rfl hfailed (jobStatus_writeStatus ..) rfl
      | raises other applied =>
          rw [bind_error (by rw [setError, bind_ok hstep, awaiting_raises herror])]
          cases applied <;>
            exact .lands hlands rfl hfailed (jobStatus_writeStatus ..)
              fun callback hcallback => .inl hcallback

@[simp] theorem statusWrites_closeSession (world : World) :
    world.closeSession.statusWrites = world.statusWrites := rfl

@[simp] theorem callbacksMatch_closeSession {jobId : String} :
    CallbacksMatch jobId world.closeSession ↔ CallbacksMatch jobId world := Iff.rfl

theorem finalWorld_fetchTask_ok {final : World}
    (h : body context environment task world = .ok () final) :
    finalWorld (fetchTask context environment task world) = final.closeSession := by
  have htry : tryCatch (body context environment task) (handler context environment task) world =
      .ok () final := by
    show EStateM.tryCatch _ _ world = _
    rw [EStateM.tryCatch, h]
  rw [fetchTask, htry]
  rfl

theorem finalWorld_fetchTask_error {final : World}
    (h : body context environment task world = .error exn final) :
    finalWorld (fetchTask context environment task world) =
      (finalWorld (handler context environment task exn final)).closeSession := by
  have htry : tryCatch (body context environment task) (handler context environment task) world =
      handler context environment task exn final := by
    show EStateM.tryCatch _ _ world = _
    rw [EStateM.tryCatch, h]
    rfl
  rw [fetchTask, htry]
  cases handler context environment task exn final <;> rfl

end Steps

theorem completedIsFinal_of_none {writes : List (StatusData FetchResultSchema)}
    (h : ∀ write ∈ writes, write.status ≠ .completed) : CompletedIsFinal writes := by
  rintro before write after rfl hcompleted
  exact absurd hcompleted (h write (by simp))

theorem completedIsFinal_concat {writes : List (StatusData FetchResultSchema)}
    {last : StatusData FetchResultSchema} (h : ∀ write ∈ writes, write.status ≠ .completed) :
    CompletedIsFinal (writes ++ [last]) := by
  intro before write after heq hcompleted _ later hlater
  rcases List.eq_nil_or_concat after with rfl | ⟨kept, final, rfl⟩
  · cases hlater
  · rw [List.concat_eq_append, ← List.cons_append, ← List.append_assoc] at heq
    obtain ⟨rfl, -⟩ := List.append_inj' heq rfl
    exact absurd hcompleted (h write (by simp))

section Handled

variable {environment : Environment} {jobId : String} {world final : World}

private theorem final_of_early (hends : HandlerEnds environment jobId world final)
    (hwrites : ∀ write ∈ world.statusWrites, write.status ≠ .completed)
    (hcallbacks : world.callbacks = []) :
    CompletedIsFinal final.statusWrites ∧ CallbacksMatch jobId final := by
  cases hends with
  | misses _ hkept hsame =>
      refine ⟨completedIsFinal_of_none (hkept ▸ hwrites), fun callback hcallback => ?_⟩
      rw [hsame, hcallbacks] at hcallback
      cases hcallback
  | lands _ hkept hfailed hstored hsame =>
      refine ⟨hkept ▸ completedIsFinal_concat hwrites, fun callback hcallback => ?_⟩
      rcases hsame callback hcallback with hbefore | hafter
      · rw [hcallbacks] at hbefore
        cases hbefore
      · exact ⟨_, hstored, hafter.trans hfailed.symm⟩

private theorem final_iff_misses {running completed : StatusData FetchResultSchema}
    (hends : HandlerEnds environment jobId world final)
    (hwrites : world.statusWrites = [running] ++ [completed])
    (hrunning : running.status ≠ .completed) (hcompleted : completed.status = .completed)
    (hresult : completed.result ≠ none) (hcallbacks : world.callbacks = []) :
    (CompletedIsFinal final.statusWrites ∧ CallbacksMatch jobId final) ↔
      ¬ FailedLands environment := by
  cases hends with
  | misses hmisses hkept hsame =>
      refine iff_of_true ⟨?_, fun callback hcallback => ?_⟩ hmisses
      · rw [hkept, hwrites]
        exact completedIsFinal_concat (by simpa using hrunning)
      · rw [hsame, hcallbacks] at hcallback
        cases hcallback
  | lands hlands hkept hfailed _ _ =>
      refine iff_of_false (fun h => ?_) (not_not.mpr hlands)
      have hlater := h.1 [running] completed [_] (by rw [hkept, hwrites]; rfl) hcompleted hresult _
        (List.mem_singleton.mpr rfl)
      rw [hfailed, hcompleted] at hlater
      cases hlater.1

end Handled

/-- The completed status is final exactly when nothing overwrites it, and the callbacks
always carry what is stored. -/
theorem completed_final_iff (context : Context) (environment : Environment) (task : FetchTask)
    (redis : Redis FetchResultSchema) :
    (CompletedIsFinal
        (finalWorld (fetchTask context environment task (World.start redis))).statusWrites ∧
      CallbacksMatch task.jobId
        (finalWorld (fetchTask context environment task (World.start redis)))) ↔
      ¬ Overwrites context environment := by
  have hbody := body_ends context environment task redis
  generalize hstep : body context environment task (World.start redis) = answer at hbody
  cases hbody with
  | done hquiet hwrites hrunning hstored hcallbacks =>
      rw [finalWorld_fetchTask_ok hstep, statusWrites_closeSession, callbacksMatch_closeSession]
      refine iff_of_true ⟨?_, fun callback hcallback => ⟨_, hstored, hcallbacks callback hcallback⟩⟩
        fun h => hquiet h.interrupted
      rw [hwrites]
      show CompletedIsFinal ([_] ++ [_])
      exact completedIsFinal_concat (by simpa using hrunning)
  | early hnot hwrites hcallbacks =>
      rw [finalWorld_fetchTask_error hstep, statusWrites_closeSession,
        callbacksMatch_closeSession]
      exact iff_of_true (final_of_early (handler_ends ..) hwrites hcallbacks)
        fun h => hnot h.publishes
  | interrupted hpublishes hinterrupted hwrites hrunning hcompleted hresult hcallbacks =>
      rw [finalWorld_fetchTask_error hstep, statusWrites_closeSession,
        callbacksMatch_closeSession]
      refine (final_iff_misses (handler_ends ..) hwrites hrunning hcompleted hresult
        hcallbacks).trans (not_congr ?_)
      exact ⟨fun h => ⟨hpublishes, hinterrupted, h⟩, fun h => h.lands⟩

/-- A worker shutdown while the usage counter is upserted: every other await completes. -/
def shutdownInUsage : Environment where
  deliveries site := if site = .usageExecute then .raises .cancelled false else .completes
  now _ := 1000
  month := 0
  policy := none
  lockedRow := none
  fetch := .ok { url := "https://a.example/", statusCode := 200 }

def plainContext : Context where
  text := asciiText
  codecs := {
    brotli := fun _ => .error "not brotli"
    gzip := .ok
    zlib := .ok
    rawDeflate := .ok
    zstandard := .ok
    sha256 := fun _ => "" }

def plainTask : FetchTask where
  jobId := "job-1"
  url := "https://a.example/"
  mode := .static
  apiKeyPrefix := "ck_live"
  applicationId := 1
  domain := "a.example"
  proxyPoolId := none
  callbackUrl := none
  options := []
  traceId := none

theorem shutdown_drops_result :
    ¬ (CompletedIsFinal
        (finalWorld (fetchTask plainContext shutdownInUsage plainTask
          (World.start Redis.empty))).statusWrites ∧
      CallbacksMatch plainTask.jobId
        (finalWorld (fetchTask plainContext shutdownInUsage plainTask
          (World.start Redis.empty)))) := by
  rintro ⟨h, -⟩
  have hlater := h [_] _ [_] rfl rfl (Option.some_ne_none _) _ (List.mem_singleton.mpr rfl)
  exact absurd hlater.1 (by decide)

end CrawlerApi.Worker
