import CrawlerApi.Worker.Metering
import Mathlib.Algebra.BigOperators.Ring.Finset
import Mathlib.Algebra.Order.BigOperators.Group.List
import Mathlib.Algebra.Order.Field.Rat
import Mathlib.Data.Rat.Floor
import Mathlib.Tactic.Linarith
import Mathlib.Tactic.Ring

/-!
# The two cost ledgers

`usage_counters` gets the cost of every body in whole cents, rounded up for each job.
`PROXY_COST_EUR_TOTAL` gets the exact cost of the proxied ones.  A failed upsert is
swallowed, and the metric moves all the same.
-/

namespace CrawlerApi.Worker

open Keys Fetch Jobs Foundation

/-- One run of `fetch_task`. -/
structure JobRun where
  context : Context
  environment : Environment
  task : FetchTask
  redis : Redis FetchResultSchema

/-- `_bytes_to_eur_cost`, in exact arithmetic. -/
def bytesToEurCost (bodyBytes : Nat) : Rat := bodyBytes / bytesPerGib * (7 / 2)

def shortfall (bodyBytes : Nat) : Nat := costCents bodyBytes * bytesPerGib - bodyBytes * 350

theorem costCents_mul (bodyBytes : Nat) :
    costCents bodyBytes * bytesPerGib = bodyBytes * 350 + shortfall bodyBytes := by
  unfold shortfall costCents bytesPerGib
  omega

theorem shortfall_lt (bodyBytes : Nat) : shortfall bodyBytes < bytesPerGib := by
  unfold shortfall costCents bytesPerGib
  omega

theorem bytesToEurCost_mul (bodyBytes : Nat) :
    bytesToEurCost bodyBytes * 100 * bytesPerGib = bodyBytes * 350 := by
  unfold bytesToEurCost bytesPerGib
  norm_num
  ring

theorem costCents_eq_ceil (bodyBytes : Nat) :
    ⌈bytesToEurCost bodyBytes * 100⌉ = (costCents bodyBytes : Int) := by
  have hcents : (costCents bodyBytes : Rat) * bytesPerGib =
      bodyBytes * 350 + shortfall bodyBytes := by
    exact_mod_cast costCents_mul bodyBytes
  have hlt : (shortfall bodyBytes : Rat) < bytesPerGib := by
    exact_mod_cast shortfall_lt bodyBytes
  have hcost := bytesToEurCost_mul bodyBytes
  have hnonneg : (0 : Rat) ≤ shortfall bodyBytes := Nat.cast_nonneg _
  have hgib : (bytesPerGib : Rat) = 1073741824 := by norm_num [bytesPerGib]
  rw [hgib] at hcents hlt hcost
  rw [Int.ceil_eq_iff, Int.cast_natCast]
  constructor <;> linarith

def Statement.isUsage : Statement → Bool
  | .usage _ _ _ _ => true
  | _ => false

namespace JobRun

variable (run : JobRun)

def accounted : Task FetchResult := do
  let prepared ← prepare run.context run.environment run.task
  setStatus run.environment run.task .completedGet .completedSet .completed (some prepared.2)
  account run.context run.environment run.task prepared.1
  pure prepared.1

/-- What the run adds to `PROXY_COST_EUR_TOTAL`. -/
def proxyCost : Rat :=
  match run.accounted (World.start run.redis) with
  | .ok result _ => if result.proxyId.isSome then bytesToEurCost result.body.length else 0
  | .error _ _ => 0

def committed : List Statement :=
  (finalWorld (fetchTask run.context run.environment run.task
    (World.start run.redis))).session.committed

def Succeeds : Prop :=
  ∃ final, body run.context run.environment run.task (World.start run.redis) = .ok () final

def published : Option FetchResult :=
  match run.environment.fetch with
  | .ok result => some (normalizeResult run.context result).1
  | .error _ => none

def bodyBytes : Nat := (run.published.map fun result => result.body.length).getD 0

def proxied : Bool := (run.published.bind FetchResult.proxyId).isSome

def metered : Bool :=
  match run.environment.deliveries .usageExecute, run.environment.deliveries .usageCommit with
  | .completes, .completes => !brokenForUsage run.environment
  | .completes, .raises _ applied => applied && !brokenForUsage run.environment
  | _, _ => false

def excess : Nat :=
  if run.metered then
    if run.proxied then shortfall run.bodyBytes else costCents run.bodyBytes * bytesPerGib
  else 0

def missing : Nat := if run.metered = false ∧ run.proxied then run.bodyBytes * 350 else 0

def cents : Nat := if run.metered then costCents run.bodyBytes else 0

/-- One run moves the ledgers apart by the rounding, the direct cost and the lost upsert. -/
theorem ledgers_apart {run : JobRun}
    (hcost : run.proxyCost = if run.proxied then bytesToEurCost run.bodyBytes else 0) :
    (run.cents : Rat) * bytesPerGib + run.missing =
      run.proxyCost * 100 * bytesPerGib + run.excess := by
  have hcents : (costCents run.bodyBytes : Rat) * bytesPerGib =
      run.bodyBytes * 350 + shortfall run.bodyBytes := by
    exact_mod_cast costCents_mul run.bodyBytes
  have heur := bytesToEurCost_mul run.bodyBytes
  rw [hcost]
  unfold cents missing excess
  cases run.metered <;> cases run.proxied <;> simp [hcents, heur]

theorem accounted_of_succeeds {run : JobRun} (h : run.Succeeds) :
    ∃ result final, run.published = some result ∧
      run.accounted (World.start run.redis) = .ok result final := by
  obtain ⟨final, hbody⟩ := h
  unfold body at hbody
  obtain ⟨prepared, begun, hprepare, hbody⟩ := bind_eq_ok hbody
  obtain ⟨_, completed, hstatus, hbody⟩ := bind_eq_ok hbody
  obtain ⟨_, counted, haccount, -⟩ := bind_eq_ok hbody
  obtain ⟨fetched, hfetch, rfl⟩ := prepare_eq_ok hprepare
  refine ⟨_, counted, by rw [published, hfetch], ?_⟩
  rw [accounted, bind_ok hprepare, bind_ok hstatus, bind_ok haccount]
  rfl

theorem proxyCost_of_succeeds {run : JobRun} (h : run.Succeeds) :
    run.proxyCost = if run.proxied then bytesToEurCost run.bodyBytes else 0 := by
  obtain ⟨result, final, hpublished, haccounted⟩ := accounted_of_succeeds h
  rw [proxyCost, haccounted, proxied, bodyBytes, hpublished]
  rfl

theorem metered_iff {run : JobRun} : run.metered = true ↔
    brokenForUsage run.environment = false ∧
      run.environment.deliveries .usageExecute = .completes ∧
      (run.environment.deliveries .usageCommit).Applied := by
  unfold metered
  cases run.environment.deliveries .usageExecute with
  | raises exn applied => simp
  | completes =>
      cases run.environment.deliveries .usageCommit with
      | completes => simp
      | raises exn applied => simp [Delivery.Applied, and_comm]

private theorem before_counter {context : Context} {environment : Environment} {task : FetchTask}
    {result : FetchResult} {world after : World}
    (hlacks : world.session.Lacks Statement.isUsage)
    (hleft : LeftByFetch environment world.session)
    (h : account context environment task result world = .ok () after) :
    ∃ session : JobSession, session.Lacks Statement.isUsage ∧
      session.broken = brokenForUsage environment ∧
      after.session = (upsertUsage environment task .usageExecute .usageCommit
        result.body.length session).1 := by
  unfold account at h
  obtain ⟨_, learned, hlearned, husage⟩ := bind_eq_ok h
  have hcut := (onSession_cut (learner_cut hlacks (fun _ => rfl) hleft)).of_ok hlearned
  refine ⟨learned.session, hcut.1, hcut.2, ?_⟩
  rcases upsertUsage_cases .usageExecute .usageCommit result.body.length with
    ⟨-, hanswer⟩ | ⟨-, hanswer⟩
  · rw [onSession_ok hanswer] at husage
    cases husage
    rfl
  · rw [onSession_error hanswer] at husage
    cases husage

theorem committed_of_succeeds {run : JobRun} (h : run.Succeeds) :
    ∃ early, early.countP Statement.isUsage = 0 ∧
      run.committed = early ++
        if run.metered then [usageStatement run.environment run.task run.bodyBytes] else [] := by
  obtain ⟨final, hbody⟩ := h
  rw [committed, finalWorld_fetchTask_ok hbody]
  unfold body at hbody
  obtain ⟨prepared, begun, hprepare, hbody⟩ := bind_eq_ok hbody
  obtain ⟨_, completed, hstatus, hbody⟩ := bind_eq_ok hbody
  obtain ⟨_, counted, haccount, hbody⟩ := bind_eq_ok hbody
  obtain ⟨fetched, hfetch, rfl⟩ := prepare_eq_ok hprepare
  have hprepared : CutEnds Statement.isUsage _ _
      (prepare run.context run.environment run.task (World.start run.redis)) :=
    prepare_cut ⟨rfl, rfl⟩ (fun _ => rfl) (fun _ _ _ => rfl) rfl
  have hbegun := hprepared.of_ok hprepare
  have hcompleted := (setStatus_cut hbegun.1 hbegun.2).of_ok hstatus
  have hleft := left_of_setStatus hstatus (left_of_prepare hprepare)
  obtain ⟨session, hlacks, hbroken, hsession⟩ := before_counter hcompleted.1 hleft haccount
  obtain ⟨scheduled, -, hstep⟩ := scheduleCallback_ends run.context run.task .completed
    (some (FetchResultSchema.fromResult run.context.text (normalizeResult run.context fetched).1
      (normalizeResult run.context fetched).2)) none counted
  rw [hstep] at hbody
  cases hbody
  have hbytes : run.bodyBytes = (normalizeResult run.context fetched).1.body.length := by
    rw [bodyBytes, published, hfetch]
    rfl
  show ∃ early, _ ∧ counted.session.committed = _
  rw [hsession, hbytes]
  split
  · rename_i hmetered
    rw [metered_iff] at hmetered
    refine ⟨session.committed ++ session.pending, by simp [hlacks.1, hlacks.2], ?_⟩
    exact upsertUsage_commits (hbroken.trans hmetered.1) hmetered.2.1 hmetered.2.2
  · rename_i hskipped
    refine ⟨session.committed, hlacks.1, ?_⟩
    rw [List.append_nil]
    refine upsertUsage_skips fun hall => hskipped ?_
    exact metered_iff.mpr ⟨hbroken.symm.trans hall.1, hall.2.1, hall.2.2⟩

end JobRun

/-- `cost_eur_cents`, 0 without a row. -/
def UsageCounters.costEurCents (counters : UsageCounters) (applicationId : Uuid) (month : Nat) :
    Nat :=
  match counters applicationId month with
  | none => 0
  | some row => row.costEurCents

def Statement.costFor (applicationId : Uuid) (month : Nat) : Statement → Nat
  | .usage application period _ cents =>
      if application = applicationId ∧ period = month then cents else 0
  | _ => 0

theorem costEurCents_execute (counters : UsageCounters) (statement : Statement)
    (applicationId : Uuid) (month : Nat) :
    (counters.execute statement).costEurCents applicationId month =
      counters.costEurCents applicationId month + statement.costFor applicationId month := by
  cases statement with
  | usage application period bodyBytes cents =>
      unfold UsageCounters.execute UsageCounters.upsert UsageCounters.costEurCents
        Statement.costFor
      by_cases hrow : applicationId = application ∧ month = period
      · obtain ⟨rfl, rfl⟩ := hrow
        cases hcounter : counters applicationId month <;> simp [hcounter]
      · have hother : ¬ (application = applicationId ∧ period = month) :=
          fun h => hrow ⟨h.1.symm, h.2.symm⟩
        simp [hrow, hother]
  | proxyReport report => rfl
  | warcIndex url sha256 isRevisit => rfl
  | policyOutcome row => rfl

theorem costEurCents_foldl (statements : List Statement) (counters : UsageCounters)
    (applicationId : Uuid) (month : Nat) :
    (statements.foldl UsageCounters.execute counters).costEurCents applicationId month =
      counters.costEurCents applicationId month +
        (statements.map (Statement.costFor applicationId month)).sum := by
  induction statements generalizing counters with
  | nil => rfl
  | cons statement rest ih =>
      rw [List.foldl_cons, ih, costEurCents_execute, List.map_cons, List.sum_cons]
      omega

theorem costFor_of_no_usage {statements : List Statement} (applicationId : Uuid) (month : Nat)
    (h : statements.countP Statement.isUsage = 0) :
    (statements.map (Statement.costFor applicationId month)).sum = 0 := by
  rw [List.countP_eq_zero] at h
  rw [List.sum_eq_zero]
  intro cents hcents
  obtain ⟨statement, hmem, rfl⟩ := List.mem_map.mp hcents
  cases statement with
  | usage application period bodyBytes cents => exact absurd rfl (h _ hmem)
  | proxyReport report => rfl
  | warcIndex url sha256 isRevisit => rfl
  | policyOutcome row => rfl

theorem JobRun.costFor_committed {run : JobRun} (h : run.Succeeds) (applicationId : Uuid) :
    (run.committed.map (Statement.costFor applicationId run.environment.month)).sum =
      if run.task.applicationId = applicationId then run.cents else 0 := by
  obtain ⟨early, hearly, hcommitted⟩ := committed_of_succeeds h
  rw [hcommitted, List.map_append, List.sum_append, costFor_of_no_usage _ _ hearly, cents]
  cases run.metered <;> simp [usageStatement, Statement.costFor]

/-- The cents a sequence of runs adds to the counters of the month. -/
def countedCents (counters : UsageCounters) (month : Nat) (applications : Finset Uuid)
    (runs : List JobRun) : Int :=
  applications.sum fun applicationId =>
    (((runs.flatMap JobRun.committed).foldl UsageCounters.execute counters).costEurCents
      applicationId month : Int) - counters.costEurCents applicationId month

/-- What it adds to `PROXY_COST_EUR_TOTAL`. -/
def proxyCostTotal (runs : List JobRun) : Rat := (runs.map JobRun.proxyCost).sum

/-- The rounding and the direct costs balance the lost upserts up to a cent. -/
def Balanced (runs : List JobRun) : Prop :=
  (runs.map JobRun.excess).sum < (runs.map JobRun.missing).sum + bytesPerGib ∧
    (runs.map JobRun.missing).sum < (runs.map JobRun.excess).sum + bytesPerGib

section Totals

variable {month : Nat} {applications : Finset Uuid} {runs : List JobRun}

theorem countedCents_eq (counters : UsageCounters)
    (h : ∀ run ∈ runs, run.Succeeds ∧ run.environment.month = month ∧
      run.task.applicationId ∈ applications) :
    countedCents counters month applications runs = ((runs.map JobRun.cents).sum : Nat) := by
  have hcount : countedCents counters month applications runs =
      ((applications.sum fun applicationId => ((runs.flatMap JobRun.committed).map
        (Statement.costFor applicationId month)).sum : Nat) : Int) := by
    unfold countedCents
    rw [Nat.cast_sum]
    apply Finset.sum_congr rfl
    intro applicationId _
    rw [costEurCents_foldl]
    omega
  rw [hcount]
  congr 1
  clear hcount
  induction runs with
  | nil => simp
  | cons run rest ih =>
      obtain ⟨hsucceeds, rfl, hknown⟩ := h run List.mem_cons_self
      simp only [List.flatMap_cons, List.map_append, List.sum_append, Finset.sum_add_distrib,
        JobRun.costFor_committed hsucceeds, List.map_cons, List.sum_cons]
      rw [ih fun other hother => h other (List.mem_cons_of_mem _ hother)]
      simp [hknown]

theorem totals_apart (h : ∀ run ∈ runs, run.Succeeds) :
    ((runs.map JobRun.cents).sum : Rat) * bytesPerGib + (runs.map JobRun.missing).sum =
      proxyCostTotal runs * 100 * bytesPerGib + (runs.map JobRun.excess).sum := by
  unfold proxyCostTotal
  induction runs with
  | nil => simp
  | cons run rest ih =>
      have hrest := ih fun other hother => h other (List.mem_cons_of_mem _ hother)
      have hrun := JobRun.ledgers_apart (JobRun.proxyCost_of_succeeds (h run List.mem_cons_self))
      simp only [List.map_cons, List.sum_cons, Nat.cast_add]
      linarith

/-- The two ledgers stay within a cent of each other exactly in the balanced sequences. -/
theorem ledgers_agree_iff (counters : UsageCounters)
    (h : ∀ run ∈ runs, run.Succeeds ∧ run.environment.month = month ∧
      run.task.applicationId ∈ applications) :
    |(countedCents counters month applications runs : Rat) - 100 * proxyCostTotal runs| < 1 ↔
      Balanced runs := by
  have hapart := totals_apart fun run hrun => (h run hrun).1
  rw [countedCents_eq counters h, abs_lt, Int.cast_natCast]
  unfold Balanced
  have hgib : (bytesPerGib : Rat) = 1073741824 := by norm_num [bytesPerGib]
  have hexcess : (runs.map JobRun.excess).sum < (runs.map JobRun.missing).sum + bytesPerGib ↔
      ((runs.map JobRun.excess).sum : Rat) < (runs.map JobRun.missing).sum + bytesPerGib := by
    norm_cast
  have hmissing : (runs.map JobRun.missing).sum < (runs.map JobRun.excess).sum + bytesPerGib ↔
      ((runs.map JobRun.missing).sum : Rat) < (runs.map JobRun.excess).sum + bytesPerGib := by
    norm_cast
  rw [hexcess, hmissing]
  rw [hgib] at hapart ⊢
  constructor
  · rintro ⟨hlow, hhigh⟩
    constructor <;> linarith
  · rintro ⟨hexcess, hmissing⟩
    constructor <;> linarith

/-- When every upsert is committed, only proxied jobs may have a body, and all their
rounding together stays under a cent. -/
theorem balanced_iff_of_metered (h : ∀ run ∈ runs, run.metered = true) :
    Balanced runs ↔ (∀ run ∈ runs, run.proxied = false → run.bodyBytes = 0) ∧
      (runs.map fun run => shortfall run.bodyBytes).sum < bytesPerGib := by
  have hmissing : (runs.map JobRun.missing).sum = 0 := by
    rw [List.sum_eq_zero]
    intro parts hparts
    obtain ⟨run, hrun, rfl⟩ := List.mem_map.mp hparts
    simp [JobRun.missing, h run hrun]
  have hrounding (hdirect : ∀ run ∈ runs, run.proxied = false → run.bodyBytes = 0) :
      runs.map JobRun.excess = runs.map fun run => shortfall run.bodyBytes := by
    apply List.map_congr_left
    intro run hrun
    cases hproxied : run.proxied with
    | true => simp [JobRun.excess, h run hrun, hproxied]
    | false =>
        rw [JobRun.excess, h run hrun, hproxied, hdirect run hrun hproxied]
        decide
  unfold Balanced
  rw [hmissing]
  constructor
  · rintro ⟨hlt, -⟩
    have hdirect : ∀ run ∈ runs, run.proxied = false → run.bodyBytes = 0 := by
      intro run hrun hproxied
      have hle := List.single_le_sum (fun _ _ => Nat.zero_le _) _
        (List.mem_map_of_mem (f := JobRun.excess) hrun)
      rw [JobRun.excess, h run hrun, hproxied] at hle
      have hcents := costCents_mul run.bodyBytes
      simp only [if_true, Bool.false_eq_true, if_false] at hle
      unfold bytesPerGib at *
      omega
    exact ⟨hdirect, by rw [hrounding hdirect] at hlt; omega⟩
  · rintro ⟨hdirect, hlt⟩
    rw [hrounding hdirect]
    omega

end Totals

def quietRun (proxyId : Option Uuid) : JobRun where
  context := plainContext
  environment := { shutdownInUsage with
    deliveries := fun _ => .completes
    fetch := .ok {
      url := "https://a.example/"
      statusCode := 200
      body := [7]
      proxyId := proxyId } }
  task := plainTask
  redis := Redis.empty

theorem quietRun_succeeds (proxyId : Option Uuid) : (quietRun proxyId).Succeeds := ⟨_, rfl⟩

theorem proxied_byte_agrees :
    |(countedCents (fun _ _ => none) 0 {1} [quietRun (some 1)] : Rat) -
      100 * proxyCostTotal [quietRun (some 1)]| < 1 := by
  refine (ledgers_agree_iff _ fun run hrun => ?_).mpr ⟨by decide +kernel, by decide +kernel⟩
  rw [List.mem_singleton.mp hrun]
  exact ⟨quietRun_succeeds _, rfl, by decide⟩

/-- A cent for a byte that no proxy carried. -/
theorem direct_byte_disagrees : (quietRun none).Succeeds ∧
    ¬ |(countedCents (fun _ _ => none) 0 {1} [quietRun none] : Rat) -
      100 * proxyCostTotal [quietRun none]| < 1 := by
  refine ⟨quietRun_succeeds _, ?_⟩
  have hcounted : countedCents (fun _ _ => none) 0 {1} [quietRun none] = 1 := by decide +kernel
  have htotal : proxyCostTotal [quietRun none] = 0 := by decide +kernel
  rw [hcounted, htotal]
  norm_num

end CrawlerApi.Worker
