import CrawlerApi.Foundation.Keyed
import CrawlerApi.Worker.Ledgers

/-!
# The usage report

`usage_counters` as the rows it holds, and `GET /v1/usage`, which lists an application's rows
between two months and adds them up.  The rows refine the counters of the metering; what the
report adds up is what the jobs committed.
-/

namespace CrawlerApi.Worker

open Keys Fetch Jobs Foundation

structure UsageRow where
  applicationId : Uuid
  periodMonth : Nat
  counter : UsageCounter
deriving DecidableEq, Repr

namespace UsageRow

/-- The columns of `uq_usage_app_period`. -/
def key (row : UsageRow) : Uuid × Nat := (row.applicationId, row.periodMonth)

/-- `DO UPDATE SET` -/
def add (bodyBytes costCents : Nat) (row : UsageRow) : UsageRow :=
  { row with
    counter := {
      requestCount := row.counter.requestCount + 1
      bytesReceived := row.counter.bytesReceived + bodyBytes
      costEurCents := row.counter.costEurCents + costCents } }

end UsageRow

structure UsageTable where
  rows : List UsageRow
  unique : (rows.map UsageRow.key).Nodup

namespace UsageTable

def empty : UsageTable := ⟨[], .nil⟩

theorem key_add (bodyBytes costCents : Nat) (row : UsageRow) :
    (row.add bodyBytes costCents).key = row.key := rfl

def upsert (table : UsageTable) (applicationId : Uuid) (month bodyBytes costCents : Nat) :
    UsageTable where
  rows := upsertRows UsageRow.key (UsageRow.add bodyBytes costCents)
    ⟨applicationId, month, ⟨1, bodyBytes, costCents⟩⟩ table.rows
  unique := nodup_upsertRows (key_add bodyBytes costCents) table.unique

def execute (table : UsageTable) : Statement → UsageTable
  | .usage applicationId month bodyBytes costCents =>
      table.upsert applicationId month bodyBytes costCents
  | _ => table

def counters (table : UsageTable) : UsageCounters := fun applicationId month =>
  (table.rows.find? (·.key = (applicationId, month))).map UsageRow.counter

theorem counters_upsert (table : UsageTable) (applicationId : Uuid)
    (month bodyBytes costCents : Nat) :
    (table.upsert applicationId month bodyBytes costCents).counters =
      table.counters.upsert applicationId month bodyBytes costCents := by
  funext application period
  have hfind : (table.upsert applicationId month bodyBytes costCents).rows.find?
      (·.key = (application, period)) = _ :=
    find_upsertRows (key_add bodyBytes costCents) (application, period)
  unfold UsageCounters.upsert counters
  rw [hfind]
  by_cases hrow : application = applicationId ∧ period = month
  · obtain ⟨rfl, rfl⟩ := hrow
    have hsame : (⟨application, period, ⟨1, bodyBytes, costCents⟩⟩ : UsageRow).key =
        (application, period) := rfl
    rw [if_pos hsame, if_pos ⟨rfl, rfl⟩]
    cases table.rows.find? (·.key = (application, period)) <;> rfl
  · have hother : (⟨applicationId, month, ⟨1, bodyBytes, costCents⟩⟩ : UsageRow).key ≠
        (application, period) := by
      intro hkey
      cases hkey
      exact hrow ⟨rfl, rfl⟩
    rw [if_neg hother, if_neg hrow]

theorem counters_execute (table : UsageTable) (statement : Statement) :
    (table.execute statement).counters = table.counters.execute statement := by
  cases statement with
  | usage applicationId month bodyBytes costCents =>
      exact counters_upsert table applicationId month bodyBytes costCents
  | proxyReport report => rfl
  | warcIndex url sha256 isRevisit => rfl
  | policyOutcome row => rfl

theorem counters_foldl (statements : List Statement) (table : UsageTable) :
    (statements.foldl execute table).counters =
      statements.foldl UsageCounters.execute table.counters := by
  induction statements generalizing table with
  | nil => rfl
  | cons statement rest ih =>
      rw [List.foldl_cons, ih, counters_execute, List.foldl_cons]

theorem mem_rows_iff (table : UsageTable) (row : UsageRow) :
    row ∈ table.rows ↔ table.counters row.applicationId row.periodMonth = some row.counter := by
  unfold counters
  rw [Option.map_eq_some_iff]
  constructor
  · intro hmem
    refine ⟨row, ?_, rfl⟩
    rw [List.find?_eq_some_iff_append]
    obtain ⟨before, after, hrows⟩ := List.append_of_mem hmem
    refine ⟨decide_eq_true rfl, before, after, hrows, fun other hother => ?_⟩
    have hunique := table.unique
    rw [hrows, List.map_append, List.map_cons, List.nodup_append] at hunique
    have hne := hunique.2.2 other.key (List.mem_map_of_mem hother) row.key List.mem_cons_self
    exact Bool.not_eq_true' _ ▸ decide_eq_false hne
  · rintro ⟨found, hfound, hcounter⟩
    have hkey : found.key = (row.applicationId, row.periodMonth) := by
      simpa using List.find?_some hfound
    have hrow : found = row := by
      obtain ⟨application, month, counter⟩ := found
      cases hkey
      cases hcounter
      rfl
    exact hrow ▸ List.mem_of_find?_eq_some hfound

end UsageTable

/-- `from_month` and `to_month` of the query, each optional and inclusive. -/
def inMonths (fromMonth toMonth : Option Nat) (month : Nat) : Bool :=
  fromMonth.all (· ≤ month) && toMonth.all (month ≤ ·)

structure UsageSummaryResponse where
  applicationId : Uuid
  periods : List UsageRow
  totalRequests : Nat
  totalBytes : Nat
  totalCostEurCents : Nat

def UsageRow.selected (applicationId : Uuid) (fromMonth toMonth : Option Nat) (row : UsageRow) :
    Bool :=
  row.applicationId = applicationId && inMonths fromMonth toMonth row.periodMonth

def buildSummary (table : UsageTable) (applicationId : Uuid) (fromMonth toMonth : Option Nat) :
    UsageSummaryResponse :=
  let periods := (table.rows.filter (UsageRow.selected applicationId fromMonth toMonth)).mergeSort
    fun first second => second.periodMonth ≤ first.periodMonth
  { applicationId := applicationId
    periods := periods
    totalRequests := (periods.map (·.counter.requestCount)).sum
    totalBytes := (periods.map (·.counter.bytesReceived)).sum
    totalCostEurCents := (periods.map (·.counter.costEurCents)).sum }

def Statement.usageRow : Statement → Option UsageRow
  | .usage applicationId month bodyBytes costCents =>
      some ⟨applicationId, month, ⟨1, bodyBytes, costCents⟩⟩
  | _ => none

/-- What a statement adds to a total of the report, `amount` being the total's column. -/
def Statement.adds (applicationId : Uuid) (fromMonth toMonth : Option Nat)
    (amount : UsageCounter → Nat) (statement : Statement) : Nat :=
  match statement.usageRow with
  | some row => if row.selected applicationId fromMonth toMonth then amount row.counter else 0
  | none => 0

section Totals

variable {applicationId : Uuid} {fromMonth toMonth : Option Nat} {amount : UsageCounter → Nat}

def Additive (amount : UsageCounter → Nat) : Prop :=
  ∀ (row : UsageRow) (bodyBytes costCents : Nat),
    amount (row.add bodyBytes costCents).counter =
      amount row.counter + amount ⟨1, bodyBytes, costCents⟩

def UsageTable.totalOf (applicationId : Uuid) (fromMonth toMonth : Option Nat)
    (amount : UsageCounter → Nat) (table : UsageTable) : Nat :=
  (table.rows.map fun row =>
    if row.selected applicationId fromMonth toMonth then amount row.counter else 0).sum

theorem totalOf_execute (hamount : Additive amount) (table : UsageTable) (statement : Statement) :
    (table.execute statement).totalOf applicationId fromMonth toMonth amount =
      table.totalOf applicationId fromMonth toMonth amount +
        statement.adds applicationId fromMonth toMonth amount := by
  cases statement with
  | usage application month bodyBytes costCents =>
      refine sum_upsertRows fun row hkey => ?_
      -- the row under the same key is selected if the new one is
      have hselected : (⟨application, month, ⟨1, bodyBytes, costCents⟩⟩ : UsageRow).selected
          applicationId fromMonth toMonth = row.selected applicationId fromMonth toMonth := by
        obtain ⟨application', month', counter⟩ := row
        cases hkey
        rfl
      have hadded : (row.add bodyBytes costCents).selected applicationId fromMonth toMonth =
          row.selected applicationId fromMonth toMonth := rfl
      rw [hselected, hadded]
      split
      · exact hamount row bodyBytes costCents
      · rfl
  | proxyReport report => rfl
  | warcIndex url sha256 isRevisit => rfl
  | policyOutcome row => rfl

theorem totalOf_foldl (hamount : Additive amount) (statements : List Statement)
    (table : UsageTable) :
    (statements.foldl UsageTable.execute table).totalOf applicationId fromMonth toMonth amount =
      table.totalOf applicationId fromMonth toMonth amount +
        (statements.map (Statement.adds applicationId fromMonth toMonth amount)).sum := by
  induction statements generalizing table with
  | nil => rfl
  | cons statement rest ih =>
      rw [List.foldl_cons, ih, totalOf_execute hamount, List.map_cons, List.sum_cons,
        Nat.add_assoc]

theorem sum_map_filter (rows : List UsageRow) (p : UsageRow → Bool)
    (weight : UsageRow → Nat) :
    ((rows.filter p).map weight).sum =
      (rows.map fun row => if p row then weight row else 0).sum := by
  induction rows with
  | nil => rfl
  | cons row rows ih =>
      rw [List.filter_cons, List.map_cons, List.sum_cons, ← ih]
      cases p row with
      | false => simp
      | true => simp

theorem sum_periods (table : UsageTable) :
    ((buildSummary table applicationId fromMonth toMonth).periods.map
        fun row => amount row.counter).sum =
      table.totalOf applicationId fromMonth toMonth amount := by
  unfold buildSummary UsageTable.totalOf
  rw [((List.mergeSort_perm _ _).map _).sum_eq, sum_map_filter]

theorem summary_totalRequests (table : UsageTable) :
    (buildSummary table applicationId fromMonth toMonth).totalRequests =
      table.totalOf applicationId fromMonth toMonth UsageCounter.requestCount :=
  sum_periods table

/-- The periods of a report, latest first, are the rows it selects. -/
theorem periods_sorted (table : UsageTable) :
    (buildSummary table applicationId fromMonth toMonth).periods.Pairwise
        (fun first second => second.periodMonth < first.periodMonth) ∧
      ∀ row, row ∈ (buildSummary table applicationId fromMonth toMonth).periods ↔
        row.selected applicationId fromMonth toMonth = true ∧
          table.counters row.applicationId row.periodMonth = some row.counter := by
  have hmem : ∀ row, row ∈ (buildSummary table applicationId fromMonth toMonth).periods ↔
      row ∈ table.rows ∧ row.selected applicationId fromMonth toMonth = true := by
    intro row
    unfold buildSummary
    rw [List.mem_mergeSort, List.mem_filter]
  refine ⟨?_, fun row => ?_⟩
  · have hsorted : (buildSummary table applicationId fromMonth toMonth).periods.Pairwise
        fun first second => second.periodMonth ≤ first.periodMonth := by
      refine (List.pairwise_mergeSort (fun a b c hab hbc => ?_) (fun a b => ?_) _).imp ?_
      · exact decide_eq_true (Nat.le_trans (of_decide_eq_true hbc) (of_decide_eq_true hab))
      · rw [Bool.or_eq_true, decide_eq_true_iff, decide_eq_true_iff]
        exact Nat.le_total _ _
      · exact fun h => of_decide_eq_true h
    have hdistinct : (buildSummary table applicationId fromMonth toMonth).periods.Pairwise
        fun first second => first.key ≠ second.key := by
      have hrows := List.pairwise_map.mp table.unique
      unfold buildSummary
      exact (hrows.filter _).perm (List.mergeSort_perm _ _).symm fun h => Ne.symm h
    refine (hsorted.and hdistinct).imp_of_mem fun {first second} hfirst hsecond h => ?_
    -- two rows of one application differ in their months
    have hsame : first.applicationId = second.applicationId := by
      have hone := ((hmem first).mp hfirst).2
      have htwo := ((hmem second).mp hsecond).2
      unfold UsageRow.selected at hone htwo
      rw [Bool.and_eq_true, decide_eq_true_iff] at hone htwo
      exact hone.1.trans htwo.1.symm
    refine Nat.lt_of_le_of_ne h.1 fun heq => h.2 ?_
    unfold UsageRow.key
    rw [hsame, heq]
  · rw [hmem row, UsageTable.mem_rows_iff]
    exact and_comm

end Totals

/-- The report once the statements are committed. -/
def usageReport (statements : List Statement) (applicationId : Uuid)
    (fromMonth toMonth : Option Nat) : UsageSummaryResponse :=
  buildSummary (statements.foldl UsageTable.execute UsageTable.empty) applicationId fromMonth
    toMonth

/-- A report on the counters of any committed statements: its periods are the counters of the
application in the months asked for, latest first, and its totals add up what the statements
added to them. -/
theorem summary_tallies (statements : List Statement) (applicationId : Uuid)
    (fromMonth toMonth : Option Nat) :
    let summary := usageReport statements applicationId fromMonth toMonth
    summary.periods.Pairwise (fun first second => second.periodMonth < first.periodMonth) ∧
      (∀ row, row ∈ summary.periods ↔
        row.selected applicationId fromMonth toMonth = true ∧
          statements.foldl UsageCounters.execute (fun _ _ => none) row.applicationId
            row.periodMonth = some row.counter) ∧
      summary.totalRequests = (statements.map
        (Statement.adds applicationId fromMonth toMonth UsageCounter.requestCount)).sum ∧
      summary.totalBytes = (statements.map
        (Statement.adds applicationId fromMonth toMonth UsageCounter.bytesReceived)).sum ∧
      summary.totalCostEurCents = (statements.map
        (Statement.adds applicationId fromMonth toMonth UsageCounter.costEurCents)).sum := by
  have htotal : ∀ amount : UsageCounter → Nat, Additive amount →
      ((usageReport statements applicationId fromMonth toMonth).periods.map
          fun row => amount row.counter).sum =
        (statements.map (Statement.adds applicationId fromMonth toMonth amount)).sum :=
    fun amount hamount => (sum_periods _).trans ((totalOf_foldl hamount _ _).trans (Nat.zero_add _))
  obtain ⟨hsorted, hmem⟩ := periods_sorted (statements.foldl UsageTable.execute UsageTable.empty)
  rw [UsageTable.counters_foldl] at hmem
  exact ⟨hsorted, hmem, htotal UsageCounter.requestCount fun _ _ _ => rfl,
    htotal UsageCounter.bytesReceived fun _ _ _ => rfl,
    htotal UsageCounter.costEurCents fun _ _ _ => rfl⟩

/-! ### The jobs behind a report -/

def Statement.foreign (applicationId : Uuid) (month : Nat) : Statement → Bool
  | .usage application period _ _ => !(application = applicationId ∧ period = month)
  | _ => false

section Jobs

variable {context : Context} {environment : Environment} {task : FetchTask} {world : World}
  {session : JobSession}

theorem upsertUsage_own {execute commit : Site} {bodyBytes : Nat}
    (hlacks : session.Lacks (Statement.foreign task.applicationId environment.month)) :
    (upsertUsage environment task execute commit bodyBytes session).1.Lacks
      (Statement.foreign task.applicationId environment.month) := by
  have hown : [usageStatement environment task bodyBytes].countP
      (Statement.foreign task.applicationId environment.month) = 0 := by
    simp [usageStatement, Statement.foreign]
  unfold upsertUsage
  dsimp only
  rw [committed_swallow]
  split
  · exact hlacks.executeOthers hown
  · exact (hlacks.executeOthers hown).commit

def OwnOnly (environment : Environment) (task : FetchTask)
    (answer : EStateM.Result Exn World Unit) : Prop :=
  (finalWorld answer).session.Lacks (Statement.foreign task.applicationId environment.month)

theorem caught_own {answer : EStateM.Result Exn World Unit}
    (hlacks : OwnOnly environment task answer) :
    (caught context environment task answer).session.Lacks
      (Statement.foreign task.applicationId environment.month) := by
  cases answer with
  | ok _ world => exact hlacks
  | error exn world =>
      rcases handler_session context environment task exn world with ⟨hsession, -⟩ | ⟨hsession, -⟩
      · exact hsession ▸ hlacks
      · exact hsession ▸ upsertUsage_own hlacks

/-- A job moves no counter but the one of its application and month. -/
theorem fetchTask_own (context : Context) (environment : Environment) (task : FetchTask)
    (redis : Redis FetchResultSchema) :
    (finalWorld (fetchTask context environment task (World.start redis))).session.committed.countP
      (Statement.foreign task.applicationId environment.month) = 0 := by
  rw [finalWorld_fetchTask]
  refine (caught_own ?_).1
  show OwnOnly environment task _
  unfold body account
  have hprepare : CutEnds (Statement.foreign task.applicationId environment.month) _ _
      (prepare context environment task (World.start redis)) :=
    prepare_cut ⟨rfl, rfl⟩ (fun _ => rfl) (fun _ _ _ => rfl) rfl
  apply hprepare.seq
  · exact fun exn after _ hlacks => hlacks
  · intro prepared world _ hstep hlacks hbroken
    have hleft := left_of_prepare hstep
    apply (setStatus_cut hlacks hbroken).seq
    · exact fun exn after _ hlacks => hlacks
    · intro _ world _ hstep hlacks _
      replace hleft := left_of_setStatus hstep hleft
      rw [bind_assoc]
      apply (onSession_cut (learner_cut hlacks (fun _ => rfl) hleft)).seq
      · exact fun exn after _ hlacks => hlacks
      · intro _ world _ _ hlacks _
        rcases upsertUsage_cases .usageExecute .usageCommit prepared.1.body.length with
          ⟨-, hanswer⟩ | ⟨-, hanswer⟩
        · rw [bind_ok (onSession_ok hanswer)]
          obtain ⟨scheduled, -, hstep⟩ := scheduleCallback_ends context task .completed
            (some prepared.2) none { world with session := (upsertUsage environment task
              .usageExecute .usageCommit prepared.1.body.length world.session).1 }
          rw [hstep]
          exact upsertUsage_own hlacks
        · rw [bind_error (onSession_error hanswer)]
          exact upsertUsage_own hlacks

end Jobs

theorem sum_adds_own {ownId : Uuid} {month : Nat} {applicationId : Uuid}
    {fromMonth toMonth : Option Nat} {statements : List Statement}
    (hown : statements.countP (Statement.foreign ownId month) = 0) :
    (statements.map (Statement.adds applicationId fromMonth toMonth
        UsageCounter.requestCount)).sum =
      if ownId = applicationId ∧ inMonths fromMonth toMonth month then
        statements.countP (Statement.meters ownId month) else 0 := by
  induction statements with
  | nil => simp
  | cons statement rest ih =>
      rw [List.countP_cons] at hown
      have hrest := ih (by omega)
      have hhead : statement.foreign ownId month = false := by
        cases hforeign : statement.foreign ownId month with
        | false => rfl
        | true => simp [hforeign] at hown
      rw [List.map_cons, List.sum_cons, hrest, List.countP_cons]
      cases statement with
      | usage application period bodyBytes costCents =>
          have hsame : application = ownId ∧ period = month := by
            unfold Statement.foreign at hhead
            simpa using hhead
          obtain ⟨rfl, rfl⟩ := hsame
          by_cases hselected : application = applicationId ∧ inMonths fromMonth toMonth period
          · simp [Statement.adds, Statement.usageRow, UsageRow.selected, Statement.meters,
              hselected.1, hselected.2, Nat.add_comm]
          · have hnot : (⟨application, period, ⟨1, bodyBytes, costCents⟩⟩ : UsageRow).selected
                applicationId fromMonth toMonth = false := by
              unfold UsageRow.selected
              simpa using hselected
            simp [Statement.adds, Statement.usageRow, hnot, hselected]
      | proxyReport report => simp [Statement.adds, Statement.usageRow, Statement.meters]
      | warcIndex url sha256 isRevisit =>
          simp [Statement.adds, Statement.usageRow, Statement.meters]
      | policyOutcome row => simp [Statement.adds, Statement.usageRow, Statement.meters]

namespace JobRun

def MetersOnce (run : JobRun) : Prop :=
  Worker.MetersOnce run.context run.environment run.task run.redis

def reported (applicationId : Uuid) (fromMonth toMonth : Option Nat) (run : JobRun) : Bool :=
  run.task.applicationId = applicationId && inMonths fromMonth toMonth run.environment.month

theorem sum_adds_committed {run : JobRun} {applicationId : Uuid} {fromMonth toMonth : Option Nat}
    (honce : run.MetersOnce) :
    (run.committed.map (Statement.adds applicationId fromMonth toMonth
        UsageCounter.requestCount)).sum =
      if run.reported applicationId fromMonth toMonth then 1 else 0 := by
  have hcount : run.committed.countP
      (Statement.meters run.task.applicationId run.environment.month) = 1 := by
    have h := honce fun _ _ => none
    rw [requestCount_foldl] at h
    exact Nat.add_left_cancel h
  have hown : run.committed.countP
      (Statement.foreign run.task.applicationId run.environment.month) = 0 :=
    fetchTask_own run.context run.environment run.task run.redis
  rw [sum_adds_own hown, hcount]
  unfold reported
  simp only [Bool.and_eq_true, decide_eq_true_eq]

end JobRun

/-- The report of an application counts its jobs of the months asked for, each one once. -/
theorem summary_counts_jobs (runs : List JobRun) (applicationId : Uuid)
    (fromMonth toMonth : Option Nat) (honce : ∀ run ∈ runs, run.MetersOnce) :
    (usageReport (runs.flatMap JobRun.committed) applicationId fromMonth toMonth).totalRequests =
      runs.countP (JobRun.reported applicationId fromMonth toMonth) := by
  have htotal : (usageReport (runs.flatMap JobRun.committed) applicationId fromMonth
      toMonth).totalRequests =
      ((runs.flatMap JobRun.committed).map (Statement.adds applicationId fromMonth toMonth
        UsageCounter.requestCount)).sum :=
    (summary_totalRequests _).trans ((totalOf_foldl (fun _ _ _ => rfl) _ _).trans (Nat.zero_add _))
  rw [htotal]
  clear htotal
  induction runs with
  | nil => rfl
  | cons run rest ih =>
      rw [List.flatMap_cons, List.map_append, List.sum_append,
        ih fun other hother => honce other (List.mem_cons_of_mem run hother),
        JobRun.sum_adds_committed (honce run List.mem_cons_self), List.countP_cons, Nat.add_comm]

theorem summary_counts_quietRun :
    (usageReport ([quietRun none].flatMap JobRun.committed) plainTask.applicationId none
      none).totalRequests = 1 := by
  refine summary_counts_jobs [quietRun none] plainTask.applicationId none none fun run hrun => ?_
  rw [List.mem_singleton.mp hrun]
  exact metersOnce_iff_metered.mpr (by decide)

end CrawlerApi.Worker
