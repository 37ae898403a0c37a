import CrawlerApi.Jobs.Batches
import Mathlib.Algebra.Order.Ring.Rat

/-!
# The two reports on a batch

`get_batch_status` counts a job whose status key is gone as failed, and
`get_batch_results` leaves it out.
-/

namespace CrawlerApi.Jobs

structure ReportsAgree {ρ : Type} (status : BatchStatusResponse) (results : BatchResults ρ) :
    Prop where
  completed : status.completed = results.successful + results.failed
  total : status.total = results.total
  accounted : status.progress = 1 → results.total = results.successful + results.failed

/-- What the store answers of the batch agrees. -/
def BatchReportsAgree {ρ : Type} (store : Store ρ) (batchId : String) (now : Keys.Instant) : Prop :=
  ∀ status results, BatchService.getBatchStatus store batchId = some status →
    BatchService.getBatchResults store batchId now = some results → ReportsAgree status results

section Counting

variable {ρ : Type}

/-- What `get_batch_results` collects of a job. -/
def foundResult (redis : Redis ρ) (now : Keys.Instant) (jobId : String) :
    Option (JobResultResponse ρ) :=
  (JobService.readResult redis jobId now).toOption

def jobsWith (redis : Redis ρ) (jobIds : List String) (status : JobStatus) : Nat :=
  jobIds.countP fun jobId => (redis.jobStatus jobId).any fun data => data.status = status

def missingJobs (redis : Redis ρ) (jobIds : List String) : Nat :=
  jobIds.countP fun jobId => (redis.jobStatus jobId).isNone

variable {redis : Redis ρ} {jobIds : List String} {now : Keys.Instant}

theorem isTerminal_jobStatus (redis : Redis ρ) (jobId : String) :
    (BatchService.jobStatus redis jobId).state.isTerminal =
      (redis.jobStatus jobId).all fun data => data.status = .completed ∨ data.status = .failed := by
  cases hjob : redis.jobStatus jobId with
  | none =>
      rw [BatchService.jobStatus, JobService.getStatusData, hjob]
      rfl
  | some data =>
      rw [BatchService.jobStatus, JobService.getStatusData, hjob]
      change (stateMap data.status).isTerminal = _
      rw [Option.all_some]
      cases data.status with
      | pending => rfl
      | running => rfl
      | completed => rfl
      | failed => rfl

theorem foundResult_status (jobId : String) (status : JobStatus) :
    ((foundResult redis now jobId).any fun result => result.status = status) =
      (redis.jobStatus jobId).any fun data => data.status = status := by
  cases hjob : redis.jobStatus jobId with
  | none =>
      rw [foundResult, JobService.readResult, hjob]
      rfl
  | some data =>
      rw [foundResult, JobService.readResult, hjob]
      rfl

theorem length_results (status : JobStatus) :
    ((jobIds.filterMap (foundResult redis now)).filter
      fun result => result.status = status).length = jobsWith redis jobIds status := by
  unfold jobsWith
  induction jobIds with
  | nil => rfl
  | cons jobId jobIds ih =>
      have hstatuses := @foundResult_status ρ redis now jobId status
      rw [List.countP_cons, ← ih, ← hstatuses]
      cases hfound : foundResult redis now jobId with
      | none => simp [hfound]
      | some result =>
          rw [List.filterMap_cons_some hfound, Option.any_some]
          by_cases hstatus : result.status = status
          · simp [hstatus]
          · simp [hstatus]

theorem length_terminal :
    ((jobIds.map (BatchService.jobStatus redis)).filter fun job => job.state.isTerminal).length =
      jobsWith redis jobIds .completed + jobsWith redis jobIds .failed +
        missingJobs redis jobIds := by
  unfold jobsWith missingJobs
  rw [← List.countP_eq_length_filter, List.countP_map]
  induction jobIds with
  | nil => rfl
  | cons jobId jobIds ih =>
      rw [List.countP_cons, List.countP_cons, List.countP_cons, List.countP_cons, ih,
        Function.comp_apply, isTerminal_jobStatus]
      cases hjob : redis.jobStatus jobId with
      | none => simp; omega
      | some data =>
          cases hstatus : data.status with
          | pending => simp [hstatus]
          | running => simp [hstatus]
          | completed => simp [hstatus]; omega
          | failed => simp [hstatus]; omega

theorem missingJobs_eq_zero :
    missingJobs redis jobIds = 0 ↔ ∀ jobId ∈ jobIds, redis.jobStatus jobId ≠ none := by
  unfold missingJobs
  rw [List.countP_eq_zero]
  apply forall_congr'
  intro jobId
  rw [Option.isNone_iff_eq_none]

end Counting

section Reports

variable {ρ : Type} {store : Store ρ} {batchId : String} {now : Keys.Instant} {info : BatchInfo}

theorem getBatchStatus_eq (h : store.batches batchId = some info) :
    ∃ status, BatchService.getBatchStatus store batchId = some status ∧
      status.total = info.jobIds.length ∧
      status.completed = jobsWith store.redis info.jobIds .completed +
        jobsWith store.redis info.jobIds .failed + missingJobs store.redis info.jobIds ∧
      status.progress = if 0 < status.total then mkRat status.completed status.total else 0 := by
  rw [BatchService.getBatchStatus, h]
  exact ⟨_, rfl, List.length_map _, length_terminal, rfl⟩

theorem getBatchResults_eq (now : Keys.Instant) (h : store.batches batchId = some info) :
    ∃ results, BatchService.getBatchResults store batchId now = some results ∧
      results.total = info.jobIds.length ∧
      results.successful = jobsWith store.redis info.jobIds .completed ∧
      results.failed = jobsWith store.redis info.jobIds .failed := by
  rw [BatchService.getBatchResults, h]
  exact ⟨_, rfl, rfl, length_results .completed, length_results .failed⟩

theorem completed_of_progress {status : BatchStatusResponse}
    (hprogress : status.progress = if 0 < status.total then mkRat status.completed status.total
      else 0) (h : status.progress = 1) : status.completed = status.total := by
  rw [h] at hprogress
  split at hprogress
  · rename_i hpos
    have htotal : (status.total : Rat) ≠ 0 := by
      exact_mod_cast Nat.pos_iff_ne_zero.mp hpos
    rw [Rat.mkRat_eq_div, eq_div_iff_mul_eq (by exact_mod_cast htotal), one_mul] at hprogress
    exact_mod_cast hprogress.symm
  · cases hprogress

/-- The reports on a batch agree as long as every job of it has its status key. -/
theorem batch_reports_agree_iff (store : Store ρ) (batchId : String) (now : Keys.Instant) :
    BatchReportsAgree store batchId now ↔ ∀ info, store.batches batchId = some info →
      ∀ jobId ∈ info.jobIds, store.redis.jobStatus jobId ≠ none := by
  constructor
  · intro hagree info hinfo
    obtain ⟨status, hstatus, -, hcompleted, -⟩ := getBatchStatus_eq hinfo
    obtain ⟨results, hresults, -, hsuccessful, hfailed⟩ := getBatchResults_eq now hinfo
    have hcount := (hagree status results hstatus hresults).completed
    rw [hcompleted, hsuccessful, hfailed] at hcount
    apply missingJobs_eq_zero.mp
    omega
  · intro hheld status results hstatus hresults
    cases hinfo : store.batches batchId with
    | none =>
        rw [BatchService.getBatchStatus, hinfo] at hstatus
        cases hstatus
    | some info =>
        obtain ⟨_, hreport, htotal, hcompleted, hprogress⟩ := getBatchStatus_eq hinfo
        obtain ⟨_, hcollected, hall, hsuccessful, hfailed⟩ := getBatchResults_eq now hinfo
        rw [hstatus] at hreport
        cases hreport
        rw [hresults] at hcollected
        cases hcollected
        rw [missingJobs_eq_zero.mpr (hheld info hinfo), ← hsuccessful, ← hfailed] at hcompleted
        refine ⟨hcompleted, htotal.trans hall.symm, fun hone => ?_⟩
        rw [hall, ← htotal, ← completed_of_progress hprogress hone]
        exact hcompleted

end Reports

/-! One completed job and one whose status key has expired. -/

def expiredStore : Store Unit where
  redis := { (Redis.empty : Redis Unit) with
    jobStatus := fun jobId => if jobId = "a" then some { status := .completed, createdAt := none }
      else none }
  batches := fun _ => some ⟨"batch", ["a", "b"], 0, 2⟩
  jobOwner := fun _ => none
  batchOwner := fun _ => none

theorem expired_job_splits_reports :
    ¬ ∀ (store : Store Unit) batchId now, BatchReportsAgree store batchId now := by
  intro h
  have hcompleted := (h expiredStore "batch" 0 _ _ rfl rfl).completed
  revert hcompleted
  decide

end CrawlerApi.Jobs
