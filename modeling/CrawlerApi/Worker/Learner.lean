import CrawlerApi.Fetch.BlockDetector
import CrawlerApi.Fetch.Retry
import CrawlerApi.Foundation.Session

/-!
# Policy rows and the policy learner

`record_outcome` over the job's session, with what each of its awaits does given
from outside.  Its handler swallows every exception but a cancellation, and
rolls the session back, if it can read the policy it logs.
-/

namespace CrawlerApi.Worker

open Keys Fetch Foundation

structure PolicyRow where
  id : Uuid
  domain : String
  proxyPoolId : Option Uuid := none
  engine : Engine := .httpx
  minDelayMs : Int := 500
  maxDelayMs : Int := 2000
  maxRetries : Int := 3
  headerProfile : Option Headers := none
  useProxy : Bool := false
  proxyCountry : Option String := none
  antibotType : Option String := none
  proxyType : Option ProxyType := none
  escalationTier : Int := 0
  tierLocked : Bool := false
  lastSuccessAt : Option Instant := none
  lastBlockReason : Option String := none
  consecutiveBlocks : Int := 0
  maxEscalationAttempts : Int := 12
deriving DecidableEq, Repr

/-- The row as the retry loop reads it; it has no `proxy_city`. -/
def PolicyRow.attributes (row : PolicyRow) : Policy where
  proxyPoolId := row.proxyPoolId
  minDelayMs := some row.minDelayMs
  maxDelayMs := some row.maxDelayMs
  maxRetries := some row.maxRetries
  headerProfile := row.headerProfile
  useProxy := some row.useProxy
  proxyCountry := row.proxyCountry
  antibotType := row.antibotType
  proxyType := row.proxyType
  escalationTier := some row.escalationTier
  maxEscalationAttempts := some row.maxEscalationAttempts

/-- What the statements of a job's session write. -/
inductive Statement where
  | proxyReport (report : Report)
  | warcIndex (url sha256 : String) (isRevisit : Bool)
  | policyOutcome (row : PolicyRow)
  | usage (applicationId : Uuid) (month : Nat) (bodyBytes costCents : Nat)
deriving DecidableEq, Repr

abbrev JobSession := Session Statement

def sessionExceptions : Session.Exceptions Exn where
  interrupts exn := exn = .cancelled
  rejected := .exception "PendingRollbackError"

def PolicyRow.learn (row : PolicyRow) (result : FetchResult) (tierUsed : Int)
    (vendor : Option String) (now : Instant) : PolicyRow :=
  let row := match vendor with
    | some vendor => { row with antibotType := some vendor }
    | none => row
  let row :=
    if row.tierLocked then row
    else if result.blocked then { row with escalationTier := max tierUsed row.escalationTier }
    else { row with escalationTier := max (max tierUsed (row.escalationTier - 1)) 0 }
  if result.blocked then
    { row with
      lastBlockReason := result.blockReason
      consecutiveBlocks := row.consecutiveBlocks + 1 }
  else { row with
    lastSuccessAt := some now
    consecutiveBlocks := 0 }

theorem PolicyRow.learn_consecutiveBlocks (row : PolicyRow) (result : FetchResult) (tierUsed : Int)
    (vendor : Option String) (now : Instant) :
    (row.learn result tierUsed vendor now).consecutiveBlocks =
      if result.blocked then row.consecutiveBlocks + 1 else 0 := by
  unfold PolicyRow.learn
  cases vendor <;> dsimp only <;> split <;> split <;> rfl

theorem PolicyRow.learn_tierLocked (row : PolicyRow) (result : FetchResult) (tierUsed : Int)
    (vendor : Option String) (now : Instant) :
    (row.learn result tierUsed vendor now).tierLocked = row.tierLocked := by
  unfold PolicyRow.learn
  cases vendor <;> dsimp only <;> split <;> split <;> rfl

theorem PolicyRow.learn_escalationTier {row : PolicyRow} (hlocked : row.tierLocked = true)
    (result : FetchResult) (tierUsed : Int) (vendor : Option String) (now : Instant) :
    (row.learn result tierUsed vendor now).escalationTier = row.escalationTier := by
  unfold PolicyRow.learn
  cases vendor <;> simp only [hlocked] <;> split <;> rfl

structure LearnerDeliveries where
  select : Delivery Exn := .completes
  commit : Delivery Exn := .completes
  rollback : Delivery Exn := .completes
  selectInFlush : Bool := false
  commitInFlush : Bool := false

def learnerFailed (deliveries : LearnerDeliveries) (inFlush : Bool) (session : JobSession)
    (exn : Exn) : JobSession × Except Exn Unit :=
  if exn = .cancelled then (session, .error exn)
  -- `policy.domain` of the log line has expired, and the session rejects its reload
  else if (session.expire inFlush).expired then
    (session.expire inFlush, .error sessionExceptions.rejected)
  else session.rollback deliveries.rollback

/-- `record_outcome`; `row` is what the locking select finds. -/
def recordOutcome (text : TextMethods) (deliveries : LearnerDeliveries) (row : Option PolicyRow)
    (now : Instant) (result : FetchResult) (policy : Option PolicyRow) (session : JobSession) :
    JobSession × Except Exn Unit :=
  match policy with
  | none => (session, .ok ())
  | some _ =>
      let vendor := BlockDetector.detectVendor text result.headers [] (result.body.take 65536)
      let selected := session.execute sessionExceptions [] deliveries.select
      match selected.2 with
      | .error exn => learnerFailed deliveries deliveries.selectInFlush selected.1 exn
      | .ok () =>
          match row with
          | none => (selected.1, .ok ())
          | some row =>
              let learned := row.learn result result.tierUsed vendor now
              let committed := (selected.1.add (.policyOutcome learned)).commit
                sessionExceptions deliveries.commit
              match committed.2 with
              | .error exn => learnerFailed deliveries deliveries.commitInFlush committed.1 exn
              | .ok () => (committed.1, .ok ())

section Raising

variable {deliveries : LearnerDeliveries} {row : Option PolicyRow} {session : JobSession}

def Failed (delivery : Delivery Exn) : Prop :=
  ∃ exn, delivery.outcome = .error exn ∧ exn ≠ .cancelled

inductive LearnerDeliveries.Fails (deliveries : LearnerDeliveries) (row : Option PolicyRow) :
    Bool → Prop where
  | waiting : deliveries.Fails row true
  | select : Failed deliveries.select → deliveries.Fails row broken
  | commit : deliveries.select = .completes → row ≠ none → Failed deliveries.commit →
      deliveries.Fails row broken

/-- A flush has failed when the handler comes to its log line: before the learner, or in it. -/
inductive LearnerDeliveries.Expires (deliveries : LearnerDeliveries) (row : Option PolicyRow) :
    Bool → Bool → Prop where
  | before : deliveries.Expires row true true
  | waiting : deliveries.selectInFlush = true → deliveries.Expires row true expired
  | select : Failed deliveries.select → deliveries.selectInFlush = true →
      deliveries.Expires row broken expired
  | commit {exn : Exn} : deliveries.select = .completes → row ≠ none → exn ≠ .cancelled →
      deliveries.commit = .raises exn false → deliveries.commitInFlush = true →
      deliveries.Expires row false expired

/-- The interruption points of the learner, on a session that may be broken by a statement, or
by a flush. -/
inductive LearnerDeliveries.Raises (deliveries : LearnerDeliveries) (row : Option PolicyRow) :
    Bool → Bool → Prop where
  | select : deliveries.select.outcome = .error .cancelled → deliveries.Raises row false expired
  | commit : deliveries.select = .completes → row ≠ none →
      deliveries.commit.outcome = .error .cancelled → deliveries.Raises row false expired
  | expired : deliveries.Expires row broken expired → deliveries.Raises row broken expired
  | rollback : deliveries.Fails row broken → deliveries.rollback ≠ .completes →
      deliveries.Raises row broken expired

/-- A step over the session answers well, and leaves it taking statements, unless it
raises. -/
inductive Settles (raises : Prop) (answer : JobSession × Except Exn Unit) : Prop where
  | answers : ¬ raises → answer.2 = .ok () → answer.1.broken = false → Settles raises answer
  | raises {exn : Exn} : raises → answer.2 = .error exn → Settles raises answer

private theorem settles_learnerFailed {raises : Prop} {inFlush : Bool} {exn : Exn}
    (hcancelled : exn = .cancelled → raises)
    (hraises : exn ≠ .cancelled → (raises ↔
      (session.expire inFlush).expired = true ∨ deliveries.rollback ≠ .completes)) :
    Settles raises (learnerFailed deliveries inFlush session exn) := by
  unfold learnerFailed
  split
  · rename_i heq
    exact .raises (hcancelled heq) rfl
  · rename_i hne
    replace hraises := hraises hne
    split
    · rename_i hexpired
      exact .raises (hraises.mpr (.inl hexpired)) rfl
    · rename_i hexpired
      cases hrollback : deliveries.rollback with
      | completes =>
          refine .answers (fun h => ?_) rfl rfl
          exact (hraises.mp h).elim hexpired fun hne => hne hrollback
      | raises other applied =>
          exact .raises (hraises.mpr (.inr (by rw [hrollback]; exact nofun))) rfl

private theorem raises_waiting_iff {expired : Bool} : deliveries.Raises row true expired ↔
    (expired || deliveries.selectInFlush) = true ∨ deliveries.rollback ≠ .completes := by
  rw [Bool.or_eq_true]
  constructor
  · rintro (_ | _ | hexpires | ⟨-, hrollback⟩)
    · cases hexpires with
      | before => exact .inl (.inl rfl)
      | waiting hflush => exact .inl (.inr hflush)
      | select _ hflush => exact .inl (.inr hflush)
    · exact .inr hrollback
  · rintro ((rfl | hflush) | hrollback)
    · exact .expired .before
    · exact .expired (.waiting hflush)
    · exact .rollback .waiting hrollback

private theorem raises_unselected_iff {exn : Exn} (hexn : deliveries.select.outcome = .error exn)
    (hne : exn ≠ .cancelled) : deliveries.Raises row false false ↔
      deliveries.selectInFlush = true ∨ deliveries.rollback ≠ .completes := by
  have hcompletes : deliveries.select ≠ .completes := by
    intro hselect
    rw [hselect] at hexn
    cases hexn
  constructor
  · rintro (hcancelled | ⟨hselect, -, -⟩ | hexpires | ⟨-, hrollback⟩)
    · exact absurd (Except.error.inj (hexn.symm.trans hcancelled)) hne
    · exact absurd hselect hcompletes
    · cases hexpires with
      | select _ hflush => exact .inl hflush
      | commit hselect => exact absurd hselect hcompletes
    · exact .inr hrollback
  · rintro (hflush | hrollback)
    · exact .expired (.select ⟨exn, hexn, hne⟩ hflush)
    · exact .rollback (.select ⟨exn, hexn, hne⟩) hrollback

private theorem raises_uncommitted_iff {exn : Exn} {applied : Bool}
    (hselect : deliveries.select = .completes) (hrow : row ≠ none)
    (hcommit : deliveries.commit = .raises exn applied) (hne : exn ≠ .cancelled) :
    deliveries.Raises row false false ↔
      (deliveries.commitInFlush && !applied) = true ∨ deliveries.rollback ≠ .completes := by
  constructor
  · rintro (hcancelled | ⟨-, -, hcancelled⟩ | hexpires | ⟨-, hrollback⟩)
    · rw [hselect] at hcancelled
      cases hcancelled
    · rw [hcommit] at hcancelled
      exact absurd (Except.error.inj hcancelled) hne
    · cases hexpires with
      | select hfailed =>
          obtain ⟨other, hother, -⟩ := hfailed
          rw [hselect] at hother
          cases hother
      | commit _ _ _ hunapplied hflush =>
          rw [hcommit] at hunapplied
          cases hunapplied
          exact .inl (by rw [hflush]; rfl)
    · exact .inr hrollback
  · rintro (hexpires | hrollback)
    · rw [Bool.and_eq_true, Bool.not_eq_true'] at hexpires
      obtain ⟨hflush, rfl⟩ := hexpires
      exact .expired (.commit hselect hrow hne hcommit hflush)
    · exact .rollback (.commit hselect hrow ⟨exn, by rw [hcommit]; rfl, hne⟩) hrollback

private theorem not_raises_of_completes (hselect : deliveries.select = .completes)
    (hcommit : row ≠ none → deliveries.commit = .completes) :
    ¬ deliveries.Raises row false false := by
  rintro (hcancelled | ⟨-, hrow, hcancelled⟩ | hexpires | ⟨hfails, -⟩)
  · rw [hselect] at hcancelled
    cases hcancelled
  · rw [hcommit hrow] at hcancelled
    cases hcancelled
  · cases hexpires with
    | select hfailed =>
        obtain ⟨exn, hexn, -⟩ := hfailed
        rw [hselect] at hexn
        cases hexn
    | commit _ hrow _ hraises =>
        rw [hcommit hrow] at hraises
        cases hraises
  · cases hfails with
    | select hfailed =>
        obtain ⟨exn, hexn, -⟩ := hfailed
        rw [hselect] at hexn
        cases hexn
    | commit _ hrow hfailed =>
        obtain ⟨exn, hexn, -⟩ := hfailed
        rw [hcommit hrow] at hexn
        cases hexn

private theorem settles_committed (hselect : deliveries.select = .completes)
    (hbroken : session.broken = false) (learn : PolicyRow → PolicyRow) :
    Settles (deliveries.Raises row false false)
      (match row with
        | none => (session, .ok ())
        | some row =>
            match ((session.add (.policyOutcome (learn row))).commit sessionExceptions
              deliveries.commit).2 with
            | .error exn => learnerFailed deliveries deliveries.commitInFlush
                ((session.add (.policyOutcome (learn row))).commit sessionExceptions
                  deliveries.commit).1 exn
            | .ok () => (((session.add (.policyOutcome (learn row))).commit sessionExceptions
                deliveries.commit).1, .ok ())) := by
  cases row with
  | none => exact .answers (not_raises_of_completes hselect fun h => absurd rfl h) rfl hbroken
  | some row =>
      dsimp only
      have hadded : (session.add (.policyOutcome (learn row))).broken = false := hbroken
      obtain ⟨committed, hanswer, hleft, hstill, -⟩ :=
        Session.commit_of_open sessionExceptions deliveries.commit hadded
      rw [hanswer]
      cases hcommit : deliveries.commit with
      | completes =>
          rw [hcommit] at hleft
          exact .answers (not_raises_of_completes hselect fun _ => hcommit) rfl hleft
      | raises exn applied =>
          rw [hcommit] at hleft
          refine settles_learnerFailed (fun hcancelled => ?_) fun hne => ?_
          · exact .commit hselect nofun (by rw [hcommit, hcancelled]; rfl)
          · rw [raises_uncommitted_iff hselect (Option.some_ne_none row) hcommit hne]
            simp [hstill, hleft, Session.Exceptions.breaksCommit,
              sessionExceptions, hne]

/-- The learner answers well, with a session that takes statements, or raises. -/
theorem recordOutcome_settles (text : TextMethods) (deliveries : LearnerDeliveries)
    (row : Option PolicyRow) (now : Instant) (result : FetchResult) (policy : PolicyRow)
    (session : JobSession) :
    Settles (deliveries.Raises row session.broken session.expired)
      (recordOutcome text deliveries row now result (some policy) session) := by
  unfold recordOutcome
  cases hbroken : session.broken with
  | true =>
      rw [Session.execute_of_broken hbroken]
      refine settles_learnerFailed nofun fun _ => ?_
      rw [raises_waiting_iff, Session.expired_expire, hbroken, Bool.and_true]
  | false =>
      have hunexpired : session.expired = false := Session.expired_of_open hbroken
      rw [hunexpired]
      obtain ⟨selected, hanswer, hleft, hstill, -⟩ :=
        Session.execute_of_open sessionExceptions deliveries.select hbroken
      rw [hanswer]
      cases hselect : deliveries.select with
      | completes =>
          rw [hselect] at hleft
          exact settles_committed hselect hleft fun row =>
            row.learn result result.tierUsed _ now
      | raises exn applied =>
          rw [hselect] at hleft
          have hexn : deliveries.select.outcome = .error exn := by rw [hselect]; rfl
          refine settles_learnerFailed (fun hcancelled => ?_) fun hne => ?_
          · exact .select (by rw [hexn, hcancelled])
          · rw [raises_unselected_iff hexn hne]
            simp [hstill, hleft, Session.Exceptions.breaks, sessionExceptions, hne]

end Raising

end CrawlerApi.Worker
