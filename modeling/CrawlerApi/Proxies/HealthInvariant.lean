import CrawlerApi.Proxies.Cooldown
import CrawlerApi.Proxies.Inserts
import CrawlerApi.Proxies.Settled
import Mathlib.Algebra.Order.Field.Rat

/-!
# The health columns of one proxy

Reports, resets, imports and syncs write one row, each in sessions of its own.  The
health stays in its range, the cooldown stands exactly while failures are counted, and
the counted failures are among the errors.
-/

namespace CrawlerApi.Proxies

open Foundation Keys

inductive RowWrite where
  | importItem (text : TextMethods) (item : ImportItem)
  | upsert (provider : String) (raw : RawProxy)
  | move (provider : String) (among : List String) (pool : Uuid)
  | setActive (provider : String) (among : List String) (active : Bool)

namespace RowWrite

/-- The row is the one in conflict, or one the `WHERE` picks. -/
def selects (proxy : Proxy) : RowWrite → Bool
  | .importItem _ item => proxy.key = ("webshare", item.url)
  | .upsert provider raw => proxy.key = (provider, raw.url)
  | .move provider among _ | .setActive provider among _ =>
      proxy.provider = provider && proxy.url ∈ among

def edit : RowWrite → Edit
  | .importItem text item => reimport text item
  | .upsert provider raw => refresh provider raw
  | .move provider among pool => editUrls provider among (Proxies.setPool pool)
  | .setActive provider among active => editUrls provider among (Proxies.setActive active)

def written (write : RowWrite) (version : Version) : Version :=
  match write with
  | .importItem .. => ⟨write.edit.apply version.proxy, .reset :: version.history⟩
  | _ => ⟨write.edit.apply version.proxy, version.history⟩

end RowWrite

inductive Insertion where
  | sync (provider : String) (raw : RawProxy)
  | bulkImport (text : TextMethods) (item : ImportItem)
  | admin (text : TextMethods) (body : ProxyCreate)

def Insertion.row (id pool : Uuid) : Insertion → Proxy
  | .sync provider raw => newProxy provider pool id raw
  | .bulkImport text item => importedProxy text id pool item
  | .admin text body => createdProxy text id pool body

/-- The reports on the row; the sessions of `reset_proxy` with the row they loaded. -/
structure SharedRow where
  reports : Reports
  loaded : Session → Option Version := fun _ => none

inductive RowAction where
  | report (action : Action)
  | load (session : Session)
  | reset (session : Session)
  | write (session : Session) (write : RowWrite)

namespace SharedRow

/-- The row as the transaction that inserts it commits it. -/
def start (proxy : Proxy) (writes : List RowWrite) (now : Moment) : SharedRow where
  reports := Reports.start (writes.foldl (fun row write => write.edit.apply row) proxy) now

def setRow (shared : SharedRow) (row : RowLock Session Version) : SharedRow :=
  { shared with reports := { shared.reports with row := row } }

def setLoaded (shared : SharedRow) (session : Session) (version : Option Version) : SharedRow :=
  { shared with loaded := Function.update shared.loaded session version }

/-- A statement that does not pick the row takes no lock; the commits are reports'. -/
def step (shared : SharedRow) : RowAction → Option SharedRow
  | .report action =>
      (shared.reports.step action).map fun reports => { shared with reports := reports }
  | .load session =>
      some (shared.setLoaded session (some (shared.reports.row.visible session)))
  | .reset session =>
      match shared.loaded session with
      | none => none
      | some version =>
          if version.proxy.isReset then some (shared.setLoaded session none)
          else
            (shared.reports.row.update session version.reset).map fun row =>
              (shared.setRow row).setLoaded session none
  | .write session write =>
      if write.selects shared.reports.row.latest.proxy then
        (shared.reports.row.update session write.written).map shared.setRow
      else some shared

end SharedRow

structure Healthy (proxy : Proxy) : Prop where
  lower : 0 ≤ proxy.healthScore
  upper : proxy.healthScore ≤ 1
  paired : proxy.consecutiveFailures = 0 ↔ proxy.cooldownUntil = none
  counted : proxy.consecutiveFailures ≤ proxy.totalErrors
  requested : proxy.totalErrors ≤ proxy.totalRequests

def Version.errors (version : Version) : Nat := version.proxy.totalErrors

section Writes

variable {proxy : Proxy} {version seen loaded : Version} {time : Moment}

theorem healthy_of_fresh (hscore : proxy.healthScore = 1)
    (hfailures : proxy.consecutiveFailures = 0) (hcooldown : proxy.cooldownUntil = none)
    (hrequested : proxy.totalErrors ≤ proxy.totalRequests) : Healthy proxy where
  lower := by
    rw [hscore]
    decide
  upper := le_of_eq hscore
  paired := iff_of_true hfailures hcooldown
  counted := by
    rw [hfailures]
    exact Nat.zero_le _
  requested := hrequested

theorem Insertion.row_healthy (insertion : Insertion) (id pool : Uuid) :
    Healthy (insertion.row id pool) := by
  cases insertion with
  | sync provider raw => exact healthy_of_fresh rfl rfl rfl (Nat.le_refl _)
  | bulkImport text item => exact healthy_of_fresh rfl rfl rfl (Nat.le_refl _)
  | admin text body => exact healthy_of_fresh rfl rfl rfl (Nat.le_refl _)

theorem recordSuccess_healthy (h : Healthy proxy) : Healthy (recordSuccess proxy) where
  lower := by
    have hraised : 0 ≤ proxy.healthScore + healthRecover :=
      add_nonneg h.lower (by decide +kernel)
    change 0 ≤ least (proxy.healthScore + healthRecover) 1
    unfold least
    split
    · exact hraised
    · decide
  upper := by
    change least (proxy.healthScore + healthRecover) 1 ≤ 1
    unfold least
    split
    · assumption
    · exact le_refl 1
  paired := iff_of_true rfl rfl
  counted := Nat.zero_le _
  requested := Nat.le_trans h.requested (Nat.le_succ _)

theorem recordFailure_healthy {failures : Nat} {cooldownUntil : Moment} (h : Healthy proxy)
    (hseen : failures ≤ proxy.totalErrors) :
    Healthy (recordFailure (failures + 1) cooldownUntil proxy) where
  lower := by
    change 0 ≤ greatest (proxy.healthScore - healthDecay) 0
    unfold greatest
    split
    · exact le_refl 0
    · rename_i hpositive
      exact le_of_lt (lt_of_not_ge hpositive)
  upper := by
    have hdecay : (0 : Rat) ≤ healthDecay := by decide +kernel
    change greatest (proxy.healthScore - healthDecay) 0 ≤ 1
    unfold greatest
    split
    · decide
    · exact le_trans (sub_le_self _ hdecay) h.upper
  paired := iff_of_false (Nat.succ_ne_zero _) (Option.some_ne_none _)
  counted := Nat.succ_le_succ hseen
  requested := Nat.succ_le_succ h.requested

theorem resetProxy_healthy (h : Healthy proxy) (hloaded : Healthy loaded.proxy) :
    Healthy (resetProxy loaded.proxy proxy) := by
  have hscore : (resetProxy loaded.proxy proxy).healthScore = proxy.healthScore ∨
      (resetProxy loaded.proxy proxy).healthScore = 1 := by
    by_cases hone : loaded.proxy.healthScore = 1
    · exact .inl (if_pos hone)
    · exact .inr (if_neg hone)
  have hlower : 0 ≤ (resetProxy loaded.proxy proxy).healthScore := by
    rcases hscore with heq | heq
    · rw [heq]
      exact h.lower
    · rw [heq]
      decide
  have hupper : (resetProxy loaded.proxy proxy).healthScore ≤ 1 := by
    rcases hscore with heq | heq
    · rw [heq]
      exact h.upper
    · rw [heq]
  by_cases hzero : loaded.proxy.consecutiveFailures = 0
  · have hfailures : (resetProxy loaded.proxy proxy).consecutiveFailures =
        proxy.consecutiveFailures := if_pos hzero
    have hcooldown : (resetProxy loaded.proxy proxy).cooldownUntil = proxy.cooldownUntil :=
      if_pos (hloaded.paired.mp hzero)
    refine ⟨hlower, hupper, ?_, ?_, h.requested⟩
    · rw [hfailures, hcooldown]
      exact h.paired
    · rw [hfailures]
      exact h.counted
  · have hfailures : (resetProxy loaded.proxy proxy).consecutiveFailures = 0 := if_neg hzero
    have hcooldown : (resetProxy loaded.proxy proxy).cooldownUntil = none :=
      if_neg fun hnone => hzero (hloaded.paired.mpr hnone)
    refine ⟨hlower, hupper, iff_of_true hfailures hcooldown, ?_, h.requested⟩
    rw [hfailures]
    exact Nat.zero_le _

theorem Healthy.congr {after : Proxy} (h : Healthy proxy) (hsame : SameHealth proxy after) :
    Healthy after where
  lower := by
    rw [hsame.healthScore]
    exact h.lower
  upper := by
    rw [hsame.healthScore]
    exact h.upper
  paired := by
    rw [hsame.consecutiveFailures, hsame.cooldownUntil]
    exact h.paired
  counted := by
    rw [hsame.consecutiveFailures, hsame.totalErrors]
    exact h.counted
  requested := by
    rw [hsame.totalErrors, hsame.totalRequests]
    exact h.requested

theorem SameHealth.refl (proxy : Proxy) : SameHealth proxy proxy := ⟨rfl, rfl, rfl, rfl, rfl⟩

theorem editUrls_sameHealth {provider : String} {among : List String} {change : Edit}
    (h : SameHealth proxy (change.apply proxy)) :
    SameHealth proxy ((editUrls provider among change).apply proxy) := by
  unfold editUrls
  dsimp only
  split
  · exact h
  · exact SameHealth.refl proxy

theorem refresh_sameHealth (provider : String) (raw : RawProxy) :
    SameHealth proxy ((refresh provider raw).apply proxy) := by
  unfold refresh
  dsimp only
  split
  · exact ⟨rfl, rfl, rfl, rfl, rfl⟩
  · exact SameHealth.refl proxy

theorem reimport_healthy (h : Healthy proxy) (text : TextMethods) (item : ImportItem) :
    Healthy ((reimport text item).apply proxy) ∧
      ((reimport text item).apply proxy).totalErrors = proxy.totalErrors := by
  unfold reimport
  dsimp only
  split
  · exact ⟨healthy_of_fresh rfl rfl rfl h.requested, rfl⟩
  · exact ⟨h, rfl⟩

/-- No statement of an import or of a sync touches the totals. -/
theorem RowWrite.edit_healthy (h : Healthy proxy) (write : RowWrite) :
    Healthy (write.edit.apply proxy) ∧
      (write.edit.apply proxy).totalErrors = proxy.totalErrors := by
  have hkept (hsame : SameHealth proxy (write.edit.apply proxy)) :
      Healthy (write.edit.apply proxy) ∧
        (write.edit.apply proxy).totalErrors = proxy.totalErrors :=
    ⟨h.congr hsame, hsame.totalErrors⟩
  cases write with
  | importItem text item => exact reimport_healthy h text item
  | upsert provider raw => exact hkept (refresh_sameHealth provider raw)
  | move provider among pool => exact hkept (editUrls_sameHealth ⟨rfl, rfl, rfl, rfl, rfl⟩)
  | setActive provider among active => exact hkept (editUrls_sameHealth ⟨rfl, rfl, rfl, rfl, rfl⟩)

theorem RowWrite.written_proxy (write : RowWrite) (version : Version) :
    (write.written version).proxy = write.edit.apply version.proxy := by
  cases write with
  | importItem | upsert | move | setActive => rfl

end Writes

def Version.Healthy (version : Version) : Prop := Proxies.Healthy version.proxy

def Counted (errors : Nat) : Phase → Prop
  | .idle | .recorded _ => True
  | .selected seen | .computed seen _ => seen.proxy.consecutiveFailures ≤ errors

structure SoundRow (shared : SharedRow) : Prop where
  row : RowLock.Both Version.Healthy shared.reports.row
  errors : shared.reports.row.committed.errors ≤ shared.reports.row.latest.errors
  phase : ∀ session, Counted (shared.reports.row.visible session).errors
    (shared.reports.phase session)
  loaded : ∀ session version, shared.loaded session = some version → version.Healthy

section Steps

variable {shared next : SharedRow} {reports : Reports} {action : Action} {session : Session}
  {row : RowLock Session Version} {change : Version → Version} {phase : Phase}
  {errors more : Nat}

theorem Counted.mono (h : Counted errors phase) (hle : errors ≤ more) : Counted more phase := by
  cases phase with
  | idle | recorded _ => trivial
  | selected seen => exact Nat.le_trans h hle
  | computed seen time => exact Nat.le_trans h hle

theorem counted_setPhase {state : Reports}
    (h : ∀ other, other ≠ session →
      Counted (state.row.visible other).errors (state.phase other))
    (hphase : Counted (state.row.visible session).errors phase) (other : Session) :
    Counted ((state.setPhase session phase).row.visible other).errors
      ((state.setPhase session phase).phase other) := by
  unfold Reports.setPhase
  by_cases hsame : other = session
  · subst hsame
    simpa using hphase
  · simpa [hsame] using h other hsame

theorem SoundRow.write (h : SoundRow shared) (hhealthy : (change shared.reports.row.latest).Healthy)
    (hgrows : shared.reports.row.latest.errors ≤ (change shared.reports.row.latest).errors)
    (hrow : shared.reports.row.update session change = some row) :
    SoundRow (shared.setRow row) where
  row := h.row.update hhealthy hrow
  errors := RowLock.grown_update h.errors hgrows hrow
  phase other := (h.phase other).mono (RowLock.visible_le_update hgrows hrow other)
  loaded := h.loaded

theorem SoundRow.setPhase (h : SoundRow shared)
    (hphase : Counted (shared.reports.row.visible session).errors phase) :
    SoundRow { shared with reports := shared.reports.setPhase session phase } where
  row := h.row
  errors := h.errors
  phase := counted_setPhase (fun other _ => h.phase other) hphase
  loaded := h.loaded

theorem SoundRow.setLoaded (h : SoundRow shared) {loaded : Option Version}
    (hloaded : ∀ version, loaded = some version → version.Healthy) :
    SoundRow (shared.setLoaded session loaded) where
  row := h.row
  errors := h.errors
  phase := h.phase
  loaded := by
    intro other version hother
    by_cases hsame : other = session
    · subst hsame
      exact hloaded version (by simpa [SharedRow.setLoaded] using hother)
    · exact h.loaded other version (by simpa [SharedRow.setLoaded, hsame] using hother)

theorem SoundRow.commit (h : SoundRow shared) (session : Session) :
    SoundRow (shared.setRow (shared.reports.row.commit session)) where
  row := h.row.commit session
  errors := RowLock.grown_commit h.errors session
  phase other := (h.phase other).mono (RowLock.visible_le_commit h.errors session other)
  loaded := h.loaded

/-- A rollback forgets errors, but only of the session that forgets what it has seen. -/
theorem SoundRow.rollback (h : SoundRow shared) (session : Session) :
    SoundRow { shared with reports :=
      { shared.reports with row := shared.reports.row.rollback session }.setPhase session .idle }
    where
  row := h.row.rollback session
  errors := RowLock.grown_rollback h.errors session
  phase := by
    refine counted_setPhase (fun other hne => ?_) trivial
    have hvisible : (shared.reports.row.rollback session).visible other =
        shared.reports.row.visible other := RowLock.visible_rollback hne
    change Counted ((shared.reports.row.rollback session).visible other).errors _
    rw [hvisible]
    exact h.phase other
  loaded := h.loaded

theorem SoundRow.report (h : SoundRow shared)
    (hstep : shared.reports.step action = some reports) :
    SoundRow { shared with reports := reports } := by
  cases Reports.stepped hstep with
  | tick elapsed => exact ⟨h.row, h.errors, h.phase, h.loaded⟩
  | success _ hrow =>
      have hhealthy : (Reports.succeeded shared.reports.row.latest).Healthy :=
        recordSuccess_healthy h.row.latest
      exact h.write hhealthy (Nat.le_refl _) hrow
  | select _ =>
      have hseen := h.row.visible
      exact h.setPhase (hseen _).counted
  | @compute session seen hselected =>
      have hseen := h.phase session
      rw [hselected] at hseen
      exact h.setPhase hseen
  | @update session seen time row hcomputed hrow =>
      have hseen := h.phase session
      rw [hcomputed, RowLock.visible_of_admits (RowLock.update_eq_some hrow).1] at hseen
      have hhealthy : (Reports.failed seen time shared.reports.row.latest).Healthy :=
        recordFailure_healthy h.row.latest hseen
      have hwritten : SoundRow (shared.setRow row) := h.write hhealthy (Nat.le_succ _) hrow
      exact hwritten.setPhase trivial
  | respond _ => exact h.setPhase trivial
  | @commit session _ => exact h.commit session
  | rollback session => exact h.rollback session

theorem SoundRow.step {rowAction : RowAction} (h : SoundRow shared)
    (hstep : shared.step rowAction = some next) : SoundRow next := by
  cases rowAction with
  | report action =>
      obtain ⟨reports, hreports, rfl⟩ := Option.map_eq_some_iff.mp hstep
      exact h.report hreports
  | load session =>
      cases hstep
      apply h.setLoaded
      intro version hversion
      cases hversion
      exact h.row.visible session
  | reset session =>
      dsimp only [SharedRow.step] at hstep
      split at hstep
      · cases hstep
      · rename_i version hloaded
        have hforget (version : Version) (hnone : none = some version) : version.Healthy :=
          absurd hnone.symm (Option.some_ne_none _)
        split at hstep
        · cases hstep
          exact h.setLoaded hforget
        · obtain ⟨row, hrow, rfl⟩ := Option.map_eq_some_iff.mp hstep
          have hhealthy : (version.reset shared.reports.row.latest).Healthy :=
            resetProxy_healthy h.row.latest (h.loaded session version hloaded)
          have hwritten : SoundRow (shared.setRow row) := h.write hhealthy (Nat.le_refl _) hrow
          exact hwritten.setLoaded hforget
  | write session write =>
      dsimp only [SharedRow.step] at hstep
      split at hstep
      · obtain ⟨row, hrow, rfl⟩ := Option.map_eq_some_iff.mp hstep
        obtain ⟨hhealthy, herrors⟩ := RowWrite.edit_healthy h.row.latest write
        rw [← RowWrite.written_proxy] at hhealthy herrors
        exact h.write hhealthy (Nat.le_of_eq herrors.symm) hrow
      · cases hstep
        exact h

end Steps

section Runs

variable {proxy : Proxy} {insertion : Insertion} {id pool : Uuid} {writes : List RowWrite}
  {now : Moment} {actions : List RowAction} {shared : SharedRow}

theorem writes_healthy (h : Healthy proxy) :
    Healthy (writes.foldl (fun row write => write.edit.apply row) proxy) := by
  induction writes generalizing proxy with
  | nil => exact h
  | cons write writes ih => exact ih (RowWrite.edit_healthy h write).1

theorem start_soundRow (h : Healthy proxy) : SoundRow (SharedRow.start proxy writes now) where
  row := ⟨writes_healthy h, writes_healthy h⟩
  errors := Nat.le_refl _
  phase _ := trivial
  loaded _ _ hloaded := by cases hloaded

/-- In every state of the row, from its insertion on, under any interleaving. -/
theorem health_invariants
    (hrun : run SharedRow.step (SharedRow.start (insertion.row id pool) writes now) actions =
      some shared) :
    RowLock.Both (fun version => Healthy version.proxy) shared.reports.row := by
  have hsound : SoundRow shared :=
    run_kept (fun _ _ _ h hstep => h.step hstep)
      (start_soundRow (insertion.row_healthy id pool)) hrun
  exact hsound.row

end Runs

/-! A failure that goes by the failure before a reset. -/

def addedProxy : Insertion := .admin asciiText { url := "http://u:p@192.0.2.1:8080" }

def failureAcrossReset : List RowAction := [.report (.select 1), .report (.compute 1),
  .report (.update 1), .report (.respond 1), .report (.commit 1), .report (.select 3), .load 2,
  .reset 2, .report (.commit 2), .report (.compute 3), .report (.update 3)]

theorem failureAcrossReset_healthy : ∃ shared,
    run SharedRow.step (SharedRow.start (addedProxy.row 1 7) [] 0) failureAcrossReset =
      some shared ∧ shared.reports.row.latest.proxy.consecutiveFailures = 2 ∧
        RowLock.Both (fun version => Healthy version.proxy) shared.reports.row := by
  have hcount : (run SharedRow.step (SharedRow.start (addedProxy.row 1 7) [] 0)
      failureAcrossReset).map (fun shared => shared.reports.row.latest.proxy.consecutiveFailures) =
        some 2 := by decide +kernel
  obtain ⟨shared, hrun, hfailures⟩ := Option.map_eq_some_iff.mp hcount
  exact ⟨shared, hrun, hfailures, health_invariants hrun⟩

end CrawlerApi.Proxies
