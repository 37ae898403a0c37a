import CrawlerApi.Foundation.RowLock
import CrawlerApi.Foundation.Run
import CrawlerApi.Worker.Learner

/-!
# The sessions around one policy row

Jobs and operators load the row into the identity map of their session, change the
copy and flush it.  A flush sends the attributes that differ from what was loaded;
a later `SELECT` of the session, the locking one included, leaves the copy alone.
-/

namespace CrawlerApi.Worker

open Keys Fetch Foundation

abbrev Connection := Nat

/-- One attribute of an `UPDATE`: assigned what it was loaded as, it is not sent. -/
def written [DecidableEq α] (loaded changed stored : α) : α :=
  if changed = loaded then stored else changed

@[simp] theorem written_self [DecidableEq α] (loaded stored : α) :
    written loaded loaded stored = stored := if_pos rfl

theorem written_of_eq [DecidableEq α] {loaded changed stored : α} (h : loaded = stored) :
    written loaded changed stored = changed := by
  unfold written
  split
  · rename_i heq
    rw [heq, h]
  · rfl

/-- The `UPDATE` of a flush, over the row as it is stored. -/
def PolicyRow.flush (loaded changed stored : PolicyRow) : PolicyRow :=
  { stored with
    antibotType := written loaded.antibotType changed.antibotType stored.antibotType
    escalationTier := written loaded.escalationTier changed.escalationTier stored.escalationTier
    tierLocked := written loaded.tierLocked changed.tierLocked stored.tierLocked
    lastSuccessAt := written loaded.lastSuccessAt changed.lastSuccessAt stored.lastSuccessAt
    lastBlockReason :=
      written loaded.lastBlockReason changed.lastBlockReason stored.lastBlockReason
    consecutiveBlocks :=
      written loaded.consecutiveBlocks changed.consecutiveBlocks stored.consecutiveBlocks }

def PolicyRow.recorded (text : TextMethods) (result : FetchResult) (now : Instant)
    (copy : PolicyRow) : PolicyRow :=
  copy.learn result result.tierUsed
    (BlockDetector.detectVendor text result.headers [] (result.body.take 65536)) now

theorem recordOutcome_commits (text : TextMethods) (copy policy : PolicyRow)
    (result : FetchResult) (now : Instant) :
    recordOutcome text {} (some copy) now result (some policy) {} =
      ({ committed := [.policyOutcome (copy.recorded text result now)] }, .ok ()) := rfl

def PolicyRow.pinned (tier : Option Int) (locked : Bool) (copy : PolicyRow) : PolicyRow :=
  { copy with escalationTier := tier.getD copy.escalationTier, tierLocked := locked }

def tierAccepted (tier : Option Int) : Bool :=
  tier.all fun tier => 0 ≤ tier ∧ tier ≤ 6

/-- The row, the copies in the identity maps, and the outcomes recorded so far, blocked
or not, latest first; the outcomes steer nothing. -/
structure PolicyStore where
  row : RowLock Connection PolicyRow
  isActive : Bool
  copies : Connection → Option PolicyRow
  outcomes : List Bool

namespace PolicyStore

inductive Action where
  | resolve (session : Connection)
  | get (session : Connection)
  | record (session : Connection) (result : FetchResult) (now : Instant)
  | pin (session : Connection) (tier : Option Int) (locked : Bool)
  | commit (session : Connection)
  | rollback (session : Connection)

def start (row : PolicyRow) (isActive : Bool) : PolicyStore where
  row := ⟨row, none⟩
  isActive := isActive
  copies := fun _ => none
  outcomes := []

def setCopy (state : PolicyStore) (session : Connection) (copy : Option PolicyRow) : PolicyStore :=
  { state with copies := Function.update state.copies session copy }

/-- A `SELECT`; the identity map keeps the copy it has. -/
def load (state : PolicyStore) (session : Connection) : PolicyStore :=
  match state.copies session with
  | some _ => state
  | none => state.setCopy session (some (state.row.visible session))

def undo (state : PolicyStore) (session : Connection) : PolicyStore :=
  { state with row := state.row.rollback session }.setCopy session none

/-- `record_outcome` up to its commit; `FOR UPDATE SKIP LOCKED` finds no row while another
session holds it. -/
def recordOn (text : TextMethods) (state : PolicyStore) (session : Connection) (copy : PolicyRow)
    (result : FetchResult) (now : Instant) : PolicyStore :=
  let outcomes := result.blocked :: state.outcomes
  match state.row.update session (copy.flush (copy.recorded text result now)) with
  | none => { state with outcomes := outcomes }
  | some row =>
      { state with row := row, outcomes := outcomes }.setCopy session
        (some (copy.recorded text result now))

def pinOn (state : PolicyStore) (session : Connection) (copy changed : PolicyRow) :
    Option PolicyStore :=
  if changed = copy then some state
  else (state.row.update session (copy.flush changed)).map fun row =>
    { state with row := row }.setCopy session (some changed)

def step (text : TextMethods) (state : PolicyStore) : Action → Option PolicyStore
  | .resolve session => if state.isActive then some (state.load session) else some state
  | .get session => some (state.load session)
  | .record session result now =>
      match state.copies session with
      | none => some state
      | some copy => some (recordOn text state session copy result now)
  | .pin session tier locked =>
      match state.copies session with
      | none => none
      | some copy =>
          if tierAccepted tier then state.pinOn session copy (copy.pinned tier locked)
          else some state
  | .commit session => some { state with row := state.row.commit session }
  | .rollback session => some (state.undo session)

inductive Stepped (text : TextMethods) (state next : PolicyStore) : Action → Prop where
  | read {action : Action} : next.row = state.row → next.outcomes = state.outcomes →
      Stepped text state next action
  | skipped {session : Connection} {result : FetchResult} {now : Instant} {copy : PolicyRow} :
      state.copies session = some copy → state.row.admits session = false →
      next.row = state.row →
      next.outcomes = result.blocked :: state.outcomes →
      Stepped text state next (.record session result now)
  | recorded {session : Connection} {result : FetchResult} {now : Instant} {copy : PolicyRow} :
      state.copies session = some copy →
      state.row.update session (copy.flush (copy.recorded text result now)) = some next.row →
      next.outcomes = result.blocked :: state.outcomes →
      Stepped text state next (.record session result now)
  | pinned {session : Connection} {tier : Option Int} {locked : Bool} {copy : PolicyRow} :
      state.copies session = some copy →
      state.row.update session (copy.flush (copy.pinned tier locked)) = some next.row →
      next.outcomes = state.outcomes → Stepped text state next (.pin session tier locked)
  | committed {session : Connection} : next.row = state.row.commit session →
      next.outcomes = state.outcomes → Stepped text state next (.commit session)
  | undone {session : Connection} : next.row = state.row.rollback session →
      next.outcomes = state.outcomes → Stepped text state next (.rollback session)

variable {text : TextMethods} {state next : PolicyStore} {action : Action}
  {session : Connection} {copy : PolicyRow} {result : FetchResult} {now : Instant}

theorem load_row (state : PolicyStore) (session : Connection) :
    (state.load session).row = state.row ∧ (state.load session).outcomes = state.outcomes := by
  unfold load
  split
  · exact ⟨rfl, rfl⟩
  · exact ⟨rfl, rfl⟩

theorem stepped (h : state.step text action = some next) : Stepped text state next action := by
  cases action with
  | resolve session =>
      dsimp only [step] at h
      obtain ⟨hrow, houtcomes⟩ := load_row state session
      split at h
      · cases h
        exact .read hrow houtcomes
      · cases h
        exact .read rfl rfl
  | get session =>
      cases h
      obtain ⟨hrow, houtcomes⟩ := load_row state session
      exact .read hrow houtcomes
  | record session result now =>
      dsimp only [step] at h
      split at h
      · cases h
        exact .read rfl rfl
      · rename_i copy hcopy
        cases h
        unfold recordOn
        dsimp only
        split
        · rename_i hupdate
          exact .skipped hcopy (RowLock.update_eq_none hupdate) rfl rfl
        · rename_i row hupdate
          exact .recorded hcopy hupdate rfl
  | pin session tier locked =>
      dsimp only [step] at h
      split at h
      · cases h
      · rename_i copy hcopy
        split at h
        · unfold pinOn at h
          split at h
          · cases h
            exact .read rfl rfl
          · obtain ⟨row, hrow, rfl⟩ := Option.map_eq_some_iff.mp h
            exact .pinned hcopy hrow rfl
        · cases h
          exact .read rfl rfl
  | commit session =>
      cases h
      exact .committed rfl rfl
  | rollback session =>
      cases h
      exact .undone rfl rfl

end PolicyStore

end CrawlerApi.Worker
