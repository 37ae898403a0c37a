import CrawlerApi.Proxies.Health
import CrawlerApi.Proxies.Selection

/-!
# Cooldowns across sessions

Jobs report on a proxy in their own transactions, an operator resets it, and
`get_proxy` reads the committed row in a session of its own.
-/

namespace CrawlerApi.Proxies

open Foundation Keys

/-- The reports on one proxy; the deadlines of the failures that have returned since
the last success or reset; the sessions of `reset_proxy` with the row they loaded. -/
structure Fleet where
  reports : Reports
  reported : List Moment := []
  resetting : Session → Option Version := fun _ => none

/-- One call of `get_proxy`: the table it reads and what answers it. -/
structure Call where
  text : TextMethods
  table : ProxyTable
  lookups : Lookups
  arguments : Arguments
  draw : Draw

inductive Event where
  | report (action : Action)
  | loadReset (session : Session)
  | reset (session : Session)
  | getProxy (call : Call)

/-- `reset_proxy` writes the columns whose new value is not the one it loaded. -/
def resetProxy (loaded : Proxy) (proxy : Proxy) : Proxy :=
  { proxy with
    healthScore := if loaded.healthScore = 1 then proxy.healthScore else 1
    consecutiveFailures := if loaded.consecutiveFailures = 0 then proxy.consecutiveFailures else 0
    cooldownUntil := if loaded.cooldownUntil = none then proxy.cooldownUntil else none }

/-- Nothing to write for `reset_proxy`: no statement is sent. -/
def Proxy.isReset (proxy : Proxy) : Bool :=
  proxy.healthScore = 1 && proxy.consecutiveFailures = 0 && proxy.cooldownUntil = none

def Version.reset (loaded : Version) (version : Version) : Version :=
  ⟨resetProxy loaded.proxy version.proxy, .reset :: version.history⟩

namespace Fleet

def start (proxy : Proxy) (now : Moment) : Fleet := { reports := Reports.start proxy now }

/-- The deadlines behind an action: a success clears them, a failure that returns
adds its own. -/
def reportedAfter (fleet : Fleet) : Action → List Moment
  | .success _ => []
  | .respond session =>
      match fleet.reports.phase session with
      | .recorded cooldownUntil => cooldownUntil :: fleet.reported
      | _ => fleet.reported
  | _ => fleet.reported

def setRow (fleet : Fleet) (row : RowLock Session Version) : Fleet :=
  { fleet with reports := { fleet.reports with row := row } }

def reads (fleet : Fleet) (call : Call) : Prop :=
  ∀ proxy ∈ call.table.rows, proxy.id = fleet.reports.row.committed.proxy.id →
    proxy = fleet.reports.row.committed.proxy

instance (fleet : Fleet) (call : Call) : Decidable (fleet.reads call) :=
  inferInstanceAs (Decidable (∀ proxy ∈ call.table.rows, _ → _))

def step (fleet : Fleet) : Event → Option Fleet
  | .report action =>
      (fleet.reports.step action).map fun reports =>
        { fleet with reports := reports, reported := fleet.reportedAfter action }
  | .loadReset session =>
      some { fleet with
        resetting := Function.update fleet.resetting session
          (some (fleet.reports.row.visible session)) }
  | .reset session =>
      match fleet.resetting session with
      | none => none
      | some loaded =>
          let done := { fleet with
            reported := []
            resetting := Function.update fleet.resetting session none }
          if loaded.proxy.isReset then some done
          else
            (fleet.reports.row.update session loaded.reset).map fun row =>
              done.setRow (row.commit session)
  | .getProxy call => if fleet.reads call then some fleet else none

end Fleet

def Effect.deadline : Effect → Moment
  | .failure time cooldown => time + seconds cooldown
  | .success | .reset => 0

/-- The row keeps the deadline of each of its recent failures, and no deadline lies
further ahead than the cooldown of its count. -/
structure Covered (time : Moment) (version : Version) : Prop where
  kept : ∀ effect ∈ recent version.history, ∃ cooldownUntil,
    version.proxy.cooldownUntil = some cooldownUntil ∧ effect.deadline ≤ cooldownUntil
  near : ∀ effect ∈ recent version.history,
    effect.deadline ≤ time + seconds (cooldownS version.proxy.consecutiveFailures)

def CoveredPhase (now : Moment) : Phase → Prop
  | .idle | .recorded _ => True
  | .selected seen => Covered now seen
  | .computed seen time => Covered time seen ∧ time ≤ now

structure Sound (fleet : Fleet) : Prop where
  row : RowLock.Both (Covered fleet.reports.now) fleet.reports.row
  phase : ∀ session, CoveredPhase fleet.reports.now (fleet.reports.phase session)

/-- A failure writes over the very version it has read, and a call of `get_proxy`
finds the failures that have returned since the last success or reset committed. -/
def Orderly (fleet : Fleet) : Event → Prop
  | .report (.update session) => ∀ seen time, fleet.reports.phase session = .computed seen time →
      seen = fleet.reports.row.latest
  | .getProxy _ => ∀ cooldownUntil ∈ fleet.reported,
      ∃ effect ∈ recent fleet.reports.row.committed.history, effect.deadline = cooldownUntil
  | _ => True

section Covering

variable {time now : Moment} {version loaded : Version}

theorem Covered.later (h : Covered time version) (hle : time ≤ now) : Covered now version :=
  ⟨h.kept, fun effect hmem => Int.le_trans (h.near effect hmem) (Int.add_le_add_right hle _)⟩

theorem CoveredPhase.later {phase : Phase} (h : CoveredPhase time phase) (hle : time ≤ now) :
    CoveredPhase now phase := by
  cases phase with
  | idle | recorded _ => trivial
  | selected seen => exact Covered.later h hle
  | computed seen read => exact ⟨h.1, Int.le_trans h.2 hle⟩

end Covering

section Steps

variable {fleet next : Fleet} {event : Event} {reports : Reports} {action : Action}

end Steps

section Runs

variable {proxy : Proxy} {now : Moment} {events : List Event} {fleet : Fleet} {call : Call}

end Runs

/-! One job has reported a failure and has not committed; another one asks. -/

end CrawlerApi.Proxies
