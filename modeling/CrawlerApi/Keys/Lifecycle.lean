import CrawlerApi.Keys.Issuance
import CrawlerApi.Keys.Requests

/-!
# The end of a key

A rotation reads the revocation of the row before it mints, and rewrites the
expiry of the row without reading it.  A key that was revoked or rejected as
expired is over for good as long as no rotation commits on a row that is.
-/

namespace CrawlerApi.Keys.Requests

open Errors Foundation

def Event.Ends (keyId : Uuid) : Event → Prop
  | .revoked other => other = keyId
  | .expired other => other = keyId
  | _ => False

def Event.Revives (keyId : Uuid) : Event → Prop
  | .authenticated other => other = keyId
  | .minted _ _ predecessor => predecessor = some keyId
  | _ => False

def OneWay (events : List Event) : Prop :=
  events.Pairwise fun earlier later => ∀ keyId, earlier.Ends keyId → ¬ later.Revives keyId

def live (clock : Instant) (row : ApiKey) : Bool :=
  row.revokedAt.isNone && !row.expiresAt.any (· < clock)

/-- A rotation that commits finds the row it rotates live. -/
def rotatesLive (state : State) : Action → Bool
  | .commit handle _ =>
      match state.flights handle with
      | some (.replacing oldKey _ _ _ _) =>
          (state.db.findKey oldKey.id).all (live state.clock)
      | _ => true
  | _ => true

def Ended (keyId : Uuid) (state : State) : Prop :=
  ∃ row ∈ state.db.apiKeys, row.id = keyId ∧ live state.clock row = false

section Ending

variable {deployment : Deployment} {state next : State} {action : Action} {event : Event}
  {keyId : Uuid} {row : ApiKey} {clock later : Instant}

theorem live_false_mono (hclock : clock ≤ later) (h : live clock row = false) :
    live later row = false := by
  unfold live at h ⊢
  cases hexpires : row.expiresAt with
  | none => simpa [hexpires] using h
  | some expiry =>
      simp only [hexpires, Option.any_some, Bool.and_eq_false_iff, Bool.not_eq_false',
        decide_eq_true_eq] at h ⊢
      exact h.imp_right fun hexpiry => Int.lt_of_lt_of_le hexpiry hclock

theorem live_of_authenticated {hasher : Hasher} {db : Database} {xApiKey : String}
    (h : resolveApiKey hasher db clock xApiKey = .ok row) : live clock row = true := by
  obtain ⟨-, -, hrevoked, hexpires, -⟩ := resolveApiKey_eq_ok.mp h
  simp [live, hrevoked, hexpires]

theorem Ended.findKey (h : Ended keyId state) :
    ∃ row, state.db.findKey keyId = some row ∧ live state.clock row = false := by
  obtain ⟨row, hmem, rfl, hdead⟩ := h
  exact ⟨row, Database.findKey_eq_some hmem, hdead⟩

theorem not_revives (h : Ended keyId state) (hlive : rotatesLive state action = true)
    (heffect : Effect deployment state action next event) : ¬ event.Revives keyId := by
  obtain ⟨row, hfind, hdead⟩ := h.findKey
  intro hrevives
  cases heffect with
  | silent => exact hrevives
  | failed => exact hrevives
  | expired => exact hrevives
  | revoked => exact hrevives
  | created => cases hrevives
  | authenticated hresolve =>
      cases hrevives
      rw [Database.findKey_eq_some (resolveApiKey_mem hresolve).1] at hfind
      cases hfind
      rw [live_of_authenticated hresolve] at hdead
      cases hdead
  | replaced haction hflight =>
      cases hrevives
      subst haction
      rw [rotatesLive, hflight] at hlive
      simp [hfind, hdead] at hlive

theorem ended_step (h : Ended keyId state) (hlive : rotatesLive state action = true)
    (heffect : Effect deployment state action next event) : Ended keyId next := by
  have hrevives := not_revives h hlive heffect
  obtain ⟨row, hmem, rfl, hdead⟩ := h
  obtain ⟨kept, hkept, hrow⟩ := heffect.row_kept hmem
  refine ⟨kept, hkept, hrow.id_eq, ?_⟩
  apply live_false_mono heffect.clock_le
  cases hrow with
  | same => exact hdead
  | rotated _ hevent => exact absurd (hevent ▸ rfl) hrevives
  | revoked => simp [live]

theorem ended_of_ends (hends : event.Ends keyId)
    (heffect : Effect deployment state action next event) : Ended keyId next := by
  cases heffect with
  | silent => cases hends
  | failed => cases hends
  | authenticated => cases hends
  | created => cases hends
  | replaced => cases hends
  | expired hrow hresolve hdb hclock =>
      cases hends
      refine ⟨_, hdb ▸ List.mem_of_find?_eq_some hrow, rfl, ?_⟩
      rw [hclock, live, resolveApiKey_expired hresolve hrow]
      simp
  | revoked hfound hdb hclock =>
      cases hends
      obtain ⟨row, hrow⟩ := Option.isSome_iff_exists.mp hfound
      obtain ⟨hmem, rfl⟩ := Database.findKey_mem hrow
      refine ⟨{ row with revokedAt := some state.clock, isActive := false }, ?_, rfl,
        by simp [live]⟩
      rw [hdb]
      exact Database.setRevoked_mem hmem

end Ending

/-- In a run whose rotations all commit on live rows, no key that ended is revived. -/
theorem lifecycle_one_way (deployment : Deployment) (start : State) (actions : List Action)
    (hlive : ∀ served ∈ transcript (step deployment) start actions,
      rotatesLive served.before served.action = true) :
    OneWay ((transcript (step deployment) start actions).map Served.output) := by
  unfold OneWay
  rw [List.pairwise_map]
  have hends (keyId : Uuid) (state : State) (action : Action) :
      rotatesLive state action = true → (step deployment state action).2.Ends keyId →
        Ended keyId (step deployment state action).1 := by
    intro _ hends
    exact ended_of_ends hends (step_effect deployment state action)
  have hkeep (keyId : Uuid) (state : State) (action : Action) (h : Ended keyId state) :
      rotatesLive state action = true → Ended keyId (step deployment state action).1 := by
    intro hlive
    exact ended_step h hlive (step_effect deployment state action)
  have hforbid (keyId : Uuid) (state : State) (action : Action) (h : Ended keyId state) :
      rotatesLive state action = true → ¬ (step deployment state action).2.Revives keyId := by
    intro hlive
    exact not_revives h hlive (step_effect deployment state action)
  exact transcript_pairwise hends hkeep hforbid hlive

def minting : List Action := [
  .request 0 operatorKey (.create { applicationId := 1 }), .load 0,
  .draw 0 (sampleDraw "Keys-2" rfl), .commit 0 2]

def rotating : List Action := [
  .request 1 operatorKey (.rotate 2), .load 1, .draw 1 (sampleDraw "Next-3" rfl)]

/-- Key 2 is rotated, and rejected once the overlap is over. -/
theorem lifecycle_one_way_overlap :
    OneWay ((transcript (step ⟨sampleHasher, 24⟩) (.start bootstrapped 0)
      (minting ++ rotating ++ [.commit 1 3, .tick 100000,
        .request 2 "crwlKeys-20123456789abcdefghijklmnopqrstuvwxyzAB" .other])).map
          Served.output) :=
  lifecycle_one_way ⟨sampleHasher, 24⟩ _ _ (by decide +kernel)

/-- The revocation of key 2 commits between the check and the commit of a rotation. -/
theorem revoked_key_gets_successor :
    ¬ OneWay ((transcript (step ⟨sampleHasher, 24⟩) (.start bootstrapped 0)
      (minting ++ rotating ++ [.request 2 operatorKey (.revoke 2), .load 2, .commit 2 0,
        .commit 1 3])).map Served.output) := by
  intro h
  have hrace : [.revoked 2,
      .minted 3 "crwlNext-30123456789abcdefghijklmnopqrstuvwxyzAB" (some 2)].Sublist
      ((transcript (step ⟨sampleHasher, 24⟩) (.start bootstrapped 0)
        (minting ++ rotating ++ [.request 2 operatorKey (.revoke 2), .load 2, .commit 2 0,
          .commit 1 3])).map Served.output) := by
    decide +kernel
  have hpair := h.sublist hrace
  simp [Event.Ends, Event.Revives] at hpair

/-- A rotation of the expired key lets it in again. -/
example : [.expired 2, .minted 4 "crwlLast-40123456789abcdefghijklmnopqrstuvwxyzAB" (some 2),
      .authenticated 2].Sublist
    ((transcript (step ⟨sampleHasher, 24⟩) (.start bootstrapped 0)
      (minting ++ rotating ++ [.commit 1 3, .tick 100000,
        .request 2 "crwlKeys-20123456789abcdefghijklmnopqrstuvwxyzAB" .other,
        .request 3 operatorKey (.rotate 2), .load 3, .draw 3 (sampleDraw "Last-4" rfl),
        .commit 3 4,
        .request 4 "crwlKeys-20123456789abcdefghijklmnopqrstuvwxyzAB" .other])).map
          Served.output) := by
  decide +kernel

end CrawlerApi.Keys.Requests
