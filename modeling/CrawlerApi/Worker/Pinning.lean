import CrawlerApi.Worker.PolicyStore

/-!
# Pinned tiers

A locked row keeps its tier under every outcome counted on a locked copy, so a job that
loads the row behind the pin starts at the pinned tier, or at the vendor's floor if that
is higher.
-/

namespace CrawlerApi.Worker

open Keys Fetch Foundation

structure Pinned (tier : Int) (row : PolicyRow) : Prop where
  tier : row.escalationTier = tier
  locked : row.tierLocked = true

section Versions

variable {tier : Int} {copy stored : PolicyRow}

theorem Pinned.recorded {text : TextMethods} {result : FetchResult} {now : Instant}
    (h : Pinned tier stored) (hlocked : copy.tierLocked = true) :
    Pinned tier (copy.flush (copy.recorded text result now) stored) := by
  have htier : (copy.recorded text result now).escalationTier = copy.escalationTier :=
    PolicyRow.learn_escalationTier hlocked result _ _ now
  have hlock : (copy.recorded text result now).tierLocked = copy.tierLocked :=
    PolicyRow.learn_tierLocked copy result _ _ now
  constructor
  · rw [PolicyRow.flush, htier, written_self, h.tier]
  · rw [PolicyRow.flush, hlock, written_self, h.locked]

theorem pinned_flush (htier : stored.escalationTier = copy.escalationTier)
    (hlock : stored.tierLocked = copy.tierLocked) :
    Pinned tier (copy.flush (copy.pinned (some tier) true) stored) :=
  ⟨written_of_eq htier.symm, written_of_eq hlock.symm⟩

theorem Pinned.startTier {request : Fetch.Request} (h : Pinned tier copy)
    (hpolicy : request.policy = some copy.attributes) (hengine : request.requestedEngine = none) :
    request.startTier.val =
      min (max tier.toNat (vendorFloor copy.antibotType)) request.maxTier.val := by
  have hinitial : initialTier request.policy =
      max tier.toNat (vendorFloor copy.antibotType) := by
    rw [hpolicy, initialTier_some]
    simp only [PolicyRow.attributes, h.tier, Option.getD_some]
    omega
  rw [← hinitial, Request.startTier, hengine]

end Versions

namespace PolicyStore

def PinFresh (operator : Connection) (state : PolicyStore) : Prop :=
  ∀ copy, state.copies operator = some copy →
    RowLock.Both (fun stored => stored.escalationTier = copy.escalationTier ∧
      stored.tierLocked = copy.tierLocked) state.row

/-- No operator changes the policy, and outcomes are counted on locked copies. -/
def Undisturbed (state : PolicyStore) : Action → Prop
  | .record session _ _ => ∀ copy, state.copies session = some copy → copy.tierLocked = true
  | .pin .. => False
  | _ => True

def Pending (operator : Connection) (state : PolicyStore) (action : Action) : Prop :=
  Undisturbed state action ∧ action ≠ .rollback operator

/-- A pin is flushed over the row its session loaded and commits; other sessions run in
between. -/
inductive PinCommits (text : TextMethods) (operator : Connection) (tier : Int)
    (between : List Action) (state committed : PolicyStore) : Prop where
  | intro {flushed waiting : PolicyStore} :
      tierAccepted (some tier) = true → PinFresh operator state →
      state.step text (.pin operator (some tier) true) = some flushed →
      Along (step text) (Pending operator) flushed between →
      run (step text) flushed between = some waiting →
      waiting.step text (.commit operator) = some committed →
      PinCommits text operator tier between state committed

variable {text : TextMethods} {state next final : PolicyStore} {action : Action}
  {operator job : Connection} {tier : Int} {between actions : List Action}

theorem written_of_pin (haccepted : tierAccepted (some tier) = true)
    (hfresh : PinFresh operator state)
    (hstep : state.step text (.pin operator (some tier) true) = some next) :
    RowLock.Written (Pinned tier) operator next.row := by
  dsimp only [step] at hstep
  split at hstep
  · cases hstep
  · rename_i copy hcopy
    obtain ⟨hcommitted, hlatest⟩ := hfresh copy hcopy
    rw [if_pos haccepted] at hstep
    unfold pinOn at hstep
    split at hstep
    · rename_i hsame
      have hpinned {stored : PolicyRow} (hstored : stored.escalationTier = copy.escalationTier ∧
          stored.tierLocked = copy.tierLocked) : Pinned tier stored := by
        rw [← hsame] at hstored
        exact ⟨hstored.1, hstored.2⟩
      cases hstep
      exact ⟨hpinned hlatest, .inl (hpinned hcommitted)⟩
    · obtain ⟨row, hrow, rfl⟩ := Option.map_eq_some_iff.mp hstep
      obtain ⟨-, -, hwriter, hnext⟩ := RowLock.update_eq_some hrow
      have hpinned : Pinned tier row.latest :=
        hnext.symm ▸ pinned_flush hlatest.1 hlatest.2
      exact ⟨hpinned, .inr ⟨_, hwriter⟩⟩

theorem step_pending (h : RowLock.Written (Pinned tier) operator state.row)
    (hpending : Pending operator state action) (hstep : state.step text action = some next) :
    RowLock.Written (Pinned tier) operator next.row := by
  obtain ⟨hundisturbed, hkept⟩ := hpending
  cases stepped hstep with
  | read hrow _ => exact hrow ▸ h
  | skipped _ _ hrow _ => exact hrow ▸ h
  | recorded hcopy hupdate _ => exact h.update (h.latest.recorded (hundisturbed _ hcopy)) hupdate
  | pinned _ _ _ => exact absurd hundisturbed id
  | committed hrow _ => exact hrow ▸ h.commit _
  | undone hrow _ => exact hrow ▸ h.rollback fun heq => hkept (heq ▸ rfl)

theorem step_undisturbed (h : RowLock.Both (Pinned tier) state.row)
    (hundisturbed : Undisturbed state action) (hstep : state.step text action = some next) :
    RowLock.Both (Pinned tier) next.row := by
  cases stepped hstep with
  | read hrow _ => exact hrow ▸ h
  | skipped _ _ hrow _ => exact hrow ▸ h
  | recorded hcopy hupdate _ => exact h.update (h.latest.recorded (hundisturbed _ hcopy)) hupdate
  | pinned _ _ _ => exact absurd hundisturbed id
  | committed hrow _ => exact hrow ▸ h.commit _
  | undone hrow _ => exact hrow ▸ h.rollback _

theorem PinCommits.both (h : PinCommits text operator tier between state next) :
    RowLock.Both (Pinned tier) next.row := by
  obtain ⟨haccepted, hfresh, hpin, hpending, hrun, hcommit⟩ := h
  have hflushed := written_of_pin haccepted hfresh hpin
  have hwaiting := run_invariant (fun _ _ _ h hguard hstep => step_pending h hguard hstep)
    hflushed hpending hrun
  cases hcommit
  exact hwaiting.both

/-- Behind the commit of a pin, while no operator changes the policy, a job that resolves
it has a locked copy and, naming no engine, starts at the pinned tier or at the floor of
the vendor it read. -/
theorem pin_holds {committed resolving loaded : PolicyStore} {request : Fetch.Request}
    (hpin : PinCommits text operator tier between state committed)
    (hundisturbed : Along (step text) Undisturbed committed actions)
    (hrun : run (step text) committed actions = some resolving)
    (hactive : resolving.isActive = true) (hnew : resolving.copies job = none)
    (hresolve : resolving.step text (.resolve job) = some loaded)
    (hpolicy : request.policy = (loaded.copies job).map PolicyRow.attributes)
    (hengine : request.requestedEngine = none) :
    ∃ policy, loaded.copies job = some policy ∧ Pinned tier policy ∧
      request.startTier.val =
        min (max tier.toNat (vendorFloor policy.antibotType)) request.maxTier.val := by
  have hboth := run_invariant (fun _ _ _ h hguard hstep => step_undisturbed h hguard hstep)
    hpin.both hundisturbed hrun
  have hcopy : loaded.copies job = some (resolving.row.visible job) := by
    dsimp only [step] at hresolve
    rw [if_pos hactive] at hresolve
    cases hresolve
    simp [load, hnew, setCopy]
  rw [hcopy] at hpolicy
  exact ⟨_, hcopy, hboth.visible job, (hboth.visible job).startTier hpolicy hengine⟩

/-! An operator pins tier 3 while job 1 reads the row; job 2 loads it behind the commit and
is blocked, and job 3 is the next one. -/

def unpinnedPolicy : PolicyRow where
  id := 1
  domain := "example.com"

def challenge : FetchResult where
  url := "https://example.com/"
  statusCode := 403
  blocked := true
  blockReason := some "waf"

def plainRequest (policy : Option PolicyRow) : Fetch.Request where
  fetcher := getFetcher .httpx
  url := "https://example.com/"
  domain := "example.com"
  policy := policy.map PolicyRow.attributes

def opened : PolicyStore := (start unpinnedPolicy true).load 9

def blockedJob : List Action := [.resolve 2, .record 2 challenge 100, .commit 2]

theorem pin_holds_blocked_job : ∃ (loaded : PolicyStore) (policy : PolicyRow),
    loaded.copies 3 = some policy ∧ Pinned 3 policy ∧
      (plainRequest (loaded.copies 3)).startTier.val =
        min (max 3 (vendorFloor policy.antibotType)) 2 := by
  have hfresh : PinFresh 9 opened := by
    intro copy hcopy
    cases hcopy
    exact ⟨⟨rfl, rfl⟩, ⟨rfl, rfl⟩⟩
  have hpin : PinCommits asciiText 9 3 [.resolve 1] opened _ :=
    .intro rfl hfresh rfl (.cons rfl ⟨trivial, fun h => by cases h⟩ trivial) rfl rfl
  refine ⟨_, pin_holds hpin (?_ : Along (step asciiText) Undisturbed _ blockedJob)
    rfl rfl rfl rfl rfl rfl⟩
  refine .cons rfl trivial (.cons rfl ?_ (.cons rfl trivial trivial))
  intro copy hcopy
  cases hcopy
  rfl

def cloudflarePolicy : PolicyRow :=
  { unpinnedPolicy with antibotType := some "cloudflare" }

/-- A vendor's floor lies above the pinned tier. -/
theorem vendor_floor_overrides_pin :
    ¬ ∀ (row : PolicyRow) (operator job : Connection) (tier : Int) (loaded : PolicyStore)
      (request : Fetch.Request), operator ≠ job → tierAccepted (some tier) = true →
      run (step asciiText) (start row true)
        [.get operator, .pin operator (some tier) true, .commit operator, .resolve job] =
          some loaded →
      request.policy = (loaded.copies job).map PolicyRow.attributes →
      request.requestedEngine = none →
        request.startTier.val = min tier.toNat request.maxTier.val := by
  intro h
  have hstart := h cloudflarePolicy 9 1 0 _
    (plainRequest (some (cloudflarePolicy.pinned (some 0) true))) (by decide) rfl rfl rfl rfl
  revert hstart
  decide

end PolicyStore

end CrawlerApi.Worker
