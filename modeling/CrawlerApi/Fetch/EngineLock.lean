import CrawlerApi.Fetch.Climb

/-!
# IP blocks and the engine

A blocked direct connection goes on to the next tier whatever the reason.  Where the
ladder or the policy decides about the proxy this changes no engine; a caller that
forbids the proxy stays direct, and climbs.
-/

namespace CrawlerApi.Fetch

open Keys Foundation

/-- Every blocked attempt of the run has a rotation-only reason. -/
def RotationBlocked (text : TextMethods) (request : Request) (environment : Environment) : Prop :=
  ∀ visit ∈ attempts text request environment, ∀ result,
    (environment visit.state.totalAttempts).fetch = .ok result → result.blocked = true →
      ∃ reason ∈ rotationOnly, result.blockReason = some reason.value

/-- All fetches of the run are made by one engine. -/
def OneEngine (text : TextMethods) (request : Request) (environment : Environment) : Prop :=
  ∀ fetched ∈ fetches (calls text request environment),
    ∀ other ∈ fetches (calls text request environment), fetched.1.engine = other.1.engine

/-- If the caller forbids the proxy, all rungs the two ceilings leave room for run the
engine of the start. -/
def StaysOnEngine (request : Request) : Prop :=
  request.useProxy = some false → ∀ rung : Rung, request.startTier ≤ rung →
    rung ≤ request.maxTier →
      rung.val < request.startTier.val + request.maxAttempts.toNat →
        rung.tier.engine = request.startTier.tier.engine

section Attempt

variable {text : TextMethods} {request : Request} {environment : Environment} {left : Nat}
  {state next : State} {result : FetchResult} {rung : Rung}

theorem rotation_not_escalatable {reason : BlockReason} (h : reason ∈ rotationOnly) :
    isEscalatable (some reason.value) = false := by
  revert h
  cases reason with
  | _ => decide

theorem base_of_direct : ∀ rung : Rung, rung.tier.useProxy = false → rung.val = 0 := by
  decide

theorem leftDirect_engine {bypassed : Bool} (hmanager : request.hasProxyManager = true)
    (huse : request.useProxy = none) (hgate : request.gate state.tier = .go bypassed)
    (hasks : asksProxy request bypassed state.tier.tier = false)
    (hnext : nextTier state.tier = some rung) (hle : rung ≤ request.maxTier) :
    rung.tier.engine = state.tier.tier.engine := by
  have hrung := nextTier_eq_some.mp hnext
  rw [asksProxy, hmanager, Bool.and_true, Request.tierUseProxy, huse] at hasks
  cases bypassed with
  | true =>
      have habove := Fin.lt_def.mp ((gate_bypassed_iff hgate).mp rfl)
      have hle := Fin.le_def.mp hle
      omega
  | false =>
      have hdirect : state.tier.tier.useProxy = false := by
        cases htier : state.tier.tier.useProxy with
        | false => rfl
        | true => simp [htier] at hasks
      have hbase := base_of_direct state.tier hdirect
      have hzero : state.tier = ⟨0, by decide⟩ := Fin.ext hbase
      have hone : rung = ⟨1, by decide⟩ := Fin.ext (by rw [hrung, hbase])
      rw [hzero, hone]
      rfl

theorem attempt_engine_kept (hmanager : request.hasProxyManager = true)
    (huse : request.useProxy ≠ some false)
    (hreasons : ∀ result, (environment state.totalAttempts).fetch = .ok result →
      result.blocked = true → ∃ reason ∈ rotationOnly, result.blockReason = some reason.value)
    (h : (attempt text request environment left state).exit = .again next) :
    next.tier.tier.engine = state.tier.tier.engine := by
  obtain ⟨bypassed, hgate, hresumes⟩ := attempt_again h
  cases hresumes with
  | lost _ hstays => rw [hstays.tier]; rfl
  | went hpicked hagain =>
      cases hagain with
      | stayed hstays => rw [hstays.tier]; rfl
      | climbed _ hblocked hescalates _ _ =>
          obtain ⟨reason, hrotation, hreason⟩ := hreasons _ hblocked.1 hblocked.2
          rw [hreason, rotation_not_escalatable hrotation] at hescalates
          cases hescalates
      | leftDirect _ _ hnone hunforced hnext hle =>
          have hunset : request.useProxy = none := by
            cases hread : request.useProxy with
            | none => rfl
            | some forced =>
                cases forced with
                | true => exact absurd hread hunforced
                | false => exact absurd hread huse
          have hasks : asksProxy request bypassed state.tier.tier = false :=
            (pickProxy_ok hpicked).mp hnone
          exact leftDirect_engine hmanager hunset hgate hasks hnext hle

theorem attempt_leaves (text : TextMethods) (left : Nat) (huse : request.useProxy = some false)
    (hreach : Reachable request state.tier)
    (hpage : BlockedPage request state (environment state.totalAttempts) result)
    (hreason : isEscalatable result.blockReason = false)
    (hnext : nextTier state.tier = some rung) (hle : rung ≤ request.maxTier) :
    ∃ next, (attempt text request environment left state).exit = .again next ∧
      next.tier = rung := by
  obtain ⟨proxy, hproxy, hends⟩ := attempt_decides text left hreach hpage
  have hnone : proxy = none := by
    apply hproxy.mpr
    unfold asksAt
    cases request.gate state.tier with
    | stop => rfl
    | go bypassed => simp [asksProxy, Request.tierUseProxy, huse]
  subst hnone
  have hblock : onBlocked request left state.begin none (stamp request state.begin result)
      (environment state.totalAttempts) =
        ⟨[], (state.begin.count (stamp request state.begin result)).bump rung false,
          .ok .again⟩ := by
    have hreason : isEscalatable (stamp request state.begin result).blockReason = false := hreason
    have hnext : nextTier (state.begin.count (stamp request state.begin result)).tier =
        some rung := hnext
    rw [onBlocked_direct, afterBlock]
    simp [hreason, hnext, huse, hle]
  exact ⟨_, (hends _ hblock).1 rfl, rfl⟩

end Attempt

section Run

variable {text : TextMethods} {request : Request} {environment : Environment}

theorem attempts_between : ∀ visit ∈ attempts text request environment,
    request.startTier ≤ visit.state.tier ∧
      visit.state.tier.val < request.startTier.val + request.maxAttempts.toNat := by
  have hrange : ∀ visit ∈ attempts text request environment,
      request.startTier ≤ visit.state.tier ∧
        visit.state.tier.val ≤ request.startTier.val + visit.state.totalAttempts := by
    refine visits_invariant (fun state : State => request.startTier ≤ state.tier ∧
      state.tier.val ≤ request.startTier.val + state.totalAttempts) ?_
      ⟨Fin.le_refl _, Nat.le_refl _⟩
    intro visit _ hold next hagain
    obtain ⟨_, _, hresumes⟩ := attempt_again hagain
    have htotal : next.totalAttempts = visit.state.totalAttempts + 1 := hresumes.counts
    have hstart := Fin.le_def.mp hold.1
    rw [Fin.le_def, htotal]
    rcases attempt_moves hagain with hsame | ⟨hbump, -⟩
    · rw [hsame]
      omega
    · rw [nextTier_eq_some.mp hbump]
      omega
  intro visit hvisit
  have hleft := visits_left State.totalAttempts (fun visit _ next hagain => by
    obtain ⟨_, _, hresumes⟩ := attempt_again hagain
    exact hresumes.counts) visit hvisit
  have hzero : request.initialState.totalAttempts = 0 := rfl
  have hbound := (hrange visit hvisit).2
  exact ⟨(hrange visit hvisit).1, by omega⟩

theorem fetches_calls {fetched : Fetcher × Rung}
    (h : fetched ∈ fetches (calls text request environment)) :
    ∃ visit ∈ attempts text request environment,
      fetched ∈ fetches (attempt text request environment visit.left visit.state).events := by
  obtain ⟨event, hevent, hfetched⟩ := List.mem_filterMap.mp h
  obtain ⟨visit, hvisit, hmem⟩ := List.mem_flatMap.mp hevent
  exact ⟨visit, hvisit, List.mem_filterMap.mpr ⟨event, hmem, hfetched⟩⟩

theorem oneEngine_of_tiers (hnamed : request.fetcher.Named)
    (h : ∀ visit ∈ attempts text request environment,
      visit.state.tier.tier.engine = request.startTier.tier.engine) :
    OneEngine text request environment := by
  have hstart : ∀ fetched ∈ fetches (calls text request environment),
      fetched.1.engine = request.startTier.tier.engine := by
    intro fetched hfetched
    obtain ⟨visit, hvisit, hmem⟩ := fetches_calls hfetched
    rw [(attempt_engine hvisit hnamed hmem).2, h visit hvisit]
  intro fetched hfetched other hother
  rw [hstart fetched hfetched, hstart other hother]

theorem oneEngine_of_stays (hmanager : request.hasProxyManager = true)
    (hnamed : request.fetcher.Named) (hstays : StaysOnEngine request)
    (hblocked : RotationBlocked text request environment) :
    OneEngine text request environment := by
  apply oneEngine_of_tiers hnamed
  by_cases huse : request.useProxy = some false
  · intro visit hvisit
    obtain ⟨hstart, hlt⟩ := attempts_between visit hvisit
    rcases attempts_tier visit hvisit with hsame | ⟨-, hle⟩
    · rw [hsame]
    · exact hstays huse visit.state.tier hstart hle hlt
  · refine visits_invariant
      (fun state : State => state.tier.tier.engine = request.startTier.tier.engine) ?_ rfl
    intro visit hvisit hold next hagain
    exact (attempt_engine_kept hmanager huse (hblocked visit hvisit) hagain).trans hold

/-- Blocked by its address on every attempt, a caller that forbids the proxy makes an
attempt at each rung the ceilings leave room for. -/
theorem visits_rung (huse : request.useProxy = some false) {count : Nat} {state : State}
    {rung : Rung} (hfrom : state.tier ≤ rung) (hle : rung ≤ request.maxTier)
    (hroom : rung.val < state.tier.val + count) :
    ∃ visit ∈ visits (attempt text request (blockedBy .ipBan)) count state,
      visit.state.tier = rung := by
  induction count generalizing state with
  | zero => exact absurd hroom (Nat.not_lt.mpr (Fin.le_def.mp hfrom))
  | succ left ih =>
      by_cases hsame : state.tier = rung
      · exact ⟨_, List.mem_cons_self .., hsame⟩
      · have hlt : state.tier.val < rung.val := by
          have hne : state.tier.val ≠ rung.val := fun h => hsame (Fin.ext h)
          have hfrom := Fin.le_def.mp hfrom
          omega
        have hroom' : state.tier.val + 1 < ladder.length := Nat.lt_of_le_of_lt hlt rung.isLt
        have hnext : nextTier state.tier = some ⟨state.tier.val + 1, hroom'⟩ :=
          nextTier_eq_some.mpr rfl
        have hbelow : (⟨state.tier.val + 1, hroom'⟩ : Rung) ≤ request.maxTier :=
          le_trans hlt hle
        have hpage : BlockedPage request state (blockedBy .ipBan state.totalAttempts)
            (blockedResult .ipBan) := ⟨fun _ => ⟨_, rfl⟩, rfl, rfl, rfl, rfl⟩
        have hreach : Reachable request state.tier := .inl (le_trans hfrom hle)
        obtain ⟨next, hagain, htier⟩ := attempt_leaves text left huse hreach hpage rfl hnext hbelow
        have hval : next.tier.val = state.tier.val + 1 := congrArg Fin.val htier
        have hfrom' : next.tier ≤ rung := by
          rw [Fin.le_def, hval]
          exact hlt
        obtain ⟨visit, hvisit, hrung⟩ := ih hfrom' (by omega)
        rw [visits_again hagain]
        exact ⟨visit, List.mem_cons_of_mem _ hvisit, hrung⟩

theorem fetched_of_blocked (hnamed : request.fetcher.Named) {visit : Visit State}
    (hvisit : visit ∈ attempts text request environment) {result : FetchResult}
    (hpage : BlockedPage request visit.state (environment visit.state.totalAttempts) result) :
    ∃ fetched ∈ fetches (calls text request environment),
      fetched.1.engine = visit.state.tier.tier.engine := by
  obtain ⟨bypassed, hgate⟩ := gate_of_reachable (reachable_of_mem hvisit)
  obtain ⟨proxy, hpicked, -⟩ := pickProxy_of_answer text visit.state.begin
    (asksAt_of_gate hgate ▸ hpage.asked)
  have hmem : (fetcherFor visit.state, visit.state.tier) ∈
      fetches (attempt text request environment visit.left visit.state).events := by
    rw [(attempt_fetches hgate hpicked).1]
    exact List.mem_singleton_self _
  refine ⟨_, ?_, (attempt_engine hvisit hnamed hmem).2⟩
  obtain ⟨event, hevent, hfetched⟩ := List.mem_filterMap.mp hmem
  exact List.mem_filterMap.mpr
    ⟨event, List.mem_flatMap.mpr ⟨visit, hvisit, hevent⟩, hfetched⟩

/-- The runs of a request whose blocks only rotate keep to one engine exactly when
its caller does not forbid the proxy or all rungs within the ceilings run one. -/
theorem one_engine_iff (hmanager : request.hasProxyManager = true)
    (hnamed : request.fetcher.Named) :
    (∀ environment, RotationBlocked text request environment →
        OneEngine text request environment) ↔ StaysOnEngine request := by
  constructor
  · intro hone huse rung hstart hle hroom
    have hblocked : RotationBlocked text request (blockedBy .ipBan) := by
      intro visit _ result hfetch _
      cases hfetch
      exact ⟨.ipBan, by decide, rfl⟩
    have hfetched : ∀ other : Rung, request.startTier ≤ other → other ≤ request.maxTier →
        other.val < request.startTier.val + request.maxAttempts.toNat →
        ∃ fetched ∈ fetches (calls text request (blockedBy .ipBan)),
          fetched.1.engine = other.tier.engine := by
      intro other hfrom hbelow hother
      obtain ⟨visit, hvisit, hrung⟩ := @visits_rung text request huse request.maxAttempts.toNat
        request.initialState other hfrom hbelow hother
      obtain ⟨result, hpage⟩ := blockedBy_allBlocked text request .ipBan visit hvisit
      rw [← hrung]
      exact fetched_of_blocked hnamed hvisit hpage
    obtain ⟨first, hfirst, hfirstEngine⟩ := hfetched request.startTier (Fin.le_refl _)
      (le_trans hstart hle) (by have := Fin.le_def.mp hstart; omega)
    obtain ⟨last, hlast, hlastEngine⟩ := hfetched rung hstart hle hroom
    rw [← hfirstEngine, ← hlastEngine]
    exact hone (blockedBy .ipBan) hblocked last hlast first hfirst
  · exact fun hstays environment hblocked => oneEngine_of_stays hmanager hnamed hstays hblocked

end Run

/-! A caller that forbids the proxy, refused on every attempt. -/

def directRequest : Request where
  fetcher := getFetcher .httpx
  url := "https://example.com/"
  domain := "example.com"
  useProxy := some false

theorem one_engine_iff_direct :
    (∀ environment, RotationBlocked asciiText directRequest environment →
        OneEngine asciiText directRequest environment) ↔ StaysOnEngine directRequest :=
  one_engine_iff rfl nofun

theorem direct_connection_climbs :
    ¬ ∀ text request environment, request.hasProxyManager = true → request.fetcher.Named →
      RotationBlocked text request environment → OneEngine text request environment := by
  intro h
  have hblocked : RotationBlocked asciiText directRequest (blockedBy .rateLimited) := by
    intro visit _ result hfetch _
    cases hfetch
    exact ⟨.rateLimited, by decide, rfl⟩
  have hone := h asciiText directRequest (blockedBy .rateLimited) rfl nofun hblocked
  exact absurd hone (by unfold OneEngine; decide)

end CrawlerApi.Fetch
