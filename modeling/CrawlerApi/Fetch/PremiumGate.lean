import CrawlerApi.Fetch.Exhaustion
import CrawlerApi.Fetch.Accounting

/-!
# The proxy type below the premium gate

With the premium tiers off, a run visits the rung it starts at and then only rungs
1 and 2, which ask for a datacenter proxy.  Nothing puts the documented default in
place of a type that is missing, so the start decides.
-/

namespace CrawlerApi.Fetch

open Keys Foundation

/-- What is left of the tier when an attempt goes around again: the same rung, or
the next one, below the gate. -/
def Moves (request : Request) (tier next : Rung) : Prop :=
  next = tier ∨ nextTier tier = some next ∧ next ≤ request.maxTier

section Attempt

variable {text : TextMethods} {request : Request} {environment : Environment} {left : Nat}
  {state next : State} {answers : Answers} {proxy : Option Proxy} {result : FetchResult}
  {exn : Exn}

theorem afterBlock_moves (events : List Event) :
    Moves request state.tier
      (afterBlock request left state proxy result events answers).state.tier := by
  have hends := afterBlock_ends request left state proxy result events answers
  generalize afterBlock request left state proxy result events answers = tried at hends ⊢
  cases hends with
  | returned => exact .inl rfl
  | bumped clear hnext hle => exact .inr ⟨hnext, hle⟩
  | rotated _ => exact .inl rfl

theorem State.fail_tier (state : State) (proxy : Option Proxy) :
    (state.fail proxy).tier = state.tier := by
  cases proxy with
  | none => rfl
  | some used => rfl

theorem onBlocked_moves :
    Moves request state.tier (onBlocked request left state proxy result answers).state.tier := by
  unfold onBlocked
  dsimp only
  split
  · split
    · exact .inl rfl
    · rename_i used _ _ _
      have htier : ((state.count result).fail (some used)).tier = state.tier :=
        State.fail_tier (state.count result) (some used)
      rw [← htier]
      exact afterBlock_moves _
  · have htier : (state.count result).tier = state.tier := rfl
    rw [← htier]
    exact afterBlock_moves []

theorem fetchWith_moves {fetcher : Fetcher} :
    Moves request state.tier
      (fetchWith request left fetcher state proxy answers).state.tier := by
  unfold fetchWith
  dsimp only
  split
  · exact .inl rfl
  · split
    · exact onBlocked_moves
    · unfold onSuccess
      split
      · exact .inl rfl
      · exact .inl rfl

theorem retryOr_again {events : List Event}
    (h : (retryOr left state exn events answers).exit = .again next) : next = state := by
  unfold retryOr at h
  split at h
  · dsimp only at h
    split at h
    · cases h
      rfl
    · cases h
  · cases h

theorem handle_tier (h : (handle request left state proxy exn answers).exit = .again next) :
    next.tier = state.tier := by
  cases exn with
  | proxyPoolUnavailable _ | proxyPoolExhausted _ | cancelled => cases h
  | fetchError message statusCode blocked =>
      unfold handle at h
      dsimp only at h
      split at h
      · split at h
        · cases h
        · rw [retryOr_again h, State.fail_tier]
      · rw [retryOr_again h]
  | exception message =>
      unfold handle at h
      dsimp only at h
      rw [retryOr_again h]
      split
      · rw [State.fail_tier]
      · rfl

theorem attempt_moves (h : (attempt text request environment left state).exit = .again next) :
    Moves request state.tier next.tier := by
  unfold attempt at h
  split at h
  · cases h
  · dsimp only at h
    split at h
    · rw [handle_tier h]
      exact .inl rfl
    · rename_i proxy _
      have hmoves : Moves request state.tier (fetchWith request left (fetcherFor state) state.begin
          proxy (environment state.totalAttempts)).state.tier := fetchWith_moves
      split at h
      · cases h
        exact hmoves
      · cases h
      · rw [handle_tier h]
        exact hmoves

theorem attempt_events {bypassed : Bool} (hgate : request.gate state.tier = .go bypassed) :
    ∃ tail, (attempt text request environment left state).events =
        (pickProxy text request (environment state.totalAttempts) bypassed state.begin).1 ++ tail ∧
      ∀ asked answer, .getProxy asked answer ∉ tail := by
  cases hpicked : (pickProxy text request (environment state.totalAttempts) bypassed
      state.begin).2 with
  | error exn =>
      refine ⟨_, attempt_error hgate hpicked, ?_⟩
      intro asked answer h
      exact absurd (handle_quiet h) id
  | ok proxy =>
      refine ⟨_, attempt_ok hgate hpicked, ?_⟩
      intro asked answer h
      rcases List.mem_append.mp h with hfetch | hhandled
      · rcases fetchWith_event hfetch with hevent | hquiet
        · cases hevent
        · exact hquiet
      · split at hhandled
        · exact absurd hhandled List.not_mem_nil
        · exact absurd (handle_quiet hhandled) id

theorem attempt_asked {asked : ProxyRequest} {answer : Except Exn (Option Proxy)}
    (h : .getProxy asked answer ∈ (attempt text request environment left state).events) :
    ∃ bypassed, request.gate state.tier = .go bypassed ∧
      asksProxy request bypassed state.tier.tier = true ∧
        asked = proxyRequest text request bypassed state.begin := by
  cases hgate : request.gate state.tier with
  | stop =>
      rw [attempt, hgate] at h
      exact absurd h List.not_mem_nil
  | go bypassed =>
      obtain ⟨tail, htail, hnone⟩ := attempt_events hgate
      rw [htail] at h
      rcases List.mem_append.mp h with hpick | hrest
      · unfold pickProxy at hpick
        split at hpick
        · rename_i hasks
          cases List.mem_singleton.mp hpick
          exact ⟨bypassed, rfl, hasks, rfl⟩
        · exact absurd hpick List.not_mem_nil
      · exact absurd hrest (hnone asked answer)

theorem attempt_asks {bypassed : Bool} (hgate : request.gate state.tier = .go bypassed)
    (hasks : asksProxy request bypassed state.tier.tier = true) :
    .getProxy (proxyRequest text request bypassed state.begin)
        (environment state.totalAttempts).getProxy ∈
      (attempt text request environment left state).events := by
  obtain ⟨tail, htail, -⟩ := attempt_events hgate
  rw [htail, pickProxy]
  exact List.mem_append_left _ (by simp [State.begin, hasks])

end Attempt

section Run

variable {text : TextMethods} {request : Request} {environment : Environment}

/-- Every rung of a run is the start or a rung above the ladder's base, below the gate. -/
theorem attempts_tier (visit : Visit State) (h : visit ∈ attempts text request environment) :
    visit.state.tier = request.startTier ∨
      0 < visit.state.tier.val ∧ visit.state.tier ≤ request.maxTier := by
  refine visits_invariant (fun state => state.tier = request.startTier ∨
    0 < state.tier.val ∧ state.tier ≤ request.maxTier) ?_ (.inl rfl) visit h
  intro visit _ hinv next hnext
  rcases attempt_moves hnext with hsame | ⟨hbump, hle⟩
  · rw [hsame]
    exact hinv
  · right
    rw [nextTier_eq_some.mp hbump]
    exact ⟨Nat.succ_pos _, hle⟩

/-- The caller and the policy name no proxy type, and the premium tiers are off. -/
structure Untyped (request : Request) : Prop where
  premium : request.enablePremium = false
  caller : request.proxyType = none
  policy : request.getattr Policy.proxyType = none

/-- Every request for a proxy is for a datacenter one. -/
def OnlyDatacenter (text : TextMethods) (request : Request) (environment : Environment) : Prop :=
  ∀ asked answer, .getProxy asked answer ∈ calls text request environment →
    asked.proxyType = some .datacenter

/-- The run makes no attempt or starts at rung 1 or 2, or a run that starts at rung 0
or above the gate does not ask for a proxy there. -/
inductive StartsTyped (request : Request) : Prop where
  | noManager : request.hasProxyManager = false → StartsTyped request
  | noAttempt : request.maxAttempts ≤ 0 → StartsTyped request
  | typed : 0 < request.startTier.val → request.startTier ≤ request.maxTier → StartsTyped request
  | forbidden : request.useProxy = some false → StartsTyped request
  | bypass : request.useProxy = none → request.maxTier < request.startTier → StartsTyped request
  | direct : request.useProxy = none → request.getattr Policy.useProxy ≠ some true →
      request.startTier.val = 0 → StartsTyped request

theorem free_tiers : ∀ rung : Rung, rung ≤ effectiveMaxTier false →
    (rung.tier.proxyType.or none = some .datacenter ↔ 0 < rung.val) ∧
      (rung.tier.useProxy = false ↔ rung.val = 0) := by
  decide

theorem gate_bypassed_iff {rung : Rung} {bypassed : Bool} (h : request.gate rung = .go bypassed) :
    bypassed = true ↔ request.maxTier < rung := by
  unfold Request.gate at h
  split at h
  · rename_i habove
    split at h
    · cases h
      exact iff_of_true rfl habove
    · cases h
  · rename_i hbelow
    cases h
    exact iff_of_false Bool.false_ne_true hbelow

theorem Untyped.maxTier (huntyped : Untyped request) :
    request.maxTier = effectiveMaxTier false := by
  rw [Request.maxTier, huntyped.premium]

theorem Untyped.datacenter_iff (huntyped : Untyped request) {rung : Rung} {bypassed : Bool}
    (hgate : request.gate rung = .go bypassed) :
    request.tierProxyType bypassed rung.tier = some .datacenter ↔
      0 < rung.val ∧ rung ≤ request.maxTier := by
  unfold Request.tierProxyType
  rw [huntyped.caller, huntyped.policy]
  cases bypassed with
  | true =>
      have habove := (gate_bypassed_iff hgate).mp rfl
      simp [not_le.mpr habove]
  | false =>
      have hbelow : rung ≤ request.maxTier :=
        not_lt.mp fun habove => Bool.false_ne_true ((gate_bypassed_iff hgate).mpr habove)
      simp only [hbelow, and_true]
      rw [huntyped.maxTier] at hbelow
      exact (free_tiers rung hbelow).1

theorem Untyped.startsTyped (huntyped : Untyped request)
    (hmanager : request.hasProxyManager = true) {bypassed : Bool}
    (hgate : request.gate request.startTier = .go bypassed)
    (hasks : asksProxy request bypassed request.startTier.tier = false) : StartsTyped request := by
  rw [asksProxy, hmanager, Bool.and_true, Request.tierUseProxy] at hasks
  cases huse : request.useProxy with
  | some forced =>
      rw [huse] at hasks
      cases hasks
      exact .forbidden huse
  | none =>
      rw [huse] at hasks
      cases bypassed with
      | true => exact .bypass huse ((gate_bypassed_iff hgate).mp rfl)
      | false =>
          have hbelow : request.startTier ≤ effectiveMaxTier false := by
            rw [← huntyped.maxTier]
            exact not_lt.mp fun habove =>
              Bool.false_ne_true ((gate_bypassed_iff hgate).mpr habove)
          cases htier : request.startTier.tier.useProxy with
          | true => simp [htier] at hasks
          | false =>
              refine .direct huse ?_ ((free_tiers _ hbelow).2.mp htier)
              intro hpolicy
              simp [htier, hpolicy] at hasks

theorem StartsTyped.typed_of_asks (h : StartsTyped request) {bypassed : Bool}
    (hcount : 0 < request.maxAttempts)
    (hgate : request.gate request.startTier = .go bypassed)
    (hasks : asksProxy request bypassed request.startTier.tier = true) :
    0 < request.startTier.val ∧ request.startTier ≤ request.maxTier := by
  rw [asksProxy, Request.tierUseProxy] at hasks
  cases h with
  | noManager hmanager => simp [hmanager] at hasks
  | noAttempt hnone => omega
  | typed hpos hle => exact ⟨hpos, hle⟩
  | forbidden huse => simp [huse] at hasks
  | bypass huse habove =>
      rw [(gate_bypassed_iff hgate).mpr habove, huse] at hasks
      simp at hasks
  | direct huse hpolicy hbase =>
      have hbelow : request.startTier ≤ effectiveMaxTier false := by
        rw [Fin.le_def, hbase]
        exact Nat.zero_le _
      have htier := (free_tiers _ hbelow).2.mpr hbase
      rw [huse, htier] at hasks
      cases hread : request.getattr Policy.useProxy with
      | none => simp [hread] at hasks
      | some used =>
          cases used with
          | false => simp [hread] at hasks
          | true => exact absurd hread hpolicy

/-- Without a proxy type from the caller or the policy, the free tiers ask for
datacenter proxies alone exactly in the runs that start typed. -/
theorem only_datacenter_iff (huntyped : Untyped request) :
    OnlyDatacenter text request environment ↔ StartsTyped request := by
  constructor
  · intro honly
    cases hmanager : request.hasProxyManager with
    | false => exact .noManager hmanager
    | true =>
        by_cases hcount : request.maxAttempts ≤ 0
        · exact .noAttempt hcount
        · obtain ⟨bypassed, hgate⟩ := gate_of_reachable (reachable_startTier request)
          cases hasks : asksProxy request bypassed request.startTier.tier with
          | false => exact huntyped.startsTyped hmanager hgate hasks
          | true =>
              have hasked :
                  .getProxy (proxyRequest text request bypassed request.initialState.begin)
                    (environment 0).getProxy ∈ (attempt text request environment
                      (request.maxAttempts.toNat - 1) request.initialState).events :=
                attempt_asks hgate hasks
              have hcall : .getProxy (proxyRequest text request bypassed request.initialState.begin)
                  (environment 0).getProxy ∈ calls text request environment := by
                have hsucc : request.maxAttempts.toNat = request.maxAttempts.toNat - 1 + 1 := by
                  omega
                rw [calls, hsucc, loopEvents_succ]
                exact List.mem_append_left _ hasked
              obtain ⟨hpos, hle⟩ := (huntyped.datacenter_iff hgate).mp (honly _ _ hcall)
              exact .typed hpos hle
  · intro hstarts asked answer hmem
    obtain ⟨visit, hvisit, hevent⟩ := List.mem_flatMap.mp hmem
    obtain ⟨bypassed, hgate, hasks, rfl⟩ := attempt_asked hevent
    have hcount : 0 < request.maxAttempts := by
      by_contra hnone
      have hzero : request.maxAttempts.toNat = 0 := by omega
      rw [hzero] at hvisit
      cases hvisit
    apply (huntyped.datacenter_iff hgate).mpr
    rcases attempts_tier visit hvisit with hstart | htyped
    · rw [hstart] at hgate hasks ⊢
      exact hstarts.typed_of_asks hcount hgate hasks
    · exact htyped

end Run

/-! A caller that requires a proxy of no type and starts at the ladder's base. -/

theorem only_datacenter_iff_proxiedRequest :
    OnlyDatacenter asciiText proxiedRequest poolOfOne ↔ StartsTyped proxiedRequest :=
  only_datacenter_iff ⟨rfl, rfl, rfl⟩

theorem base_rung_untyped :
    ¬ ∀ request environment, Untyped request → OnlyDatacenter asciiText request environment := by
  intro h
  have htype := h singleAttempt connectError ⟨rfl, rfl, rfl⟩ _ _ (List.mem_cons_self ..)
  cases htype

end CrawlerApi.Fetch
