import CrawlerApi.Fetch.PremiumGate

/-!
# One attempt of the retry loop

What an attempt leaves when it goes around again, and what it has called when it
gives a result back.  The facts about whole runs read the loop through these two
inversions only.
-/

namespace CrawlerApi.Fetch

open Keys Foundation

/-- The state with the proxy of the attempt counted as failed, and nothing else
the later attempts look at but the block counter and the last outcomes. -/
structure Stays (state : State) (proxy : Option Proxy) (next : State) : Prop where
  tier : next.tier = state.tier
  fetcher : next.fetcher = state.fetcher
  totalAttempts : next.totalAttempts = state.totalAttempts
  failedProxyIds : next.failedProxyIds = (state.fail proxy).failedProxyIds

def BlockedBy (answers : Answers) (result : FetchResult) : Prop :=
  answers.fetch = .ok result ∧ result.blocked = true

/-- The ways an attempt with this proxy goes around again: the tier stays, a block
the ladder answers bumps it, or a blocked direct connection leaves it. -/
inductive Again (request : Request) (state : State) (proxy : Option Proxy) (answers : Answers) :
    State → Prop where
  | stayed {next : State} : Stays state proxy next → Again request state proxy answers next
  | climbed {kept : State} {rung : Rung} {result : FetchResult} : Stays state proxy kept →
      BlockedBy answers result → isEscalatable result.blockReason = true →
      nextTier state.tier = some rung → rung ≤ request.maxTier →
      Again request state proxy answers (kept.bump rung true)
  | leftDirect {kept : State} {rung : Rung} {result : FetchResult} : Stays state proxy kept →
      BlockedBy answers result → proxy = none → request.useProxy ≠ some true →
      nextTier state.tier = some rung → rung ≤ request.maxTier →
      Again request state proxy answers (kept.bump rung false)

section Steps

variable {text : TextMethods} {request : Request} {environment : Environment} {left : Nat}
  {state next : State} {answers : Answers} {proxy : Option Proxy} {result : FetchResult}
  {exn : Exn} {verdict : Verdict}

theorem State.fail_fail (state : State) (proxy : Option Proxy) :
    (state.fail proxy).fail proxy = state.fail proxy := by
  cases proxy with
  | none => rfl
  | some used =>
      have hmem : used.id ∈ state.failedProxyIds.insert used.id := List.mem_insert_self
      simp only [State.fail, List.insert_of_mem hmem]

theorem Stays.of_count {proxy : Option Proxy} :
    Stays state proxy ((state.count result).fail proxy) := by
  cases proxy with
  | none => exact ⟨rfl, rfl, rfl, rfl⟩
  | some used => exact ⟨rfl, rfl, rfl, rfl⟩

theorem afterBlock_again {kept : State} {events : List Event} (hkept : Stays state proxy kept)
    (hblocked : BlockedBy answers result) {page : FetchResult}
    (hreason : page.blockReason = result.blockReason)
    (h : (afterBlock request left kept proxy page events answers).exit = .ok .again) :
    Again request state proxy answers
      (afterBlock request left kept proxy page events answers).state := by
  unfold afterBlock at h ⊢
  split
  · rename_i hclimb
    rw [if_pos hclimb] at h
    split
    · rename_i hnone
      rw [hnone] at h
      cases h
    · rename_i rung hnext
      rw [hnext] at h
      dsimp only at h
      split
      · rename_i hlt
        rw [if_pos hlt] at h
        cases h
      · rename_i hle
        exact .climbed hkept hblocked (hreason ▸ hclimb.2) (hkept.tier ▸ hnext) (not_lt.mp hle)
  · rename_i hclimb
    rw [if_neg hclimb] at h
    split
    · rename_i hdirect
      rw [if_pos hdirect] at h
      split
      · rename_i hnone
        rw [hnone] at h
        cases h
      · rename_i rung hnext
        rw [hnext] at h
        dsimp only at h
        split
        · rename_i hle
          exact .leftDirect hkept hblocked hdirect.1 hdirect.2 (hkept.tier ▸ hnext) hle
        · rename_i hlt
          rw [if_neg hlt] at h
          cases h
    · split
      · exact .stayed hkept
      · exact .stayed hkept

theorem onBlocked_direct : onBlocked request left state none result answers =
    afterBlock request left (state.count result) none result [] answers := by
  unfold onBlocked
  cases request.hasProxyManager with
  | true => rfl
  | false => rfl

theorem onBlocked_raised {used : Proxy} (hmanager : request.hasProxyManager = true)
    (hreport : answers.report = .error exn) :
    (onBlocked request left state (some used) result answers).state = state.count result ∧
      (onBlocked request left state (some used) result answers).exit = .error exn := by
  unfold onBlocked
  rw [hmanager, hreport]
  exact ⟨rfl, rfl⟩

theorem onBlocked_reported {used : Proxy} (hmanager : request.hasProxyManager = true)
    (hreport : answers.report = .ok ()) :
    onBlocked request left state (some used) result answers =
      afterBlock request left ((state.count result).fail (some used)) (some used) result
        [.reportResult (reportOf request used false (some (blockReasonOr result.blockReason))
          result)] answers := by
  unfold onBlocked
  rw [hmanager, hreport]

theorem onBlocked_again (hblocked : BlockedBy answers result) {page : FetchResult}
    (hreason : page.blockReason = result.blockReason)
    (hproxy : proxy ≠ none → request.hasProxyManager = true)
    (h : (onBlocked request left state proxy page answers).exit = .ok .again) :
    Again request state proxy answers (onBlocked request left state proxy page answers).state := by
  cases proxy with
  | none =>
      rw [onBlocked_direct] at h ⊢
      exact afterBlock_again Stays.of_count hblocked hreason h
  | some used =>
      have hmanager := hproxy (Option.some_ne_none used)
      cases hreport : answers.report with
      | error exn =>
          rw [(onBlocked_raised hmanager hreport).2] at h
          cases h
      | ok reported =>
          rw [onBlocked_reported hmanager hreport] at h ⊢
          exact afterBlock_again Stays.of_count hblocked hreason h

/-- A try block that ends with an exception leaves the state as it was, up to the
proxy it may already have counted as failed. -/
def Unmoved (state : State) (proxy : Option Proxy) (tried : State) : Prop :=
  Stays state none tried ∨ Stays state proxy tried

theorem afterBlock_unmoved {kept : State} {events : List Event} (hkept : Stays state proxy kept)
    (h : (afterBlock request left kept proxy result events answers).exit = .error exn) :
    Unmoved state proxy (afterBlock request left kept proxy result events answers).state := by
  have hends := afterBlock_ends request left kept proxy result events answers
  generalize afterBlock request left kept proxy result events answers = tried at hends h ⊢
  cases hends with
  | returned => exact .inr hkept
  | bumped clear _ _ => cases h
  | rotated _ => exact .inr hkept

theorem onBlocked_unmoved (hproxy : proxy ≠ none → request.hasProxyManager = true)
    (h : (onBlocked request left state proxy result answers).exit = .error exn) :
    Unmoved state proxy (onBlocked request left state proxy result answers).state := by
  cases proxy with
  | none =>
      rw [onBlocked_direct] at h ⊢
      exact afterBlock_unmoved Stays.of_count h
  | some used =>
      have hmanager := hproxy (Option.some_ne_none used)
      cases hreport : answers.report with
      | error other =>
          rw [(onBlocked_raised hmanager hreport).1]
          exact .inl ⟨rfl, rfl, rfl, rfl⟩
      | ok reported =>
          rw [onBlocked_reported hmanager hreport] at h ⊢
          exact afterBlock_unmoved Stays.of_count h

theorem onSuccess_state :
    (onSuccess request state proxy result answers).state = state := by
  unfold onSuccess
  split
  · rfl
  · rfl

theorem onSuccess_exit (h : (onSuccess request state proxy result answers).exit = .ok verdict) :
    verdict = .result result := by
  unfold onSuccess at h
  split at h
  · cases hreport : answers.report with
    | error exn =>
        rw [hreport] at h
        cases h
    | ok reported =>
        rw [hreport] at h
        cases h
        rfl
  · cases h
    rfl

theorem fetchWith_again {fetcher : Fetcher}
    (hproxy : proxy ≠ none → request.hasProxyManager = true)
    (h : (fetchWith request left fetcher state proxy answers).exit = .ok .again) :
    Again request state proxy answers
      (fetchWith request left fetcher state proxy answers).state := by
  unfold fetchWith at h ⊢
  cases hfetch : answers.fetch with
  | error exn =>
      rw [hfetch] at h
      cases h
  | ok result =>
      rw [hfetch] at h
      dsimp only at h ⊢
      split at h
      · rename_i hblocked
        rw [if_pos hblocked]
        exact onBlocked_again ⟨hfetch, hblocked⟩ rfl hproxy h
      · cases onSuccess_exit h

theorem fetchWith_unmoved {fetcher : Fetcher}
    (hproxy : proxy ≠ none → request.hasProxyManager = true)
    (h : (fetchWith request left fetcher state proxy answers).exit = .error exn) :
    Unmoved state proxy (fetchWith request left fetcher state proxy answers).state := by
  unfold fetchWith at h ⊢
  cases hfetch : answers.fetch with
  | error other => exact .inl ⟨rfl, rfl, rfl, rfl⟩
  | ok result =>
      rw [hfetch] at h
      dsimp only at h ⊢
      split at h
      · rename_i hblocked
        rw [if_pos hblocked]
        exact onBlocked_unmoved hproxy h
      · rename_i hblocked
        rw [if_neg hblocked, onSuccess_state]
        exact .inl ⟨rfl, rfl, rfl, rfl⟩

theorem handle_stays (hproxy : proxy ≠ none → request.hasProxyManager = true)
    (h : (handle request left state proxy exn answers).exit = .again next) :
    Stays state proxy next := by
  have hfailed : ∀ error, Stays state proxy
      (({ state with lastError := some error } : State).fail proxy) := by
    intro error
    cases proxy with
    | none => exact ⟨rfl, rfl, rfl, rfl⟩
    | some used => exact ⟨rfl, rfl, rfl, rfl⟩
  cases exn with
  | proxyPoolUnavailable _ | proxyPoolExhausted _ | cancelled => cases h
  | fetchError message statusCode blocked =>
      unfold handle at h
      dsimp only at h
      split at h
      · split at h
        · cases h
        · rw [retryOr_again h]
          exact hfailed _
      · rename_i direct _ _ hdirect
        rw [retryOr_again h]
        cases direct with
        | none => exact hfailed _
        | some used => exact (hdirect used (hproxy (Option.some_ne_none used)) rfl).elim
  | exception message =>
      unfold handle at h
      dsimp only at h
      rw [retryOr_again h]
      split
      · exact hfailed _
      · rename_i hmanager
        cases proxy with
        | none => exact hfailed _
        | some used => exact absurd (hproxy (Option.some_ne_none used)) hmanager

theorem Unmoved.stays {tried : State} (hunmoved : Unmoved state proxy tried)
    (hstays : Stays tried proxy next) : Stays state proxy next := by
  have hfailed : ∀ other, Stays state other tried → other = none ∨ other = proxy →
      (tried.fail proxy).failedProxyIds = (state.fail proxy).failedProxyIds := by
    intro other hother hcases
    have hlist : (tried.fail proxy).failedProxyIds =
        ((state.fail other).fail proxy).failedProxyIds := by
      cases proxy with
      | none => exact hother.failedProxyIds
      | some used =>
          change tried.failedProxyIds.insert used.id = _
          rw [hother.failedProxyIds]
          rfl
    rw [hlist]
    rcases hcases with rfl | rfl
    · rfl
    · rw [State.fail_fail]
  rcases hunmoved with hkept | hkept
  · exact ⟨hstays.tier.trans hkept.tier, hstays.fetcher.trans hkept.fetcher,
      hstays.totalAttempts.trans hkept.totalAttempts,
      hstays.failedProxyIds.trans (hfailed none hkept (.inl rfl))⟩
  · exact ⟨hstays.tier.trans hkept.tier, hstays.fetcher.trans hkept.fetcher,
      hstays.totalAttempts.trans hkept.totalAttempts,
      hstays.failedProxyIds.trans (hfailed proxy hkept (.inr rfl))⟩

theorem manager_of_picked {bypassed : Bool}
    (h : (pickProxy text request answers bypassed state).2 = .ok proxy) :
    proxy ≠ none → request.hasProxyManager = true := by
  intro hsome
  rw [Ne, pickProxy_ok h] at hsome
  rw [Bool.not_eq_false, asksProxy, Bool.and_eq_true] at hsome
  exact hsome.2

/-- An attempt that goes around again lost its request for a proxy, or went on with
the proxy it picked. -/
inductive Resumes (text : TextMethods) (request : Request) (answers : Answers) (bypassed : Bool)
    (state next : State) : Prop where
  | lost {exn : Exn} : (pickProxy text request answers bypassed state).2 = .error exn →
      Stays state none next → Resumes text request answers bypassed state next
  | went {proxy : Option Proxy} : (pickProxy text request answers bypassed state).2 = .ok proxy →
      Again request state proxy answers next → Resumes text request answers bypassed state next

/-- How an attempt goes around again, seen from the state it began with. -/
theorem attempt_again (h : (attempt text request environment left state).exit = .again next) :
    ∃ bypassed, request.gate state.tier = .go bypassed ∧
      Resumes text request (environment state.totalAttempts) bypassed state.begin next := by
  unfold attempt at h
  split at h
  · cases h
  · rename_i bypassed hgate
    refine ⟨bypassed, hgate, ?_⟩
    dsimp only at h
    split at h
    · rename_i exn hpicked
      exact .lost hpicked (handle_stays (fun hne => absurd rfl hne) h)
    · rename_i proxy hpicked
      have hproxy := manager_of_picked hpicked
      apply Resumes.went hpicked
      split at h
      · rename_i hexit
        cases h
        exact fetchWith_again hproxy hexit
      · cases h
      · rename_i exn hexit
        exact .stayed ((fetchWith_unmoved hproxy hexit).stays (handle_stays hproxy h))

theorem Again.counts (h : Again request state proxy answers next) :
    next.totalAttempts = state.totalAttempts := by
  cases h with
  | stayed hkept => exact hkept.totalAttempts
  | climbed hkept _ _ _ _ => exact hkept.totalAttempts
  | leftDirect hkept _ _ _ _ _ => exact hkept.totalAttempts

theorem Resumes.counts {bypassed : Bool} (h : Resumes text request answers bypassed state next) :
    next.totalAttempts = state.totalAttempts := by
  cases h with
  | lost _ hstays => exact hstays.totalAttempts
  | went _ hagain => exact hagain.counts

theorem Again.fetcher (h : Again request state proxy answers next) :
    next.fetcher = none ∨ next.fetcher = state.fetcher := by
  cases h with
  | stayed hkept => exact .inr hkept.fetcher
  | climbed _ _ _ _ _ => exact .inl rfl
  | leftDirect _ _ _ _ _ _ => exact .inl rfl

theorem Resumes.fetcher {bypassed : Bool}
    (h : Resumes text request answers bypassed state next) :
    next.fetcher = none ∨ next.fetcher = state.fetcher := by
  cases h with
  | lost _ hstays => exact .inr hstays.fetcher
  | went _ hagain => exact hagain.fetcher

end Steps

end CrawlerApi.Fetch
