import CrawlerApi.Fetch.Attempt

/-!
# The shape of a run

Attempts climb the ladder rung by rung below the ceiling, each fetches with the
engine of its rung, and the result counts the attempts.  An attempt whose request
for a proxy raised is counted without having fetched.
-/

namespace CrawlerApi.Fetch

open Keys Foundation

def Event.fetched : Event → Option (Fetcher × Rung)
  | .fetch fetcher tier .. => some (fetcher, tier)
  | _ => none

def fetches (events : List Event) : List (Fetcher × Rung) := events.filterMap Event.fetched

def Event.proxyRaised : Event → Bool
  | .getProxy _ (.error _) => true
  | _ => false

def raisedRequests (events : List Event) : Nat := events.countP Event.proxyRaised

/-- A name on a fetcher is the name of its class. -/
def Fetcher.Named (fetcher : Fetcher) : Prop :=
  ∀ engine, fetcher.engineName = some engine → fetcher.engine = engine

def Climbs (rung next : Rung) : Prop := next.val = rung.val ∨ next.val = rung.val + 1

section Events

@[simp] theorem fetches_nil : fetches [] = [] := rfl

@[simp] theorem fetches_append (before after : List Event) :
    fetches (before ++ after) = fetches before ++ fetches after := List.filterMap_append

@[simp] theorem raisedRequests_nil : raisedRequests [] = 0 := rfl

@[simp] theorem raisedRequests_append (before after : List Event) :
    raisedRequests (before ++ after) = raisedRequests before + raisedRequests after :=
  List.countP_append

theorem fetches_of_quiet {events : List Event} (h : ∀ event ∈ events, event.quiet) :
    fetches events = [] := by
  apply List.filterMap_eq_nil_iff.mpr
  intro event hevent
  have hquiet := h event hevent
  cases event with
  | fetch _ _ _ _ _ => cases hquiet
  | _ => rfl

theorem raisedRequests_of_quiet {events : List Event} (h : ∀ event ∈ events, event.quiet) :
    raisedRequests events = 0 := by
  apply List.countP_eq_zero.mpr
  intro event hevent
  have hquiet := h event hevent
  cases event with
  | getProxy _ _ => cases hquiet
  | _ => exact Bool.false_ne_true

end Events

section Attempt

variable {text : TextMethods} {request : Request} {environment : Environment} {left : Nat}
  {state next : State} {answers : Answers} {proxy : Option Proxy} {result : FetchResult}
  {exn : Exn} {outcome : Outcome}

theorem fetcherFor_engine (h : ∀ fetcher, state.fetcher = some fetcher → fetcher.Named) :
    (fetcherFor state).engine = state.tier.tier.engine := by
  unfold fetcherFor
  split
  · rename_i fetcher hfetcher
    split
    · rename_i hname
      exact h fetcher hfetcher _ hname
    · rfl
  · rfl

theorem fetcherFor_named (h : ∀ fetcher, state.fetcher = some fetcher → fetcher.Named) :
    (fetcherFor state).Named := by
  unfold fetcherFor
  split
  · rename_i fetcher hfetcher
    split
    · exact h fetcher hfetcher
    · nofun
  · nofun

theorem tailEvents_calls {fetcher : Fetcher} :
    ∃ rest, tailEvents request left proxy answers
        (fetchWith request left fetcher state proxy answers) =
          .fetch fetcher state.tier proxy (headersForDomain request.policy answers.userAgent)
            answers.fetch :: rest ∧
      ∀ event ∈ rest, event.quiet := by
  have hfetch : ∃ rest, (fetchWith request left fetcher state proxy answers).events =
      .fetch fetcher state.tier proxy (headersForDomain request.policy answers.userAgent)
        answers.fetch :: rest ∧ ∀ event ∈ rest, event.quiet := by
    unfold fetchWith
    cases answers.fetch with
    | error exn => exact ⟨[], rfl, fun event h => absurd h List.not_mem_nil⟩
    | ok result =>
        refine ⟨_, rfl, ?_⟩
        intro event h
        split at h
        · exact onBlocked_quiet h
        · exact onSuccess_quiet h
  obtain ⟨rest, hevents, hquiet⟩ := hfetch
  unfold tailEvents
  rw [hevents]
  refine ⟨_, rfl, ?_⟩
  intro event h
  rcases List.mem_append.mp h with hrest | hhandled
  · exact hquiet event hrest
  · split at hhandled
    · cases hhandled
    · exact handle_quiet hhandled

theorem pickProxy_ok_calls {bypassed : Bool}
    (h : (pickProxy text request answers bypassed state).2 = .ok proxy) :
    fetches (pickProxy text request answers bypassed state).1 = [] ∧
      raisedRequests (pickProxy text request answers bypassed state).1 = 0 := by
  unfold pickProxy at h ⊢
  split
  · rename_i hasks
    rw [if_pos hasks] at h
    cases hanswer : answers.getProxy with
    | error exn =>
        rw [hanswer] at h
        cases h
    | ok found => exact ⟨rfl, rfl⟩
  · exact ⟨rfl, rfl⟩

theorem pickProxy_error_calls {bypassed : Bool}
    (h : (pickProxy text request answers bypassed state).2 = .error exn) :
    fetches (pickProxy text request answers bypassed state).1 = [] ∧
      (exn = proxyPoolError text request state.failedProxyIds ∨
        raisedRequests (pickProxy text request answers bypassed state).1 = 1) := by
  unfold pickProxy at h ⊢
  split
  · rename_i hasks
    rw [if_pos hasks] at h
    refine ⟨rfl, ?_⟩
    cases hanswer : answers.getProxy with
    | error other => exact .inr rfl
    | ok found =>
        rw [hanswer] at h
        cases found with
        | none =>
            cases h
            exact .inl rfl
        | some used => cases h
  · rename_i hasks
    rw [if_neg hasks] at h
    cases h

theorem attempt_fetches {bypassed : Bool} (hgate : request.gate state.tier = .go bypassed)
    (hpicked : (pickProxy text request (environment state.totalAttempts) bypassed
      state.begin).2 = .ok proxy) :
    fetches (attempt text request environment left state).events =
        [(fetcherFor state, state.tier)] ∧
      raisedRequests (attempt text request environment left state).events = 0 := by
  obtain ⟨rest, hevents, hquiet⟩ := @tailEvents_calls request left state.begin
    (environment state.totalAttempts) proxy (fetcherFor state)
  obtain ⟨hnone, hcount⟩ := pickProxy_ok_calls hpicked
  rw [attempt_ok hgate hpicked, fetches_append, raisedRequests_append, hnone, hcount, hevents]
  constructor
  · exact congrArg ((fetcherFor state, state.tier) :: ·) (fetches_of_quiet hquiet)
  · rw [Nat.zero_add]
    exact (List.countP_cons_of_neg Bool.false_ne_true).trans (raisedRequests_of_quiet hquiet)

theorem attempt_unfetched {bypassed : Bool} (hgate : request.gate state.tier = .go bypassed)
    (hpicked : (pickProxy text request (environment state.totalAttempts) bypassed
      state.begin).2 = .error exn) :
    fetches (attempt text request environment left state).events = [] ∧
      (exn = proxyPoolError text request state.failedProxyIds ∨
        raisedRequests (attempt text request environment left state).events = 1) := by
  obtain ⟨hnone, hcount⟩ := pickProxy_error_calls hpicked
  have hquiet : ∀ event ∈ (handle request left state.begin none exn
      (environment state.totalAttempts)).events, event.quiet := fun event => handle_quiet
  rw [attempt_error hgate hpicked, fetches_append, raisedRequests_append, hnone,
    fetches_of_quiet hquiet, raisedRequests_of_quiet hquiet]
  exact ⟨rfl, hcount⟩

theorem attempt_lost {bypassed : Bool} (hgate : request.gate state.tier = .go bypassed)
    (hpicked : (pickProxy text request (environment state.totalAttempts) bypassed
      state.begin).2 = .error exn)
    (h : (attempt text request environment left state).exit = .again next) :
    raisedRequests (attempt text request environment left state).events = 1 := by
  rcases (attempt_unfetched hgate hpicked).2 with hrefused | hraised
  · unfold attempt at h
    simp only [hgate, hpicked] at h
    rw [hrefused, handle_proxyPoolError] at h
    cases h
  · exact hraised

theorem afterBlock_result {kept : State} {events : List Event} {page : FetchResult}
    (h : (afterBlock request left kept proxy result events answers).exit = .ok (.result page)) :
    page = result := by
  have hends := afterBlock_ends request left kept proxy result events answers
  generalize afterBlock request left kept proxy result events answers = tried at hends h
  cases hends with
  | returned =>
      cases h
      rfl
  | bumped clear _ _ => cases h
  | rotated _ =>
      cases hsleep : answers.sleep with
      | error exn => rw [sleepThen, hsleep] at h; cases h
      | ok slept => rw [sleepThen, hsleep] at h; cases h

theorem onBlocked_result {page : FetchResult}
    (h : (onBlocked request left state proxy result answers).exit = .ok (.result page)) :
    page = result := by
  unfold onBlocked at h
  dsimp only at h
  split at h
  · split at h
    · cases h
    · exact afterBlock_result h
  · exact afterBlock_result h

theorem fetchWith_result {fetcher : Fetcher} {page : FetchResult}
    (h : (fetchWith request left fetcher state proxy answers).exit = .ok (.result page)) :
    page.retriesUsed = state.totalAttempts - 1 ∧ page.tierUsed = state.tier := by
  unfold fetchWith at h
  cases hfetch : answers.fetch with
  | error exn =>
      rw [hfetch] at h
      cases h
  | ok result =>
      rw [hfetch] at h
      dsimp only at h
      split at h
      · rw [onBlocked_result h]
        exact ⟨rfl, rfl⟩
      · have hverdict := onSuccess_exit h
        cases hverdict
        exact ⟨rfl, rfl⟩

theorem handle_raises (h : (handle request left state proxy exn answers).exit = .done outcome) :
    ∃ raised, outcome = .error raised := by
  have hretry : ∀ kept raised events,
      (retryOr left kept raised events answers).exit = .done outcome →
        ∃ raised, outcome = .error raised := by
    intro kept raised events hexit
    unfold retryOr at hexit
    split at hexit
    · dsimp only at hexit
      split at hexit
      · cases hexit
      · cases hexit
        exact ⟨_, rfl⟩
    · cases hexit
      exact ⟨_, rfl⟩
  cases exn with
  | proxyPoolUnavailable _ | proxyPoolExhausted _ | cancelled =>
      cases h
      exact ⟨_, rfl⟩
  | fetchError message statusCode blocked =>
      unfold handle at h
      dsimp only at h
      split at h
      · split at h
        · cases h
          exact ⟨_, rfl⟩
        · exact hretry _ _ _ h
      · exact hretry _ _ _ h
  | exception message =>
      unfold handle at h
      dsimp only at h
      exact hretry _ _ _ h

theorem attempt_returns (hreach : Reachable request state.tier)
    (h : (attempt text request environment left state).exit = .done (.ok result)) :
    fetches (attempt text request environment left state).events =
        [(fetcherFor state, state.tier)] ∧
      raisedRequests (attempt text request environment left state).events = 0 ∧
      result.retriesUsed = state.totalAttempts ∧ result.tierUsed = state.tier := by
  obtain ⟨bypassed, hgate⟩ := gate_of_reachable hreach
  cases hpicked : (pickProxy text request (environment state.totalAttempts) bypassed
      state.begin).2 with
  | error exn =>
      unfold attempt at h
      simp only [hgate, hpicked] at h
      obtain ⟨raised, hraised⟩ := handle_raises h
      cases hraised
  | ok proxy =>
      obtain ⟨hfetches, hcount⟩ := @attempt_fetches text request environment left state proxy
        bypassed hgate hpicked
      refine ⟨hfetches, hcount, ?_⟩
      unfold attempt at h
      simp only [hgate, hpicked] at h
      split at h
      · cases h
      · rename_i page hexit
        cases h
        exact fetchWith_result hexit
      · obtain ⟨raised, hraised⟩ := handle_raises h
        cases hraised

/-- An attempt that goes around again fetched once or lost its request for a proxy. -/
theorem attempt_weighs (h : (attempt text request environment left state).exit = .again next) :
    (fetches (attempt text request environment left state).events).length +
      raisedRequests (attempt text request environment left state).events = 1 := by
  obtain ⟨bypassed, hgate, hresumes⟩ := attempt_again h
  cases hresumes with
  | lost hpicked _ =>
      rw [(attempt_unfetched hgate hpicked).1, attempt_lost hgate hpicked h]
      rfl
  | went hpicked _ =>
      rw [(attempt_fetches hgate hpicked).1, (attempt_fetches hgate hpicked).2]
      rfl

theorem attempt_fetches_le :
    (fetches (attempt text request environment left state).events).length ≤ 1 := by
  cases hgate : request.gate state.tier with
  | stop =>
      rw [attempt, hgate]
      exact Nat.zero_le 1
  | go bypassed =>
      cases hpicked : (pickProxy text request (environment state.totalAttempts) bypassed
          state.begin).2 with
      | error exn =>
          rw [(attempt_unfetched hgate hpicked).1]
          exact Nat.zero_le 1
      | ok proxy =>
          rw [(attempt_fetches hgate hpicked).1]
          exact Nat.le_refl 1

end Attempt

section Run

variable {text : TextMethods} {request : Request} {environment : Environment}

theorem reachable_of_mem {visit : Visit State} (h : visit ∈ attempts text request environment) :
    Reachable request visit.state.tier := by
  rcases attempts_tier visit h with hstart | ⟨-, hle⟩
  · rw [hstart]
    exact reachable_startTier request
  · exact .inl hle

theorem attempts_count {last : Visit State}
    (h : (attempts text request environment).getLast? = some last) :
    last.state.totalAttempts + 1 = (attempts text request environment).length := by
  have hcount := visits_count State.totalAttempts (fun visit _ next hagain => by
    obtain ⟨_, _, hresumes⟩ := attempt_again hagain
    exact hresumes.counts) h
  rw [hcount]
  exact Nat.zero_add _

theorem attempts_named (hnamed : request.fetcher.Named) :
    ∀ visit ∈ attempts text request environment,
      ∀ fetcher, visit.state.fetcher = some fetcher → fetcher.Named := by
  refine visits_invariant
    (fun state : State => ∀ fetcher, state.fetcher = some fetcher → fetcher.Named) ?_ ?_
  · intro visit _ hold next hagain fetcher hfetcher
    obtain ⟨_, _, hresumes⟩ := attempt_again hagain
    rcases hresumes.fetcher with hnone | hsame
    · rw [hnone] at hfetcher
      cases hfetcher
    · rw [hsame] at hfetcher
      cases hfetcher
      exact fetcherFor_named hold
  · intro fetcher hfetcher
    cases hfetcher
    exact hnamed

theorem attempts_climb : (attempts text request environment).IsChain
    fun visit next => Climbs visit.state.tier next.state.tier := by
  refine visits_chain (fun state next : State => Climbs state.tier next.tier) ?_
  intro visit _ next hagain
  rcases attempt_moves hagain with hsame | ⟨hbump, -⟩
  · exact .inl (congrArg Fin.val hsame)
  · exact .inr (nextTier_eq_some.mp hbump)

theorem returns_last {result : FetchResult}
    (h : fetchWithRetry text request environment = .ok result) :
    ∃ visit, (attempts text request environment).getLast? = some visit ∧
      (attempt text request environment visit.left visit.state).exit = .done (.ok result) := by
  have hcases := @loop_cases _ _ _ (attempt text request environment) exhausted
    request.maxAttempts.toNat request.initialState
  rcases hcases with ⟨visit, hlast, hdone⟩ | ⟨final, hfinal⟩
  · have hresult : loop (attempt text request environment) exhausted request.maxAttempts.toNat
        request.initialState = .ok result := h
    rw [hresult] at hdone
    exact ⟨visit, hlast, hdone⟩
  · exact absurd (hfinal.symm.trans h) fun heq => by cases heq

/-- Fetches and lost requests for a proxy add up to the attempts of a run that gives
a result back. -/
theorem returned_weighs {result : FetchResult}
    (h : fetchWithRetry text request environment = .ok result) :
    (fetches (calls text request environment)).length +
        raisedRequests (calls text request environment) =
      (attempts text request environment).length := by
  refine loopEvents_measure (fun events count =>
    (fetches events).length + raisedRequests events = count) rfl ?_ ?_
  · intro before after count hbefore hafter
    rw [fetches_append, raisedRequests_append, List.length_append]
    omega
  · intro visit hvisit
    cases hexit : (attempt text request environment visit.left visit.state).exit with
    | again next => exact attempt_weighs hexit
    | done outcome =>
        have hsame : fetchWithRetry text request environment = outcome :=
          loop_of_mem_done hvisit hexit
        rw [h] at hsame
        rw [← hsame] at hexit
        obtain ⟨hfetches, hcount, -⟩ := attempt_returns (reachable_of_mem hvisit) hexit
        rw [hfetches, hcount]
        rfl

theorem fetches_le_attempts :
    (fetches (calls text request environment)).length ≤
      (attempts text request environment).length := by
  refine loopEvents_measure (fun events count => (fetches events).length ≤ count)
    (Nat.le_refl 0) ?_ ?_
  · intro before after count hbefore hafter
    rw [fetches_append, List.length_append]
    omega
  · intro visit _
    exact attempt_fetches_le

theorem attempt_engine {visit : Visit State} (hvisit : visit ∈ attempts text request environment)
    (hnamed : request.fetcher.Named) {fetched : Fetcher × Rung}
    (h : fetched ∈ fetches (attempt text request environment visit.left visit.state).events) :
    fetched.2 = visit.state.tier ∧ fetched.1.engine = visit.state.tier.tier.engine := by
  obtain ⟨bypassed, hgate⟩ := gate_of_reachable (reachable_of_mem hvisit)
  cases hpicked : (pickProxy text request (environment visit.state.totalAttempts) bypassed
      visit.state.begin).2 with
  | error exn =>
      rw [(attempt_unfetched hgate hpicked).1] at h
      cases h
  | ok proxy =>
      rw [(attempt_fetches hgate hpicked).1] at h
      rw [List.mem_singleton.mp h]
      exact ⟨rfl, fetcherFor_engine (attempts_named hnamed visit hvisit)⟩

/-- The shape of a run, over its attempts, its calls and what it gives back. -/
structure RunShape (text : TextMethods) (request : Request) (environment : Environment) :
    Prop where
  ceiling : (fetches (calls text request environment)).length ≤ request.maxAttempts.toNat
  climbs : (attempts text request environment).IsChain
    fun visit next => Climbs visit.state.tier next.state.tier
  bounded : ∀ visit ∈ attempts text request environment,
    visit.state.tier ≤ request.startTier ∨ visit.state.tier ≤ request.maxTier
  engine : ∀ visit ∈ attempts text request environment,
    ∀ fetched ∈ fetches (attempt text request environment visit.left visit.state).events,
      fetched.2 = visit.state.tier ∧ fetched.1.engine = visit.state.tier.tier.engine
  numbered : ∀ result, fetchWithRetry text request environment = .ok result →
    result.retriesUsed + 1 = (fetches (calls text request environment)).length +
      raisedRequests (calls text request environment)
  lastTier : ∀ result, fetchWithRetry text request environment = .ok result →
    ∃ fetcher rung, (fetches (calls text request environment)).getLast? = some (fetcher, rung) ∧
      result.tierUsed = rung

theorem run_shape (hnamed : request.fetcher.Named) : RunShape text request environment where
  ceiling := Nat.le_trans fetches_le_attempts length_visits_le
  climbs := attempts_climb
  bounded := by
    intro visit hvisit
    rcases attempts_tier visit hvisit with hstart | ⟨-, hle⟩
    · exact .inl (Fin.le_of_eq hstart)
    · exact .inr hle
  engine := fun _ hvisit _ h => attempt_engine hvisit hnamed h
  numbered := by
    intro result hresult
    obtain ⟨last, hlast, hreturn⟩ := returns_last hresult
    have hreach := reachable_of_mem (List.mem_of_getLast? hlast)
    rw [returned_weighs hresult, (attempt_returns hreach hreturn).2.2.1, attempts_count hlast]
  lastTier := by
    intro result hresult
    obtain ⟨last, hlast, hreturn⟩ := returns_last hresult
    have hreach := reachable_of_mem (List.mem_of_getLast? hlast)
    obtain ⟨hfetches, -, -, htier⟩ := attempt_returns hreach hreturn
    refine ⟨fetcherFor last.state, last.state.tier, ?_, htier⟩
    obtain ⟨before, hbefore⟩ := List.getLast?_eq_some_iff.mp hlast
    have hcalls : calls text request environment = (before ++ [last]).flatMap fun visit =>
        (attempt text request environment visit.left visit.state).events :=
      congrArg (List.flatMap _) hbefore
    rw [hcalls, List.flatMap_append, List.flatMap_singleton, fetches_append, hfetches,
      List.getLast?_concat]

end Run

/-! A request for a proxy that raises, then an attempt that goes well. -/

def raisesOnce : Environment := fun attempt => {
  getProxy := if attempt = 0 then .error (.exception "connection reset")
    else .ok (some ⟨1, "http://proxy.example:8080", none, none, .datacenter⟩)
  userAgent := "Mozilla/5.0"
  fetch := .ok { url := "https://example.com/", statusCode := 200 } }

theorem run_shape_raisesOnce : RunShape asciiText proxiedRequest raisesOnce :=
  run_shape nofun

/-- The result counts one retry although one fetch was made. -/
theorem retries_exceed_fetches :
    ¬ ∀ text request environment result, request.fetcher.Named →
      fetchWithRetry text request environment = .ok result →
        result.retriesUsed + 1 = (fetches (calls text request environment)).length := by
  intro h
  have hcount := h asciiText proxiedRequest raisesOnce _ nofun rfl
  exact absurd hcount (by decide)

end CrawlerApi.Fetch
