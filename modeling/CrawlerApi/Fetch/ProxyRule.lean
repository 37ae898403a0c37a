import CrawlerApi.Fetch.Retry

/-!
# No silent direct connection

The effective proxy setting is computed anew for every attempt.  What an attempt
asks the manager for and what it hands the fetcher follow from its gate and that
setting alone, so the rule holds along every run.
-/

namespace CrawlerApi.Fetch

open Keys Foundation

def Event.quiet : Event → Prop
  | .getProxy .. | .fetch .. => False
  | .reportResult _ | .sleep => True

section Attempt

variable {text : TextMethods} {request : Request} {environment : Environment} {left : Nat}
  {state : State} {proxy : Option Proxy} {answers : Answers} {bypassed : Bool} {event : Event}

theorem afterBlock_quiet {result : FetchResult} {events : List Event}
    (hevents : ∀ event ∈ events, event.quiet)
    (h : event ∈ (afterBlock request left state proxy result events answers).events) :
    event.quiet := by
  have hends := afterBlock_ends request left state proxy result events answers
  generalize afterBlock request left state proxy result events answers = tried at h hends
  cases hends with
  | returned => exact hevents event h
  | bumped clear _ _ => exact hevents event h
  | rotated _ =>
      rcases List.mem_append.mp h with hold | hsleep
      · exact hevents event hold
      · rw [List.mem_singleton.mp hsleep]
        trivial

private theorem quiet_singleton {report : Report} :
    ∀ event ∈ [Event.reportResult report], event.quiet := by
  intro event h
  rw [List.mem_singleton.mp h]
  trivial

theorem onBlocked_quiet {result : FetchResult}
    (h : event ∈ (onBlocked request left state proxy result answers).events) : event.quiet := by
  unfold onBlocked at h
  dsimp only at h
  split at h
  · split at h
    · exact quiet_singleton event h
    · exact afterBlock_quiet quiet_singleton h
  · exact afterBlock_quiet (fun _ hnil => absurd hnil List.not_mem_nil) h

theorem onSuccess_quiet {result : FetchResult}
    (h : event ∈ (onSuccess request state proxy result answers).events) : event.quiet := by
  unfold onSuccess at h
  split at h
  · exact quiet_singleton event h
  · exact absurd h List.not_mem_nil

theorem retryOr_quiet {exn : Exn} {events : List Event}
    (hevents : ∀ event ∈ events, event.quiet)
    (h : event ∈ (retryOr left state exn events answers).events) : event.quiet := by
  unfold retryOr at h
  split at h
  · rcases List.mem_append.mp h with hold | hsleep
    · exact hevents event hold
    · rw [List.mem_singleton.mp hsleep]
      trivial
  · exact hevents event h

theorem handle_quiet {exn : Exn}
    (h : event ∈ (handle request left state proxy exn answers).events) : event.quiet := by
  have hnil : ∀ event ∈ ([] : List Event), event.quiet := fun _ h => absurd h List.not_mem_nil
  cases exn with
  | proxyPoolUnavailable _ | proxyPoolExhausted _ | cancelled => exact hnil event h
  | fetchError message statusCode blocked =>
      unfold handle at h
      dsimp only at h
      split at h
      · split at h
        · exact quiet_singleton event h
        · exact retryOr_quiet quiet_singleton h
      · exact retryOr_quiet hnil h
  | exception message => exact retryOr_quiet hnil h

theorem pickProxy_ok (h : (pickProxy text request answers bypassed state).2 = .ok proxy) :
    (proxy = none ↔ asksProxy request bypassed state.tier.tier = false) := by
  unfold pickProxy at h
  split at h
  · rename_i hasks
    cases hanswer : answers.getProxy with
    | error exn => simp [hanswer] at h
    | ok found =>
        cases found with
        | none => simp [hanswer] at h
        | some found =>
            simp only [hanswer, Except.ok.injEq] at h
            simp [← h, hasks]
  · rename_i hasks
    cases h
    simpa using hasks

theorem fetchWith_event {fetcher : Fetcher}
    (h : event ∈ (fetchWith request left fetcher state proxy answers).events) :
    event = .fetch fetcher state.tier proxy (headersForDomain request.policy answers.userAgent)
      answers.fetch ∨ event.quiet := by
  unfold fetchWith at h
  dsimp only at h
  split at h
  · exact .inl (List.mem_singleton.mp h)
  · rcases List.mem_cons.mp h with hfetch | hrest
    · rename_i hanswer
      exact .inl (hanswer ▸ hfetch)
    · split at hrest
      · exact .inr (onBlocked_quiet hrest)
      · exact .inr (onSuccess_quiet hrest)

/-- The calls of an attempt at a rung: it asks for a proxy when its setting says
so, and fetches with the proxy it was given. -/
inductive Attempted (request : Request) (rung : Rung) (bypassed : Bool) : Event → Prop where
  | asked {asked : ProxyRequest} {answer : Except Exn (Option Proxy)} :
      asksProxy request bypassed rung.tier = true →
      Attempted request rung bypassed (.getProxy asked answer)
  | fetched {fetcher : Fetcher} {proxy : Option Proxy} {headers : Headers}
      {answer : Except Exn FetchResult} :
      (proxy = none ↔ asksProxy request bypassed rung.tier = false) →
      Attempted request rung bypassed (.fetch fetcher rung proxy headers answer)
  | quiet {event : Event} : event.quiet → Attempted request rung bypassed event

theorem pickProxy_attempted
    (h : event ∈ (pickProxy text request answers bypassed state).1) :
    Attempted request state.tier bypassed event := by
  unfold pickProxy at h
  split at h
  · rename_i hasks
    rw [List.mem_singleton.mp h]
    exact .asked hasks
  · exact absurd h List.not_mem_nil

theorem fetchWith_attempted {fetcher : Fetcher}
    (hproxy : proxy = none ↔ asksProxy request bypassed state.tier.tier = false)
    (h : event ∈ (fetchWith request left fetcher state proxy answers).events) :
    Attempted request state.tier bypassed event := by
  rcases fetchWith_event h with rfl | hquiet
  · exact .fetched hproxy
  · exact .quiet hquiet

theorem attempt_attempted (h : event ∈ (attempt text request environment left state).events) :
    ∃ bypassed, request.gate state.tier = .go bypassed ∧
      Attempted request state.tier bypassed event := by
  unfold attempt at h
  split at h
  · exact absurd h List.not_mem_nil
  · rename_i bypassed hgate
    refine ⟨bypassed, hgate, ?_⟩
    change Attempted request state.begin.tier bypassed event
    dsimp only at h
    split at h
    · rcases List.mem_append.mp h with hpick | hhandled
      · exact pickProxy_attempted hpick
      · exact .quiet (handle_quiet hhandled)
    · rename_i proxy hpicked
      have hproxy := pickProxy_ok hpicked
      split at h
      · rcases List.mem_append.mp h with hpick | hfetch
        · exact pickProxy_attempted hpick
        · exact fetchWith_attempted hproxy hfetch
      · rcases List.mem_append.mp h with hpick | hfetch
        · exact pickProxy_attempted hpick
        · exact fetchWith_attempted hproxy hfetch
      · rcases List.mem_append.mp h with hbefore | hhandled
        · rcases List.mem_append.mp hbefore with hpick | hfetch
          · exact pickProxy_attempted hpick
          · exact fetchWith_attempted hproxy hfetch
        · exact .quiet (handle_quiet hhandled)

def Event.refused : Event → Prop
  | .getProxy _ (.ok none) => True
  | _ => False

def PoolError (outcome : Outcome) : Prop :=
  ∃ detail, outcome = .error (.proxyPoolUnavailable detail) ∨
    outcome = .error (.proxyPoolExhausted detail)

theorem Event.quiet.not_refused (h : event.quiet) : ¬ event.refused := by
  cases event with
  | getProxy asked answer => cases h
  | fetch _ _ _ _ _ => cases h
  | reportResult report => nofun
  | sleep => nofun

theorem fetchWith_not_refused {fetcher : Fetcher}
    (h : event ∈ (fetchWith request left fetcher state proxy answers).events) :
    ¬ event.refused := by
  rcases fetchWith_event h with rfl | hquiet
  · nofun
  · exact hquiet.not_refused

theorem proxyPoolError_poolError (failedProxyIds : List Uuid) :
    PoolError (.error (proxyPoolError text request failedProxyIds)) := by
  unfold proxyPoolError
  dsimp only
  split
  · exact ⟨_, .inr rfl⟩
  · exact ⟨_, .inl rfl⟩

theorem pickProxy_refused (h : event ∈ (pickProxy text request answers bypassed state).1)
    (hrefused : event.refused) :
    pickProxy text request answers bypassed state =
      ([event], .error (proxyPoolError text request state.failedProxyIds)) := by
  unfold pickProxy at h ⊢
  split at h
  · rename_i hasks
    rw [if_pos hasks]
    rw [List.mem_singleton.mp h] at hrefused ⊢
    cases hanswer : answers.getProxy with
    | error exn => rw [hanswer] at hrefused; cases hrefused
    | ok found =>
        cases found with
        | none => rfl
        | some proxy => rw [hanswer] at hrefused; cases hrefused
  · exact absurd h List.not_mem_nil

theorem handle_proxyPoolError (failedProxyIds : List Uuid) :
    handle request left state proxy (proxyPoolError text request failedProxyIds) answers =
      ⟨[], .done (.error (proxyPoolError text request failedProxyIds))⟩ := by
  unfold proxyPoolError
  dsimp only
  split
  · rfl
  · rfl

theorem attempt_refused (h : event ∈ (attempt text request environment left state).events)
    (hrefused : event.refused) :
    (attempt text request environment left state).events = [event] ∧
      ∃ out, (attempt text request environment left state).exit = .done out ∧ PoolError out := by
  unfold attempt at h ⊢
  split at h
  · exact absurd h List.not_mem_nil
  · rename_i bypassed hgate
    dsimp only at h ⊢
    split at h
    · rename_i exn hpicked
      rcases List.mem_append.mp h with hpick | hhandled
      · have heq := pickProxy_refused hpick hrefused
        rw [heq] at hpicked
        cases hpicked
        rw [heq, handle_proxyPoolError]
        exact ⟨rfl, _, rfl, proxyPoolError_poolError _⟩
      · exact absurd hrefused (handle_quiet hhandled).not_refused
    · rename_i proxy hpicked
      have hpick_absurd : event ∉ (pickProxy text request (environment state.totalAttempts)
          bypassed state.begin).1 := by
        intro hpick
        rw [pickProxy_refused hpick hrefused] at hpicked
        cases hpicked
      split at h
      · rcases List.mem_append.mp h with hpick | hfetch
        · exact absurd hpick hpick_absurd
        · exact absurd hrefused (fetchWith_not_refused hfetch)
      · rcases List.mem_append.mp h with hpick | hfetch
        · exact absurd hpick hpick_absurd
        · exact absurd hrefused (fetchWith_not_refused hfetch)
      · rcases List.mem_append.mp h with hbefore | hhandled
        · rcases List.mem_append.mp hbefore with hpick | hfetch
          · exact absurd hpick hpick_absurd
          · exact absurd hrefused (fetchWith_not_refused hfetch)
        · exact absurd hrefused (handle_quiet hhandled).not_refused

end Attempt

section Run

variable {text : TextMethods} {request : Request} {environment : Environment}

theorem calls_attempted {event : Event} (h : event ∈ calls text request environment) :
    ∃ rung bypassed, request.gate rung = .go bypassed ∧
      Attempted request rung bypassed event := by
  obtain ⟨visit, -, hevent⟩ := List.mem_flatMap.mp h
  exact ⟨visit.state.tier, attempt_attempted hevent⟩

def BypassesGate (request : Request) (rung : Rung) : Prop :=
  request.maxTier < rung ∧ request.requestedEngine = some rung.tier.engine

theorem gate_bypassed {rung : Rung} (h : request.gate rung = .go true) :
    BypassesGate request rung := by
  unfold Request.gate at h
  split at h
  · rename_i habove
    split at h
    · rename_i hengine
      exact ⟨habove, hengine⟩
    · cases h
  · cases h

/-- The rule on direct connections, over the calls and the outcome of a run. -/
structure NoSilentDirect (text : TextMethods) (request : Request) (environment : Environment) :
    Prop where
  required : request.useProxy = some true → ∀ fetcher rung proxy headers answer,
    .fetch fetcher rung proxy headers answer ∈ calls text request environment → proxy ≠ none
  forbidden : request.useProxy = some false →
    (∀ asked answer, .getProxy asked answer ∉ calls text request environment) ∧
      ∀ fetcher rung proxy headers answer,
        .fetch fetcher rung proxy headers answer ∈ calls text request environment → proxy = none
  ladder : request.useProxy = none → ∀ fetcher rung proxy headers answer,
    .fetch fetcher rung proxy headers answer ∈ calls text request environment →
      rung.tier.useProxy = true → proxy ≠ none ∨ BypassesGate request rung
  refused : ∀ before asked after,
    calls text request environment = before ++ .getProxy asked (.ok none) :: after →
      (∀ fetcher rung proxy headers answer,
        .fetch fetcher rung proxy headers answer ∉ after) ∧
      PoolError (fetchWithRetry text request environment)

theorem fetch_proxy {fetcher : Fetcher} {rung : Rung} {proxy : Option Proxy} {headers : Headers}
    {answer : Except Exn FetchResult}
    (h : .fetch fetcher rung proxy headers answer ∈ calls text request environment) :
    ∃ bypassed, request.gate rung = .go bypassed ∧
      (proxy = none ↔ asksProxy request bypassed rung.tier = false) := by
  obtain ⟨_, bypassed, hgate, hattempted⟩ := calls_attempted h
  cases hattempted with
  | fetched hproxy => exact ⟨bypassed, hgate, hproxy⟩
  | quiet hquiet => cases hquiet

private theorem refused_ends (left : Nat) (state next : State)
    (hexit : (attempt text request environment left state).exit = .again next) :
    ∀ event ∈ (attempt text request environment left state).events, ¬ event.refused := by
  intro event hmem hrefused
  obtain ⟨-, out, hdone, -⟩ := attempt_refused hmem hrefused
  rw [hexit] at hdone
  cases hdone

private theorem refused_last (left : Nat) (state : State) (out : Outcome)
    (hexit : (attempt text request environment left state).exit = .done out)
    (before : List Event) (event : Event) (after : List Event)
    (hevents : (attempt text request environment left state).events = before ++ event :: after)
    (hrefused : event.refused) : after = [] ∧ PoolError out := by
  obtain ⟨hsingle, other, hdone, hpool⟩ := attempt_refused (by rw [hevents]; simp) hrefused
  rw [hexit] at hdone
  cases hdone
  rw [hevents, List.append_eq_singleton_iff] at hsingle
  rcases hsingle with ⟨-, hafter⟩ | ⟨-, hafter⟩
  · exact ⟨(List.cons_eq_cons.mp hafter).2, hpool⟩
  · cases hafter

theorem no_silent_direct (hmanager : request.hasProxyManager = true) :
    NoSilentDirect text request environment := by
  constructor
  · intro hforced fetcher rung proxy headers answer hmem
    obtain ⟨bypassed, -, hproxy⟩ := fetch_proxy hmem
    rw [Ne, hproxy]
    simp [asksProxy, Request.tierUseProxy, hforced, hmanager]
  · intro hforced
    have hasks : ∀ bypassed tier, asksProxy request bypassed tier = false := by
      intro bypassed tier
      simp [asksProxy, Request.tierUseProxy, hforced]
    constructor
    · intro asked answer hmem
      obtain ⟨rung, bypassed, -, hattempted⟩ := calls_attempted hmem
      cases hattempted with
      | asked hasked => rw [hasks] at hasked; cases hasked
      | quiet hquiet => cases hquiet
    · intro fetcher rung proxy headers answer hmem
      obtain ⟨bypassed, -, hproxy⟩ := fetch_proxy hmem
      exact hproxy.mpr (hasks bypassed rung.tier)
  · intro hunset fetcher rung proxy headers answer hmem hladder
    obtain ⟨bypassed, hgate, hproxy⟩ := fetch_proxy hmem
    cases bypassed with
    | true => exact .inr (gate_bypassed hgate)
    | false =>
        left
        rw [Ne, hproxy]
        simp [asksProxy, Request.tierUseProxy, hunset, hladder, hmanager]
  · intro before asked after heq
    have hfinal : after = [] ∧ PoolError (fetchWithRetry text request environment) := by
      refine loopEvents_final Event.refused PoolError ?_ ?_ heq trivial
      · exact refused_ends
      · exact refused_last
    rw [hfinal.1]
    exact ⟨fun _ _ _ _ _ => List.not_mem_nil, hfinal.2⟩

end Run

/-! A caller that requires a proxy, and a pool that runs dry after one block. -/

def proxiedRequest : Request where
  fetcher := getFetcher .httpx
  url := "https://example.com/"
  domain := "example.com"
  useProxy := some true

def banned : FetchResult where
  url := "https://example.com/"
  statusCode := 403
  blocked := true
  blockReason := some "ip_ban"

def poolOfOne : Environment := fun attempt => {
  getProxy := .ok (if attempt = 0 then
    some ⟨1, "http://proxy.example:8080", none, none, .datacenter⟩ else none)
  userAgent := "Mozilla/5.0"
  fetch := .ok banned }

theorem no_silent_direct_pool_of_one : NoSilentDirect asciiText proxiedRequest poolOfOne :=
  no_silent_direct rfl

end CrawlerApi.Fetch
