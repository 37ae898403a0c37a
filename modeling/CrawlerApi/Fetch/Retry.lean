import CrawlerApi.Core.Text
import CrawlerApi.Fetch.Escalation
import CrawlerApi.Foundation.Loop

/-!
# The retry loop

`fetch_with_retry` as a bounded loop.  Every call the loop makes is an event;
what the calls of one attempt answer or raise is given from outside, attempt by
attempt.  `left` is the number of attempts left after the running one, so
`total_attempts < max_attempts` reads `0 < left` inside an attempt.
-/

namespace CrawlerApi.Fetch

open Keys Foundation

/-- A fetcher object: its class, and the `_engine_name` attribute, which no
fetcher class sets. -/
structure Fetcher where
  engine : Engine
  engineName : Option Engine := none
deriving DecidableEq, Repr

def getFetcher (engine : Engine) : Fetcher := ⟨engine, none⟩

/-- The arguments of `fetch_with_retry` and the settings it reads; `domain` is
the normalized domain of the URL. -/
structure Request where
  fetcher : Fetcher
  url : String
  domain : String
  policy : Option Policy := none
  hasProxyManager : Bool := true
  stickyKey : Option String := none
  traceId : Option String := none
  useProxy : Option Bool := none
  proxyCountry : Option String := none
  proxyCity : Option String := none
  proxyType : Option ProxyType := none
  requestedEngine : Option Engine := none
  enablePremium : Bool := false

structure ProxyRequest where
  poolId : Option Uuid
  domain : String
  stickyKey : Option String
  excludeIds : List Uuid
  country : Option String
  city : Option String
  proxyType : Option ProxyType
deriving DecidableEq, Repr

structure Report where
  proxyId : Uuid
  domain : String
  success : Bool
  reason : Option String
  responseTimeMs : Option Int
  engine : Engine
deriving DecidableEq, Repr

inductive Event where
  | getProxy (request : ProxyRequest) (answer : Except Exn (Option Proxy))
  | fetch (fetcher : Fetcher) (tier : Rung) (proxy : Option Proxy) (headers : Headers)
      (answer : Except Exn FetchResult)
  | reportResult (report : Report)
  | sleep

/-- What the calls of one attempt answer; the last two are the calls of the
exception handlers. -/
structure Answers where
  getProxy : Except Exn (Option Proxy)
  userAgent : String
  fetch : Except Exn FetchResult
  report : Except Exn Unit := .ok ()
  sleep : Except Exn Unit := .ok ()
  handlerReport : Except Exn Unit := .ok ()
  handlerSleep : Except Exn Unit := .ok ()

abbrev Environment := Nat → Answers

structure State where
  tier : Rung
  attemptsAtTier : Nat := 0
  fetcher : Option Fetcher
  lastResult : Option FetchResult := none
  lastError : Option Exn := none
  failedProxyIds : List Uuid := []
  totalAttempts : Nat := 0

abbrev Outcome := Except Exn FetchResult

namespace Request

variable (text : TextMethods) (request : Request)

/-- `getattr(policy, name, None)`. -/
def getattr (read : Policy → Option α) : Option α := request.policy.bind read

def maxTier : Rung := effectiveMaxTier request.enablePremium

/-- `getattr(policy, "max_escalation_attempts", None) or 12`. -/
def maxAttempts : Int :=
  match request.getattr Policy.maxEscalationAttempts with
  | none => 12
  | some attempts => if attempts = 0 then 12 else attempts

def attemptsPerTier : Nat :=
  match request.getattr Policy.maxRetries with
  | none => maxAttemptsPerTier
  | some retries => if 0 < retries then retries.toNat else maxAttemptsPerTier

def effectiveCountry : Option String :=
  (request.proxyCountry.or (request.getattr Policy.proxyCountry)).map
    fun country => text.upper (text.strip country)

def effectiveCity : Option String :=
  (request.proxyCity.or (request.getattr Policy.proxyCity)).map text.strip

def startTier : Rung :=
  match request.requestedEngine with
  | some engine => firstRung engine
  | none => ⟨min (initialTier request.policy) request.maxTier, by
      have := request.maxTier.isLt
      omega⟩

def initialState : State where
  tier := request.startTier
  fetcher := some request.fetcher

/-- The premium gate: stop, or go on with or without the bypass for the engine
the caller asked for. -/
inductive Gate where
  | stop
  | go (bypassed : Bool)
deriving DecidableEq

def gate (tier : Rung) : Gate :=
  if request.maxTier < tier then
    if request.requestedEngine = some tier.tier.engine then .go true else .stop
  else .go false

def tierUseProxy (bypassed : Bool) (tier : Tier) : Bool :=
  match request.useProxy with
  | some forced => forced
  | none =>
      if bypassed then false
      else if tier.useProxy then true
      else (request.getattr Policy.useProxy).getD false

def tierProxyType (bypassed : Bool) (tier : Tier) : Option ProxyType :=
  match request.proxyType with
  | some forced => some forced
  | none =>
      if bypassed then none
      else tier.proxyType.or (request.getattr Policy.proxyType)

end Request

def baseHeaders : Headers := [
  ("Accept", "text/html,application/xhtml+xml,application/xml;q=0.9,*/*;q=0.8"),
  ("Accept-Language", "en-US,en;q=0.9"),
  ("Accept-Encoding", "gzip, deflate, br"),
  ("Connection", "keep-alive"),
  ("Upgrade-Insecure-Requests", "1")]

/-- The base headers, a user agent, and the policy's profile over both.  The
random user agent is drawn outside. -/
def headersForDomain (policy : Option Policy) (userAgent : String) : Headers :=
  let profile := (policy.bind Policy.headerProfile).getD []
  profile.foldl (fun headers header => headers.set header.1 header.2)
    (Headers.set baseHeaders "User-Agent" userAgent)

section Attempt

variable (text : TextMethods) (request : Request)

/-- `value or 'ANY'`. -/
def orAny (value : Option String) : String :=
  match value with
  | none => "ANY"
  | some value => if value = "" then "ANY" else value

def proxyPoolError (failedProxyIds : List Uuid) : Exn :=
  let country := request.effectiveCountry text
  let city := request.effectiveCity text
  if failedProxyIds ≠ [] then
    .proxyPoolExhausted <|
      "PROXY_POOL_EXHAUSTED: all eligible " ++ orAny country ++
        (match city with
          | none => ""
          | some city => if city = "" then "" else "/" ++ city) ++
        " proxies were blocked or unhealthy for domain=" ++ request.domain
  else
    .proxyPoolUnavailable <|
      "PROXY_POOL_EMPTY: no healthy proxy for domain=" ++ request.domain ++
        ", country=" ++ orAny country ++ ", city=" ++ orAny city

def asksProxy (bypassed : Bool) (tier : Tier) : Bool :=
  request.tierUseProxy bypassed tier && request.hasProxyManager

def proxyRequest (bypassed : Bool) (state : State) : ProxyRequest where
  poolId := request.getattr Policy.proxyPoolId
  domain := request.domain
  stickyKey := if state.totalAttempts = 1 then request.stickyKey else none
  excludeIds := state.failedProxyIds
  country := request.effectiveCountry text
  city := request.effectiveCity text
  proxyType := request.tierProxyType bypassed state.tier.tier

def pickProxy (answers : Answers) (bypassed : Bool) (state : State) :
    List Event × Except Exn (Option Proxy) :=
  if asksProxy request bypassed state.tier.tier then
    ([.getProxy (proxyRequest text request bypassed state) answers.getProxy],
      match answers.getProxy with
      | .error exn => .error exn
      | .ok none => .error (proxyPoolError text request state.failedProxyIds)
      | .ok (some proxy) => .ok (some proxy))
  else ([], .ok none)

inductive Verdict where
  | again
  | result (result : FetchResult)

structure Tried where
  events : List Event
  state : State
  exit : Except Exn Verdict

def State.fail (state : State) (proxy : Option Proxy) : State :=
  match proxy with
  | none => state
  | some proxy => { state with failedProxyIds := state.failedProxyIds.insert proxy.id }

/-- A blocked result is kept and counted at its tier. -/
def State.count (state : State) (result : FetchResult) : State :=
  { state with
    lastResult := some result
    attemptsAtTier := state.attemptsAtTier + 1 }

def State.bump (state : State) (tier : Rung) (clear : Bool) : State :=
  { state with
    tier := tier
    attemptsAtTier := 0
    fetcher := none
    failedProxyIds := if clear then [] else state.failedProxyIds }

def sleepThen (state : State) (events : List Event) (sleep : Except Exn Unit) : Tried :=
  ⟨events ++ [.sleep], state, sleep.map fun _ => .again⟩

def afterBlock (left : Nat) (state : State) (proxy : Option Proxy) (result : FetchResult)
    (events : List Event) (answers : Answers) : Tried :=
  if request.attemptsPerTier ≤ state.attemptsAtTier ∧ isEscalatable result.blockReason then
    match nextTier state.tier with
    | none => ⟨events, state, .ok (.result result)⟩
    | some next =>
        if request.maxTier < next then ⟨events, state, .ok (.result result)⟩
        else ⟨events, state.bump next true, .ok .again⟩
  else if proxy = none ∧ request.useProxy ≠ some true then
    match nextTier state.tier with
    | none => ⟨events, state, .ok (.result result)⟩
    | some next =>
        if next ≤ request.maxTier then ⟨events, state.bump next false, .ok .again⟩
        else ⟨events, state, .ok (.result result)⟩
  else if 0 < left then sleepThen state events answers.sleep
  else ⟨events, state, .ok (.result result)⟩

def reportOf (proxy : Proxy) (success : Bool) (reason : Option String) (result : FetchResult) :
    Report :=
  ⟨proxy.id, request.domain, success, reason, some result.elapsedMs, result.engine⟩

/-- `result.block_reason or "http_error"`. -/
def blockReasonOr (reason : Option String) : String :=
  match reason with
  | none => "http_error"
  | some reason => if reason = "" then "http_error" else reason

def onBlocked (left : Nat) (state : State) (proxy : Option Proxy) (result : FetchResult)
    (answers : Answers) : Tried :=
  let state := state.count result
  match request.hasProxyManager, proxy with
  | true, some used =>
      let event := .reportResult
        (reportOf request used false (some (blockReasonOr result.blockReason)) result)
      match answers.report with
      | .error exn => ⟨[event], state, .error exn⟩
      | .ok () => afterBlock request left (state.fail proxy) proxy result [event] answers
  | _, _ => afterBlock request left state proxy result [] answers

def onSuccess (state : State) (proxy : Option Proxy) (result : FetchResult) (answers : Answers) :
    Tried :=
  match request.hasProxyManager, proxy with
  | true, some used =>
      ⟨[.reportResult (reportOf request used true none result)], state,
        answers.report.map fun _ => .result result⟩
  | _, _ => ⟨[], state, .ok (.result result)⟩

def stamp (state : State) (result : FetchResult) : FetchResult :=
  { result with
    retriesUsed := state.totalAttempts - 1
    traceId := request.traceId
    tierUsed := state.tier }

def fetchWith (left : Nat) (fetcher : Fetcher) (state : State) (proxy : Option Proxy)
    (answers : Answers) : Tried :=
  let event := .fetch fetcher state.tier proxy
    (headersForDomain request.policy answers.userAgent) answers.fetch
  match answers.fetch with
  | .error exn => ⟨[event], state, .error exn⟩
  | .ok result =>
      let result := stamp request state result
      let tried := if result.blocked then onBlocked request left state proxy result answers
        else onSuccess request state proxy result answers
      ⟨event :: tried.events, tried.state, tried.exit⟩

/-- `if total_attempts < max_attempts: sleep, continue`, in a handler. -/
def retryOr (left : Nat) (state : State) (exn : Exn) (events : List Event) (answers : Answers) :
    Iteration State Event Outcome :=
  if 0 < left then
    ⟨events ++ [.sleep], match answers.handlerSleep with
      | .ok () => .again state
      | .error other => .done (.error other)⟩
  else ⟨events, .done (.error exn)⟩

def handle (left : Nat) (state : State) (proxy : Option Proxy) (exn : Exn) (answers : Answers) :
    Iteration State Event Outcome :=
  match exn with
  | .proxyPoolUnavailable _ | .proxyPoolExhausted _ | .cancelled => ⟨[], .done (.error exn)⟩
  | .fetchError .. =>
      let state := { state with lastError := some exn }
      match request.hasProxyManager, proxy with
      | true, some used =>
          let event := .reportResult
            ⟨used.id, request.domain, false, some "http_error", none, state.tier.tier.engine⟩
          match answers.handlerReport with
          | .error other => ⟨[event], .done (.error other)⟩
          | .ok () => retryOr left (state.fail proxy) exn [event] answers
      | _, _ => retryOr left state exn [] answers
  | .exception message =>
      let state := { state with lastError := some exn }
      let state := if request.hasProxyManager then state.fail proxy else state
      retryOr left state (.fetchError message none false) [] answers

/-- `raise FetchError(str(last_error))` behind the loop. -/
def exhausted (state : State) : Outcome :=
  .error (.fetchError (match state.lastError with
    | none => "None"
    | some exn => exn.message) none false)

def fetcherFor (state : State) : Fetcher :=
  match state.fetcher with
  | some fetcher =>
      if fetcher.engineName = some state.tier.tier.engine then fetcher
      else getFetcher state.tier.tier.engine
  | none => getFetcher state.tier.tier.engine

def State.begin (state : State) : State :=
  { state with
    fetcher := some (fetcherFor state)
    totalAttempts := state.totalAttempts + 1 }

def attempt (environment : Environment) : Body State Event Outcome := fun left state =>
  match request.gate state.tier with
  | .stop => ⟨[], .done (match state.lastResult with
      | some result => .ok result
      | none => exhausted state)⟩
  | .go bypassed =>
      let answers := environment state.totalAttempts
      let fetcher := fetcherFor state
      let state := state.begin
      let picked := pickProxy text request answers bypassed state
      match picked.2 with
      | .error exn =>
          let handled := handle request left state none exn answers
          ⟨picked.1 ++ handled.events, handled.exit⟩
      | .ok proxy =>
          let tried := fetchWith request left fetcher state proxy answers
          match tried.exit with
          | .ok .again => ⟨picked.1 ++ tried.events, .again tried.state⟩
          | .ok (.result result) => ⟨picked.1 ++ tried.events, .done (.ok result)⟩
          | .error exn =>
              let handled := handle request left tried.state proxy exn answers
              ⟨picked.1 ++ tried.events ++ handled.events, handled.exit⟩

def fetchWithRetry (environment : Environment) : Outcome :=
  loop (attempt text request environment) exhausted request.maxAttempts.toNat request.initialState

def calls (environment : Environment) : List Event :=
  loopEvents (attempt text request environment) request.maxAttempts.toNat request.initialState

/-- The attempts of a run, with the states they start in. -/
def attempts (environment : Environment) : List (Visit State) :=
  visits (attempt text request environment) request.maxAttempts.toNat request.initialState

inductive BlockEnds (left : Nat) (state : State) (result : FetchResult) (events : List Event)
    (sleep : Except Exn Unit) : Tried → Prop where
  | returned : BlockEnds left state result events sleep ⟨events, state, .ok (.result result)⟩
  | bumped {next : Rung} (clear : Bool) : nextTier state.tier = some next →
      next ≤ request.maxTier →
      BlockEnds left state result events sleep ⟨events, state.bump next clear, .ok .again⟩
  | rotated : 0 < left → BlockEnds left state result events sleep (sleepThen state events sleep)

theorem afterBlock_ends (left : Nat) (state : State) (proxy : Option Proxy) (result : FetchResult)
    (events : List Event) (answers : Answers) :
    BlockEnds request left state result events answers.sleep
      (afterBlock request left state proxy result events answers) := by
  unfold afterBlock
  split
  · split
    · exact .returned
    · rename_i next hnext
      split
      · exact .returned
      · rename_i hle
        exact .bumped true hnext (Fin.not_lt.mp hle)
  · split
    · split
      · exact .returned
      · rename_i next hnext
        split
        · rename_i hle
          exact .bumped false hnext hle
        · exact .returned
    · split
      · rename_i hleft
        exact .rotated hleft
      · exact .returned

end Attempt

end CrawlerApi.Fetch
