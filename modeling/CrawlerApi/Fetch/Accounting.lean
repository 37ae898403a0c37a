import CrawlerApi.Fetch.ProxyRule

/-!
# Reports on proxied attempts

An attempt through a proxy reports on it once if the fetch returned or raised a
`FetchError`, and not at all if it raised anything else.
-/

namespace CrawlerApi.Fetch

open Keys Foundation

def Event.report : Event → Option Report
  | .reportResult report => some report
  | _ => none

def reports (events : List Event) : List Report := events.filterMap Event.report

def Event.beforeGetProxy : Event → Bool
  | .getProxy .. => false
  | _ => true

def Exn.isFetchError : Exn → Bool
  | .fetchError .. => true
  | _ => false

def Unblocked (answer : Except Exn FetchResult) : Prop :=
  ∃ result, answer = .ok result ∧ result.blocked = false

/-- The fetch ended in one of the ways the loop has a report for. -/
def Handled (answer : Except Exn FetchResult) : Prop :=
  ∀ exn, answer = .error exn → exn.isFetchError = true

def ReportedOnce (proxy : Proxy) (answer : Except Exn FetchResult) (made : List Report) : Prop :=
  ∃ report, made = [report] ∧ report.proxyId = proxy.id ∧
    (report.success = true ↔ Unblocked answer)

/-- What follows the fetch, up to the next request for a proxy or to the end. -/
def AccountedFor (proxy : Proxy) (answer : Except Exn FetchResult) (after : List Event) : Prop :=
  ReportedOnce proxy answer (reports (after.takeWhile Event.beforeGetProxy))

/-- The calls around a fetch go well: a report does not raise, and a sleep raises
no `FetchError`. -/
structure Answers.Steady (answers : Answers) : Prop where
  report : answers.report = .ok ()
  handlerReport : answers.handlerReport = .ok ()
  sleep : ∀ exn, answers.sleep = .error exn → exn.isFetchError = false

section Reports

@[simp] theorem reports_nil : reports [] = [] := rfl

@[simp] theorem reports_append (before after : List Event) :
    reports (before ++ after) = reports before ++ reports after := List.filterMap_append

@[simp] theorem reports_sleep : reports [.sleep] = [] := rfl

@[simp] theorem reports_reportResult (report : Report) :
    reports [.reportResult report] = [report] := rfl

@[simp] theorem reports_fetch (fetcher : Fetcher) (rung : Rung) (proxy : Option Proxy)
    (headers : Headers) (answer : Except Exn FetchResult) (after : List Event) :
    reports (.fetch fetcher rung proxy headers answer :: after) = reports after := rfl

theorem takeWhile_of_quiet {events rest : List Event} (h : ∀ event ∈ events, event.quiet) :
    (events ++ rest).takeWhile Event.beforeGetProxy =
      events ++ rest.takeWhile Event.beforeGetProxy := by
  apply List.takeWhile_append_of_pos
  intro event hevent
  have hquiet := h event hevent
  cases event with
  | getProxy asked answer => cases hquiet
  | _ => rfl

end Reports

section Attempt

variable {text : TextMethods} {request : Request} {environment : Environment} {left : Nat}
  {state : State} {answers : Answers} {proxy : Option Proxy} {used : Proxy} {result : FetchResult}
  {exn : Exn}

theorem reports_afterBlock (events : List Event) :
    reports (afterBlock request left state proxy result events answers).events =
      reports events := by
  have hends := afterBlock_ends request left state proxy result events answers
  generalize afterBlock request left state proxy result events answers = tried at hends ⊢
  cases hends with
  | returned => rfl
  | bumped clear _ _ => rfl
  | rotated _ => rw [sleepThen, reports_append, reports_sleep, List.append_nil]

theorem reports_retryOr (events : List Event) :
    reports (retryOr left state exn events answers).events = reports events := by
  unfold retryOr
  split
  · rw [reports_append, reports_sleep, List.append_nil]
  · rfl

theorem afterBlock_raises {events : List Event}
    (h : (afterBlock request left state proxy result events answers).exit = .error exn) :
    answers.sleep = .error exn := by
  have hends := afterBlock_ends request left state proxy result events answers
  generalize afterBlock request left state proxy result events answers = tried at h hends
  cases hends with
  | returned => cases h
  | bumped clear _ _ => cases h
  | rotated _ =>
      cases hsleep : answers.sleep with
      | ok slept => rw [sleepThen, hsleep] at h; cases h
      | error other => rw [sleepThen, hsleep] at h; cases h; rfl

theorem reports_handle (h : exn.isFetchError = false) :
    reports (handle request left state proxy exn answers).events = [] := by
  cases exn with
  | fetchError message statusCode blocked => cases h
  | exception message => exact reports_retryOr []
  | proxyPoolUnavailable _ | proxyPoolExhausted _ | cancelled => rfl

theorem reports_handle_direct :
    reports (handle request left state none exn answers).events = [] := by
  cases exn with
  | fetchError message statusCode blocked =>
      unfold handle
      cases request.hasProxyManager with
      | true => exact reports_retryOr []
      | false => exact reports_retryOr []
  | exception message => exact reports_retryOr []
  | proxyPoolUnavailable _ | proxyPoolExhausted _ | cancelled => rfl

theorem reports_handle_fetchError (left : Nat) (state : State) (used : Proxy)
    (hmanager : request.hasProxyManager = true) (hsteady : answers.Steady)
    (h : exn.isFetchError = true) :
    ∃ report, reports (handle request left state (some used) exn answers).events = [report] ∧
      report.proxyId = used.id ∧ report.success = false := by
  cases exn with
  | fetchError message statusCode blocked =>
      unfold handle
      simp only [hmanager, hsteady.handlerReport, reports_retryOr, reports_reportResult]
      exact ⟨_, rfl, rfl, rfl⟩
  | _ => cases h

def tailEvents (request : Request) (left : Nat) (proxy : Option Proxy) (answers : Answers)
    (tried : Tried) : List Event :=
  tried.events ++ match tried.exit with
    | .ok _ => []
    | .error exn => (handle request left tried.state proxy exn answers).events

theorem tailEvents_quiet {tried : Tried} (h : ∀ event ∈ tried.events, event.quiet) :
    ∀ event ∈ tailEvents request left proxy answers tried, event.quiet := by
  intro event hevent
  rcases List.mem_append.mp hevent with htried | hhandled
  · exact h event htried
  · cases hexit : tried.exit with
    | ok verdict => rw [hexit] at hhandled; cases hhandled
    | error exn =>
        rw [hexit] at hhandled
        exact handle_quiet hhandled

theorem reports_tailEvents {tried : Tried}
    (h : ∀ exn, tried.exit = .error exn → exn.isFetchError = false) :
    reports (tailEvents request left proxy answers tried) = reports tried.events := by
  unfold tailEvents
  cases hexit : tried.exit with
  | ok verdict => rw [reports_append, reports_nil, List.append_nil]
  | error exn => rw [reports_append, reports_handle (h exn hexit), List.append_nil]

theorem reports_tailEvents_direct {tried : Tried} :
    reports (tailEvents request left none answers tried) = reports tried.events := by
  unfold tailEvents
  cases hexit : tried.exit with
  | ok verdict => rw [reports_append, reports_nil, List.append_nil]
  | error exn => rw [reports_append, reports_handle_direct, List.append_nil]

theorem onBlocked_reports (hmanager : request.hasProxyManager = true) (hsteady : answers.Steady) :
    reports (tailEvents request left (some used) answers
      (onBlocked request left state (some used) result answers)) =
        [reportOf request used false (some (blockReasonOr result.blockReason)) result] := by
  unfold onBlocked
  simp only [hmanager, hsteady.report]
  rw [reports_tailEvents, reports_afterBlock, reports_reportResult]
  exact fun exn hexit => hsteady.sleep exn (afterBlock_raises hexit)

theorem onSuccess_reports (hmanager : request.hasProxyManager = true) (hsteady : answers.Steady) :
    reports (tailEvents request left (some used) answers
      (onSuccess request state (some used) result answers)) =
        [reportOf request used true none result] := by
  unfold onSuccess
  simp only [hmanager, hsteady.report]
  rfl

theorem onBlocked_direct_reports :
    reports (tailEvents request left none answers
      (onBlocked request left state none result answers)) = [] := by
  rw [reports_tailEvents_direct]
  unfold onBlocked
  cases request.hasProxyManager with
  | true => exact reports_afterBlock []
  | false => exact reports_afterBlock []

theorem onSuccess_direct_reports :
    reports (tailEvents request left none answers
      (onSuccess request state none result answers)) = [] := by
  rw [reports_tailEvents_direct]
  unfold onSuccess
  cases request.hasProxyManager with
  | true => rfl
  | false => rfl

/-- What an attempt through a proxy calls from the fetch on: it reports once if the
fetch was handled, and not at all otherwise. -/
structure Settled (used : Proxy) (answer : Except Exn FetchResult) (tail : List Event) : Prop where
  quiet : ∀ event ∈ tail, event.quiet
  handled : Handled answer → ReportedOnce used answer (reports tail)
  unhandled : ¬ Handled answer → reports tail = []

theorem settled_error (hmanager : request.hasProxyManager = true) (hsteady : answers.Steady) :
    Settled used (.error exn) (handle request left state (some used) exn answers).events := by
  refine ⟨fun event => handle_quiet, ?_, ?_⟩
  · intro hhandled
    obtain ⟨report, hreports, hid, hfailed⟩ :=
      reports_handle_fetchError left state used hmanager hsteady
        (hhandled exn rfl)
    refine ⟨report, hreports, hid, ?_⟩
    rw [hfailed]
    constructor
    · intro habsurd
      cases habsurd
    · rintro ⟨result, hresult, -⟩
      cases hresult
  · intro hunhandled
    apply reports_handle
    cases hkind : exn.isFetchError with
    | false => rfl
    | true =>
        refine absurd ?_ hunhandled
        intro other hother
        cases hother
        exact hkind

theorem settled_ok {tail : List Event} {report : Report} (hquiet : ∀ event ∈ tail, event.quiet)
    (h : reports tail = [report]) (hid : report.proxyId = used.id)
    (hsuccess : report.success = !result.blocked) : Settled used (.ok result) tail := by
  refine ⟨hquiet, ?_, ?_⟩
  · intro _
    refine ⟨report, h, hid, ?_⟩
    rw [hsuccess]
    constructor
    · intro hunblocked
      exact ⟨result, rfl, by simpa using hunblocked⟩
    · rintro ⟨other, hother, hunblocked⟩
      cases hother
      simpa using hunblocked
  · intro hunhandled
    refine absurd ?_ hunhandled
    intro exn hexn
    cases hexn

theorem fetchWith_settled {fetcher : Fetcher} (hmanager : request.hasProxyManager = true)
    (hsteady : answers.Steady) :
    ∃ headers tail, tailEvents request left (some used) answers
        (fetchWith request left fetcher state (some used) answers) =
        .fetch fetcher state.tier (some used) headers answers.fetch :: tail ∧
      Settled used answers.fetch tail := by
  unfold fetchWith
  cases hanswer : answers.fetch with
  | error exn => exact ⟨_, _, rfl, settled_error hmanager hsteady⟩
  | ok result =>
      dsimp only
      split
      · rename_i hblocked
        refine ⟨_, _, rfl, settled_ok ?_ (onBlocked_reports hmanager hsteady) rfl ?_⟩
        · exact tailEvents_quiet fun event => onBlocked_quiet
        · have hresult : result.blocked = true := hblocked
          rw [hresult]
          rfl
      · rename_i hblocked
        refine ⟨_, _, rfl, settled_ok ?_ (onSuccess_reports hmanager hsteady) rfl ?_⟩
        · exact tailEvents_quiet fun event => onSuccess_quiet
        · have hresult : result.blocked = false := by simpa [stamp] using hblocked
          rw [hresult]
          rfl

theorem fetchWith_direct {fetcher : Fetcher} :
    ∃ headers tail, tailEvents request left none answers
        (fetchWith request left fetcher state none answers) =
        .fetch fetcher state.tier none headers answers.fetch :: tail ∧
      (∀ event ∈ tail, event.quiet) ∧ reports tail = [] := by
  unfold fetchWith
  cases hanswer : answers.fetch with
  | error exn => exact ⟨_, _, rfl, fun event => handle_quiet, reports_handle_direct⟩
  | ok result =>
      dsimp only
      split
      · refine ⟨_, _, rfl, tailEvents_quiet fun event => onBlocked_quiet, ?_⟩
        exact onBlocked_direct_reports
      · refine ⟨_, _, rfl, tailEvents_quiet fun event => onSuccess_quiet, ?_⟩
        exact onSuccess_direct_reports

/-- The calls of one attempt: none at the gate, a direct fetch, a request for a
proxy that comes to nothing, or a fetch through the proxy the manager gave. -/
inductive Accounts : List Event → Prop where
  | stopped : Accounts []
  | direct {fetcher : Fetcher} {rung : Rung} {headers : Headers}
      {answer : Except Exn FetchResult} {tail : List Event} : (∀ event ∈ tail, event.quiet) →
      reports tail = [] → Accounts (.fetch fetcher rung none headers answer :: tail)
  | refused {asked : ProxyRequest} {answer : Except Exn (Option Proxy)} {tail : List Event} :
      (∀ event ∈ tail, event.quiet) → Accounts (.getProxy asked answer :: tail)
  | proxied {asked : ProxyRequest} {given : Except Exn (Option Proxy)} {fetcher : Fetcher}
      {rung : Rung} {used : Proxy} {headers : Headers} {answer : Except Exn FetchResult}
      {tail : List Event} : Settled used answer tail →
      Accounts (.getProxy asked given :: .fetch fetcher rung (some used) headers answer :: tail)

theorem attempt_ok {bypassed : Bool} (hgate : request.gate state.tier = .go bypassed)
    (hpicked : (pickProxy text request (environment state.totalAttempts) bypassed
      state.begin).2 = .ok proxy) :
    (attempt text request environment left state).events =
      (pickProxy text request (environment state.totalAttempts) bypassed state.begin).1 ++
        tailEvents request left proxy (environment state.totalAttempts)
          (fetchWith request left (fetcherFor state) state.begin proxy
            (environment state.totalAttempts)) := by
  unfold attempt tailEvents
  simp only [hgate, hpicked]
  split
  · rename_i hexit
    rw [hexit, List.append_nil]
  · rename_i hexit
    rw [hexit, List.append_nil]
  · rename_i hexit
    rw [hexit, List.append_assoc]

theorem attempt_error {bypassed : Bool} (hgate : request.gate state.tier = .go bypassed)
    (hpicked : (pickProxy text request (environment state.totalAttempts) bypassed
      state.begin).2 = .error exn) :
    (attempt text request environment left state).events =
      (pickProxy text request (environment state.totalAttempts) bypassed state.begin).1 ++
        (handle request left state.begin none exn (environment state.totalAttempts)).events := by
  unfold attempt
  simp only [hgate, hpicked]

theorem pickProxy_cases (text : TextMethods) (request : Request) (answers : Answers)
    (bypassed : Bool) (state : State) :
    pickProxy text request answers bypassed state = ([], .ok none) ∨
      ∃ asked answer, (pickProxy text request answers bypassed state).1 = [.getProxy asked answer] ∧
        (pickProxy text request answers bypassed state).2 ≠ .ok none := by
  unfold pickProxy
  split
  · right
    refine ⟨_, _, rfl, ?_⟩
    cases answers.getProxy with
    | error exn => exact fun h => by cases h
    | ok found =>
        cases found with
        | none => exact fun h => by cases h
        | some used => exact fun h => by cases h
  · exact .inl rfl

theorem attempt_accounts (hmanager : request.hasProxyManager = true)
    (hsteady : ∀ attempt, (environment attempt).Steady) :
    Accounts (attempt text request environment left state).events := by
  cases hgate : request.gate state.tier with
  | stop =>
      rw [attempt, hgate]
      exact .stopped
  | go bypassed =>
      have hpick := pickProxy_cases text request (environment state.totalAttempts) bypassed
        state.begin
      cases hpicked : (pickProxy text request (environment state.totalAttempts) bypassed
          state.begin).2 with
      | error exn =>
          rcases hpick with hdirect | ⟨asked, answer, hasked, -⟩
          · rw [hdirect] at hpicked
            cases hpicked
          · rw [attempt_error hgate hpicked, hasked]
            exact .refused fun event => handle_quiet
      | ok proxy =>
          rw [attempt_ok hgate hpicked]
          cases proxy with
          | none =>
              obtain ⟨headers, tail, htail, hquiet, hreports⟩ := fetchWith_direct
              rcases hpick with hdirect | ⟨asked, answer, hasked, hnone⟩
              · rw [hdirect, htail]
                exact .direct hquiet hreports
              · exact absurd hpicked hnone
          | some used =>
              obtain ⟨headers, tail, htail, hsettled⟩ :=
                fetchWith_settled hmanager (hsteady state.totalAttempts)
              rcases hpick with hdirect | ⟨asked, answer, hasked, _⟩
              · rw [hdirect] at hpicked
                cases hpicked
              · rw [hasked, htail]
                exact .proxied hsettled

end Attempt

section Run

variable {text : TextMethods} {request : Request} {environment : Environment}

theorem reports_loopEvents (hmanager : request.hasProxyManager = true)
    (hsteady : ∀ attempt, (environment attempt).Steady) (count : Nat) (state : State) :
    reports ((loopEvents (attempt text request environment) count state).takeWhile
      Event.beforeGetProxy) = [] := by
  induction count generalizing state with
  | zero => rfl
  | succ left ih =>
      have hrest : reports ((restEvents (attempt text request environment) left state).takeWhile
          Event.beforeGetProxy) = [] := by
        unfold restEvents
        split
        · rename_i next _
          exact ih next
        · rfl
      have haccounts : Accounts (attempt text request environment left state).events :=
        attempt_accounts hmanager hsteady
      rw [loopEvents_succ]
      generalize (attempt text request environment left state).events = events at haccounts
      cases haccounts with
      | stopped => exact hrest
      | refused _ => rfl
      | proxied _ => rfl
      | direct hquiet hreports =>
          rw [List.cons_append, List.takeWhile_cons_of_pos rfl, takeWhile_of_quiet hquiet]
          rw [reports_fetch, reports_append, hreports, hrest, List.nil_append]

theorem fetch_behind_quiet {tail rest before after : List Event} {fetcher : Fetcher} {rung : Rung}
    {proxy : Option Proxy} {headers : Headers} {answer : Except Exn FetchResult}
    (hquiet : ∀ event ∈ tail, event.quiet)
    (h : tail ++ rest = before ++ .fetch fetcher rung proxy headers answer :: after) :
    ∃ skipped, rest = skipped ++ .fetch fetcher rung proxy headers answer :: after := by
  induction tail generalizing before with
  | nil => exact ⟨before, h⟩
  | cons event tail ih =>
      rw [List.forall_mem_cons] at hquiet
      cases before with
      | nil =>
          obtain ⟨rfl, -⟩ := List.cons_eq_cons.mp h
          exact absurd hquiet.1 id
      | cons _ before => exact ih hquiet.2 (List.cons_eq_cons.mp h).2

theorem Settled.accountedFor_iff {used : Proxy} {answer : Except Exn FetchResult}
    {tail rest : List Event} (h : Settled used answer tail)
    (hrest : reports (rest.takeWhile Event.beforeGetProxy) = []) :
    AccountedFor used answer (tail ++ rest) ↔ Handled answer := by
  unfold AccountedFor
  rw [takeWhile_of_quiet h.quiet, reports_append, hrest, List.append_nil]
  constructor
  · rintro ⟨report, hreport, -⟩
    apply Classical.byContradiction
    intro hunhandled
    rw [h.unhandled hunhandled] at hreport
    cases hreport
  · exact h.handled

theorem Accounts.split {events rest before after : List Event} {fetcher : Fetcher} {rung : Rung}
    {used : Proxy} {headers : Headers} {answer : Except Exn FetchResult}
    (haccounts : Accounts events) (hrest : reports (rest.takeWhile Event.beforeGetProxy) = [])
    (h : events ++ rest = before ++ .fetch fetcher rung (some used) headers answer :: after) :
    (AccountedFor used answer after ↔ Handled answer) ∨
      ∃ skipped, rest = skipped ++ .fetch fetcher rung (some used) headers answer :: after := by
  cases haccounts with
  | stopped => exact .inr ⟨before, h⟩
  | direct hquiet _ =>
      cases before with
      | nil => cases (List.cons_eq_cons.mp h).1
      | cons _ before => exact .inr (fetch_behind_quiet hquiet (List.cons_eq_cons.mp h).2)
  | refused hquiet =>
      cases before with
      | nil => cases (List.cons_eq_cons.mp h).1
      | cons _ before => exact .inr (fetch_behind_quiet hquiet (List.cons_eq_cons.mp h).2)
  | proxied hsettled =>
      cases before with
      | nil => cases (List.cons_eq_cons.mp h).1
      | cons _ before =>
          have hbehind := (List.cons_eq_cons.mp h).2
          cases before with
          | nil =>
              obtain ⟨hfetch, rfl⟩ := List.cons_eq_cons.mp hbehind
              cases hfetch
              exact .inl (hsettled.accountedFor_iff hrest)
          | cons _ before =>
              exact .inr (fetch_behind_quiet hsettled.quiet (List.cons_eq_cons.mp hbehind).2)

theorem loopEvents_accountedFor (hmanager : request.hasProxyManager = true)
    (hsteady : ∀ attempt, (environment attempt).Steady) {count : Nat} {state : State}
    {before after : List Event} {fetcher : Fetcher} {rung : Rung} {used : Proxy}
    {headers : Headers} {answer : Except Exn FetchResult}
    (h : loopEvents (attempt text request environment) count state =
      before ++ .fetch fetcher rung (some used) headers answer :: after) :
    AccountedFor used answer after ↔ Handled answer := by
  induction count generalizing state before with
  | zero => exact absurd h.symm (List.append_ne_nil_of_right_ne_nil _ (List.cons_ne_nil _ _))
  | succ left ih =>
      rw [loopEvents_succ] at h
      have hbehind : restEvents (attempt text request environment) left state = [] ∨
          ∃ next, restEvents (attempt text request environment) left state =
            loopEvents (attempt text request environment) left next := by
        unfold restEvents
        split
        · exact .inr ⟨_, rfl⟩
        · exact .inl rfl
      rcases hbehind with hnil | ⟨next, hnext⟩
      · rw [hnil] at h
        rcases (attempt_accounts hmanager hsteady).split rfl h with hiff | ⟨skipped, hskipped⟩
        · exact hiff
        · exact absurd hskipped.symm
            (List.append_ne_nil_of_right_ne_nil _ (List.cons_ne_nil _ _))
      · rw [hnext] at h
        rcases (attempt_accounts hmanager hsteady).split
          (reports_loopEvents hmanager hsteady left next) h with hiff | ⟨skipped, hskipped⟩
        · exact hiff
        · exact ih hskipped

/-- Every fetch of a run that goes through a proxy meets the condition. -/
def EveryProxied (text : TextMethods) (request : Request) (environment : Environment)
    (holds : Proxy → Except Exn FetchResult → List Event → Prop) : Prop :=
  ∀ before fetcher rung used headers answer after,
    calls text request environment =
      before ++ .fetch fetcher rung (some used) headers answer :: after → holds used answer after

/-- Each attempt through a proxy is reported exactly once when, and only when, no
fetch through a proxy raises anything but a `FetchError`. -/
theorem accounted_iff_handled (hmanager : request.hasProxyManager = true)
    (hsteady : ∀ attempt, (environment attempt).Steady) :
    EveryProxied text request environment AccountedFor ↔
      EveryProxied text request environment fun _ answer _ => Handled answer := by
  constructor
  · intro haccounted before fetcher rung used headers answer after h
    exact (loopEvents_accountedFor hmanager hsteady h).mp
      (haccounted before fetcher rung used headers answer after h)
  · intro hhandled before fetcher rung used headers answer after h
    exact (loopEvents_accountedFor hmanager hsteady h).mpr
      (hhandled before fetcher rung used headers answer after h)

end Run

/-! A proxy that refuses the connection: the first and only attempt ends in an
`httpx.ConnectError`. -/

def singleAttempt : Request :=
  { proxiedRequest with policy := some { maxEscalationAttempts := some 1 } }

def connectError : Environment := fun _ => {
  getProxy := .ok (some ⟨1, "http://proxy.example:8080", none, none, .datacenter⟩)
  userAgent := "Mozilla/5.0"
  fetch := .error (.exception "All connection attempts failed") }

theorem connectError_steady (attempt : Nat) : (connectError attempt).Steady :=
  ⟨rfl, rfl, fun _ h => by cases h⟩

theorem poolOfOne_steady (attempt : Nat) : (poolOfOne attempt).Steady :=
  ⟨rfl, rfl, fun _ h => by cases h⟩

theorem accounted_iff_handled_pool_of_one :
    EveryProxied asciiText proxiedRequest poolOfOne AccountedFor ↔
      EveryProxied asciiText proxiedRequest poolOfOne fun _ answer _ => Handled answer :=
  accounted_iff_handled rfl poolOfOne_steady

theorem connect_error_unreported :
    ¬ ∀ request environment, request.hasProxyManager = true →
      (∀ attempt, (environment attempt).Steady) →
        EveryProxied asciiText request environment AccountedFor := by
  intro h
  obtain ⟨report, hreports, -⟩ := h singleAttempt connectError rfl connectError_steady
    [_] _ _ _ _ _ [] rfl
  cases hreports

end CrawlerApi.Fetch
