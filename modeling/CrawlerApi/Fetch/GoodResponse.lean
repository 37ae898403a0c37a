import CrawlerApi.Fetch.RunShape

/-!
# A response that came through

The report on a proxy is awaited inside the `try` of the fetch, so what it raises meets
the handlers of the fetch, and an unblocked response is fetched again or lost.
-/

namespace CrawlerApi.Fetch

open Keys Foundation

def Event.fetchAnswer : Event → Option (Except Exn FetchResult)
  | .fetch _ _ _ _ answer => some answer
  | _ => none

/-- What the fetches among the calls answered, in order. -/
def fetchAnswers (events : List Event) : List (Except Exn FetchResult) :=
  events.filterMap Event.fetchAnswer

def SamePage (page result : FetchResult) : Prop :=
  result = { page with
    retriesUsed := result.retriesUsed, traceId := result.traceId, tierUsed := result.tierUsed }

/-- Behind an unblocked page nothing is fetched, and the outcome is that page. -/
def KeepsGood (answers : List (Except Exn FetchResult)) (outcome : Outcome) : Prop :=
  ∀ before page after, answers = before ++ .ok page :: after → page.blocked = false →
    after = [] ∧ ∃ result, outcome = .ok result ∧ SamePage page result

section Report

variable (text : TextMethods) (request : Request) (environment : Environment)

def CameThrough (state : State) (page : FetchResult) : Prop :=
  ∃ bypassed used, request.gate state.tier = .go bypassed ∧
    (pickProxy text request (environment state.totalAttempts) bypassed state.begin).2 =
      .ok (some used) ∧
    (environment state.totalAttempts).fetch = .ok page ∧ page.blocked = false

/-- The report on a page that came through a proxy does not raise. -/
def ReportsGood (state : State) : Prop :=
  ∀ page, CameThrough text request environment state page →
    (environment state.totalAttempts).report = .ok ()

end Report

section Answers

@[simp] theorem fetchAnswers_append (before after : List Event) :
    fetchAnswers (before ++ after) = fetchAnswers before ++ fetchAnswers after :=
  List.filterMap_append

theorem fetchAnswers_of_quiet {events : List Event} (h : ∀ event ∈ events, event.quiet) :
    fetchAnswers events = [] := by
  apply List.filterMap_eq_nil_iff.mpr
  intro event hevent
  have hquiet := h event hevent
  cases event with
  | fetch _ _ _ _ _ => cases hquiet
  | _ => rfl

theorem keepsGood_nil (outcome : Outcome) : KeepsGood [] outcome := by
  intro before page after h
  exact absurd h.symm (List.append_ne_nil_of_right_ne_nil _ (List.cons_ne_nil _ _))

theorem keepsGood_singleton {page result : FetchResult} (h : SamePage page result) :
    KeepsGood [.ok page] (.ok result) := by
  intro before other after hanswers _
  cases before with
  | nil =>
      obtain ⟨hpage, rfl⟩ := List.cons_eq_cons.mp hanswers
      cases hpage
      exact ⟨rfl, result, rfl, h⟩
  | cons first before =>
      have hrest := (List.cons_eq_cons.mp hanswers).2
      exact absurd hrest.symm (List.append_ne_nil_of_right_ne_nil _ (List.cons_ne_nil _ _))

theorem keepsGood_cons {answer : Except Exn FetchResult} {answers : List (Except Exn FetchResult)}
    {outcome : Outcome} (h : ¬ Unblocked answer) :
    KeepsGood (answer :: answers) outcome ↔ KeepsGood answers outcome := by
  constructor
  · intro hkeeps before page after hanswers
    exact hkeeps (answer :: before) page after (congrArg (answer :: ·) hanswers)
  · intro hkeeps before page after hanswers hgood
    cases before with
    | nil =>
        obtain ⟨rfl, -⟩ := List.cons_eq_cons.mp hanswers
        exact absurd ⟨page, rfl, hgood⟩ h
    | cons first before => exact hkeeps before page after (List.cons_eq_cons.mp hanswers).2 hgood

end Answers

section Attempt

variable {text : TextMethods} {request : Request} {environment : Environment} {left : Nat}
  {state next : State} {proxy : Option Proxy} {page : FetchResult} {exn : Exn} {bypassed : Bool}

theorem pickProxy_answers {answers : Answers} :
    fetchAnswers (pickProxy text request answers bypassed state).1 = [] := by
  unfold pickProxy
  split
  · rfl
  · rfl

theorem attempt_answers (hgate : request.gate state.tier = .go bypassed)
    (hpicked : (pickProxy text request (environment state.totalAttempts) bypassed
      state.begin).2 = .ok proxy) :
    fetchAnswers (attempt text request environment left state).events =
      [(environment state.totalAttempts).fetch] := by
  obtain ⟨rest, hevents, hquiet⟩ := @tailEvents_calls request left state.begin
    (environment state.totalAttempts) proxy (fetcherFor state)
  rw [attempt_ok hgate hpicked, fetchAnswers_append, pickProxy_answers, hevents]
  exact congrArg (_ :: ·) (fetchAnswers_of_quiet hquiet)

theorem attempt_answers_lost (hgate : request.gate state.tier = .go bypassed)
    (hpicked : (pickProxy text request (environment state.totalAttempts) bypassed
      state.begin).2 = .error exn) :
    fetchAnswers (attempt text request environment left state).events = [] := by
  rw [attempt_error hgate hpicked, fetchAnswers_append, pickProxy_answers]
  exact fetchAnswers_of_quiet fun event => handle_quiet

theorem attempt_keeps (hgate : request.gate state.tier = .go bypassed)
    (hpicked : (pickProxy text request (environment state.totalAttempts) bypassed
      state.begin).2 = .ok proxy)
    (hfetch : (environment state.totalAttempts).fetch = .ok page) (hgood : page.blocked = false)
    (hreport : proxy ≠ none → (environment state.totalAttempts).report = .ok ()) :
    (attempt text request environment left state).exit =
      .done (.ok (stamp request state.begin page)) := by
  have hstamped : (stamp request state.begin page).blocked = false := hgood
  have htried : (fetchWith request left (fetcherFor state) state.begin proxy
      (environment state.totalAttempts)).exit = .ok (.result (stamp request state.begin page)) := by
    unfold fetchWith
    rw [hfetch]
    dsimp only
    rw [if_neg (Bool.eq_false_iff.mp hstamped)]
    unfold onSuccess
    split
    · rw [hreport (Option.some_ne_none _)]
      rfl
    · rfl
  unfold attempt
  simp only [hgate, hpicked, htried]

theorem attempt_report_raises {used : Proxy} (hgate : request.gate state.tier = .go bypassed)
    (hpicked : (pickProxy text request (environment state.totalAttempts) bypassed
      state.begin).2 = .ok (some used))
    (hfetch : (environment state.totalAttempts).fetch = .ok page) (hgood : page.blocked = false)
    (hreport : (environment state.totalAttempts).report = .error exn) :
    (attempt text request environment left state).exit =
      (handle request left state.begin (some used) exn (environment state.totalAttempts)).exit := by
  have hmanager : request.hasProxyManager = true :=
    manager_of_picked hpicked (Option.some_ne_none used)
  have hstamped : (stamp request state.begin page).blocked = false := hgood
  have htried : (fetchWith request left (fetcherFor state) state.begin (some used)
      (environment state.totalAttempts)).exit = .error exn ∧
      (fetchWith request left (fetcherFor state) state.begin (some used)
        (environment state.totalAttempts)).state = state.begin := by
    unfold fetchWith
    rw [hfetch]
    dsimp only
    rw [if_neg (Bool.eq_false_iff.mp hstamped), onSuccess_state]
    unfold onSuccess
    rw [hmanager, hreport]
    exact ⟨rfl, rfl⟩
  unfold attempt
  simp only [hgate, hpicked, htried]

theorem reachable_again (hreach : Reachable request state.tier)
    (h : (attempt text request environment left state).exit = .again next) :
    Reachable request next.tier := by
  rcases attempt_moves h with hsame | ⟨-, hle⟩
  · rw [hsame]
    exact hreach
  · exact .inl hle

theorem attempt_fetched {result : FetchResult} (hreach : Reachable request state.tier)
    (h : (attempt text request environment left state).exit = .done (.ok result)) :
    fetchAnswers (attempt text request environment left state).events ≠ [] := by
  obtain ⟨bypassed, hgate⟩ := gate_of_reachable hreach
  cases hpicked : (pickProxy text request (environment state.totalAttempts) bypassed
      state.begin).2 with
  | error exn =>
      unfold attempt at h
      simp only [hgate, hpicked] at h
      obtain ⟨raised, hraised⟩ := handle_raises h
      cases hraised
  | ok proxy =>
      rw [attempt_answers hgate hpicked]
      exact List.cons_ne_nil _ _

end Attempt

section Run

variable {text : TextMethods} {request : Request} {environment : Environment} {left count : Nat}
  {state next : State}

theorem loop_fetched {result : FetchResult} (hreach : Reachable request state.tier)
    (h : loop (attempt text request environment) exhausted count state = .ok result) :
    fetchAnswers (loopEvents (attempt text request environment) count state) ≠ [] := by
  induction count generalizing state with
  | zero => cases h
  | succ left ih =>
      cases hexit : (attempt text request environment left state).exit with
      | done out =>
          rw [loop_done hexit] at h
          rw [loopEvents_done hexit]
          rw [h] at hexit
          exact attempt_fetched hreach hexit
      | again next =>
          rw [loop_again hexit] at h
          rw [loopEvents_again hexit, fetchAnswers_append]
          exact List.append_ne_nil_of_right_ne_nil _ (ih (reachable_again hreach hexit) h)

def KeepsIff (text : TextMethods) (request : Request) (environment : Environment) (count : Nat)
    (state : State) : Prop :=
  KeepsGood (fetchAnswers (loopEvents (attempt text request environment) count state))
      (loop (attempt text request environment) exhausted count state) ↔
    ∀ visit ∈ visits (attempt text request environment) count state,
      ReportsGood text request environment visit.state

theorem keepsIff_step (hreports : ReportsGood text request environment state)
    (hown : ∀ answers outcome,
      KeepsGood (fetchAnswers (attempt text request environment left state).events ++ answers)
        outcome ↔ KeepsGood answers outcome)
    (hnext : ∀ next, (attempt text request environment left state).exit = .again next →
      KeepsIff text request environment left next) :
    KeepsIff text request environment (left + 1) state := by
  unfold KeepsIff
  cases hexit : (attempt text request environment left state).exit with
  | done out =>
      rw [loop_done hexit, loopEvents_done hexit, visits_done hexit]
      apply iff_of_true
      · have hnil := (hown [] out).mpr (keepsGood_nil out)
        rw [List.append_nil] at hnil
        exact hnil
      · intro visit hvisit
        rw [List.mem_singleton.mp hvisit]
        exact hreports
  | again next =>
      have hrest := hnext next hexit
      unfold KeepsIff at hrest
      rw [loop_again hexit, loopEvents_again hexit, visits_again hexit, fetchAnswers_append, hown,
        hrest, List.forall_mem_cons]
      exact (and_iff_right hreports).symm

theorem not_keepsGood {used : Proxy} {page : FetchResult} {exn : Exn} {bypassed : Bool}
    (hreach : Reachable request state.tier) (hgate : request.gate state.tier = .go bypassed)
    (hpicked : (pickProxy text request (environment state.totalAttempts) bypassed
      state.begin).2 = .ok (some used))
    (hfetch : (environment state.totalAttempts).fetch = .ok page) (hgood : page.blocked = false)
    (hreport : (environment state.totalAttempts).report = .error exn) :
    ¬ KeepsGood (fetchAnswers (loopEvents (attempt text request environment) (left + 1) state))
      (loop (attempt text request environment) exhausted (left + 1) state) := by
  intro hkeeps
  have hanswers := @attempt_answers text request environment left state (some used) bypassed hgate
    hpicked
  have hraises := @attempt_report_raises text request environment left state page exn bypassed
    used hgate hpicked hfetch hgood hreport
  rw [hfetch] at hanswers
  cases hexit : (attempt text request environment left state).exit with
  | done out =>
      rw [loop_done hexit, loopEvents_done hexit, hanswers] at hkeeps
      obtain ⟨-, result, hresult, -⟩ := hkeeps [] page [] rfl hgood
      rw [hexit] at hraises
      obtain ⟨raised, hraised⟩ := handle_raises hraises.symm
      rw [hraised] at hresult
      cases hresult
  | again next =>
      rw [loop_again hexit, loopEvents_again hexit, fetchAnswers_append, hanswers] at hkeeps
      obtain ⟨hnone, result, hresult, -⟩ := hkeeps [] page _ rfl hgood
      exact loop_fetched (reachable_again hreach hexit) hresult hnone

theorem keepsIff (hreach : Reachable request state.tier) :
    KeepsIff text request environment count state := by
  induction count generalizing state with
  | zero => exact iff_of_true (keepsGood_nil _) fun visit h => absurd h List.not_mem_nil
  | succ left ih =>
      obtain ⟨bypassed, hgate⟩ := gate_of_reachable hreach
      have hnext (next : State)
          (hexit : (attempt text request environment left state).exit = .again next) :
          KeepsIff text request environment left next := ih (reachable_again hreach hexit)
      have hgates (other : Bool) (h : request.gate state.tier = .go other) : other = bypassed :=
        (Request.Gate.go.inj (hgate.symm.trans h)).symm
      cases hpicked : (pickProxy text request (environment state.totalAttempts) bypassed
          state.begin).2 with
      | error exn =>
          apply keepsIff_step _ _ hnext
          · rintro page ⟨other, used, hother, hfound, -⟩
            rw [hgates other hother, hpicked] at hfound
            cases hfound
          · intro answers outcome
            rw [attempt_answers_lost hgate hpicked, List.nil_append]
      | ok proxy =>
          by_cases hgood : Unblocked (environment state.totalAttempts).fetch
          · obtain ⟨page, hfetch, hunblocked⟩ := hgood
            by_cases hreport : proxy ≠ none → (environment state.totalAttempts).report = .ok ()
            · have hexit := @attempt_keeps text request environment left state proxy page bypassed
                hgate hpicked hfetch hunblocked hreport
              unfold KeepsIff
              rw [loop_done hexit, loopEvents_done hexit, visits_done hexit,
                attempt_answers hgate hpicked, hfetch]
              apply iff_of_true
              · exact keepsGood_singleton rfl
              · intro visit hvisit other hthrough
                rw [List.mem_singleton.mp hvisit] at hthrough ⊢
                obtain ⟨_, used, hother, hfound, -⟩ := hthrough
                rw [hgates _ hother, hpicked] at hfound
                cases hfound
                exact hreport (Option.some_ne_none used)
            · push Not at hreport
              obtain ⟨hproxy, hraises⟩ := hreport
              obtain ⟨used, rfl⟩ := Option.ne_none_iff_exists'.mp hproxy
              have hthrough : CameThrough text request environment state page :=
                ⟨bypassed, used, hgate, hpicked, hfetch, hunblocked⟩
              apply iff_of_false
              · cases hreport : (environment state.totalAttempts).report with
                | ok reported => exact absurd hreport hraises
                | error exn => exact not_keepsGood hreach hgate hpicked hfetch hunblocked hreport
              · intro hreports
                exact hraises (hreports _ (List.mem_cons_self ..) page hthrough)
          · apply keepsIff_step _ _ hnext
            · rintro page ⟨-, -, -, -, hfetch, hunblocked⟩
              exact absurd ⟨page, hfetch, hunblocked⟩ hgood
            · intro answers outcome
              rw [attempt_answers hgate hpicked]
              exact keepsGood_cons hgood

/-- A run keeps every unblocked response exactly when no report on one that came through
a proxy raises. -/
theorem good_response_kept_iff (text : TextMethods) (request : Request)
    (environment : Environment) :
    KeepsGood (fetchAnswers (calls text request environment))
        (fetchWithRetry text request environment) ↔
      ∀ visit ∈ attempts text request environment,
        ReportsGood text request environment visit.state :=
  keepsIff (reachable_startTier request)

end Run

/-! The report on the first response meets a database that is gone; the second fetch fails. -/

def unreported : Environment := fun attempt => {
  getProxy := .ok (some ⟨1, "http://proxy.example:8080", none, none, .datacenter⟩)
  userAgent := "Mozilla/5.0"
  fetch := if attempt = 0 then .ok { url := "https://example.com/", statusCode := 200 }
    else .error (.fetchError "timed out" none false)
  report := .error (.exception "connection refused") }

theorem unreported_response_lost : ¬ KeepsGood
    (fetchAnswers (calls asciiText proxiedRequest unreported))
    (fetchWithRetry asciiText proxiedRequest unreported) := by
  intro hkeeps
  obtain ⟨hnone, -⟩ := hkeeps [] { url := "https://example.com/", statusCode := 200 } _ rfl rfl
  revert hnone
  decide

end CrawlerApi.Fetch
