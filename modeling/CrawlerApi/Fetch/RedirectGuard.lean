import CrawlerApi.Fetch.Redirects

/-!
# What a fetch that follows redirects requests and returns

Every request goes to a URL the guard has just accepted, there are never more than
the budget, and a page that is returned is the answer to the last of them.  The
only other way out is an exception the guard or the join lets through.
-/

namespace CrawlerApi.Fetch

open Foundation
open UrlGuard (validateUrlAsync validateUrlSync)

structure Get where
  hop : Nat
  request : HttpRequest
  answer : Except String HttpResponse

def HopEvent.get : HopEvent → Option Get
  | .guarded .. => none
  | .got hop request answer => some ⟨hop, request, answer⟩

def gets (events : List HopEvent) : List Get := events.filterMap HopEvent.get

@[simp] theorem gets_append (before after : List HopEvent) :
    gets (before ++ after) = gets before ++ gets after := List.filterMap_append

/-- A fetch ends in a `FetchError`, in the exception of its last request, or in a
result whose URL, status and body are those of its last request and its answer. -/
inductive Ends (decoded : HttpResponse → Bytes) (run : FetchRun) : Prop where
  | fetchError (message : String) (statusCode : Option Int) (blocked : Bool)
      (h : run.outcome = .error (.fetchError message statusCode blocked))
  | transport (get : Get) (message : String) (hlast : (gets run.events).getLast? = some get)
      (hanswer : get.answer = .error message) (h : run.outcome = .error (.exception message))
  | result (get : Get) (response : HttpResponse) (result : FetchResult)
      (hlast : (gets run.events).getLast? = some get) (hanswer : get.answer = .ok response)
      (h : run.outcome = .ok result) (hurl : result.url = get.request.url)
      (hstatus : result.statusCode = response.statusCode)
      (hbody : result.body = decoded response) (hraw : result.rawBody = response.body)

section Hops

variable {tables : TextTables} {rules : HopRules β} {dns : Dns} {server : Server}
  {followRedirects : Bool} {state next other : Hop} {left : Nat} {exhausted : Hop → Except Exn β}

variable (rules server followRedirects) in
def RedirectsTo (state : Hop) (location : String) : Prop :=
  ∃ response, server state.number (rules.request state.url) = .ok response ∧
    (response.statusCode ∈ redirectCodes ∧ followRedirects = true) ∧
    location ≠ "" ∧ (rules.location response).getD "" = location

variable (rules dns) in
def Accepts (number : Nat) (url : String) : Prop :=
  rules.validate (dns (number + 1)) url = .ok ()

variable (tables rules dns server followRedirects) in
def Follows (state next : Hop) : Prop :=
  Accepts rules dns state.number state.url ∧ ∃ location target,
    RedirectsTo rules server followRedirects state location ∧
    Url.urljoin tables.toTables state.url.toList location.toList = .ok target ∧
    next = ⟨state.number + 1, String.ofList target⟩

variable (tables rules dns server followRedirects) in
/-- Looking at the hop raises something no handler is there for: the guard raises
another exception than its own, or the location cannot be joined. -/
def Strays (state : Hop) : Prop :=
  (∃ message,
    rules.validate (dns (state.number + 1)) state.url = .error (.exception message)) ∨
  Accepts rules dns state.number state.url ∧ ∃ location message,
    RedirectsTo rules server followRedirects state location ∧
    Url.urljoin tables.toTables state.url.toList location.toList = .error message

variable (tables rules dns server followRedirects) in
/-- The hops the servers lead to from one within a number of steps. -/
inductive Examined : Nat → Hop → Hop → Prop
  | here {left : Nat} {state : Hop} : Examined (left + 1) state state
  | after {left : Nat} {state next other : Hop}
      (hfollows : Follows tables rules dns server followRedirects state next)
      (h : Examined left next other) : Examined (left + 1) state other

variable (tables rules dns server followRedirects) in
inductive HopEnds (state : Hop) : Iteration Hop HopEvent (Except Exn β) → Prop
  | refused (exn : UrlGuard.Exn)
      (hguard : rules.validate (dns (state.number + 1)) state.url = .error exn) :
      HopEnds state
        ⟨[.guarded state.number state.url (.error exn)], .done (.error (rules.raised exn))⟩
  | raised (message : String) (haccepts : Accepts rules dns state.number state.url)
      (hanswer : server state.number (rules.request state.url) = .error message) :
      HopEnds state ⟨[.guarded state.number state.url (.ok ()),
          .got state.number (rules.request state.url) (.error message)],
        .done (.error (.exception message))⟩
  | unlocated (response : HttpResponse) (message : String)
      (haccepts : Accepts rules dns state.number state.url)
      (hanswer : server state.number (rules.request state.url) = .ok response)
      (hlocation : ∀ location, ¬ RedirectsTo rules server followRedirects state location) :
      HopEnds state ⟨[.guarded state.number state.url (.ok ()),
          .got state.number (rules.request state.url) (.ok response)],
        .done (.error (.fetchError message none false))⟩
  | unjoined (response : HttpResponse) (location message : String)
      (haccepts : Accepts rules dns state.number state.url)
      (hanswer : server state.number (rules.request state.url) = .ok response)
      (hredirects : RedirectsTo rules server followRedirects state location)
      (hjoin : Url.urljoin tables.toTables state.url.toList location.toList = .error message) :
      HopEnds state ⟨[.guarded state.number state.url (.ok ()),
          .got state.number (rules.request state.url) (.ok response)],
        .done (.error (.exception message))⟩
  | followed (response : HttpResponse) (next : Hop)
      (hanswer : server state.number (rules.request state.url) = .ok response)
      (hfollows : Follows tables rules dns server followRedirects state next) :
      HopEnds state ⟨[.guarded state.number state.url (.ok ()),
          .got state.number (rules.request state.url) (.ok response)], .again next⟩
  | finished (response : HttpResponse) (haccepts : Accepts rules dns state.number state.url)
      (hanswer : server state.number (rules.request state.url) = .ok response)
      (hlocation : ∀ location, ¬ RedirectsTo rules server followRedirects state location) :
      HopEnds state ⟨[.guarded state.number state.url (.ok ()),
          .got state.number (rules.request state.url) (.ok response)],
        .done (.ok (rules.finish state.url response))⟩

theorem hop_ends : HopEnds tables rules dns server followRedirects state
    (hop tables rules dns server followRedirects left state) := by
  unfold hop
  split
  · rename_i exn hguard
    exact .refused exn hguard
  · rename_i haccepts
    dsimp only
    cases hanswer : server state.number (rules.request state.url) with
    | error message => exact .raised message haccepts hanswer
    | ok response =>
        have hredirect {location : String}
            (h : RedirectsTo rules server followRedirects state location) :
            (response.statusCode ∈ redirectCodes ∧ followRedirects = true) ∧
              location ≠ "" ∧ (rules.location response).getD "" = location := by
          obtain ⟨found, hfound, hrest⟩ := h
          cases hanswer.symm.trans hfound
          exact hrest
        dsimp only [hopExit]
        split
        · rename_i hstatus
          split
          · rename_i hempty
            exact .unlocated response _ haccepts hanswer fun location h =>
              (hredirect h).2.1 ((hredirect h).2.2 ▸ hempty)
          · rename_i hlocation
            have hredirects : RedirectsTo rules server followRedirects state
                ((rules.location response).getD "") := ⟨response, hanswer, hstatus, hlocation, rfl⟩
            split
            · rename_i message hjoin
              exact .unjoined response _ message haccepts hanswer hredirects hjoin
            · rename_i target hjoin
              exact .followed response _ hanswer ⟨haccepts, _, target, hredirects, hjoin, rfl⟩
        · rename_i hstatus
          exact .finished response haccepts hanswer fun location h => hstatus (hredirect h).1

theorem redirectsTo_unique {location other : String}
    (h : RedirectsTo rules server followRedirects state location)
    (hother : RedirectsTo rules server followRedirects state other) : location = other := by
  obtain ⟨response, hanswer, -, -, hlocation⟩ := h
  obtain ⟨found, hfound, -, -, hfoundLocation⟩ := hother
  cases hanswer.symm.trans hfound
  exact hlocation.symm.trans hfoundLocation

theorem follows_unique {target : Hop}
    (h : Follows tables rules dns server followRedirects state next)
    (htarget : Follows tables rules dns server followRedirects state target) : next = target := by
  obtain ⟨-, location, joined, hredirects, hjoin, rfl⟩ := h
  obtain ⟨-, other, otherJoined, hother, hotherJoin, rfl⟩ := htarget
  cases redirectsTo_unique hredirects hother
  cases hjoin.symm.trans hotherJoin
  rfl

theorem examined_of_not_follows
    (hstops : ∀ next, ¬ Follows tables rules dns server followRedirects state next) :
    Examined tables rules dns server followRedirects (left + 1) state other ↔ other = state := by
  constructor
  · intro h
    cases h with
    | here => rfl
    | after hfollows => exact absurd hfollows (hstops _)
  · rintro rfl
    exact .here

theorem examined_of_follows
    (hfollows : Follows tables rules dns server followRedirects state next) :
    Examined tables rules dns server followRedirects (left + 1) state other ↔
      other = state ∨ Examined tables rules dns server followRedirects left next other := by
  constructor
  · intro h
    cases h with
    | here => exact .inl rfl
    | after hother h => exact .inr (follows_unique hfollows hother ▸ h)
  · rintro (rfl | h)
    · exact .here
    · exact .after hfollows h

theorem not_strays_of_not_redirects (haccepts : Accepts rules dns state.number state.url)
    (hlocation : ∀ location, ¬ RedirectsTo rules server followRedirects state location) :
    ¬ Strays tables rules dns server followRedirects state := by
  rintro (⟨message, herror⟩ | ⟨-, location, message, hredirects, -⟩)
  · cases haccepts.symm.trans herror
  · exact hlocation location hredirects

theorem not_strays_of_follows
    (hfollows : Follows tables rules dns server followRedirects state next) :
    ¬ Strays tables rules dns server followRedirects state := by
  obtain ⟨haccepts, location, target, hredirects, hjoin, -⟩ := hfollows
  rintro (⟨message, herror⟩ | ⟨-, other, message, hother, herror⟩)
  · cases haccepts.symm.trans herror
  · cases redirectsTo_unique hredirects hother
    cases hjoin.symm.trans herror

theorem not_redirects_of_raised {message location : String}
    (hanswer : server state.number (rules.request state.url) = .error message) :
    ¬ RedirectsTo rules server followRedirects state location := by
  rintro ⟨response, hresponse, -⟩
  cases hanswer.symm.trans hresponse

variable {iteration : Iteration Hop HopEvent (Except Exn β)}

theorem getLast?_gets_append (before after : List HopEvent) :
    (gets (before ++ after)).getLast? = (gets after).getLast?.or (gets before).getLast? := by
  rw [gets_append, List.getLast?_append]

theorem last_of_ok {value : β} (hexhausted : ∀ state value, exhausted state ≠ .ok value)
    (h : loop (hop tables rules dns server followRedirects) exhausted left state = .ok value) :
    ∃ number url response,
      (gets (loopEvents (hop tables rules dns server followRedirects) left state)).getLast? =
        some ⟨number, rules.request url, .ok response⟩ ∧ value = rules.finish url response := by
  induction left generalizing state with
  | zero => exact absurd h (hexhausted state value)
  | succ left ih =>
      have hends : HopEnds tables rules dns server followRedirects state
          (hop tables rules dns server followRedirects left state) := hop_ends
      cases hexit : (hop tables rules dns server followRedirects left state).exit with
      | again next =>
          rw [loop_again hexit] at h
          obtain ⟨number, url, response, hlast, hvalue⟩ := ih h
          rw [loopEvents_again hexit, getLast?_gets_append, hlast]
          exact ⟨number, url, response, rfl, hvalue⟩
      | done out =>
          rw [loop_done hexit] at h
          rw [loopEvents_done hexit]
          generalize hop tables rules dns server followRedirects left state = iteration
            at hends hexit
          cases hends with
          | finished response haccepts hanswer hlocation =>
              cases hexit
              cases h
              exact ⟨state.number, state.url, response, rfl, rfl⟩
          | followed response next hanswer hfollows => cases hexit
          | _ => cases hexit; cases h

/-- The exception is no `FetchError`, and not the one of the last request. -/
def Escapes (events : List HopEvent) (out : Except Exn β) : Prop :=
  ∃ exn, out = .error exn ∧
    (∀ message statusCode blocked, exn ≠ .fetchError message statusCode blocked) ∧
    ∀ get message, (gets events).getLast? = some get → get.answer = .error message →
      exn ≠ .exception message

theorem not_escapes_fetchError {events : List HopEvent} {message : String}
    {statusCode : Option Int} {blocked : Bool} :
    ¬ Escapes events (.error (.fetchError message statusCode blocked) : Except Exn β) := by
  rintro ⟨exn, hexn, hfetch, -⟩
  cases hexn
  exact hfetch message statusCode blocked rfl

theorem not_escapes_ok {events : List HopEvent} {value : β} :
    ¬ Escapes events (.ok value : Except Exn β) := by
  rintro ⟨exn, hexn, -⟩
  cases hexn

theorem not_escapes_transport {events : List HopEvent} {get : Get} {message : String}
    (hlast : (gets events).getLast? = some get) (hanswer : get.answer = .error message) :
    ¬ Escapes events (.error (.exception message) : Except Exn β) := by
  rintro ⟨exn, hexn, -, htransport⟩
  cases hexn
  exact htransport get message hlast hanswer rfl

theorem escapes_exception {events : List HopEvent} {message : String}
    (hanswered : ∀ get reason, (gets events).getLast? = some get → get.answer ≠ .error reason) :
    Escapes events (.error (.exception message) : Except Exn β) :=
  ⟨_, rfl, nofun, fun get reason hlast hanswer => absurd hanswer (hanswered get reason hlast)⟩

theorem escapes_append {first second : List HopEvent} {out : Except Exn β} {get : Get}
    {response : HttpResponse} (hfirst : (gets first).getLast? = some get)
    (hanswer : get.answer = .ok response) :
    Escapes (first ++ second) out ↔ Escapes second out := by
  unfold Escapes
  rw [getLast?_gets_append, hfirst]
  cases (gets second).getLast? with
  | none =>
      constructor
      · rintro ⟨exn, hexn, hfetch, -⟩
        exact ⟨exn, hexn, hfetch, nofun⟩
      · rintro ⟨exn, hexn, hfetch, -⟩
        refine ⟨exn, hexn, hfetch, ?_⟩
        intro last message hlast herror
        cases hlast
        cases hanswer.symm.trans herror
  | some last => rfl

theorem exists_strays_of_not_follows
    (hstops : ∀ next, ¬ Follows tables rules dns server followRedirects state next) :
    (∃ other, Examined tables rules dns server followRedirects (left + 1) state other ∧
        Strays tables rules dns server followRedirects other) ↔
      Strays tables rules dns server followRedirects state := by
  constructor
  · rintro ⟨other, hother, hstrays⟩
    rwa [(examined_of_not_follows hstops).mp hother] at hstrays
  · intro hstrays
    exact ⟨state, .here, hstrays⟩

theorem exists_strays_of_follows
    (hfollows : Follows tables rules dns server followRedirects state next) :
    (∃ other, Examined tables rules dns server followRedirects (left + 1) state other ∧
        Strays tables rules dns server followRedirects other) ↔
      ∃ other, Examined tables rules dns server followRedirects left next other ∧
        Strays tables rules dns server followRedirects other := by
  constructor
  · rintro ⟨other, hother, hstrays⟩
    rcases (examined_of_follows hfollows).mp hother with rfl | hlater
    · exact absurd hstrays (not_strays_of_follows hfollows)
    · exact ⟨other, hlater, hstrays⟩
  · rintro ⟨other, hother, hstrays⟩
    exact ⟨other, .after hfollows hother, hstrays⟩

theorem HopEnds.not_follows {out : Except Exn β}
    (h : HopEnds tables rules dns server followRedirects state iteration)
    (hexit : iteration.exit = .done out) :
    ∀ next, ¬ Follows tables rules dns server followRedirects state next := by
  rintro next ⟨haccepts, location, target, hredirects, hjoin, -⟩
  cases h with
  | refused exn hguard => cases hguard.symm.trans haccepts
  | raised message _ hanswer => exact not_redirects_of_raised hanswer hredirects
  | unlocated response message _ _ hlocation => exact hlocation location hredirects
  | unjoined response other message _ _ hother herror =>
      cases redirectsTo_unique hredirects hother
      cases hjoin.symm.trans herror
  | followed response next hanswer hfollows => cases hexit
  | finished response _ _ hlocation => exact hlocation location hredirects

theorem escapes_refused_iff {exn : UrlGuard.Exn}
    (hguard : rules.validate (dns (state.number + 1)) state.url = .error exn) :
    Escapes [.guarded state.number state.url (.error exn)]
        (.error (guardFetchError exn) : Except Exn β) ↔
      Strays tables rules dns server followRedirects state := by
  cases exn with
  | urlGuardError message =>
      refine iff_of_false not_escapes_fetchError ?_
      rintro (⟨other, hother⟩ | ⟨haccepts, -⟩)
      · cases hguard.symm.trans hother
      · cases hguard.symm.trans haccepts
  | exception message => exact iff_of_true (escapes_exception nofun) (.inl ⟨message, hguard⟩)

theorem HopEnds.escapes_iff {out : Except Exn β} (hraised : rules.raised = guardFetchError)
    (h : HopEnds tables rules dns server followRedirects state iteration)
    (hexit : iteration.exit = .done out) :
    Escapes iteration.events out ↔ Strays tables rules dns server followRedirects state := by
  cases h with
  | refused exn hguard =>
      cases hexit
      rw [hraised]
      exact escapes_refused_iff hguard
  | raised message haccepts hanswer =>
      cases hexit
      exact iff_of_false (not_escapes_transport rfl rfl)
        (not_strays_of_not_redirects haccepts fun _ => not_redirects_of_raised hanswer)
  | unlocated response message haccepts hanswer hlocation =>
      cases hexit
      exact iff_of_false not_escapes_fetchError
        (not_strays_of_not_redirects haccepts hlocation)
  | unjoined response location message haccepts hanswer hredirects hjoin =>
      cases hexit
      refine iff_of_true (escapes_exception ?_)
        (.inr ⟨haccepts, location, message, hredirects, hjoin⟩)
      rintro get reason hlast herror
      cases hlast
      cases herror
  | followed response next hanswer hfollows => cases hexit
  | finished response haccepts hanswer hlocation =>
      cases hexit
      exact iff_of_false not_escapes_ok (not_strays_of_not_redirects haccepts hlocation)

theorem HopEnds.followed_of_again
    (h : HopEnds tables rules dns server followRedirects state iteration)
    (hexit : iteration.exit = .again next) :
    Follows tables rules dns server followRedirects state next ∧ ∃ get response,
      (gets iteration.events).getLast? = some get ∧ get.answer = .ok response := by
  cases h with
  | followed response target hanswer hfollows =>
      cases hexit
      exact ⟨hfollows, _, response, rfl, rfl⟩
  | _ => cases hexit

/-- Something escapes the loop exactly when one of the hops examined strays. -/
theorem escapes_iff_strays (hraised : rules.raised = guardFetchError)
    (hexhausted : ∀ state, ∃ message, exhausted state = .error (.fetchError message none false)) :
    Escapes (loopEvents (hop tables rules dns server followRedirects) left state)
        (loop (hop tables rules dns server followRedirects) exhausted left state) ↔
      ∃ other, Examined tables rules dns server followRedirects left state other ∧
        Strays tables rules dns server followRedirects other := by
  induction left generalizing state with
  | zero =>
      obtain ⟨message, hmessage⟩ := hexhausted state
      have hloop : loop (hop tables rules dns server followRedirects) exhausted 0 state =
          .error (.fetchError message none false) := hmessage
      rw [hloop]
      refine iff_of_false not_escapes_fetchError ?_
      rintro ⟨other, hother, -⟩
      cases hother
  | succ left ih =>
      have hends : HopEnds tables rules dns server followRedirects state
          (hop tables rules dns server followRedirects left state) := hop_ends
      cases hexit : (hop tables rules dns server followRedirects left state).exit with
      | done out =>
          rw [loop_done hexit, loopEvents_done hexit,
            exists_strays_of_not_follows (hends.not_follows hexit)]
          exact hends.escapes_iff hraised hexit
      | again next =>
          obtain ⟨hfollows, get, response, hlast, hanswer⟩ := hends.followed_of_again hexit
          rw [loop_again hexit, loopEvents_again hexit, escapes_append hlast hanswer, ih,
            exists_strays_of_follows hfollows]

end Hops

section Loop

variable {tables : TextTables} {rules : HopRules β} {dns : Dns} {server : Server}
  {followRedirects : Bool} {maxRedirects : Int} {url : String}

end Loop

namespace HttpxFetcher

variable {tables : TextTables} {codecs : Codecs} {dns : Dns}
  {invalidLocation : HttpRequest → String → Option String} {server : Server} {elapsedMs : Int}
  {url : String} {proxy : Option Proxy} {headers : Option Headers} {followRedirects : Bool}
  {maxRedirects : Int}

theorem escapes_iff :
    Escapes (fetch tables codecs dns invalidLocation server elapsedMs url proxy headers
        followRedirects maxRedirects).events
      (fetch tables codecs dns invalidLocation server elapsedMs url proxy headers
        followRedirects maxRedirects).outcome ↔
      (∃ message, validateUrlAsync tables (dns 0) url = .error (.exception message)) ∨
      validateUrlAsync tables (dns 0) url = .ok () ∧
        ∃ other, Examined tables (rules tables codecs elapsedMs proxy headers) dns
            (streamed invalidLocation server) followRedirects (hopBudget maxRedirects) ⟨0, url⟩
            other ∧
          Strays tables (rules tables codecs elapsedMs proxy headers) dns
            (streamed invalidLocation server) followRedirects other := by
  unfold fetch
  split
  · rename_i exn hguard
    cases exn with
    | urlGuardError message =>
        simp only [hguard, guardFetchError, not_escapes_fetchError, reduceCtorEq, false_iff]
        simp
    | exception message =>
        rw [hguard]
        constructor
        · intro
          exact .inl ⟨message, rfl⟩
        · intro
          exact ⟨_, rfl, nofun, nofun⟩
  · rename_i haccepted
    rw [haccepted]
    have hloop : Escapes (hopEvents tables (rules tables codecs elapsedMs proxy headers) dns
          (streamed invalidLocation server) followRedirects maxRedirects url)
        (followHops tables (rules tables codecs elapsedMs proxy headers) dns
          (streamed invalidLocation server) followRedirects maxRedirects url) ↔
        ∃ other, Examined tables (rules tables codecs elapsedMs proxy headers) dns
            (streamed invalidLocation server) followRedirects (hopBudget maxRedirects) ⟨0, url⟩
            other ∧
          Strays tables (rules tables codecs elapsedMs proxy headers) dns
            (streamed invalidLocation server) followRedirects other :=
      escapes_iff_strays rfl fun _ => ⟨_, rfl⟩
    rw [hloop]
    simp

end HttpxFetcher

namespace CurlFetcher

variable {tables : TextTables} {dns : Dns} {server : Server} {elapsedMs : Int} {url : String}
  {proxy : Option Proxy} {headers : Option Headers} {followRedirects : Bool} {maxRedirects : Int}

end CurlFetcher

end CrawlerApi.Fetch
