import CrawlerApi.Fetch.Retry
import Mathlib.Order.Fin.Basic

/-!
# Running out of attempts

When every attempt comes back blocked, the loop hands back the last blocked
result wherever it looks at the budget.  The two tier bumps do not look at it: a
bump on the last attempt leaves the loop with neither result nor error.
-/

namespace CrawlerApi.Fetch

open Keys Foundation

def asksAt (request : Request) (rung : Rung) : Bool :=
  match request.gate rung with
  | .stop => false
  | .go bypassed => asksProxy request bypassed rung.tier

/-- Everything an attempt from this state calls goes well, and the page is blocked. -/
structure BlockedPage (request : Request) (state : State) (answers : Answers)
    (result : FetchResult) : Prop where
  asked : asksAt request state.tier = true → ∃ proxy, answers.getProxy = .ok (some proxy)
  fetched : answers.fetch = .ok result
  blocked : result.blocked = true
  reported : answers.report = .ok ()
  slept : answers.sleep = .ok ()

/-- A block at the rung bumps the tier: a technique block that meets the cap of
the tier, or any block of a direct connection of a caller who does not insist on
a proxy, with a rung to go to. -/
def BumpsAt (request : Request) (rung : Rung) (attempts : Nat) (direct : Prop)
    (reason : Option String) : Prop :=
  (request.attemptsPerTier ≤ attempts ∧ isEscalatable reason = true ∨
    direct ∧ request.useProxy ≠ some true) ∧
  ∃ next, nextTier rung = some next ∧ next ≤ request.maxTier

def Bumps (request : Request) (state : State) (reason : Option String) : Prop :=
  BumpsAt request state.tier (state.attemptsAtTier + 1) (asksAt request state.tier = false) reason

def Reachable (request : Request) (rung : Rung) : Prop :=
  rung ≤ request.maxTier ∨ request.requestedEngine = some rung.tier.engine

section Attempt

variable {text : TextMethods} {request : Request} {environment : Environment} {left : Nat}
  {state : State} {result : FetchResult} {answers : Answers} {proxy : Option Proxy}

theorem gate_of_reachable {rung : Rung} (h : Reachable request rung) :
    ∃ bypassed, request.gate rung = .go bypassed := by
  unfold Request.gate
  split
  · rename_i habove
    rcases h with hle | hengine
    · exact absurd habove (not_lt.mpr hle)
    · rw [if_pos hengine]
      exact ⟨true, rfl⟩
  · exact ⟨false, rfl⟩

theorem asksAt_of_gate {bypassed : Bool} (hgate : request.gate state.tier = .go bypassed) :
    asksAt request state.tier = asksProxy request bypassed state.tier.tier := by
  rw [asksAt, hgate]

theorem reachable_startTier (request : Request) : Reachable request request.startTier := by
  unfold Request.startTier
  split
  · rename_i engine hengine
    exact .inr (by rw [hengine, firstRung_engine])
  · exact .inl (Nat.min_le_right _ _)

theorem not_bumpsAt_of_none {rung : Rung} {attempts : Nat} {direct : Prop}
    {reason : Option String} (h : nextTier rung = none) :
    ¬ BumpsAt request rung attempts direct reason := by
  rintro ⟨-, next, hnext, -⟩
  rw [h] at hnext
  cases hnext

theorem not_bumpsAt_of_lt {rung next : Rung} {attempts : Nat} {direct : Prop}
    {reason : Option String} (h : nextTier rung = some next) (hlt : request.maxTier < next) :
    ¬ BumpsAt request rung attempts direct reason := by
  rintro ⟨-, other, hother, hle⟩
  rw [h] at hother
  cases hother
  exact absurd hle (not_le.mpr hlt)

/-- The decision gives the result back, or goes around again; with nothing left
of the budget it does so only to bump the tier. -/
inductive Decided (request : Request) (left : Nat) (bumping : Prop) (result : FetchResult) :
    Tried → Prop where
  | returned {tried : Tried} : tried.exit = .ok (.result result) → ¬ bumping →
      Decided request left bumping result tried
  | again {tried : Tried} : tried.exit = .ok .again → Reachable request tried.state.tier →
      (left = 0 → bumping) → Decided request left bumping result tried

theorem afterBlock_decided (state : State) {events : List Event}
    (hreach : Reachable request state.tier) (hsleep : answers.sleep = .ok ()) :
    Decided request left
      (BumpsAt request state.tier state.attemptsAtTier (proxy = none) result.blockReason) result
      (afterBlock request left state proxy result events answers) := by
  unfold afterBlock
  split
  · rename_i htechnique
    split
    · rename_i hnone
      exact .returned rfl (not_bumpsAt_of_none hnone)
    · rename_i next hnext
      split
      · rename_i hlt
        exact .returned rfl (not_bumpsAt_of_lt hnext hlt)
      · rename_i hle
        exact .again rfl (.inl (not_lt.mp hle))
          fun _ => ⟨.inl htechnique, next, hnext, not_lt.mp hle⟩
  · rename_i htechnique
    split
    · rename_i hdirect
      split
      · rename_i hnone
        exact .returned rfl (not_bumpsAt_of_none hnone)
      · rename_i next hnext
        split
        · rename_i hle
          exact .again rfl (.inl hle) fun _ => ⟨.inr hdirect, next, hnext, hle⟩
        · rename_i hlt
          exact .returned rfl (not_bumpsAt_of_lt hnext (not_le.mp hlt))
    · rename_i hdirect
      split
      · rename_i hleft
        refine .again ?_ hreach fun h => absurd hleft (by omega)
        rw [sleepThen, hsleep]
        rfl
      · exact .returned rfl fun h => h.1.elim htechnique hdirect

theorem onBlocked_decided (left : Nat) (state : State) (proxy : Option Proxy)
    (result : FetchResult) (hreach : Reachable request state.tier)
    (hreport : answers.report = .ok ()) (hsleep : answers.sleep = .ok ()) :
    Decided request left
      (BumpsAt request state.tier (state.attemptsAtTier + 1) (proxy = none) result.blockReason)
      result (onBlocked request left state proxy result answers) := by
  unfold onBlocked
  dsimp only
  cases request.hasProxyManager with
  | false => exact afterBlock_decided (state.count result) hreach hsleep
  | true =>
      cases proxy with
      | none => exact afterBlock_decided (state.count result) hreach hsleep
      | some used =>
          rw [hreport]
          exact afterBlock_decided ((state.count result).fail (some used)) hreach hsleep

theorem pickProxy_of_answer (text : TextMethods) (state : State) {bypassed : Bool}
    (hasked : asksProxy request bypassed state.tier.tier = true →
      ∃ proxy, answers.getProxy = .ok (some proxy)) :
    ∃ proxy, (pickProxy text request answers bypassed state).2 = .ok proxy ∧
      (proxy = none ↔ asksProxy request bypassed state.tier.tier = false) := by
  unfold pickProxy
  split
  · rename_i hasks
    obtain ⟨proxy, hproxy⟩ := hasked hasks
    exact ⟨some proxy, by rw [hproxy], by simp [hasks]⟩
  · rename_i hasks
    exact ⟨none, rfl, by simpa using hasks⟩

theorem attempt_decides (text : TextMethods) (left : Nat) (hreach : Reachable request state.tier)
    (hpage : BlockedPage request state (environment state.totalAttempts) result) :
    ∃ proxy, (proxy = none ↔ asksAt request state.tier = false) ∧
      ∀ tried, onBlocked request left state.begin proxy (stamp request state.begin result)
          (environment state.totalAttempts) = tried →
        (tried.exit = .ok .again →
          (attempt text request environment left state).exit = .again tried.state) ∧
        ∀ page, tried.exit = .ok (.result page) →
          (attempt text request environment left state).exit = .done (.ok page) := by
  obtain ⟨bypassed, hgate⟩ := gate_of_reachable hreach
  have hasksAt := asksAt_of_gate hgate
  obtain ⟨proxy, hpicked, hproxy⟩ :=
    pickProxy_of_answer text state.begin (hasksAt ▸ hpage.asked)
  refine ⟨proxy, hasksAt ▸ hproxy, ?_⟩
  intro tried htried
  have hfetch : (fetchWith request left (fetcherFor state) state.begin proxy
        (environment state.totalAttempts)).exit = tried.exit ∧
      (fetchWith request left (fetcherFor state) state.begin proxy
        (environment state.totalAttempts)).state = tried.state := by
    have hblocked : (stamp request state.begin result).blocked = true := hpage.blocked
    unfold fetchWith
    rw [hpage.fetched]
    simp only [hblocked, if_true, htried, and_self]
  unfold attempt
  rw [hgate]
  dsimp only
  rw [hpicked]
  dsimp only
  rw [hfetch.1, hfetch.2]
  constructor
  · intro hagain
    rw [hagain]
  · intro page hresult
    rw [hresult]

/-- An attempt on a blocked page gives the page back, or goes around again; on
the last attempt it goes around exactly when it bumps the tier. -/
theorem attempt_blocked (text : TextMethods) (left : Nat) (hreach : Reachable request state.tier)
    (hpage : BlockedPage request state (environment state.totalAttempts) result) :
    (attempt text request environment left state).exit =
          .done (.ok (stamp request state.begin result)) ∧
        ¬ Bumps request state result.blockReason ∨
      ∃ next, (attempt text request environment left state).exit = .again next ∧
        Reachable request next.tier ∧ (left = 0 → Bumps request state result.blockReason) := by
  obtain ⟨proxy, hproxy, hends⟩ := attempt_decides text left hreach hpage
  have hbumps : BumpsAt request state.begin.tier (state.begin.attemptsAtTier + 1) (proxy = none)
      (stamp request state.begin result).blockReason = Bumps request state result.blockReason := by
    unfold Bumps
    rw [hproxy]
    rfl
  have hdecided := onBlocked_decided left state.begin proxy (stamp request state.begin result)
    hreach hpage.reported hpage.slept
  rw [hbumps] at hdecided
  cases hdecided with
  | returned hexit hnot => exact .inl ⟨(hends _ rfl).2 _ hexit, hnot⟩
  | again hexit hnext hlast => exact .inr ⟨_, (hends _ rfl).1 hexit, hnext, hlast⟩

end Attempt

section Run

variable {text : TextMethods} {request : Request} {environment : Environment}

/-- Every attempt of the run comes back blocked. -/
def AllBlocked (text : TextMethods) (request : Request) (environment : Environment) : Prop :=
  ∀ visit ∈ attempts text request environment, ∃ result,
    BlockedPage request visit.state (environment visit.state.totalAttempts) result

/-- The run gives back the blocked result of its last attempt. -/
def ReturnsLastBlocked (text : TextMethods) (request : Request) (environment : Environment) :
    Prop :=
  ∃ visit result, (attempts text request environment).getLast? = some visit ∧
    (environment visit.state.totalAttempts).fetch = .ok result ∧
    fetchWithRetry text request environment = .ok (stamp request visit.state.begin result)

/-- The attempt on which the ceiling is reached bumps no tier. -/
def LastAttemptStays (text : TextMethods) (request : Request) (environment : Environment) : Prop :=
  ∀ visit ∈ attempts text request environment, visit.left = 0 → ∀ result,
    (environment visit.state.totalAttempts).fetch = .ok result →
      ¬ Bumps request visit.state result.blockReason

def lastPage (request : Request) (environment : Environment) (state : State) : Outcome :=
  (environment state.totalAttempts).fetch.map (stamp request state.begin)

theorem attempts_reachable (hblocked : AllBlocked text request environment) :
    ∀ visit ∈ attempts text request environment, Reachable request visit.state.tier := by
  refine visits_invariant (fun state : State => Reachable request state.tier) ?_
    (reachable_startTier request)
  intro visit hvisit hreach next hagain
  obtain ⟨result, hpage⟩ := hblocked visit hvisit
  rcases attempt_blocked text visit.left hreach hpage with ⟨hdone, -⟩ | ⟨other, hother, hnext, -⟩
  · rw [hdone] at hagain
    cases hagain
  · rw [hother] at hagain
    cases hagain
    exact hnext

theorem lastPage_of_fetched {state : State} {result : FetchResult}
    (h : (environment state.totalAttempts).fetch = .ok result) :
    lastPage request environment state = .ok (stamp request state.begin result) := by
  rw [lastPage, h]
  rfl

/-- The run ends with the page of its last attempt exactly when that attempt,
if it is the last of the budget, does not go around again. -/
theorem lastPage_iff (hceiling : 1 ≤ request.maxAttempts)
    (hblocked : AllBlocked text request environment) :
    (∃ visit, (attempts text request environment).getLast? = some visit ∧
        fetchWithRetry text request environment = lastPage request environment visit.state) ↔
      ∀ visit ∈ attempts text request environment, visit.left = 0 →
        ∀ next, (attempt text request environment visit.left visit.state).exit ≠ .again next := by
  refine loop_eq_last_iff (fun state : State => Reachable request state.tier)
    (lastPage request environment) ?_ ?_ (reachable_startTier request) (by omega)
  · intro visit hvisit hreach
    obtain ⟨result, hpage⟩ := hblocked visit hvisit
    rw [lastPage_of_fetched hpage.fetched]
    rcases attempt_blocked text visit.left hreach hpage with ⟨hdone, -⟩ | ⟨next, hagain, hnext, -⟩
    · exact .inl hdone
    · exact .inr ⟨next, hagain, hnext⟩
  · intro visit hvisit final
    obtain ⟨result, hpage⟩ := hblocked visit hvisit
    rw [lastPage_of_fetched hpage.fetched]
    nofun

/-- A run of blocked attempts gives back the last of them exactly when the
attempt on which the ceiling is reached bumps no tier. -/
theorem returns_last_blocked_iff (hceiling : 1 ≤ request.maxAttempts)
    (hblocked : AllBlocked text request environment) :
    ReturnsLastBlocked text request environment ↔
      LastAttemptStays text request environment := by
  have hreturns : ReturnsLastBlocked text request environment ↔
      ∃ visit, (attempts text request environment).getLast? = some visit ∧
        fetchWithRetry text request environment = lastPage request environment visit.state := by
    constructor
    · rintro ⟨visit, result, hvisit, hfetch, hrun⟩
      exact ⟨visit, hvisit, by rw [hrun, lastPage_of_fetched hfetch]⟩
    · rintro ⟨visit, hvisit, hrun⟩
      obtain ⟨result, hpage⟩ := hblocked visit (List.mem_of_getLast? hvisit)
      exact ⟨visit, result, hvisit, hpage.fetched, by rw [hrun, lastPage_of_fetched hpage.fetched]⟩
  rw [hreturns, lastPage_iff hceiling hblocked]
  apply forall₃_congr
  intro visit hvisit hleft
  obtain ⟨result, hpage⟩ := hblocked visit hvisit
  have hattempt := attempt_blocked text visit.left
    (attempts_reachable hblocked visit hvisit) hpage
  constructor
  · intro hstays other hother hbumps
    rw [hpage.fetched] at hother
    cases hother
    rcases hattempt with ⟨-, hnot⟩ | ⟨next, hagain, -⟩
    · exact hnot hbumps
    · exact hstays next hagain
  · intro hnot next hagain
    rcases hattempt with ⟨hdone, -⟩ | ⟨other, -, -, hlast⟩
    · rw [hdone] at hagain
      cases hagain
    · exact hnot result hpage.fetched (hlast hleft)

end Run

/-! Two blocked attempts with one attempt a tier: the second bump spends the budget. -/

def oneAttemptPerTier : Request where
  fetcher := getFetcher .httpx
  url := "https://example.com/"
  domain := "example.com"
  policy := some { maxRetries := some 1, maxEscalationAttempts := some 2 }
  useProxy := some true

def blockedResult (reason : BlockReason) : FetchResult where
  url := "https://example.com/"
  statusCode := 403
  blocked := true
  blockReason := some reason.value

def blockedBy (reason : BlockReason) : Environment := fun _ => {
  getProxy := .ok (some ⟨1, "http://proxy.example:8080", none, none, .datacenter⟩)
  userAgent := "Mozilla/5.0"
  fetch := .ok (blockedResult reason) }

theorem blockedBy_allBlocked (text : TextMethods) (request : Request) (reason : BlockReason) :
    AllBlocked text request (blockedBy reason) :=
  fun _ _ => ⟨blockedResult reason, fun _ => ⟨_, rfl⟩, rfl, rfl, rfl, rfl⟩

theorem returns_last_blocked_iff_ipBan :
    ReturnsLastBlocked asciiText oneAttemptPerTier (blockedBy .ipBan) ↔
      LastAttemptStays asciiText oneAttemptPerTier (blockedBy .ipBan) :=
  returns_last_blocked_iff (by decide) (blockedBy_allBlocked _ _ _)

theorem second_bump_spends_budget :
    ¬ ∀ text request environment, 1 ≤ request.maxAttempts →
      AllBlocked text request environment → ReturnsLastBlocked text request environment := by
  intro hall
  obtain ⟨visit, result, -, -, hrun⟩ :=
    hall asciiText oneAttemptPerTier (blockedBy .waf) (by decide) (blockedBy_allBlocked _ _ _)
  have hraised : fetchWithRetry asciiText oneAttemptPerTier (blockedBy .waf) =
      .error (.fetchError "None" none false) := rfl
  rw [hraised] at hrun
  cases hrun

end CrawlerApi.Fetch
