import CrawlerApi.Limits.RateLimiter

/-!
# What a denied request is charged

`check_all` runs the checks of the key and of the application together and the other two one
after the other.  What a layer is charged is seen on its sorted set, as Redis shows it when
the layer's script runs.
-/

namespace CrawlerApi.Limits

open Foundation
open Domains (checkDomainKey)

/-- The layers `L1` to `L4`. -/
inductive LayerName where
  | key
  | application
  | domain
  | proxy
deriving DecidableEq, Repr

def LayerName.rank : LayerName → Nat
  | .key => 1
  | .application => 2
  | .domain => 3
  | .proxy => 4

def applicationLayer (monthlyQuota : Int) : Layer := ⟨30 * 24 * 3600, monthlyQuota.toNat⟩

def Evaluations.of (evaluations : Evaluations) : LayerName → Evaluation
  | .key => evaluations.key
  | .application => evaluations.application
  | .domain => evaluations.domain
  | .proxy => evaluations.proxy

section Calls

variable (tables : TextTables) (registeredDomain : String → String) (redis : Redis)
  (request : Request) (evaluations : Evaluations)

def Request.keyOf : LayerName → Option String
  | .key => some ("rl:key:" ++ request.apiKeyPrefix)
  | .application => some ("rl:app:" ++ request.applicationId)
  | .domain => some (checkDomainKey tables registeredDomain request.domain)
  | .proxy => request.proxyId.map ("rl:proxy:" ++ ·)

/-- What a layer answers from the windows in `redis`. -/
def resultOf : LayerName → RateLimitResult
  | .key => (checkKey request.apiKeyPrefix 60 redis evaluations.key).2
  | .application =>
      (checkApplication request.applicationId request.monthlyQuota redis evaluations.application).2
  | .domain =>
      (checkDomain tables registeredDomain request.domain request.domainRps redis
        evaluations.domain).2
  | .proxy =>
      match request.proxyId with
      | none => permissiveResult
      | some proxyId => (checkProxy proxyId 2 redis evaluations.proxy).2

def firstDenying : Option LayerName :=
  [LayerName.key, .application, .domain, .proxy].find? fun layer =>
    !(resultOf tables registeredDomain redis request evaluations layer).allowed

/-- The call answers for the layer, and the layers after it keep their sets. -/
structure ChargesNothingAfter (layer : LayerName) : Prop where
  answers : (checkAll tables registeredDomain redis request evaluations).2 =
    resultOf tables registeredDomain redis request evaluations layer
  kept : ∀ later, layer.rank < later.rank →
    ∀ name ∈ request.keyOf tables registeredDomain later,
      (checkAll tables registeredDomain redis request evaluations).1.shown name
        (evaluations.of later).evaluatedAt = redis.shown name (evaluations.of later).evaluatedAt

/-- Redis does not answer, or counts fewer than sixty members of the last minute. -/
def KeyPasses : Prop :=
  evaluations.key.outcome ≠ .answered ∨
    (live ⟨60, 60⟩ (redis ("rl:key:" ++ request.apiKeyPrefix))
      (evaluations.key.check 1)).card + 1 ≤ 60

/-- The script is not reached, or finds no member at or below its cutoff and either a full
window or the very member it would add. -/
def NothingToChange (layer : Layer) (key : Key) (evaluation : Evaluation) : Prop :=
  evaluation.outcome = .refused ∨
    (∀ entry ∈ (key.fetched evaluation.evaluatedAt).set.entries,
      (evaluation.check 1).cutoff layer < entry.score) ∧
    (layer.limit < (key.fetched evaluation.evaluatedAt).set.card + 1 ∨
      ⟨evaluation.now, member evaluation.now 1 (evaluation.random 1)⟩ ∈
        (key.fetched evaluation.evaluatedAt).set.entries)

end Calls

/-! ### What one script changes -/

section Script

variable {layer : Layer} {key : Key} {check : Check}

theorem live_of_forall
    (h : ∀ entry ∈ (key.fetched check.evaluatedAt).set.entries, check.cutoff layer < entry.score) :
    live layer key check = (key.fetched check.evaluatedAt).set := SortedSet.removeUpTo_of_forall h

theorem set_step_eq_iff (hcost : check.cost = 1) (hwindow : 0 < layer.window) :
    (luaSlidingWindow layer key check).1.set = (key.fetched check.evaluatedAt).set ↔
      (∀ entry ∈ (key.fetched check.evaluatedAt).set.entries,
        check.cutoff layer < entry.score) ∧
      (layer.limit < (key.fetched check.evaluatedAt).set.card + 1 ∨
        ⟨check.now, member check.now 1 (check.random 1)⟩ ∈
          (key.fetched check.evaluatedAt).set.entries) := by
  have hlate : ∀ entry ∈ (live layer key check).entries, check.cutoff layer < entry.score :=
    fun entry hentry => (SortedSet.mem_entries_removeUpTo.mp hentry).2
  cases hallowed : (luaSlidingWindow layer key check).2.allowed with
  | false =>
      have hfull : ¬ (live layer key check).card + check.cost ≤ layer.limit := by
        rw [← allowed_iff, hallowed]
        exact Bool.false_ne_true
      rw [set_denied hallowed]
      constructor
      · intro hsame
        rw [hsame] at hlate hfull
        exact ⟨hlate, .inl (by omega)⟩
      · exact fun h => live_of_forall h.1
  | true =>
      have hroom := allowed_iff.mp hallowed
      rw [set_admitted hcost hallowed]
      constructor
      · intro hsame
        rw [← hsame]
        refine ⟨fun entry hentry => ?_, .inr (SortedSet.mem_entries_add.mpr (.inl rfl))⟩
        rcases SortedSet.mem_entries_add.mp hentry with rfl | ⟨hold, -⟩
        · unfold Check.cutoff
          dsimp only
          omega
        · exact hlate entry hold
      · rintro ⟨hnone, hfull | hthere⟩
        · rw [live_of_forall hnone] at hroom
          omega
        · rw [live_of_forall hnone]
          exact SortedSet.add_of_mem hthere

theorem fetched_step : (luaSlidingWindow layer key check).1.fetched check.evaluatedAt =
    (luaSlidingWindow layer key check).1 := by
  apply if_neg
  rintro ⟨deadline, hdeadline, hpassed⟩
  by_cases hroom : (live layer key check).card + check.cost ≤ layer.limit
  · rw [(luaSlidingWindow_admitted hroom).1] at hdeadline
    have hset := Option.some.inj hdeadline
    omega
  · rw [(luaSlidingWindow_denied (not_le.mp hroom)).1] at hdeadline
    unfold Key.fetched at hdeadline
    split at hdeadline
    · cases hdeadline
    · rename_i hfresh
      exact hfresh ⟨deadline, hdeadline, hpassed⟩

theorem shown_step_iff {evaluation : Evaluation} (hwindow : 0 < layer.window) :
    ((luaSlidingWindow layer key (evaluation.check 1)).1.fetched evaluation.evaluatedAt).set =
        (key.fetched evaluation.evaluatedAt).set ↔
      (∀ entry ∈ (key.fetched evaluation.evaluatedAt).set.entries,
        (evaluation.check 1).cutoff layer < entry.score) ∧
      (layer.limit < (key.fetched evaluation.evaluatedAt).set.card + 1 ∨
        ⟨evaluation.now, member evaluation.now 1 (evaluation.random 1)⟩ ∈
          (key.fetched evaluation.evaluatedAt).set.entries) := by
  have hkey := @fetched_step layer key (evaluation.check 1)
  have hset := @set_step_eq_iff layer key (evaluation.check 1) rfl hwindow
  unfold Evaluation.check at hkey hset ⊢
  dsimp only at hkey hset ⊢
  rw [hkey]
  exact hset

end Script

/-! ### The calls of one request -/

section Request

variable {tables : TextTables} {registeredDomain : String → String} {redis : Redis}
  {request : Request} {evaluations : Evaluations}

theorem append_ne {start other text more : String}
    (h : start.toList.take 4 ≠ other.toList.take 4) (hstart : 4 ≤ start.toList.length)
    (hother : 4 ≤ other.toList.length) : start ++ text ≠ other ++ more := by
  intro heq
  have htake := congrArg (fun name => name.toList.take 4) heq
  rw [String.toList_append, String.toList_append, List.take_append_of_le_length hstart,
    List.take_append_of_le_length hother] at htake
  exact h htake

theorem key_ne_application {apiKeyPrefix applicationId : String} :
    "rl:key:" ++ apiKeyPrefix ≠ "rl:app:" ++ applicationId :=
  append_ne (by decide) (by decide) (by decide)

theorem gather_key : (gather redis request evaluations).2.1 =
    resultOf tables registeredDomain redis request evaluations .key := by
  unfold gather
  split
  · exact check_congr (check_of_ne key_ne_application)
  · rfl

theorem gather_app : (gather redis request evaluations).2.2 =
    resultOf tables registeredDomain redis request evaluations .application := by
  unfold gather
  split
  · rfl
  · exact check_congr (check_of_ne key_ne_application.symm)

theorem gather_of_ne {name : String} (hkey : name ≠ "rl:key:" ++ request.apiKeyPrefix)
    (happ : name ≠ "rl:app:" ++ request.applicationId) :
    (gather redis request evaluations).1 name = redis name := by
  unfold gather
  split
  · exact (check_of_ne hkey).trans (check_of_ne happ)
  · exact (check_of_ne happ).trans (check_of_ne hkey)

theorem gather_application :
    (gather redis request evaluations).1 ("rl:app:" ++ request.applicationId) =
      (checkApplication request.applicationId request.monthlyQuota redis
        evaluations.application).1 ("rl:app:" ++ request.applicationId) := by
  unfold gather
  split
  · exact check_of_ne key_ne_application.symm
  · exact check_key_congr (check_of_ne key_ne_application.symm)

theorem gather_domain :
    (gather redis request evaluations).1 (checkDomainKey tables registeredDomain request.domain) =
      redis (checkDomainKey tables registeredDomain request.domain) :=
  gather_of_ne (append_ne (by decide) (by decide) (by decide))
    (append_ne (by decide) (by decide) (by decide))

theorem gather_proxy (proxyId : String) :
    (gather redis request evaluations).1 ("rl:proxy:" ++ proxyId) =
      redis ("rl:proxy:" ++ proxyId) :=
  gather_of_ne (append_ne (by decide) (by decide) (by decide))
    (append_ne (by decide) (by decide) (by decide))

theorem keyPasses_iff : KeyPasses redis request evaluations ↔
    (resultOf tables registeredDomain redis request evaluations .key).allowed = true := by
  unfold KeyPasses
  cases houtcome : evaluations.key.outcome with
  | refused =>
      refine iff_of_true (.inl (by decide)) ?_
      unfold resultOf checkKey check evalLua
      rw [houtcome]
      rfl
  | lost =>
      refine iff_of_true (.inl (by decide)) ?_
      unfold resultOf checkKey check evalLua
      rw [houtcome]
      rfl
  | answered =>
      rw [or_iff_right (by simp)]
      unfold resultOf checkKey
      rw [allowed_check houtcome, allowed_iff, show Int.toNat 60 = 60 from rfl]
      unfold Evaluation.check
      dsimp only
      omega

theorem shown_application_iff :
    (checkApplication request.applicationId request.monthlyQuota redis
        evaluations.application).1.shown ("rl:app:" ++ request.applicationId)
          evaluations.application.evaluatedAt =
      redis.shown ("rl:app:" ++ request.applicationId) evaluations.application.evaluatedAt ↔
    NothingToChange (applicationLayer request.monthlyQuota)
      (redis ("rl:app:" ++ request.applicationId)) evaluations.application := by
  unfold NothingToChange
  cases houtcome : evaluations.application.outcome with
  | refused =>
      refine iff_of_true ?_ (.inl rfl)
      unfold checkApplication check evalLua
      rw [houtcome]
  | lost =>
      rw [or_iff_right (by simp)]
      unfold checkApplication check evalLua Redis.shown
      rw [houtcome]
      dsimp only
      rw [Function.update_self]
      exact shown_step_iff (Nat.succ_pos _)
  | answered =>
      rw [or_iff_right (by simp)]
      unfold checkApplication Redis.shown
      rw [check_answered houtcome, Function.update_self]
      exact shown_step_iff (Nat.succ_pos _)

/-! Where the call stops, by the first layer that denies. -/

theorem passes_of_firstDenying {layer earlier : LayerName}
    (h : firstDenying tables registeredDomain redis request evaluations = some layer)
    (hearlier : earlier.rank < layer.rank) :
    (resultOf tables registeredDomain redis request evaluations earlier).allowed = true := by
  unfold firstDenying at h
  cases layer <;> cases earlier <;> simp [LayerName.rank, List.find?_cons] at h hearlier ⊢ <;> grind

theorem denies_of_firstDenying {layer : LayerName}
    (h : firstDenying tables registeredDomain redis request evaluations = some layer) :
    (resultOf tables registeredDomain redis request evaluations layer).allowed = false := by
  have hfound := List.find?_some h
  rwa [Bool.not_eq_true'] at hfound

theorem checkAll_key
    (h : firstDenying tables registeredDomain redis request evaluations = some .key) :
    checkAll tables registeredDomain redis request evaluations =
      ((gather redis request evaluations).1,
        resultOf tables registeredDomain redis request evaluations .key) := by
  have hdenied := denies_of_firstDenying h
  unfold checkAll
  dsimp only
  rw [@gather_key tables registeredDomain, hdenied]
  rfl

theorem checkAll_application
    (h : firstDenying tables registeredDomain redis request evaluations = some .application) :
    checkAll tables registeredDomain redis request evaluations =
      ((gather redis request evaluations).1,
        resultOf tables registeredDomain redis request evaluations .application) := by
  have hkey := passes_of_firstDenying h (show LayerName.key.rank < _ by decide)
  have hdenied := denies_of_firstDenying h
  unfold checkAll
  dsimp only
  rw [@gather_key tables registeredDomain, hkey, @gather_app tables registeredDomain, hdenied]
  rfl

theorem domain_result :
    (checkDomain tables registeredDomain request.domain request.domainRps
      (gather redis request evaluations).1 evaluations.domain).2 =
        resultOf tables registeredDomain redis request evaluations .domain :=
  check_congr gather_domain

theorem checkAll_domain
    (h : firstDenying tables registeredDomain redis request evaluations = some .domain) :
    checkAll tables registeredDomain redis request evaluations =
      ((checkDomain tables registeredDomain request.domain request.domainRps
        (gather redis request evaluations).1 evaluations.domain).1,
        resultOf tables registeredDomain redis request evaluations .domain) := by
  have hkey := passes_of_firstDenying h (show LayerName.key.rank < _ by decide)
  have happ := passes_of_firstDenying h (show LayerName.application.rank < _ by decide)
  have hdenied := denies_of_firstDenying h
  unfold checkAll
  dsimp only
  rw [@gather_key tables registeredDomain, hkey, @gather_app tables registeredDomain, happ,
    domain_result, hdenied]
  rfl

theorem resultOf_no_proxy (hproxy : request.proxyId = none) :
    resultOf tables registeredDomain redis request evaluations .proxy = permissiveResult := by
  simp only [resultOf, hproxy]

theorem resultOf_proxy {proxyId : String} (hproxy : request.proxyId = some proxyId) :
    resultOf tables registeredDomain redis request evaluations .proxy =
      (checkProxy proxyId 2 redis evaluations.proxy).2 := by
  simp only [resultOf, hproxy]

theorem answer_proxy
    (h : firstDenying tables registeredDomain redis request evaluations = some .proxy) :
    (checkAll tables registeredDomain redis request evaluations).2 =
      resultOf tables registeredDomain redis request evaluations .proxy := by
  have hkey := passes_of_firstDenying h (show LayerName.key.rank < _ by decide)
  have happ := passes_of_firstDenying h (show LayerName.application.rank < _ by decide)
  have hdomain := passes_of_firstDenying h (show LayerName.domain.rank < _ by decide)
  have hdenied := denies_of_firstDenying h
  unfold checkAll
  dsimp only
  rw [@gather_key tables registeredDomain, hkey, @gather_app tables registeredDomain, happ,
    domain_result, hdomain]
  simp only [Bool.not_true, Bool.false_eq_true, if_false]
  cases hproxy : request.proxyId with
  | none =>
      rw [resultOf_no_proxy hproxy] at hdenied
      cases hdenied
  | some proxyId =>
      rw [resultOf_proxy hproxy] at hdenied ⊢
      dsimp only
      have hsame : (checkProxy proxyId 2 (checkDomain tables registeredDomain request.domain
          request.domainRps (gather redis request evaluations).1 evaluations.domain).1
            evaluations.proxy).2 = (checkProxy proxyId 2 redis evaluations.proxy).2 :=
        check_congr ((check_of_ne (append_ne (by decide) (by decide) (by decide))).trans
          (gather_proxy proxyId))
      rw [hsame, hdenied]
      rfl

theorem shown_congr {redis' : Redis} {name : String} {clock : Int}
    (h : redis' name = redis name) : redis'.shown name clock = redis.shown name clock := by
  unfold Redis.shown
  rw [h]

theorem firstDenying_key
    (h : (resultOf tables registeredDomain redis request evaluations .key).allowed = false) :
    firstDenying tables registeredDomain redis request evaluations = some .key :=
  List.find?_cons_of_pos (by rw [h]; rfl)

theorem gather_later {later : LayerName} {name : String} (h : 2 < later.rank)
    (hname : name ∈ request.keyOf tables registeredDomain later) :
    (gather redis request evaluations).1 name = redis name := by
  cases later with
  | key => exact absurd h (by decide)
  | application => exact absurd h (by decide)
  | domain =>
      cases hname
      exact gather_domain
  | proxy =>
      obtain ⟨proxyId, -, rfl⟩ := Option.mem_map.mp hname
      exact gather_proxy proxyId

theorem chargesNothingAfter_key
    (h : firstDenying tables registeredDomain redis request evaluations = some .key)
    (hnothing : NothingToChange (applicationLayer request.monthlyQuota)
      (redis ("rl:app:" ++ request.applicationId)) evaluations.application) :
    ChargesNothingAfter tables registeredDomain redis request evaluations .key where
  answers := by rw [checkAll_key h]
  kept later hlater name hname := by
    rw [checkAll_key h]
    by_cases happ : later = .application
    · subst happ
      cases hname
      exact (shown_congr gather_application).trans (shown_application_iff.mpr hnothing)
    · apply shown_congr
      apply gather_later _ hname
      cases later with
      | key => exact absurd hlater (by decide)
      | application => exact absurd rfl happ
      | domain => decide
      | proxy => decide

theorem nothingToChange_of_key
    (h : firstDenying tables registeredDomain redis request evaluations = some .key)
    (hcharges : ChargesNothingAfter tables registeredDomain redis request evaluations .key) :
    NothingToChange (applicationLayer request.monthlyQuota)
      (redis ("rl:app:" ++ request.applicationId)) evaluations.application := by
  have hkept := hcharges.kept .application (by decide) _ rfl
  rw [checkAll_key h] at hkept
  exact shown_application_iff.mp ((shown_congr gather_application).symm.trans hkept)

theorem chargesNothingAfter_application
    (h : firstDenying tables registeredDomain redis request evaluations = some .application) :
    ChargesNothingAfter tables registeredDomain redis request evaluations .application where
  answers := by rw [checkAll_application h]
  kept later hlater name hname := by
    rw [checkAll_application h]
    exact shown_congr (gather_later hlater hname)

theorem chargesNothingAfter_domain
    (h : firstDenying tables registeredDomain redis request evaluations = some .domain) :
    ChargesNothingAfter tables registeredDomain redis request evaluations .domain where
  answers := by rw [checkAll_domain h]
  kept later hlater name hname := by
    rw [checkAll_domain h]
    apply shown_congr
    refine (check_of_ne ?_).trans (gather_later (lt_trans (by decide) hlater) hname)
    cases later with
    | key => exact absurd hlater (by decide)
    | application => exact absurd hlater (by decide)
    | domain => exact absurd hlater (by decide)
    | proxy =>
        obtain ⟨proxyId, -, rfl⟩ := Option.mem_map.mp hname
        exact append_ne (by decide) (by decide) (by decide)

theorem chargesNothingAfter_proxy
    (h : firstDenying tables registeredDomain redis request evaluations = some .proxy) :
    ChargesNothingAfter tables registeredDomain redis request evaluations .proxy where
  answers := answer_proxy h
  kept later hlater := by cases later <;> exact absurd hlater (by decide)

end Request

/-- A denied request leaves the windows of the later layers alone exactly if the key's check
passes, or the application's finds nothing to change. -/
theorem charges_nothing_after_iff {tables : TextTables} {registeredDomain : String → String}
    {redis : Redis} {request : Request} {evaluations : Evaluations} :
    (∀ layer, firstDenying tables registeredDomain redis request evaluations = some layer →
      ChargesNothingAfter tables registeredDomain redis request evaluations layer) ↔
    KeyPasses redis request evaluations ∨
      NothingToChange (applicationLayer request.monthlyQuota)
        (redis ("rl:app:" ++ request.applicationId)) evaluations.application := by
  constructor
  · intro hall
    by_cases hpasses : KeyPasses redis request evaluations
    · exact .inl hpasses
    · right
      rw [@keyPasses_iff tables registeredDomain, Bool.not_eq_true] at hpasses
      have hfirst := firstDenying_key hpasses
      exact nothingToChange_of_key hfirst (hall .key hfirst)
  · intro hcharged layer hfirst
    cases layer with
    | key =>
        apply chargesNothingAfter_key hfirst
        apply hcharged.resolve_left
        rw [@keyPasses_iff tables registeredDomain, denies_of_firstDenying hfirst]
        exact Bool.false_ne_true
    | application => exact chargesNothingAfter_application hfirst
    | domain => exact chargesNothingAfter_domain hfirst
    | proxy => exact chargesNothingAfter_proxy hfirst

/-! The sixty-first request of a minute is denied, and counts as one of the month. -/

def drawAt (started : Rat) (random : Nat) : Evaluation where
  started := started
  evaluatedAt := truncate started
  random _ := random

def sixtyMembers : SortedSet String :=
  (List.range 60).foldl (fun set i => set.add (1000 + i) (member (1000 + i) 1 7)) SortedSet.empty

def minuteFull : Redis := Function.update Redis.empty "rl:key:pk" ⟨sixtyMembers, some 62059⟩

def oneMore : Request where
  apiKeyPrefix := "pk"
  applicationId := "app"
  domain := "a.example"
  proxyId := none
  domainRps := 1
  monthlyQuota := 100000

def oneMoreAt (started : Rat) : Evaluations where
  key := drawAt started 7
  application := drawAt started 7
  applicationFirst := false
  domain := drawAt started 7
  proxy := drawAt started 7

theorem denied_request_charges_quota :
    ¬ ∀ layer, firstDenying asciiTables id minuteFull oneMore (oneMoreAt 2000) = some layer →
      ChargesNothingAfter asciiTables id minuteFull oneMore (oneMoreAt 2000) layer := by
  intro hall
  have hfirst : firstDenying asciiTables id minuteFull oneMore (oneMoreAt 2000) = some .key :=
    firstDenying_key (by decide +kernel)
  rcases nothingToChange_of_key hfirst (hall .key hfirst) with hrefused | ⟨-, hfull | hthere⟩
  · cases hrefused
  · exact absurd hfull (by decide +kernel)
  · exact absurd hthere (by decide +kernel)

end CrawlerApi.Limits
