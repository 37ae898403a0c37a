import CrawlerApi.Core.Domains
import CrawlerApi.Foundation.Binary64
import CrawlerApi.Limits.WindowBound

/-!
# The four layers

`RateLimiter` evaluates one script over one key for each layer, and lets the request pass
when an evaluation raises.  The script is passed the integer part of `time.time() * 1000`.
-/

namespace CrawlerApi.Limits

open Foundation (SortedSet binary64)
open Domains (checkDomainKey)

structure RateLimitResult where
  allowed : Bool
  limit : Int
  remaining : Int
  resetAtMs : Int
  layer : String
  retryAfterS : Rat
deriving DecidableEq

def permissiveResult : RateLimitResult where
  allowed := true
  limit := 0
  remaining := 0
  resetAtMs := 0
  layer := "none"
  retryAfterS := 0

/-- `time.time() * 1000` at an instant, in seconds; the clock reads the nearest double. -/
def timeMs (instant : Rat) : Rat := binary64 (binary64 instant * 1000)

/-- `wait_s` of `_denied`, in doubles: the reset is converted to one, and so is `0.1`. -/
def waitS (resetAtMs : Int) (nowMs : Rat) : Rat :=
  max (binary64 (1 / 10)) (binary64 (binary64 (binary64 resetAtMs - nowMs) / 1000))

/-- `_denied`, where the clock reads `nowMs`. -/
def denied (limit count resetAtMs : Int) (layer : String) (nowMs : Rat) : RateLimitResult where
  allowed := false
  limit := limit
  remaining := max 0 (limit - count)
  resetAtMs := resetAtMs
  layer := layer
  retryAfterS := waitS resetAtMs nowMs

def allowed (limit count resetAtMs : Int) (layer : String) : RateLimitResult where
  allowed := true
  limit := limit
  remaining := max 0 (limit - count)
  resetAtMs := resetAtMs
  layer := layer
  retryAfterS := 0

/-- `int` of a number: the part after the point is dropped. -/
def truncate (value : Rat) : Int := value.num.tdiv value.den

/-- What becomes of a call to Redis: it raises before or after the script has run, or its
reply arrives. -/
inductive Outcome where
  | refused
  | lost
  | answered
deriving DecidableEq, Repr

/-- One evaluation of the script, from the first `time.time() * 1000` to the one in
`_denied`. -/
structure Evaluation where
  started : Rat
  evaluatedAt : Int
  random : Nat → Nat
  outcome : Outcome := .answered
  finished : Rat := started

def Evaluation.now (evaluation : Evaluation) : Int := truncate evaluation.started

def Evaluation.check (evaluation : Evaluation) (cost : Int) : Check where
  now := evaluation.now
  cost := cost
  evaluatedAt := evaluation.evaluatedAt
  random := evaluation.random

abbrev Redis := String → Key

def Redis.empty : Redis := fun _ => .absent

/-- What the key holds at a time, on the server's clock. -/
def Redis.shown (redis : Redis) (name : String) (clock : Int) : SortedSet String :=
  ((redis name).fetched clock).set

/-- `_eval_lua`; no reply when the call raises. -/
def evalLua (redis : Redis) (name : String) (layer : Layer) (cost : Int)
    (evaluation : Evaluation) : Redis × Option Reply :=
  let served := luaSlidingWindow layer (redis name) (evaluation.check cost)
  match evaluation.outcome with
  | .refused => (redis, none)
  | .lost => (Function.update redis name served.1, none)
  | .answered => (Function.update redis name served.1, some served.2)

/-- `_check`.  The script denies under a negative limit as it does under 0. -/
def check (name : String) (window : Nat) (limit : Int) (layer : String) (cost : Int)
    (redis : Redis) (evaluation : Evaluation) : Redis × RateLimitResult :=
  let (redis, reply) := evalLua redis name ⟨window, limit.toNat⟩ cost evaluation
  match reply with
  | none => (redis, permissiveResult)
  | some reply =>
      if reply.allowed then (redis, allowed limit reply.count reply.resetAt layer)
      else (redis, denied limit reply.count reply.resetAt layer evaluation.finished)

def checkKey (apiKeyPrefix : String) (limit : Int) : Redis → Evaluation → Redis × RateLimitResult :=
  check ("rl:key:" ++ apiKeyPrefix) 60 limit "key" 1

def checkApplication (applicationId : String) (monthlyQuota : Int) :
    Redis → Evaluation → Redis × RateLimitResult :=
  check ("rl:app:" ++ applicationId) (30 * 24 * 3600) monthlyQuota "app" 1

def checkProxy (proxyId : String) (rps : Rat) : Redis → Evaluation → Redis × RateLimitResult :=
  check ("rl:proxy:" ++ proxyId) 1 (max 1 (truncate rps)) "proxy" 1

section Calls

variable (tables : TextTables) (registeredDomain : String → String)

def checkDomain (domain : String) (rps : Rat) : Redis → Evaluation → Redis × RateLimitResult :=
  check (checkDomainKey tables registeredDomain domain) 1 (max 1 (truncate rps)) "domain" 1

/-- The arguments of `check_all`. -/
structure Request where
  apiKeyPrefix : String
  applicationId : String
  domain : String
  proxyId : Option String
  domainRps : Rat
  monthlyQuota : Int

/-- The evaluations of one call.  Those of the first two layers are gathered, and either may
reach Redis first. -/
structure Evaluations where
  key : Evaluation
  application : Evaluation
  applicationFirst : Bool
  domain : Evaluation
  proxy : Evaluation

/-- The two checks `asyncio.gather` runs. -/
def gather (redis : Redis) (request : Request) (evaluations : Evaluations) :
    Redis × RateLimitResult × RateLimitResult :=
  if evaluations.applicationFirst then
    let app := checkApplication request.applicationId request.monthlyQuota redis
      evaluations.application
    let key := checkKey request.apiKeyPrefix 60 app.1 evaluations.key
    (key.1, key.2, app.2)
  else
    let key := checkKey request.apiKeyPrefix 60 redis evaluations.key
    let app := checkApplication request.applicationId request.monthlyQuota key.1
      evaluations.application
    (app.1, key.2, app.2)

def checkAll (redis : Redis) (request : Request) (evaluations : Evaluations) :
    Redis × RateLimitResult :=
  let (redis, keyResult, appResult) := gather redis request evaluations
  if !keyResult.allowed then (redis, keyResult)
  else if !appResult.allowed then (redis, appResult)
  else
    let (redis, domResult) := checkDomain tables registeredDomain request.domain request.domainRps
      redis evaluations.domain
    if !domResult.allowed then (redis, domResult)
    else
      match request.proxyId with
      | none => (redis, domResult)
      | some proxyId =>
          let (redis, proxyResult) := checkProxy proxyId 2 redis evaluations.proxy
          if !proxyResult.allowed then (redis, proxyResult) else (redis, domResult)

end Calls

/-! ### One evaluation -/

section Script

variable {layer : Layer} {key : Key} {check : Check}

theorem live_of_expired (h : key.expired check.evaluatedAt) :
    (live layer key check).card = 0 := by
  unfold live Key.fetched
  rw [if_pos h]
  rfl

theorem live_of_not_expired (h : ¬ key.expired check.evaluatedAt) :
    live layer key check = key.set.removeUpTo (check.cutoff layer) := by
  unfold live Key.fetched
  rw [if_neg h]

theorem card_live_le : (live layer key check).card ≤ key.set.card := by
  by_cases h : key.expired check.evaluatedAt
  · rw [live_of_expired h]
    exact Nat.zero_le _
  · rw [live_of_not_expired h]
    exact SortedSet.card_removeUpTo_le ..

theorem allowed_iff : (luaSlidingWindow layer key check).2.allowed = true ↔
    (live layer key check).card + check.cost ≤ layer.limit := by
  by_cases h : (live layer key check).card + check.cost ≤ layer.limit
  · exact iff_of_true (luaSlidingWindow_admitted h).2 h
  · refine iff_of_false ?_ h
    rw [(luaSlidingWindow_denied (not_le.mp h)).2]
    exact Bool.false_ne_true

theorem members_of_cost_one (hcost : check.cost = 1) :
    check.members = [member check.now 1 (check.random 1)] := by
  unfold Check.members
  rw [hcost]
  rfl

theorem set_admitted (hcost : check.cost = 1)
    (h : (luaSlidingWindow layer key check).2.allowed = true) :
    (luaSlidingWindow layer key check).1.set =
      (live layer key check).add check.now (member check.now 1 (check.random 1)) := by
  rw [(luaSlidingWindow_admitted (allowed_iff.mp h)).1, members_of_cost_one hcost]
  rfl

theorem set_denied (h : (luaSlidingWindow layer key check).2.allowed = false) :
    (luaSlidingWindow layer key check).1.set = live layer key check := by
  have hover : ¬ (live layer key check).card + check.cost ≤ layer.limit := by
    rw [← allowed_iff, h]
    exact Bool.false_ne_true
  rw [(luaSlidingWindow_denied (not_le.mp hover)).1]

end Script

/-! ### One check -/

section Check

variable {name other : String} {window : Nat} {limit cost : Int} {layer : String} {redis : Redis}
  {evaluation : Evaluation}

theorem check_refused (hrefused : evaluation.outcome = .refused) :
    (check name window limit layer cost redis evaluation).1 = redis := by
  unfold check evalLua
  rw [hrefused]

theorem check_ran (hran : evaluation.outcome ≠ .refused) :
    (check name window limit layer cost redis evaluation).1 = Function.update redis name
      (luaSlidingWindow ⟨window, limit.toNat⟩ (redis name) (evaluation.check cost)).1 := by
  unfold check evalLua
  cases houtcome : evaluation.outcome with
  | refused => exact absurd houtcome hran
  | lost => rfl
  | answered =>
      dsimp only
      split
      · rfl
      · rfl

theorem check_answered (hanswered : evaluation.outcome = .answered) :
    (check name window limit layer cost redis evaluation).1 = Function.update redis name
      (luaSlidingWindow ⟨window, limit.toNat⟩ (redis name) (evaluation.check cost)).1 :=
  check_ran (by rw [hanswered]; nofun)

theorem allowed_check (hanswered : evaluation.outcome = .answered) :
    (check name window limit layer cost redis evaluation).2.allowed =
      (luaSlidingWindow ⟨window, limit.toNat⟩ (redis name) (evaluation.check cost)).2.allowed := by
  unfold check evalLua
  rw [hanswered]
  dsimp only
  split
  · rename_i hallowed
    exact hallowed.symm
  · rename_i hdenied
    exact (Bool.eq_false_iff.mpr hdenied).symm

theorem resetAtMs_check (hanswered : evaluation.outcome = .answered) :
    (check name window limit layer cost redis evaluation).2.resetAtMs =
      (luaSlidingWindow ⟨window, limit.toNat⟩ (redis name) (evaluation.check cost)).2.resetAt := by
  unfold check evalLua
  rw [hanswered]
  dsimp only
  split <;> rfl

theorem answered_of_denied
    (hdenied : (check name window limit layer cost redis evaluation).2.allowed = false) :
    evaluation.outcome = .answered := by
  unfold check evalLua at hdenied
  cases houtcome : evaluation.outcome with
  | answered => rfl
  | refused | lost =>
      rw [houtcome] at hdenied
      cases hdenied

theorem retryAfterS_check
    (hdenied : (check name window limit layer cost redis evaluation).2.allowed = false) :
    (check name window limit layer cost redis evaluation).2.retryAfterS =
      waitS (check name window limit layer cost redis evaluation).2.resetAtMs
        evaluation.finished := by
  unfold check at hdenied ⊢
  dsimp only at hdenied ⊢
  split at hdenied
  · cases hdenied
  · split at hdenied
    · cases hdenied
    · rename_i hfalse
      rw [if_neg hfalse]
      rfl

theorem check_of_ne (hne : other ≠ name) :
    (check name window limit layer cost redis evaluation).1 other = redis other := by
  unfold check evalLua
  cases evaluation.outcome with
  | refused => rfl
  | lost => exact Function.update_of_ne hne ..
  | answered =>
      dsimp only
      split
      · exact Function.update_of_ne hne ..
      · exact Function.update_of_ne hne ..

theorem check_congr {redis' : Redis} (h : redis' name = redis name) :
    (check name window limit layer cost redis' evaluation).2 =
      (check name window limit layer cost redis evaluation).2 := by
  unfold check evalLua
  cases evaluation.outcome with
  | refused => rfl
  | lost => rfl
  | answered =>
      dsimp only
      rw [h]
      split
      · rfl
      · rfl

theorem check_key_congr {redis' : Redis} (h : redis' name = redis name) :
    (check name window limit layer cost redis' evaluation).1 name =
      (check name window limit layer cost redis evaluation).1 name := by
  cases houtcome : evaluation.outcome with
  | refused =>
      unfold check evalLua
      rw [houtcome]
      exact h
  | lost =>
      unfold check evalLua
      rw [houtcome]
      dsimp only
      rw [Function.update_self, Function.update_self, h]
  | answered =>
      rw [check_answered houtcome, check_answered houtcome, Function.update_self,
        Function.update_self, h]

end Check

theorem le_truncate {bound : Int} {value : Rat} (h : (bound : Rat) ≤ value) :
    bound ≤ truncate value := by
  have hfloor : bound ≤ ⌊value⌋ := Int.le_floor.mpr h
  rw [Rat.floor_def'] at hfloor
  refine hfloor.trans ?_
  unfold truncate
  rw [Int.tdiv_eq_ediv, Int.sign_natCast_of_ne_zero value.den_nz]
  split <;> omega

end CrawlerApi.Limits
