import CrawlerApi.Proxies.Sticky
import Mathlib.Data.Set.Card

/-!
# Pool statistics

`get_pool_stats` counts as active what is not on cooldown; `get_proxy` asks for `is_active`
besides.
-/

namespace CrawlerApi.Proxies

open Keys

structure PoolStats where
  poolId : Uuid
  total : Nat
  active : Int
  onCooldown : Nat
  avgHealth : Rat
  circuitBreakersOpen : List String
deriving DecidableEq

/-- `round(value, 3)`, halves to even. -/
def roundThousandths (value : Rat) : Rat :=
  let below := (value * 1000).floor
  let rest := value * 1000 - below
  (if rest < 1 / 2 ∨ rest = 1 / 2 ∧ below % 2 = 0 then below else below + 1 : Int) / (1000 : Rat)

/-- `str.removesuffix`. -/
def removeSuffix (suffix text : String) : String :=
  if suffix.toList.isSuffixOf text.toList then
    String.ofList (text.toList.take (text.toList.length - suffix.toList.length))
  else text

def circuitDomain (key : String) : String :=
  let start := "cb:domain:".toList
  removeSuffix ":state"
    (if start.isPrefixOf key.toList then String.ofList (key.toList.drop start.length) else key)

def openCircuits : List (Option (String × Option String)) → List String
  | [] => []
  | none :: _ => []
  | some (key, value) :: scan =>
      if isOpenState value then circuitDomain key :: openCircuits scan else openCircuits scan

def getPoolStats (table : ProxyTable) (poolId : Uuid) (now : Moment)
    (scan : List (Option (String × Option String))) : PoolStats :=
  let proxies := table.rows.filter (·.poolId = poolId)
  let total := proxies.length
  let onCooldown := proxies.countP (·.isOnCooldown now)
  { poolId := poolId
    total := total
    active := total - onCooldown
    onCooldown := onCooldown
    avgHealth := roundThousandths
      (if 0 < total then proxies.foldl (fun sum proxy => sum + proxy.healthScore) 0 / total else 0)
    circuitBreakersOpen := openCircuits scan }

def fromPool (poolId : Uuid) (domain : String) : Arguments where
  poolId := some poolId
  domain := domain
  stickyKey := none

/-- Some draw of `get_proxy` returns the proxy. -/
def Returned (text : TextMethods) (table : ProxyTable) (lookups : Lookups) (poolId : Uuid)
    (domain : String) (now : Moment) (proxy : Proxy) : Prop :=
  ∃ draw, Draw.InRange draw ∧
    (getProxy text table lookups (fromPool poolId domain) now draw).proxy = some proxy

/-- A proxy of the pool that a call can get. -/
def Proxy.ready (poolId : Uuid) (now : Moment) (proxy : Proxy) : Bool :=
  (proxy.poolId = poolId && !proxy.isOnCooldown now) && proxy.isActive

section Counts

variable {α : Type} {p q : α → Bool} {l : List α}

theorem countP_and_eq_iff : l.countP (fun a => p a && q a) = l.countP p ↔
    ∀ a ∈ l, p a = true → q a = true := by
  induction l with
  | nil => exact iff_of_true rfl nofun
  | cons a l ih =>
      have hle : l.countP (fun a => p a && q a) ≤ l.countP p :=
        List.countP_mono_left fun a _ h => (Bool.and_eq_true_iff.mp h).1
      rw [List.forall_mem_cons, ← ih, List.countP_cons, List.countP_cons]
      cases p a with
      | false => simp
      | true =>
          cases q a with
          | false =>
              simp
              omega
          | true => simp

end Counts

section Stats

variable {text : TextMethods} {table : ProxyTable} {lookups : Lookups} {poolId : Uuid}
  {domain : String} {now : Moment} {proxy : Proxy}
  {scan : List (Option (String × Option String))}

theorem eligible_fromPool_iff : Eligible text (fromPool poolId domain) now proxy ↔
    proxy.ready poolId now = true := by
  unfold Proxy.ready
  simp only [Bool.and_eq_true, Bool.not_eq_true', decide_eq_true_eq]
  constructor
  · intro h
    exact ⟨⟨h.fits.pool poolId rfl, h.rested⟩, h.active⟩
  · rintro ⟨⟨hpool, hrested⟩, hactive⟩
    refine ⟨hactive, hrested, List.not_mem_nil, fun pool hasked => ?_, nofun, nofun, nofun⟩
    cases hasked
    exact hpool

theorem returned_iff (hclosed : lookups.isCircuitOpen = false) :
    Returned text table lookups poolId domain now proxy ↔
      proxy ∈ table.rows ∧ proxy.ready poolId now = true := by
  have hdraw (draw : Draw) : getProxy text table lookups (fromPool poolId domain) now draw =
      drawProxy text table (fromPool poolId domain) now draw [] := by
    unfold getProxy
    rw [hclosed]
    rfl
  rw [← @eligible_fromPool_iff text]
  unfold Returned
  constructor
  · rintro ⟨draw, -, h⟩
    rw [hdraw] at h
    exact drawProxy_some h
  · rintro ⟨hrow, heligible⟩
    obtain ⟨draw, hrange, h⟩ := drawProxy_reaches hrow heligible []
    exact ⟨draw, hrange, by rwa [hdraw]⟩

theorem ncard_returned (hclosed : lookups.isCircuitOpen = false) :
    {proxy | Returned text table lookups poolId domain now proxy}.ncard =
      table.rows.countP (Proxy.ready poolId now) := by
  have hset : {proxy | Returned text table lookups poolId domain now proxy} =
      ((table.rows.filter (Proxy.ready poolId now)).toFinset : Set Proxy) := by
    ext proxy
    rw [Set.mem_ofPred_eq, returned_iff hclosed, List.coe_toFinset, Set.mem_ofPred_eq,
      List.mem_filter]
  rw [hset, Set.ncard_coe_finset, List.toFinset_card_of_nodup, List.countP_eq_length_filter]
  exact table.idUnique.of_map.filter _

theorem active_getPoolStats : (getPoolStats table poolId now scan).active =
    table.rows.countP fun proxy => proxy.poolId = poolId && !proxy.isOnCooldown now := by
  have hsplit := List.length_eq_countP_add_countP (fun proxy : Proxy => proxy.isOnCooldown now)
    (l := table.rows.filter (·.poolId = poolId))
  have hrested : (table.rows.filter (·.poolId = poolId)).countP
      (fun proxy => ¬ proxy.isOnCooldown now = true) =
        table.rows.countP fun proxy => proxy.poolId = poolId && !proxy.isOnCooldown now := by
    rw [List.countP_filter]
    congr 1
    funext proxy
    cases proxy.isOnCooldown now with
    | true => simp
    | false => simp
  unfold getPoolStats
  dsimp only
  omega

end Stats

/-- The active count is that of the proxies a call can get exactly if no proxy of the pool is
inactive while it is not on cooldown. -/
theorem pool_stats_agree_iff (text : TextMethods) (table : ProxyTable) {lookups : Lookups}
    (poolId : Uuid) (domain : String) (now : Moment)
    (scan : List (Option (String × Option String))) (hclosed : lookups.isCircuitOpen = false) :
    (getPoolStats table poolId now scan).active =
        {proxy | Returned text table lookups poolId domain now proxy}.ncard ↔
      ∀ proxy ∈ table.rows, proxy.poolId = poolId → proxy.isOnCooldown now = false →
        proxy.isActive = true := by
  rw [active_getPoolStats, ncard_returned hclosed, Int.ofNat_inj, eq_comm]
  refine countP_and_eq_iff.trans (forall₂_congr fun proxy _ => ?_)
  rw [Bool.and_eq_true, Bool.not_eq_true', decide_eq_true_eq, and_imp]

/-! A pool of one proxy, which may be switched off. -/

def soloPool (isActive : Bool) : ProxyTable where
  rows := [{ id := 1, poolId := 7, url := "http://proxy.example:8080", isActive := isActive }]
  idUnique := List.nodup_singleton _
  keyUnique := List.nodup_singleton _

theorem active_proxy_counted : (getPoolStats (soloPool true) 7 0 []).active =
    {proxy |
      Returned asciiText (soloPool true) ⟨some none, none⟩ 7 "example.com" 0 proxy}.ncard := by
  refine (pool_stats_agree_iff asciiText (soloPool true) 7 "example.com" 0 [] rfl).mpr ?_
  intro proxy hrow _ _
  rw [List.mem_singleton.mp hrow]

theorem inactive_proxy_counted : (getPoolStats (soloPool false) 7 0 []).active ≠
    {proxy |
      Returned asciiText (soloPool false) ⟨some none, none⟩ 7 "example.com" 0 proxy}.ncard := by
  rw [ncard_returned rfl]
  decide +kernel

end CrawlerApi.Proxies
