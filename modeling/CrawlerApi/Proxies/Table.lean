import CrawlerApi.Fetch.Result
import Mathlib.Data.List.Nodup

/-!
# The proxies table

`ProxyTable` carries the keys the schema declares: the primary key and the pair
of provider and URL.
-/

namespace CrawlerApi.Proxies

open Keys
open Fetch (ProxyType)

abbrev Moment := Int

structure Proxy where
  id : Uuid
  poolId : Uuid
  provider : String := "webshare"
  url : String
  country : Option String := none
  city : Option String := none
  proxyType : ProxyType := .datacenter
  healthScore : Rat := 1
  consecutiveFailures : Nat := 0
  cooldownUntil : Option Moment := none
  totalRequests : Nat := 0
  totalErrors : Nat := 0
  isActive : Bool := true
deriving DecidableEq

/-- `cooldown_until` is set and in the future. -/
def Proxy.isOnCooldown (proxy : Proxy) (now : Moment) : Bool :=
  match proxy.cooldownUntil with
  | none => false
  | some moment => now < moment

/-- The columns of `uq_proxy_provider_url`. -/
def Proxy.key (proxy : Proxy) : String × String := (proxy.provider, proxy.url)

structure ProxyTable where
  rows : List Proxy
  idUnique : (rows.map Proxy.id).Nodup
  keyUnique : (rows.map Proxy.key).Nodup

namespace ProxyTable

/-- `db.get(Proxy, id)` in a session that holds no row yet. -/
def get (table : ProxyTable) (id : Uuid) : Option Proxy := table.rows.find? (·.id = id)

theorem get_mem {table : ProxyTable} {id : Uuid} {proxy : Proxy} (h : table.get id = some proxy) :
    proxy ∈ table.rows ∧ proxy.id = id :=
  ⟨List.mem_of_find?_eq_some h, by simpa using List.find?_some h⟩

theorem get_eq_some {table : ProxyTable} {proxy : Proxy} (h : proxy ∈ table.rows) :
    table.get proxy.id = some proxy := by
  cases hfind : table.get proxy.id with
  | none => simpa using List.find?_eq_none.mp hfind proxy h
  | some found =>
      obtain ⟨hmem, hid⟩ := get_mem hfind
      exact congrArg some (List.inj_on_of_nodup_map table.idUnique hmem h hid)

end ProxyTable

end CrawlerApi.Proxies
