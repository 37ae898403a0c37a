import CrawlerApi.Proxies.Selection
import CrawlerApi.Proxies.Sync

/-!
# The rows the endpoints insert

An operator adds one proxy to a pool, or imports a list of them; an import goes over
the rows that are there.
-/

namespace CrawlerApi.Proxies

open Keys
open Fetch (ProxyType)

/-- The body of `add_proxy_to_pool`; the path carries the pool. -/
structure ProxyCreate where
  url : String
  country : Option String := none
  proxyType : ProxyType := .datacenter
  typed : proxyType ≠ .mobile := by decide

theorem isp_ne_mobile : ProxyType.isp ≠ .mobile := by decide

structure ImportItem where
  host : String
  port : Int
  username : String
  password : String
  country : String
  proxyType : ProxyType := .datacenter
  typed : proxyType ≠ .mobile := by decide

def ImportItem.url (item : ImportItem) : String :=
  "http://" ++ item.username ++ ":" ++ item.password ++ "@" ++ item.host ++ ":" ++
    toString item.port

section Rows

variable (text : TextMethods) (id pool : Uuid)

/-- `add_proxy_to_pool` names no provider: the column's default stands. -/
def createdProxy (body : ProxyCreate) : Proxy where
  id := id
  poolId := pool
  url := body.url
  country := body.country.bind fun country =>
    if country.isEmpty then none else some (Arguments.countryCode text country)
  proxyType := body.proxyType

def importedProxy (item : ImportItem) : Proxy where
  id := id
  poolId := pool
  provider := "webshare"
  url := item.url
  country := some (Arguments.countryCode text item.country)
  proxyType := item.proxyType
  healthScore := 1
  consecutiveFailures := 0

/-- The `ON CONFLICT DO UPDATE` of an import. -/
def reimport (item : ImportItem) : Edit where
  apply proxy :=
    if proxy.key = ("webshare", item.url) then
      { proxy with
        country := some (Arguments.countryCode text item.country)
        proxyType := item.proxyType
        healthScore := 1
        consecutiveFailures := 0
        cooldownUntil := none }
    else proxy
  id proxy := by split <;> rfl
  key proxy := by split <;> rfl

end Rows

end CrawlerApi.Proxies
