import CrawlerApi.Core.Text
import CrawlerApi.Proxies.Table
import Mathlib.Algebra.Order.Ring.Rat

/-!
# Choosing a proxy

`get_proxy` has two ways to a proxy: the row a sticky session is pinned to, and a
weighted draw from a filtered query.  Redis and the random numbers answer from
outside; the two reads of the table see one version of it at one instant.
-/

namespace CrawlerApi.Proxies

open Keys
open Fetch (ProxyType)

section Draw

variable {α : Type}

def accumulate (sum : Rat) : List Rat → List Rat
  | [] => []
  | weight :: weights => (sum + weight) :: accumulate (sum + weight) weights

/-- `random.choices(population, weights=weights, k=1)[0]`, with `random()` at
`point`; it raises where the weights add up to nothing. -/
def choices (population : List α) (weights : List Rat) (point : Rat) : Option α :=
  let cumulative := accumulate 0 weights
  let total := cumulative.getLastD 0
  if total ≤ 0 then none
  else
    let below := cumulative.take (population.length - 1)
    population[(below.takeWhile (· ≤ point * total)).length]?

end Draw

/-- What `random` answers: the ranks of `func.random()` and the point of the draw. -/
structure Draw where
  rank : Uuid → Nat
  point : Rat

/-- What Redis answers to the two lookups of a call; `none` where a call raises. -/
structure Lookups where
  state : Option (Option String)
  sticky : Option (Option Uuid)

def isOpenState (value : Option String) : Bool := value = some "open"

/-- With Redis down the breaker counts as closed. -/
def Lookups.isCircuitOpen (lookups : Lookups) : Bool :=
  match lookups.state with
  | some value => isOpenState value
  | none => false

def Lookups.getSticky (lookups : Lookups) : Option Uuid := lookups.sticky.join

structure Arguments where
  poolId : Option Uuid := none
  tenantId : Option Uuid := none
  domain : String
  stickyKey : Option String
  proxyStickyTtlS : Int := 1800
  excludeIds : List Uuid := []
  country : Option String := none
  city : Option String := none
  proxyType : Option ProxyType := none

inductive StickyWrite where
  | delete (domain stickyKey : String)
  | set (domain stickyKey : String) (proxyId : Uuid) (ttl : Int)
deriving DecidableEq

structure Selection where
  proxy : Option Proxy
  writes : List StickyWrite

section GetProxy

variable (text : TextMethods) (table : ProxyTable) (lookups : Lookups) (arguments : Arguments)
  (now : Moment) (draw : Draw)

namespace Arguments

def effectivePool : Option Uuid := arguments.tenantId.or arguments.poolId

/-- `country.upper()[:2]`. -/
def countryCode (country : String) : String := String.ofList ((text.upper country).toList.take 2)

/-- The `where` clauses of the query. -/
def filters (proxy : Proxy) : Bool :=
  arguments.effectivePool.all (proxy.poolId = ·) &&
  proxy.isActive &&
  arguments.country.all (fun country => proxy.country = some (countryCode text country)) &&
  arguments.city.all (proxy.city = some ·) &&
  arguments.proxyType.all (proxy.proxyType = ·)

end Arguments

def weightFloor : Rat := 1 / 100

/-- `max(_WEIGHT_FLOOR, p.health_score)`. -/
def Proxy.weight (proxy : Proxy) : Rat :=
  if weightFloor < proxy.healthScore then proxy.healthScore else weightFloor

/-- `order_by(Proxy.health_score.desc(), func.random())`. -/
def Draw.before (left right : Proxy) : Bool :=
  right.healthScore < left.healthScore ∨
    right.healthScore = left.healthScore ∧ draw.rank left.id ≤ draw.rank right.id

def eligible : List Proxy :=
  ((table.rows.filter (arguments.filters text)).mergeSort (Draw.before draw)).filter
    fun proxy => !proxy.isOnCooldown now && proxy.id ∉ arguments.excludeIds

def drawProxy (writes : List StickyWrite) : Selection :=
  let eligible := eligible text table arguments now draw
  if eligible = [] then ⟨none, writes⟩
  else
    match choices eligible (eligible.map Proxy.weight) draw.point with
    | none => ⟨none, writes⟩
    | some selected =>
        ⟨some selected, writes ++ match arguments.stickyKey with
          | none => []
          | some key => [.set arguments.domain key selected.id arguments.proxyStickyTtlS]⟩

def getProxy : Selection :=
  if lookups.isCircuitOpen then ⟨none, []⟩
  else
    match arguments.stickyKey, lookups.getSticky with
    | some key, some stickyId =>
        if stickyId ∈ arguments.excludeIds then drawProxy text table arguments now draw []
        else
          match (table.get stickyId).filter fun row => row.isActive && !row.isOnCooldown now with
          | some row => ⟨some row, []⟩
          | none => drawProxy text table arguments now draw [.delete arguments.domain key]
    | _, _ => drawProxy text table arguments now draw []

end GetProxy

section Draw

variable {α : Type} {population : List α} {weights : List Rat} {point : Rat}

theorem choices_mem {chosen : α} (h : choices population weights point = some chosen) :
    chosen ∈ population := by
  unfold choices at h
  dsimp only at h
  split at h
  · cases h
  · exact List.mem_of_getElem? h

theorem accumulate_pos {sum : Rat} (hsum : 0 < sum) (hweights : ∀ weight ∈ weights, 0 < weight) :
    0 < (accumulate sum weights).getLastD sum := by
  induction weights generalizing sum with
  | nil => exact hsum
  | cons weight weights ih =>
      rw [List.forall_mem_cons] at hweights
      rw [accumulate, List.getLastD_cons]
      exact ih (add_pos hsum hweights.1) hweights.2

theorem choices_isSome (hlength : weights.length = population.length) (hnonempty : population ≠ [])
    (hweights : ∀ weight ∈ weights, 0 < weight) :
    ∃ chosen, choices population weights point = some chosen := by
  cases weights with
  | nil => exact absurd (List.length_eq_zero_iff.mp hlength.symm) hnonempty
  | cons weight weights =>
      rw [List.forall_mem_cons] at hweights
      have htotal : 0 < (accumulate 0 (weight :: weights)).getLastD 0 := by
        rw [accumulate, List.getLastD_cons, Rat.zero_add]
        exact accumulate_pos hweights.1 hweights.2
      have hindex : (((accumulate 0 (weight :: weights)).take (population.length - 1)).takeWhile
          (· ≤ point * (accumulate 0 (weight :: weights)).getLastD 0)).length <
            population.length := by
        have hle := (List.takeWhile_sublist
          (· ≤ point * (accumulate 0 (weight :: weights)).getLastD 0)
          (l := (accumulate 0 (weight :: weights)).take (population.length - 1))).length_le
        rw [List.length_take] at hle
        have hpos := List.length_pos_iff.mpr hnonempty
        omega
      unfold choices
      dsimp only
      rw [if_neg (Rat.not_le.mpr htotal), List.getElem?_eq_getElem hindex]
      exact ⟨_, rfl⟩

end Draw

section GetProxy

variable {text : TextMethods} {table : ProxyTable} {lookups : Lookups} {arguments : Arguments}
  {now : Moment} {draw : Draw} {proxy : Proxy} {writes : List StickyWrite}

structure Fits (text : TextMethods) (arguments : Arguments) (proxy : Proxy) : Prop where
  pool : ∀ pool ∈ arguments.effectivePool, proxy.poolId = pool
  country : ∀ country ∈ arguments.country,
    proxy.country = some (Arguments.countryCode text country)
  city : ∀ city ∈ arguments.city, proxy.city = some city
  proxyType : ∀ proxyType ∈ arguments.proxyType, proxy.proxyType = proxyType

structure Eligible (text : TextMethods) (arguments : Arguments) (now : Moment) (proxy : Proxy) :
    Prop where
  active : proxy.isActive = true
  rested : proxy.isOnCooldown now = false
  notExcluded : proxy.id ∉ arguments.excludeIds
  fits : Fits text arguments proxy

structure SelectionContract (text : TextMethods) (table : ProxyTable) (lookups : Lookups)
    (arguments : Arguments) (now : Moment) (answer : Option Proxy) : Prop where
  chosen : ∀ proxy, answer = some proxy → proxy ∈ table.rows ∧ Eligible text arguments now proxy
  refused : answer = none ↔
    lookups.isCircuitOpen = true ∨ ∀ proxy ∈ table.rows, ¬ Eligible text arguments now proxy

theorem filters_iff : arguments.filters text proxy = true ↔
    Fits text arguments proxy ∧ proxy.isActive = true := by
  simp only [Arguments.filters, Bool.and_eq_true, Option.all_eq_true, decide_eq_true_eq]
  constructor
  · rintro ⟨⟨⟨⟨hpool, hactive⟩, hcountry⟩, hcity⟩, htype⟩
    exact ⟨⟨hpool, hcountry, hcity, htype⟩, hactive⟩
  · rintro ⟨⟨hpool, hcountry, hcity, htype⟩, hactive⟩
    exact ⟨⟨⟨⟨hpool, hactive⟩, hcountry⟩, hcity⟩, htype⟩

theorem mem_eligible : proxy ∈ eligible text table arguments now draw ↔
    proxy ∈ table.rows ∧ Eligible text arguments now proxy := by
  simp only [eligible, List.mem_filter, List.mem_mergeSort, filters_iff, Bool.and_eq_true,
    Bool.not_eq_true', decide_eq_true_eq]
  constructor
  · rintro ⟨⟨hrow, hfits, hactive⟩, hrested, hexcluded⟩
    exact ⟨hrow, hactive, hrested, hexcluded, hfits⟩
  · rintro ⟨hrow, hactive, hrested, hexcluded, hfits⟩
    exact ⟨⟨hrow, hfits, hactive⟩, hrested, hexcluded⟩

theorem Proxy.weight_pos (proxy : Proxy) : 0 < proxy.weight := by
  have hfloor : (0 : Rat) < weightFloor := by decide +kernel
  unfold Proxy.weight
  split
  · rename_i habove
    exact lt_trans hfloor habove
  · exact hfloor

theorem drawProxy_some (h : (drawProxy text table arguments now draw writes).proxy = some proxy) :
    proxy ∈ table.rows ∧ Eligible text arguments now proxy := by
  apply mem_eligible.mp
  unfold drawProxy at h
  dsimp only at h
  split at h
  · cases h
  · split at h
    · cases h
    · rename_i selected hchoices
      cases h
      exact choices_mem hchoices

theorem drawProxy_none : (drawProxy text table arguments now draw writes).proxy = none ↔
    ∀ proxy ∈ table.rows, ¬ Eligible text arguments now proxy := by
  have hempty : eligible text table arguments now draw = [] ↔
      ∀ proxy ∈ table.rows, ¬ Eligible text arguments now proxy := by
    rw [List.eq_nil_iff_forall_not_mem]
    exact ⟨fun h proxy hrow heligible => h proxy (mem_eligible.mpr ⟨hrow, heligible⟩),
      fun h proxy hmem => h proxy (mem_eligible.mp hmem).1 (mem_eligible.mp hmem).2⟩
  rw [← hempty]
  unfold drawProxy
  dsimp only
  split
  · rename_i hnil
    exact iff_of_true rfl hnil
  · rename_i hnonempty
    have hchosen : ∃ chosen, choices (eligible text table arguments now draw)
        ((eligible text table arguments now draw).map Proxy.weight) draw.point = some chosen := by
      apply choices_isSome (List.length_map _) hnonempty
      intro weight hweight
      obtain ⟨proxy, -, rfl⟩ := List.mem_map.mp hweight
      exact proxy.weight_pos
    obtain ⟨chosen, hchosen⟩ := hchosen
    rw [hchosen]
    exact iff_of_false (fun h => by cases h) hnonempty

/-- The query and the draw keep the promise by themselves. -/
theorem drawProxy_contract (hclosed : lookups.isCircuitOpen = false) :
    SelectionContract text table lookups arguments now
      (drawProxy text table arguments now draw writes).proxy where
  chosen _ h := drawProxy_some h
  refused := by
    rw [drawProxy_none, hclosed]
    simp

/-- The row a sticky session is pinned to, where the fast path hands it out. -/
structure Pinned (table : ProxyTable) (lookups : Lookups) (arguments : Arguments) (now : Moment)
    (proxy : Proxy) : Prop where
  key : arguments.stickyKey ≠ none
  found : ∃ id, lookups.getSticky = some id ∧ id ∉ arguments.excludeIds ∧
    table.get id = some proxy
  active : proxy.isActive = true
  rested : proxy.isOnCooldown now = false

theorem getProxy_cases (hclosed : lookups.isCircuitOpen = false) :
    (∃ proxy, Pinned table lookups arguments now proxy ∧
        getProxy text table lookups arguments now draw = ⟨some proxy, []⟩) ∨
      ((∀ proxy, ¬ Pinned table lookups arguments now proxy) ∧
        ∃ writes, getProxy text table lookups arguments now draw =
          drawProxy text table arguments now draw writes) := by
  unfold getProxy
  rw [hclosed, if_neg Bool.false_ne_true]
  split
  · rename_i key stickyId hkey hsticky
    split
    · rename_i hexcluded
      refine .inr ⟨?_, _, rfl⟩
      rintro proxy ⟨-, ⟨id, hid, hnotExcluded, -⟩, -, -⟩
      rw [hsticky] at hid
      cases hid
      exact hnotExcluded hexcluded
    · rename_i hexcluded
      split
      · rename_i row hrow
        obtain ⟨hget, husable⟩ := Option.filter_eq_some_iff.mp hrow
        simp only [Bool.and_eq_true, Bool.not_eq_true'] at husable
        refine .inl ⟨row, ⟨?_, ⟨stickyId, hsticky, hexcluded, hget⟩, husable.1, husable.2⟩, rfl⟩
        rw [hkey]
        exact Option.some_ne_none key
      · rename_i hnone
        refine .inr ⟨?_, _, rfl⟩
        rintro proxy ⟨-, ⟨id, hid, -, hget⟩, hactive, hrested⟩
        rw [hsticky] at hid
        cases hid
        rw [hget, Option.filter_eq_none_iff] at hnone
        exact hnone proxy rfl (by rw [hactive, hrested]; rfl)
  · rename_i hunpinned
    refine .inr ⟨?_, _, rfl⟩
    rintro proxy ⟨hkey, ⟨id, hid, -, -⟩, -, -⟩
    obtain ⟨key, hkey⟩ := Option.ne_none_iff_exists'.mp hkey
    exact hunpinned key id hkey hid

/-- The answer keeps the promise exactly when the breaker is open or a pinned row
that is handed out fits the call. -/
theorem getProxy_contract_iff :
    SelectionContract text table lookups arguments now
        (getProxy text table lookups arguments now draw).proxy ↔
      lookups.isCircuitOpen = true ∨
        ∀ proxy, Pinned table lookups arguments now proxy → Fits text arguments proxy := by
  cases hopen : lookups.isCircuitOpen with
  | true =>
      rw [getProxy, hopen]
      refine iff_of_true ⟨fun _ h => absurd h.symm (Option.some_ne_none _), ?_⟩ (.inl rfl)
      exact iff_of_true rfl (.inl hopen)
  | false =>
      rcases getProxy_cases hopen with ⟨pinned, hpinned, hanswer⟩ | ⟨hunpinned, writes, hanswer⟩
      · obtain ⟨id, hlookup, hexcluded, hget⟩ := hpinned.found
        rw [hanswer]
        constructor
        · intro hcontract
          right
          intro proxy hproxy
          obtain ⟨other, hother, -, hrow⟩ := hproxy.found
          rw [hlookup] at hother
          cases hother
          rw [hget] at hrow
          cases hrow
          exact (hcontract.chosen pinned rfl).2.fits
        · rintro (habsurd | hfits)
          · cases habsurd
          · obtain ⟨hrow, hid⟩ := ProxyTable.get_mem hget
            have heligible : Eligible text arguments now pinned :=
              ⟨hpinned.active, hpinned.rested, hid ▸ hexcluded, hfits pinned hpinned⟩
            refine ⟨fun proxy h => ?_, ?_⟩
            · cases h
              exact ⟨hrow, heligible⟩
            · rw [hopen]
              refine iff_of_false (fun h => by cases h) ?_
              rintro (habsurd | hnone)
              · cases habsurd
              · exact hnone pinned hrow heligible
      · rw [hanswer]
        exact iff_of_true (drawProxy_contract hopen)
          (.inr fun proxy h => absurd h (hunpinned proxy))

end GetProxy

/-! A session pinned to a residential proxy, and a call that asks for a datacenter
one. -/

def pinnedTable : ProxyTable where
  rows := [{ id := 1, poolId := 7, url := "http://proxy.example:8080", proxyType := .residential }]
  idUnique := by decide
  keyUnique := by decide

def datacenterArguments : Arguments where
  domain := "example.com"
  stickyKey := some "job-1"
  proxyType := some .datacenter

theorem pinned_type_ignored :
    ¬ ∀ table lookups arguments now draw, SelectionContract asciiText table lookups arguments now
      (getProxy asciiText table lookups arguments now draw).proxy := by
  intro h
  have hcontract := h pinnedTable ⟨some none, some (some 1)⟩ datacenterArguments 0 ⟨id, 0⟩
  have htype := (hcontract.chosen _ rfl).2.fits.proxyType .datacenter rfl
  cases htype

end CrawlerApi.Proxies
