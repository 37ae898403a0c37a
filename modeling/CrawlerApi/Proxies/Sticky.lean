import CrawlerApi.Proxies.Selection
import Mathlib.Algebra.Order.Field.Rat
import Mathlib.Algebra.Order.Field.Basic
import Mathlib.Data.List.TakeWhile

/-!
# Sticky sessions over Redis

`_set_sticky` writes the text of an id, and a client that does not decode answers with
its bytes, which `uuid.UUID` refuses.  `_get_sticky` swallows the refusal, so every call
goes to the draw.
-/

namespace CrawlerApi.Proxies

open Keys

inductive RedisValue where
  | str (text : String)
  | bytes (value : ByteArray)

/-- `if raw`. -/
def RedisValue.truthy : RedisValue → Bool
  | .str text => text ≠ ""
  | .bytes value => value.size ≠ 0

def uuidOfText (text : String) : Option Uuid :=
  if text ≠ "" ∧ text.toList.all Char.isDigit then some (Nat.ofDigitChars 10 text.toList 0)
  else none

/-- `UUID(raw)`; it takes a `str` only, and raises on bytes. -/
def RedisValue.uuid : RedisValue → Option Uuid
  | .str text => uuidOfText text
  | .bytes _ => none

structure RedisClient where
  decodeResponses : Bool

/-- The client of the worker and of the API. -/
def redisClient : RedisClient := ⟨false⟩

structure StickyEntry where
  value : String
  expiresAt : Moment

abbrev StickyKeys := String → Option StickyEntry

def stickyName (domain stickyKey : String) : String := "sticky:" ++ domain ++ ":" ++ stickyKey

/-- `GET`; an entry is gone once its time is up. -/
def RedisClient.get (client : RedisClient) (keys : StickyKeys) (now : Moment) (name : String) :
    Option RedisValue :=
  ((keys name).filter fun entry => now < entry.expiresAt).map fun entry =>
    if client.decodeResponses then .str entry.value else .bytes entry.value.toUTF8

def secondUs : Moment := 1000000

def StickyKeys.apply (keys : StickyKeys) (now : Moment) : StickyWrite → StickyKeys
  | .delete domain stickyKey => fun other =>
      if other = stickyName domain stickyKey then none else keys other
  | .set domain stickyKey proxyId ttl => fun other =>
      if other = stickyName domain stickyKey then
        some ⟨toString proxyId, now + ttl * secondUs⟩
      else keys other

/-- The lookup of `_get_sticky`, `none` where it raises. -/
def RedisClient.lookupSticky (client : RedisClient) (keys : StickyKeys) (now : Moment)
    (name : String) : Option (Option Uuid) :=
  match client.get keys now name with
  | none => some none
  | some raw => if raw.truthy then raw.uuid.map some else some none

/-- A call of `get_proxy`: its arguments, what the table and the breaker show it, and when. -/
structure StickyCall where
  table : ProxyTable
  breaker : Option (Option String)
  arguments : Arguments
  now : Moment

namespace StickyCall

def name (call : StickyCall) : Option String :=
  call.arguments.stickyKey.map (stickyName call.arguments.domain)

section Serve

variable (client : RedisClient) (text : TextMethods) (keys : StickyKeys) (call : StickyCall)
  (draw : Draw)

def lookups : Lookups where
  state := call.breaker
  sticky := match call.name with
    | some name => client.lookupSticky keys call.now name
    | none => some none

def select : Selection :=
  getProxy text call.table (call.lookups client keys) call.arguments call.now draw

/-- What the call leaves of the sticky keys. -/
def leaves : StickyKeys :=
  (call.select client text keys draw).writes.foldl (·.apply call.now) keys

end Serve

end StickyCall

def keysAfter (client : RedisClient) (text : TextMethods) (keys : StickyKeys) :
    List (StickyCall × Draw) → StickyKeys
  | [] => keys
  | (call, draw) :: calls =>
      keysAfter client text (call.leaves client text keys draw) calls

/-- `random()` is at least 0 and below 1. -/
def Draw.InRange (draw : Draw) : Prop := 0 ≤ draw.point ∧ draw.point < 1

/-- A call pins the row for its domain and key, calls on other keys follow, and then one on
the same key within the time, for which the row is fit. -/
structure PinnedThenAsked (client : RedisClient) (text : TextMethods) (keys : StickyKeys)
    (first : StickyCall × Draw) (between : List (StickyCall × Draw)) (second : StickyCall)
    (key : String) (row : Proxy) : Prop where
  pinned : (first.1.select client text keys first.2).writes.getLast? =
    some (.set first.1.arguments.domain key row.id first.1.arguments.proxyStickyTtlS)
  others : ∀ call ∈ between, call.1.name ≠ some (stickyName first.1.arguments.domain key)
  name : second.arguments.domain = first.1.arguments.domain
  key : second.arguments.stickyKey = some key
  within : second.now < first.1.now + first.1.arguments.proxyStickyTtlS * secondUs
  closed : isOpenState (second.breaker.getD none) = false
  present : row ∈ second.table.rows
  eligible : Eligible text second.arguments second.now row

section Choices

variable {α : Type} {population : List α} {weights : List Rat} {sum weight : Rat}

theorem length_accumulate : (accumulate sum weights).length = weights.length := by
  induction weights generalizing sum with
  | nil => rfl
  | cons weight weights ih => rw [accumulate, List.length_cons, List.length_cons, ih]

theorem lt_getLastD_accumulate (hweights : ∀ weight ∈ weights, 0 < weight)
    (hnonempty : weights ≠ []) : sum < (accumulate sum weights).getLastD sum := by
  induction weights generalizing sum with
  | nil => exact absurd rfl hnonempty
  | cons weight weights ih =>
      rw [List.forall_mem_cons] at hweights
      have hfirst : sum < sum + weight := lt_add_of_pos_right sum hweights.1
      rw [accumulate, List.getLastD_cons]
      by_cases hrest : weights = []
      · rw [hrest]
        exact hfirst
      · exact lt_trans hfirst (ih hweights.2 hrest)

theorem accumulate_dropLast_lt (hweights : ∀ weight ∈ weights, 0 < weight) :
    ∀ part ∈ (accumulate sum weights).dropLast, part < (accumulate sum weights).getLastD sum := by
  induction weights generalizing sum with
  | nil => exact fun part h => absurd h List.not_mem_nil
  | cons weight weights ih =>
      rw [List.forall_mem_cons] at hweights
      intro part hpart
      rw [accumulate] at hpart ⊢
      rw [List.getLastD_cons]
      by_cases hrest : weights = []
      · rw [hrest] at hpart
        exact absurd hpart List.not_mem_nil
      · have hnonempty : accumulate (sum + weight) weights ≠ [] := by
          rw [← List.length_pos_iff, length_accumulate]
          exact List.length_pos_iff.mpr hrest
        rw [List.dropLast_cons_of_ne_nil hnonempty] at hpart
        rcases List.mem_cons.mp hpart with rfl | htail
        · exact lt_getLastD_accumulate hweights.2 hrest
        · exact ih hweights.2 part htail

theorem exists_point {parts : List Rat} {total : Rat} (htotal : 0 < total)
    (h : ∀ part ∈ parts, part < total) :
    ∃ point, 0 ≤ point ∧ point < 1 ∧ ∀ part ∈ parts, part ≤ point * total := by
  induction parts with
  | nil =>
      refine ⟨0, Rat.le_refl, zero_lt_one, ?_⟩
      exact fun part h => absurd h List.not_mem_nil
  | cons part parts ih =>
      rw [List.forall_mem_cons] at h
      obtain ⟨point, hlow, hhigh, hparts⟩ := ih h.2
      refine ⟨max point (part / total), le_max_of_le_left hlow, ?_, ?_⟩
      · exact max_lt hhigh ((div_lt_one htotal).mpr h.1)
      · rw [List.forall_mem_cons]
        constructor
        · rw [← div_le_iff₀ htotal]
          exact le_max_right _ _
        · intro other hother
          have hmore : point * total ≤ max point (part / total) * total :=
            mul_le_mul_of_nonneg_right (le_max_left _ _) (le_of_lt htotal)
          exact le_trans (hparts other hother) hmore

theorem total_pos (hweights : ∀ weight ∈ weights, 0 < weight) (hnonempty : weights ≠ []) :
    0 < (accumulate 0 weights).getLastD 0 :=
  lt_getLastD_accumulate hweights hnonempty

theorem choices_head (hlength : weights.length = population.length)
    (hweights : ∀ weight ∈ weights, 0 < weight) (hnonempty : weights ≠ []) :
    choices population weights 0 = population.head? := by
  unfold choices
  dsimp only
  rw [if_neg (not_le.mpr (total_pos hweights hnonempty)), zero_mul]
  cases weights with
  | nil => exact absurd rfl hnonempty
  | cons weight weights =>
      have hfirst : ¬ 0 + weight ≤ 0 := by
        rw [zero_add]
        exact not_le.mpr (hweights weight (List.mem_cons_self ..))
      have hnone : ((accumulate 0 (weight :: weights)).take (population.length - 1)).takeWhile
          (· ≤ 0) = [] := by
        rw [accumulate]
        cases population.length - 1 with
        | zero => rfl
        | succ count => exact List.takeWhile_cons_of_neg (by simpa using hfirst)
      rw [hnone, List.length_nil]
      exact List.head?_eq_getElem?.symm

theorem choices_last (hlength : weights.length = population.length)
    (hweights : ∀ weight ∈ weights, 0 < weight) (hnonempty : weights ≠ []) :
    ∃ point, 0 ≤ point ∧ point < 1 ∧ choices population weights point = population.getLast? := by
  have htotal := total_pos hweights hnonempty
  obtain ⟨point, hlow, hhigh, hparts⟩ := exists_point htotal (accumulate_dropLast_lt hweights)
  refine ⟨point, hlow, hhigh, ?_⟩
  have htake : (accumulate 0 weights).take (population.length - 1) =
      (accumulate 0 weights).dropLast := by
    rw [List.dropLast_eq_take, length_accumulate, hlength]
  have hall : (accumulate 0 weights).dropLast.takeWhile
      (· ≤ point * (accumulate 0 weights).getLastD 0) = (accumulate 0 weights).dropLast := by
    apply List.takeWhile_eq_self_iff.mpr
    intro part hpart
    exact decide_eq_true (hparts part hpart)
  unfold choices
  dsimp only
  rw [if_neg (not_le.mpr htotal), htake, hall, List.length_dropLast, length_accumulate, hlength,
    List.getLast?_eq_getElem?]

theorem accumulate_append (before after : List Rat) :
    accumulate sum (before ++ after) =
      accumulate sum before ++ accumulate ((accumulate sum before).getLastD sum) after := by
  induction before generalizing sum with
  | nil => rfl
  | cons weight before ih =>
      rw [List.cons_append, accumulate, accumulate, ih, List.getLastD_cons, List.cons_append]

theorem getLastD_accumulate_append (before after : List Rat) :
    (accumulate sum (before ++ after)).getLastD sum =
      (accumulate ((accumulate sum before).getLastD sum) after).getLastD
        ((accumulate sum before).getLastD sum) := by
  induction before generalizing sum with
  | nil => rfl
  | cons weight before ih =>
      rw [List.cons_append, accumulate, accumulate, List.getLastD_cons, List.getLastD_cons, ih]

theorem le_getLastD_accumulate (hweights : ∀ weight ∈ weights, 0 < weight) :
    (∀ part ∈ accumulate sum weights, part ≤ (accumulate sum weights).getLastD sum) ∧
      sum ≤ (accumulate sum weights).getLastD sum := by
  induction weights generalizing sum with
  | nil => exact ⟨fun part h => absurd h List.not_mem_nil, le_rfl⟩
  | cons weight weights ih =>
      rw [List.forall_mem_cons] at hweights
      have hrest := @ih (sum + weight) hweights.2
      rw [accumulate, List.getLastD_cons]
      refine ⟨List.forall_mem_cons.mpr ⟨hrest.2, hrest.1⟩, le_trans ?_ hrest.2⟩
      exact le_add_of_nonneg_right (le_of_lt hweights.1)

theorem choices_any {before after : List α} {chosen : α} {weight : α → Rat}
    (hweights : ∀ entry ∈ before ++ chosen :: after, 0 < weight entry) :
    ∃ point, 0 ≤ point ∧ point < 1 ∧
      choices (before ++ chosen :: after) ((before ++ chosen :: after).map weight) point =
        some chosen := by
  have hbefore : ∀ part ∈ before.map weight, 0 < part := List.forall_mem_map.mpr
    fun entry hentry => hweights entry (List.mem_append_left _ hentry)
  have hrest : ∀ part ∈ weight chosen :: after.map weight, 0 < part :=
    List.forall_mem_map (f := weight).mpr
      fun entry hentry => hweights entry (List.mem_append_right _ hentry)
  obtain ⟨hparts, hstart⟩ := @le_getLastD_accumulate _ 0 hbefore
  have hend := @lt_getLastD_accumulate _ ((accumulate 0 (before.map weight)).getLastD 0) hrest
    (List.cons_ne_nil _ _)
  have htotal := @getLastD_accumulate_append 0 (before.map weight)
    (weight chosen :: after.map weight)
  have hsums := @accumulate_append 0 (before.map weight) (weight chosen :: after.map weight)
  have hlength : (accumulate 0 (before.map weight)).length = before.length := by
    rw [length_accumulate, List.length_map]
  generalize accumulate 0 (before.map weight) = sums at *
  generalize sums.getLastD 0 = start at *
  rw [← htotal] at hend
  have hpositive := lt_of_le_of_lt hstart hend
  refine ⟨start /
      (accumulate 0 (before.map weight ++ weight chosen :: after.map weight)).getLastD 0,
    div_nonneg hstart hpositive.le, (div_lt_one hpositive).mpr hend, ?_⟩
  unfold choices
  dsimp only
  rw [List.map_append, List.map_cons, if_neg (not_le.mpr hpositive),
    div_mul_cancel₀ _ hpositive.ne', hsums, List.length_append, List.length_cons,
    Nat.add_succ_sub_one, ← hlength, List.take_length_add_append,
    List.takeWhile_append_of_pos (fun part hpart => decide_eq_true (hparts part hpart))]
  have hstop : ((accumulate start (weight chosen :: after.map weight)).take after.length).takeWhile
      (· ≤ start) = [] := by
    rw [accumulate]
    cases after.length with
    | zero => rfl
    | succ count =>
        apply List.takeWhile_cons_of_neg
        rw [decide_eq_true_eq, not_le]
        exact lt_add_of_pos_right _ (hrest _ (List.mem_cons_self ..))
  rw [hstop, List.append_nil, hlength, List.getElem?_append_right (Nat.le_refl _), Nat.sub_self]
  rfl

end Choices

section Drawn

variable {text : TextMethods} {table : ProxyTable} {arguments : Arguments} {now : Moment}
  {row : Proxy}

theorem drawProxy_reaches (hrow : row ∈ table.rows) (heligible : Eligible text arguments now row)
    (writes : List StickyWrite) :
    ∃ draw, Draw.InRange draw ∧
      (drawProxy text table arguments now draw writes).proxy = some row := by
  have hmem := (@mem_eligible _ _ _ _ ⟨fun _ => 0, 0⟩ row).mpr ⟨hrow, heligible⟩
  obtain ⟨before, after, hsplit⟩ := List.append_of_mem hmem
  obtain ⟨point, hlow, hhigh, hchosen⟩ :=
    @choices_any _ before after row Proxy.weight fun other _ => other.weight_pos
  refine ⟨⟨fun _ => 0, point⟩, ⟨hlow, hhigh⟩, ?_⟩
  have hsame : eligible text table arguments now ⟨fun _ => 0, point⟩ = before ++ row :: after :=
    hsplit
  unfold drawProxy
  dsimp only
  rw [hsame, hchosen]
  exact congrArg Selection.proxy (if_neg (List.append_ne_nil_of_right_ne_nil _
    (List.cons_ne_nil _ _)))

/-- Whatever the draw, the row comes out exactly when no other is fit. -/
theorem drawProxy_always_iff (hrow : row ∈ table.rows)
    (heligible : Eligible text arguments now row) :
    (∀ draw, Draw.InRange draw → (drawProxy text table arguments now draw []).proxy = some row) ↔
      ∀ other ∈ table.rows, Eligible text arguments now other → other = row := by
  constructor
  · intro h other hother hfit
    let rank : Uuid → Nat := fun _ => 0
    have heligible_eq (point : Rat) : eligible text table arguments now ⟨rank, point⟩ =
        eligible text table arguments now ⟨rank, 0⟩ := rfl
    generalize hlist : eligible text table arguments now ⟨rank, 0⟩ = fit at heligible_eq
    have hmem : other ∈ fit := by
      rw [← hlist]
      exact mem_eligible.mpr ⟨hother, hfit⟩
    have hnodup : fit.Nodup := by
      rw [← hlist]
      apply List.Nodup.filter
      apply (List.mergeSort_perm _ _).nodup_iff.mpr
      exact (List.Nodup.of_map _ table.idUnique).filter _
    have hweights : ∀ weight ∈ fit.map Proxy.weight, 0 < weight := by
      intro weight hweight
      obtain ⟨proxy, -, rfl⟩ := List.mem_map.mp hweight
      exact proxy.weight_pos
    have hnonempty : fit ≠ [] := List.ne_nil_of_mem hmem
    have hdrawn (point : Rat) (hpoint : 0 ≤ point ∧ point < 1) :
        choices fit (fit.map Proxy.weight) point = some row := by
      have hanswer := h ⟨rank, point⟩ hpoint
      unfold drawProxy at hanswer
      rw [heligible_eq, if_neg hnonempty] at hanswer
      split at hanswer
      · cases hanswer
      · rename_i selected hselected
        cases hanswer
        exact hselected
    have hweighted : fit.map Proxy.weight ≠ [] := fun hnil =>
      hnonempty (List.map_eq_nil_iff.mp hnil)
    have hhead : fit.head? = some row := by
      rw [← choices_head (List.length_map _) hweights hweighted]
      exact hdrawn 0 ⟨le_refl 0, zero_lt_one⟩
    obtain ⟨point, hlow, hhigh, hpoint⟩ := choices_last (List.length_map _) hweights hweighted
    have hlast : fit.getLast? = some row := by
      rw [← hpoint]
      exact hdrawn point ⟨hlow, hhigh⟩
    cases fit with
    | nil => cases hmem
    | cons first rest =>
        cases hhead
        cases rest with
        | nil => exact List.mem_singleton.mp hmem
        | cons second others =>
            rw [List.getLast?_cons_cons] at hlast
            exact absurd (List.mem_of_getLast? hlast) (List.nodup_cons.mp hnodup).1
  · intro honly draw _
    cases hanswer : (drawProxy text table arguments now draw []).proxy with
    | none => exact absurd heligible (drawProxy_none.mp hanswer row hrow)
    | some other =>
        obtain ⟨hother, hfit⟩ := drawProxy_some hanswer
        rw [honly other hother hfit]

theorem drawProxy_pins {draw : Draw} {writes : List StickyWrite} {key : String}
    (hkey : arguments.stickyKey = some key)
    (h : (drawProxy text table arguments now draw writes).proxy = some row) :
    (drawProxy text table arguments now draw writes).writes.getLast? =
      some (.set arguments.domain key row.id arguments.proxyStickyTtlS) := by
  unfold drawProxy at h ⊢
  dsimp only at h ⊢
  split at h
  · cases h
  · rename_i hnonempty
    rw [if_neg hnonempty]
    split at h
    · cases h
    · cases h
      rw [hkey]
      exact List.getLast?_concat

end Drawn

section Session

variable {text : TextMethods} {keys : StickyKeys} {first : StickyCall × Draw}
  {between : List (StickyCall × Draw)} {second : StickyCall} {key : String} {row : Proxy}

theorem lookupSticky_undecoded (keys : StickyKeys) (now : Moment) (name : String) :
    (redisClient.lookupSticky keys now name).join = none := by
  unfold RedisClient.lookupSticky RedisClient.get
  cases (keys name).filter fun entry => now < entry.expiresAt with
  | none => rfl
  | some entry =>
      change (if (RedisValue.bytes entry.value.toUTF8).truthy then none else some none).join = none
      split
      · rfl
      · rfl

theorem getSticky_undecoded (call : StickyCall) (keys : StickyKeys) :
    (call.lookups redisClient keys).getSticky = none := by
  unfold StickyCall.lookups Lookups.getSticky
  dsimp only
  split
  · exact lookupSticky_undecoded ..
  · rfl

theorem isCircuitOpen_lookups (client : RedisClient) (keys : StickyKeys) (call : StickyCall) :
    (call.lookups client keys).isCircuitOpen = isOpenState (call.breaker.getD none) := by
  unfold Lookups.isCircuitOpen StickyCall.lookups
  cases call.breaker with
  | none => rfl
  | some value => rfl

theorem select_undecoded {draw : Draw} (hclosed : isOpenState (second.breaker.getD none) = false) :
    second.select redisClient text keys draw =
      drawProxy text second.table second.arguments second.now draw [] := by
  unfold StickyCall.select getProxy
  rw [isCircuitOpen_lookups, hclosed, if_neg Bool.false_ne_true, getSticky_undecoded]
  split
  · rename_i hnone
    cases hnone
  · rfl

/-- Whatever the draw, a session comes back to its proxy exactly when no other is fit. -/
theorem sticky_returns_iff (text : TextMethods) (keys : StickyKeys) (first : StickyCall × Draw)
    (between : List (StickyCall × Draw)) (second : StickyCall) (key : String) (row : Proxy)
    (h : PinnedThenAsked redisClient text keys first between second key row) :
    (∀ draw, Draw.InRange draw → (second.select redisClient text
        (keysAfter redisClient text keys (first :: between)) draw).proxy = some row) ↔
      ∀ other ∈ second.table.rows, Eligible text second.arguments second.now other →
        other = row := by
  rw [← drawProxy_always_iff h.present h.eligible]
  apply forall_congr'
  intro draw
  rw [select_undecoded h.closed]

end Session

/-! A client that decodes finds the pin: what is lost is lost in the client's setting. -/

section Decoded

variable {client : RedisClient} {text : TextMethods} {keys : StickyKeys}
  {first : StickyCall × Draw} {between : List (StickyCall × Draw)} {call second : StickyCall}
  {key other : String} {row : Proxy} {draw : Draw} {now : Moment} {write : StickyWrite}

def StickyWrite.name : StickyWrite → String
  | .delete domain stickyKey | .set domain stickyKey _ _ => stickyName domain stickyKey

theorem StickyKeys.apply_of_ne (h : other ≠ write.name) :
    keys.apply now write other = keys other := by
  cases write with
  | delete domain stickyKey => exact if_neg h
  | set domain stickyKey proxyId ttl => exact if_neg h

theorem drawProxy_writes {table : ProxyTable} {arguments : Arguments} {writes : List StickyWrite}
    (h : write ∈ (drawProxy text table arguments now draw writes).writes) :
    write ∈ writes ∨ ∃ key, arguments.stickyKey = some key ∧
      write.name = stickyName arguments.domain key := by
  unfold drawProxy at h
  dsimp only at h
  split at h
  · exact .inl h
  · split at h
    · exact .inl h
    · rcases List.mem_append.mp h with hold | hpin
      · exact .inl hold
      · split at hpin
        · cases hpin
        · rename_i key hkey
          rw [List.mem_singleton.mp hpin]
          exact .inr ⟨key, hkey, rfl⟩

theorem select_writes (h : write ∈ (call.select client text keys draw).writes) :
    call.name = some write.name := by
  have hdrawn {writes : List StickyWrite}
      (hold : ∀ other ∈ writes, call.name = some other.name)
      (hwrite : write ∈ (drawProxy text call.table call.arguments call.now draw writes).writes) :
      call.name = some write.name := by
    rcases drawProxy_writes hwrite with hmem | ⟨key, hkey, hname⟩
    · exact hold write hmem
    · rw [StickyCall.name, hkey, hname]
      rfl
  unfold StickyCall.select getProxy at h
  split at h
  · cases h
  · split at h
    · rename_i key stickyId hkey _
      split at h
      · exact hdrawn (fun other hother => absurd hother List.not_mem_nil) h
      · split at h
        · cases h
        · refine hdrawn (fun other hother => ?_) h
          rw [List.mem_singleton.mp hother, StickyCall.name, hkey]
          rfl
    · exact hdrawn (fun other hother => absurd hother List.not_mem_nil) h

theorem leaves_of_ne (h : call.name ≠ some other) :
    call.leaves client text keys draw other = keys other := by
  have hwrites : ∀ write ∈ (call.select client text keys draw).writes, other ≠ write.name := by
    intro write hwrite hname
    exact h (by rw [select_writes hwrite, hname])
  unfold StickyCall.leaves
  generalize (call.select client text keys draw).writes = writes at hwrites
  induction writes generalizing keys with
  | nil => rfl
  | cons write writes ih =>
      rw [List.forall_mem_cons] at hwrites
      rw [List.foldl_cons, ih hwrites.2, StickyKeys.apply_of_ne hwrites.1]

theorem keysAfter_of_ne (h : ∀ call ∈ between, call.1.name ≠ some other) :
    keysAfter client text keys between other = keys other := by
  induction between generalizing keys with
  | nil => rfl
  | cons call between ih =>
      rw [List.forall_mem_cons] at h
      rw [keysAfter, ih h.2, leaves_of_ne h.1]

theorem PinnedThenAsked.entry (h : PinnedThenAsked client text keys first between second key row) :
    keysAfter client text keys (first :: between) (stickyName first.1.arguments.domain key) =
      some ⟨toString row.id, first.1.now + first.1.arguments.proxyStickyTtlS * secondUs⟩ := by
  obtain ⟨writes, hwrites⟩ := List.getLast?_eq_some_iff.mp h.pinned
  rw [keysAfter, keysAfter_of_ne h.others, StickyCall.leaves, hwrites, List.foldl_append]
  exact if_pos rfl

theorem uuidOfText_toString (id : Uuid) : uuidOfText (toString id) = some id := by
  have hdigits : (toString id).toList = Nat.toDigits 10 id := Nat.toList_repr
  have hall : (Nat.toDigits 10 id).all Char.isDigit = true := by
    rw [List.all_eq_true]
    exact fun char hchar => Nat.isDigit_of_mem_toDigits (by decide) (by decide) hchar
  unfold uuidOfText
  rw [hdigits, if_pos ⟨Nat.repr_ne_empty, hall⟩, Nat.ofDigitChars_ten_toDigits]

theorem lookupSticky_decoded (hdecodes : client.decodeResponses = true) {name : String} {id : Uuid}
    {expiresAt : Moment} (hentry : keys name = some ⟨toString id, expiresAt⟩)
    (hwithin : now < expiresAt) : client.lookupSticky keys now name = some (some id) := by
  have hnonempty : toString id ≠ "" := Nat.repr_ne_empty
  have hget : client.get keys now name = some (.str (toString id)) := by
    unfold RedisClient.get
    rw [hentry, Option.filter_some, decide_eq_true hwithin, hdecodes]
    rfl
  unfold RedisClient.lookupSticky
  rw [hget]
  change (if decide (toString id ≠ "") then (uuidOfText (toString id)).map some
    else some none) = _
  rw [decide_eq_true hnonempty, uuidOfText_toString]
  rfl

/-- With a client that decodes, a session comes back to its proxy. -/
theorem sticky_returns_decoded (hdecodes : client.decodeResponses = true)
    (h : PinnedThenAsked client text keys first between second key row) :
    second.select client text (keysAfter client text keys (first :: between)) draw =
      ⟨some row, []⟩ := by
  generalize hkeys : keysAfter client text keys (first :: between) = after
  have hentry := h.entry
  rw [hkeys, ← h.name] at hentry
  have hsticky : (second.lookups client after).getSticky = some row.id := by
    unfold Lookups.getSticky StickyCall.lookups StickyCall.name
    rw [h.key]
    dsimp only [Option.map_some]
    rw [lookupSticky_decoded hdecodes hentry h.within]
    rfl
  unfold StickyCall.select getProxy
  rw [isCircuitOpen_lookups, h.closed, if_neg Bool.false_ne_true, h.key, hsticky]
  dsimp only
  rw [if_neg h.eligible.notExcluded, ProxyTable.get_eq_some h.present, Option.filter_some,
    h.eligible.active, h.eligible.rested]
  rfl

end Decoded

/-! A second proxy joins the pool behind the call that pins the first. -/

def stickyRow (id : Uuid) : Proxy where
  id := id
  poolId := 7
  url := "http://proxy.example:" ++ toString id

def soloTable : ProxyTable where
  rows := [stickyRow 1]
  idUnique := by decide
  keyUnique := by decide

def joinedTable : ProxyTable where
  rows := [stickyRow 1, stickyRow 2]
  idUnique := by decide
  keyUnique := by decide

def stickyCall (table : ProxyTable) (now : Moment) : StickyCall where
  table := table
  breaker := some none
  arguments := { domain := "example.com", stickyKey := some "job-1" }
  now := now

def firstDraw : Draw := ⟨fun _ => 0, 0⟩

theorem eligible_stickyRow (table : ProxyTable) (now : Moment) (id : Uuid) :
    Eligible asciiText (stickyCall table now).arguments now (stickyRow id) where
  active := rfl
  rested := rfl
  notExcluded := List.not_mem_nil
  fits := ⟨nofun, nofun, nofun, nofun⟩

theorem stickyCall_pinned {table : ProxyTable} (hrow : stickyRow 1 ∈ table.rows) :
    PinnedThenAsked redisClient asciiText (fun _ => none) (stickyCall soloTable 0, firstDraw) []
      (stickyCall table secondUs) "job-1" (stickyRow 1) where
  pinned := by
    have hclosed : isOpenState ((stickyCall soloTable 0).breaker.getD none) = false := rfl
    have honly : ∀ other ∈ soloTable.rows,
        Eligible asciiText (stickyCall soloTable 0).arguments 0 other → other = stickyRow 1 :=
      fun other hother _ => List.mem_singleton.mp hother
    rw [select_undecoded hclosed]
    apply drawProxy_pins rfl
    exact (drawProxy_always_iff (List.mem_singleton_self _)
      (eligible_stickyRow soloTable 0 1)).mpr honly firstDraw ⟨le_refl 0, zero_lt_one⟩
  others _ h := absurd h List.not_mem_nil
  name := rfl
  key := rfl
  within := by
    show secondUs < 0 + 1800 * secondUs
    decide
  closed := rfl
  present := hrow
  eligible := eligible_stickyRow table secondUs 1

theorem sticky_pin_ignored : ¬ ∀ draw, Draw.InRange draw →
    ((stickyCall joinedTable secondUs).select redisClient asciiText
      (keysAfter redisClient asciiText (fun _ => none) [(stickyCall soloTable 0, firstDraw)])
      draw).proxy = some (stickyRow 1) := by
  intro h
  have hfirst : stickyRow 1 ∈ joinedTable.rows := List.mem_cons_self ..
  have hsecond : stickyRow 2 ∈ joinedTable.rows := List.mem_cons_of_mem _ (List.mem_cons_self ..)
  have hdrawn : ∀ draw, Draw.InRange draw → (drawProxy asciiText joinedTable
      (stickyCall joinedTable secondUs).arguments secondUs draw []).proxy =
        some (stickyRow 1) := by
    intro draw hrange
    have hanswer := h draw hrange
    rw [select_undecoded rfl] at hanswer
    exact hanswer
  have hsame := (drawProxy_always_iff hfirst (eligible_stickyRow joinedTable secondUs 1)).mp hdrawn
    (stickyRow 2) hsecond (eligible_stickyRow joinedTable secondUs 2)
  exact absurd (congrArg Proxy.id hsame) (by decide)

theorem sole_proxy_returned : PinnedThenAsked redisClient asciiText (fun _ => none)
      (stickyCall soloTable 0, firstDraw) [] (stickyCall soloTable secondUs) "job-1"
      (stickyRow 1) ∧
    ∀ draw, Draw.InRange draw → ((stickyCall soloTable secondUs).select redisClient asciiText
      (keysAfter redisClient asciiText (fun _ => none) [(stickyCall soloTable 0, firstDraw)])
      draw).proxy = some (stickyRow 1) := by
  have hrow : stickyRow 1 ∈ soloTable.rows := List.mem_singleton_self _
  refine ⟨stickyCall_pinned hrow, (sticky_returns_iff asciiText (fun _ => none)
    (stickyCall soloTable 0, firstDraw) [] (stickyCall soloTable secondUs) "job-1" (stickyRow 1)
    (stickyCall_pinned hrow)).mpr ?_⟩
  exact fun other hother _ => List.mem_singleton.mp hother

end CrawlerApi.Proxies
