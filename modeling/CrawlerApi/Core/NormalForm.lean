import CrawlerApi.Core.Domains

/-!
# Normalizing twice

`normalize_domain` strips `www.` first and takes the registered domain then.  The result
can begin with `www.` again, and then it is not a fixed point.
-/

namespace CrawlerApi.Domains

/-- `str.isspace`. -/
def isBlank (c : Char) : Bool :=
  (9 ≤ c.toNat && c.toNat ≤ 13) || (28 ≤ c.toNat && c.toNat ≤ 32) ||
    (0x2000 ≤ c.toNat && c.toNat ≤ 0x200A) ||
    [0x85, 0xA0, 0x1680, 0x2028, 0x2029, 0x202F, 0x205F, 0x3000].contains c.toNat

def IsHostText (text : String) : Prop := ∀ c ∈ text.toList, isBlank c = false

def IsLowered (tables : TextTables) (c : Char) : Prop :=
  tables.lower (String.singleton c) = String.singleton c

/-- `str.lower` leaves nothing to lower, adds no white space and drops no text. -/
structure LowersHosts (tables : TextTables) : Prop where
  fixed : ∀ text, (∀ c ∈ text.toList, IsLowered tables c) → tables.lower text = text
  lowered : ∀ text, ∀ c ∈ (tables.lower text).toList, IsLowered tables c
  dot : IsLowered tables '.'
  blank : ∀ text, IsHostText text → IsHostText (tables.lower text)
  nonempty : ∀ text, tables.lower text = "" → text = ""

/-- The registered domain is cut out of the name, with other dots written as `.`, and is its
own registered domain. -/
structure Registers (registeredDomain : String → String) : Prop where
  chars : ∀ name, ∀ c ∈ (registeredDomain name).toList, c = '.' ∨ c ∈ name.toList
  length : ∀ name, (registeredDomain name).toList.length ≤ name.toList.length
  self : ∀ name, IsHostText name → registeredDomain (registeredDomain name) = registeredDomain name

/-- The registered domain, or the name where there is none. -/
def registeredOr (registeredDomain : String → String) (name : String) : String :=
  if registeredDomain name ≠ "" then registeredDomain name else name

/-- The name without its `www.`, in lower case. -/
def stripped (tables : TextTables) (hostname : String) : String :=
  removePrefix "www." (tables.lower hostname)

def BeginsWithWww (name : String) : Prop := "www.".toList <+: name.toList

instance (name : String) : Decidable (BeginsWithWww name) :=
  inferInstanceAs (Decidable (_ <+: _))

section Names

variable {tables : TextTables} {registeredDomain : String → String} {text name hostname : String}
  {c : Char}

theorem normalizeDomain_eq (hostname : String) : normalizeDomain tables registeredDomain hostname =
    registeredOr registeredDomain (stripped tables hostname) := rfl

theorem removePrefix_of_begins (h : BeginsWithWww text) :
    text.toList = "www.".toList ++ (removePrefix "www." text).toList := by
  have hdrop : (removePrefix "www." text).toList = text.toList.drop "www.".toList.length := by
    unfold removePrefix
    rw [if_pos (List.isPrefixOf_iff_prefix.mpr h)]
    exact String.toList_ofList
  obtain ⟨rest, hrest⟩ := h
  rw [hdrop, ← hrest, List.drop_left]

theorem removePrefix_of_not_begins (h : ¬ BeginsWithWww text) : removePrefix "www." text = text :=
  if_neg fun hstart => h (List.isPrefixOf_iff_prefix.mp hstart)

theorem removePrefix_append (text : String) : removePrefix "www." ("www." ++ text) = text := by
  have hbegins : BeginsWithWww ("www." ++ text) := by
    unfold BeginsWithWww
    rw [String.toList_append]
    exact List.prefix_append _ _
  have hsplit := removePrefix_of_begins hbegins
  rw [String.toList_append] at hsplit
  exact String.toList_inj.mp (List.append_cancel_left hsplit).symm

theorem length_removePrefix_lt (h : BeginsWithWww text) :
    (removePrefix "www." text).toList.length < text.toList.length := by
  have hlength := congrArg List.length (removePrefix_of_begins h)
  rw [List.length_append] at hlength
  have hwww : "www.".toList.length = 4 := rfl
  omega

theorem length_registeredOr_le (hregisters : Registers registeredDomain) (name : String) :
    (registeredOr registeredDomain name).toList.length ≤ name.toList.length := by
  unfold registeredOr
  split
  · exact hregisters.length name
  · exact le_rfl

theorem mem_registeredOr (hregisters : Registers registeredDomain)
    (h : c ∈ (registeredOr registeredDomain name).toList) : c = '.' ∨ c ∈ name.toList := by
  unfold registeredOr at h
  split at h
  · exact hregisters.chars name c h
  · exact .inr h

theorem registeredOr_idempotent (hregisters : Registers registeredDomain) (h : IsHostText name) :
    registeredOr registeredDomain (registeredOr registeredDomain name) =
      registeredOr registeredDomain name := by
  by_cases hnone : registeredDomain name = ""
  · have hself : registeredOr registeredDomain name = name := if_neg (not_not.mpr hnone)
    rw [hself, hself]
  · have hself : registeredOr registeredDomain name = registeredDomain name := if_pos hnone
    rw [hself]
    unfold registeredOr
    rw [hregisters.self name h, if_pos hnone]

theorem isHostText_stripped (hlowers : LowersHosts tables) (h : IsHostText hostname) :
    IsHostText (stripped tables hostname) :=
  fun c hmem => hlowers.blank hostname h c (mem_of_mem_removePrefix hmem)

theorem lower_normalizeDomain (hlowers : LowersHosts tables)
    (hregisters : Registers registeredDomain) :
    tables.lower (normalizeDomain tables registeredDomain hostname) =
      normalizeDomain tables registeredDomain hostname := by
  refine hlowers.fixed _ fun c hmem => ?_
  rcases mem_registeredOr hregisters hmem with rfl | hstripped
  · exact hlowers.dot
  · exact hlowers.lowered hostname c (mem_of_mem_removePrefix hstripped)

/-- Normalizing again strips another `www.`, if there is one. -/
theorem normalizeDomain_idempotent_iff (hlowers : LowersHosts tables)
    (hregisters : Registers registeredDomain) (h : IsHostText hostname) :
    normalizeDomain tables registeredDomain (normalizeDomain tables registeredDomain hostname) =
        normalizeDomain tables registeredDomain hostname ↔
      ¬ BeginsWithWww (registeredOr registeredDomain (stripped tables hostname)) := by
  have hagain : stripped tables (normalizeDomain tables registeredDomain hostname) =
      removePrefix "www." (registeredOr registeredDomain (stripped tables hostname)) := by
    unfold stripped
    rw [lower_normalizeDomain hlowers hregisters]
    rfl
  rw [normalizeDomain_eq (normalizeDomain _ _ _), hagain, normalizeDomain_eq hostname]
  by_cases hwww : BeginsWithWww (registeredOr registeredDomain (stripped tables hostname))
  · refine iff_of_false (fun heq => ?_) (not_not.mpr hwww)
    have hlength := (length_registeredOr_le hregisters _).trans_lt (length_removePrefix_lt hwww)
    rw [heq] at hlength
    exact lt_irrefl _ hlength
  · rw [removePrefix_of_not_begins hwww]
    exact iff_of_true (registeredOr_idempotent hregisters (isHostText_stripped hlowers h)) hwww

theorem registeredOr_removePrefix_iff (hregisters : Registers registeredDomain)
    (h : IsHostText name) (hwww : BeginsWithWww name) :
    registeredOr registeredDomain name = registeredOr registeredDomain (removePrefix "www." name) ↔
      registeredDomain name ≠ "" ∧
        registeredDomain name = registeredDomain (removePrefix "www." name) := by
  by_cases hnone : registeredDomain name = ""
  · refine iff_of_false (fun heq => ?_) (fun hboth => hboth.1 hnone)
    have hlength := (length_registeredOr_le hregisters _).trans_lt (length_removePrefix_lt hwww)
    rw [← heq] at hlength
    unfold registeredOr at hlength
    rw [if_neg (not_not.mpr hnone)] at hlength
    exact lt_irrefl _ hlength
  · have hself : registeredOr registeredDomain name = registeredDomain name := if_pos hnone
    rw [hself]
    constructor
    · intro heq
      refine ⟨hnone, ?_⟩
      unfold registeredOr at heq
      split at heq
      · exact heq
      · rename_i hrest
        have hrest := not_not.mp hrest
        -- the rest of the name would be a registered domain without being one
        rw [← heq, hregisters.self name h] at hrest
        exact absurd hrest hnone
    · rintro ⟨-, heq⟩
      unfold registeredOr
      rw [← heq, if_pos hnone]

end Names

/-! ### ASCII text and a small registry -/

theorem toLower_toLower (c : Char) : c.toLower.toLower = c.toLower := by
  rw [← Char.toNat_inj, toNat_toLower, toNat_toLower]
  by_cases h : 65 ≤ c.toNat ∧ c.toNat ≤ 90
  · rw [if_pos h, if_neg (by omega)]
  · rw [if_neg h, if_neg h]

theorem isBlank_toLower {c : Char} (h : isBlank c = false) : isBlank c.toLower = false := by
  by_cases hupper : 65 ≤ c.toNat ∧ c.toNat ≤ 90
  · have hlower := toNat_toLower c
    rw [if_pos hupper] at hlower
    simp [isBlank, hlower]
    omega
  · have hsame : c.toLower = c := by
      rw [← Char.toNat_inj, toNat_toLower, if_neg hupper]
    rwa [hsame]

theorem isLowered_asciiTables {c : Char} : IsLowered asciiTables c ↔ c.toLower = c := by
  unfold IsLowered
  rw [← String.toList_inj, toList_lower_asciiTables, String.toList_singleton]
  exact List.singleton_inj

theorem lowersHosts_asciiTables : LowersHosts asciiTables := by
  constructor
  · intro text h
    rw [← String.toList_inj, toList_lower_asciiTables]
    exact (List.map_congr_left fun c hmem => isLowered_asciiTables.mp (h c hmem)).trans
      (List.map_id' _)
  · intro text c hmem
    rw [toList_lower_asciiTables] at hmem
    obtain ⟨other, -, rfl⟩ := List.mem_map.mp hmem
    exact isLowered_asciiTables.mpr (toLower_toLower other)
  · exact isLowered_asciiTables.mpr rfl
  · intro text h c hmem
    rw [toList_lower_asciiTables] at hmem
    obtain ⟨other, hother, rfl⟩ := List.mem_map.mp hmem
    exact isBlank_toLower (h other hother)
  · intro text h
    have hnil := toList_lower_asciiTables text
    rw [h] at hnil
    exact String.toList_inj.mp (List.map_eq_nil_iff.mp hnil.symm)

def registryOf (names : List String) (domain name : String) : String :=
  if name ∈ names then domain else ""

theorem registers_registryOf {names : List String} {domain : String}
    (hinside : ∀ name ∈ names, domain.toList <:+ name.toList) (hself : domain ∈ names)
    (hempty : "" ∉ names) : Registers (registryOf names domain) := by
  have hname (name : String) : registryOf names domain name = domain ∧ name ∈ names ∨
      registryOf names domain name = "" := by
    unfold registryOf
    split
    · exact .inl ⟨rfl, ‹_›⟩
    · exact .inr rfl
  constructor
  · intro name c hmem
    rcases hname name with ⟨hdomain, hlisted⟩ | hnone
    · rw [hdomain] at hmem
      exact .inr ((hinside name hlisted).subset hmem)
    · rw [hnone] at hmem
      cases hmem
  · intro name
    rcases hname name with ⟨hdomain, hlisted⟩ | hnone
    · rw [hdomain]
      exact (hinside name hlisted).length_le
    · rw [hnone]
      exact Nat.zero_le _
  · intro name _
    rcases hname name with ⟨hdomain, -⟩ | hnone
    · rw [hdomain]
      exact if_pos hself
    · rw [hnone]
      exact if_neg hempty

end CrawlerApi.Domains
