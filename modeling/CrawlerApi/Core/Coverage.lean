import CrawlerApi.Core.UrlGuard
import Mathlib.Data.List.Basic

/-!
# What the address table covers

The internal ranges and the form of an IPv4 address in IPv6.  An address is blocked by
the networks of its own family, so no mapped address is, and of the internal IPv6 ranges
the link-local one and the unspecified address are not in the table.
-/

namespace CrawlerApi.UrlGuard

open Foundation (IpAddress)
open Foundation.IpAddress (Network quad)
open Foundation.Url (ParseResult)
open SsrfGuard (blockedNetworks isIpBlocked)

def internalNetworks : List Network := [
  .v4 (quad 127 0 0 0) 8,
  .v4 (quad 10 0 0 0) 8,
  .v4 (quad 172 16 0 0) 12,
  .v4 (quad 192 168 0 0) 16,
  .v4 (quad 169 254 0 0) 16,
  .v4 (quad 0 0 0 0) 32,
  .v6 1 128,
  .v6 0xfc000000000000000000000000000000 7,
  .v6 0xfe800000000000000000000000000000 10,
  .v6 0 128]

def isInternal (address : IpAddress) : Bool := internalNetworks.any (·.contains address)

def unlistedNetworks : List Network := [.v6 0xfe800000000000000000000000000000 10, .v6 0 128]

def isUnlisted (address : IpAddress) : Bool := unlistedNetworks.any (·.contains address)

def isListed (address : IpAddress) : Bool := blockedNetworks.any (·.contains address)

/-- `::ffff:a.b.c.d` -/
def mappedForm (bits : BitVec 32) : IpAddress := .v6 (0xffff#96 ++ bits) none

private theorem metadata_listed : ∀ text ∈ SsrfGuard.metadataIps,
    (IpAddress.read text.toList).all isListed = true := by
  decide +kernel

theorem isIpBlocked_eq {text : String} {address : IpAddress}
    (h : IpAddress.read text.toList = some address) : isIpBlocked text = isListed address := by
  unfold isIpBlocked
  rw [h]
  dsimp only
  cases hmetadata : SsrfGuard.metadataIps.contains text with
  | false => rfl
  | true =>
      have hlisted := metadata_listed text (List.contains_iff_mem.mp hmetadata)
      rw [h] at hlisted
      rw [Bool.true_or]
      exact hlisted.symm

private theorem internal_listed : ∀ network ∈ internalNetworks,
    network ∈ unlistedNetworks ∨ ∃ blocked ∈ blockedNetworks, network.within blocked = true := by
  decide +kernel

theorem isListed_of_internal {address : IpAddress} (h : isInternal address = true)
    (hlisted : isUnlisted address = false) : isListed address = true := by
  obtain ⟨network, hmem, hcontains⟩ := List.any_eq_true.mp h
  rcases internal_listed network hmem with hunlisted | ⟨blocked, hblocked, hwithin⟩
  · rw [isUnlisted, List.any_eq_false] at hlisted
    exact absurd hcontains (hlisted network hunlisted)
  · exact List.any_eq_true.mpr
      ⟨blocked, hblocked, Network.contains_of_within hwithin hcontains⟩

private theorem unlisted_disjoint : ∀ network ∈ unlistedNetworks, ∀ blocked ∈ blockedNetworks,
    network.disjoint blocked = true := by
  decide +kernel

theorem isListed_of_unlisted {address : IpAddress} (h : isUnlisted address = true) :
    isListed address = false := by
  obtain ⟨network, hmem, hcontains⟩ := List.any_eq_true.mp h
  rw [isListed, List.any_eq_false]
  intro blocked hblocked
  rw [Network.not_contains_of_disjoint (unlisted_disjoint network hmem blocked hblocked) hcontains]
  exact Bool.false_ne_true

/-- `::ffff:0:0/96` -/
def mappedNetwork : Network := .v6 0xffff00000000 96

theorem mappedNetwork_contains (bits : BitVec 32) :
    mappedNetwork.contains (mappedForm bits) = true := by
  have hmasked : (0xffff#96 ++ bits) &&& (BitVec.allOnes 128 <<< (128 - 96)) =
      0xffff#96 ++ 0#32 := by
    ext i hi
    simp only [BitVec.getElem_and, BitVec.getElem_shiftLeft, BitVec.getElem_allOnes,
      BitVec.getElem_append]
    by_cases hlow : i < 32 <;> simp [hlow]
  exact beq_iff_eq.mpr hmasked

private theorem mapped_disjoint : ∀ blocked ∈ blockedNetworks,
    mappedNetwork.disjoint blocked = true := by
  decide +kernel

theorem isListed_mappedForm (bits : BitVec 32) : isListed (mappedForm bits) = false := by
  rw [isListed, List.any_eq_false]
  intro blocked hblocked
  rw [Network.not_contains_of_disjoint (mapped_disjoint blocked hblocked)
    (mappedNetwork_contains bits)]
  exact Bool.false_ne_true

/-- The address is the IPv6 form of an IPv4 address that is blocked. -/
def MapsBlocked (address : IpAddress) : Prop :=
  ∃ dotted bits, IpAddress.read dotted.toList = some (.v4 bits) ∧
    isIpBlocked dotted = true ∧ address = mappedForm bits

def Reaches (resolve : Resolver) (host : String) (address : IpAddress) : Prop :=
  IpAddress.read host.toList = some address ∨
    ∃ ips ip, resolve host = .addresses ips ∧ ip ∈ ips ∧ IpAddress.read ip.toList = some address

/-- A mapped form of what is blocked is blocked, and no http(s) URL gets to an internal
address. -/
def Covers (tables : TextTables) (url text : String) (address : IpAddress) : Prop :=
  (MapsBlocked address → isIpBlocked text = true) ∧
    (isInternal address = true → ∀ parsed host, WebUrl tables url parsed host →
      ∀ resolve, Reaches resolve host address → BothReject tables resolve url)

/-- The port of the URL can be read, and an address the table leaves out is turned down
for the port or the literal host. -/
def Shielded (tables : TextTables) (url : String) (address : IpAddress) : Prop :=
  ∀ parsed host, WebUrl tables url parsed host → isMetadataHost tables host = false →
    ∃ declared, parsed.toSplitResult.port tables.toTables = .ok declared ∧
      (isUnlisted address = true → turnsDown tables parsed host declared = true)

section Coverage

variable {tables : TextTables} {resolve : Resolver} {url text : String} {address : IpAddress}

private theorem shielded_of_rejects (h : IpAddress.read text.toList = some address)
    (hrejects : ∀ parsed host, WebUrl tables url parsed host →
      BothReject tables (fun _ => .addresses [text]) url) : Shielded tables url address := by
  intro parsed host hweb hmetadata
  have hreject := hrejects parsed host hweb
  have hends := checkStatic_ends tables url
  generalize hstatic : checkStatic tables url = answer at hends
  cases hends with
  | unparsed hparse =>
      rw [hweb.parses] at hparse
      cases hparse
  | refused hparse hnone =>
      rw [hweb.parses] at hparse
      cases hparse
      exact absurd hweb (hnone host)
  | metadata hother htrue =>
      obtain ⟨rfl, rfl⟩ := hweb.unique hother
      rw [hmetadata] at htrue
      cases htrue
  | badPort hother _ _ => exact absurd hreject.1 (not_rejects_of_exception hstatic)
  | turnedDown hother _ hport hdown =>
      obtain ⟨rfl, rfl⟩ := hweb.unique hother
      exact ⟨_, hport, fun _ => hdown⟩
  | accepted hother _ hport hkept =>
      obtain ⟨rfl, rfl⟩ := hweb.unique hother
      refine ⟨_, hport, fun hunlisted => absurd hreject (not_bothReject_of_return ?_)⟩
      refine bothReturn_of_clean hweb hmetadata hstatic rfl ?_
      rw [List.find?_eq_none]
      intro ip hip
      rw [List.mem_singleton.mp hip, isIpBlocked_eq h, isListed_of_unlisted hunlisted]
      exact Bool.false_ne_true

private theorem rejects_of_shielded (hinternal : isInternal address = true)
    (hshielded : Shielded tables url address) {parsed : ParseResult} {host : String}
    (hweb : WebUrl tables url parsed host) (hreaches : Reaches resolve host address) :
    BothReject tables resolve url := by
  have hends := checkStatic_ends tables url
  generalize hstatic : checkStatic tables url = answer at hends
  cases hends with
  | unparsed hparse =>
      rw [hweb.parses] at hparse
      cases hparse
  | refused hparse hnone =>
      rw [hweb.parses] at hparse
      cases hparse
      exact absurd hweb (hnone host)
  | metadata _ _ => exact bothReject_of_static hstatic
  | turnedDown _ _ _ _ => exact bothReject_of_static hstatic
  | badPort hother hmetadata hport =>
      obtain ⟨declared, hread, -⟩ := hshielded _ _ hother hmetadata
      rw [hport] at hread
      cases hread
  | accepted hother hmetadata hport hkept =>
      obtain ⟨rfl, rfl⟩ := hweb.unique hother
      obtain ⟨declared, hread, hdown⟩ := hshielded _ _ hother hmetadata
      rw [hport] at hread
      cases hread
      have hunlisted : isUnlisted address = false := by
        rw [← Bool.not_eq_true]
        intro hunlisted
        rw [hdown hunlisted] at hkept
        cases hkept
      have hlisted := isListed_of_internal hinternal hunlisted
      rcases hreaches with hliteral | ⟨ips, ip, hlookup, hmem, hread⟩
      · rw [turnsDown, hliteral, isIpBlocked_eq hliteral, hlisted, Option.isSome_some,
          Bool.and_self, Bool.or_true] at hkept
        cases hkept
      · cases hfound : ips.find? isIpBlocked with
        | some blocked => exact bothReject_of_blocked hweb hmetadata hstatic hlookup hfound
        | none =>
            have hclean := List.find?_eq_none.mp hfound ip hmem
            rw [isIpBlocked_eq hread, hlisted] at hclean
            exact absurd rfl hclean

end Coverage

/-- The guard covers an address exactly if it is not the mapped form of a blocked one and,
when it is internal, the URL shields it. -/
theorem covers_iff (tables : TextTables) (url : String) {text : String} {address : IpAddress}
    (h : IpAddress.read text.toList = some address) :
    Covers tables url text address ↔
      ¬ MapsBlocked address ∧ (isInternal address = true → Shielded tables url address) := by
  constructor
  · rintro ⟨hmapped, hrejects⟩
    refine ⟨fun hmaps => ?_, fun hinternal => shielded_of_rejects h fun parsed host hweb => ?_⟩
    · have hblocked := hmapped hmaps
      obtain ⟨dotted, bits, -, -, rfl⟩ := hmaps
      rw [isIpBlocked_eq h, isListed_mappedForm] at hblocked
      cases hblocked
    · exact hrejects hinternal parsed host hweb _
        (.inr ⟨[text], text, rfl, List.mem_singleton_self text, h⟩)
  · rintro ⟨hmaps, hshielded⟩
    refine ⟨fun hmapped => absurd hmapped hmaps, ?_⟩
    intro hinternal parsed host hweb resolve hreaches
    exact rejects_of_shielded hinternal (hshielded hinternal) hweb hreaches

def rootOf (netloc : String) : ParseResult where
  scheme := "http".toList
  netloc := netloc.toList
  path := ['/']
  query := []
  fragment := []
  params := []

theorem private_literal_covered :
    Covers asciiTables "http://10.0.0.5/" "10.0.0.5" (.v4 (quad 10 0 0 5)) := by
  have hread : IpAddress.read "10.0.0.5".toList = some (.v4 (quad 10 0 0 5)) := by decide +kernel
  refine (covers_iff asciiTables "http://10.0.0.5/" hread).mpr ⟨?_, fun _ => ?_⟩
  · rintro ⟨dotted, bits, -, -, hmapped⟩
    cases hmapped
  · intro parsed host hweb _
    have hparsed : WebUrl asciiTables "http://10.0.0.5/" (rootOf "10.0.0.5") "10.0.0.5" :=
      ⟨by decide +kernel, by decide +kernel, by decide +kernel⟩
    obtain ⟨rfl, rfl⟩ := hparsed.unique hweb
    exact ⟨none, by decide +kernel, fun hunlisted => absurd hunlisted (by decide +kernel)⟩

/-- A link-local literal passes, and so does a mapped private address. -/
theorem link_local_passes :
    ¬ Covers asciiTables "http://[fe80::1]/" "fe80::1"
        (.v6 0xfe800000000000000000000000000001 none) ∧
      ¬ Covers asciiTables "http://a.example/" "::ffff:10.0.0.5" (mappedForm (quad 10 0 0 5)) := by
  constructor
  · rintro ⟨-, hrejects⟩
    have hweb : WebUrl asciiTables "http://[fe80::1]/" (rootOf "[fe80::1]") "fe80::1" :=
      ⟨by decide +kernel, by decide +kernel, by decide +kernel⟩
    have hreads : IpAddress.read "fe80::1".toList =
        some (.v6 0xfe800000000000000000000000000001 none) := by
      decide +kernel
    obtain ⟨message, hreject⟩ :=
      (hrejects (by decide +kernel) _ _ hweb (fun _ => .addresses ["fe80::1"]) (.inl hreads)).1
    have hreturns : validateUrlSync asciiTables (fun _ => .addresses ["fe80::1"])
        "http://[fe80::1]/" = .ok () := by
      decide +kernel
    rw [hreturns] at hreject
    cases hreject
  · rintro ⟨hmapped, -⟩
    have hblocked := hmapped ⟨"10.0.0.5", quad 10 0 0 5, by decide +kernel, by decide +kernel, rfl⟩
    have hfree : isIpBlocked "::ffff:10.0.0.5" = false := by decide +kernel
    rw [hfree] at hblocked
    cases hblocked

end CrawlerApi.UrlGuard
