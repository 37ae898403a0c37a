import CrawlerApi.Core.UrlGuard
import Mathlib.Data.List.Basic

/-!
# The sync and the async guard

Both go by the same check without DNS and ask for the same host again.  The sync guard
maps one exception of the resolver, the async one every `OSError`, and neither maps what
the URL parser raises.
-/

namespace CrawlerApi.UrlGuard

open Foundation.Url (ParseResult urlparse)

def Agree (tables : TextTables) (resolve : Resolver) (url : String) : Prop :=
  BothReturn tables resolve url ∨ BothReject tables resolve url

/-- The parser raises nothing on the URL, and the resolver nothing but `gaierror` if the
host gets to be resolved. -/
def NothingEscapes (tables : TextTables) (resolve : Resolver) (url : String) : Prop :=
  ∃ parsed, urlparse tables.toTables url.toList [] = .ok parsed ∧
    ∀ host, WebUrl tables url parsed host → isMetadataHost tables host = false →
      ∃ declared, parsed.toSplitResult.port tables.toTables = .ok declared ∧
        (turnsDown tables parsed host declared = false →
          (∃ ips, resolve host = .addresses ips) ∨ ∃ message, resolve host = .gaierror message)

section Parity

variable {tables : TextTables} {resolve : Resolver} {url : String} {parsed : ParseResult}
  {host : String} {declared : Option Nat} {port : Nat}

theorem no_escape_of_agree (h : Agree tables resolve url) {message : String} :
    validateUrlSync tables resolve url ≠ .error (.exception message) := by
  intro hraises
  rcases h with hreturn | hreject
  · rw [hreturn.1] at hraises
    cases hraises
  · obtain ⟨other, hother⟩ := hreject.1
    rw [hother] at hraises
    cases hraises

theorem agree_iff_lookup (hweb : WebUrl tables url parsed host)
    (hmetadata : isMetadataHost tables host = false)
    (hstatic : checkStatic tables url = .ok (host, port)) :
    Agree tables resolve url ↔
      (∃ ips, resolve host = .addresses ips) ∨ ∃ message, resolve host = .gaierror message := by
  cases hlookup : resolve host with
  | addresses ips =>
      refine iff_of_true ?_ (.inl ⟨ips, rfl⟩)
      cases hfound : ips.find? SsrfGuard.isIpBlocked with
      | none => exact .inl (bothReturn_of_clean hweb hmetadata hstatic hlookup hfound)
      | some ip => exact .inr (bothReject_of_blocked hweb hmetadata hstatic hlookup hfound)
  | gaierror message =>
      exact iff_of_true (.inr (bothReject_of_gaierror hweb hmetadata hstatic hlookup))
        (.inr ⟨message, rfl⟩)
  | osError message =>
      refine iff_of_false (fun h => ?_) (by simp)
      exact no_escape_of_agree h (validateUrlSync_escapes hstatic (.inl hlookup))
  | exception message =>
      refine iff_of_false (fun h => ?_) (by simp)
      exact no_escape_of_agree h (validateUrlSync_escapes hstatic (.inr hlookup))

end Parity

/-- The guards are one policy exactly where nothing but a `gaierror` comes out of the
parser and the resolver. -/
theorem guards_agree_iff (tables : TextTables) (resolve : Resolver) (url : String) :
    Agree tables resolve url ↔ NothingEscapes tables resolve url := by
  have hends := checkStatic_ends tables url
  generalize hstatic : checkStatic tables url = answer at hends
  cases hends with
  | unparsed hparse =>
      refine iff_of_false (fun h => ?_) ?_
      · exact no_escape_of_agree h (validate_of_static_error hstatic).1
      · rintro ⟨parsed, hparsed, -⟩
        rw [hparse] at hparsed
        cases hparsed
  | refused hparse hnone =>
      refine iff_of_true (.inr (bothReject_of_static hstatic)) ⟨_, hparse, fun host hweb => ?_⟩
      exact absurd hweb (hnone host)
  | metadata hweb htrue =>
      refine iff_of_true (.inr (bothReject_of_static hstatic)) ⟨_, hweb.parses, ?_⟩
      intro host hother hfalse
      obtain ⟨-, rfl⟩ := hweb.unique hother
      rw [htrue] at hfalse
      cases hfalse
  | badPort hweb hmetadata hport =>
      refine iff_of_false (fun h => ?_) ?_
      · exact no_escape_of_agree h (validate_of_static_error hstatic).1
      · rintro ⟨parsed, hparsed, hreads⟩
        rw [hweb.parses] at hparsed
        cases hparsed
        obtain ⟨declared, hread, -⟩ := hreads _ hweb hmetadata
        rw [hport] at hread
        cases hread
  | turnedDown hweb _ hport hdown =>
      refine iff_of_true (.inr (bothReject_of_static hstatic)) ⟨_, hweb.parses, ?_⟩
      intro host hother _
      obtain ⟨-, rfl⟩ := hweb.unique hother
      refine ⟨_, hport, fun hkept => ?_⟩
      rw [hdown] at hkept
      cases hkept
  | accepted hweb hmetadata hport hkept =>
      rw [agree_iff_lookup hweb hmetadata hstatic]
      constructor
      · intro hlookup
        refine ⟨_, hweb.parses, fun host hother _ => ?_⟩
        obtain ⟨-, rfl⟩ := hweb.unique hother
        exact ⟨_, hport, fun _ => hlookup⟩
      · rintro ⟨parsed, hparsed, hreads⟩
        rw [hweb.parses] at hparsed
        cases hparsed
        obtain ⟨declared, hread, hlookup⟩ := hreads _ hweb hmetadata
        rw [hport] at hread
        cases hread
        exact hlookup hkept

/-- A resolver that times out makes the guards differ, and a port out of range escapes
both. -/
theorem timeout_parts_guards :
    ¬ Agree asciiTables (fun _ => .osError "timed out") "http://a.example/" ∧
      ¬ Agree asciiTables (fun _ => .addresses []) "http://a.example:99999/" := by
  have htimeout : validateUrlSync asciiTables (fun _ => .osError "timed out")
      "http://a.example/" = .error (.exception "timed out") := by
    decide +kernel
  have hport : validateUrlSync asciiTables (fun _ => .addresses [])
      "http://a.example:99999/" = .error (.exception "Port out of range 0-65535") := by
    decide +kernel
  exact ⟨fun h => no_escape_of_agree h htimeout, fun h => no_escape_of_agree h hport⟩

end CrawlerApi.UrlGuard
