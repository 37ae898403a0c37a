import CrawlerApi.Core.SsrfGuard

/-!
# The outbound URL policy

Scheme, host and port of a URL, and the addresses its host resolves to.  What a
URL violates is a `URLGuardError`; anything else the parser or the resolver
raises passes through.
-/

namespace CrawlerApi.UrlGuard

open Foundation (IpAddress)

def allowedSchemes : List String := ["http", "https"]

def allowedPorts : List Nat := [80, 443, 8080, 8443]

inductive Exn where
  | urlGuardError (message : String)
  | exception (message : String)
deriving DecidableEq, Repr

/-- `str(exc)`. -/
def Exn.message : Exn → String
  | .urlGuardError message | .exception message => message

def effectivePort (scheme : String) : Option Nat → Nat
  | none | some 0 => if scheme = "https" then 443 else 80
  | some port => port

def checkStatic (tables : TextTables) (url : String) : Except Exn (String × Nat) :=
  match Foundation.Url.urlparse tables.toTables url.toList [] with
  | .error message => .error (.exception message)
  | .ok parsed =>
      let scheme := String.ofList parsed.scheme
      if !allowedSchemes.contains (tables.lower scheme) then
        .error (.urlGuardError ("Scheme '" ++ scheme ++ "' is not allowed; use http or https."))
      else
        match parsed.toSplitResult.hostname tables.toTables with
        | none => .error (.urlGuardError "Invalid URL: cannot extract hostname.")
        | some host =>
            let host := String.ofList host
            if SsrfGuard.blockedHostnames.contains (tables.lower host) then
              .error (.urlGuardError ("Hostname '" ++ host ++ "' is a known metadata endpoint."))
            else
              match parsed.toSplitResult.port tables.toTables with
              | .error message => .error (.exception message)
              | .ok declared =>
                  let port := effectivePort (tables.lower scheme) declared
                  if !allowedPorts.contains port then
                    .error (.urlGuardError ("Port " ++ toString port ++
                      " is not allowed; permitted ports: [80, 443, 8080, 8443]"))
                  else if (IpAddress.read host.toList).isSome && SsrfGuard.isIpBlocked host then
                    .error (.urlGuardError ("IP " ++ host ++ " is in a private or reserved range."))
                  else .ok (host, port)

def checkResolved (host : String) (ips : List String) : Except Exn Unit :=
  match ips.find? SsrfGuard.isIpBlocked with
  | some ip =>
      .error (.urlGuardError ("Host '" ++ host ++ "' resolves to blocked address " ++ ip ++ "."))
  | none => .ok ()

def validateUrlSync (tables : TextTables) (resolve : Resolver) (url : String) :
    Except Exn Unit := do
  let (host, _) ← checkStatic tables url
  match resolve host with
  | .addresses ips => checkResolved host ips
  | .gaierror _ => .error (.urlGuardError ("DNS resolution failed: " ++ host))
  | .osError message | .exception message => .error (.exception message)

def validateUrlAsync (tables : TextTables) (resolve : Resolver) (url : String) :
    Except Exn Unit := do
  let _ ← checkStatic tables url
  match SsrfGuard.asyncValidateSsrf tables resolve url with
  | .ok () => .ok ()
  | .error (.ssrfError message) => .error (.urlGuardError message)
  | .error (.exception message) => .error (.exception message)

/-! ### What the guard sees of a URL -/

open Foundation.Url (ParseResult urlparse)

structure WebUrl (tables : TextTables) (url : String) (parsed : ParseResult) (host : String) :
    Prop where
  parses : urlparse tables.toTables url.toList [] = .ok parsed
  scheme : allowedSchemes.contains (tables.lower (String.ofList parsed.scheme)) = true
  hostname : parsed.toSplitResult.hostname tables.toTables = some host.toList

def isMetadataHost (tables : TextTables) (host : String) : Bool :=
  SsrfGuard.blockedHostnames.contains (tables.lower host)

def turnsDown (tables : TextTables) (parsed : ParseResult) (host : String)
    (declared : Option Nat) : Bool :=
  !allowedPorts.contains (effectivePort (tables.lower (String.ofList parsed.scheme)) declared) ||
    (IpAddress.read host.toList).isSome && SsrfGuard.isIpBlocked host

inductive StaticEnds (tables : TextTables) (url : String) : Except Exn (String × Nat) → Prop where
  | unparsed {message : String} : urlparse tables.toTables url.toList [] = .error message →
      StaticEnds tables url (.error (.exception message))
  | refused {parsed : ParseResult} {message : String} :
      urlparse tables.toTables url.toList [] = .ok parsed →
      (∀ host, ¬ WebUrl tables url parsed host) →
      StaticEnds tables url (.error (.urlGuardError message))
  | metadata {parsed : ParseResult} {host message : String} : WebUrl tables url parsed host →
      isMetadataHost tables host = true → StaticEnds tables url (.error (.urlGuardError message))
  | badPort {parsed : ParseResult} {host message : String} : WebUrl tables url parsed host →
      isMetadataHost tables host = false →
      parsed.toSplitResult.port tables.toTables = .error message →
      StaticEnds tables url (.error (.exception message))
  | turnedDown {parsed : ParseResult} {host message : String} {declared : Option Nat} :
      WebUrl tables url parsed host → isMetadataHost tables host = false →
      parsed.toSplitResult.port tables.toTables = .ok declared →
      turnsDown tables parsed host declared = true →
      StaticEnds tables url (.error (.urlGuardError message))
  | accepted {parsed : ParseResult} {host : String} {declared : Option Nat} {port : Nat} :
      WebUrl tables url parsed host → isMetadataHost tables host = false →
      parsed.toSplitResult.port tables.toTables = .ok declared →
      turnsDown tables parsed host declared = false → StaticEnds tables url (.ok (host, port))

section Web

variable {tables : TextTables} {resolve : Resolver} {url : String} {parsed other : ParseResult}
  {host name : String}

theorem WebUrl.unique (h : WebUrl tables url parsed host) (hother : WebUrl tables url other name) :
    other = parsed ∧ name = host := by
  have hparsed : other = parsed := Except.ok.inj (hother.parses.symm.trans h.parses)
  subst hparsed
  have hname := Option.some.inj (hother.hostname.symm.trans h.hostname)
  exact ⟨rfl, String.toList_inj.mp hname⟩

theorem checkStatic_ends (tables : TextTables) (url : String) :
    StaticEnds tables url (checkStatic tables url) := by
  unfold checkStatic
  split
  · rename_i hparse
    exact .unparsed hparse
  · rename_i parsed hparse
    dsimp only
    split
    · rename_i hscheme
      refine .refused hparse fun host hweb => ?_
      rw [hweb.scheme] at hscheme
      cases hscheme
    · rename_i hscheme
      split
      · rename_i hnone
        refine .refused hparse fun host hweb => ?_
        rw [hweb.hostname] at hnone
        cases hnone
      · rename_i chars hhost
        have hweb : WebUrl tables url parsed (String.ofList chars) :=
          ⟨hparse, by simpa using hscheme, by rw [hhost, String.toList_ofList]⟩
        split
        · rename_i hmetadata
          exact .metadata hweb hmetadata
        · rename_i hmetadata
          rw [Bool.not_eq_true] at hmetadata
          split
          · rename_i hport
            exact .badPort hweb hmetadata hport
          · rename_i declared hport
            split
            · rename_i hrefused
              exact .turnedDown hweb hmetadata hport (by rw [turnsDown, hrefused, Bool.true_or])
            · rename_i hallowed
              split
              · rename_i hblocked
                exact .turnedDown hweb hmetadata hport (by rw [turnsDown, hblocked, Bool.or_true])
              · rename_i hfree
                refine .accepted hweb hmetadata hport ?_
                rw [turnsDown, eq_false_of_ne_true hallowed, eq_false_of_ne_true hfree]
                rfl

theorem validate_of_static_error {exn : Exn} (h : checkStatic tables url = .error exn) :
    validateUrlSync tables resolve url = .error exn ∧
      validateUrlAsync tables resolve url = .error exn := by
  constructor
  · rw [validateUrlSync, h]
    rfl
  · rw [validateUrlAsync, h]
    rfl

end Web

def Rejects (answer : Except Exn Unit) : Prop := ∃ message, answer = .error (.urlGuardError message)

def BothReject (tables : TextTables) (resolve : Resolver) (url : String) : Prop :=
  Rejects (validateUrlSync tables resolve url) ∧ Rejects (validateUrlAsync tables resolve url)

def BothReturn (tables : TextTables) (resolve : Resolver) (url : String) : Prop :=
  validateUrlSync tables resolve url = .ok () ∧ validateUrlAsync tables resolve url = .ok ()

section Verdicts

variable {tables : TextTables} {resolve : Resolver} {url : String}

theorem not_bothReject_of_return (h : BothReturn tables resolve url) :
    ¬ BothReject tables resolve url := by
  rintro ⟨⟨message, hreject⟩, -⟩
  rw [h.1] at hreject
  cases hreject

theorem bothReject_of_static {message : String}
    (h : checkStatic tables url = .error (.urlGuardError message)) :
    BothReject tables resolve url :=
  ⟨⟨message, (validate_of_static_error h).1⟩, ⟨message, (validate_of_static_error h).2⟩⟩

theorem not_rejects_of_exception {message : String}
    (h : checkStatic tables url = .error (.exception message)) :
    ¬ Rejects (validateUrlSync tables resolve url) := by
  rintro ⟨other, hreject⟩
  rw [(validate_of_static_error h).1] at hreject
  cases hreject

end Verdicts

/-! A URL that the check without DNS accepts goes by what its host resolves to. -/

section Accepted

variable {tables : TextTables} {resolve : Resolver} {url : String} {parsed : ParseResult}
  {host : String} {port : Nat} {ips : List String}

private theorem async_unfolds (hweb : WebUrl tables url parsed host)
    (hmetadata : isMetadataHost tables host = false) :
    (∀ ips, resolve host = .addresses ips →
      SsrfGuard.asyncValidateSsrf tables resolve url = SsrfGuard.checkAddrsBlocked ips) ∧
    (∀ message, resolve host = .gaierror message →
      SsrfGuard.asyncValidateSsrf tables resolve url =
        .error (.ssrfError ("DNS resolution failed: " ++ host))) := by
  have hhost : SsrfGuard.checkHostBlocked tables host = .ok () := by
    unfold isMetadataHost at hmetadata
    rw [SsrfGuard.checkHostBlocked, hmetadata]
    rfl
  unfold SsrfGuard.asyncValidateSsrf
  rw [hweb.parses]
  dsimp only
  rw [hweb.hostname]
  dsimp only
  rw [String.ofList_toList, hhost]
  constructor <;> intro _ hlookup <;> rw [hlookup] <;> rfl

theorem bothReturn_of_clean (hweb : WebUrl tables url parsed host)
    (hmetadata : isMetadataHost tables host = false)
    (hstatic : checkStatic tables url = .ok (host, port)) (hlookup : resolve host = .addresses ips)
    (hclean : ips.find? SsrfGuard.isIpBlocked = none) : BothReturn tables resolve url := by
  constructor
  · simp only [validateUrlSync, hstatic, bind, Except.bind, hlookup, checkResolved, hclean]
  · rw [validateUrlAsync, hstatic, (async_unfolds hweb hmetadata).1 ips hlookup,
      SsrfGuard.checkAddrsBlocked, hclean]
    rfl

theorem bothReject_of_blocked {ip : String} (hweb : WebUrl tables url parsed host)
    (hmetadata : isMetadataHost tables host = false)
    (hstatic : checkStatic tables url = .ok (host, port)) (hlookup : resolve host = .addresses ips)
    (hblocked : ips.find? SsrfGuard.isIpBlocked = some ip) : BothReject tables resolve url := by
  constructor
  · simp only [validateUrlSync, hstatic, bind, Except.bind, hlookup, checkResolved, hblocked]
    exact ⟨_, rfl⟩
  · rw [validateUrlAsync, hstatic, (async_unfolds hweb hmetadata).1 ips hlookup,
      SsrfGuard.checkAddrsBlocked, hblocked]
    exact ⟨_, rfl⟩

theorem bothReject_of_gaierror {message : String} (hweb : WebUrl tables url parsed host)
    (hmetadata : isMetadataHost tables host = false)
    (hstatic : checkStatic tables url = .ok (host, port))
    (hlookup : resolve host = .gaierror message) : BothReject tables resolve url := by
  constructor
  · simp only [validateUrlSync, hstatic, bind, Except.bind, hlookup]
    exact ⟨_, rfl⟩
  · rw [validateUrlAsync, hstatic, (async_unfolds hweb hmetadata).2 message hlookup]
    exact ⟨_, rfl⟩

theorem validateUrlSync_escapes {message : String}
    (hstatic : checkStatic tables url = .ok (host, port))
    (hlookup : resolve host = .osError message ∨ resolve host = .exception message) :
    validateUrlSync tables resolve url = .error (.exception message) := by
  rcases hlookup with hlookup | hlookup <;>
    simp only [validateUrlSync, hstatic, bind, Except.bind, hlookup]

end Accepted

end CrawlerApi.UrlGuard
