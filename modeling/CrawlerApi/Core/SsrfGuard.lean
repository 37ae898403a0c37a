import CrawlerApi.Core.Text

/-!
# Blocked addresses

The ranges no fetch may reach and the check of a host by the addresses it
resolves to.  A lookup is what the resolver answers at the moment it is asked.
-/

namespace CrawlerApi

open Foundation (IpAddress)
open Foundation.IpAddress (Network quad)

/-- The addresses of an answer, or how the lookup raises; a host the resolver's
codec refuses raises neither kind of `OSError`. -/
inductive Lookup where
  | addresses (ips : List String)
  | gaierror (message : String)
  | osError (message : String)
  | exception (message : String)
deriving DecidableEq, Repr

abbrev Resolver := String → Lookup

namespace SsrfGuard

def blockedNetworks : List Network := [
  .v4 (quad 10 0 0 0) 8,
  .v4 (quad 172 16 0 0) 12,
  .v4 (quad 192 168 0 0) 16,
  .v4 (quad 127 0 0 0) 8,
  .v6 1 128,
  .v4 (quad 169 254 0 0) 16,
  .v6 0xfd000000000000000000000000000000 8,
  .v6 0xfc000000000000000000000000000000 7,
  .v4 (quad 0 0 0 0) 8,
  .v4 (quad 100 64 0 0) 10,
  .v4 (quad 192 0 2 0) 24,
  .v4 (quad 198 51 100 0) 24,
  .v4 (quad 203 0 113 0) 24,
  .v4 (quad 240 0 0 0) 4,
  .v4 (quad 255 255 255 255) 32]

def blockedHostnames : List String := ["metadata.google.internal", "metadata.goog"]

def metadataIps : List String := ["169.254.169.254", "fd00:ec2::254"]

inductive Exn where
  | ssrfError (message : String)
  | exception (message : String)
deriving DecidableEq, Repr

def isIpBlocked (ip : String) : Bool :=
  match IpAddress.read ip.toList with
  | none => false
  | some address => metadataIps.contains ip || blockedNetworks.any (·.contains address)

def checkHostBlocked (tables : TextTables) (host : String) : Except Exn Unit :=
  if blockedHostnames.contains (tables.lower host) then
    .error (.ssrfError ("Blocked: resolves to private/reserved IP (" ++ host ++ ")"))
  else .ok ()

def checkAddrsBlocked (ips : List String) : Except Exn Unit :=
  match ips.find? isIpBlocked with
  | some ip => .error (.ssrfError ("Blocked: resolves to private/reserved IP (" ++ ip ++ ")"))
  | none => .ok ()

def asyncValidateSsrf (tables : TextTables) (resolve : Resolver) (url : String) :
    Except Exn Unit :=
  match Foundation.Url.urlparse tables.toTables url.toList [] with
  | .error message => .error (.exception message)
  | .ok parsed =>
      match parsed.toSplitResult.hostname tables.toTables with
      | none => .error (.ssrfError "Invalid URL: cannot extract hostname.")
      | some host => do
          let host := String.ofList host
          checkHostBlocked tables host
          match resolve host with
          | .addresses ips => checkAddrsBlocked ips
          | .gaierror _ | .osError _ => .error (.ssrfError ("DNS resolution failed: " ++ host))
          | .exception message => .error (.exception message)

end SsrfGuard

end CrawlerApi
