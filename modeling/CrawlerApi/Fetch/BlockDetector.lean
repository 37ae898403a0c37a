import CrawlerApi.Core.Text
import CrawlerApi.Fetch.Escalation
import CrawlerApi.Foundation.Pattern

/-!
# Block and vendor detection

The marker patterns of challenge pages and the two classifications over them.
-/

namespace CrawlerApi.Fetch

open Foundation (Pattern)
open Foundation.Pattern (text word)

namespace BlockDetector

def inWords (pattern : Pattern) : Pattern := .sequence .boundary (.sequence pattern .boundary)

/-- `before (?:middle )?after` between word boundaries. -/
def withOptional (before middle after : String) : Pattern :=
  inWords (.sequence (text before) (.sequence (.optional (text middle)) (text after)))

def captchaPatterns : List Pattern := [
  word "g-recaptcha",
  .sequence (text "h") (.sequence (.optional (text "-")) (text "captcha")),
  word "captcha-container",
  word "verify you are human"]

def cloudflarePatterns : List Pattern := [
  .sequence .boundary (text "cf-chl-"),
  word "cloudflare ray id",
  inWords (.sequence (text "attention required!") (.sequence .spaces
    (.sequence (text "|") (.sequence .spaces (text "cloudflare")))))]

def ipBanPatterns : List Pattern := [
  inWords (.sequence (text "your ip ") (.sequence (.optional (text "address "))
    (.sequence (text "has been ") (.either (text "blocked") (text "banned"))))),
  word "access from your ip has been denied",
  word "temporarily blocked due to suspicious activity"]

def wafPatterns : List Pattern := [
  withOptional "request " "was " "rejected",
  word "web application firewall",
  word "security policy has blocked"]

def datadomeBody : Pattern := word "geo.captcha-delivery.com"

def perimeterxBody : Pattern := .either (word "px-captcha") (word "_pxcaptcha")

def incapsulaBody : Pattern := word "incapsula incident id"

def lowered (methods : TextMethods) (headers : Headers) : Headers :=
  headers.foldl (fun merged header => Headers.set merged (methods.lower header.1) header.2) []

def Headers.has (headers : Headers) (name : String) : Bool :=
  headers.any fun header => header.1 = name

def Headers.hasPrefix (headers : Headers) (start : String) : Bool :=
  headers.any fun header => start.toList.isPrefixOf header.1.toList

def Headers.value (headers : Headers) (name : String) : String :=
  ((headers.find? fun header => header.1 = name).map Prod.snd).getD ""

def contains (word : List Char) : List Char → Bool
  | [] => word.isEmpty
  | first :: rest => word.isPrefixOf (first :: rest) || contains word rest

def detectBlockReason (methods : TextMethods) (statusCode : Int) (headers : Headers)
    (body : Bytes) : Option BlockReason :=
  let headers := lowered methods headers
  let sample := body.take 1000000
  if statusCode = 429 then some .rateLimited
  else if (statusCode ≥ 400 ∧ (Headers.has headers "cf-ray" ∨
        contains "cloudflare".toList (methods.lower (Headers.value headers "server")).toList)) ∨
      cloudflarePatterns.any (·.search sample) then some .cloudflare
  else if captchaPatterns.any (·.search sample) then some .captcha
  else if ipBanPatterns.any (·.search sample) then some .ipBan
  else if wafPatterns.any (·.search sample) then some .waf
  else if statusCode ∈ [401, 403, 407, 451] then some .ipBan
  else none

def detectVendor (methods : TextMethods) (headers cookies : Headers) (body : Bytes) :
    Option String :=
  let nh := lowered methods headers
  let nc := lowered methods cookies
  let sample := body.take 65536
  if Headers.has nh "cf-ray" ∨ Headers.has nc "__cf_bm" ∨ Headers.has nc "cf_clearance" ∨
      methods.lower (Headers.value nh "server") = "cloudflare" then some "cloudflare"
  else if Headers.has nc "_abck" ∨ Headers.has nc "ak_bmsc" ∨ Headers.has nc "bm_sz" ∨
      Headers.hasPrefix nh "x-akamai-" then some "akamai"
  else if Headers.has nc "datadome" ∨ Headers.hasPrefix nh "x-datadome" ∨
      datadomeBody.search sample then some "datadome"
  else if Headers.hasPrefix nh "x-kpsdk-" then some "kasada"
  else if Headers.has nc "_px" ∨ Headers.has nc "_px2" ∨ Headers.has nc "_px3" ∨
      Headers.hasPrefix nh "x-px-" ∨ perimeterxBody.search sample then some "perimeterx"
  else if Headers.hasPrefix nc "incap_ses" ∨ Headers.hasPrefix nc "visid_incap" ∨
      Headers.has nh "x-iinfo" ∨ incapsulaBody.search sample then some "incapsula"
  else if Headers.has nc "aws-waf-token" ∨ Headers.hasPrefix nh "x-amzn-waf-" then some "aws_waf"
  else none

end BlockDetector

end CrawlerApi.Fetch
