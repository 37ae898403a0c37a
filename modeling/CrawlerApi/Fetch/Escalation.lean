import CrawlerApi.Fetch.Result

/-!
# The escalation ladder

The ladder, the vendor floors and the rules over them.  A block reason is the
string a detector reports; a reason outside every table escalates.
-/

namespace CrawlerApi.Fetch

structure Tier where
  engine : Engine
  proxyType : Option ProxyType
  useProxy : Bool
deriving DecidableEq, Repr

def ladder : List Tier := [
  ⟨.httpx, none, false⟩,
  ⟨.httpx, some .datacenter, true⟩,
  ⟨.curlCffi, some .datacenter, true⟩,
  ⟨.curlCffi, some .residential, true⟩,
  ⟨.playwright, some .residential, true⟩,
  ⟨.camoufox, some .residential, true⟩,
  ⟨.camoufox, some .mobile, true⟩]

abbrev Rung := Fin ladder.length

def Rung.tier (rung : Rung) : Tier := ladder.get rung

def maxAttemptsPerTier : Nat := 2

def firstPremiumTier : Nat :=
  ladder.findIdx fun tier => tier.proxyType = some .residential ∨ tier.proxyType = some .mobile

def antibotFloor : List (String × Nat) := [
  ("cloudflare", 2),
  ("akamai", 3),
  ("datadome", 3),
  ("kasada", 4),
  ("perimeterx", 4),
  ("incapsula", 2),
  ("aws_waf", 1),
  ("custom_sea", 6),
  ("custom_cn", 5),
  ("none", 0)]

inductive BlockReason where
  | ipBan | captcha | cloudflare | rateLimited | waf | other
  | akamai | datadome | kasada | perimeterx | incapsula | awsWaf
deriving DecidableEq, Repr

def BlockReason.value : BlockReason → String
  | .ipBan => "ip_ban"
  | .captcha => "captcha"
  | .cloudflare => "cloudflare"
  | .rateLimited => "rate_limited"
  | .waf => "waf"
  | .other => "other"
  | .akamai => "akamai"
  | .datadome => "datadome"
  | .kasada => "kasada"
  | .perimeterx => "perimeterx"
  | .incapsula => "incapsula"
  | .awsWaf => "aws_waf"

def BlockReason.all : List BlockReason := [.ipBan, .captcha, .cloudflare, .rateLimited, .waf,
  .other, .akamai, .datadome, .kasada, .perimeterx, .incapsula, .awsWaf]

def escalatable : List BlockReason := [.cloudflare, .waf, .captcha]

/-- Every known value outside `ESCALATABLE`. -/
def nonEscalatableValues : List String :=
  (BlockReason.all.filter fun reason => reason ∉ escalatable).map BlockReason.value

def isEscalatable : Option String → Bool
  | none => false
  | some reason => reason ∉ nonEscalatableValues

/-- `ANTIBOT_FLOOR.get(antibot_type or "none", 0) if antibot_type else 0`. -/
def vendorFloor (antibotType : Option String) : Nat :=
  match antibotType with
  | none => 0
  | some vendor => ((antibotFloor.find? fun entry => entry.1 = vendor).map Prod.snd).getD 0

def initialTier : Option Policy → Nat
  | none => 0
  | some policy => (max (policy.escalationTier.getD 0) (vendorFloor policy.antibotType)).toNat

theorem initialTier_some (policy : Policy) : initialTier (some policy) =
    (max (policy.escalationTier.getD 0) (vendorFloor policy.antibotType)).toNat := rfl

def nextTier (current : Rung) : Option Rung :=
  if h : current.val + 1 < ladder.length then some ⟨current.val + 1, h⟩ else none

def effectiveMaxTier (enablePremium : Bool) : Rung :=
  if enablePremium then ⟨ladder.length - 1, by decide⟩ else ⟨firstPremiumTier - 1, by decide⟩

def firstRung (engine : Engine) : Rung :=
  ⟨ladder.findIdx fun tier => tier.engine = engine, by cases engine <;> decide⟩

@[simp] theorem firstRung_engine (engine : Engine) : (firstRung engine).tier.engine = engine := by
  cases engine with
  | httpx => rfl
  | curlCffi => rfl
  | playwright => rfl
  | camoufox => rfl

theorem nextTier_eq_some {current next : Rung} :
    nextTier current = some next ↔ next.val = current.val + 1 := by
  unfold nextTier
  split
  · rw [Option.some.injEq, Fin.ext_iff]
    exact eq_comm
  · have := next.isLt
    simp
    omega

end CrawlerApi.Fetch
