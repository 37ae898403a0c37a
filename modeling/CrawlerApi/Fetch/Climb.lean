import CrawlerApi.Fetch.RunShape

/-!
# Technique blocks climb the ladder

A caller that insists on a proxy leaves a tier only when a block that meets the cap
of the tier escalates.  The values of the vendor reasons are known values outside
`ESCALATABLE`, so they rotate like an IP block.
-/

namespace CrawlerApi.Fetch

open Keys Foundation

def rotationOnly : List BlockReason := [.rateLimited, .ipBan, .other]

def vendorReasons : List BlockReason :=
  [.akamai, .datadome, .kasada, .perimeterx, .incapsula, .awsWaf]

def TechniqueReason (reason : Option String) : Prop :=
  ∃ value, reason = some value ∧ value ∉ rotationOnly.map BlockReason.value

def VendorReason (reason : Option String) : Prop :=
  ∃ vendor ∈ vendorReasons, reason = some vendor.value

def climb (attemptsPerTier first last : Nat) : List Nat :=
  (List.range' first (last + 1 - first)).flatMap fun tier => List.replicate attemptsPerTier tier

/-- The tiers of a walk that goes on to the next tier after `cap` steps at one of
them, from a tier where `made` steps have been made. -/
def walk (cap last : Nat) : Nat → Nat → Nat → List Nat
  | 0, _, _ => []
  | count + 1, tier, made =>
      tier :: if made + 1 < cap then walk cap last count tier (made + 1)
        else if tier < last then walk cap last count (tier + 1) 0
        else []

section Walk

variable {cap last : Nat}

theorem take_climb (count tier made : Nat) (hmade : made < cap) (htier : tier ≤ last) :
    (List.replicate (cap - made) tier ++ climb cap (tier + 1) last).take count =
      walk cap last count tier made := by
  induction count generalizing tier made with
  | zero => rfl
  | succ count ih =>
      have hfirst : cap - made = (cap - (made + 1)) + 1 := by omega
      rw [hfirst, List.replicate_succ, List.cons_append, List.take_succ_cons, walk]
      congr 1
      split
      · rename_i hlt
        exact ih tier (made + 1) hlt htier
      · rename_i hcap
        have hnone : cap - (made + 1) = 0 := by omega
        rw [hnone, List.replicate_zero, List.nil_append]
        split
        · rename_i hlt
          rw [← ih (tier + 1) 0 (by omega) hlt]
          have hrest : last + 1 - (tier + 1) = (last + 1 - (tier + 1 + 1)) + 1 := by omega
          rw [climb, hrest, List.range'_succ, List.flatMap_cons]
          rfl
        · rename_i hlast
          have hrest : last + 1 - (tier + 1) = 0 := by omega
          rw [climb, hrest]
          simp

theorem take_climb_start (count : Nat) {first : Nat} (hcap : 0 < cap) (hfirst : first ≤ last) :
    (climb cap first last).take count = walk cap last count first 0 := by
  rw [← take_climb count first 0 hcap hfirst]
  have hrest : last + 1 - first = (last + 1 - (first + 1)) + 1 := by omega
  rw [climb, hrest, List.range'_succ, List.flatMap_cons]
  rfl

end Walk

section Reasons

theorem rotation_or_vendor (reason : BlockReason) :
    reason ∉ escalatable ↔ reason ∈ rotationOnly ∨ reason ∈ vendorReasons := by
  cases reason with
  | _ => decide

theorem not_escalatable_iff {reason : Option String} (h : TechniqueReason reason) :
    isEscalatable reason = false ↔ VendorReason reason := by
  obtain ⟨value, rfl, htechnique⟩ := h
  have hknown : isEscalatable (some value) = false ↔ value ∈ nonEscalatableValues := by
    simp [isEscalatable]
  rw [hknown, nonEscalatableValues, List.mem_map]
  constructor
  · rintro ⟨known, hmem, rfl⟩
    have hnot : known ∉ escalatable := by simpa using (List.mem_filter.mp hmem).2
    rcases (rotation_or_vendor known).mp hnot with hrotation | hvendor
    · exact absurd (List.mem_map_of_mem hrotation) htechnique
    · exact ⟨known, hvendor, rfl⟩
  · rintro ⟨vendor, hvendor, hvalue⟩
    refine ⟨vendor, List.mem_filter.mpr ⟨?_, ?_⟩, (Option.some.inj hvalue).symm⟩
    · cases vendor with
      | _ => decide
    · simpa using (rotation_or_vendor vendor).mpr (.inr hvendor)

end Reasons

section Attempt

variable {text : TextMethods} {request : Request} {environment : Environment} {left : Nat}
  {state next : State} {answers : Answers} {proxy : Option Proxy} {result : FetchResult}

/-- Where a block leaves a caller that insists on a proxy: at the next tier, at the
same one, or at the end. -/
def forcedNext (request : Request) (left : Nat) (tier : Rung) (attempts : Nat)
    (reason : Option String) : Option (Rung × Nat) :=
  if request.attemptsPerTier ≤ attempts ∧ isEscalatable reason then
    match nextTier tier with
    | none => none
    | some next => if request.maxTier < next then none else some (next, 0)
  else if 0 < left then some (tier, attempts)
  else none

theorem afterBlock_forced (kept : State) (events : List Event)
    (huse : request.useProxy = some true) (hsleep : answers.sleep = .ok ()) :
    (∃ next attempts, (afterBlock request left kept proxy result events answers).exit =
          .ok .again ∧
        forcedNext request left kept.tier kept.attemptsAtTier result.blockReason =
          some (next, attempts) ∧
        (afterBlock request left kept proxy result events answers).state.tier = next ∧
        (afterBlock request left kept proxy result events answers).state.attemptsAtTier =
          attempts) ∨
      (∃ page, (afterBlock request left kept proxy result events answers).exit =
          .ok (.result page)) ∧
        forcedNext request left kept.tier kept.attemptsAtTier result.blockReason = none := by
  unfold afterBlock forcedNext
  split
  · cases nextTier kept.tier with
    | none => exact .inr ⟨⟨_, rfl⟩, rfl⟩
    | some next =>
        dsimp only
        split
        · exact .inr ⟨⟨_, rfl⟩, rfl⟩
        · exact .inl ⟨_, _, rfl, rfl, rfl, rfl⟩
  · rw [if_neg fun hdirect => hdirect.2 huse]
    split
    · left
      refine ⟨_, _, ?_, rfl, rfl, rfl⟩
      rw [sleepThen, hsleep]
      rfl
    · exact .inr ⟨⟨_, rfl⟩, rfl⟩

theorem onBlocked_forced (left : Nat) (state : State) (proxy : Option Proxy)
    (huse : request.useProxy = some true) (hreport : answers.report = .ok ())
    (hsleep : answers.sleep = .ok ()) :
    (∃ next attempts, (onBlocked request left state proxy result answers).exit = .ok .again ∧
        forcedNext request left state.tier (state.attemptsAtTier + 1) result.blockReason =
          some (next, attempts) ∧
        (onBlocked request left state proxy result answers).state.tier = next ∧
        (onBlocked request left state proxy result answers).state.attemptsAtTier = attempts) ∨
      (∃ page, (onBlocked request left state proxy result answers).exit = .ok (.result page)) ∧
        forcedNext request left state.tier (state.attemptsAtTier + 1) result.blockReason =
          none := by
  unfold onBlocked
  dsimp only
  cases request.hasProxyManager with
  | false => exact afterBlock_forced (state.count result) [] huse hsleep
  | true =>
      cases proxy with
      | none => exact afterBlock_forced (state.count result) [] huse hsleep
      | some used =>
          rw [hreport]
          exact afterBlock_forced ((state.count result).fail (some used)) _ huse hsleep

theorem attempt_forced (text : TextMethods) (left : Nat) (huse : request.useProxy = some true)
    (hreach : Reachable request state.tier)
    (hpage : BlockedPage request state (environment state.totalAttempts) result) :
    (∃ next, (attempt text request environment left state).exit = .again next ∧
        forcedNext request left state.tier (state.attemptsAtTier + 1) result.blockReason =
          some (next.tier, next.attemptsAtTier)) ∨
      (∃ out, (attempt text request environment left state).exit = .done out) ∧
        forcedNext request left state.tier (state.attemptsAtTier + 1) result.blockReason =
          none := by
  obtain ⟨proxy, -, hends⟩ := attempt_decides text left hreach hpage
  obtain ⟨hagain, hdone⟩ := hends _ rfl
  rcases onBlocked_forced left state.begin proxy huse hpage.reported hpage.slept with
    ⟨next, attempts, hexit, hforced, htier, hattempts⟩ | ⟨⟨page, hexit⟩, hforced⟩
  · left
    refine ⟨_, hagain hexit, ?_⟩
    rw [htier, hattempts]
    exact hforced
  · exact .inr ⟨⟨_, hdone _ hexit⟩, hforced⟩

end Attempt

section Run

variable {text : TextMethods} {request : Request} {environment : Environment}

/-- The attempts that meet the cap of their tier and are not the last the ceiling
allows, on the way to the highest reachable tier. -/
structure Decisive (request : Request) (attempt : Nat) : Prop where
  capped : request.attemptsPerTier ∣ attempt + 1
  followed : attempt + 1 < request.maxAttempts.toNat
  onLadder : attempt < request.attemptsPerTier * (request.maxTier.val + 1 - request.startTier.val)

/-- No decisive attempt is blocked with the value of a vendor reason. -/
def VendorFree (request : Request) (environment : Environment) : Prop :=
  ∀ attempt, Decisive request attempt → ∀ result, (environment attempt).fetch = .ok result →
    ¬ VendorReason result.blockReason

/-- A run with a proxy forced and at hand, in which every attempt comes back blocked
by the technique. -/
structure TechniqueBlocked (text : TextMethods) (request : Request) (environment : Environment) :
    Prop where
  forced : request.useProxy = some true
  noEngine : request.requestedEngine = none
  blocked : AllBlocked text request environment
  technique : ∀ visit ∈ attempts text request environment, ∀ result,
    (environment visit.state.totalAttempts).fetch = .ok result →
      TechniqueReason result.blockReason

def tiers (text : TextMethods) (request : Request) (environment : Environment) : List Nat :=
  (attempts text request environment).map fun visit => visit.state.tier.val

/-- The tiers of the run are those of the ladder's climb, cut off at the ceiling. -/
def ClimbsLadder (text : TextMethods) (request : Request) (environment : Environment) : Prop :=
  tiers text request environment =
    (climb request.attemptsPerTier request.startTier request.maxTier).take
      request.maxAttempts.toNat

theorem attemptsPerTier_pos (request : Request) : 0 < request.attemptsPerTier := by
  unfold Request.attemptsPerTier
  split
  · decide
  · split
    · omega
    · decide

theorem le_of_nextTier_none {rung : Rung} (h : nextTier rung = none) (other : Rung) :
    other.val ≤ rung.val := by
  unfold nextTier at h
  split at h
  · cases h
  · have := other.isLt
    omega

section Forced

variable {left attempts count : Nat} {tier next : Rung} {reason : Option String}

/-- Over the cap an escalatable block goes on at the next tier, if there is one in reach. -/
theorem forcedNext_bumps (hcap : request.attemptsPerTier ≤ attempts)
    (hreason : isEscalatable reason = true)
    (h : forcedNext request left tier attempts reason = some (next, count)) :
    nextTier tier = some next ∧ next ≤ request.maxTier ∧ count = 0 := by
  unfold forcedNext at h
  rw [if_pos ⟨hcap, hreason⟩] at h
  cases htier : nextTier tier with
  | none =>
      rw [htier] at h
      cases h
  | some rung =>
      rw [htier] at h
      dsimp only at h
      split at h
      · cases h
      · rename_i hle
        cases h
        exact ⟨rfl, not_lt.mp hle, rfl⟩

theorem forcedNext_tops (hcap : request.attemptsPerTier ≤ attempts)
    (hreason : isEscalatable reason = true)
    (h : forcedNext request left tier attempts reason = none) :
    ¬ tier.val < request.maxTier.val := by
  unfold forcedNext at h
  rw [if_pos ⟨hcap, hreason⟩] at h
  cases htier : nextTier tier with
  | none => exact Nat.not_lt.mpr (le_of_nextTier_none htier request.maxTier)
  | some rung =>
      rw [htier] at h
      dsimp only at h
      split at h
      · rename_i hlt
        have hrung := nextTier_eq_some.mp htier
        have hlt := Fin.lt_def.mp hlt
        omega
      · cases h

theorem forcedNext_stays (hstays : ¬ (request.attemptsPerTier ≤ attempts ∧ isEscalatable reason))
    (h : forcedNext request left tier attempts reason = some (next, count)) :
    0 < left ∧ next = tier ∧ count = attempts := by
  unfold forcedNext at h
  rw [if_neg hstays] at h
  split at h
  · rename_i hleft
    cases h
    exact ⟨hleft, rfl, rfl⟩
  · cases h

theorem forcedNext_ends (hstays : ¬ (request.attemptsPerTier ≤ attempts ∧ isEscalatable reason))
    (h : forcedNext request left tier attempts reason = none) : left = 0 := by
  unfold forcedNext at h
  rw [if_neg hstays] at h
  split at h
  · cases h
  · omega

end Forced

theorem startTier_le (h : request.requestedEngine = none) :
    request.startTier ≤ request.maxTier := by
  rcases reachable_startTier request with hle | hengine
  · exact hle
  · rw [h] at hengine
    cases hengine

/-- `VendorFree`, for the next `count` attempts. -/
def VendorFreeFrom (request : Request) (environment : Environment) (first count : Nat) : Prop :=
  ∀ attempt, first ≤ attempt → attempt + 1 < first + count →
    request.attemptsPerTier ∣ attempt + 1 →
    attempt < request.attemptsPerTier * (request.maxTier.val + 1 - request.startTier.val) →
      ∀ result, (environment attempt).fetch = .ok result → ¬ VendorReason result.blockReason

structure OnClimb (request : Request) (state : State) : Prop where
  bounded : state.tier ≤ request.maxTier
  started : request.startTier.val ≤ state.tier.val
  uncapped : state.attemptsAtTier < request.attemptsPerTier
  counted : state.totalAttempts =
    request.attemptsPerTier * (state.tier.val - request.startTier.val) + state.attemptsAtTier

theorem vendorFreeFrom_skip {first count : Nat} (hcap : ¬ request.attemptsPerTier ∣ first + 1) :
    VendorFreeFrom request environment first (count + 1) ↔
      VendorFreeFrom request environment (first + 1) count := by
  constructor
  · intro h attempt hfirst hcount
    exact h attempt (by omega) (by omega)
  · intro h attempt hfirst hcount hdvd
    have hne : first ≠ attempt := fun heq => hcap (heq ▸ hdvd)
    exact h attempt (by omega) (by omega) hdvd

theorem vendorFreeFrom_cons {first count : Nat} {result : FetchResult}
    (hfetch : (environment first).fetch = .ok result)
    (hresult : ¬ VendorReason result.blockReason) :
    VendorFreeFrom request environment first (count + 1) ↔
      VendorFreeFrom request environment (first + 1) count := by
  constructor
  · intro h attempt hfirst hcount
    exact h attempt (by omega) (by omega)
  · intro h attempt hfirst hcount hdvd hladder other hother
    by_cases heq : first = attempt
    · subst heq
      rw [hfetch] at hother
      cases hother
      exact hresult
    · exact h attempt (by omega) (by omega) hdvd hladder other hother

theorem OnClimb.succ_total {state : State} (h : OnClimb request state)
    (hcap : state.attemptsAtTier + 1 = request.attemptsPerTier) :
    state.totalAttempts + 1 =
      request.attemptsPerTier * (state.tier.val + 1 - request.startTier.val) := by
  have hstarted := h.started
  have hsub : state.tier.val + 1 - request.startTier.val =
      (state.tier.val - request.startTier.val) + 1 := by omega
  rw [hsub, Nat.mul_succ, h.counted]
  omega

theorem OnClimb.not_capped {state : State} (h : OnClimb request state)
    (hcap : state.attemptsAtTier + 1 < request.attemptsPerTier) :
    ¬ request.attemptsPerTier ∣ state.totalAttempts + 1 := by
  intro hdvd
  rw [h.counted, Nat.add_assoc] at hdvd
  have hrest := (Nat.dvd_add_right (Nat.dvd_mul_right _ _)).mp hdvd
  exact absurd (Nat.le_of_dvd (Nat.succ_pos _) hrest) (Nat.not_le.mpr hcap)

theorem OnClimb.again {state next : State} (h : OnClimb request state)
    (hcap : state.attemptsAtTier + 1 < request.attemptsPerTier) (htier : next.tier = state.tier)
    (hattempts : next.attemptsAtTier = state.attemptsAtTier + 1)
    (htotal : next.totalAttempts = state.totalAttempts + 1) : OnClimb request next := by
  constructor
  · exact htier ▸ h.bounded
  · exact htier ▸ h.started
  · exact hattempts ▸ hcap
  · rw [htotal, htier, hattempts, h.counted]
    rfl

theorem OnClimb.bump {state next : State} (h : OnClimb request state)
    (hcap : state.attemptsAtTier + 1 = request.attemptsPerTier)
    (htier : nextTier state.tier = some next.tier) (hle : next.tier ≤ request.maxTier)
    (hattempts : next.attemptsAtTier = 0)
    (htotal : next.totalAttempts = state.totalAttempts + 1) : OnClimb request next := by
  have hrung := nextTier_eq_some.mp htier
  constructor
  · exact hle
  · have hstarted := h.started
    omega
  · exact hattempts ▸ attemptsPerTier_pos request
  · rw [htotal, h.succ_total hcap, hattempts, hrung]
    rfl

def tiersFrom (text : TextMethods) (request : Request) (environment : Environment) (count : Nat)
    (state : State) : List Nat :=
  (visits (attempt text request environment) count state).map fun visit => visit.state.tier.val

/-- The tiers from a state on are those of the walk exactly when no decisive attempt
is blocked with the value of a vendor reason. -/
def WalksIff (text : TextMethods) (request : Request) (environment : Environment) (count : Nat)
    (state : State) : Prop :=
  tiersFrom text request environment count state =
      walk request.attemptsPerTier request.maxTier count state.tier state.attemptsAtTier ↔
    VendorFreeFrom request environment state.totalAttempts count

section Cases

variable {left : Nat} {state next : State} {result : FetchResult}

theorem tiersFrom_again (h : (attempt text request environment left state).exit = .again next) :
    tiersFrom text request environment (left + 1) state =
      state.tier.val :: tiersFrom text request environment left next := by
  rw [tiersFrom, visits_again h]
  rfl

theorem tiersFrom_done {out : Outcome}
    (h : (attempt text request environment left state).exit = .done out) :
    tiersFrom text request environment (left + 1) state = [state.tier.val] := by
  rw [tiersFrom, visits_done h]
  rfl

theorem walksIff_last (hdone : ∃ out, (attempt text request environment 0 state).exit = .done out) :
    WalksIff text request environment 1 state := by
  obtain ⟨out, hdone⟩ := hdone
  unfold WalksIff
  rw [tiersFrom_done hdone]
  apply iff_of_true
  · rw [walk]
    split
    · rfl
    · split
      · rfl
      · rfl
  · intro attempt hfirst hcount
    omega

theorem walksIff_below (hclimb : OnClimb request state)
    (hcap : state.attemptsAtTier + 1 < request.attemptsPerTier)
    (hagain : (attempt text request environment left state).exit = .again next)
    (htier : next.tier = state.tier) (hattempts : next.attemptsAtTier = state.attemptsAtTier + 1)
    (htotal : next.totalAttempts = state.totalAttempts + 1)
    (ih : WalksIff text request environment left next) :
    WalksIff text request environment (left + 1) state := by
  unfold WalksIff at ih ⊢
  rw [tiersFrom_again hagain, walk, if_pos hcap, List.cons_inj_right,
    vendorFreeFrom_skip (hclimb.not_capped hcap), ← htotal, ← ih, htier, hattempts]

theorem walksIff_bump (hcap : state.attemptsAtTier + 1 = request.attemptsPerTier)
    (hfetch : (environment state.totalAttempts).fetch = .ok result)
    (hreason : ¬ VendorReason result.blockReason)
    (hagain : (attempt text request environment left state).exit = .again next)
    (htier : nextTier state.tier = some next.tier) (hle : next.tier ≤ request.maxTier)
    (hattempts : next.attemptsAtTier = 0)
    (htotal : next.totalAttempts = state.totalAttempts + 1)
    (ih : WalksIff text request environment left next) :
    WalksIff text request environment (left + 1) state := by
  have hrung := nextTier_eq_some.mp htier
  have hlt : state.tier.val < request.maxTier.val := by
    have hle := Fin.le_def.mp hle
    omega
  unfold WalksIff at ih ⊢
  rw [tiersFrom_again hagain, walk, if_neg (by omega), if_pos hlt, List.cons_inj_right,
    vendorFreeFrom_cons hfetch hreason, ← htotal, ← ih, hrung, hattempts]

theorem walksIff_top (hclimb : OnClimb request state)
    (hcap : state.attemptsAtTier + 1 = request.attemptsPerTier)
    (hfetch : (environment state.totalAttempts).fetch = .ok result)
    (hreason : ¬ VendorReason result.blockReason)
    (hdone : ∃ out, (attempt text request environment left state).exit = .done out)
    (htop : ¬ state.tier.val < request.maxTier.val) :
    WalksIff text request environment (left + 1) state := by
  obtain ⟨out, hdone⟩ := hdone
  unfold WalksIff
  rw [tiersFrom_done hdone, walk, if_neg (by omega), if_neg htop,
    vendorFreeFrom_cons hfetch hreason]
  apply iff_of_true rfl
  intro attempt hfirst hcount hdvd hladder
  have htotal := hclimb.succ_total hcap
  have hbounded := Fin.le_def.mp hclimb.bounded
  have hsame : state.tier.val = request.maxTier.val := by omega
  rw [hsame] at htotal
  omega

theorem walksIff_vendor (hclimb : OnClimb request state)
    (hcap : state.attemptsAtTier + 1 = request.attemptsPerTier)
    (hfetch : (environment state.totalAttempts).fetch = .ok result)
    (hreason : VendorReason result.blockReason) (hleft : 0 < left)
    (hagain : (attempt text request environment left state).exit = .again next)
    (htier : next.tier = state.tier) : WalksIff text request environment (left + 1) state := by
  obtain ⟨count, rfl⟩ := Nat.exists_eq_succ_of_ne_zero (Nat.ne_of_gt hleft)
  unfold WalksIff
  rw [tiersFrom_again hagain, walk, if_neg (by omega), List.cons_inj_right]
  apply iff_of_false
  · have hhead : (tiersFrom text request environment (count + 1) next).head? =
        some state.tier.val := by rw [← htier]; rfl
    intro hwalk
    rw [hwalk] at hhead
    split at hhead
    · rw [walk, List.head?_cons, Option.some.injEq] at hhead
      omega
    · cases hhead
  · intro hfree
    have htotal := hclimb.succ_total hcap
    have hdvd : request.attemptsPerTier ∣ state.totalAttempts + 1 := by
      rw [htotal]
      exact Nat.dvd_mul_right _ _
    have hbounded := Fin.le_def.mp hclimb.bounded
    have hladder : state.totalAttempts + 1 ≤
        request.attemptsPerTier * (request.maxTier.val + 1 - request.startTier.val) := by
      rw [htotal]
      exact Nat.mul_le_mul_left _ (by omega)
    exact hfree state.totalAttempts (Nat.le_refl _) (by omega) hdvd (by omega) result hfetch hreason

end Cases

/-- From a state on the climb, the decisive attempts decide whether the run is the walk. -/
theorem walks_iff (huse : request.useProxy = some true) {count : Nat} {state : State}
    (hclimb : OnClimb request state)
    (hpages : ∀ visit ∈ visits (attempt text request environment) count state, ∃ result,
      BlockedPage request visit.state (environment visit.state.totalAttempts) result ∧
        TechniqueReason result.blockReason) :
    WalksIff text request environment count state := by
  induction count generalizing state with
  | zero =>
      apply iff_of_true rfl
      intro attempt hfirst hcount
      omega
  | succ left ih =>
      obtain ⟨result, hpage, htechnique⟩ := hpages _ (List.mem_cons_self ..)
      have hvendor := not_escalatable_iff htechnique
      have hforced := attempt_forced text left huse (.inl hclimb.bounded) hpage
      have hnext : ∀ next, (attempt text request environment left state).exit = .again next →
          OnClimb request next → WalksIff text request environment left next := by
        intro next hagain hon
        apply ih hon
        rw [visits_again hagain] at hpages
        exact fun visit hvisit => hpages visit (List.mem_cons_of_mem _ hvisit)
      have htotal : ∀ next, (attempt text request environment left state).exit = .again next →
          next.totalAttempts = state.totalAttempts + 1 := by
        intro next hagain
        obtain ⟨_, _, hresumes⟩ := attempt_again hagain
        exact hresumes.counts
      by_cases hcap : state.attemptsAtTier + 1 < request.attemptsPerTier
      · have hstays : ¬ (request.attemptsPerTier ≤ state.attemptsAtTier + 1 ∧
            isEscalatable result.blockReason) := fun h => Nat.not_le.mpr hcap h.1
        rcases hforced with ⟨next, hagain, hsome⟩ | ⟨hdone, hnone⟩
        · obtain ⟨-, htier, hattempts⟩ := forcedNext_stays hstays hsome
          have hon := hclimb.again hcap htier hattempts (htotal next hagain)
          exact walksIff_below hclimb hcap hagain htier hattempts (htotal next hagain)
            (hnext next hagain hon)
        · obtain rfl := forcedNext_ends hstays hnone
          exact walksIff_last hdone
      · have hcap : state.attemptsAtTier + 1 = request.attemptsPerTier := by
          have huncapped := hclimb.uncapped
          omega
        cases hreason : isEscalatable result.blockReason with
        | true =>
            have hfree : ¬ VendorReason result.blockReason := by
              rw [← hvendor, hreason]
              nofun
            rcases hforced with ⟨next, hagain, hsome⟩ | ⟨hdone, hnone⟩
            · obtain ⟨hrung, hle, hattempts⟩ :=
                forcedNext_bumps (Nat.le_of_eq hcap.symm) hreason hsome
              have hon := hclimb.bump hcap hrung hle hattempts (htotal next hagain)
              exact walksIff_bump hcap hpage.fetched hfree hagain hrung hle hattempts
                (htotal next hagain) (hnext next hagain hon)
            · exact walksIff_top hclimb hcap hpage.fetched hfree hdone
                (forcedNext_tops (Nat.le_of_eq hcap.symm) hreason hnone)
        | false =>
            have hstays : ¬ (request.attemptsPerTier ≤ state.attemptsAtTier + 1 ∧
                isEscalatable result.blockReason) := by
              rw [hreason]
              exact fun h => Bool.false_ne_true h.2
            rcases hforced with ⟨next, hagain, hsome⟩ | ⟨hdone, hnone⟩
            · obtain ⟨hleft, htier, -⟩ := forcedNext_stays hstays hsome
              exact walksIff_vendor hclimb hcap hpage.fetched (hvendor.mp hreason) hleft hagain
                htier
            · obtain rfl := forcedNext_ends hstays hnone
              exact walksIff_last hdone

/-- In a run of technique blocks the tiers are those of the climb exactly when no
decisive attempt is blocked with the value of a vendor reason. -/
theorem climbs_ladder_iff (h : TechniqueBlocked text request environment) :
    ClimbsLadder text request environment ↔ VendorFree request environment := by
  have hle := startTier_le h.noEngine
  have hclimb : OnClimb request request.initialState := by
    constructor
    · exact hle
    · exact Nat.le_refl _
    · exact attemptsPerTier_pos request
    · change 0 = request.attemptsPerTier * (request.startTier.val - request.startTier.val) + 0
      rw [Nat.sub_self, Nat.mul_zero]
  have hwalks : WalksIff text request environment request.maxAttempts.toNat
      request.initialState := by
    apply walks_iff h.forced hclimb
    intro visit hvisit
    obtain ⟨result, hpage⟩ := h.blocked visit hvisit
    exact ⟨result, hpage, h.technique visit hvisit result hpage.fetched⟩
  have hfree : VendorFreeFrom request environment 0 request.maxAttempts.toNat ↔
      VendorFree request environment := by
    constructor
    · intro hfree attempt hdecisive
      exact hfree attempt (Nat.zero_le _) (by rw [Nat.zero_add]; exact hdecisive.followed)
        hdecisive.capped hdecisive.onLadder
    · intro hfree attempt _ hcount hdvd hladder
      exact hfree attempt ⟨hdvd, by rwa [Nat.zero_add] at hcount, hladder⟩
  unfold ClimbsLadder
  rw [take_climb_start _ (attemptsPerTier_pos request) hle, ← hfree]
  exact hwalks

end Run

/-! Two attempts a tier, forced through a proxy, on pages that name their vendor. -/

def twoAttemptsPerTier : Request where
  fetcher := getFetcher .httpx
  url := "https://example.com/"
  domain := "example.com"
  policy := some { maxRetries := some 2, maxEscalationAttempts := some 4 }
  useProxy := some true

theorem techniqueBlocked_of_reason (reason : BlockReason) (h : reason ∉ rotationOnly) :
    TechniqueBlocked asciiText twoAttemptsPerTier (blockedBy reason) where
  forced := rfl
  noEngine := rfl
  blocked := blockedBy_allBlocked _ _ _
  technique := by
    intro visit _ result hfetch
    cases hfetch
    refine ⟨reason.value, rfl, ?_⟩
    revert h
    cases reason with
    | _ => decide

theorem climbs_ladder_iff_waf :
    ClimbsLadder asciiText twoAttemptsPerTier (blockedBy .waf) ↔
      VendorFree twoAttemptsPerTier (blockedBy .waf) :=
  climbs_ladder_iff (techniqueBlocked_of_reason .waf (by decide))

theorem vendor_block_rotates :
    ¬ ∀ text request environment, TechniqueBlocked text request environment →
      ClimbsLadder text request environment := by
  intro h
  have hclimbs := h asciiText twoAttemptsPerTier (blockedBy .kasada)
    (techniqueBlocked_of_reason .kasada (by decide))
  exact absurd hclimbs (by unfold ClimbsLadder; decide)

end CrawlerApi.Fetch
