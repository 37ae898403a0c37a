import CrawlerApi.Limits.RateLimiter

/-!
# Retry-After

A denial finds the set at the limit, so the script removes nothing and the key stays as it
is.  Until the next admission every check therefore meets the same oldest member, and the
reset is the reading from which on that member is removed.  The wait that is announced is
computed in doubles and may end a little before that reading.
-/

namespace CrawlerApi.Limits

open Foundation

abbrev Results := List (Served Redis Evaluation RateLimitResult)

def Admitted (name : String) (window : Nat) (limit : Int) (redis : Redis)
    (evaluation : Evaluation) : Prop :=
  evaluation.outcome ≠ .refused ∧
    (luaSlidingWindow ⟨window, limit.toNat⟩ (redis name) (evaluation.check 1)).2.allowed = true

instance : Decidable (Admitted name window limit redis evaluation) :=
  inferInstanceAs (Decidable (_ ∧ _))

def ExpiresLate (name : String) (window : Nat) (limit : Int) (served : Results) : Prop :=
  served.Pairwise fun earlier later => Admitted name window limit earlier.before earlier.action →
    (later.before name).expired later.action.evaluatedAt →
      earlier.action.now + (window : Int) * 1000 ≤ later.action.now

instance : Decidable (ExpiresLate name window limit served) :=
  inferInstanceAs (Decidable (List.Pairwise _ _))

/-- After some history `first` is denied, and nothing is admitted between it and `later`. -/
structure DeniedRun (name : String) (window : Nat) (limit : Int) (layer : String)
    (history : List Evaluation) (first : Evaluation) (between : List Evaluation)
    (later : Evaluation) : Prop where
  expires : ExpiresLate name window limit (transcript (check name window limit layer 1) .empty
    (history ++ first :: between ++ [later]))
  denied : (check name window limit layer 1
    (serveAll (check name window limit layer 1) .empty history) first).2.allowed = false
  quiet : ∀ served ∈ transcript (check name window limit layer 1)
    (check name window limit layer 1
      (serveAll (check name window limit layer 1) .empty history) first).1 between,
    ¬ Admitted name window limit served.before served.action

def Present (instant : Rat) : Prop := 1100000000 ≤ instant ∧ instant < 2147483648

instance : Decidable (Present instant) := inferInstanceAs (Decidable (_ ∧ _))

/-- Whoever comes back no sooner than `wait` seconds after the denial is admitted. -/
def AdmittedAfter (first later : Evaluation) (answer : RateLimitResult) (wait : Rat) : Prop :=
  ∀ left back, Present left → Present back → first.finished = timeMs left →
    later.started = timeMs back → left + wait ≤ back → answer.allowed = true

/-- The reset of a denial is the reading from which on checks are admitted, and the wait it
announces, and `slack` more, leads there, as does the wait in whole seconds. -/
structure ExactRetry (slack : Rat) (name : String) (window : Nat) (before : Redis)
    (first : Evaluation) (denial : Redis × RateLimitResult) (later : Evaluation)
    (answer : RateLimitResult) : Prop where
  unchanged : (denial.1 name).set.removeUpTo (first.now - window * 1000) =
    (before name).set.removeUpTo (first.now - window * 1000)
  ahead : first.now < denial.2.resetAtMs
  early : later.now < denial.2.resetAtMs → answer.allowed = false
  due : denial.2.resetAtMs ≤ later.now → answer.allowed = true
  waited : AdmittedAfter first later answer (denial.2.retryAfterS + slack)
  waitedCeil : AdmittedAfter first later answer ⌈denial.2.retryAfterS⌉

/-- The set is at the limit, and `oldest` is the member that leaves it first. -/
structure Full (layer : Layer) (key : Key) (oldest : Scored String) : Prop where
  size : key.set.card = layer.limit
  first : key.set.first = some oldest

section Step

variable {layer : Layer} {key : Key} {check : Check} {oldest : Scored String}

theorem Full.of_denied (hcapped : key.set.card ≤ layer.limit) (hlimit : 0 < layer.limit)
    (hcost : check.cost = 1) (hdenied : (luaSlidingWindow layer key check).2.allowed = false) :
    ∃ oldest, Full layer key oldest ∧ live layer key check = key.set ∧
      ¬ key.expired check.evaluatedAt := by
  have hover : ¬ (live layer key check).card + check.cost ≤ layer.limit := by
    rw [← allowed_iff, hdenied]
    exact Bool.false_ne_true
  rw [hcost] at hover
  have hle := @card_live_le layer key check
  have hfresh : ¬ key.expired check.evaluatedAt := by
    intro hexpired
    rw [live_of_expired hexpired] at hover
    omega
  have hlive : live layer key check = key.set := by
    rw [live_of_not_expired hfresh] at hover ⊢
    apply SortedSet.removeUpTo_of_card
    omega
  have hsize : key.set.card = layer.limit := by
    rw [hlive] at hover
    omega
  cases hfirst : key.set.first with
  | none =>
      have hempty : key.set.card = 0 := by
        rw [SortedSet.card, List.head?_eq_none_iff.mp hfirst, List.length_nil]
      omega
  | some oldest => exact ⟨oldest, ⟨hsize, hfirst⟩, hlive, hfresh⟩

theorem Full.denied (full : Full layer key oldest) (hlive : live layer key check = key.set)
    (hfresh : ¬ key.expired check.evaluatedAt) (hcost : check.cost = 1) :
    luaSlidingWindow layer key check =
      (key, ⟨false, layer.limit, oldest.score + layer.window * 1000⟩) := by
  unfold luaSlidingWindow Key.fetched
  dsimp only
  rw [hlive, if_neg hfresh, full.size, full.first, hcost]
  exact if_pos (by omega)

theorem Full.cutoff_lt (full : Full layer key oldest) (hlive : live layer key check = key.set)
    (hfresh : ¬ key.expired check.evaluatedAt) : check.cutoff layer < oldest.score := by
  have hmem := SortedSet.first_mem full.first
  rw [← hlive, live_of_not_expired hfresh] at hmem
  exact (SortedSet.mem_entries_removeUpTo.mp hmem).2

/-- On a full set the oldest member decides. -/
theorem Full.allowed_iff (full : Full layer key oldest) (hlimit : 0 < layer.limit)
    (hcost : check.cost = 1) (hexpires : key.expired check.evaluatedAt →
      oldest.score + layer.window * 1000 ≤ check.now) :
    (luaSlidingWindow layer key check).2.allowed = true ↔
      oldest.score + layer.window * 1000 ≤ check.now := by
  rw [Limits.allowed_iff, hcost]
  have hsize := full.size
  by_cases hexpired : key.expired check.evaluatedAt
  · refine iff_of_true ?_ (hexpires hexpired)
    rw [live_of_expired hexpired]
    omega
  · rw [live_of_not_expired hexpired]
    constructor
    · intro hroom
      by_contra hearly
      have hkept : key.set.removeUpTo (check.cutoff layer) = key.set := by
        apply SortedSet.removeUpTo_of_forall
        intro entry hentry
        have hlater := SortedSet.first_score_le full.first hentry
        unfold Check.cutoff
        omega
      rw [hkept] at hroom
      omega
    · intro hdue
      have hgone : oldest.score ≤ check.cutoff layer := by
        unfold Check.cutoff
        omega
      have hless := SortedSet.card_removeUpTo_lt full.first hgone
      omega

theorem mem_of_mem_live {entry : Scored String} (h : entry ∈ (live layer key check).entries) :
    entry ∈ key.set.entries := by
  by_cases hexpired : key.expired check.evaluatedAt
  · have hnone := List.eq_nil_of_length_eq_zero (@live_of_expired layer key check hexpired)
    rw [hnone] at h
    cases h
  · rw [live_of_not_expired hexpired] at h
    exact (SortedSet.mem_entries_removeUpTo.mp h).1

theorem card_step_le (hcapped : key.set.card ≤ layer.limit) (hcost : check.cost = 1) :
    (luaSlidingWindow layer key check).1.set.card ≤ layer.limit := by
  cases h : (luaSlidingWindow layer key check).2.allowed with
  | true =>
      rw [set_admitted hcost h]
      have hroom := Limits.allowed_iff.mp h
      rw [hcost] at hroom
      have hadd := (live layer key check).card_add_le check.now
        (member check.now 1 (check.random 1))
      omega
  | false =>
      rw [set_denied h]
      exact card_live_le.trans hcapped

theorem mem_step {entry : Scored String} (hcost : check.cost = 1)
    (h : entry ∈ (luaSlidingWindow layer key check).1.set.entries) :
    entry ∈ key.set.entries ∨
      (luaSlidingWindow layer key check).2.allowed = true ∧ entry.score = check.now := by
  cases hallowed : (luaSlidingWindow layer key check).2.allowed with
  | true =>
      rw [set_admitted hcost hallowed, SortedSet.mem_entries_add] at h
      rcases h with rfl | ⟨hlive, -⟩
      · exact .inr ⟨rfl, rfl⟩
      · exact .inl (mem_of_mem_live hlive)
  | false =>
      rw [set_denied hallowed] at h
      exact .inl (mem_of_mem_live h)

end Step

section Runs

variable {name : String} {window : Nat} {limit : Int} {layer : String}

structure Kept (name : String) (window : Nat) (limit : Int) (redis : Redis) (served : Results) :
    Prop where
  capped : (redis name).set.card ≤ limit.toNat
  admitted : ∀ entry ∈ (redis name).set.entries, ∃ earlier ∈ served,
    Admitted name window limit earlier.before earlier.action ∧ earlier.action.now = entry.score

theorem kept_empty : Kept name window limit .empty [] where
  capped := Nat.zero_le _
  admitted entry hentry := by cases hentry

theorem Kept.step {redis : Redis} {served : Results} {evaluation : Evaluation}
    (kept : Kept name window limit redis served) :
    Kept name window limit (check name window limit layer 1 redis evaluation).1
      (served ++ [⟨redis, evaluation, (check name window limit layer 1 redis evaluation).2⟩]) where
  capped := by
    by_cases hrefused : evaluation.outcome = .refused
    · rw [check_refused hrefused]
      exact kept.capped
    · rw [check_ran hrefused, Function.update_self]
      exact @card_step_le ⟨window, limit.toNat⟩ _ _ kept.capped rfl
  admitted entry hentry := by
    have hold : entry ∈ (redis name).set.entries → ∃ earlier ∈ served ++
        [⟨redis, evaluation, (check name window limit layer 1 redis evaluation).2⟩],
        Admitted name window limit earlier.before earlier.action ∧
          earlier.action.now = entry.score := by
      intro hmem
      obtain ⟨earlier, hearlier, hadmitted⟩ := kept.admitted entry hmem
      exact ⟨earlier, List.mem_append_left _ hearlier, hadmitted⟩
    by_cases hrefused : evaluation.outcome = .refused
    · rw [check_refused hrefused] at hentry
      exact hold hentry
    · rw [check_ran hrefused, Function.update_self] at hentry
      rcases mem_step rfl hentry with hmem | ⟨hallowed, hscore⟩
      · exact hold hmem
      · exact ⟨_, List.mem_append_right _ (List.mem_singleton_self _), ⟨hrefused, hallowed⟩,
          hscore.symm⟩

theorem kept_history (history : List Evaluation) :
    Kept name window limit (serveAll (check name window limit layer 1) .empty history)
      (transcript (check name window limit layer 1) .empty history) :=
  history_invariant (Kept name window limit) (fun _ _ _ => True) (fun _ _ _ kept _ => kept.step)
    kept_empty fun _ _ _ _ => trivial

theorem check_of_not_admitted {redis : Redis} {evaluation : Evaluation} (hlimit : 1 ≤ limit)
    (hcapped : (redis name).set.card ≤ limit.toNat)
    (h : ¬ Admitted name window limit redis evaluation) :
    (check name window limit layer 1 redis evaluation).1 name = redis name := by
  by_cases hrefused : evaluation.outcome = .refused
  · rw [check_refused hrefused]
  · have hdeny := Bool.eq_false_iff.mpr fun hallowed => h ⟨hrefused, hallowed⟩
    obtain ⟨oldest, full, hlive, hfresh⟩ := @Full.of_denied ⟨window, limit.toNat⟩ _ _
      hcapped (by dsimp only; omega) rfl hdeny
    rw [check_ran hrefused, Function.update_self, full.denied hlive hfresh rfl]

theorem serveAll_of_not_admitted {redis : Redis} {between : List Evaluation} (hlimit : 1 ≤ limit)
    (hcapped : (redis name).set.card ≤ limit.toNat)
    (hquiet : ∀ served ∈ transcript (check name window limit layer 1) redis between,
      ¬ Admitted name window limit served.before served.action) :
    serveAll (check name window limit layer 1) redis between name = redis name := by
  induction between generalizing redis with
  | nil => rfl
  | cons evaluation between ih =>
      obtain ⟨hfirst, hrest⟩ := List.forall_mem_cons.mp hquiet
      have hsame := @check_of_not_admitted name window limit layer _ _ hlimit hcapped hfirst
      exact (ih (hsame ▸ hcapped) hrest).trans hsame

/-! ### The wait in doubles -/

section Waits

variable {reset : Int} {left back nowMs : Rat}

theorem Present.inBinade (h : Present left) : InBinade 30 left where
  normal := by norm_num
  lower := by norm_num; linarith [h.1]
  upper := by norm_num; linarith [h.2]

theorem Present.abs_sub_le (h : Present left) : |binary64 left - left| ≤ 1 / 8388608 := by
  have herror : |binary64 left - left| ≤ 2 ^ ((31 : Int) - 54) := by
    apply abs_binary64_sub_le (by norm_num)
    rw [abs_lt]
    constructor
    · norm_num
      linarith [h.1]
    · norm_num
      linarith [h.2]
  norm_num at herror
  norm_num
  exact herror

theorem Present.inBinade_scaled (h : Present left) : InBinade 40 (binary64 left * 1000) := by
  have hread := abs_le.mp h.abs_sub_le
  refine ⟨by norm_num, ?_, ?_⟩
  · norm_num
    linarith [h.1]
  · norm_num
    linarith [h.2]

theorem Present.abs_timeMs_sub_le (h : Present left) :
    |timeMs left - 1000 * left| ≤ 253 / 1048576 := by
  have hread := abs_le.mp h.abs_sub_le
  have hscaled : |timeMs left - binary64 left * 1000| ≤ 2 ^ ((41 : Int) - 54) := by
    apply abs_binary64_sub_le (by norm_num)
    rw [abs_lt]
    constructor
    · norm_num
      linarith [h.1]
    · norm_num
      linarith [h.2]
  norm_num at hscaled
  rw [abs_le] at hscaled ⊢
  constructor <;> linarith

theorem timeMs_add_le {seconds : Int} (hleft : Present left) (hback : Present back)
    (h : left + seconds ≤ back) : timeMs left + 1000 * seconds ≤ timeMs back := by
  have hread : binary64 left + seconds ≤ binary64 back := by
    apply hleft.inBinade.binary64_add_le hback.inBinade _ h
    · exact seconds * 2 ^ 21
    · push_cast
      norm_num
      ring
  apply hleft.inBinade_scaled.binary64_add_le hback.inBinade_scaled (k := seconds * 1000 * 2 ^ 11)
  · push_cast
    norm_num
    ring
  · linarith

theorem waitS_pos (reset : Int) (nowMs : Rat) : 0 < waitS reset nowMs :=
  lt_max_of_lt_left (by decide +kernel)

theorem gap_lt_of_waitS_lt (hshort : waitS reset nowMs < 2 ^ (31 : Int)) :
    binary64 (binary64 reset - nowMs) / 1000 < 2 ^ (31 : Int) ∧
      binary64 reset - nowMs < 2 ^ (41 : Int) := by
  have hwait := (le_max_right _ _).trans_lt hshort
  have hquotient : binary64 (binary64 reset - nowMs) / 1000 < 2 ^ (31 : Int) := by
    by_contra hlong
    exact absurd (zpow_le_binary64 (by norm_num) (not_lt.mp hlong)) (not_le.mpr hwait)
  refine ⟨hquotient, ?_⟩
  by_contra hfar
  have hgap := zpow_le_binary64 (by norm_num) (not_lt.mp hfar)
  norm_num at hgap hquotient
  linarith

theorem sub_le_waitS (hnow : 0 ≤ nowMs) (hpresent : nowMs < 2 ^ (41 : Int))
    (hshort : waitS reset nowMs < 2 ^ (31 : Int)) :
    reset - nowMs ≤ 1000 * waitS reset nowMs + 253 / 1048576 := by
  obtain ⟨hquotient, hnear⟩ := gap_lt_of_waitS_lt hshort
  have hpos := waitS_pos reset nowMs
  by_cases hpast : (reset : Rat) ≤ nowMs
  · linarith
  have hexact : binary64 reset = reset := by
    apply binary64_intCast
    have hfrom : (0 : Rat) < reset := by linarith
    rw [abs_of_pos (by exact_mod_cast hfrom)]
    by_contra hfar
    have hcast : (2 : Rat) ^ (53 : Int) ≤ reset := by exact_mod_cast not_lt.mp hfar
    have hreset := zpow_le_binary64 (by norm_num) hcast
    norm_num at hreset hnear hpresent
    linarith
  rw [hexact] at hquotient hnear
  have hgap : |binary64 (reset - nowMs) - (reset - nowMs)| ≤ 2 ^ ((41 : Int) - 54) := by
    apply abs_binary64_sub_le (by norm_num)
    rw [abs_of_pos (by linarith)]
    exact hnear
  norm_num at hgap
  rw [abs_le] at hgap
  have hround : |binary64 (binary64 (reset - nowMs) / 1000) - binary64 (reset - nowMs) / 1000| ≤
      2 ^ ((31 : Int) - 54) := by
    apply abs_binary64_sub_le (by norm_num)
    rw [abs_lt]
    refine ⟨?_, hquotient⟩
    norm_num
    linarith
  norm_num at hround
  rw [abs_le] at hround
  have hwait : binary64 (binary64 (reset - nowMs) / 1000) ≤ waitS reset nowMs := by
    unfold waitS
    rw [hexact]
    exact le_max_right _ _
  linarith

theorem waited_sub_le {wait : Rat} (hleft : Present left) (hback : Present back)
    (hwait : waitS reset (timeMs left) ≤ wait) (h : left + wait ≤ back) :
    reset - timeMs left ≤ 1000 * waitS reset (timeMs left) + 253 / 1048576 := by
  have hstart := abs_le.mp hleft.abs_timeMs_sub_le
  apply sub_le_waitS
  · linarith [hleft.1]
  · norm_num
    linarith [hleft.2]
  · norm_num
    linarith [hleft.1, hback.2]

theorem reset_le_of_waited (hleft : Present left) (hback : Present back)
    (h : left + (waitS reset (timeMs left) + 1 / 1000000) ≤ back) : reset ≤ timeMs back := by
  have hstart := abs_le.mp hleft.abs_timeMs_sub_le
  have hend := abs_le.mp hback.abs_timeMs_sub_le
  have hreset := waited_sub_le hleft hback (le_add_of_nonneg_right (by norm_num)) h
  linarith

/-- Past the whole seconds the reset would be a step of the clock's grid away, and that is
more than the wait loses by rounding. -/
theorem reset_le_of_waitedCeil (hleft : Present left) (hback : Present back)
    (h : left + ⌈waitS reset (timeMs left)⌉ ≤ back) : reset ≤ timeMs back := by
  refine le_trans ?_ (timeMs_add_le hleft hback h)
  by_contra hbefore
  rw [not_le] at hbefore
  have hreset := waited_sub_le hleft hback (Int.le_ceil _) h
  obtain ⟨steps, hsteps⟩ := hleft.inBinade_scaled.exists_binary64
  have hgrid : timeMs left = steps / 4096 := by
    rw [timeMs, hsteps]
    norm_num
    ring
  have hceil := Int.le_ceil (waitS reset (timeMs left))
  generalize ⌈waitS reset (timeMs left)⌉ = seconds at hbefore hceil
  rw [hgrid] at hbefore
  have hstep : steps + 4096000 * seconds < 4096 * reset := by
    have hcast : (steps : Rat) + 4096000 * seconds < 4096 * reset := by linarith
    exact_mod_cast hcast
  have hnext : (steps : Rat) + 4096000 * seconds + 1 ≤ 4096 * reset := by exact_mod_cast hstep
  linarith

end Waits

theorem exactRetry_of_kept {before : Redis} {served : Results} {first later : Evaluation}
    {between : List Evaluation} (hlimit : 1 ≤ limit) (kept : Kept name window limit before served)
    (hlater : later.outcome = .answered)
    (hdenied : (check name window limit layer 1 before first).2.allowed = false)
    (hquiet : ∀ served ∈ transcript (check name window limit layer 1)
      (check name window limit layer 1 before first).1 between,
      ¬ Admitted name window limit served.before served.action)
    (hexpires : (serveAll (check name window limit layer 1)
        (check name window limit layer 1 before first).1 between name).expired later.evaluatedAt →
      ∀ earlier ∈ served, Admitted name window limit earlier.before earlier.action →
        earlier.action.now + (window : Int) * 1000 ≤ later.now) :
    ExactRetry (1 / 1000000) name window before first
      (check name window limit layer 1 before first) later
      (check name window limit layer 1 (serveAll (check name window limit layer 1)
        (check name window limit layer 1 before first).1 between) later).2 := by
  have hpositive : 0 < limit.toNat := by omega
  have hfirst := answered_of_denied hdenied
  have hdeny := (allowed_check hfirst).symm.trans hdenied
  obtain ⟨oldest, full, hlive, hfresh⟩ := @Full.of_denied ⟨window, limit.toNat⟩ _ _
    kept.capped hpositive rfl hdeny
  have hanswer := full.denied hlive hfresh rfl
  -- the key is the same when `later` meets it
  have hsame : (check name window limit layer 1 before first).1 name = before name := by
    rw [check_answered hfirst, Function.update_self, hanswer]
  have hstill : serveAll (check name window limit layer 1)
      (check name window limit layer 1 before first).1 between name = before name :=
    (serveAll_of_not_admitted hlimit (hsame ▸ kept.capped) hquiet).trans hsame
  rw [hstill] at hexpires
  have hreset : (check name window limit layer 1 before first).2.resetAtMs =
      oldest.score + window * 1000 := by
    rw [resetAtMs_check hfirst, hanswer]
  obtain ⟨earlier, hearlier, hadmitted, hscore⟩ :=
    kept.admitted oldest (SortedSet.first_mem full.first)
  have hdecides : (check name window limit layer 1 (serveAll (check name window limit layer 1)
      (check name window limit layer 1 before first).1 between) later).2.allowed = true ↔
        (check name window limit layer 1 before first).2.resetAtMs ≤ later.now := by
    rw [allowed_check hlater, hstill, hreset]
    apply full.allowed_iff hpositive rfl
    intro hexpired
    rw [← hscore]
    exact hexpires hexpired earlier hearlier hadmitted
  have hahead := full.cutoff_lt hlive hfresh
  unfold Check.cutoff Evaluation.check at hahead
  dsimp only at hahead
  constructor
  · rw [hsame]
  · omega
  · intro hearly
    rw [← Bool.not_eq_true, hdecides]
    omega
  · exact hdecides.mpr
  · intro left back hleft hback hfinished hstarted hwait
    rw [retryAfterS_check hdenied, hfinished] at hwait
    apply hdecides.mpr
    apply le_truncate
    rw [hstarted]
    exact reset_le_of_waited hleft hback hwait
  · intro left back hleft hback hfinished hstarted hwait
    rw [retryAfterS_check hdenied, hfinished] at hwait
    apply hdecides.mpr
    apply le_truncate
    rw [hstarted]
    exact reset_le_of_waitedCeil hleft hback hwait

end Runs

/-- The history before the denial does not matter, nor do the checks behind it that admit
nothing, nor the ones Redis does not answer. -/
theorem retry_after_exact {name : String} {window : Nat} {limit : Int} {layer : String}
    (hlimit : 1 ≤ limit) {history between : List Evaluation} {first later : Evaluation}
    (hrun : DeniedRun name window limit layer history first between later)
    (hanswered : later.outcome = .answered) :
    ExactRetry (1 / 1000000) name window
      (serveAll (check name window limit layer 1) .empty history) first
      (check name window limit layer 1
        (serveAll (check name window limit layer 1) .empty history) first) later
      (check name window limit layer 1 (serveAll (check name window limit layer 1) .empty
        (history ++ first :: between)) later).2 := by
  have hexpires := hrun.expires
  unfold ExpiresLate at hexpires
  rw [List.append_assoc, List.cons_append, transcript_append] at hexpires
  obtain ⟨-, -, hacross⟩ := List.pairwise_append.mp hexpires
  rw [serveAll_append]
  apply exactRetry_of_kept hlimit (kept_history history) hanswered hrun.denied hrun.quiet
  intro hexpired earlier hearlier hadmitted
  have hlast := mem_transcript (check name window limit layer 1)
    (serveAll (check name window limit layer 1) .empty history) (first :: between) later []
  exact hacross earlier hearlier _ hlast hadmitted hexpired

def instantAt (started : Rat) : Evaluation where
  started := started
  evaluatedAt := truncate started
  random _ := 7

/-- One request a second is let in: the one at the second, and none for another second. -/
def atTheSecond : List Evaluation := [instantAt 1700000000000]

def shortlyAfter : Rat := 1700000000 + 4 / 10000

def deniedThen : Evaluation := instantAt (timeMs shortlyAfter)

theorem deniedRun_deniedThen {later : Evaluation} (hfresh : ¬ (serveAll
      (check "rl:dom:a.example" 1 1 "domain" 1) .empty (atTheSecond ++ [deniedThen])
      "rl:dom:a.example").expired later.evaluatedAt) :
    DeniedRun "rl:dom:a.example" 1 1 "domain" atTheSecond deniedThen [] later := by
  refine ⟨?_, by decide +kernel, fun _ h => nomatch h⟩
  refine .cons ?_ (.cons ?_ (List.pairwise_singleton _ _))
  · refine List.forall_mem_cons.mpr ⟨fun _ h => absurd h (by decide +kernel),
      List.forall_mem_singleton.mpr fun _ h => absurd h hfresh⟩
  · exact List.forall_mem_singleton.mpr fun _ h => absurd h hfresh

theorem retry_after_one_second :
    ExactRetry (1 / 1000000) "rl:dom:a.example" 1
      (serveAll (check "rl:dom:a.example" 1 1 "domain" 1) .empty atTheSecond) deniedThen
      (check "rl:dom:a.example" 1 1 "domain" 1
        (serveAll (check "rl:dom:a.example" 1 1 "domain" 1) .empty atTheSecond) deniedThen)
      (instantAt 1700000001000)
      (check "rl:dom:a.example" 1 1 "domain" 1
        (serveAll (check "rl:dom:a.example" 1 1 "domain" 1) .empty (atTheSecond ++ [deniedThen]))
        (instantAt 1700000001000)).2 :=
  retry_after_exact (by decide) (deniedRun_deniedThen (by decide +kernel)) rfl

/-- Every denial tells when such a check is admitted, on a clock that does not go back. -/
def RetryLaw (slack : Rat) (holdsOf : Evaluation → Prop) : Prop :=
  ∀ (name : String) (window : Nat) (limit : Int) (layer : String) (history : List Evaluation)
    (first : Evaluation) (between : List Evaluation) (later : Evaluation), 1 ≤ limit →
    (history ++ first :: between ++ [later]).Pairwise (fun before after => before.now ≤ after.now) →
    DeniedRun name window limit layer history first between later → holdsOf later →
    ExactRetry slack name window (serveAll (check name window limit layer 1) .empty history) first
      (check name window limit layer 1
        (serveAll (check name window limit layer 1) .empty history) first) later
      (check name window limit layer 1 (serveAll (check name window limit layer 1) .empty
        (history ++ first :: between)) later).2

/-- The wait ends a quarter of a microsecond before the reset, and a check that Redis does not
answer is admitted at any time. -/
theorem retry_after_falls_short :
    ¬ RetryLaw 0 (·.outcome = .answered) ∧ ¬ RetryLaw (1 / 1000000) fun _ => True := by
  constructor
  · intro hlaw
    have hexact := hlaw "rl:dom:a.example" 1 1 "domain" atTheSecond deniedThen []
      (instantAt (timeMs (shortlyAfter + waitS 1700000001000 (timeMs shortlyAfter)))) (by decide)
      (by decide +kernel) (deniedRun_deniedThen (by decide +kernel)) rfl
    have hadmitted := hexact.waited shortlyAfter
      (shortlyAfter + waitS 1700000001000 (timeMs shortlyAfter)) (by decide +kernel)
      (by decide +kernel) rfl rfl (by decide +kernel)
    exact absurd hadmitted (by decide +kernel)
  · intro hlaw
    have hexact := hlaw "rl:dom:a.example" 1 1 "domain" atTheSecond deniedThen []
      { instantAt 1700000000500 with outcome := .refused } (by decide) (by decide +kernel)
      (deniedRun_deniedThen (by decide +kernel)) trivial
    exact absurd (hexact.early (by decide +kernel)) (by decide +kernel)

end CrawlerApi.Limits
