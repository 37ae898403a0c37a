import CrawlerApi.Limits.SlidingWindow
import Mathlib

/-!
# The bound on a window

The script counts members, so the bound rests on every admitted check having
added as many new members as it costs.  That is all it needs: the readings are
nondecreasing, and an expired key holds no member the window still covers.
-/

namespace CrawlerApi.Limits

open Foundation

abbrev Replies := List (Served Key Check Reply)

/-- The cost of the admitted checks with a reading in `(time - 1000 * window, time]`. -/
def windowCost (window : Nat) (time : Int) (served : Replies) : Int :=
  (served.map fun entry =>
    if entry.output.allowed ∧ time - window * 1000 < entry.action.now ∧ entry.action.now ≤ time
    then entry.action.cost else 0).sum

/-- The members the admitted checks after `bound` added. -/
def admittedAbove (served : Replies) (bound : Int) : Nat :=
  (served.map fun entry =>
    if entry.output.allowed ∧ bound < entry.action.now then entry.action.cost.toNat else 0).sum

/-- The script runs within a second of the reading it is passed. -/
def Check.Prompt (check : Check) : Prop :=
  check.now ≤ check.evaluatedAt ∧ check.evaluatedAt ≤ check.now + 1000

/-- A check that is about to be admitted adds members the key does not hold. -/
def WritesNewMembers (layer : Layer) (key : Key) (check : Check) : Prop :=
  (live layer key check).card + check.cost ≤ layer.limit →
    ∀ entry ∈ check.members, entry ∉ (live layer key check).members

instance : Decidable (Check.Prompt check) :=
  inferInstanceAs (Decidable (_ ∧ _))

instance : Decidable (WritesNewMembers layer key check) :=
  inferInstanceAs (Decidable (_ → _))

theorem admittedAbove_append (served later : Replies) (bound : Int) :
    admittedAbove (served ++ later) bound =
      admittedAbove served bound + admittedAbove later bound := by
  simp [admittedAbove]

theorem windowCost_append (served later : Replies) (window : Nat) (time : Int) :
    windowCost window time (served ++ later) =
      windowCost window time served + windowCost window time later := by
  simp [windowCost]

theorem windowCost_le (served : Replies) (window : Nat) (time : Int) :
    windowCost window time served ≤ admittedAbove served (time - window * 1000) := by
  induction served with
  | nil => simp [windowCost, admittedAbove]
  | cons entry served ih =>
      simp only [windowCost, admittedAbove, List.map_cons, List.sum_cons] at ih ⊢
      grind

theorem admittedAbove_anti (served : Replies) {lower upper : Int} (h : lower ≤ upper) :
    admittedAbove served upper ≤ admittedAbove served lower := by
  apply List.sum_le_sum
  intro entry _
  grind

theorem admittedAbove_eq_zero {served : Replies} {bound : Int}
    (h : ∀ entry ∈ served, entry.output.allowed → entry.action.now ≤ bound) :
    admittedAbove served bound = 0 := by
  apply List.sum_eq_zero
  intro cost hcost
  obtain ⟨entry, hentry, rfl⟩ := List.mem_map.mp hcost
  rw [if_neg]
  rintro ⟨hallowed, hlate⟩
  exact absurd (h entry hentry hallowed) (not_le.mpr hlate)

structure Ledger (layer : Layer) (key : Key) (served : Replies) : Prop where
  counts : ∀ bound, (∀ entry ∈ served, entry.action.cutoff layer ≤ bound) →
    key.set.above bound = admittedAbove served bound
  leased : ∀ deadline ∈ key.expiresAt, ∀ entry ∈ served, entry.output.allowed →
    entry.action.now + (layer.window + 1) * 1000 ≤ deadline

section Step

variable {layer : Layer} {key : Key} {served : Replies} {check : Check}

theorem ledger_absent : Ledger layer .absent [] where
  counts _ _ := rfl
  leased _ hdeadline := by simp [Key.absent] at hdeadline

theorem Ledger.above_live (ledger : Ledger layer key served)
    (hclock : ∀ entry ∈ served, entry.action.now ≤ check.now) (hprompt : check.Prompt)
    {bound : Int} (hbound : check.cutoff layer ≤ bound) :
    (live layer key check).above bound = admittedAbove served bound := by
  unfold live
  rw [SortedSet.above_removeUpTo _ hbound, Key.fetched]
  split
  · rename_i hexpired
    -- the deadline of the newest admitted check has passed by more than the window
    obtain ⟨deadline, hdeadline, hpassed⟩ := hexpired
    rw [admittedAbove_eq_zero]
    · rfl
    · intro entry hentry hallowed
      have hleased := ledger.leased deadline hdeadline entry hentry hallowed
      have hlate := hprompt.2
      unfold Check.cutoff at hbound
      omega
  · apply ledger.counts
    intro entry hentry
    have := hclock entry hentry
    unfold Check.cutoff at *
    omega

theorem Ledger.card_live (ledger : Ledger layer key served)
    (hclock : ∀ entry ∈ served, entry.action.now ≤ check.now) (hprompt : check.Prompt) :
    (live layer key check).card = admittedAbove served (check.cutoff layer) := by
  rw [← ledger.above_live hclock hprompt le_rfl, live, SortedSet.card_removeUpTo,
    SortedSet.above_removeUpTo _ le_rfl]

theorem luaSlidingWindow_denied (h : (live layer key check).card + check.cost > layer.limit) :
    (luaSlidingWindow layer key check).1 =
        ⟨live layer key check, (key.fetched check.evaluatedAt).expiresAt⟩ ∧
      (luaSlidingWindow layer key check).2.allowed = false := by
  unfold luaSlidingWindow
  simp [h]

theorem luaSlidingWindow_admitted
    (h : (live layer key check).card + check.cost ≤ layer.limit) :
    (luaSlidingWindow layer key check).1 =
        ⟨(live layer key check).addAll check.now check.members,
          some (check.evaluatedAt + (layer.window + 1) * 1000)⟩ ∧
      (luaSlidingWindow layer key check).2.allowed = true := by
  unfold luaSlidingWindow
  simp [not_lt.mpr h]

theorem fetched_expiresAt {clock deadline : Int}
    (h : deadline ∈ (key.fetched clock).expiresAt) : deadline ∈ key.expiresAt := by
  unfold Key.fetched at h
  split at h
  · simp [Key.absent] at h
  · exact h

theorem Ledger.step (ledger : Ledger layer key served)
    (hclock : ∀ entry ∈ served, entry.action.now ≤ check.now) (hprompt : check.Prompt)
    (hnew : WritesNewMembers layer key check) :
    Ledger layer (luaSlidingWindow layer key check).1
      (served ++ [⟨key, check, (luaSlidingWindow layer key check).2⟩]) := by
  by_cases h : (live layer key check).card + check.cost ≤ layer.limit
  · obtain ⟨hkey, hallowed⟩ := luaSlidingWindow_admitted h
    constructor
    · intro bound hbound
      have hcutoff : check.cutoff layer ≤ bound :=
        hbound _ (List.mem_append_right _ (List.mem_singleton_self _))
      rw [hkey, admittedAbove_append, SortedSet.above_addAll _ _ _ check.members_nodup (hnew h),
        ledger.above_live hclock hprompt hcutoff, check.length_members]
      unfold admittedAbove
      by_cases hlate : bound < check.now <;> simp [hallowed, hlate]
    · intro deadline hdeadline entry hentry _
      rw [hkey] at hdeadline
      have hat : check.evaluatedAt + (layer.window + 1) * 1000 = deadline := by
        simpa using hdeadline
      have hearlier : entry.action.now ≤ check.now := by
        rcases List.mem_append.mp hentry with hold | hlast
        · exact hclock entry hold
        · rw [List.mem_singleton.mp hlast]
      have := hprompt.1
      omega
  · obtain ⟨hkey, hdenied⟩ := luaSlidingWindow_denied (not_le.mp h)
    constructor
    · intro bound hbound
      have hcutoff : check.cutoff layer ≤ bound :=
        hbound _ (List.mem_append_right _ (List.mem_singleton_self _))
      rw [hkey, admittedAbove_append, ledger.above_live hclock hprompt hcutoff]
      simp [admittedAbove, hdenied]
    · intro deadline hdeadline entry hentry hallowed
      rw [hkey] at hdeadline
      rcases List.mem_append.mp hentry with hold | hlast
      · exact ledger.leased deadline (fetched_expiresAt hdeadline) entry hold hallowed
      · rw [List.mem_singleton.mp hlast, hdenied] at hallowed
        cases hallowed

structure Bounded (layer : Layer) (key : Key) (served : Replies) : Prop where
  ledger : Ledger layer key served
  atMost : ∀ time, windowCost layer.window time served ≤ layer.limit

theorem bounded_absent (layer : Layer) : Bounded layer .absent [] where
  ledger := ledger_absent
  atMost time := by simp [windowCost]

/-- A check the bound allows for: it follows the served ones on the clock. -/
structure Admissible (layer : Layer) (served : Replies) (key : Key) (check : Check) : Prop where
  clock : ∀ entry ∈ served, entry.action.now ≤ check.now
  prompt : check.Prompt
  new : WritesNewMembers layer key check

theorem Bounded.windowCost_step (bounded : Bounded layer key served)
    (admissible : Admissible layer served key check) (time : Int) :
    windowCost layer.window time
      (served ++ [⟨key, check, (luaSlidingWindow layer key check).2⟩]) ≤ layer.limit := by
  have hbefore := bounded.atMost time
  rw [windowCost_append]
  by_cases h : (live layer key check).card + check.cost ≤ layer.limit
  · by_cases hcovered : time - layer.window * 1000 < check.now ∧ check.now ≤ time
    · -- every earlier reading is at most `time`, so the script counted them all
      have hcard := bounded.ledger.card_live admissible.clock admissible.prompt
      have hle := windowCost_le served layer.window time
      have hcutoff : check.cutoff layer ≤ time - layer.window * 1000 := by
        unfold Check.cutoff
        omega
      have hmono := admittedAbove_anti served hcutoff
      have hlast : windowCost layer.window time
          [⟨key, check, (luaSlidingWindow layer key check).2⟩] = check.cost := by
        simp [windowCost, (luaSlidingWindow_admitted h).2, hcovered]
      omega
    · have hlast : windowCost layer.window time
          [⟨key, check, (luaSlidingWindow layer key check).2⟩] = 0 := by
        simp [windowCost, hcovered]
      omega
  · have hlast : windowCost layer.window time
        [⟨key, check, (luaSlidingWindow layer key check).2⟩] = 0 := by
      simp [windowCost, (luaSlidingWindow_denied (not_le.mp h)).2]
    omega

theorem Bounded.step (bounded : Bounded layer key served)
    (admissible : Admissible layer served key check) :
    Bounded layer (luaSlidingWindow layer key check).1
      (served ++ [⟨key, check, (luaSlidingWindow layer key check).2⟩]) where
  ledger := bounded.ledger.step admissible.clock admissible.prompt admissible.new
  atMost := bounded.windowCost_step admissible

theorem admissible_transcript {checks : List Check}
    (hclock : checks.Pairwise fun earlier later => earlier.now ≤ later.now)
    (hprompt : ∀ check ∈ checks, check.Prompt)
    (hnew : ∀ entry ∈ transcript (luaSlidingWindow layer) key checks,
      WritesNewMembers layer entry.before entry.action)
    (before : Replies) (entry : Served Key Check Reply) (after : Replies)
    (heq : transcript (luaSlidingWindow layer) key checks = before ++ entry :: after) :
    Admissible layer before entry.before entry.action := by
  have hactions : before.map Served.action ++ entry.action :: after.map Served.action =
      checks := by
    rw [← map_action_transcript (luaSlidingWindow layer) key checks, heq, List.map_append,
      List.map_cons]
  rw [heq] at hnew
  subst hactions
  constructor
  · intro earlier hearlier
    exact (List.pairwise_append.mp hclock).2.2 _ (List.mem_map_of_mem hearlier) _
      (List.mem_cons_self ..)
  · exact hprompt _ (List.mem_append_right _ (List.mem_cons_self ..))
  · exact hnew _ (List.mem_append_right _ (List.mem_cons_self ..))

theorem bounded_transcript {checks : List Check}
    (hclock : checks.Pairwise fun earlier later => earlier.now ≤ later.now)
    (hprompt : ∀ check ∈ checks, check.Prompt)
    (hnew : ∀ entry ∈ transcript (luaSlidingWindow layer) .absent checks,
      WritesNewMembers layer entry.before entry.action) :
    Bounded layer (serveAll (luaSlidingWindow layer) .absent checks)
      (transcript (luaSlidingWindow layer) .absent checks) :=
  history_invariant (Bounded layer) (Admissible layer)
    (fun _ _ _ bounded admissible => bounded.step admissible)
    (bounded_absent layer) (admissible_transcript hclock hprompt hnew)

end Step

/-- No window holds more than the limit in any sequence of checks in which each
admitted check adds new members. -/
theorem sliding_window_bound (layer : Layer) (checks : List Check)
    (hclock : checks.Pairwise fun earlier later => earlier.now ≤ later.now)
    (hprompt : ∀ check ∈ checks, check.Prompt)
    (hnew : ∀ entry ∈ transcript (luaSlidingWindow layer) .absent checks,
      WritesNewMembers layer entry.before entry.action) (time : Int) :
    windowCost layer.window time (transcript (luaSlidingWindow layer) .absent checks) ≤
      layer.limit := (bounded_transcript hclock hprompt hnew).atMost time

/-! A domain of two requests a second, checked three times. -/

def twoPerSecond : Layer := ⟨1, 2⟩

def checkAt (now : Int) (random : Nat) : Check where
  now := now
  evaluatedAt := now
  random _ := random

theorem sliding_window_bound_spaced :
    windowCost 1 1200 (transcript (luaSlidingWindow twoPerSecond) .absent
      [checkAt 1000 7, checkAt 1100 7, checkAt 1200 7]) ≤ 2 :=
  sliding_window_bound twoPerSecond _ (by decide) (by decide) (by decide) 1200

/-- Three checks of one millisecond that draw one number share one member. -/
theorem shared_member_exceeds :
    ¬ ∀ (layer : Layer) (checks : List Check),
      (checks.Pairwise fun earlier later => earlier.now ≤ later.now) →
      (∀ check ∈ checks, check.Prompt) → ∀ time,
      windowCost layer.window time (transcript (luaSlidingWindow layer) .absent checks) ≤
        layer.limit := by
  intro hbound
  have hthree := hbound twoPerSecond [checkAt 1000 7, checkAt 1000 7, checkAt 1000 7]
    (by decide) (by decide) 1000
  exact absurd hthree (by decide)

end CrawlerApi.Limits
