import CrawlerApi.Limits.RetryAfter

/-!
# The rate of a domain

`check_domain` admits the whole part of the rate in each second, and one call where that is
zero.  The bound over several seconds is added up from the one the script keeps in each, and
calls a second apart reach it.
-/

namespace CrawlerApi.Limits

open Foundation
open Domains (checkDomainKey)

/-- The rates `DomainPolicyCreate` accepts. -/
def AcceptedRate (rps : Rat) : Prop := 1 / 10 ≤ rps ∧ rps ≤ 100

instance : Decidable (AcceptedRate rps) := inferInstanceAs (Decidable (_ ∧ _))

def domainLayer (rps : Rat) : Layer := ⟨1, (max 1 (truncate rps)).toNat⟩

/-- The admitted calls with a reading in `[start, start + 1000 * seconds)`. -/
def admittedWithin (served : Results) (start : Int) (seconds : Nat) : Nat :=
  served.countP fun entry => entry.output.allowed ∧ start ≤ entry.action.now ∧
    entry.action.now < start + seconds * 1000

section Calls

variable (tables : TextTables) (registeredDomain : String → String) (domain : String) (rps : Rat)

/-- The calls follow each other on the clock, Redis answers each of them within a second of
its reading, and the members they add are distinct. -/
structure Available (evaluations : List Evaluation) : Prop where
  answered : ∀ evaluation ∈ evaluations, evaluation.outcome = .answered
  clock : evaluations.Pairwise fun earlier later => earlier.now ≤ later.now
  prompt : ∀ evaluation ∈ evaluations, (evaluation.check 1).Prompt
  distinct : ∀ entry ∈ transcript (checkDomain tables registeredDomain domain rps) .empty
    evaluations, WritesNewMembers (domainLayer rps)
      (entry.before (checkDomainKey tables registeredDomain domain)) (entry.action.check 1)

/-- No interval of so many seconds has more admitted calls than the rate allows, but one. -/
def HonouredFor (seconds : Nat) : Prop :=
  ∀ evaluations, Available tables registeredDomain domain rps evaluations → ∀ start,
    (admittedWithin (transcript (checkDomain tables registeredDomain domain rps) .empty
      evaluations) start seconds : Rat) ≤ rps * seconds + 1

end Calls

theorem admittedWithin_succ (served : Results) (start : Int) (seconds : Nat) :
    admittedWithin served start (seconds + 1) =
      admittedWithin served start seconds + admittedWithin served (start + seconds * 1000) 1 := by
  unfold admittedWithin
  induction served with
  | nil => rfl
  | cons entry served ih =>
      rw [List.countP_cons, List.countP_cons, List.countP_cons, ih]
      push_cast
      grind

theorem admittedWithin_zero (served : Results) (start : Int) :
    admittedWithin served start 0 = 0 := by
  apply List.countP_eq_zero.mpr
  intro entry _
  rw [decide_eq_true_eq]
  rintro ⟨-, hstart, hend⟩
  omega

theorem admittedWithin_le {served : Results} {limit : Nat}
    (h : ∀ start, admittedWithin served start 1 ≤ limit) (start : Int) (seconds : Nat) :
    admittedWithin served start seconds ≤ seconds * limit := by
  induction seconds with
  | zero => rw [admittedWithin_zero, Nat.zero_mul]
  | succ seconds ih =>
      rw [admittedWithin_succ, Nat.succ_mul]
      exact Nat.add_le_add ih (h _)

section Runs

variable {name : String} {window : Nat} {limit : Int} {layer : String}

def scriptReply (script : Layer) (name : String) (entry : Served Redis Evaluation RateLimitResult) :
    Served Key Check Reply :=
  ⟨entry.before name, entry.action.check 1,
    (luaSlidingWindow script (entry.before name) (entry.action.check 1)).2⟩

theorem transcript_check {evaluations : List Evaluation} (redis : Redis)
    (hanswered : ∀ evaluation ∈ evaluations, evaluation.outcome = .answered) :
    (transcript (check name window limit layer 1) redis evaluations).map
        (scriptReply ⟨window, limit.toNat⟩ name) =
      transcript (luaSlidingWindow ⟨window, limit.toNat⟩) (redis name)
        (evaluations.map (Evaluation.check · 1)) := by
  induction evaluations generalizing redis with
  | nil => rfl
  | cons evaluation evaluations ih =>
      obtain ⟨hfirst, hrest⟩ := List.forall_mem_cons.mp hanswered
      rw [transcript, List.map_cons, ih _ hrest, check_answered hfirst, Function.update_self,
        List.map_cons, transcript]
      rfl

theorem allowed_of_mem_transcript {redis : Redis} {evaluations : List Evaluation}
    (hanswered : ∀ evaluation ∈ evaluations, evaluation.outcome = .answered)
    {entry : Served Redis Evaluation RateLimitResult}
    (h : entry ∈ transcript (check name window limit layer 1) redis evaluations) :
    entry.output.allowed = (scriptReply ⟨window, limit.toNat⟩ name entry).output.allowed := by
  have haction : entry.action ∈ evaluations := by
    rw [← map_action_transcript (check name window limit layer 1) redis evaluations]
    exact List.mem_map_of_mem h
  rw [output_of_mem_transcript h, allowed_check (hanswered _ haction)]
  rfl

theorem admittedWithin_one {served : Results} {script : Layer}
    (h : ∀ entry ∈ served, entry.output.allowed = (scriptReply script name entry).output.allowed)
    (start : Int) :
    (admittedWithin served start 1 : Int) =
      windowCost 1 (start + 999) (served.map (scriptReply script name)) := by
  induction served with
  | nil => rfl
  | cons entry served ih =>
      obtain ⟨hfirst, hrest⟩ := List.forall_mem_cons.mp h
      have ih := ih hrest
      unfold admittedWithin windowCost at ih ⊢
      rw [List.countP_cons, List.map_cons, List.map_cons, List.sum_cons, ← ih, ← hfirst]
      unfold scriptReply Evaluation.check
      push_cast
      grind

theorem admitted_le_limit {evaluations : List Evaluation}
    (hanswered : ∀ evaluation ∈ evaluations, evaluation.outcome = .answered)
    (hclock : evaluations.Pairwise fun earlier later => earlier.now ≤ later.now)
    (hprompt : ∀ evaluation ∈ evaluations, (evaluation.check 1).Prompt)
    (hdistinct : ∀ entry ∈ transcript (check name 1 limit layer 1) .empty evaluations,
      WritesNewMembers ⟨1, limit.toNat⟩ (entry.before name) (entry.action.check 1))
    (start : Int) (seconds : Nat) :
    admittedWithin (transcript (check name 1 limit layer 1) .empty evaluations) start seconds ≤
      seconds * limit.toNat := by
  have hreplies : _ = transcript (luaSlidingWindow ⟨1, limit.toNat⟩) .absent _ :=
    @transcript_check name 1 limit layer _ .empty hanswered
  have hbounded : Bounded ⟨1, limit.toNat⟩ _ _ :=
    bounded_transcript (List.pairwise_map.mpr hclock) (List.forall_mem_map.mpr hprompt)
      (by rw [← hreplies]; exact List.forall_mem_map.mpr hdistinct)
  apply admittedWithin_le
  intro start
  have hone := admittedWithin_one
    (fun _ hentry => @allowed_of_mem_transcript name 1 limit layer .empty _ hanswered _ hentry)
    start
  rw [hreplies] at hone
  have hbound := hbounded.atMost (start + 999)
  dsimp only at hbound
  rw [← hone] at hbound
  exact_mod_cast hbound

theorem card_live_spaced {evaluations : List Evaluation}
    (hspaced : evaluations.Pairwise fun earlier later =>
      earlier.now + (window : Int) * 1000 ≤ later.now)
    {entry : Served Redis Evaluation RateLimitResult}
    (h : entry ∈ transcript (check name window limit layer 1) .empty evaluations) :
    (live ⟨window, limit.toNat⟩ (entry.before name) (entry.action.check 1)).card = 0 := by
  obtain ⟨before, after, rfl, hbefore⟩ := served_of_transcript h
  have kept := @kept_history name window limit layer before
  rw [hbefore]
  apply List.length_eq_zero_iff.mpr
  apply List.eq_nil_iff_forall_not_mem.mpr
  intro scored hlive
  obtain ⟨earlier, hearlier, -, hscore⟩ := kept.admitted scored (mem_of_mem_live hlive)
  have hlate := (SortedSet.mem_entries_removeUpTo.mp hlive).2
  have haction : earlier.action ∈ before := by
    rw [← map_action_transcript (check name window limit layer 1) .empty before]
    exact List.mem_map_of_mem hearlier
  have hpause := (List.pairwise_append.mp hspaced).2.2 _ haction _ (List.mem_cons_self ..)
  unfold Check.cutoff Evaluation.check at hlate
  dsimp only at hlate
  omega

theorem allowed_of_spaced {evaluations : List Evaluation} (hlimit : 1 ≤ limit)
    (hanswered : ∀ evaluation ∈ evaluations, evaluation.outcome = .answered)
    (hspaced : evaluations.Pairwise fun earlier later =>
      earlier.now + (window : Int) * 1000 ≤ later.now)
    {entry : Served Redis Evaluation RateLimitResult}
    (h : entry ∈ transcript (check name window limit layer 1) .empty evaluations) :
    entry.output.allowed = true := by
  rw [allowed_of_mem_transcript hanswered h, scriptReply, allowed_iff,
    card_live_spaced hspaced h]
  unfold Evaluation.check
  dsimp only
  omega

end Runs

theorem truncate_of_nonneg {value : Rat} (h : 0 ≤ value) : truncate value = ⌊value⌋ := by
  rw [Rat.floor_def']
  exact Int.tdiv_eq_ediv_of_nonneg (Rat.num_nonneg.mpr h)

theorem truncate_intCast (value : Int) : truncate value = value := by
  unfold truncate
  rw [Rat.num_intCast, Rat.den_intCast, Nat.cast_one, Int.tdiv_one]

theorem domainLimit_le {rps : Rat} (h : 1 ≤ rps) : ((domainLayer rps).limit : Rat) ≤ rps := by
  have hfloor : 1 ≤ ⌊rps⌋ := Int.le_floor.mpr (by exact_mod_cast h)
  unfold domainLayer
  dsimp only
  rw [truncate_of_nonneg (by linarith), max_eq_right hfloor]
  have hcast : ((⌊rps⌋.toNat : Int) : Rat) = ⌊rps⌋ := by rw [Int.toNat_of_nonneg (by omega)]
  have hle := Int.floor_le rps
  rw [← hcast] at hle
  exact_mod_cast hle

theorem domainLimit_of_lt {rps : Rat} (hpos : 0 ≤ rps) (h : rps < 1) :
    max 1 (truncate rps) = 1 := by
  rw [truncate_of_nonneg hpos, Int.floor_eq_zero_iff.mpr ⟨hpos, h⟩]
  rfl

section Domain

variable {tables : TextTables} {registeredDomain : String → String} {domain : String} {rps : Rat}

theorem now_instantAt (time : Int) : (instantAt (time : Rat)).now = time := truncate_intCast time

def secondly (count : Nat) : List Evaluation :=
  (List.range count).map fun i : Nat => instantAt ((1000 * (i : Int) : Int) : Rat)

theorem mem_secondly {count : Nat} {evaluation : Evaluation} (h : evaluation ∈ secondly count) :
    evaluation.outcome = .answered ∧ (evaluation.check 1).Prompt ∧ 0 ≤ evaluation.now ∧
      evaluation.now < count * 1000 := by
  obtain ⟨i, hi, rfl⟩ := List.mem_map.mp h
  have hlt := List.mem_range.mp hi
  rw [now_instantAt]
  refine ⟨rfl, ⟨le_rfl, ?_⟩, ?_, ?_⟩
  · exact le_add_of_nonneg_right (by decide)
  · omega
  · omega

theorem secondly_spaced (count : Nat) :
    (secondly count).Pairwise fun earlier later =>
      earlier.now + ((1 : Nat) : Int) * 1000 ≤ later.now := by
  apply List.pairwise_map.mpr
  apply List.pairwise_lt_range.imp
  intro i j hij
  rw [now_instantAt, now_instantAt]
  omega

theorem available_secondly (count : Nat) :
    Available tables registeredDomain domain rps (secondly count) where
  answered evaluation h := (mem_secondly h).1
  clock := (secondly_spaced count).imp fun h => by omega
  prompt evaluation h := (mem_secondly h).2.1
  distinct entry hentry _ added _ := by
    have hnone : (live (domainLayer rps) _ _).card = 0 :=
      card_live_spaced (secondly_spaced count) hentry
    rw [SortedSet.members, List.length_eq_zero_iff.mp hnone]
    exact List.not_mem_nil

theorem admittedWithin_secondly (count : Nat) :
    admittedWithin (transcript (checkDomain tables registeredDomain domain rps) .empty
      (secondly count)) 0 count = count := by
  have hlength : (transcript (checkDomain tables registeredDomain domain rps) .empty
      (secondly count)).length = count := by
    rw [length_transcript, secondly, List.length_map, List.length_range]
  refine Eq.trans (List.countP_eq_length.mpr ?_) hlength
  intro entry hentry
  have haction : entry.action ∈ secondly count := by
    rw [← map_action_transcript (checkDomain tables registeredDomain domain rps) .empty
      (secondly count)]
    exact List.mem_map_of_mem hentry
  obtain ⟨-, -, hstart, hend⟩ := mem_secondly haction
  have hallowed := allowed_of_spaced (le_max_left ..) (fun _ h => (mem_secondly h).1)
    (secondly_spaced count) hentry
  rw [decide_eq_true_eq]
  exact ⟨hallowed, hstart, by omega⟩

end Domain

/-- The rate is honoured over so many seconds exactly from one call a second on, or where one
call in each of them is within the bound. -/
theorem domain_rate_honoured_iff {tables : TextTables} {registeredDomain : String → String}
    {domain : String} {rps : Rat} (haccepted : AcceptedRate rps) (seconds : Nat) :
    HonouredFor tables registeredDomain domain rps seconds ↔
      1 ≤ rps ∨ seconds * (1 - rps) ≤ 1 := by
  have hpos : 0 ≤ rps := by linarith [haccepted.1]
  constructor
  · intro honoured
    have hspread := honoured _ (available_secondly seconds) 0
    rw [admittedWithin_secondly] at hspread
    right
    linarith
  · intro hwithin evaluations available start
    have hlimit : admittedWithin (transcript (checkDomain tables registeredDomain domain rps)
        .empty evaluations) start seconds ≤ seconds * (domainLayer rps).limit :=
      admitted_le_limit available.answered available.clock available.prompt available.distinct
        start seconds
    by_cases hrate : 1 ≤ rps
    · have hle := domainLimit_le hrate
      have hcast : (admittedWithin (transcript (checkDomain tables registeredDomain domain rps)
          .empty evaluations) start seconds : Rat) ≤ seconds * (domainLayer rps).limit := by
        exact_mod_cast hlimit
      nlinarith [Nat.cast_nonneg (α := Rat) seconds]
    · have hshort := hwithin.resolve_left hrate
      rw [domainLayer, domainLimit_of_lt hpos (not_le.mp hrate), Int.toNat_one,
        Nat.mul_one] at hlimit
      have hcast : (admittedWithin (transcript (checkDomain tables registeredDomain domain rps)
          .empty evaluations) start seconds : Rat) ≤ seconds := by exact_mod_cast hlimit
      linarith

theorem one_a_second_honoured :
    AcceptedRate (3 / 2) ∧ HonouredFor asciiTables id "a.example" (3 / 2) 60 :=
  ⟨by decide +kernel, (domain_rate_honoured_iff (by decide +kernel) 60).mpr (.inl (by norm_num))⟩

/-- At one call in two seconds, three calls in three seconds are admitted. -/
theorem half_rate_exceeded :
    AcceptedRate (1 / 2) ∧ ¬ HonouredFor asciiTables id "a.example" (1 / 2) 3 := by
  refine ⟨by decide +kernel, fun honoured => ?_⟩
  have hthree := honoured _ (available_secondly 3) 0
  rw [admittedWithin_secondly] at hthree
  norm_num at hthree

end CrawlerApi.Limits
