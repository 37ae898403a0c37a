import Mathlib.Data.List.Sort
import Mathlib.Order.Basic

/-!
# Sorted sets

Distinct members with integer scores, kept in the order of score and then
member.  `above` counts the members over a score; it is the only view of the
set that survives removals from below.
-/

namespace CrawlerApi.Foundation

structure Scored (μ : Type) where
  score : Int
  member : μ
deriving DecidableEq, Repr

variable {μ : Type} [LinearOrder μ]

def Scored.before (left right : Scored μ) : Prop :=
  left.score < right.score ∨ left.score = right.score ∧ left.member ≤ right.member

instance : DecidableRel (Scored.before (μ := μ)) := fun left right =>
  inferInstanceAs (Decidable (left.score < right.score ∨
    left.score = right.score ∧ left.member ≤ right.member))

instance : Std.Total (Scored.before (μ := μ)) where
  total left right := by
    unfold Scored.before
    rcases lt_trichotomy left.score right.score with h | h | h
    · exact .inl (.inl h)
    · rcases le_total left.member right.member with hm | hm
      · exact .inl (.inr ⟨h, hm⟩)
      · exact .inr (.inr ⟨h.symm, hm⟩)
    · exact .inr (.inl h)

instance : IsTrans (Scored μ) Scored.before where
  trans a b c := by
    unfold Scored.before
    rintro (hab | ⟨hab, mab⟩) (hbc | ⟨hbc, mbc⟩)
    · exact .inl (hab.trans hbc)
    · exact .inl (hbc ▸ hab)
    · exact .inl (hab ▸ hbc)
    · exact .inr ⟨hab.trans hbc, mab.trans mbc⟩

structure SortedSet (μ : Type) [LinearOrder μ] where
  entries : List (Scored μ)
  ordered : entries.Pairwise Scored.before
  distinct : (entries.map Scored.member).Nodup

namespace SortedSet

def empty : SortedSet μ := ⟨[], List.Pairwise.nil, List.nodup_nil⟩

def members (set : SortedSet μ) : List μ := set.entries.map Scored.member

def card (set : SortedSet μ) : Nat := set.entries.length

def first (set : SortedSet μ) : Option (Scored μ) := set.entries.head?

/-- ZREMRANGEBYSCORE from `-inf` to `cutoff`. -/
def removeUpTo (set : SortedSet μ) (cutoff : Int) : SortedSet μ where
  entries := set.entries.filter fun entry => cutoff < entry.score
  ordered := set.ordered.filter _
  distinct := set.distinct.sublist (List.filter_sublist.map _)

def add (set : SortedSet μ) (score : Int) (member : μ) : SortedSet μ where
  entries := (set.entries.filter fun entry => entry.member ≠ member).orderedInsert
    Scored.before ⟨score, member⟩
  ordered := (set.ordered.filter _).orderedInsert _ _
  distinct := by
    rw [((List.perm_orderedInsert _ _ _).map Scored.member).nodup_iff, List.map_cons,
      List.nodup_cons]
    refine ⟨?_, set.distinct.sublist (List.filter_sublist.map _)⟩
    simp

def above (set : SortedSet μ) (score : Int) : Nat :=
  set.entries.countP fun entry => score < entry.score

@[simp] theorem members_empty : (empty : SortedSet μ).members = [] := rfl

@[simp] theorem above_empty (score : Int) : (empty : SortedSet μ).above score = 0 := rfl

theorem card_removeUpTo (set : SortedSet μ) (cutoff : Int) :
    (set.removeUpTo cutoff).card = set.above cutoff := by
  simp [card, removeUpTo, above, List.countP_eq_length_filter]

theorem above_removeUpTo (set : SortedSet μ) {cutoff score : Int} (h : cutoff ≤ score) :
    (set.removeUpTo cutoff).above score = set.above score := by
  simp only [above, removeUpTo, List.countP_filter]
  apply List.countP_congr
  intro entry _
  simp only [Bool.and_eq_true, decide_eq_true_eq]
  omega

theorem ext_entries {left right : SortedSet μ} (h : left.entries = right.entries) :
    left = right := by
  cases left
  cases right
  congr

theorem mem_entries_removeUpTo {set : SortedSet μ} {cutoff : Int} {entry : Scored μ} :
    entry ∈ (set.removeUpTo cutoff).entries ↔ entry ∈ set.entries ∧ cutoff < entry.score := by
  simp [removeUpTo]

theorem card_removeUpTo_le (set : SortedSet μ) (cutoff : Int) :
    (set.removeUpTo cutoff).card ≤ set.card := List.length_filter_le ..

theorem removeUpTo_of_forall {set : SortedSet μ} {cutoff : Int}
    (h : ∀ entry ∈ set.entries, cutoff < entry.score) : set.removeUpTo cutoff = set := by
  apply ext_entries
  apply List.filter_eq_self.mpr
  intro entry hentry
  exact decide_eq_true (h entry hentry)

theorem removeUpTo_of_card {set : SortedSet μ} {cutoff : Int}
    (h : set.card ≤ (set.removeUpTo cutoff).card) : set.removeUpTo cutoff = set := by
  have hlength := le_antisymm (set.card_removeUpTo_le cutoff) h
  apply removeUpTo_of_forall
  intro entry hentry
  exact of_decide_eq_true (List.length_filter_eq_length_iff.mp hlength entry hentry)

theorem first_mem {set : SortedSet μ} {oldest : Scored μ} (h : set.first = some oldest) :
    oldest ∈ set.entries := List.mem_of_head? h

theorem first_score_le {set : SortedSet μ} {oldest entry : Scored μ} (h : set.first = some oldest)
    (hentry : entry ∈ set.entries) : oldest.score ≤ entry.score := by
  obtain ⟨rest, hrest⟩ := List.head?_eq_some_iff.mp h
  rw [hrest] at hentry
  rcases List.mem_cons.mp hentry with rfl | hlater
  · exact le_rfl
  · have hordered := set.ordered
    rw [hrest] at hordered
    have hbefore := List.rel_of_pairwise_cons hordered hlater
    unfold Scored.before at hbefore
    omega

theorem card_removeUpTo_lt {set : SortedSet μ} {cutoff : Int} {oldest : Scored μ}
    (h : set.first = some oldest) (hold : oldest.score ≤ cutoff) :
    (set.removeUpTo cutoff).card < set.card := by
  apply List.length_filter_lt_length_iff_exists.mpr
  refine ⟨oldest, first_mem h, ?_⟩
  rw [decide_eq_true_eq]
  omega

theorem mem_entries_add {set : SortedSet μ} {score : Int} {member : μ} {entry : Scored μ} :
    entry ∈ (set.add score member).entries ↔
      entry = ⟨score, member⟩ ∨ entry ∈ set.entries ∧ entry.member ≠ member := by
  simp [add]

theorem Scored.before_antisymm {left right : Scored μ} (h : left.before right)
    (hback : right.before left) : left = right := by
  cases left
  cases right
  unfold Scored.before at h hback
  dsimp only at h hback
  rcases h with hlt | ⟨rfl, hle⟩
  · omega
  · rcases hback with hlt | ⟨-, hge⟩
    · omega
    · rw [le_antisymm hle hge]

theorem add_of_mem {set : SortedSet μ} {score : Int} {member : μ}
    (h : ⟨score, member⟩ ∈ set.entries) : set.add score member = set := by
  apply ext_entries
  have hperm : (set.add score member).entries.Perm set.entries := by
    apply (List.perm_ext_iff_of_nodup (List.Nodup.of_map _ (set.add score member).distinct)
      (List.Nodup.of_map _ set.distinct)).mpr
    intro entry
    rw [mem_entries_add]
    constructor
    · rintro (rfl | ⟨hentry, -⟩)
      · exact h
      · exact hentry
    · intro hentry
      by_cases heq : entry.member = member
      · exact .inl (List.inj_on_of_nodup_map set.distinct hentry h heq)
      · exact .inr ⟨hentry, heq⟩
  exact hperm.eq_of_pairwise (fun _ _ _ _ => Scored.before_antisymm)
    (set.add score member).ordered set.ordered

theorem card_add_le (set : SortedSet μ) (score : Int) (member : μ) :
    (set.add score member).card ≤ set.card + 1 := by
  unfold card add
  rw [List.orderedInsert_length]
  exact Nat.succ_le_succ (List.length_filter_le ..)

theorem add_perm_cons (set : SortedSet μ) (score : Int) {member : μ}
    (hfresh : member ∉ set.members) :
    (set.add score member).entries.Perm (⟨score, member⟩ :: set.entries) := by
  refine (List.perm_orderedInsert _ _ _).trans (List.Perm.cons _ ?_)
  rw [List.filter_eq_self.mpr]
  intro entry hentry
  simp only [decide_eq_true_eq]
  intro heq
  exact hfresh (heq ▸ List.mem_map_of_mem hentry)

theorem mem_members_add (set : SortedSet μ) (score : Int) (member other : μ) :
    other ∈ (set.add score member).members ↔ other = member ∨ other ∈ set.members := by
  simp only [members, add, List.mem_map, List.mem_orderedInsert, List.mem_filter,
    decide_eq_true_eq]
  constructor
  · rintro ⟨entry, rfl | ⟨hentry, -⟩, rfl⟩
    · exact .inl rfl
    · exact .inr ⟨entry, hentry, rfl⟩
  · rintro (rfl | ⟨entry, hentry, rfl⟩)
    · exact ⟨⟨score, other⟩, .inl rfl, rfl⟩
    · by_cases heq : entry.member = member
      · exact ⟨⟨score, member⟩, .inl rfl, heq.symm⟩
      · exact ⟨entry, .inr ⟨hentry, heq⟩, rfl⟩

theorem above_add (set : SortedSet μ) (score bound : Int) {member : μ}
    (hfresh : member ∉ set.members) :
    (set.add score member).above bound = set.above bound + if bound < score then 1 else 0 := by
  unfold above
  rw [(set.add_perm_cons score hfresh).countP_eq, List.countP_cons]
  simp

def addAll (set : SortedSet μ) (score : Int) (members : List μ) : SortedSet μ :=
  members.foldl (fun set member => set.add score member) set

theorem above_addAll (set : SortedSet μ) (score bound : Int) {members : List μ}
    (hnodup : members.Nodup) (hfresh : ∀ member ∈ members, member ∉ set.members) :
    (set.addAll score members).above bound =
      set.above bound + if bound < score then members.length else 0 := by
  induction members generalizing set with
  | nil => simp [addAll]
  | cons member members ih =>
      obtain ⟨hnotin, hnodup⟩ := List.nodup_cons.mp hnodup
      have hrest : ∀ other ∈ members, other ∉ (set.add score member).members := by
        intro other hother
        rw [mem_members_add, not_or]
        exact ⟨fun heq => hnotin (heq ▸ hother), hfresh other (List.mem_cons_of_mem _ hother)⟩
      change ((set.add score member).addAll score members).above bound = _
      rw [ih (set.add score member) hnodup hrest,
        above_add set score bound (hfresh member (List.mem_cons_self ..)), List.length_cons]
      split <;> omega

end SortedSet

end CrawlerApi.Foundation
