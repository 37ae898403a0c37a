import Mathlib.Data.List.Perm.Subperm

/-!
# Eviction from the front

A list of sized items loses its front until what is left fits a capacity beside
something new.
-/

namespace CrawlerApi.Foundation

variable {α : Type} (size : α → Nat)

def totalOf : List α → Nat
  | [] => 0
  | item :: items => size item + totalOf items

def keepFitting (capacity incoming : Nat) : List α → List α
  | [] => []
  | item :: items =>
      if capacity < totalOf size (item :: items) + incoming then
        keepFitting capacity incoming items
      else item :: items

def evictUntilFitting (capacity incoming : Nat) : List α → List α
  | [] => []
  | item :: items =>
      if capacity < totalOf size (item :: items) + incoming then
        item :: evictUntilFitting capacity incoming items
      else []

section Totals

variable {size} {items others : List α} {item : α}

theorem totalOf_perm (h : items.Perm others) : totalOf size items = totalOf size others := by
  induction h with
  | nil => rfl
  | cons item _ ih => rw [totalOf, totalOf, ih]
  | swap first second rest =>
      rw [totalOf, totalOf, totalOf, totalOf]
      omega
  | trans _ _ first second => exact first.trans second

theorem totalOf_sublist (h : items.Sublist others) : totalOf size items ≤ totalOf size others := by
  induction h with
  | slnil => exact Nat.le_refl _
  | cons item _ ih => exact Nat.le_trans ih (Nat.le_add_left _ _)
  | cons_cons item _ ih => exact Nat.add_le_add_left ih _

theorem totalOf_subperm (h : items.Subperm others) : totalOf size items ≤ totalOf size others := by
  obtain ⟨between, hperm, hsublist⟩ := h
  rw [← totalOf_perm hperm]
  exact totalOf_sublist hsublist

theorem totalOf_le_of_subset (hnodup : items.Nodup) (h : items ⊆ others) :
    totalOf size items ≤ totalOf size others :=
  totalOf_subperm (List.subperm_of_subset hnodup h)

end Totals

section Fitting

variable {size} {capacity incoming : Nat} {items : List α} {item other : α}
  {before : α → α → Prop}

theorem evict_append_keep (items : List α) :
    evictUntilFitting size capacity incoming items ++ keepFitting size capacity incoming items =
      items := by
  induction items with
  | nil => rfl
  | cons item items ih =>
      unfold evictUntilFitting keepFitting
      split
      · rw [List.cons_append, ih]
      · rfl

theorem keepFitting_fits (items : List α) :
    keepFitting size capacity incoming items = [] ∨
      totalOf size (keepFitting size capacity incoming items) + incoming ≤ capacity := by
  induction items with
  | nil => exact .inl rfl
  | cons item items ih =>
      unfold keepFitting
      split
      · exact ih
      · rename_i hfits
        exact .inr (Nat.le_of_not_lt hfits)

theorem overflows_of_mem_evict (h : item ∈ evictUntilFitting size capacity incoming items) :
    ∃ front back, items = front ++ item :: back ∧
      capacity < totalOf size (item :: back) + incoming := by
  induction items with
  | nil => cases h
  | cons head items ih =>
      unfold evictUntilFitting at h
      split at h
      · rename_i hover
        rcases List.mem_cons.mp h with rfl | hlater
        · exact ⟨[], items, rfl, hover⟩
        · obtain ⟨front, back, rfl, hback⟩ := ih hlater
          exact ⟨head :: front, back, rfl, hback⟩
      · cases h

theorem before_of_evict_of_keep (hordered : items.Pairwise before)
    (hitem : item ∈ evictUntilFitting size capacity incoming items)
    (hother : other ∈ keepFitting size capacity incoming items) : before item other := by
  rw [← @evict_append_keep α size capacity incoming items, List.pairwise_append] at hordered
  exact hordered.2.2 item hitem other hother

/-- An item goes only where it does not fit with what is not before it. -/
theorem overflows_of_ordered [DecidableRel before] (hrefl : ∀ item, before item item)
    (hordered : items.Pairwise before)
    (h : item ∈ evictUntilFitting size capacity incoming items) :
    capacity < totalOf size (items.filter (before item ·)) + incoming := by
  obtain ⟨front, back, rfl, hover⟩ := overflows_of_mem_evict h
  have hback : ∀ other ∈ back, before item other :=
    (List.pairwise_cons.mp (List.pairwise_append.mp hordered).2.1).1
  have hsublist : (item :: back).Sublist ((front ++ item :: back).filter (before item ·)) := by
    rw [List.filter_append]
    refine List.Sublist.trans ?_ (List.sublist_append_right _ _)
    rw [List.filter_eq_self.mpr]
    intro other hother
    rcases List.mem_cons.mp hother with rfl | hlater
    · exact decide_eq_true (hrefl other)
    · exact decide_eq_true (hback other hlater)
  exact Nat.lt_of_lt_of_le hover (Nat.add_le_add_right (totalOf_sublist hsublist) _)

end Fitting

end CrawlerApi.Foundation
