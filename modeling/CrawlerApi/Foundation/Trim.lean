import Mathlib.Data.List.TakeWhile

/-!
# Trimming

What is left of a list when the marked elements at both ends are dropped.
-/

namespace CrawlerApi.Foundation

def trim (p : α → Bool) (l : List α) : List α := ((l.dropWhile p).reverse.dropWhile p).reverse

section Trim

variable {p q : α → Bool} {l before after : List α}

theorem trim_map {f : β → α} {r : β → Bool} {l : List β} (h : ∀ b, p (f b) = r b) :
    trim p (l.map f) = (trim r l).map f := by
  have hpred : p ∘ f = r := funext h
  unfold trim
  rw [List.dropWhile_map, hpred, ← List.map_reverse, List.dropWhile_map, hpred, List.map_reverse]

theorem trim_append_left (h : ∀ a ∈ before, p a = true) : trim p (before ++ l) = trim p l := by
  unfold trim
  rw [List.dropWhile_append_of_pos h]

theorem trim_append_right (h : ∀ a ∈ after, p a = true) : trim p (l ++ after) = trim p l := by
  unfold trim
  rw [List.dropWhile_append]
  split
  · rename_i hnil
    rw [List.isEmpty_iff] at hnil
    rw [hnil, List.dropWhile_eq_nil_iff.mpr h]
  · rw [List.reverse_append, List.dropWhile_append_of_pos]
    intro a ha
    exact h a (List.mem_reverse.mp ha)

theorem exists_eq_trim (p : α → Bool) (l : List α) :
    ∃ before after, l = before ++ trim p l ++ after ∧ (∀ a ∈ before, p a = true) ∧
      ∀ a ∈ after, p a = true := by
  refine ⟨l.takeWhile p, ((l.dropWhile p).reverse.takeWhile p).reverse, ?_, ?_, ?_⟩
  · unfold trim
    rw [List.append_assoc, ← List.reverse_append, List.takeWhile_append_dropWhile,
      List.reverse_reverse, List.takeWhile_append_dropWhile]
  · intro a ha
    exact List.mem_takeWhile_imp ha
  · intro a ha
    exact List.mem_takeWhile_imp (List.mem_reverse.mp ha)

theorem mem_of_mem_trim {a : α} (h : a ∈ trim p l) : a ∈ l := by
  obtain ⟨before, after, heq, -, -⟩ := exists_eq_trim p l
  rw [heq]
  exact List.mem_append_left _ (List.mem_append_right _ h)

theorem trim_of_none (h : ∀ a ∈ l, p a = false) : trim p l = l := by
  have hdrop : ∀ l : List α, (∀ a ∈ l, p a = false) → l.dropWhile p = l := by
    intro l h
    cases l with
    | nil => rfl
    | cons first rest => rw [List.dropWhile_cons_of_neg (by simp [h first List.mem_cons_self])]
  unfold trim
  rw [hdrop l h, hdrop l.reverse fun a ha => h a (List.mem_reverse.mp ha), List.reverse_reverse]

theorem trim_takeWhile_trim (h : ∀ a, p a = true → q a = true) :
    trim p ((trim p l).takeWhile q) = trim p (l.takeWhile q) := by
  obtain ⟨before, after, heq, hbefore, hafter⟩ := exists_eq_trim p l
  generalize trim p l = middle at heq
  rw [heq, List.append_assoc, List.takeWhile_append_of_pos fun a ha => h a (hbefore a ha),
    trim_append_left hbefore, List.takeWhile_append]
  split
  · rename_i hall
    rw [List.takeWhile_eq_self_iff.mpr fun a ha => h a (hafter a ha), trim_append_right hafter,
      (List.takeWhile_prefix q).eq_of_length hall]
  · rfl

end Trim

end CrawlerApi.Foundation
