import Mathlib

/-!
# Rows under a unique key

`INSERT … ON CONFLICT (key) DO UPDATE` on a list of rows, and what a lookup finds
afterwards.
-/

namespace CrawlerApi.Foundation

section Upsert

variable {α κ : Type} [DecidableEq κ] (key : α → κ) (change : α → α) (fresh : α)

/-- The row with the key of the new one is changed; without such a row it is appended. -/
def upsertRows : List α → List α
  | [] => [fresh]
  | row :: rows => if key row = key fresh then change row :: rows else row :: upsertRows rows

variable {key change fresh} {rows : List α}

theorem find_upsertRows (hchange : ∀ row, key (change row) = key row) (k : κ) :
    (upsertRows key change fresh rows).find? (key · = k) =
      if key fresh = k then some (((rows.find? (key · = k)).map change).getD fresh)
      else rows.find? (key · = k) := by
  induction rows with
  | nil =>
      unfold upsertRows
      by_cases h : key fresh = k
      · simp [h]
      · simp [h]
  | cons row rows ih =>
      unfold upsertRows
      by_cases hrow : key row = key fresh
      · rw [if_pos hrow, List.find?_cons, List.find?_cons, hchange, hrow]
        by_cases h : key fresh = k
        · simp [h]
        · simp [h]
      · rw [if_neg hrow, List.find?_cons, List.find?_cons, ih]
        by_cases h : key fresh = k
        · rw [h] at hrow
          simp [hrow]
        · simp [h]

theorem mem_keys_upsertRows (hchange : ∀ row, key (change row) = key row) {k : κ} :
    k ∈ (upsertRows key change fresh rows).map key → k = key fresh ∨ k ∈ rows.map key := by
  induction rows with
  | nil => exact fun hmem => .inl (List.mem_singleton.mp hmem)
  | cons row rows ih =>
      unfold upsertRows
      split
      · rw [List.map_cons, hchange]
        exact Or.inr
      · rw [List.map_cons, List.map_cons, List.mem_cons, List.mem_cons]
        rintro (hhead | hmem)
        · exact .inr (.inl hhead)
        · exact (ih hmem).imp_right Or.inr

theorem nodup_upsertRows (hchange : ∀ row, key (change row) = key row)
    (hnodup : (rows.map key).Nodup) : ((upsertRows key change fresh rows).map key).Nodup := by
  induction rows with
  | nil => exact List.nodup_singleton _
  | cons row rows ih =>
      rw [List.map_cons, List.nodup_cons] at hnodup
      unfold upsertRows
      split
      · rw [List.map_cons, hchange]
        exact List.nodup_cons.mpr hnodup
      · rename_i hrow
        refine List.nodup_cons.mpr ⟨fun hmem => ?_, ih hnodup.2⟩
        exact (mem_keys_upsertRows hchange hmem).elim hrow hnodup.1

theorem mem_upsertRows {row : α} : row ∈ upsertRows key change fresh rows →
    row ∈ rows ∨ (∃ old ∈ rows, row = change old) ∨ row = fresh := by
  induction rows with
  | nil => exact fun hmem => .inr (.inr (List.mem_singleton.mp hmem))
  | cons old rows ih =>
      unfold upsertRows
      split
      · intro hmem
        rcases List.mem_cons.mp hmem with rfl | htail
        · exact .inr (.inl ⟨old, List.mem_cons_self .., rfl⟩)
        · exact .inl (List.mem_cons_of_mem _ htail)
      · intro hmem
        rcases List.mem_cons.mp hmem with rfl | htail
        · exact .inl (List.mem_cons_self ..)
        · rcases ih htail with hkept | ⟨other, hother, hrow⟩ | hrow
          · exact .inl (List.mem_cons_of_mem _ hkept)
          · exact .inr (.inl ⟨other, List.mem_cons_of_mem _ hother, hrow⟩)
          · exact .inr (.inr hrow)

/-- What the rows weigh together grows by the weight of the new row, when a change of a row
under its key makes that row heavier by it. -/
theorem sum_upsertRows {weight : α → Nat}
    (hchange : ∀ row, key row = key fresh → weight (change row) = weight row + weight fresh) :
    ((upsertRows key change fresh rows).map weight).sum =
      (rows.map weight).sum + weight fresh := by
  induction rows with
  | nil => simp [upsertRows]
  | cons row rows ih =>
      unfold upsertRows
      split
      · rename_i hrow
        rw [List.map_cons, List.sum_cons, List.map_cons, List.sum_cons, hchange row hrow]
        omega
      · rw [List.map_cons, List.sum_cons, List.map_cons, List.sum_cons, ih]
        omega

theorem find_key_and (hnodup : (rows.map key).Nodup) (k : κ) (p : α → Bool) :
    rows.find? (fun row => key row = k ∧ p row) = (rows.find? (key · = k)).filter p := by
  induction rows with
  | nil => rfl
  | cons row rows ih =>
      rw [List.map_cons, List.nodup_cons] at hnodup
      rw [List.find?_cons, List.find?_cons, ih hnodup.2]
      by_cases hrow : key row = k
      · have hnone : rows.find? (key · = k) = none := by
          refine List.find?_eq_none.mpr fun other hmem hother => hnodup.1 ?_
          rw [hrow, ← of_decide_eq_true hother]
          exact List.mem_map_of_mem hmem
        cases hp : p row with
        | false => simp [hrow, hp, hnone, Option.filter]
        | true => simp [hrow, hp, Option.filter]
      · simp [hrow]

end Upsert

end CrawlerApi.Foundation
