import Mathlib

/-!
# Reading an ordered listing by offset

`ORDER BY key DESC LIMIT … OFFSET …`.  Rows with the same key come in any order, and each
statement may choose its own.  Pages read one after another are the rows, each once, whatever
is chosen, exactly when no key has rows on both sides of a page's edge.  Where every row has a
key of its own, pages of a table that grows meanwhile miss no row of the first.
-/

namespace CrawlerApi.Foundation

section Listing

variable {α κ : Type} [LinearOrder κ] {key : α → κ}

/-- The rows as `ORDER BY key DESC` may give them. -/
structure Arranges (key : α → κ) (rows listing : List α) : Prop where
  perm : listing.Perm rows
  sorted : listing.Pairwise fun first second => key second ≤ key first

def page (limit offset : Nat) (listing : List α) : List α := (listing.drop offset).take limit

def pagesRead (limit count : Nat) (arrangement : Nat → List α) : List α :=
  (List.range count).flatMap fun k => page limit (k * limit) (arrangement k)

/-- Rows with the key of this one stand on both sides of the place. -/
def Straddles (key : α → κ) (rows : List α) (place : Nat) (row : α) : Prop :=
  rows.countP (fun other => key row < key other) < place ∧
    place < rows.countP (fun other => key row ≤ key other)

section Sorted

variable {rows listing other : List α} {p : α → Bool}

theorem holds_iff_lt (hsorted : listing.Pairwise fun first second => key second ≤ key first)
    (hup : ∀ first second, key second ≤ key first → p second = true → p first = true)
    {i : Nat} (hi : i < listing.length) : p listing[i] = true ↔ i < listing.countP p := by
  induction listing generalizing i with
  | nil => cases hi
  | cons row rest ih =>
      obtain ⟨hrow, hrest⟩ := List.pairwise_cons.mp hsorted
      rw [List.countP_cons]
      cases hp : p row with
      | true =>
          cases i with
          | zero => simp [hp]
          | succ i =>
              rw [List.getElem_cons_succ, ih hrest (Nat.lt_of_succ_lt_succ hi), if_pos rfl]
              exact (Nat.add_lt_add_iff_right).symm
      | false =>
          -- nothing after a row below the bound is above it
          have hbelow : ∀ later ∈ rest, p later = false := fun later hlater =>
            Bool.eq_false_iff.mpr fun hlater' => by
              rw [hup row later (hrow later hlater) hlater'] at hp
              cases hp
          have hnone : rest.countP p = 0 :=
            List.countP_eq_zero.mpr fun later hlater => by simp [hbelow later hlater]
          rw [hnone]
          cases i with
          | zero => simp [hp]
          | succ i =>
              rw [List.getElem_cons_succ,
                hbelow _ (List.getElem_mem (Nat.lt_of_succ_lt_succ hi))]
              simp

theorem filter_eq_take (hsorted : listing.Pairwise fun first second => key second ≤ key first)
    (hup : ∀ first second, key second ≤ key first → p second = true → p first = true) :
    listing.filter p = listing.take (listing.countP p) := by
  induction listing with
  | nil => rfl
  | cons row rest ih =>
      obtain ⟨hrow, hrest⟩ := List.pairwise_cons.mp hsorted
      cases hp : p row with
      | true =>
          rw [List.filter_cons_of_pos hp, List.countP_cons_of_pos hp, List.take_succ_cons, ih hrest]
      | false =>
          have hbelow : ∀ later ∈ row :: rest, ¬ p later = true := by
            intro later hlater hpositive
            rcases List.mem_cons.mp hlater with rfl | hlater
            · rw [hp] at hpositive
              cases hpositive
            · rw [hup row later (hrow later hlater) hpositive] at hp
              cases hp
          rw [List.filter_eq_nil_iff.mpr hbelow, List.countP_eq_zero.mpr hbelow]
          rfl

theorem le_upward (row : α) (first second : α) (h : key second ≤ key first)
    (hsecond : decide (key row ≤ key second) = true) : decide (key row ≤ key first) = true :=
  decide_eq_true (le_trans (of_decide_eq_true hsecond) h)

theorem lt_upward (row : α) (first second : α) (h : key second ≤ key first)
    (hsecond : decide (key row < key second) = true) : decide (key row < key first) = true :=
  decide_eq_true (lt_of_lt_of_le (of_decide_eq_true hsecond) h)

theorem take_perm {place : Nat} (hclean : ∀ row ∈ rows, ¬ Straddles key rows place row)
    (hlisting : Arranges key rows listing) (hother : Arranges key rows other) :
    (listing.take place).Perm (other.take place) := by
  by_cases hzero : place = 0
  · subst hzero
    rw [List.take_zero, List.take_zero]
  by_cases hend : rows.length ≤ place
  · rw [List.take_of_length_le (hlisting.perm.length_eq ▸ hend),
      List.take_of_length_le (hother.perm.length_eq ▸ hend)]
    exact hlisting.perm.trans hother.perm.symm
  have hlength := hlisting.perm.length_eq
  have hplace : place - 1 < listing.length := by omega
  have hmem : listing[place - 1] ∈ rows := hlisting.perm.mem_iff.mp (List.getElem_mem hplace)
  -- the last row before the place tells how many rows have its key or a greater one
  have hgreater := holds_iff_lt hlisting.sorted (lt_upward listing[place - 1]) hplace
  have hatLeast := holds_iff_lt hlisting.sorted (le_upward listing[place - 1]) hplace
  have hcount : rows.countP (fun row => decide (key listing[place - 1] ≤ key row)) = place := by
    have hnot := hclean _ hmem
    unfold Straddles at hnot
    rw [hlisting.perm.countP_eq] at hgreater hatLeast
    simp only [lt_irrefl, le_refl, decide_true, decide_false, Bool.false_eq_true, false_iff,
      true_iff, Nat.not_lt] at hgreater hatLeast
    omega
  have htake : ∀ {l : List α}, Arranges key rows l →
      l.take place = l.filter fun row => decide (key listing[place - 1] ≤ key row) := by
    intro l hl
    rw [filter_eq_take hl.sorted (le_upward listing[place - 1]), hl.perm.countP_eq, hcount]
  rw [htake hlisting, htake hother]
  exact (hlisting.perm.filter _).trans (hother.perm.filter _).symm

end Sorted

section Pages

variable {rows listing : List α} {limit count : Nat} {arrangement : Nat → List α}

theorem pagesRead_succ : pagesRead limit (count + 1) arrangement =
    pagesRead limit count arrangement ++ page limit (count * limit) (arrangement count) := by
  unfold pagesRead
  rw [List.range_succ, List.flatMap_append, List.flatMap_singleton]

theorem pagesRead_perm_take (hclean : ∀ k, ∀ row ∈ rows, ¬ Straddles key rows (k * limit) row)
    (harranges : ∀ k, Arranges key rows (arrangement k)) (hlisting : Arranges key rows listing) :
    (pagesRead limit count arrangement).Perm (listing.take (count * limit)) := by
  induction count generalizing listing with
  | zero => simp [pagesRead]
  | succ count ih =>
      have hjoined : (arrangement count).take (count * limit) ++
          page limit (count * limit) (arrangement count) =
            (arrangement count).take ((count + 1) * limit) := by
        rw [Nat.succ_mul, List.take_add]
        rfl
      rw [pagesRead_succ]
      refine ((ih (harranges count)).append_right _).trans ?_
      rw [hjoined]
      exact take_perm (hclean (count + 1)) (harranges count) hlisting

theorem arranges_mergeSort (rows : List α) :
    Arranges key rows (rows.mergeSort fun first second => key second ≤ key first) where
  perm := List.mergeSort_perm rows _
  sorted := by
    refine (List.pairwise_mergeSort (fun a b c hab hbc => ?_) (fun a b => ?_) rows).imp ?_
    · exact decide_eq_true (le_trans (of_decide_eq_true hbc) (of_decide_eq_true hab))
    · rw [Bool.or_eq_true, decide_eq_true_iff, decide_eq_true_iff]
      exact le_total _ _
    · exact fun h => of_decide_eq_true h

theorem exists_swapped {place : Nat} {row : α} (hlisting : Arranges key rows listing)
    (hstraddles : Straddles key rows place row) :
    ∃ before first second after, listing = before ++ first :: second :: after ∧
      before.length + 1 = place ∧ Arranges key rows (before ++ second :: first :: after) := by
  obtain ⟨hgreater, hatLeast⟩ := hstraddles
  have hlength : place < listing.length := by
    rw [hlisting.perm.length_eq]
    exact Nat.lt_of_lt_of_le hatLeast List.countP_le_length
  have hplace : place - 1 < listing.length := by omega
  have hkey : ∀ {i : Nat} (hi : i < listing.length), place ≤ i + 1 → i ≤ place →
      key listing[i] = key row := by
    intro i hi hlow hhigh
    have hlt := holds_iff_lt hlisting.sorted (lt_upward row) hi
    have hle := holds_iff_lt hlisting.sorted (le_upward row) hi
    rw [hlisting.perm.countP_eq] at hlt hle
    refine le_antisymm (not_lt.mp fun h => ?_) (of_decide_eq_true (hle.mpr (by omega)))
    have hi' := hlt.mp (decide_eq_true h)
    omega
  have hsame : key listing[place - 1] = key listing[place] :=
    (hkey hplace (by omega) (by omega)).trans (hkey hlength (by omega) (by omega)).symm
  have hdrop : listing.drop (place - 1) =
      listing[place - 1] :: listing[place] :: listing.drop (place + 1) := by
    rw [List.drop_eq_getElem_cons hplace, Nat.sub_add_cancel (by omega),
      List.drop_eq_getElem_cons hlength]
  have hsplit : listing =
      listing.take (place - 1) ++ listing[place - 1] :: listing[place] ::
        listing.drop (place + 1) := by
    rw [← hdrop, List.take_append_drop]
  refine ⟨listing.take (place - 1), listing[place - 1], listing[place],
    listing.drop (place + 1), hsplit, ?_, ?_, ?_⟩
  · rw [List.length_take]
    omega
  · refine List.Perm.trans ?_ hlisting.perm
    exact List.Perm.trans ((List.Perm.swap _ _ _).append_left _) (.of_eq hsplit.symm)
  · have hsorted := hlisting.sorted
    rw [hsplit] at hsorted
    simp only [List.pairwise_append, List.pairwise_cons, List.mem_cons,
      forall_eq_or_imp] at hsorted ⊢
    obtain ⟨hbefore, ⟨⟨hfirst, hrest⟩, hsecond, hafter⟩, hall⟩ := hsorted
    refine ⟨hbefore, ⟨⟨le_of_eq hsame, hsecond⟩, hrest, hafter⟩, fun a ha => ?_⟩
    obtain ⟨h1, h2, h3⟩ := hall a ha
    exact ⟨h2, h1, h3⟩

/-- Pages of a listing are complete, whatever order each statement gives to equal keys,
exactly when no key straddles the edge of a page. -/
theorem pagesRead_perm_iff (hnodup : rows.Nodup) (hlimit : 0 < limit)
    (hcount : rows.length ≤ count * limit) :
    (∀ arrangement, (∀ k, Arranges key rows (arrangement k)) →
        (pagesRead limit count arrangement).Perm rows) ↔
      ∀ k, ∀ row ∈ rows, ¬ Straddles key rows (k * limit) row := by
  constructor
  · intro hcomplete k row hrow hstraddles
    have hsorted : Arranges key rows (rows.mergeSort fun first second => key second ≤ key first) :=
      arranges_mergeSort rows
    obtain ⟨before, first, second, after, hsplit, hbefore, hswapped⟩ :=
      exists_swapped hsorted hstraddles
    generalize hlisting : (rows.mergeSort fun first second => key second ≤ key first) = listing
      at hsorted hsplit
    have hk : 0 < k := Nat.pos_of_mul_pos_right (Nat.zero_lt_of_lt hstraddles.1)
    have hinside : k < count := by
      have hle := Nat.lt_of_lt_of_le hstraddles.2 List.countP_le_length
      exact Nat.lt_of_mul_lt_mul_right (Nat.lt_of_lt_of_le hle hcount)
    -- the page before the edge and the page after it are read from different listings
    have hperm := hcomplete
      (fun j => if j = k then before ++ second :: first :: after else listing) fun j => by
        split
        · exact hswapped
        · exact hsorted
    have hpages := (List.nodup_flatMap.mp (hperm.nodup_iff.mpr hnodup)).2
    have hdisjoint := List.pairwise_iff_getElem.mp hpages (k - 1) k
      (by rw [List.length_range]; omega) (by rw [List.length_range]; exact hinside) (by omega)
    rw [List.getElem_range, List.getElem_range] at hdisjoint
    refine hdisjoint (a := first) ?_ ?_
    · have hedge : (k - 1) * limit + (limit - 1) = before.length := by
        have hmul : (k - 1) * limit + limit = k * limit := by
          rw [← Nat.succ_mul, Nat.succ_eq_add_one, Nat.sub_add_cancel hk]
        omega
      dsimp only
      rw [if_neg (show ¬ k - 1 = k by omega), hsplit]
      refine List.mem_of_getElem? (i := limit - 1) ?_
      unfold page
      rw [List.getElem?_take_of_lt (by omega), List.getElem?_drop, hedge, List.getElem?_append_right
        (Nat.le_refl _), Nat.sub_self]
      rfl
    · dsimp only
      rw [if_pos rfl]
      refine List.mem_of_getElem? (i := 0) ?_
      unfold page
      rw [List.getElem?_take_of_lt hlimit, List.getElem?_drop, Nat.add_zero, ← hbefore,
        List.getElem?_append_right (Nat.le_succ _)]
      simp
  · intro hclean arrangement harranges
    refine (pagesRead_perm_take hclean harranges (harranges 0)).trans ?_
    rw [List.take_of_length_le ((harranges 0).perm.length_eq ▸ hcount)]
    exact (harranges 0).perm

def Keyed (key : α → κ) (rows : List α) : Prop :=
  ∀ first ∈ rows, ∀ second ∈ rows, key first = key second → first = second

end Pages

/-! ### A table that grows while it is read -/

section Growing

variable {rows : List α} {listing : List α}

theorem Arranges.getElem?_eq (hkeyed : Keyed key rows) (hlisting : Arranges key rows listing)
    {row : α} (hrow : row ∈ rows) :
    listing[rows.countP fun other => decide (key row < key other)]? = some row := by
  obtain ⟨i, hi, hget⟩ := List.mem_iff_getElem.mp (hlisting.perm.mem_iff.mpr hrow)
  have hbehind := holds_iff_lt hlisting.sorted (lt_upward row) hi
  rw [hlisting.perm.countP_eq, hget] at hbehind
  simp only [lt_irrefl, decide_false, Bool.false_eq_true, false_iff, Nat.not_lt] at hbehind
  have hplace : rows.countP (fun other => decide (key row < key other)) < listing.length :=
    Nat.lt_of_le_of_lt hbehind hi
  have hnotGreater := holds_iff_lt hlisting.sorted (lt_upward row) hplace
  rw [hlisting.perm.countP_eq] at hnotGreater
  have hupper : key listing[rows.countP fun other => decide (key row < key other)] ≤ key row :=
    not_lt.mp fun hlt => Nat.lt_irrefl _ (hnotGreater.mp (decide_eq_true hlt))
  rw [List.getElem?_eq_getElem hplace]
  refine congrArg some (hkeyed _ (hlisting.perm.mem_iff.mp (List.getElem_mem hplace)) row hrow ?_)
  refine le_antisymm hupper ?_
  rcases Nat.eq_or_lt_of_le hbehind with heq | hlt
  · exact le_of_eq (congrArg key (hget.symm.trans (by simp only [heq])))
  · have hordered := List.pairwise_iff_getElem.mp hlisting.sorted _ i hplace hi hlt
    rwa [hget] at hordered

theorem exists_window {place : Nat → Nat} (hback : ∀ k, place k ≤ place (k + 1)) {limit last : Nat}
    (hlast : place last < (last + 1) * limit) :
    ∃ k ≤ last, k * limit ≤ place k ∧ place k < (k + 1) * limit := by
  induction last with
  | zero => exact ⟨0, Nat.le_refl 0, by rw [Nat.zero_mul]; exact Nat.zero_le _, hlast⟩
  | succ last ih =>
      by_cases hearlier : place last < (last + 1) * limit
      · obtain ⟨k, hk, hwindow⟩ := ih hearlier
        exact ⟨k, Nat.le_succ_of_le hk, hwindow⟩
      · exact ⟨last + 1, Nat.le_refl _,
          Nat.le_trans (Nat.le_of_not_lt hearlier) (hback last), hlast⟩

/-- While keys are only added, the pages up to a short one miss no row that was there at the
first, wherever the new ones come in. -/
theorem pages_miss_none {table listings : Nat → List α} {limit last : Nat}
    (hkeyed : ∀ k, Keyed key (table k)) (harranges : ∀ k, Arranges key (table k) (listings k))
    (hgrows : ∀ k, List.Sublist ((table k).map key) ((table (k + 1)).map key))
    (hshort : (page limit (last * limit) (listings last)).length < limit)
    {row : α} (hrow : row ∈ table 0) :
    ∃ k ≤ last, ∃ found ∈ page limit (k * limit) (listings k), key found = key row := by
  have hpresent : ∀ k, ∃ found ∈ table k, key found = key row := by
    intro k
    induction k with
    | zero => exact ⟨row, hrow, rfl⟩
    | succ k ih =>
        obtain ⟨found, hfound, hkey⟩ := ih
        exact List.mem_map.mp ((hgrows k).subset (List.mem_map.mpr ⟨found, hfound, hkey⟩))
  let place (k : Nat) : Nat := (table k).countP fun other => decide (key row < key other)
  have hback : ∀ k, place k ≤ place (k + 1) := by
    intro k
    have hle := (hgrows k).countP_le (p := fun other => decide (key row < other))
    rwa [List.countP_map, List.countP_map] at hle
  have hget : ∀ k, ∃ found, (listings k)[place k]? = some found ∧ key found = key row := by
    intro k
    obtain ⟨found, hfound, hkey⟩ := hpresent k
    refine ⟨found, ?_, hkey⟩
    have hplace := (harranges k).getElem?_eq (hkeyed k) hfound
    rwa [hkey] at hplace
  have hlast : place last < (last + 1) * limit := by
    obtain ⟨found, hfound, -⟩ := hget last
    have hlength := (List.getElem?_eq_some_iff.mp hfound).1
    unfold page at hshort
    rw [List.length_take, List.length_drop] at hshort
    rw [Nat.succ_mul]
    omega
  obtain ⟨k, hk, hlow, hhigh⟩ := exists_window hback hlast
  obtain ⟨found, hfound, hkey⟩ := hget k
  refine ⟨k, hk, found, List.mem_of_getElem? (i := place k - k * limit) ?_, hkey⟩
  rw [Nat.succ_mul] at hhigh
  unfold page
  rw [List.getElem?_take_of_lt (by omega), List.getElem?_drop, Nat.add_sub_cancel' hlow, hfound]

end Growing

end Listing

end CrawlerApi.Foundation
