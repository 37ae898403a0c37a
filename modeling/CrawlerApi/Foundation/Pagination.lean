import Mathlib.Data.List.Basic

/-!
# Reading a list page by page

A page names the one after it, if there is one.  `Pages` says which pages a list has from a
key on; a reader with fuel for as many requests as there are pages returns what it keeps of
them all, in order.
-/

namespace CrawlerApi.Foundation

structure Page (κ α : Type) where
  items : List α
  next : Option κ

section Reading

variable {κ α β ε : Type}

/-- Follow the pages from `key` on, keeping what `keep` makes of their items. -/
def readPages (fetch : κ → Except ε (Page κ α)) (keep : α → Option β) :
    Nat → κ → List β → Option (Except ε (List β))
  | 0, _, _ => none
  | fuel + 1, key, read =>
      match fetch key with
      | .error failure => some (.error failure)
      | .ok page =>
          match page.next with
          | none => some (.ok (read ++ page.items.filterMap keep))
          | some next => readPages fetch keep fuel next (read ++ page.items.filterMap keep)

/-- The pages of a finite list whose requests all succeed. -/
inductive Pages (fetch : κ → Except ε (Page κ α)) : κ → List (List α) → Prop where
  | last {key : κ} {items : List α} (h : fetch key = .ok ⟨items, none⟩) :
      Pages fetch key [items]
  | more {key next : κ} {items : List α} {rest : List (List α)}
      (h : fetch key = .ok ⟨items, some next⟩) (hrest : Pages fetch next rest) :
      Pages fetch key (items :: rest)

variable {fetch : κ → Except ε (Page κ α)} {keep : α → Option β}

theorem readPages_of_pages {key : κ} {pages : List (List α)} (h : Pages fetch key pages)
    {fuel : Nat} (hfuel : pages.length ≤ fuel) (read : List β) :
    readPages fetch keep fuel key read = some (.ok (read ++ pages.flatten.filterMap keep)) := by
  induction h generalizing fuel read with
  | last h =>
      cases fuel with
      | zero => exact absurd hfuel (Nat.not_succ_le_zero _)
      | succ fuel =>
          rw [readPages, h, List.flatten_singleton]
  | more h hrest ih =>
      cases fuel with
      | zero => exact absurd hfuel (Nat.not_succ_le_zero _)
      | succ fuel =>
          rw [readPages, h]
          refine (ih (Nat.le_of_succ_le_succ hfuel) _).trans ?_
          rw [List.flatten_cons, List.filterMap_append, List.append_assoc]

end Reading

end CrawlerApi.Foundation
