import Mathlib.Tactic.Common

/-!
# One row under READ COMMITTED

A row has a committed version and, while a transaction holds its lock, the version
that transaction has written.  A session reads its own version or the committed one;
a write waits for the lock and goes on top of the last write.
-/

namespace CrawlerApi.Foundation

structure RowLock (κ ρ : Type) where
  committed : ρ
  writer : Option (κ × ρ) := none

namespace RowLock

variable {κ ρ : Type}

def latest (row : RowLock κ ρ) : ρ :=
  match row.writer with
  | none => row.committed
  | some held => held.2

theorem latest_of_free {row : RowLock κ ρ} (h : row.writer = none) :
    row.latest = row.committed := by
  rw [latest, h]

variable [DecidableEq κ]

def admits (row : RowLock κ ρ) (session : κ) : Bool :=
  row.writer.all fun held => held.1 = session

/-- What a plain `SELECT` of the session returns. -/
def visible (row : RowLock κ ρ) (session : κ) : ρ :=
  match row.writer with
  | none => row.committed
  | some held => if held.1 = session then held.2 else row.committed

/-- An `UPDATE`, or with `id` a `SELECT … FOR UPDATE`; `none` while it waits. -/
def update (row : RowLock κ ρ) (session : κ) (change : ρ → ρ) : Option (RowLock κ ρ) :=
  if row.admits session then some { row with writer := some (session, change row.latest) }
  else none

def commit (row : RowLock κ ρ) (session : κ) : RowLock κ ρ :=
  match row.writer with
  | none => row
  | some held => if held.1 = session then ⟨held.2, none⟩ else row

def rollback (row : RowLock κ ρ) (session : κ) : RowLock κ ρ :=
  match row.writer with
  | none => row
  | some held => if held.1 = session then ⟨row.committed, none⟩ else row

variable {row next : RowLock κ ρ} {session : κ} {change : ρ → ρ}

theorem visible_cases (row : RowLock κ ρ) (session : κ) :
    row.visible session = row.committed ∨ row.visible session = row.latest := by
  unfold visible latest
  cases row.writer with
  | none => exact .inl rfl
  | some held =>
      by_cases howner : held.1 = session
      · exact .inr (if_pos howner)
      · exact .inl (if_neg howner)

theorem update_eq_some (h : row.update session change = some next) :
    row.admits session = true ∧ next.committed = row.committed ∧
      next.writer = some (session, change row.latest) ∧ next.latest = change row.latest := by
  unfold update at h
  split at h
  · rename_i hadmits
    cases h
    exact ⟨hadmits, rfl, rfl, rfl⟩
  · cases h

theorem update_eq_none (h : row.update session change = none) :
    row.admits session = false := by
  unfold update at h
  split at h
  · cases h
  · rename_i hadmits
    exact Bool.eq_false_iff.mpr hadmits

@[simp] theorem latest_commit (row : RowLock κ ρ) (session : κ) :
    (row.commit session).latest = row.latest := by
  unfold commit
  cases hwriter : row.writer with
  | none => rfl
  | some held =>
      by_cases howner : held.1 = session
      · simp [howner, latest, hwriter]
      · simp [howner, latest, hwriter]

theorem committed_commit (row : RowLock κ ρ) (session : κ) :
    (row.commit session).committed = row.committed ∨
      (row.commit session).committed = row.latest := by
  unfold commit latest
  cases row.writer with
  | none => exact .inl rfl
  | some held =>
      by_cases howner : held.1 = session
      · exact .inr (by simp [howner])
      · exact .inl (by simp [howner])

@[simp] theorem committed_rollback (row : RowLock κ ρ) (session : κ) :
    (row.rollback session).committed = row.committed := by
  unfold rollback
  cases row.writer with
  | none => rfl
  | some held =>
      by_cases howner : held.1 = session
      · simp [howner]
      · simp [howner]

theorem latest_rollback (row : RowLock κ ρ) (session : κ) :
    (row.rollback session).latest = row.latest ∨
      (row.rollback session).latest = row.committed := by
  unfold rollback latest
  cases hwriter : row.writer with
  | none => exact .inl (by simp [hwriter])
  | some held =>
      by_cases howner : held.1 = session
      · exact .inr (by simp [howner])
      · exact .inl (by simp [howner, hwriter])

theorem visible_of_admits (h : row.admits session = true) : row.visible session = row.latest := by
  unfold admits at h
  unfold visible latest
  cases hwriter : row.writer with
  | none => rfl
  | some held =>
      rw [hwriter] at h
      exact if_pos (of_decide_eq_true h)

theorem visible_update (h : row.update session change = some next) (other : κ) :
    next.visible other = if other = session then change row.latest else row.visible other := by
  obtain ⟨hadmits, hcommitted, hwriter, -⟩ := update_eq_some h
  by_cases hsame : other = session
  · rw [if_pos hsame, hsame, visible, hwriter]
    exact if_pos rfl
  · have hnext : next.visible other = row.committed := by
      rw [visible, hwriter, ← hcommitted]
      exact if_neg (Ne.symm hsame)
    rw [if_neg hsame, hnext]
    unfold admits at hadmits
    unfold visible
    cases hheld : row.writer with
    | none => rfl
    | some held =>
        rw [hheld] at hadmits
        have howner : held.1 = session := of_decide_eq_true hadmits
        exact (if_neg (by rw [howner]; exact Ne.symm hsame)).symm

theorem visible_commit (row : RowLock κ ρ) (session other : κ) :
    (row.commit session).visible other = row.visible other ∨
      row.visible other = row.committed ∧ (row.commit session).visible other = row.latest := by
  unfold commit
  cases hheld : row.writer with
  | none =>
      left
      rfl
  | some held =>
      dsimp only
      by_cases howner : held.1 = session
      · rw [if_pos howner]
        have hlatest : row.latest = held.2 := by rw [latest, hheld]
        unfold visible
        rw [hheld]
        dsimp only
        by_cases hother : held.1 = other
        · rw [if_pos hother]
          exact .inl rfl
        · rw [if_neg hother, hlatest]
          exact .inr ⟨rfl, rfl⟩
      · rw [if_neg howner]
        exact .inl rfl

theorem visible_rollback {other : κ} (hne : other ≠ session) :
    (row.rollback session).visible other = row.visible other := by
  unfold rollback
  cases hheld : row.writer with
  | none => rfl
  | some held =>
      dsimp only
      by_cases howner : held.1 = session
      · rw [if_pos howner]
        unfold visible
        rw [hheld]
        dsimp only
        rw [if_neg (by rw [howner]; exact Ne.symm hne)]
      · rw [if_neg howner]

section Measure

variable {measure : ρ → Nat}

theorem visible_le_update (hgrows : measure row.latest ≤ measure (change row.latest))
    (h : row.update session change = some next) (other : κ) :
    measure (row.visible other) ≤ measure (next.visible other) := by
  rw [visible_update h]
  by_cases hsame : other = session
  · rw [if_pos hsame, hsame, visible_of_admits (update_eq_some h).1]
    exact hgrows
  · exact Nat.le_of_eq (by rw [if_neg hsame])

theorem visible_le_commit (hgrown : measure row.committed ≤ measure row.latest)
    (session other : κ) : measure (row.visible other) ≤
      measure ((row.commit session).visible other) := by
  rcases row.visible_commit session other with heq | ⟨hbefore, hafter⟩
  · exact Nat.le_of_eq (by rw [heq])
  · rw [hbefore, hafter]
    exact hgrown

theorem grown_update (hgrown : measure row.committed ≤ measure row.latest)
    (hgrows : measure row.latest ≤ measure (change row.latest))
    (h : row.update session change = some next) :
    measure next.committed ≤ measure next.latest := by
  obtain ⟨-, hcommitted, -, hlatest⟩ := update_eq_some h
  rw [hcommitted, hlatest]
  exact Nat.le_trans hgrown hgrows

theorem grown_commit (hgrown : measure row.committed ≤ measure row.latest) (session : κ) :
    measure (row.commit session).committed ≤ measure (row.commit session).latest := by
  rw [latest_commit]
  rcases row.committed_commit session with heq | heq
  · rw [heq]
    exact hgrown
  · exact Nat.le_of_eq (by rw [heq])

theorem grown_rollback (hgrown : measure row.committed ≤ measure row.latest) (session : κ) :
    measure (row.rollback session).committed ≤ measure (row.rollback session).latest := by
  rw [committed_rollback]
  rcases row.latest_rollback session with heq | heq
  · rw [heq]
    exact hgrown
  · exact Nat.le_of_eq (by rw [heq])

end Measure

/-- What holds of the committed version and of the latest holds of what any session
reads, and is kept when a write keeps it. -/
structure Both (holds : ρ → Prop) (row : RowLock κ ρ) : Prop where
  committed : holds row.committed
  latest : holds row.latest

theorem Both.visible {holds : ρ → Prop} (h : Both holds row) (session : κ) :
    holds (row.visible session) := by
  rcases row.visible_cases session with heq | heq
  · exact heq ▸ h.committed
  · exact heq ▸ h.latest

theorem Both.update {holds : ρ → Prop} (h : Both holds row)
    (hchange : holds (change row.latest)) (hnext : row.update session change = some next) :
    Both holds next := by
  obtain ⟨-, hcommitted, -, hlatest⟩ := update_eq_some hnext
  exact ⟨hcommitted ▸ h.committed, hlatest ▸ hchange⟩

theorem Both.commit {holds : ρ → Prop} (h : Both holds row) (session : κ) :
    Both holds (row.commit session) := by
  refine ⟨?_, (latest_commit row session).symm ▸ h.latest⟩
  rcases row.committed_commit session with heq | heq
  · exact heq ▸ h.committed
  · exact heq ▸ h.latest

theorem Both.rollback {holds : ρ → Prop} (h : Both holds row) (session : κ) :
    Both holds (row.rollback session) := by
  refine ⟨(committed_rollback row session).symm ▸ h.committed, ?_⟩
  rcases row.latest_rollback session with heq | heq
  · exact heq ▸ h.latest
  · exact heq ▸ h.committed

/-- What holds of the latest version holds of the committed one, unless the owner's write
is still to be committed. -/
structure Written (holds : ρ → Prop) (owner : κ) (row : RowLock κ ρ) : Prop where
  latest : holds row.latest
  committed : holds row.committed ∨ ∃ version, row.writer = some (owner, version)

omit [DecidableEq κ] in
theorem Both.written {holds : ρ → Prop} (h : Both holds row) (owner : κ) :
    Written holds owner row := ⟨h.latest, .inl h.committed⟩

theorem Written.update {holds : ρ → Prop} {owner : κ} (h : Written holds owner row)
    (hchange : holds (change row.latest)) (hnext : row.update session change = some next) :
    Written holds owner next := by
  obtain ⟨hadmits, hcommitted, hwriter, hlatest⟩ := update_eq_some hnext
  refine ⟨hlatest ▸ hchange, ?_⟩
  rcases h.committed with hold | ⟨version, hheld⟩
  · exact .inl (hcommitted ▸ hold)
  · have howner : owner = session := by simpa [admits, hheld] using hadmits
    exact .inr ⟨_, howner ▸ hwriter⟩

theorem Written.both {holds : ρ → Prop} {owner : κ} (h : Written holds owner row) :
    Both holds (row.commit owner) := by
  rcases h.committed with hold | ⟨version, hheld⟩
  · exact Both.commit ⟨hold, h.latest⟩ owner
  · have hversion : holds version := by simpa [RowLock.latest, hheld] using h.latest
    simp only [RowLock.commit, hheld, if_pos]
    exact ⟨hversion, hversion⟩

theorem Written.commit {holds : ρ → Prop} {owner : κ} (h : Written holds owner row)
    (session : κ) : Written holds owner (row.commit session) := by
  by_cases howner : session = owner
  · exact howner ▸ h.both.written owner
  · rcases h.committed with hold | ⟨version, hheld⟩
    · exact (Both.commit ⟨hold, h.latest⟩ session).written owner
    · have hsame : row.commit session = row := by
        simp [RowLock.commit, hheld, Ne.symm howner]
      exact hsame.symm ▸ h

theorem Written.rollback {holds : ρ → Prop} {owner : κ} (h : Written holds owner row)
    (howner : session ≠ owner) : Written holds owner (row.rollback session) := by
  rcases h.committed with hold | ⟨version, hheld⟩
  · exact (Both.rollback ⟨hold, h.latest⟩ session).written owner
  · have hsame : row.rollback session = row := by
      simp [RowLock.rollback, hheld, Ne.symm howner]
    exact hsame.symm ▸ h

end RowLock

end CrawlerApi.Foundation
