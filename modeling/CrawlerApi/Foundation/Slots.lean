import Mathlib.Data.List.Basic
import Mathlib.Data.List.Perm.Subperm

/-!
# Counting semaphores

A semaphore and the calls that come to it, each standing in a phase.  A phase holds a slot or
it does not, and it may own a resource.  A call takes a permit, gives one back, or moves on
with what it has; the permits and the slots held always make up the same number.
-/

namespace CrawlerApi.Foundation

structure Slots (φ : Type) where
  permits : Nat
  calls : List φ

namespace Slots

variable {φ ρ : Type}

def start (permits : Nat) : Slots φ := ⟨permits, []⟩

def enter (slots : Slots φ) (phase : φ) : Slots φ :=
  { slots with calls := slots.calls ++ [phase] }

def go (slots : Slots φ) (i : Nat) (phase : φ) : Slots φ :=
  { slots with calls := slots.calls.set i phase }

def acquire (slots : Slots φ) (i : Nat) (phase : φ) : Option (Slots φ) :=
  if slots.permits = 0 then none else some ⟨slots.permits - 1, slots.calls.set i phase⟩

def release (slots : Slots φ) (i : Nat) (phase : φ) : Slots φ :=
  ⟨slots.permits + 1, slots.calls.set i phase⟩

@[simp] theorem go_calls (slots : Slots φ) (i : Nat) (phase : φ) :
    (slots.go i phase).calls = slots.calls.set i phase := rfl

@[simp] theorem release_calls (slots : Slots φ) (i : Nat) (phase : φ) :
    (slots.release i phase).calls = slots.calls.set i phase := rfl

@[simp] theorem enter_calls (slots : Slots φ) (phase : φ) :
    (slots.enter phase).calls = slots.calls ++ [phase] := rfl

theorem acquire_eq_some {slots next : Slots φ} {i : Nat} {phase : φ}
    (h : slots.acquire i phase = some next) :
    0 < slots.permits ∧ next = ⟨slots.permits - 1, slots.calls.set i phase⟩ := by
  unfold acquire at h
  split at h
  · cases h
  · rename_i hpermits
    exact ⟨Nat.pos_of_ne_zero hpermits, (Option.some.inj h).symm⟩

theorem getElem?_set_cases {calls : List φ} {i j : Nat} {phase other : φ}
    (h : (calls.set i phase)[j]? = some other) :
    j = i ∧ other = phase ∨ calls[j]? = some other := by
  rw [List.getElem?_set] at h
  split at h
  · rename_i hij
    split at h
    · exact .inl ⟨hij.symm, (Option.some.inj h).symm⟩
    · cases h
  · exact .inr h

section Counting

variable (holds : φ → Bool) {slots next : Slots φ} {i : Nat} {old phase : φ}

theorem countP_calls_set (phase : φ) (hat : slots.calls[i]? = some old) :
    (slots.calls.set i phase).countP holds + (if holds old then 1 else 0) =
      slots.calls.countP holds + if holds phase then 1 else 0 := by
  obtain ⟨hi, hold⟩ := List.getElem?_eq_some_iff.mp hat
  have hle := List.boole_getElem_le_countP (p := holds) hi
  rw [List.countP_set hi, hold]
  rw [hold] at hle
  omega

def total (slots : Slots φ) : Nat := slots.permits + slots.calls.countP holds

theorem total_enter (hout : holds phase = false) :
    (slots.enter phase).total holds = slots.total holds := by
  unfold total
  simp [enter, hout]

theorem total_go (hat : slots.calls[i]? = some old) (hsame : holds phase = holds old) :
    (slots.go i phase).total holds = slots.total holds := by
  have hcount := countP_calls_set holds phase hat
  unfold total
  rw [hsame] at hcount
  exact congrArg (slots.permits + ·) (Nat.add_right_cancel hcount)

theorem total_acquire (hat : slots.calls[i]? = some old) (hout : holds old = false)
    (hin : holds phase = true) (h : slots.acquire i phase = some next) :
    next.total holds = slots.total holds := by
  obtain ⟨hpermits, rfl⟩ := acquire_eq_some h
  have hcount := countP_calls_set holds phase hat
  simp only [hout, hin, Bool.false_eq_true, if_true, if_false] at hcount
  unfold total
  dsimp only
  omega

theorem total_release (hat : slots.calls[i]? = some old) (hin : holds old = true)
    (hout : holds phase = false) : (slots.release i phase).total holds = slots.total holds := by
  have hcount := countP_calls_set holds phase hat
  simp only [hout, hin, Bool.false_eq_true, if_true, if_false] at hcount
  unfold total release
  dsimp only
  omega

theorem permits_eq_total_iff : slots.permits = slots.total holds ↔
    ∀ phase ∈ slots.calls, holds phase = false := by
  unfold total
  have hzero := List.countP_eq_zero (p := holds) (l := slots.calls)
  simp only [Bool.not_eq_true] at hzero
  rw [← hzero]
  omega

end Counting

section Owning

variable {own : φ → Option ρ} {slots : Slots φ} {i : Nat} {old phase : φ}

def Apart (own : φ → Option ρ) (slots : Slots φ) : Prop :=
  ∀ (i j : Nat) (first second : φ) (resource : ρ),
    slots.calls[i]? = some first → slots.calls[j]? = some second →
      own first = some resource → own second = some resource → i = j

def Owned (own : φ → Option ρ) (slots : Slots φ) (resource : ρ) : Prop :=
  ∃ phase ∈ slots.calls, own phase = some resource

theorem apart_start (permits : Nat) : Apart own (start permits) := by
  intro i j first second resource hfirst
  cases hfirst

theorem Apart.enter (h : Apart own slots) (hnone : own phase = none) :
    Apart own (slots.enter phase) := by
  intro i j first second resource hfirst hsecond howns hother
  have hold : ∀ {k : Nat} {q : φ}, (slots.calls ++ [phase])[k]? = some q →
      own q = some resource → slots.calls[k]? = some q := by
    intro k q hat howned
    rw [List.getElem?_append] at hat
    split at hat
    · exact hat
    · have hq : q = phase := List.mem_singleton.mp (List.mem_of_getElem? hat)
      rw [hq, hnone] at howned
      cases howned
  exact h i j first second resource (hold hfirst howns) (hold hsecond hother) howns hother

theorem Apart.set {next : Slots φ} (h : Apart own slots) (hat : slots.calls[i]? = some old)
    (hnext : next.calls = slots.calls.set i phase)
    (howns : ∀ resource, own phase = some resource →
      own old = some resource ∨ ¬ slots.Owned own resource) : Apart own next := by
  have hi : i < slots.calls.length := (List.getElem?_eq_some_iff.mp hat).1
  -- what another call owns, call `i` does not own after the step
  have hother : ∀ {j : Nat} {q : φ} {resource : ρ}, j ≠ i → slots.calls[j]? = some q →
      own q = some resource → own phase = some resource → False := by
    intro j q resource hne hq howned hphase
    rcases howns resource hphase with hold | hfresh
    · exact hne (h j i q old resource hq hat howned hold)
    · exact hfresh ⟨q, List.mem_of_getElem? hq, howned⟩
  intro j k first second resource hfirst hsecond hown hown'
  rw [hnext, List.getElem?_set] at hfirst hsecond
  by_cases hj : i = j <;> by_cases hk : i = k
  · exact hj.symm.trans hk
  · rw [if_pos hj, if_pos hi] at hfirst
    rw [if_neg hk] at hsecond
    cases hfirst
    exact (hother (Ne.symm hk) hsecond hown' hown).elim
  · rw [if_neg hj] at hfirst
    rw [if_pos hk, if_pos hi] at hsecond
    cases hsecond
    exact (hother (Ne.symm hj) hfirst hown hown').elim
  · rw [if_neg hj] at hfirst
    rw [if_neg hk] at hsecond
    exact h j k first second resource hfirst hsecond hown hown'

theorem owned_set {next : Slots φ} (hnext : next.calls = slots.calls.set i phase) {resource : ρ}
    (h : next.Owned own resource) : own phase = some resource ∨ slots.Owned own resource := by
  obtain ⟨q, hq, howned⟩ := h
  rw [hnext] at hq
  rcases List.mem_or_eq_of_mem_set hq with hold | rfl
  · exact .inr ⟨q, hold, howned⟩
  · exact .inl howned

theorem Owned.set {next : Slots φ} {resource : ρ} (h : slots.Owned own resource)
    (hat : slots.calls[i]? = some old) (hnext : next.calls = slots.calls.set i phase)
    (hkeeps : own old = some resource → own phase = some resource) :
    next.Owned own resource := by
  obtain ⟨q, hq, howned⟩ := h
  obtain ⟨hi, -⟩ := List.getElem?_eq_some_iff.mp hat
  obtain ⟨j, hj⟩ := List.mem_iff_getElem?.mp hq
  by_cases hij : i = j
  · subst hij
    cases hat.symm.trans hj
    exact ⟨phase, hnext ▸ List.mem_set hi phase, hkeeps howned⟩
  · refine ⟨q, ?_, howned⟩
    rw [hnext]
    exact List.mem_of_getElem? ((List.getElem?_set_ne hij).trans hj)

theorem owned_enter (hnone : own phase = none) {resource : ρ} :
    (slots.enter phase).Owned own resource ↔ slots.Owned own resource := by
  unfold Owned
  simp [hnone]

theorem length_le_countP {holds : φ → Bool} {resources : List ρ}
    (hinside : ∀ phase ∈ slots.calls, (own phase).isSome → holds phase = true)
    (hnodup : resources.Nodup) (howned : ∀ resource ∈ resources, slots.Owned own resource) :
    resources.length ≤ slots.calls.countP holds := by
  have hsub : resources ⊆ slots.calls.filterMap own := by
    intro resource hresource
    obtain ⟨phase, hphase, hown⟩ := howned resource hresource
    exact List.mem_filterMap.mpr ⟨phase, hphase, hown⟩
  calc resources.length
      ≤ (slots.calls.filterMap own).length := (hnodup.subperm hsub).length_le
    _ = slots.calls.countP (fun phase => (own phase).isSome) :=
        List.length_filterMap_eq_countP
    _ ≤ slots.calls.countP holds := List.countP_mono_left hinside

end Owning

end Slots

end CrawlerApi.Foundation
