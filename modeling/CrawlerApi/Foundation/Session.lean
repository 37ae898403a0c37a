import Mathlib.Data.List.Basic

/-!
# Awaits and transactional sessions

An await completes, or an exception comes out of it after its effect was carried
out or not.  A session keeps its statements pending until a commit; a statement
that fails leaves it rejecting everything until a rollback, while an
interruption leaves what was sent pending.  What the session has loaded expires
where it is a flush that fails.
-/

namespace CrawlerApi.Foundation

inductive Delivery (ε : Type) where
  | completes
  | raises (exn : ε) (applied : Bool)

/-- The effect of the await was carried out. -/
def Delivery.Applied : Delivery ε → Prop
  | .completes => True
  | .raises _ applied => applied = true

def Delivery.outcome : Delivery ε → Except ε Unit
  | .completes => .ok ()
  | .raises exn _ => .error exn

def Delivery.effect (delivery : Delivery ε) (change : σ → σ) (state : σ) : σ :=
  match delivery with
  | .completes => change state
  | .raises _ applied => if applied then change state else state

@[simp] theorem Delivery.outcome_completes : (Delivery.completes : Delivery ε).outcome = .ok () :=
  rfl

@[simp] theorem Delivery.applied_completes : (Delivery.completes : Delivery ε).Applied := trivial

theorem Delivery.outcome_eq_ok {delivery : Delivery ε} :
    delivery.outcome = .ok () ↔ delivery = .completes := by
  cases delivery with
  | completes => exact ⟨fun _ => rfl, fun _ => rfl⟩
  | raises exn applied => exact ⟨fun h => (nomatch h), fun h => (nomatch h)⟩

theorem Delivery.outcome_eq_error {delivery : Delivery ε} {exn : ε} :
    delivery.outcome = .error exn ↔ ∃ applied, delivery = .raises exn applied := by
  cases delivery with
  | completes => exact ⟨fun h => (nomatch h), fun ⟨_, h⟩ => (nomatch h)⟩
  | raises other applied => simp [outcome]

theorem broken_of_unexpired {broken : Bool} (h : false = true) : broken = true :=
  absurd h Bool.false_ne_true

structure Session (δ : Type) where
  committed : List δ := []
  pending : List δ := []
  broken : Bool := false
  expired : Bool := false
  brokenOfExpired : expired = true → broken = true := by exact broken_of_unexpired

namespace Session

/-- The exceptions that interrupt an await rather than fail its statement, and
the exception of a session that waits for its rollback. -/
structure Exceptions (ε : Type) where
  interrupts : ε → Bool
  rejected : ε

variable (exceptions : Exceptions ε)

def add (session : Session δ) (statement : δ) : Session δ :=
  { session with pending := session.pending ++ [statement] }

def execute (statements : List δ) (delivery : Delivery ε) (session : Session δ) :
    Session δ × Except ε Unit :=
  if session.broken then (session, .error exceptions.rejected)
  else
    match delivery with
    | .completes => ({ session with pending := session.pending ++ statements }, .ok ())
    | .raises exn applied =>
        if exceptions.interrupts exn then
          ({ session with
            pending := if applied then session.pending ++ statements else session.pending },
            .error exn)
        else ({ session with broken := true, brokenOfExpired := fun _ => rfl }, .error exn)

def commit (delivery : Delivery ε) (session : Session δ) : Session δ × Except ε Unit :=
  if session.broken then (session, .error exceptions.rejected)
  else
    let committed : Session δ := { committed := session.committed ++ session.pending }
    match delivery with
    | .completes => (committed, .ok ())
    | .raises exn applied =>
        if applied then (committed, .error exn)
        else if exceptions.interrupts exn then (session, .error exn)
        else ({ session with broken := true, brokenOfExpired := fun _ => rfl }, .error exn)

def rollback (delivery : Delivery ε) (session : Session δ) : Session δ × Except ε Unit :=
  (delivery.effect (fun session => { committed := session.committed }) session, delivery.outcome)

def expire (inFlush : Bool) (session : Session δ) : Session δ :=
  { session with
    expired := session.expired || inFlush && session.broken
    brokenOfExpired := by
      rw [Bool.or_eq_true, Bool.and_eq_true]
      rintro (hexpired | ⟨-, hbroken⟩)
      · exact session.brokenOfExpired hexpired
      · exact hbroken }

def close (session : Session δ) : Session δ := { committed := session.committed }

section Outcomes

variable {exceptions : Exceptions ε} {session : Session δ} {statements : List δ}
  {delivery : Delivery ε}

theorem expired_of_open (h : session.broken = false) : session.expired = false := by
  rw [← Bool.not_eq_true]
  intro hexpired
  rw [session.brokenOfExpired hexpired] at h
  cases h

@[simp] theorem expired_expire (session : Session δ) (inFlush : Bool) :
    (session.expire inFlush).expired = (session.expired || inFlush && session.broken) := rfl

@[simp] theorem broken_expire (session : Session δ) (inFlush : Bool) :
    (session.expire inFlush).broken = session.broken := rfl

@[simp] theorem broken_add (session : Session δ) (statement : δ) :
    (session.add statement).broken = session.broken := rfl

theorem execute_of_broken (h : session.broken = true) :
    session.execute exceptions statements delivery = (session, .error exceptions.rejected) :=
  if_pos h

theorem commit_of_broken (h : session.broken = true) :
    session.commit exceptions delivery = (session, .error exceptions.rejected) :=
  if_pos h

theorem execute_outcome (h : session.broken = false) :
    (session.execute exceptions statements delivery).2 = delivery.outcome := by
  unfold execute
  rw [if_neg (by simp [h])]
  cases delivery with
  | completes => rfl
  | raises exn applied => dsimp only; split <;> rfl

theorem commit_outcome (h : session.broken = false) :
    (session.commit exceptions delivery).2 = delivery.outcome := by
  unfold commit
  rw [if_neg (by simp [h])]
  cases delivery with
  | completes => rfl
  | raises exn applied => dsimp only; split <;> [rfl; (split <;> rfl)]

theorem execute_ok_iff : (session.execute exceptions statements delivery).2 = .ok () ↔
    session.broken = false ∧ delivery = .completes := by
  cases h : session.broken with
  | true => simp [execute_of_broken h]
  | false => rw [execute_outcome h, Delivery.outcome_eq_ok]; simp

theorem commit_ok_iff : (session.commit exceptions delivery).2 = .ok () ↔
    session.broken = false ∧ delivery = .completes := by
  cases h : session.broken with
  | true => simp [commit_of_broken h]
  | false => rw [commit_outcome h, Delivery.outcome_eq_ok]; simp

theorem broken_execute_of_ok
    (h : (session.execute exceptions statements delivery).2 = .ok ()) :
    (session.execute exceptions statements delivery).1.broken = false := by
  obtain ⟨hbroken, rfl⟩ := execute_ok_iff.mp h
  simp [execute, hbroken]

theorem broken_commit_of_ok (h : (session.commit exceptions delivery).2 = .ok ()) :
    (session.commit exceptions delivery).1.broken = false := by
  obtain ⟨hbroken, rfl⟩ := commit_ok_iff.mp h
  simp [commit, hbroken]

theorem execute_ok_of_open
    (hopen : (session.execute exceptions statements delivery).1.broken = false)
    (h : ∀ exn, exceptions.interrupts exn = true →
      (session.execute exceptions statements delivery).2 ≠ .error exn) :
    (session.execute exceptions statements delivery).2 = .ok () := by
  cases hbroken : session.broken with
  | true => simp [execute_of_broken hbroken, hbroken] at hopen
  | false =>
      cases delivery with
      | completes => exact execute_outcome hbroken
      | raises exn applied =>
          cases hinterrupts : exceptions.interrupts exn with
          | true => exact absurd (execute_outcome hbroken) (h exn hinterrupts)
          | false => simp [execute, hbroken, hinterrupts] at hopen

theorem expired_execute :
    (session.execute exceptions statements delivery).1.expired = session.expired := by
  unfold execute
  split
  · rfl
  · cases delivery with
    | completes => rfl
    | raises exn applied =>
        dsimp only
        split
        · rfl
        · rfl

theorem expired_commit (h : session.expired = false) :
    (session.commit exceptions delivery).1.expired = false := by
  unfold commit
  split
  · exact h
  · cases delivery with
    | completes => rfl
    | raises exn applied =>
        dsimp only
        split
        · rfl
        · split
          · exact h
          · exact h

theorem committed_execute :
    (session.execute exceptions statements delivery).1.committed = session.committed := by
  unfold execute
  split
  · rfl
  · cases delivery with
    | completes => rfl
    | raises exn applied =>
        dsimp only
        split
        · rfl
        · rfl

theorem commit_applied (hopen : session.broken = false) (h : delivery.Applied) :
    (session.commit exceptions delivery).1 =
      { committed := session.committed ++ session.pending } := by
  unfold commit
  rw [if_neg (Bool.eq_false_iff.mp hopen)]
  cases delivery with
  | completes => rfl
  | raises exn applied =>
      have happlied : applied = true := h
      subst happlied
      rfl

theorem committed_commit (h : session.broken = false → ¬ delivery.Applied) :
    (session.commit exceptions delivery).1.committed = session.committed := by
  unfold commit
  split
  · rfl
  · rename_i hopen
    rw [Bool.not_eq_true] at hopen
    cases delivery with
    | completes => exact absurd trivial (h hopen)
    | raises exn applied =>
        have hfailed : ¬ applied = true := h hopen
        dsimp only
        rw [if_neg hfailed]
        split
        · rfl
        · rfl

theorem pending_execute_nil :
    (session.execute exceptions [] delivery).1.pending = session.pending := by
  unfold execute
  split
  · rfl
  · cases delivery with
    | completes => exact List.append_nil _
    | raises exn applied =>
        dsimp only
        split
        · cases applied with
          | true => exact List.append_nil _
          | false => rfl
        · rfl

theorem rollback_cases : (session.rollback delivery).1 = session ∨
    (session.rollback delivery).1 = { committed := session.committed } := by
  unfold rollback
  cases delivery with
  | completes => exact .inr rfl
  | raises exn applied =>
      cases applied with
      | true => exact .inr rfl
      | false => exact .inl rfl

theorem committed_rollback : (session.rollback delivery).1.committed = session.committed := by
  rcases @rollback_cases _ _ session delivery with h | h
  · rw [h]
  · rw [h]

end Outcomes

section Counting

variable {exceptions : Exceptions ε} {kind : δ → Bool} {session : Session δ}
  {statements : List δ} {delivery : Delivery ε}

def Lacks (kind : δ → Bool) (session : Session δ) : Prop :=
  session.committed.countP kind = 0 ∧ session.pending.countP kind = 0

def Exceptions.breaks (exceptions : Exceptions ε) : Delivery ε → Bool
  | .completes => false
  | .raises exn _ => !exceptions.interrupts exn

def Exceptions.breaksCommit (exceptions : Exceptions ε) : Delivery ε → Bool
  | .completes => false
  | .raises exn applied => !applied && !exceptions.interrupts exn

theorem broken_execute (h : session.broken = false) :
    (session.execute exceptions statements delivery).1.broken = exceptions.breaks delivery := by
  unfold execute
  rw [if_neg (by simp [h])]
  cases delivery with
  | completes => exact h
  | raises exn applied =>
      cases hinterrupts : exceptions.interrupts exn <;>
        simp [Exceptions.breaks, hinterrupts, h]

theorem broken_commit (h : session.broken = false) :
    (session.commit exceptions delivery).1.broken = exceptions.breaksCommit delivery := by
  unfold commit
  rw [if_neg (by simp [h])]
  cases delivery with
  | completes => rfl
  | raises exn applied =>
      cases applied <;> cases hinterrupts : exceptions.interrupts exn <;>
        simp [Exceptions.breaksCommit, hinterrupts, h]

theorem Lacks.add (h : session.Lacks kind) {statement : δ} (hkind : kind statement = false) :
    (session.add statement).Lacks kind := by
  refine ⟨h.1, ?_⟩
  simp [Session.add, h.2, hkind]

theorem Lacks.execute (h : session.Lacks kind) :
    (session.execute exceptions [] delivery).1.Lacks kind := by
  unfold Session.execute
  split
  · exact h
  · cases delivery with
    | completes => simpa using h
    | raises exn applied =>
        dsimp only
        split
        · simpa using h
        · exact h

theorem Lacks.executeOthers (h : session.Lacks kind) (hothers : statements.countP kind = 0) :
    (session.execute exceptions statements delivery).1.Lacks kind := by
  have hsent : session.committed.countP kind = 0 ∧
      (session.pending ++ statements).countP kind = 0 := by
    rw [List.countP_append, h.2, hothers]
    exact ⟨h.1, rfl⟩
  unfold Session.execute
  split
  · exact h
  · cases delivery with
    | completes => exact hsent
    | raises exn applied =>
        dsimp only
        split
        · split
          · exact hsent
          · exact h
        · exact h

theorem Lacks.commit (h : session.Lacks kind) :
    (session.commit exceptions delivery).1.Lacks kind := by
  have hall : Lacks kind { committed := session.committed ++ session.pending } := by
    simpa [Lacks] using h
  unfold Session.commit
  split
  · exact h
  · cases delivery with
    | completes => exact hall
    | raises exn applied =>
        dsimp only
        split
        · exact hall
        · split <;> exact h

/-- How a session that takes statements answers one, and what that leaves. -/
theorem execute_of_open (exceptions : Exceptions ε) (delivery : Delivery ε)
    (h : session.broken = false) :
    ∃ next, session.execute exceptions [] delivery = (next, delivery.outcome) ∧
      next.broken = exceptions.breaks delivery ∧ next.expired = false ∧
      ∀ kind, session.Lacks kind → next.Lacks kind :=
  ⟨_, Prod.ext rfl (execute_outcome h), broken_execute h,
    expired_execute.trans (expired_of_open h), fun _ hlacks => hlacks.execute⟩

theorem commit_of_open (exceptions : Exceptions ε) (delivery : Delivery ε)
    (h : session.broken = false) :
    ∃ next, session.commit exceptions delivery = (next, delivery.outcome) ∧
      next.broken = exceptions.breaksCommit delivery ∧ next.expired = false ∧
      ∀ kind, session.Lacks kind → next.Lacks kind :=
  ⟨_, Prod.ext rfl (commit_outcome h), broken_commit h, expired_commit (expired_of_open h),
    fun _ hlacks => hlacks.commit⟩

theorem Lacks.rollback (h : session.Lacks kind) : (session.rollback delivery).1.Lacks kind := by
  have hcommitted : Lacks kind { committed := session.committed } := ⟨h.1, rfl⟩
  cases delivery with
  | completes => exact hcommitted
  | raises exn applied => cases applied <;> assumption

end Counting

end Session

end CrawlerApi.Foundation
