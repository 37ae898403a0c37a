import CrawlerApi.Worker.PolicySessions

/-!
# What holds of the policies over their life

Bounds that every write keeps, and a deletion that no write undoes.
-/

namespace CrawlerApi.Worker.PolicyLife

open Keys Fetch Foundation

/-! ### The bounds of a stored policy -/

/-- Every column is one the API accepts, the counter of the learner one it counts to. -/
structure Valid (row : DomainPolicy) : Prop where
  rateLimit : 1 / 10 ≤ row.rateLimitRps ∧ row.rateLimitRps ≤ 100
  minDelay : 0 ≤ row.minDelayMs ∧ row.minDelayMs ≤ 60000
  maxDelay : 0 ≤ row.maxDelayMs ∧ row.maxDelayMs ≤ 60000
  maxRetries : 0 ≤ row.maxRetries ∧ row.maxRetries ≤ 10
  escalationTier : 0 ≤ row.escalationTier ∧ row.escalationTier ≤ 6
  maxEscalationAttempts : 1 ≤ row.maxEscalationAttempts ∧ row.maxEscalationAttempts ≤ 50
  consecutiveBlocks : 0 ≤ row.consecutiveBlocks

structure Sound (state : State) : Prop where
  rows : ∀ row ∈ state.table.rows, Valid row
  copies : ∀ session row, state.sessions session = some row → Valid row

/-- A recorded result comes from a tier of the ladder. -/
def Action.OnLadder : Action → Prop
  | .record _ result _ _ => result.tierUsed ≤ 6
  | _ => True

def Answer.shown : Answer → Option DomainPolicy
  | .row policy => some policy
  | .resolved policy => policy
  | .unchanged policy => some policy
  | _ => none

inductive Shown (state : State) (action : Action) (row : DomainPolicy) : Prop where
  | stored : row ∈ state.table.rows → Shown state action row
  | unchanged {session : Connection} {body : DomainPolicyUpdate} {now : Instant} :
      action = .patch session body now → body.isEmpty = true →
      state.sessions session = some row → Shown state action row

section Validity

variable {text : TextMethods} {tables : TextTables} {registeredDomain : String → String}
  {state : State} {action : Action} {row loaded changed stored : DomainPolicy}

theorem holds_getD {p : α → Prop} {value : Option α} {other : α} (hvalue : ∀ a ∈ value, p a)
    (hother : p other) : p (value.getD other) := by
  cases value with
  | none => exact hother
  | some a => exact hvalue a rfl

theorem holds_written {p : α → Prop} [DecidableEq α] {loaded changed stored : α}
    (hchanged : p changed) (hstored : p stored) : p (written loaded changed stored) := by
  unfold written
  split
  · exact hstored
  · exact hchanged

theorem Valid.assign (h : Valid row) (body : DomainPolicyUpdate) : Valid (body.assign row) where
  rateLimit := holds_getD (p := fun rate => 1 / 10 ≤ rate ∧ rate ≤ 100) body.rateLimitRange
    h.rateLimit
  minDelay := holds_getD (p := fun delay => 0 ≤ delay ∧ delay ≤ 60000) body.minDelayRange h.minDelay
  maxDelay := holds_getD (p := fun delay => 0 ≤ delay ∧ delay ≤ 60000) body.maxDelayRange h.maxDelay
  maxRetries := holds_getD (p := fun retries => 0 ≤ retries ∧ retries ≤ 10) body.maxRetriesRange
    h.maxRetries
  escalationTier := holds_getD (p := fun tier => 0 ≤ tier ∧ tier ≤ 6) body.escalationTierRange
    h.escalationTier
  maxEscalationAttempts := holds_getD (p := fun attempts => 1 ≤ attempts ∧ attempts ≤ 50)
    body.maxEscalationAttemptsRange h.maxEscalationAttempts
  consecutiveBlocks := h.consecutiveBlocks

theorem Valid.pin (h : Valid row) {tier : Option Int} (haccepted : tierAccepted tier = true)
    (locked : Bool) : Valid (pin tier locked row) where
  rateLimit := h.rateLimit
  minDelay := h.minDelay
  maxDelay := h.maxDelay
  maxRetries := h.maxRetries
  escalationTier := by
    cases tier with
    | none => exact h.escalationTier
    | some tier => exact of_decide_eq_true haccepted
  maxEscalationAttempts := h.maxEscalationAttempts
  consecutiveBlocks := h.consecutiveBlocks

theorem learn_escalationTier (result : FetchResult) (now : Instant) :
    (learn text result now row).escalationTier =
      if row.tierLocked then row.escalationTier
      else if result.blocked then max ↑result.tierUsed row.escalationTier
      else max (max ↑result.tierUsed (row.escalationTier - 1)) 0 :=
  PolicyRow.learn_tier (policyRow row) result result.tierUsed _ now

theorem learn_consecutiveBlocks (result : FetchResult) (now : Instant) :
    (learn text result now row).consecutiveBlocks =
      if result.blocked then row.consecutiveBlocks + 1 else 0 :=
  PolicyRow.learn_consecutiveBlocks (policyRow row) result result.tierUsed _ now

theorem Valid.learn (h : Valid row) {result : FetchResult} (htier : result.tierUsed ≤ 6)
    (now : Instant) : Valid (learn text result now row) where
  rateLimit := h.rateLimit
  minDelay := h.minDelay
  maxDelay := h.maxDelay
  maxRetries := h.maxRetries
  escalationTier := by
    have hrow := h.escalationTier
    rw [learn_escalationTier]
    split
    · exact hrow
    · split <;> omega
  maxEscalationAttempts := h.maxEscalationAttempts
  consecutiveBlocks := by
    have hrow := h.consecutiveBlocks
    rw [learn_consecutiveBlocks]
    split <;> omega

theorem Valid.flush (hchanged : Valid changed) (hstored : Valid stored) (now : Instant) :
    Valid (flush loaded changed now stored) where
  rateLimit := holds_written (p := fun rate => 1 / 10 ≤ rate ∧ rate ≤ 100) hchanged.rateLimit
    hstored.rateLimit
  minDelay := holds_written (p := fun delay => 0 ≤ delay ∧ delay ≤ 60000) hchanged.minDelay
    hstored.minDelay
  maxDelay := holds_written (p := fun delay => 0 ≤ delay ∧ delay ≤ 60000) hchanged.maxDelay
    hstored.maxDelay
  maxRetries := holds_written (p := fun retries => 0 ≤ retries ∧ retries ≤ 10) hchanged.maxRetries
    hstored.maxRetries
  escalationTier := holds_written (p := fun tier => 0 ≤ tier ∧ tier ≤ 6) hchanged.escalationTier
    hstored.escalationTier
  maxEscalationAttempts := holds_written (p := fun attempts => 1 ≤ attempts ∧ attempts ≤ 50)
    hchanged.maxEscalationAttempts hstored.maxEscalationAttempts
  consecutiveBlocks := holds_written (p := fun blocks => 0 ≤ blocks) hchanged.consecutiveBlocks
    hstored.consecutiveBlocks

theorem valid_of_body (body : DomainPolicyCreate) (hcolumns : row.toPolicyColumns =
    body.toPolicyColumns) (hblocks : 0 ≤ row.consecutiveBlocks) : Valid row where
  rateLimit := by rw [hcolumns]; exact body.rateLimitRange
  minDelay := by rw [hcolumns]; exact body.minDelayRange
  maxDelay := by rw [hcolumns]; exact body.maxDelayRange
  maxRetries := by rw [hcolumns]; exact body.maxRetriesRange
  escalationTier := by rw [hcolumns]; exact body.escalationTierRange
  maxEscalationAttempts := by rw [hcolumns]; exact body.maxEscalationAttemptsRange
  consecutiveBlocks := hblocks

theorem Valid.edited (h : Valid loaded) (hladder : action.OnLadder)
    (hedited : Edited text action loaded changed) : Valid changed := by
  cases hedited with
  | patch body => exact h.assign body
  | pin locked _ haccepted => exact h.pin haccepted locked
  | record result => exact h.learn hladder _

theorem Sound.step (h : Sound state) (hladder : action.OnLadder) :
    Sound (step text tables registeredDomain state action).1 where
  rows := by
    intro row hrow
    cases step_origin hrow with
    | kept hkept => exact h.rows row hkept
    | flushed hheld hedited hstored =>
        exact ((h.copies _ _ hheld).edited hladder hedited).flush (h.rows _ hstored) _
    | assigned _ hold =>
        exact valid_of_body _ rfl (h.rows _ hold).consecutiveBlocks
    | inserted => exact valid_of_body _ rfl (Int.le_refl 0)
  copies := by
    intro session row hheld
    cases step_copied hheld with
    | kept hkept => exact h.copies session row hkept
    | loaded hrow => exact h.rows row hrow
    | edited hloaded hedited => exact (h.copies _ _ hloaded).edited hladder hedited

theorem shown_save {session : Connection} {now : Instant} :
    (state.save session loaded changed now).2.shown = none := by
  unfold State.save
  split <;> rfl

theorem step_shown
    (h : (PolicyLife.step text tables registeredDomain state action).2.shown = some row) :
    Shown state action row := by
  cases action with
  | upsert body id now =>
      unfold PolicyLife.step at h
      dsimp only at h
      split at h
      · cases h
      · split at h <;> cases h
  | fetch domain =>
      unfold PolicyLife.step at h
      dsimp only at h
      split at h
      · cases h
      · rename_i hfound
        cases h
        exact .stored (PolicyTable.mem_of_select hfound).1
  | get session policyId =>
      unfold PolicyLife.step at h
      dsimp only at h
      split at h
      · cases h
      · rename_i hfound
        cases h
        exact .stored (mem_of_findPolicy hfound).1
  | resolve session domain => exact .stored (mem_of_selectActive h)
  | patch session body now =>
      unfold PolicyLife.step at h
      dsimp only at h
      split at h
      · cases h
      · rename_i loaded hheld
        split at h
        · rename_i hempty
          cases h
          exact .unchanged rfl hempty hheld
        · rw [shown_save] at h
          cases h
  | pin session tier locked now =>
      unfold PolicyLife.step at h
      dsimp only at h
      split at h
      · cases h
      · split at h
        · rw [shown_save] at h
          cases h
        · cases h
  | refresh session =>
      unfold PolicyLife.step at h
      dsimp only at h
      split at h
      · cases h
      · split at h
        · cases h
        · rename_i hfound
          cases h
          exact .stored (mem_of_findPolicy hfound).1
  | delete session =>
      unfold PolicyLife.step at h
      dsimp only at h
      split at h <;> cases h
  | record session result now skipped =>
      unfold PolicyLife.step at h
      dsimp only at h
      split at h
      · cases h
      · split at h
        · cases h
        · split at h <;> cases h

theorem Sound.shown (h : Sound state) (hshown : Shown state action row) : Valid row := by
  cases hshown with
  | stored hrow => exact h.rows row hrow
  | unchanged _ _ hheld => exact h.copies _ row hheld

theorem Sound.serveAll (h : Sound state) {actions : List Action}
    (hladder : ∀ action ∈ actions, action.OnLadder) :
    Sound (Foundation.serveAll (PolicyLife.step text tables registeredDomain) state actions) := by
  induction actions generalizing state with
  | nil => exact h
  | cons action actions ih =>
      exact ih (h.step (hladder action (List.mem_cons_self ..))) fun later hlater =>
        hladder later (List.mem_cons_of_mem _ hlater)

/-- Whatever operators and jobs do at the same time, a stored policy and one handed to a job
or an operator are within the bounds of the API. -/
theorem policies_valid (text : TextMethods) (tables : TextTables)
    (registeredDomain : String → String) (table : PolicyTable)
    (htable : ∀ row ∈ table.rows, Valid row) (actions : List Action)
    (hladder : ∀ action ∈ actions, action.OnLadder) :
    (∀ row ∈ (serveAll (step text tables registeredDomain) ⟨table, fun _ => none⟩
        actions).table.rows, Valid row) ∧
      ∀ served ∈ transcript (step text tables registeredDomain) ⟨table, fun _ => none⟩ actions,
        ∀ row, served.output.shown = some row → Valid row := by
  have hstart : Sound ⟨table, fun _ => none⟩ := ⟨htable, fun _ _ h => nomatch h⟩
  refine ⟨(hstart.serveAll hladder).rows, fun served hserved row hshown => ?_⟩
  obtain ⟨before, after, hactions, hbefore⟩ := served_of_transcript hserved
  rw [output_of_mem_transcript hserved] at hshown
  refine Sound.shown ?_ (step_shown hshown)
  rw [hbefore]
  refine hstart.serveAll fun action haction => hladder action ?_
  rw [hactions]
  exact List.mem_append_left _ haction

end Validity

def examplePolicy : DomainPolicy := insertedPolicy 1 0 "example.com" {}

def examplePolicies : PolicyTable := ⟨[examplePolicy], [], by decide⟩

theorem valid_examplePolicy : Valid examplePolicy where
  rateLimit := by decide +kernel
  minDelay := by decide
  maxDelay := by decide
  maxRetries := by decide
  escalationTier := by decide
  maxEscalationAttempts := by decide
  consecutiveBlocks := by decide

def patchedWhileFetched : List Action :=
  [.resolve 0 "example.com", .get 1 1, .patch 1 { escalationTier := some 4 } 20,
    .record 0 { url := "http://example.com/", statusCode := 403, blocked := true, tierUsed := 6 } 30
      false,
    .refresh 1]

theorem policies_valid_patched :
    (∀ row ∈ (serveAll (step asciiText asciiTables id) ⟨examplePolicies, fun _ => none⟩
        patchedWhileFetched).table.rows, Valid row) ∧
      ∀ served ∈ transcript (step asciiText asciiTables id) ⟨examplePolicies, fun _ => none⟩
          patchedWhileFetched,
        ∀ row, served.output.shown = some row → Valid row := by
  refine policies_valid asciiText asciiTables id examplePolicies ?_ patchedWhileFetched ?_
  · intro row hrow
    rw [List.mem_singleton.mp hrow]
    exact valid_examplePolicy
  · simp [patchedWhileFetched, Action.OnLadder]

/-! ### Deletion -/

def Action.session : Action → Option Connection
  | .upsert .. | .fetch _ => none
  | .get session _ | .resolve session _ | .patch session _ _ | .pin session _ _ _
  | .refresh session | .delete session | .record session _ _ _ => some session

def Absent (id : Uuid) (state : State) : Prop := ∀ row ∈ state.table.rows, row.id ≠ id

def Holds (id : Uuid) (state : State) (session : Connection) : Prop :=
  ∃ row, state.sessions session = some row ∧ row.id = id

section Deletion

variable {text : TextMethods} {tables : TextTables} {registeredDomain : String → String}
  {state : State} {action : Action} {row loaded changed stored : DomainPolicy} {id : Uuid}
  {session : Connection} {now : Instant}

theorem Edited.id_eq (h : Edited text action loaded changed) : changed.id = loaded.id := by
  cases h <;> rfl

/-- A policy that is not in the table is loaded by nobody. -/
theorem Absent.holds (habsent : Absent id state)
    (hholds : Holds id (PolicyLife.step text tables registeredDomain state action).1 session) :
    Holds id state session := by
  obtain ⟨row, hheld, rfl⟩ := hholds
  cases step_copied hheld with
  | kept hkept => exact ⟨row, hkept, rfl⟩
  | loaded hrow => exact absurd rfl (habsent row hrow)
  | edited hloaded hedited => exact ⟨_, hloaded, hedited.id_eq.symm⟩

theorem Absent.step (habsent : Absent id state)
    (hfresh : ∀ body now, action ≠ .upsert body id now) :
    Absent id (step text tables registeredDomain state action).1 := by
  intro row hrow
  cases step_origin hrow with
  | kept hkept => exact habsent row hkept
  | @flushed _ _ _ stored _ _ _ hstored => exact habsent stored hstored
  | @assigned _ _ _ old _ hold => exact habsent old hold
  | inserted haction =>
      rintro rfl
      exact hfresh _ _ haction

theorem absent_delete (hheld : state.sessions session = some loaded) :
    Absent loaded.id (step text tables registeredDomain state (.delete session)).1 := by
  intro row hrow
  unfold step at hrow
  dsimp only at hrow
  rw [hheld] at hrow
  exact of_decide_eq_true (List.mem_filter.mp hrow).2

theorem deleteRow_of_absent {table : PolicyTable} (habsent : ∀ row ∈ table.rows, row.id ≠ id) :
    deleteRow table id = table := by
  cases table with
  | mk rows pools domainUnique =>
      unfold deleteRow
      congr 1
      exact List.filter_eq_self.mpr fun row hrow => decide_eq_true (habsent row hrow)

theorem table_hold {held : Option DomainPolicy} : (state.hold session held).table = state.table :=
  rfl

theorem table_save_of_absent (habsent : Absent loaded.id state) :
    (state.save session loaded changed now).1.table = state.table := by
  unfold State.save
  split
  · exact table_hold
  · rename_i hcommit
    exact commit_of_deleted (findPolicy_eq_none.mpr habsent) hcommit

/-- Nothing that still holds a deleted policy changes the table. -/
theorem table_of_absent (habsent : Absent loaded.id state)
    (hheld : state.sessions session = some loaded)
    (hsession : action.session = some session) :
    (step text tables registeredDomain state action).1.table = state.table := by
  cases action with
  | upsert body id now => cases hsession
  | fetch domain => cases hsession
  | get other policyId =>
      unfold step
      dsimp only
      split <;> rfl
  | resolve other domain => rfl
  | patch other body now =>
      cases hsession
      unfold step
      dsimp only
      rw [hheld]
      dsimp only
      split
      · exact table_hold
      · exact table_save_of_absent habsent
  | pin other tier locked now =>
      cases hsession
      unfold step
      dsimp only
      rw [hheld]
      dsimp only
      split
      · exact table_save_of_absent habsent
      · exact table_hold
  | refresh other =>
      unfold step
      dsimp only
      split
      · rfl
      · split <;> exact table_hold
  | delete other =>
      cases hsession
      unfold step
      dsimp only
      rw [hheld]
      exact deleteRow_of_absent habsent
  | record other result now skipped =>
      cases hsession
      unfold step
      dsimp only
      rw [hheld]
      dsimp only
      rw [findPolicy_eq_none.mpr habsent]
      simp

theorem Absent.serveAll (habsent : Absent id state) {actions : List Action}
    (hfresh : ∀ body now, .upsert body id now ∉ actions) :
    Absent id
      (Foundation.serveAll (PolicyLife.step text tables registeredDomain) state actions) := by
  induction actions generalizing state with
  | nil => exact habsent
  | cons action actions ih =>
      refine ih (habsent.step fun body now haction => ?_) fun body now hlater => ?_
      · exact hfresh body now (haction ▸ List.mem_cons_self ..)
      · exact hfresh body now (List.mem_cons_of_mem _ hlater)

theorem Absent.holds_serveAll (habsent : Absent id state) {actions : List Action}
    (hfresh : ∀ body now, .upsert body id now ∉ actions)
    (hholds : Holds id (Foundation.serveAll (PolicyLife.step text tables registeredDomain) state
      actions) session) : Holds id state session := by
  induction actions generalizing state with
  | nil => exact hholds
  | cons action actions ih =>
      refine habsent.holds (ih (habsent.step fun body now haction => ?_) (fun body now hlater => ?_)
        hholds)
      · exact hfresh body now (haction ▸ List.mem_cons_self ..)
      · exact hfresh body now (List.mem_cons_of_mem _ hlater)

/-- A deleted policy stays deleted: no job or operator is handed it again, but for a PATCH
without a value that had loaded it before, and the requests and jobs that had change nothing any
more. -/
theorem deleted_stays_deleted (text : TextMethods) (tables : TextTables)
    (registeredDomain : String → String) (state : State) (session : Connection)
    (loaded : DomainPolicy) (hheld : state.sessions session = some loaded) (actions : List Action)
    (hfresh : ∀ body now, .upsert body loaded.id now ∉ actions) :
    ∀ served ∈ transcript (step text tables registeredDomain)
        (step text tables registeredDomain state (.delete session)).1 actions,
      (∀ row, served.output.shown = some row → row.id = loaded.id →
          ∃ other body now, served.action = .patch other body now ∧ body.isEmpty = true ∧
            Holds loaded.id (step text tables registeredDomain state (.delete session)).1 other) ∧
        ∀ other held, served.action.session = some other →
          served.before.sessions other = some held → held.id = loaded.id →
            (step text tables registeredDomain served.before served.action).1.table =
              served.before.table := by
  intro served hserved
  obtain ⟨before, after, rfl, hbefore⟩ := served_of_transcript hserved
  have hdrawn : ∀ body now, .upsert body loaded.id now ∉ before := fun body now hmem =>
    hfresh body now (List.mem_append_left _ hmem)
  have habsent : Absent loaded.id served.before := by
    rw [hbefore]
    exact (absent_delete hheld).serveAll hdrawn
  constructor
  · intro row hshown hsame
    rw [output_of_mem_transcript hserved] at hshown
    cases step_shown hshown with
    | stored hrow => exact absurd hsame (habsent row hrow)
    | @unchanged other body now haction hempty hother =>
        refine ⟨other, body, now, haction, hempty, ?_⟩
        have hholds : Holds loaded.id served.before other := ⟨row, hother, hsame⟩
        rw [hbefore] at hholds
        exact (absent_delete hheld).holds_serveAll hdrawn hholds
  · intro other held hsession hother hsame
    rw [← hsame] at habsent
    exact table_of_absent habsent hother hsession

end Deletion

def bothLoaded : State := ⟨examplePolicies, fun _ => some examplePolicy⟩

/-- After the deletion a PATCH without a value, one with a value and the learner of the job. -/
def afterDeletion : List Action := .patch 2 {} 20 :: patchedWhileFetched.drop 2

theorem deleted_stays_deleted_recorded :
    (step asciiText asciiTables id bothLoaded (.delete 0)).1.table.rows = [] ∧
      ∀ served ∈ transcript (step asciiText asciiTables id)
          (step asciiText asciiTables id bothLoaded (.delete 0)).1 afterDeletion,
        (∀ row, served.output.shown = some row → row.id = 1 →
            ∃ other body now, served.action = .patch other body now ∧ body.isEmpty = true ∧
              Holds 1 (step asciiText asciiTables id bothLoaded (.delete 0)).1 other) ∧
          ∀ other held, served.action.session = some other →
            served.before.sessions other = some held → held.id = 1 →
              (step asciiText asciiTables id served.before served.action).1.table =
                served.before.table :=
  ⟨rfl, deleted_stays_deleted asciiText asciiTables id bothLoaded 0 examplePolicy rfl
    afterDeletion (by simp [afterDeletion, patchedWhileFetched])⟩

end CrawlerApi.Worker.PolicyLife
