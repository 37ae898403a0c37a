import CrawlerApi.Keys.Issuance
import CrawlerApi.Keys.Requests

/-!
# Who authenticates

Every row is stored under the prefix and the hash of the raw key it was minted
with, whatever requests were in flight together.  The prefix check alone does not
see to it that a prefix is free when the row is inserted: the unique constraint
does.
-/

namespace CrawlerApi.Keys.Requests

open Errors Foundation

def emptyTable (applications : List Application) : Database where
  applications := applications
  apiKeys := []
  idUnique := List.nodup_nil
  prefixUnique := List.nodup_nil
  owned := List.forall_mem_nil _

def Minted (events : List Event) (keyId : Uuid) (rawKey : String) : Prop :=
  ∃ predecessor, .minted keyId rawKey predecessor ∈ events

structure KeyPair (hasher : Hasher) (rawKey hashedKey : String) : Prop where
  length : 8 ≤ rawKey.length
  hashed : ∃ salt, hashedKey = hasher.hash rawKey salt

structure StoredFor (hasher : Hasher) (rawKey : String) (row : ApiKey) : Prop where
  pair : KeyPair hasher rawKey row.hashedKey
  keyPrefix : row.keyPrefix = firstChars rawKey 8

def Flight.Drawn (hasher : Hasher) : Flight → Prop
  | .inserting _ rawKey hashedKey => KeyPair hasher rawKey hashedKey
  | .replacing _ _ _ rawKey hashedKey => KeyPair hasher rawKey hashedKey
  | _ => True

def Verifies (hasher : Hasher) : Prop :=
  ∀ presented rawKey salt,
    hasher.verifyApiKeyHash presented (hasher.hash rawKey salt) = true ↔ presented = rawKey

/-- A string resolves to a row exactly if it is the raw key minted for the row, and the
row is active, not revoked and not expired. -/
def Identifies (hasher : Hasher) (db : Database) (events : List Event) : Prop :=
  ∀ now xApiKey row, resolveApiKey hasher db now xApiKey = .ok row ↔
    row ∈ db.apiKeys ∧ Minted events row.id xApiKey ∧ row.isActive = true ∧
      row.revokedAt = none ∧ ∀ expiry, row.expiresAt = some expiry → now ≤ expiry

/-- A mint adds one row under a prefix no row had; a step that neither mints nor revokes,
such as a mint that fails, leaves the table as it was. -/
def MintsOrKeeps (before after : Database) : Event → Prop
  | .minted keyId rawKey _ => ∃ row rest,
      after.apiKeys = row :: rest ∧ row.id = keyId ∧ row.keyPrefix = firstChars rawKey 8 ∧
        row.keyPrefix ∉ before.apiKeys.map ApiKey.keyPrefix ∧
        rest.map (fun key => { key with expiresAt := none }) =
          before.apiKeys.map fun key => { key with expiresAt := none }
  | .revoked _ => True
  | _ => after = before

section Draws

variable {deployment : Deployment} {state : State} {hasher : Hasher}

theorem generateApiKey_keyPair (hasher : Hasher) (mode : String) (draw : UrlsafeDraw) :
    KeyPair hasher (generateApiKey hasher mode draw.toDraw).1
      (generateApiKey hasher mode draw.toDraw).2 := by
  refine ⟨?_, draw.salt, rfl⟩
  have hshort := draw.shortLength
  have hlong := draw.longLength
  simp only [generateApiKey, String.length_append]
  omega

theorem checkPrefix_drawn {db : Database} {rawKey : String} {attempt : Nat}
    {again free flight : Flight} (hagain : again.Drawn hasher) (hfree : free.Drawn hasher)
    (h : checkPrefix db rawKey attempt again free = .ok flight) : flight.Drawn hasher := by
  unfold checkPrefix at h
  split at h
  · split at h
    · cases h
    · cases h
      exact hagain
  · cases h
    exact hfree

theorem drawKey_drawn {db : Database} {clock : Instant} {draw : UrlsafeDraw}
    {flight next : Flight}
    (h : drawKey deployment db clock draw.toDraw flight = some (.ok next)) :
    next.Drawn deployment.hasher := by
  cases flight with
  | creating new attempt =>
      refine checkPrefix_drawn ?_ ?_ (Option.some.inj h)
      · trivial
      · exact generateApiKey_keyPair deployment.hasher new.mode draw
  | rotating oldKey issuerKeyId attempt =>
      refine checkPrefix_drawn ?_ ?_ (Option.some.inj h)
      · trivial
      · exact generateApiKey_keyPair deployment.hasher oldKey.mode draw
  | authenticated apiKey operation => cases h
  | inserting new rawKey hashedKey => cases h
  | replacing oldKey issuerKeyId expiry rawKey hashedKey => cases h
  | revoking row => cases h

theorem beginCreate_drawn {new : KeyService.NewKey} {flight : Flight}
    (h : beginCreate new = .ok flight) : flight.Drawn hasher := by
  unfold beginCreate at h
  split at h
  · cases h
  · cases h
    trivial

theorem loadCreate_drawn {db : Database} {apiKey : ApiKey} {body : ApiKeyCreate} {flight : Flight}
    (h : loadCreate db apiKey body = .ok flight) : flight.Drawn hasher := by
  unfold loadCreate at h
  split at h
  · cases h
  · split at h
    · cases h
    · split at h
      · cases h
      · split at h
        · cases h
        · split at h
          · cases h
          · split at h
            · exact beginCreate_drawn h
            · cases h

theorem loadRotate_drawn {db : Database} {apiKey : ApiKey} {keyId : Uuid} {flight : Flight}
    (h : loadRotate db apiKey keyId = .ok flight) : flight.Drawn hasher := by
  unfold loadRotate at h
  split at h
  · cases h
  · split at h
    · cases h
    · split at h
      · cases h
      · cases h
        trivial

theorem loadRevoke_drawn {db : Database} {apiKey : ApiKey} {keyId : Uuid} {flight : Flight}
    (h : loadRevoke db apiKey keyId = .ok flight) : flight.Drawn hasher := by
  unfold loadRevoke at h
  split at h
  · cases h
  · split at h
    · cases h
    · split at h
      · cases h
      · cases h
        trivial

theorem load_drawn {db : Database} {apiKey : ApiKey} {operation : Operation} {flight : Flight}
    (h : load db apiKey operation = some (.ok flight)) : flight.Drawn hasher := by
  cases operation with
  | create body => exact loadCreate_drawn (Option.some.inj h)
  | rotate keyId => exact loadRotate_drawn (Option.some.inj h)
  | revoke keyId => exact loadRevoke_drawn (Option.some.inj h)
  | other => cases h

theorem admitted_drawn {row : ApiKey} {operation : Operation} {flight : Flight}
    (h : admitted row operation = some flight) : flight.Drawn hasher := by
  unfold admitted at h
  split at h
  · cases h
  · split at h
    · cases h
      trivial
    · cases h

def AllDrawn (hasher : Hasher) (state : State) : Prop :=
  ∀ handle flight, state.flights handle = some flight → flight.Drawn hasher

theorem AllDrawn.settle {handle : Nat} {flight : Option Flight} (h : AllDrawn hasher state)
    (hflight : ∀ settled, flight = some settled → settled.Drawn hasher) :
    AllDrawn hasher (state.settle handle flight) := by
  intro other settled hsettled
  dsimp only [State.settle] at hsettled
  split at hsettled
  · exact hflight settled hsettled
  · exact h other settled hsettled

theorem AllDrawn.over {handle : Nat} (h : AllDrawn hasher state) :
    AllDrawn hasher (state.settle handle none) := by
  apply h.settle
  intro settled hsettled
  cases hsettled

theorem AllDrawn.proceed {handle : Nat} {outcome : Option (Except RequestError Flight)}
    (h : AllDrawn hasher state)
    (houtcome : ∀ flight, outcome = some (.ok flight) → flight.Drawn hasher) :
    AllDrawn hasher (state.proceed handle outcome).1 := by
  cases outcome with
  | none => exact h
  | some outcome =>
      cases outcome with
      | ok flight =>
          apply h.settle
          intro settled hsettled
          cases hsettled
          exact houtcome flight rfl
      | error error => exact h.over

theorem allDrawn_step (h : AllDrawn deployment.hasher state) (action : Action) :
    AllDrawn deployment.hasher (step deployment state action).1 := by
  cases action with
  | tick elapsed => exact h
  | request handle xApiKey operation =>
      dsimp only [step]
      split
      · exact h.settle fun settled hsettled => admitted_drawn hsettled
      · exact h.over
  | bootstrap handle applicationId =>
      dsimp only [step]
      apply h.proceed
      intro flight hflight
      rw [Option.some.injEq] at hflight
      exact beginCreate_drawn hflight
  | load handle =>
      dsimp only [step]
      split
      · exact h.proceed fun flight hflight => load_drawn hflight
      · exact h
  | draw handle draw =>
      refine h.proceed fun flight hflight => ?_
      obtain ⟨before, -, hdraw⟩ := Option.bind_eq_some_iff.mp hflight
      exact drawKey_drawn hdraw
  | commit handle rowId =>
      have hover : AllDrawn deployment.hasher (state.settle handle none) := h.over
      dsimp only [step]
      split
      · exact h
      · exact hover
      · intro other flight hflight
        exact hover other flight hflight

end Draws

section Rows

variable {deployment : Deployment} {state next : State} {action : Action} {event : Event}
  {keyId : Uuid} {rawKey : String}

theorem Effect.mints_or_keeps (h : Effect deployment state action next event) :
    MintsOrKeeps state.db next.db event := by
  cases h with
  | silent hdb _ => exact hdb
  | failed hdb _ => exact hdb
  | authenticated _ hdb _ => exact hdb
  | expired _ _ hdb _ => exact hdb
  | revoked => trivial
  | created _ hinsert _ =>
      exact ⟨_, _, (Database.insertKey_ok hinsert).2, rfl, rfl,
        Database.insertKey_fresh hinsert, rfl⟩
  | replaced _ _ _ hinsert _ =>
      refine ⟨_, _, (Database.insertKey_ok hinsert).2, rfl, rfl, ?_,
        Database.setExpiry_unexpired ..⟩
      rw [← Database.setExpiry_keyPrefixes]
      exact Database.insertKey_fresh hinsert

theorem Effect.row_origin (h : Effect deployment state action next event) {row : ApiKey}
    (hmem : row ∈ next.db.apiKeys) :
    (∃ before ∈ state.db.apiKeys, before.id = row.id) ∨
      ∃ rawKey predecessor, event = .minted row.id rawKey predecessor := by
  cases h with
  | silent hdb _ => exact .inl ⟨row, hdb ▸ hmem, rfl⟩
  | failed hdb _ => exact .inl ⟨row, hdb ▸ hmem, rfl⟩
  | authenticated _ hdb _ => exact .inl ⟨row, hdb ▸ hmem, rfl⟩
  | expired _ _ hdb _ => exact .inl ⟨row, hdb ▸ hmem, rfl⟩
  | revoked _ hdb _ => exact .inl (Database.setRevoked_origin (hdb ▸ hmem))
  | created _ hinsert _ =>
      rw [(Database.insertKey_ok hinsert).2] at hmem
      rcases List.mem_cons.mp hmem with rfl | hold
      · exact .inr ⟨_, _, rfl⟩
      · exact .inl ⟨row, hold, rfl⟩
  | replaced _ _ _ hinsert _ =>
      rw [(Database.insertKey_ok hinsert).2] at hmem
      rcases List.mem_cons.mp hmem with rfl | hold
      · exact .inr ⟨_, _, rfl⟩
      · exact .inl (Database.setExpiry_origin hold)

theorem Effect.stored (h : Effect deployment state action next event)
    (hdrawn : AllDrawn deployment.hasher state) {predecessor : Option Uuid}
    (hevent : event = .minted keyId rawKey predecessor) :
    ∃ row ∈ next.db.apiKeys, row.id = keyId ∧ StoredFor deployment.hasher rawKey row := by
  cases h with
  | created hflight hinsert _ =>
      cases hevent
      rw [(Database.insertKey_ok hinsert).2]
      exact ⟨_, List.mem_cons_self .., rfl, hdrawn _ _ hflight, rfl⟩
  | replaced _ hflight _ hinsert _ =>
      cases hevent
      rw [(Database.insertKey_ok hinsert).2]
      exact ⟨_, List.mem_cons_self .., rfl, hdrawn _ _ hflight, rfl⟩
  | silent => cases hevent
  | failed => cases hevent
  | authenticated => cases hevent
  | expired => cases hevent
  | revoked => cases hevent

theorem RowStep.stored {hasher : Hasher} {clock : Instant} {row kept : ApiKey}
    (h : RowStep clock event row kept) (hstored : StoredFor hasher rawKey row) :
    StoredFor hasher rawKey kept := by
  cases h with
  | same => exact hstored
  | rotated => exact ⟨hstored.pair, hstored.keyPrefix⟩
  | revoked => exact ⟨hstored.pair, hstored.keyPrefix⟩

structure Sound (hasher : Hasher) (state : State) (events : List Event) : Prop where
  drawn : AllDrawn hasher state
  rows : ∀ row ∈ state.db.apiKeys, ∃ rawKey, Minted events row.id rawKey
  stored : ∀ keyId rawKey, Minted events keyId rawKey →
    ∃ row ∈ state.db.apiKeys, row.id = keyId ∧ StoredFor hasher rawKey row

theorem Minted.append {events : List Event} (h : Minted events keyId rawKey) (later : List Event) :
    Minted (events ++ later) keyId rawKey := by
  obtain ⟨predecessor, hmem⟩ := h
  exact ⟨predecessor, List.mem_append_left _ hmem⟩

theorem Sound.step {events : List Event} (h : Sound deployment.hasher state events)
    (action : Action) :
    Sound deployment.hasher (Requests.step deployment state action).1
      (events ++ [(Requests.step deployment state action).2]) := by
  have heffect := step_effect deployment state action
  refine ⟨allDrawn_step h.drawn action, fun row hmem => ?_, fun keyId rawKey hminted => ?_⟩
  · rcases heffect.row_origin hmem with ⟨before, hbefore, hid⟩ | ⟨rawKey, predecessor, hevent⟩
    · obtain ⟨rawKey, hminted⟩ := h.rows before hbefore
      exact ⟨rawKey, hid ▸ hminted.append _⟩
    · exact ⟨rawKey, predecessor, by simp [hevent]⟩
  · obtain ⟨predecessor, hmem⟩ := hminted
    rcases List.mem_append.mp hmem with hold | hnew
    · obtain ⟨row, hrow, rfl, hstored⟩ := h.stored keyId rawKey ⟨predecessor, hold⟩
      obtain ⟨kept, hkept, hstep⟩ := heffect.row_kept hrow
      exact ⟨kept, hkept, hstep.id_eq, hstep.stored hstored⟩
    · exact heffect.stored h.drawn (List.mem_singleton.mp hnew).symm

end Rows

/-- Behind every run from the empty table the rows are sound. -/
theorem sound_run (deployment : Deployment) (applications : List Application) (clock : Instant)
    (actions : List Action) :
    Sound deployment.hasher
      (serveAll (step deployment) (.start (emptyTable applications) clock) actions)
      ((transcript (step deployment) (.start (emptyTable applications) clock) actions).map
        Served.output) := by
  have hinit : Sound deployment.hasher (.start (emptyTable applications) clock) [] := by
    constructor
    · intro handle flight hflight
      cases hflight
    · intro row hmem
      cases hmem
    · rintro keyId rawKey ⟨predecessor, hmem⟩
      cases hmem
  exact outputs_invariant (Sound deployment.hasher)
    (fun state events action h => h.step action) actions hinit

theorem Sound.stored_row {hasher : Hasher} {state : State} {events : List Event} {row : ApiKey}
    {rawKey : String} (h : Sound hasher state events) (hmem : row ∈ state.db.apiKeys)
    (hminted : Minted events row.id rawKey) : StoredFor hasher rawKey row := by
  obtain ⟨other, hother, hid, hstored⟩ := h.stored row.id rawKey hminted
  rwa [List.inj_on_of_nodup_map state.db.idUnique hother hmem hid] at hstored

theorem Sound.identifies {hasher : Hasher} {state : State} {events : List Event}
    (hverify : Verifies hasher) (h : Sound hasher state events) :
    Identifies hasher state.db events := by
  intro now xApiKey row
  have hexpiry : row.expiresAt.any (· < now) = false ↔
      ∀ expiry, row.expiresAt = some expiry → now ≤ expiry := by
    cases row.expiresAt <;> simp
  rw [← hexpiry]
  constructor
  · intro hresolve
    obtain ⟨hmem, hactive, hrevoked⟩ := resolveApiKey_mem hresolve
    obtain ⟨-, -, -, hvalid, hhash⟩ := resolveApiKey_eq_ok.mp hresolve
    obtain ⟨rawKey, hminted⟩ := h.rows row hmem
    obtain ⟨salt, hhashed⟩ := (h.stored_row hmem hminted).pair.hashed
    rw [hhashed] at hhash
    rw [(hverify xApiKey rawKey salt).mp hhash]
    exact ⟨hmem, hminted, hactive, hrevoked, hvalid⟩
  · rintro ⟨hmem, hminted, hactive, hrevoked, hvalid⟩
    have hstored := h.stored_row hmem hminted
    obtain ⟨salt, hhashed⟩ := hstored.pair.hashed
    refine resolveApiKey_eq_ok.mpr ⟨hstored.pair.length, ?_, hrevoked, hvalid, ?_⟩
    · rw [← hstored.keyPrefix]
      exact Database.find_active hmem hactive
    · rw [hhashed]
      exact (hverify xApiKey xApiKey salt).mpr rfl

/-- Behind every run from the empty table the raw keys identify their rows, and every mint
adds one row under a new prefix or changes nothing. -/
theorem authentication_identifies (deployment : Deployment)
    (hverify : Verifies deployment.hasher) (applications : List Application) (clock : Instant)
    (actions : List Action) :
    Identifies deployment.hasher
        (serveAll (step deployment) (.start (emptyTable applications) clock) actions).db
        ((transcript (step deployment) (.start (emptyTable applications) clock) actions).map
          Served.output) ∧
      ∀ served ∈ transcript (step deployment) (.start (emptyTable applications) clock) actions,
        MintsOrKeeps served.before.db (step deployment served.before served.action).1.db
          served.output := by
  refine ⟨(sound_run deployment applications clock actions).identifies hverify, ?_⟩
  intro served hserved
  rw [output_of_mem_transcript hserved]
  exact (step_effect deployment served.before served.action).mints_or_keeps

theorem sampleHasher_verifies : Verifies sampleHasher := by
  intro presented rawKey salt
  have hstored : "$argon2id$" ++ rawKey ≠ "" := by simp
  have hequal : "$argon2id$" ++ rawKey = "$argon2id$" ++ presented ↔ presented = rawKey := by
    rw [String.append_right_inj]
    exact eq_comm
  simp only [Hasher.verifyApiKeyHash, sampleHasher, if_neg hstored, decide_eq_true_eq, hequal]

def operatorRow : ApiKey where
  id := 1
  applicationId := 1
  keyPrefix := "crwlOper"
  hashedKey := "$argon2id$crwlOper-10123456789abcdefghijklmnopqrstuvwxyzAB"
  scopes := [scopeFetch, scopeArchive, scopeAdmin, scopeKeys]
  mode := "live"
  createdAt := 0

/-- The key the bootstrap script mints resolves to its row. -/
theorem operator_resolves :
    resolveApiKey sampleHasher
      (serveAll (step ⟨sampleHasher, 24⟩) (.start (emptyTable sampleTenant.applications) 0)
        [.bootstrap 0 1, .draw 0 (sampleDraw "Oper-1" rfl), .commit 0 1]).db
      10 operatorKey = .ok operatorRow := by
  refine ((authentication_identifies ⟨sampleHasher, 24⟩ sampleHasher_verifies
    sampleTenant.applications 0 [.bootstrap 0 1, .draw 0 (sampleDraw "Oper-1" rfl),
      .commit 0 1]).1 10 operatorKey operatorRow).mpr ⟨?_, ⟨none, ?_⟩, rfl, rfl, nofun⟩
  · decide +kernel
  · decide +kernel

end CrawlerApi.Keys.Requests
