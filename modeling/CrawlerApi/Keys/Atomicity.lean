import CrawlerApi.Keys.Requests

/-!
# Requests with nobody else's steps between theirs

The steps of one request, taken one after the other, leave the table that
serving it at once leaves.
-/

namespace CrawlerApi.Keys.Requests

open Errors Foundation

def alone (handle : Nat) (xApiKey : String) (operation : Operation)
    (first second : UrlsafeDraw) (rowId : Uuid) : List Action :=
  [.request handle xApiKey operation, .load handle, .draw handle first, .draw handle second,
    .commit handle rowId]

def mintOf (clock : Instant) (first second : UrlsafeDraw) (rowId : Uuid) : Mint where
  rowId := rowId
  createdAt := clock
  draw attempt := if attempt = 0 then first.toDraw else second.toDraw

def callOperation : Call → Operation
  | .create body => .create body
  | .rotate keyId => .rotate keyId

variable {deployment : Deployment} {state : State} {handle : Nat} {first second : UrlsafeDraw}
  {rowId : Uuid}

theorem load_idle (h : state.flights handle = none) :
    step deployment state (.load handle) = (state, .silent) := by
  simp [step, h]

theorem draw_idle {draw : UrlsafeDraw} (h : state.flights handle = none) :
    step deployment state (.draw handle draw) = (state, .silent) := by
  simp [step, h, State.proceed]

theorem commit_idle (h : state.flights handle = none) :
    step deployment state (.commit handle rowId) = (state, .silent) := by
  simp [step, h]

theorem draws_idle (h : state.flights handle = none) :
    (serveAll (step deployment) state
      ([.draw handle first, .draw handle second] ++ [.commit handle rowId])).db = state.db := by
  simp [serveAll, draw_idle h, commit_idle h]

section Draws

variable {again : Nat → Flight} {free : String → String → Flight} {mode : String}

def drawn (free : String → String → Flight) :
    Except RequestError (String × String) → Option Flight
  | .ok (rawKey, hashedKey) => some (free rawKey hashedKey)
  | .error _ => none

theorem draws_alone (h : state.flights handle = some (again 0))
    (hagain : ∀ attempt draw, drawKey deployment state.db state.clock draw (again attempt) =
      some (checkPrefix state.db (generateApiKey deployment.hasher mode draw).1 attempt
        (again (attempt + 1)) (free (generateApiKey deployment.hasher mode draw).1
          (generateApiKey deployment.hasher mode draw).2)))
    (hfree : ∀ rawKey hashedKey draw,
      drawKey deployment state.db state.clock draw (free rawKey hashedKey) = none) :
    serveAll (step deployment) state [.draw handle first, .draw handle second] =
      state.settle handle (drawn free (KeyService.rotationDraw deployment.hasher state.db
        (mintOf state.clock first second rowId) mode)) := by
  obtain ⟨rawKey, hashedKey, hfirst⟩ : ∃ rawKey hashedKey,
      generateApiKey deployment.hasher mode first.toDraw = (rawKey, hashedKey) := ⟨_, _, rfl⟩
  obtain ⟨nextKey, nextHash, hsecond⟩ : ∃ rawKey hashedKey,
      generateApiKey deployment.hasher mode second.toDraw = (rawKey, hashedKey) := ⟨_, _, rfl⟩
  by_cases htaken : (state.db.findPrefix (firstChars rawKey 8)).isSome
  · by_cases hnextTaken : (state.db.findPrefix (firstChars nextKey 8)).isSome
    · simp [serveAll, step, h, hagain, hfirst, hsecond, checkPrefix, htaken, hnextTaken,
        State.proceed, KeyService.rotationDraw, mintOf, drawn]
    · simp [serveAll, step, h, hagain, hfirst, hsecond, checkPrefix, htaken, hnextTaken,
        State.proceed, KeyService.rotationDraw, mintOf, drawn]
  · simp [serveAll, step, h, hagain, hfree, hfirst, checkPrefix, htaken, State.proceed,
      KeyService.rotationDraw, mintOf, drawn]

end Draws

section Tables

variable {hasher : Hasher} {db : Database} {mint : Mint}

def kept (db : Database) : Except RequestError Database → Database
  | .error _ => db
  | .ok next => next

theorem createAttempts_free {new : KeyService.NewKey} {attempt : Nat} {attempts : List Nat}
    (hfree : (db.findPrefix (firstChars
      (generateApiKey hasher new.mode (mint.draw attempt)).1 8)).isSome = false) :
    (KeyService.createAttempts hasher db mint new (attempt :: attempts)).1 =
      kept db (db.insertKey (newRow new (generateApiKey hasher new.mode (mint.draw attempt)).1
        (generateApiKey hasher new.mode (mint.draw attempt)).2 mint.rowId mint.createdAt)) := by
  simp only [KeyService.createAttempts, hfree, Bool.false_eq_true, if_false]
  unfold newRow
  cases db.insertKey _ with
  | error error => rfl
  | ok next =>
      dsimp only
      split <;> rfl

theorem createAttempts_table {new : KeyService.NewKey} :
    (KeyService.createAttempts hasher db mint new [0, 1]).1 =
      kept db ((KeyService.rotationDraw hasher db mint new.mode).bind fun key =>
        db.insertKey (newRow new key.1 key.2 mint.rowId mint.createdAt)) := by
  unfold KeyService.rotationDraw
  cases hfirst : (db.findPrefix (firstChars
      (generateApiKey hasher new.mode (mint.draw 0)).1 8)).isSome with
  | false =>
      rw [createAttempts_free hfirst]
      simp [hfirst, Except.bind]
  | true =>
      rw [KeyService.createAttempts]
      cases hsecond : (db.findPrefix (firstChars
          (generateApiKey hasher new.mode (mint.draw 1)).1 8)).isSome with
      | false =>
          simp [hfirst, hsecond, createAttempts_free hsecond, Except.bind]
      | true =>
          simp [hfirst, hsecond, KeyService.createAttempts, Except.bind, kept]

theorem rotateApiKey_table {now : Instant} {keyId issuerKeyId : Uuid} {overlapHours : Int}
    {oldKey : ApiKey} (hfound : db.findKey keyId = some oldKey) (hlive : oldKey.revokedAt = none) :
    (KeyService.rotateApiKey hasher db mint now keyId issuerKeyId overlapHours).1 =
      kept db ((KeyService.rotationDraw hasher db mint oldKey.mode).bind fun key =>
        (db.setExpiry oldKey.id (now + overlapHours * 3600)).insertKey
          (successorRow oldKey issuerKeyId key.1 key.2 mint.rowId mint.createdAt)) := by
  unfold KeyService.rotateApiKey successorRow
  rw [hfound]
  dsimp only
  rw [hlive, Option.isSome_none, if_neg Bool.false_ne_true]
  cases KeyService.rotationDraw hasher db mint oldKey.mode with
  | error error => rfl
  | ok key =>
      dsimp only [Except.bind]
      cases (db.setExpiry oldKey.id (now + overlapHours * 3600)).insertKey _ with
      | error error => rfl
      | ok next =>
          dsimp only
          split <;> rfl

theorem commit_inserting {new : KeyService.NewKey} {rawKey hashedKey : String}
    (h : state.flights handle = some (.inserting new rawKey hashedKey)) :
    (step deployment state (.commit handle rowId)).1.db =
      kept state.db (state.db.insertKey (newRow new rawKey hashedKey rowId state.clock)) := by
  simp only [step, h, Option.bind_some, commit]
  cases state.db.insertKey (newRow new rawKey hashedKey rowId state.clock) <;> rfl

theorem commit_replacing {oldKey : ApiKey} {issuerKeyId : Uuid} {expiry : Instant}
    {rawKey hashedKey : String}
    (h : state.flights handle = some (.replacing oldKey issuerKeyId expiry rawKey hashedKey))
    (hstored : (state.db.findKey oldKey.id).isSome) :
    (step deployment state (.commit handle rowId)).1.db =
      kept state.db ((state.db.setExpiry oldKey.id expiry).insertKey
        (successorRow oldKey issuerKeyId rawKey hashedKey rowId state.clock)) := by
  simp only [step, h, Option.bind_some, commit, hstored, if_true]
  cases (state.db.setExpiry oldKey.id expiry).insertKey _ <;> rfl

end Tables

theorem creating_alone {new : KeyService.NewKey}
    (h : state.flights handle = some (.creating new 0)) :
    (serveAll (step deployment) state
        ([.draw handle first, .draw handle second] ++ [.commit handle rowId])).db =
      (KeyService.createAttempts deployment.hasher state.db
        (mintOf state.clock first second rowId) new [0, 1]).1 := by
  have hdrawn := @draws_alone deployment state handle first second rowId (.creating new)
    (.inserting new) new.mode h (fun _ _ => rfl) fun _ _ _ => rfl
  rw [serveAll_append, hdrawn, createAttempts_table]
  cases KeyService.rotationDraw deployment.hasher state.db
      (mintOf state.clock first second rowId) new.mode with
  | error error => exact congrArg (fun served => served.1.db) (commit_idle (settle_flights _ _ _))
  | ok key => exact commit_inserting (settle_flights _ _ _)

theorem rotating_alone {oldKey : ApiKey} {keyId issuerKeyId : Uuid}
    (h : state.flights handle = some (.rotating oldKey issuerKeyId 0))
    (hfound : state.db.findKey keyId = some oldKey) (hlive : oldKey.revokedAt = none) :
    (serveAll (step deployment) state
        ([.draw handle first, .draw handle second] ++ [.commit handle rowId])).db =
      (KeyService.rotateApiKey deployment.hasher state.db
        (mintOf state.clock first second rowId) state.clock keyId issuerKeyId
        deployment.keyRotationOverlapHours).1 := by
  have hdrawn := @draws_alone deployment state handle first second rowId
    (.rotating oldKey issuerKeyId)
    (.replacing oldKey issuerKeyId (state.clock + deployment.keyRotationOverlapHours * 3600))
    oldKey.mode h (fun _ _ => rfl) fun _ _ _ => rfl
  rw [serveAll_append, hdrawn, rotateApiKey_table hfound hlive]
  cases KeyService.rotationDraw deployment.hasher state.db
      (mintOf state.clock first second rowId) oldKey.mode with
  | error error => exact congrArg (fun served => served.1.db) (commit_idle (settle_flights _ _ _))
  | ok key =>
      obtain ⟨hmem, hid⟩ := Database.findKey_mem hfound
      have hstored : (state.db.findKey oldKey.id).isSome := by
        rw [hid, hfound]
        rfl
      exact commit_replacing (settle_flights _ _ _) hstored

section Loads

variable {apiKey : ApiKey}

theorem respond_fst (served : Database × Except RequestError (ApiKey × String)) :
    (respond served).1 = served.1 := by
  obtain ⟨next, outcome⟩ := served
  cases outcome <;> rfl

theorem load_step {operation : Operation} {outcome : Except RequestError Flight}
    (h : state.flights handle = some (.authenticated apiKey operation))
    (hload : load state.db apiKey operation = some outcome) :
    (step deployment state (.load handle)).1 = (state.proceed handle (some outcome)).1 := by
  simp [step, h, hload]

theorem load_create_alone {body : ApiKeyCreate}
    (h : state.flights handle = some (.authenticated apiKey (.create body))) :
    (serveAll (step deployment) state
        (.load handle ::
          ([.draw handle first, .draw handle second] ++ [.commit handle rowId]))).db =
      (AuthKeys.createApiKey deployment.hasher state.db
        (mintOf state.clock first second rowId) body apiKey).1 := by
  rw [serveAll, load_step h rfl]
  unfold loadCreate AuthKeys.createApiKey
  cases hscope : body.scopes.find? (· ∉ allScopes) with
  | some scope => exact draws_idle (settle_flights _ _ _)
  | none =>
      dsimp only
      split
      · exact draws_idle (settle_flights _ _ _)
      · split
        · exact draws_idle (settle_flights _ _ _)
        · split
          · exact draws_idle (settle_flights _ _ _)
          · cases state.db.findApplication body.applicationId with
            | none => exact draws_idle (settle_flights _ _ _)
            | some application =>
                dsimp only
                split
                · rw [respond_fst]
                  unfold beginCreate KeyService.createApiKey
                  rw [hscope]
                  exact creating_alone (settle_flights _ _ _)
                · exact draws_idle (settle_flights _ _ _)

theorem load_rotate_alone {keyId : Uuid}
    (h : state.flights handle = some (.authenticated apiKey (.rotate keyId)))
    (hcaller : apiKey ∈ state.db.apiKeys) :
    (serveAll (step deployment) state
        (.load handle ::
          ([.draw handle first, .draw handle second] ++ [.commit handle rowId]))).db =
      (AuthKeys.rotateApiKeyEndpoint deployment.hasher deployment.keyRotationOverlapHours state.db
        (mintOf state.clock first second rowId) state.clock keyId apiKey).1 := by
  have hsession : sessionRow state.db apiKey keyId = state.db.findKey keyId := by
    unfold sessionRow
    split
    · rename_i hown
      rw [hown, Database.findKey_eq_some hcaller]
    · rfl
  rw [serveAll, load_step h rfl]
  unfold loadRotate AuthKeys.rotateApiKeyEndpoint
  rw [hsession]
  cases hfound : state.db.findKey keyId with
  | none => exact draws_idle (settle_flights _ _ _)
  | some target =>
      dsimp only
      split
      · exact draws_idle (settle_flights _ _ _)
      · rw [respond_fst]
        split
        · rename_i hrevoked
          rw [KeyService.rotateApiKey, hfound]
          dsimp only
          rw [if_pos hrevoked]
          exact draws_idle (settle_flights _ _ _)
        · rename_i hlive
          exact rotating_alone (settle_flights _ _ _) hfound (by simpa using hlive)

end Loads

/-- A request that nobody interrupts leaves the table that `serve` leaves. -/
theorem alone_serves (deployment : Deployment) (state : State) (handle : Nat) (xApiKey : String)
    (call : Call) (first second : UrlsafeDraw) (rowId : Uuid) :
    (serveAll (step deployment) state
        (alone handle xApiKey (callOperation call) first second rowId)).db =
      (serve deployment state.db
        ⟨xApiKey, state.clock, mintOf state.clock first second rowId, call⟩).1 := by
  have hidle (settled : State) (hsettled : settled.flights handle = none) :
      (serveAll (step deployment) settled (.load handle ::
        ([.draw handle first, .draw handle second] ++ [.commit handle rowId]))).db =
          settled.db := by
    rw [serveAll, load_idle hsettled]
    exact draws_idle hsettled
  unfold alone serve caller requireScope
  rw [serveAll, step]
  dsimp only
  cases hresolve : resolveApiKey deployment.hasher state.db state.clock xApiKey with
  | error error => exact hidle _ (settle_flights _ _ _)
  | ok row =>
      obtain ⟨hmem, -, -⟩ := resolveApiKey_mem hresolve
      dsimp only
      by_cases hscope : scopeKeys ∈ row.scopes
      · rw [if_pos hscope]
        cases call with
        | create body =>
            refine load_create_alone ?_
            simp [callOperation, admitted, hscope]
        | rotate keyId =>
            refine load_rotate_alone ?_ hmem
            simp [callOperation, admitted, hscope]
      · rw [if_neg hscope]
        apply hidle
        cases call <;> simp [callOperation, admitted, hscope]

end CrawlerApi.Keys.Requests
