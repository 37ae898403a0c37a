import CrawlerApi.Core.UrlGuard
import CrawlerApi.Worker.Task

/-!
# Callback delivery

`deliver_callback` asks the guard once, before its retry loop.  The resolver may answer
differently from one attempt to the next; between the guard and the first POST nothing
is awaited, so both see the same answer.
-/

namespace CrawlerApi.Worker

open Fetch Foundation

def hmacHeader : String := "X-Crawler-Signature"

def hmacAlgo : String := "sha256"

/-- What the standard library and pydantic do for a delivery. -/
structure CallbackCodec where
  hmacHex : (secret payload : Bytes) → String
  dumpJson : CallbackPayload → Bytes

def signPayload (codec : CallbackCodec) (payload : Bytes) (secret : String) : String :=
  hmacAlgo ++ "=" ++ codec.hmacHex secret.toUTF8.toList payload

structure CallbackRequest where
  callbackUrl : String
  payload : CallbackPayload
  secret : String
  maxRetries : Int := 3

/-- How a POST ends; what it raises is swallowed. -/
inductive Reply where
  | response (statusCode : Int)
  | exception (message : String)

def Reply.delivered : Reply → Bool
  | .response statusCode => 200 ≤ statusCode ∧ statusCode < 300
  | .exception _ => false

structure Post where
  url : String
  content : Bytes
  headers : Headers
deriving DecidableEq

inductive CallbackEvent where
  | post (attempt : Nat) (post : Post) (reply : Reply)
  | sleep (seconds : Nat)

/-- The resolver at each attempt and the endpoint's reply to it. -/
structure Endpoint where
  resolve : Nat → Resolver
  reply : Nat → Reply

structure Delivered where
  events : List CallbackEvent
  outcome : Except UrlGuard.Exn Unit

section Delivery

variable (tables : TextTables) (codec : CallbackCodec) (request : CallbackRequest)
  (endpoint : Endpoint)

def callbackPost : Post :=
  let content := codec.dumpJson request.payload
  { url := request.callbackUrl
    content := content
    headers := [
      ("Content-Type", "application/json"),
      (hmacHeader, signPayload codec content request.secret),
      ("X-Crawler-Job-Id", request.payload.jobId)] }

def callbackAttempt : Body Nat CallbackEvent Unit := fun left attempt =>
  let event := .post attempt (callbackPost codec request) (endpoint.reply attempt)
  if (endpoint.reply attempt).delivered then ⟨[event], .done ()⟩
  else if 0 < left then ⟨[event, .sleep (Nat.pow 2 attempt)], .again (attempt + 1)⟩
  else ⟨[event], .again (attempt + 1)⟩

def deliverCallback : Delivered :=
  match UrlGuard.validateUrlAsync tables (endpoint.resolve 0) request.callbackUrl with
  | .error (.urlGuardError _) => ⟨[], .ok ()⟩
  | .error (.exception message) => ⟨[], .error (.exception message)⟩
  | .ok () =>
      ⟨loopEvents (callbackAttempt codec request endpoint) request.maxRetries.toNat 0, .ok ()⟩

/-- The guard accepts the URL at the moment of the attempt. -/
def Accepts (attempt : Nat) : Prop :=
  UrlGuard.validateUrlAsync tables (endpoint.resolve attempt) request.callbackUrl = .ok ()

end Delivery

def posts (events : List CallbackEvent) : List (Nat × Post) :=
  events.filterMap fun event => match event with
    | .post attempt post _ => some (attempt, post)
    | .sleep _ => none

structure DeliveryContract (tables : TextTables) (request : CallbackRequest) (endpoint : Endpoint)
    (delivered : Delivered) : Prop where
  neverRaises : delivered.outcome = .ok ()
  bounded : (posts delivered.events).length ≤ request.maxRetries.toNat
  stops : ∀ before attempt post reply after,
    delivered.events = before ++ .post attempt post reply :: after → reply.delivered = true →
      posts after = []
  same : ∀ sent ∈ posts delivered.events, ∀ other ∈ posts delivered.events, sent.2 = other.2
  guarded : ∀ sent ∈ posts delivered.events, Accepts tables request endpoint sent.1

def Reached (request : CallbackRequest) (endpoint : Endpoint) (attempt : Nat) : Prop :=
  attempt < request.maxRetries.toNat ∧
    ∀ earlier < attempt, (endpoint.reply earlier).delivered = false

section Loop

variable {codec : CallbackCodec} {request : CallbackRequest} {endpoint : Endpoint}
  {left count attempt next : Nat}

theorem callbackAttempt_posts :
    posts (callbackAttempt codec request endpoint left attempt).events =
      [(attempt, callbackPost codec request)] := by
  unfold callbackAttempt
  dsimp only
  split
  · rfl
  · split
    · rfl
    · rfl

theorem callbackAttempt_again
    (h : (callbackAttempt codec request endpoint left attempt).exit = .again next) :
    (endpoint.reply attempt).delivered = false ∧ next = attempt + 1 := by
  unfold callbackAttempt at h
  dsimp only at h
  split at h
  · cases h
  · rename_i hfailed
    rw [Bool.not_eq_true] at hfailed
    split at h
    · cases h
      exact ⟨hfailed, rfl⟩
    · cases h
      exact ⟨hfailed, rfl⟩

theorem callbackAttempt_done {out : Unit}
    (h : (callbackAttempt codec request endpoint left attempt).exit = .done out) :
    (callbackAttempt codec request endpoint left attempt).events =
      [.post attempt (callbackPost codec request) (endpoint.reply attempt)] := by
  unfold callbackAttempt at h ⊢
  dsimp only at h ⊢
  split
  · rfl
  · rename_i hfailed
    rw [if_neg hfailed] at h
    split at h
    · cases h
    · cases h

theorem callbackAttempt_reply {tried : Nat} {post : Post} {reply : Reply}
    (h : .post tried post reply ∈ (callbackAttempt codec request endpoint left attempt).events) :
    reply = endpoint.reply attempt := by
  unfold callbackAttempt at h
  dsimp only at h
  split at h
  · simp at h
    exact h.2.2
  · split at h
    · simp at h
      exact h.2.2
    · simp at h
      exact h.2.2

theorem callbackAttempt_exit : (callbackAttempt codec request endpoint left attempt).exit =
    if (endpoint.reply attempt).delivered then .done () else .again (attempt + 1) := by
  unfold callbackAttempt
  dsimp only
  split
  · rfl
  · split
    · rfl
    · rfl

theorem posts_append (before after : List CallbackEvent) :
    posts (before ++ after) = posts before ++ posts after := List.filterMap_append

theorem length_posts_loop :
    (posts (loopEvents (callbackAttempt codec request endpoint) count attempt)).length =
      (visits (callbackAttempt codec request endpoint) count attempt).length := by
  apply loopEvents_measure fun events n => (posts events).length = n
  · rfl
  · intro before after n hbefore hafter
    rw [posts_append, List.length_append, hbefore, hafter, Nat.add_comm]
  · intro visit _
    rw [callbackAttempt_posts]
    rfl

theorem posts_loop_bounded :
    (posts (loopEvents (callbackAttempt codec request endpoint) count attempt)).length ≤ count := by
  rw [length_posts_loop]
  exact length_visits_le

theorem loop_stops {before after : List CallbackEvent} {tried : Nat} {post : Post} {reply : Reply}
    (h : loopEvents (callbackAttempt codec request endpoint) count attempt =
      before ++ .post tried post reply :: after)
    (hdelivered : reply.delivered = true) : after = [] := by
  let isFinal : CallbackEvent → Prop := fun event =>
    ∃ tried post reply, event = .post tried post reply ∧ reply.delivered = true
  have hfinal := @loopEvents_final _ _ _ (callbackAttempt codec request endpoint) (fun _ => ())
    count attempt isFinal (fun _ => True)
  refine (hfinal ?_ ?_ h ⟨tried, post, reply, rfl, hdelivered⟩).1
  · rintro left state next hagain event hevent ⟨tried, post, reply, rfl, hreply⟩
    rw [callbackAttempt_reply hevent, (callbackAttempt_again hagain).1] at hreply
    cases hreply
  · intro left state out hdone before event after hevents _
    rw [callbackAttempt_done hdone] at hevents
    cases before with
    | nil => exact ⟨(List.cons_eq_cons.mp hevents).2.symm, trivial⟩
    | cons first rest =>
        have hrest := (List.cons_eq_cons.mp hevents).2
        exact absurd hrest.symm (List.append_ne_nil_of_right_ne_nil _ (List.cons_ne_nil _ _))

/-- The POSTs of a loop are those of the attempts before the first that delivers, and
of that one. -/
theorem mem_posts_loop {sent : Nat × Post} :
    sent ∈ posts (loopEvents (callbackAttempt codec request endpoint) count attempt) ↔
      sent.2 = callbackPost codec request ∧ attempt ≤ sent.1 ∧ sent.1 < attempt + count ∧
        ∀ earlier, attempt ≤ earlier → earlier < sent.1 →
          (endpoint.reply earlier).delivered = false := by
  obtain ⟨tried, post⟩ := sent
  dsimp only
  induction count generalizing attempt with
  | zero =>
      rw [loopEvents, visits, List.flatMap_nil]
      constructor
      · intro h
        cases h
      · rintro ⟨-, hfirst, hlast, -⟩
        omega
  | succ left ih =>
      rw [loopEvents_succ, posts_append, callbackAttempt_posts, List.mem_append,
        List.mem_singleton, Prod.mk.injEq]
      unfold restEvents
      rw [callbackAttempt_exit]
      by_cases hdelivered : (endpoint.reply attempt).delivered = true
      · rw [if_pos hdelivered]
        constructor
        · rintro (⟨rfl, rfl⟩ | hrest)
          · refine ⟨rfl, Nat.le_refl _, by omega, ?_⟩
            intro earlier hfrom hto
            omega
          · cases hrest
        · rintro ⟨rfl, hfirst, -, hfailed⟩
          left
          refine ⟨?_, rfl⟩
          by_contra hother
          have hlater : attempt < tried := by omega
          rw [hfailed attempt (Nat.le_refl _) hlater] at hdelivered
          cases hdelivered
      · rw [if_neg hdelivered]
        dsimp only
        rw [ih]
        rw [Bool.not_eq_true] at hdelivered
        constructor
        · rintro (⟨rfl, rfl⟩ | ⟨rfl, hfirst, hlast, hfailed⟩)
          · refine ⟨rfl, Nat.le_refl _, by omega, ?_⟩
            intro earlier hfrom hto
            omega
          · refine ⟨rfl, by omega, by omega, ?_⟩
            intro earlier hfrom hto
            rcases Nat.eq_or_lt_of_le hfrom with rfl | hlater
            · exact hdelivered
            · exact hfailed earlier hlater hto
        · rintro ⟨rfl, hfirst, hlast, hfailed⟩
          rcases Nat.eq_or_lt_of_le hfirst with rfl | hlater
          · exact .inl ⟨rfl, rfl⟩
          · refine .inr ⟨rfl, hlater, by omega, ?_⟩
            intro earlier hfrom hto
            exact hfailed earlier (by omega) hto

end Loop

section Contract

variable {tables : TextTables} {codec : CallbackCodec} {request : CallbackRequest}
  {endpoint : Endpoint}

theorem mem_posts_delivery {sent : Nat × Post} :
    sent ∈ posts (loopEvents (callbackAttempt codec request endpoint)
        request.maxRetries.toNat 0) ↔
      sent.2 = callbackPost codec request ∧ Reached request endpoint sent.1 := by
  rw [mem_posts_loop, Reached, Nat.zero_add]
  constructor
  · rintro ⟨hpost, -, hbound, hfailed⟩
    exact ⟨hpost, hbound, fun earlier hearlier => hfailed earlier (Nat.zero_le _) hearlier⟩
  · rintro ⟨hpost, hbound, hfailed⟩
    exact ⟨hpost, Nat.zero_le _, hbound, fun earlier _ hearlier => hfailed earlier hearlier⟩

theorem contract_of_dropped : DeliveryContract tables request endpoint ⟨[], .ok ()⟩ where
  neverRaises := rfl
  bounded := Nat.zero_le _
  stops _ _ _ _ _ h _ :=
    absurd h.symm (List.append_ne_nil_of_right_ne_nil _ (List.cons_ne_nil _ _))
  same _ hsent := absurd hsent List.not_mem_nil
  guarded _ hsent := absurd hsent List.not_mem_nil

/-- Past the guard, everything but the guard's word at later attempts is kept. -/
theorem contract_of_accepted
    (hguarded : ∀ attempt, Reached request endpoint attempt →
      Accepts tables request endpoint attempt) :
    DeliveryContract tables request endpoint
      ⟨loopEvents (callbackAttempt codec request endpoint) request.maxRetries.toNat 0,
        .ok ()⟩ where
  neverRaises := rfl
  bounded := posts_loop_bounded
  stops before attempt post reply after h hdelivered := by
    rw [loop_stops h hdelivered]
    rfl
  same sent hsent other hother := by
    rw [(mem_posts_delivery.mp hsent).1, (mem_posts_delivery.mp hother).1]
  guarded sent hsent := hguarded sent.1 (mem_posts_delivery.mp hsent).2

/-- A delivery keeps its promise exactly when the guard, asked at the start, raises
nothing but its own error, and, if it accepts, would accept again at every attempt made. -/
theorem deliverCallback_contract_iff (tables : TextTables) (codec : CallbackCodec)
    (request : CallbackRequest) (endpoint : Endpoint) :
    DeliveryContract tables request endpoint (deliverCallback tables codec request endpoint) ↔
      (∀ message, UrlGuard.validateUrlAsync tables (endpoint.resolve 0) request.callbackUrl ≠
          .error (.exception message)) ∧
        (Accepts tables request endpoint 0 →
          ∀ attempt, Reached request endpoint attempt →
            Accepts tables request endpoint attempt) := by
  unfold deliverCallback
  cases hguard : UrlGuard.validateUrlAsync tables (endpoint.resolve 0) request.callbackUrl with
  | error exn =>
      cases exn with
      | urlGuardError message =>
          refine iff_of_true contract_of_dropped ⟨fun message h => (by cases h), ?_⟩
          intro haccepts
          rw [Accepts, hguard] at haccepts
          cases haccepts
      | exception message =>
          dsimp only
          constructor
          · intro hcontract
            cases hcontract.neverRaises
          · rintro ⟨hquiet, -⟩
            exact absurd rfl (hquiet message)
  | ok _ =>
      dsimp only
      constructor
      · intro hcontract
        refine ⟨fun message h => (by cases h), ?_⟩
        intro _ attempt hreached
        exact hcontract.guarded (attempt, callbackPost codec request)
          (mem_posts_delivery.mpr ⟨rfl, hreached⟩)
      · rintro ⟨-, hguarded⟩
        exact contract_of_accepted (hguarded hguard)

end Contract

def hookRequest : CallbackRequest where
  callbackUrl := "http://hooks.example/done"
  payload := { jobId := "job", status := .completed, result := none, error := none }
  secret := "secret"

def reboundEndpoint : Endpoint where
  resolve attempt _ := .addresses (if attempt = 0 then ["93.184.216.34"] else ["127.0.0.1"])
  reply _ := .response 503

theorem rebound_callback_unguarded : ¬ ∃ codec, DeliveryContract asciiTables hookRequest
    reboundEndpoint (deliverCallback asciiTables codec hookRequest reboundEndpoint) := by
  rintro ⟨codec, hcontract⟩
  have haccepted : Accepts asciiTables hookRequest reboundEndpoint 0 := by
    unfold Accepts
    decide +kernel
  have hrefused : ¬ Accepts asciiTables hookRequest reboundEndpoint 1 := by
    unfold Accepts
    decide +kernel
  have hreached : Reached hookRequest reboundEndpoint 1 :=
    ⟨by decide, fun _ _ => rfl⟩
  have hposted : ((1, callbackPost codec hookRequest) : Nat × Post) ∈
      posts (deliverCallback asciiTables codec hookRequest reboundEndpoint).events := by
    have hguard : UrlGuard.validateUrlAsync asciiTables (reboundEndpoint.resolve 0)
        hookRequest.callbackUrl = .ok () := haccepted
    rw [deliverCallback, hguard]
    exact mem_posts_delivery.mpr ⟨rfl, hreached⟩
  exact hrefused (hcontract.guarded _ hposted)

end CrawlerApi.Worker
