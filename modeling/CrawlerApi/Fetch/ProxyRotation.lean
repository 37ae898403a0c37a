import CrawlerApi.Fetch.RunShape

/-!
# Proxy rotation

The proxies of a tier are in the exclusion set when the next one is asked for.  A
direct connection that is left for the next tier clears nothing, but at a tier that
asks for no proxy the set is empty.
-/

namespace CrawlerApi.Fetch

open Keys Foundation

def Event.proxied : Event → Option (Rung × Uuid)
  | .fetch _ tier (some proxy) .. => some (tier, proxy.id)
  | _ => none

def proxiedFetches (events : List Event) : List (Rung × Uuid) := events.filterMap Event.proxied

def Event.asksForProxy : Event → Bool
  | .getProxy .. => true
  | _ => false

def Event.allowed : Event → Prop
  | .getProxy asked (.ok (some proxy)) => proxy.id ∉ asked.excludeIds
  | _ => True

instance : DecidablePred Event.allowed := fun event =>
  match event with
  | .getProxy asked (.ok (some proxy)) => inferInstanceAs (Decidable (proxy.id ∉ asked.excludeIds))
  | .getProxy _ (.ok none) | .getProxy _ (.error _) | .fetch .. | .reportResult _ | .sleep =>
      .isTrue trivial

def NeverExcluded (events : List Event) : Prop := ∀ event ∈ events, event.allowed

/-- Every proxy used so far was used at this tier or below, and those of this tier
are excluded. -/
structure Excluded (state : State) (past : List Event) : Prop where
  distinct : (proxiedFetches past).Nodup
  below : ∀ used ∈ proxiedFetches past, used.1 ≤ state.tier
  excluded : ∀ used ∈ proxiedFetches past, used.1 = state.tier → used.2 ∈ state.failedProxyIds

section Attempt

variable {text : TextMethods} {request : Request} {environment : Environment} {left : Nat}
  {state next : State} {answers : Answers} {proxy : Option Proxy} {past : List Event}

@[simp] theorem proxiedFetches_append (before after : List Event) :
    proxiedFetches (before ++ after) = proxiedFetches before ++ proxiedFetches after :=
  List.filterMap_append

theorem proxiedFetches_of_quiet {events : List Event} (h : ∀ event ∈ events, event.quiet) :
    proxiedFetches events = [] := by
  apply List.filterMap_eq_nil_iff.mpr
  intro event hevent
  have hquiet := h event hevent
  cases event with
  | fetch _ _ _ _ _ => cases hquiet
  | _ => rfl

theorem proxiedFetches_pickProxy {bypassed : Bool} :
    proxiedFetches (pickProxy text request answers bypassed state).1 = [] := by
  unfold pickProxy
  split
  · rfl
  · rfl

theorem attempt_proxied {bypassed : Bool} (hgate : request.gate state.tier = .go bypassed)
    (hpicked : (pickProxy text request (environment state.totalAttempts) bypassed
      state.begin).2 = .ok proxy) :
    proxiedFetches (attempt text request environment left state).events =
      (proxy.map fun used => (state.tier, used.id)).toList := by
  obtain ⟨rest, hevents, hquiet⟩ := @tailEvents_calls request left state.begin
    (environment state.totalAttempts) proxy (fetcherFor state)
  rw [attempt_ok hgate hpicked, proxiedFetches_append, proxiedFetches_pickProxy, hevents,
    List.nil_append]
  have hrest := proxiedFetches_of_quiet hquiet
  cases proxy with
  | none => exact hrest
  | some used => exact congrArg ((state.tier, used.id) :: ·) hrest

theorem attempt_unproxied {bypassed : Bool} {exn : Exn}
    (hgate : request.gate state.tier = .go bypassed)
    (hpicked : (pickProxy text request (environment state.totalAttempts) bypassed
      state.begin).2 = .error exn) :
    proxiedFetches (attempt text request environment left state).events = [] := by
  have hquiet : ∀ event ∈ (handle request left state.begin none exn
      (environment state.totalAttempts)).events, event.quiet := fun event => handle_quiet
  rw [attempt_error hgate hpicked, proxiedFetches_append, proxiedFetches_pickProxy,
    proxiedFetches_of_quiet hquiet, List.nil_append]

theorem pickProxy_some {used : Proxy} {bypassed : Bool}
    (h : (pickProxy text request answers bypassed state).2 = .ok (some used)) :
    asksProxy request bypassed state.tier.tier = true ∧ answers.getProxy = .ok (some used) := by
  unfold pickProxy at h
  split at h
  · rename_i hasks
    refine ⟨hasks, ?_⟩
    cases hanswer : answers.getProxy with
    | error exn =>
        rw [hanswer] at h
        cases h
    | ok found =>
        rw [hanswer] at h
        cases found with
        | none => cases h
        | some other =>
            cases h
            rfl
  · cases h

theorem picked_fresh {used : Proxy} {bypassed : Bool}
    (hgate : request.gate state.tier = .go bypassed)
    (hpicked : (pickProxy text request (environment state.totalAttempts) bypassed
      state.begin).2 = .ok (some used))
    (hfresh : NeverExcluded (attempt text request environment left state).events) :
    used.id ∉ state.failedProxyIds := by
  obtain ⟨hasks, hanswer⟩ := pickProxy_some hpicked
  have hasked := @attempt_asks text request environment left state bypassed hgate hasks
  rw [hanswer] at hasked
  exact hfresh _ hasked

theorem attempt_distinct (hreach : Reachable request state.tier)
    (hfresh : NeverExcluded (attempt text request environment left state).events)
    (hpast : Excluded state past) :
    (proxiedFetches (past ++ (attempt text request environment left state).events)).Nodup := by
  obtain ⟨bypassed, hgate⟩ := gate_of_reachable hreach
  rw [proxiedFetches_append]
  cases hpicked : (pickProxy text request (environment state.totalAttempts) bypassed
      state.begin).2 with
  | error exn =>
      rw [attempt_unproxied hgate hpicked, List.append_nil]
      exact hpast.distinct
  | ok proxy =>
      rw [attempt_proxied hgate hpicked]
      cases proxy with
      | none =>
          rw [Option.map_none, Option.toList_none, List.append_nil]
          exact hpast.distinct
      | some used =>
          rw [Option.map_some, Option.toList_some, List.nodup_append]
          refine ⟨hpast.distinct, List.nodup_singleton _, ?_⟩
          intro earlier hearlier other hother hsame
          rw [List.mem_singleton.mp hother] at hsame
          have hin := hpast.excluded earlier hearlier (congrArg Prod.fst hsame)
          rw [hsame] at hin
          exact picked_fresh hgate hpicked hfresh hin

theorem State.mem_fail {id : Uuid} (h : id ∈ state.failedProxyIds) :
    id ∈ (state.fail proxy).failedProxyIds := by
  cases proxy with
  | none => exact h
  | some used => exact List.mem_insert_of_mem h

theorem used_failed {used : Rung × Uuid}
    (h : used ∈ (proxy.map fun other => (state.tier, other.id)).toList) :
    used.1 = state.tier ∧ used.2 ∈ (state.fail proxy).failedProxyIds := by
  cases proxy with
  | none => cases h
  | some other =>
      rw [List.mem_singleton.mp h]
      exact ⟨rfl, List.mem_insert_self⟩

theorem Excluded.used {events : List Event} (hpast : Excluded state past)
    (hevents : proxiedFetches events = (proxy.map fun used => (state.tier, used.id)).toList) :
    ∀ used ∈ proxiedFetches (past ++ events), used.1 ≤ state.tier ∧
      (used.1 = state.tier → used.2 ∈ (state.fail proxy).failedProxyIds) := by
  intro used hused
  rw [proxiedFetches_append, hevents] at hused
  rcases List.mem_append.mp hused with hold | hnew
  · exact ⟨hpast.below used hold, fun htier => State.mem_fail (hpast.excluded used hold htier)⟩
  · have hfailed := used_failed hnew
    exact ⟨Fin.le_of_eq hfailed.1, fun _ => hfailed.2⟩

theorem Excluded.stayed {events : List Event} (hpast : Excluded state past)
    (hnodup : (proxiedFetches (past ++ events)).Nodup)
    (hevents : proxiedFetches events = (proxy.map fun used => (state.tier, used.id)).toList)
    (hstays : Stays state proxy next) : Excluded next (past ++ events) where
  distinct := hnodup
  below := by
    intro used hused
    rw [hstays.tier]
    exact (hpast.used hevents used hused).1
  excluded := by
    intro used hused htier
    rw [hstays.tier] at htier
    rw [hstays.failedProxyIds]
    exact (hpast.used hevents used hused).2 htier

theorem Excluded.bumped {events : List Event} (hpast : Excluded state past)
    (hnodup : (proxiedFetches (past ++ events)).Nodup)
    (hevents : proxiedFetches events = (proxy.map fun used => (state.tier, used.id)).toList)
    (hnext : nextTier state.tier = some next.tier) : Excluded next (past ++ events) := by
  have hrung := nextTier_eq_some.mp hnext
  have hlt : ∀ used ∈ proxiedFetches (past ++ events), used.1 < next.tier := by
    intro used hused
    have hle := (hpast.used hevents used hused).1
    rw [Fin.lt_def, hrung]
    exact Nat.lt_succ_of_le hle
  constructor
  · exact hnodup
  · exact fun used hused => Fin.le_of_lt (hlt used hused)
  · intro used hused htier
    exact absurd htier (Fin.ne_of_lt (hlt used hused))

theorem Excluded.again {events : List Event} (hpast : Excluded state past)
    (hnodup : (proxiedFetches (past ++ events)).Nodup)
    (hevents : proxiedFetches events = (proxy.map fun used => (state.tier, used.id)).toList)
    (h : Again request state proxy answers next) : Excluded next (past ++ events) := by
  cases h with
  | stayed hstays => exact hpast.stayed hnodup hevents hstays
  | climbed _ _ _ hnext _ => exact hpast.bumped hnodup hevents hnext
  | leftDirect _ _ _ _ hnext _ => exact hpast.bumped hnodup hevents hnext

theorem Excluded.begin (h : Excluded state past) : Excluded state.begin past :=
  ⟨h.distinct, h.below, h.excluded⟩

/-- An attempt that goes around again leaves the proxies of its tier excluded. -/
theorem attempt_excluded (hpast : Excluded state past)
    (hnodup : (proxiedFetches (past ++
      (attempt text request environment left state).events)).Nodup)
    (h : (attempt text request environment left state).exit = .again next) :
    Excluded next (past ++ (attempt text request environment left state).events) := by
  obtain ⟨bypassed, hgate, hresumes⟩ := attempt_again h
  cases hresumes with
  | lost hpicked hstays =>
      exact hpast.begin.stayed hnodup (attempt_unproxied hgate hpicked) hstays
  | went hpicked hagain =>
      exact hpast.begin.again hnodup (attempt_proxied hgate hpicked) hagain

/-! What the exclusion set is at a tier that asks for no proxy. -/

def ClearWhenDirect (request : Request) (state : State) : Prop :=
  asksAt request state.tier = false → state.failedProxyIds = []

/-- A new tier begins with nothing excluded: the bump clears the set, or the attempt
had no proxy, at a tier that asks for none. -/
theorem attempt_clears (hclear : ClearWhenDirect request state)
    (h : (attempt text request environment left state).exit = .again next) :
    ClearWhenDirect request next ∧ (next.tier ≠ state.tier → next.failedProxyIds = []) := by
  obtain ⟨bypassed, hgate, hresumes⟩ := attempt_again h
  have hdirect : ∀ {proxy : Option Proxy},
      (pickProxy text request (environment state.totalAttempts) bypassed state.begin).2 =
        .ok proxy → (proxy = none ↔ asksAt request state.tier = false) := by
    intro proxy hpicked
    have hpicked := pickProxy_ok hpicked
    rw [asksAt_of_gate hgate]
    exact hpicked
  have hstayed : ∀ {proxy : Option Proxy}, (asksAt request state.tier = false → proxy = none) →
      Stays state.begin proxy next → ClearWhenDirect request next ∧
        (next.tier ≠ state.tier → next.failedProxyIds = []) := by
    intro proxy hnone hstays
    refine ⟨?_, fun hne => absurd hstays.tier hne⟩
    intro hasks
    have hasks : asksAt request state.tier = false := hstays.tier ▸ hasks
    rw [hstays.failedProxyIds, hnone hasks]
    exact hclear hasks
  cases hresumes with
  | lost hpicked hstays => exact hstayed (fun _ => rfl) hstays
  | went hpicked hagain =>
      cases hagain with
      | stayed hstays => exact hstayed (hdirect hpicked).mpr hstays
      | climbed _ _ _ _ _ => exact ⟨fun _ => rfl, fun _ => rfl⟩
      | leftDirect hkept _ hnone _ _ _ =>
          have hempty : _ := hclear ((hdirect hpicked).mp hnone)
          have hfailed := hkept.failedProxyIds
          rw [hnone] at hfailed
          exact ⟨fun _ => hfailed.trans hempty, fun _ => hfailed.trans hempty⟩

theorem attempt_find :
    (∃ asked answer, asked.excludeIds = state.failedProxyIds ∧
        (attempt text request environment left state).events.find? Event.asksForProxy =
          some (.getProxy asked answer)) ∨
      asksAt request state.tier = false ∧
        (attempt text request environment left state).events.find? Event.asksForProxy = none := by
  cases hgate : request.gate state.tier with
  | stop =>
      right
      rw [asksAt, attempt, hgate]
      exact ⟨rfl, rfl⟩
  | go bypassed =>
      obtain ⟨tail, hevents, hnone⟩ := @attempt_events text request environment left state
        bypassed hgate
      rw [asksAt_of_gate hgate, hevents]
      cases hasks : asksProxy request bypassed state.tier.tier with
      | true =>
          left
          refine ⟨proxyRequest text request bypassed state.begin,
            (environment state.totalAttempts).getProxy, rfl, ?_⟩
          have hasks : asksProxy request bypassed state.begin.tier.tier = true := hasks
          rw [pickProxy, if_pos hasks]
          rfl
      | false =>
          right
          have hasks : asksProxy request bypassed state.begin.tier.tier = false := hasks
          refine ⟨rfl, ?_⟩
          rw [pickProxy, hasks]
          apply List.find?_eq_none.mpr
          intro event hevent hasksFor
          cases event with
          | getProxy asked answer => exact hnone asked answer hevent
          | _ => cases hasksFor

end Attempt

section Run

variable {text : TextMethods} {request : Request} {environment : Environment}

def AsksFresh (events : List Event) : Prop :=
  ∀ asked answer, events.find? Event.asksForProxy = some (.getProxy asked answer) →
    asked.excludeIds = []

theorem asksFresh_of_empty {count : Nat} {state : State} (hempty : state.failedProxyIds = []) :
    AsksFresh (loopEvents (attempt text request environment) count state) := by
  induction count generalizing state with
  | zero =>
      intro asked answer hfind
      cases hfind
  | succ left ih =>
      intro asked answer hfind
      rcases @attempt_find text request environment left state with
        ⟨first, given, hexclude, hfirst⟩ | ⟨hasks, hnone⟩
      · rw [loopEvents_succ, List.find?_append, hfirst] at hfind
        cases hfind
        exact hexclude.trans hempty
      · cases hexit : (attempt text request environment left state).exit with
        | done out =>
            rw [loopEvents_done hexit, hnone] at hfind
            cases hfind
        | again next =>
            rw [loopEvents_again hexit, List.find?_append, hnone, Option.none_or] at hfind
            obtain ⟨hclear, hmoved⟩ := attempt_clears (fun _ => hempty) hexit
            apply ih _ asked answer hfind
            by_cases htier : next.tier = state.tier
            · exact hclear (htier ▸ hasks)
            · exact hmoved htier

theorem attempts_clear : ∀ visit ∈ attempts text request environment,
    ClearWhenDirect request visit.state := by
  refine visits_invariant (ClearWhenDirect request) ?_ (fun _ => rfl)
  intro visit _ hclear next hagain
  exact (attempt_clears hclear hagain).1

/-- The rotation of proxies over a run: those of one tier are distinct, and the first
request behind a change of tier excludes nothing. -/
structure Rotates (text : TextMethods) (request : Request) (environment : Environment) : Prop where
  distinct : (proxiedFetches (calls text request environment)).Nodup
  fresh : ∀ before visit next after,
    attempts text request environment = before ++ visit :: next :: after →
      visit.state.tier ≠ next.state.tier →
        AsksFresh ((next :: after).flatMap fun made =>
          (attempt text request environment made.left made.state).events)

theorem neverExcluded_of_mem {visit : Visit State}
    (hvisit : visit ∈ attempts text request environment)
    (h : NeverExcluded (calls text request environment)) :
    NeverExcluded (attempt text request environment visit.left visit.state).events :=
  fun event hmem => h event (List.mem_flatMap.mpr ⟨visit, hvisit, hmem⟩)

theorem proxies_rotate (h : NeverExcluded (calls text request environment)) :
    Rotates text request environment := by
  constructor
  · refine loopEvents_history Excluded (fun past => (proxiedFetches past).Nodup) ?_ ?_
      (fun _ _ hpast => hpast.distinct) (⟨List.nodup_nil, nofun, nofun⟩ : Excluded _ [])
    · intro visit hvisit next past hpast hagain
      have hdistinct := attempt_distinct (reachable_of_mem hvisit)
        (neverExcluded_of_mem hvisit h) hpast
      exact attempt_excluded hpast hdistinct hagain
    · intro visit hvisit past hpast
      exact attempt_distinct (reachable_of_mem hvisit) (neverExcluded_of_mem hvisit h) hpast
  · intro before visit next after hattempts htier
    obtain ⟨hagain, hrest⟩ := visits_successive hattempts
    have hvisit : visit ∈ attempts text request environment := by
      rw [hattempts]
      exact List.mem_append_right before (List.mem_cons_self ..)
    have hempty := (attempt_clears (attempts_clear visit hvisit) hagain).2 htier.symm
    rw [hrest]
    exact asksFresh_of_empty hempty

end Run

theorem proxies_rotate_pool_of_one : Rotates asciiText proxiedRequest poolOfOne :=
  proxies_rotate (List.forall_iff_forall_mem.mp (by decide))

end CrawlerApi.Fetch
