import CrawlerApi.Warc.Reader
import CrawlerApi.Warc.Trace

/-!
# The index without duplicates

With a database that answers, a page is a response in the index once, and each further
capture of it is a revisit that resolves to a response of its payload.
-/

namespace CrawlerApi.Warc

open Keys Fetch Foundation

def captures (rows : List WarcIndex) (url sha256 : String) : List WarcIndex :=
  rows.filter fun row => row.url = url ∧ row.sha256 = sha256

def CapturedOnce (rows : List WarcIndex) : Prop :=
  ∃ response revisits, rows = response :: revisits ∧ response.isRevisit = false ∧
    ∀ revisit ∈ revisits, revisit.isRevisit = true

structure Deduplicated (rows : List WarcIndex) : Prop where
  once : ∀ row ∈ rows, CapturedOnce (captures rows row.url row.sha256)
  ordered : rows.Pairwise fun earlier later => earlier.capturedAt ≤ later.capturedAt

/-- A row the index can take: the first response of its pair, or a revisit of a row. -/
inductive Extends (rows : List WarcIndex) (row : WarcIndex) : Prop where
  | response : row.isRevisit = false → captures rows row.url row.sha256 = [] → Extends rows row
  | revisit {found : WarcIndex} : row.isRevisit = true → found ∈ rows → found.url = row.url →
      found.sha256 = row.sha256 → Extends rows row

section Rows

variable {database : Database} {rows : List WarcIndex} {row other : WarcIndex}

theorem captures_append_of_same (hurl : row.url = other.url) (hsha : row.sha256 = other.sha256) :
    captures (rows ++ [row]) other.url other.sha256 =
      captures rows other.url other.sha256 ++ [row] := by
  unfold captures
  rw [List.filter_append, List.filter_cons_of_pos (by simp [hurl, hsha]), List.filter_nil]

theorem captures_append_of_ne (hne : ¬ (row.url = other.url ∧ row.sha256 = other.sha256)) :
    captures (rows ++ [row]) other.url other.sha256 = captures rows other.url other.sha256 := by
  unfold captures
  rw [List.filter_append, List.filter_cons_of_neg (by simpa using hne), List.filter_nil,
    List.append_nil]

theorem CapturedOnce.append (h : CapturedOnce rows) (hrevisit : row.isRevisit = true) :
    CapturedOnce (rows ++ [row]) := by
  obtain ⟨response, revisits, rfl, hresponse, hrevisits⟩ := h
  refine ⟨response, revisits ++ [row], rfl, hresponse, fun revisit hmem => ?_⟩
  rcases List.mem_append.mp hmem with hold | hnew
  · exact hrevisits revisit hold
  · rwa [List.mem_singleton.mp hnew]

theorem Deduplicated.append (h : Deduplicated rows) (hextends : Extends rows row)
    (hlater : ∀ other ∈ rows, other.capturedAt ≤ row.capturedAt) :
    Deduplicated (rows ++ [row]) where
  once other hother := by
    by_cases hsame : row.url = other.url ∧ row.sha256 = other.sha256
    · rw [captures_append_of_same hsame.1 hsame.2, ← hsame.1, ← hsame.2]
      cases hextends with
      | response hresponse hfirst => exact ⟨row, [], by rw [hfirst]; rfl, hresponse, nofun⟩
      | revisit hrevisit hfound hurl hsha =>
          rw [← hurl, ← hsha]
          exact (h.once _ hfound).append hrevisit
    · rw [captures_append_of_ne hsame]
      rcases List.mem_append.mp hother with hold | hnew
      · exact h.once other hold
      · rw [List.mem_singleton.mp hnew] at hsame
        exact absurd ⟨rfl, rfl⟩ hsame
  ordered := by
    rw [List.pairwise_append]
    refine ⟨h.ordered, List.pairwise_singleton .., fun earlier hearlier later hmem => ?_⟩
    rw [List.mem_singleton.mp hmem]
    exact hlater earlier hearlier

theorem Deduplicated.exists_response (h : Deduplicated rows) (hrow : row ∈ rows) :
    ∃ response ∈ rows, response.sha256 = row.sha256 ∧ response.isRevisit = false ∧
      response.capturedAt ≤ row.capturedAt := by
  obtain ⟨response, revisits, heq, hresponse, -⟩ := h.once row hrow
  have hmem : response ∈ captures rows row.url row.sha256 := heq ▸ List.mem_cons_self
  obtain ⟨hin, hpair⟩ := List.mem_filter.mp hmem
  refine ⟨response, hin, (of_decide_eq_true hpair).2, hresponse, ?_⟩
  have hself : row ∈ captures rows row.url row.sha256 :=
    List.mem_filter.mpr ⟨hrow, decide_eq_true ⟨rfl, rfl⟩⟩
  have hordered : (captures rows row.url row.sha256).Pairwise fun earlier later =>
      earlier.capturedAt ≤ later.capturedAt := h.ordered.filter _
  rw [heq] at hself hordered
  rcases List.mem_cons.mp hself with rfl | hrevisit
  · exact Int.le_refl _
  · exact List.rel_of_pairwise_cons hordered hrevisit

/-- The query of the endpoint finds a response with the digest, not later than the revisit. -/
theorem Deduplicated.resolves (h : Deduplicated rows) (hrow : row ∈ rows)
    (hrevisit : row.isRevisit = true) :
    ∃ original ∈ rows, resolveRevisit database rows row = some original ∧
      original.isRevisit = false ∧ original.sha256 = row.sha256 ∧
      original.capturedAt ≤ row.capturedAt := by
  obtain ⟨response, hin, hsha, hresponse, hle⟩ := h.exists_response hrow
  have hmem : response ∈
      rows.filter fun other => other.sha256 = row.sha256 ∧ ¬ other.isRevisit := by
    simp [hin, hsha, hresponse]
  obtain ⟨original, hpick⟩ :=
    Option.ne_none_iff_exists'.mp (database.oldest.found (List.ne_nil_of_mem hmem))
  obtain ⟨horiginal, hmatch⟩ := List.mem_filter.mp (database.oldest.mem hpick)
  have hfirst := database.oldest.first hpick response hmem
  simp only [decide_eq_true_eq, Bool.not_eq_true] at hmatch
  refine ⟨original, horiginal, ?_, hmatch.2, hmatch.1, Int.le_trans hfirst hle⟩
  unfold resolveRevisit
  rw [if_pos hrevisit]
  exact hpick

end Rows

namespace Depot

section Runs

variable {libraries : Libraries} {database : Database} {settings : Settings}
  {depot : Depot} {call : ArchiveCall} {answers : Answers} {upload : Delivery Exn}
  {action : Action} {actions : List Action} {served : List (Served Depot Action Traced)}

theorem capturedAt_writtenRow :
    (depot.writtenRow libraries database call answers).capturedAt = answers.writtenAt := by
  unfold writtenRow written Storage.write
  cases depot.storage.lookup libraries database call answers.lookupFails with
  | none => rfl
  | some row => rfl

theorem url_writtenRow :
    (depot.writtenRow libraries database call answers).url = call.fetchResult.url :=
  (Storage.row_write depot.storage call _ answers.writtenAt answers.recordId answers.rowId).2.1

theorem sha256_writtenRow :
    (depot.writtenRow libraries database call answers).sha256 =
      libraries.sha256 call.body := by
  refine (Storage.row_write depot.storage call _ answers.writtenAt answers.recordId
    answers.rowId).2.2.trans ?_
  cases hlookup : depot.storage.lookup libraries database call answers.lookupFails with
  | none => rfl
  | some row => exact (Storage.lookup_eq_some hlookup).2

theorem extends_writtenRow (hanswers : answers.lookupFails = false) :
    Extends depot.storage.rows (depot.writtenRow libraries database call answers) := by
  have hurl := @url_writtenRow libraries database depot call answers
  have hsha := @sha256_writtenRow libraries database depot call answers
  cases hlookup : depot.storage.lookup libraries database call answers.lookupFails with
  | none =>
      refine .response (by unfold writtenRow written; rw [hlookup]; rfl) ?_
      rw [hurl, hsha]
      refine List.filter_eq_nil_iff.mpr fun row hrow hsame => ?_
      have hnone := (Storage.lookup_eq_none_iff.mp hlookup).resolve_left (by rw [hanswers]; nofun)
      exact hnone row hrow (of_decide_eq_true hsame).symm
  | some row =>
      have hfound := Storage.lookup_eq_some hlookup
      refine .revisit (by unfold writtenRow written; rw [hlookup]; rfl) hfound.1 ?_ ?_
      · rw [hurl, Storage.url_of_lookup hlookup]
      · rw [hsha, hfound.2]

def Action.writtenAt : Action → Option Instant
  | .archive _ answers _ => some answers.writtenAt
  | .shutdownFlush .. => none

/-- The index holds what was committed, at the times of the writes, without duplicates. -/
structure Indexes (depot : Depot) (served : List (Served Depot Action Traced)) : Prop where
  rows : depot.storage.rows = served.filterMap (·.output.row)
  deduplicated : Deduplicated depot.storage.rows
  dated : ∀ row ∈ depot.storage.rows, ∃ entry ∈ served,
    entry.action.writtenAt = some row.capturedAt

def InOrder (served : List (Served Depot Action Traced)) (depot : Depot) (action : Action) : Prop :=
  DatabaseSucceeds depot action ∧
    ∀ entry ∈ served, ∀ earlier ∈ entry.action.writtenAt, ∀ now ∈ action.writtenAt, earlier ≤ now

theorem indexes_start (hempty : depot.storage.rows = []) : Indexes depot [] where
  rows := hempty
  deduplicated := by
    rw [hempty]
    exact ⟨nofun, .nil⟩
  dated := by
    rw [hempty]
    exact nofun

theorem Indexes.unchanged (h : Indexes depot served) {after : Depot}
    (hrows : after.storage.rows = depot.storage.rows) {entry : Served Depot Action Traced}
    (hentry : entry.output.row = none) : Indexes after (served ++ [entry]) where
  rows := by
    rw [List.filterMap_append, hrows, h.rows]
    simp [hentry]
  deduplicated := hrows ▸ h.deduplicated
  dated row hrow := by
    obtain ⟨earlier, hearlier, hdate⟩ := h.dated row (hrows ▸ hrow)
    exact ⟨earlier, List.mem_append_left _ hearlier, hdate⟩

theorem Indexes.added (h : Indexes depot served) {after : Depot} {row : WarcIndex}
    {entry : Served Depot Action Traced}
    (hrows : after.storage.rows = depot.storage.rows ++ [row])
    (hextends : Extends depot.storage.rows row)
    (hlater : ∀ other ∈ depot.storage.rows, other.capturedAt ≤ row.capturedAt)
    (hentry : entry.output.row = some row)
    (hdate : entry.action.writtenAt = some row.capturedAt) :
    Indexes after (served ++ [entry]) where
  rows := by
    rw [List.filterMap_append, hrows, h.rows]
    simp [hentry]
  deduplicated := by
    rw [hrows]
    exact h.deduplicated.append hextends hlater
  dated other hother := by
    rw [hrows] at hother
    rcases List.mem_append.mp hother with hold | hnew
    · obtain ⟨earlier, hearlier, hdate⟩ := h.dated other hold
      exact ⟨earlier, List.mem_append_left _ hearlier, hdate⟩
    · rw [List.mem_singleton.mp hnew]
      exact ⟨entry, List.mem_append_right _ (List.mem_singleton_self _), hdate⟩

theorem Indexes.step (h : Indexes depot served) (hguard : InOrder served depot action) :
    Indexes (depot.trace libraries database settings action).1
      (served ++ [⟨depot, action, (depot.trace libraries database settings action).2⟩]) := by
  cases action with
  | shutdownFlush upload filename now =>
      exact h.unchanged (depot.storage.rotateUnder_ends settings upload filename now).rows rfl
  | archive call answers upload =>
      obtain ⟨hdatabase, hclock⟩ := hguard
      have hextends := @extends_writtenRow libraries database depot call answers hdatabase.1
      have hdate := @capturedAt_writtenRow libraries database depot call answers
      have hlater : ∀ other ∈ depot.storage.rows, other.capturedAt ≤
          (depot.writtenRow libraries database call answers).capturedAt := by
        intro other hother
        obtain ⟨entry, hentry, hother⟩ := h.dated other hother
        rw [hdate]
        exact hclock entry hentry _ hother _ rfl
      have harchived := @archived_trace libraries database settings depot call answers upload
        hdatabase
      generalize houtput : (depot.trace libraries database settings
        (.archive call answers upload)).2 = traced at harchived ⊢
      generalize hafter : (depot.trace libraries database settings
        (.archive call answers upload)).1 = after at harchived ⊢
      generalize hstorage : after.storage = storage at harchived
      cases harchived with
      | kept =>
          exact h.added (by rw [hstorage]) hextends hlater rfl (congrArg some hdate.symm)
      | rotated objects put _ =>
          exact h.added (by rw [hstorage]) hextends hlater rfl (congrArg some hdate.symm)
      | cancelled objects _ =>
          exact h.unchanged (by rw [hstorage]; rfl) rfl

theorem row_of_archive (hdatabase : DatabaseSucceeds depot (.archive call answers upload))
    (hupload : upload.outcome ≠ .error .cancelled) :
    ∃ row, (depot.trace libraries database settings (.archive call answers upload)).2.row =
      some row ∧ row.url = call.fetchResult.url ∧ row.sha256 = libraries.sha256 call.body := by
  have harchived := @archived_trace libraries database settings depot call answers upload hdatabase
  generalize (depot.trace libraries database settings (.archive call answers upload)).2 = traced
    at harchived ⊢
  generalize (depot.trace libraries database settings
    (.archive call answers upload)).1.storage = storage at harchived
  cases harchived with
  | kept => exact ⟨_, rfl, url_writtenRow, sha256_writtenRow⟩
  | rotated objects put _ => exact ⟨_, rfl, url_writtenRow, sha256_writtenRow⟩
  | cancelled objects hcancelled => exact absurd hcancelled hupload

theorem inOrder_of_clock (hclock : (actions.filterMap Action.writtenAt).Pairwise (· ≤ ·))
    (hdatabase : ∀ served ∈ transcript (trace libraries database settings) depot actions,
      DatabaseSucceeds served.before served.action)
    (before : List (Served Depot Action Traced)) (entry : Served Depot Action Traced)
    (after : List (Served Depot Action Traced))
    (hsplit : transcript (trace libraries database settings) depot actions =
      before ++ entry :: after) : InOrder before entry.before entry.action := by
  refine ⟨hdatabase entry (by rw [hsplit]; simp), fun earlier hearlier start hstart now hnow => ?_⟩
  have hactions := map_action_transcript (trace libraries database settings) depot actions
  rw [hsplit, List.map_append, List.map_cons] at hactions
  rw [← hactions, List.pairwise_filterMap, List.pairwise_append] at hclock
  exact hclock.2.2 earlier.action (List.mem_map_of_mem hearlier) entry.action List.mem_cons_self
    start hstart now hnow

end Runs

/-- The index of a run from an empty one: each archived pair has one response, its other rows
are revisits, and every revisit is resolved to an earlier response of its digest. -/
theorem archived_once {libraries : Libraries} {database : Database} {settings : Settings}
    {depot : Depot} {actions : List Action} (hempty : depot.storage.rows = [])
    (hdatabase : ∀ served ∈ transcript (trace libraries database settings) depot actions,
      DatabaseSucceeds served.before served.action)
    (hclock : (actions.filterMap Action.writtenAt).Pairwise (· ≤ ·)) :
    let rows := (serveAll (trace libraries database settings) depot actions).storage.rows
    (∀ served ∈ transcript (trace libraries database settings) depot actions,
      ∀ call answers upload, served.action = .archive call answers upload →
        upload.outcome ≠ .error .cancelled →
          ∃ row ∈ rows, served.output.row = some row ∧ row.url = call.fetchResult.url ∧
            row.sha256 = libraries.sha256 call.body) ∧
      rows = (transcript (trace libraries database settings) depot actions).filterMap
        (·.output.row) ∧
      (∀ row ∈ rows, CapturedOnce (captures rows row.url row.sha256)) ∧
      ∀ row ∈ rows, row.isRevisit = true →
        ∃ original ∈ rows, resolveRevisit database rows row = some original ∧
          original.isRevisit = false ∧ original.sha256 = row.sha256 ∧
          original.capturedAt ≤ row.capturedAt := by
  have hindexes : Indexes (serveAll (trace libraries database settings) depot actions)
      ([] ++ transcript (trace libraries database settings) depot actions) :=
    history_invariant Indexes InOrder (fun _ _ _ h hguard => h.step hguard)
      (indexes_start hempty) (inOrder_of_clock hclock hdatabase)
  rw [List.nil_append] at hindexes
  refine ⟨?_, hindexes.rows, hindexes.deduplicated.once, fun row hrow hrevisit =>
    hindexes.deduplicated.resolves hrow hrevisit⟩
  intro served hserved call answers upload haction hupload
  have hsucceeds := hdatabase served hserved
  have houtput := output_of_mem_transcript hserved
  rw [haction] at hsucceeds houtput
  obtain ⟨row, hrow, hpair⟩ := @row_of_archive libraries database settings served.before call
    answers upload hsucceeds hupload
  rw [← houtput] at hrow
  refine ⟨row, ?_, hrow, hpair⟩
  rw [hindexes.rows]
  exact List.mem_filterMap.mpr ⟨served, hserved, hrow⟩

def pageTwice : List Action := [
  .archive (page "https://a.example/1" [97]) (answersFor 1 "warc/1") .completes,
  .archive (page "https://a.example/1" [97]) (answersFor 2 "warc/2") .completes]

theorem page_twice_captured_once :
    CapturedOnce (captures
      (serveAll (trace (framed digests) insertionOrder uploading) (start uploading "warc/0" 0)
        pageTwice).storage.rows "https://a.example/1" (digests [97])) := by
  have hdatabase : ∀ served ∈ transcript (trace (framed digests) insertionOrder uploading)
      (start uploading "warc/0" 0) pageTwice, DatabaseSucceeds served.before served.action := by
    intro served hserved
    rcases List.mem_cons.mp hserved with rfl | hsecond
    · exact ⟨rfl, rfl, nofun⟩
    · rw [List.mem_singleton.mp hsecond]
      exact ⟨rfl, rfl, by decide +kernel⟩
  obtain ⟨harchived, -, honce, -⟩ := archived_once rfl hdatabase (by decide)
  obtain ⟨row, hrow, -, hurl, hsha⟩ :=
    harchived _ List.mem_cons_self _ _ _ rfl (nofun : Except.ok () ≠ Except.error Exn.cancelled)
  have hpair := honce row hrow
  rwa [hurl, hsha] at hpair

end Depot

end CrawlerApi.Warc
