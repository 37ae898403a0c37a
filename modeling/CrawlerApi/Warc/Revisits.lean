import CrawlerApi.Warc.Durability

/-!
# What revisits refer to

A revisit repeats an earlier response of its uri.  But what stands for the id of that
response is the name of a file, and the date beside it is the one of the revisit.
-/

namespace CrawlerApi.Warc

open Keys Fetch Foundation

/-- `_new_filename`. -/
def newFilename (warcPrefix day time suffix : String) : String :=
  warcPrefix ++ "/" ++ day ++ "/crawl-" ++ time ++ "-" ++ suffix ++ "Z.warc.gz"

def newRecordId (token : String) : String := "<urn:uuid:" ++ token ++ ">"

def IsFilename (name : String) : Prop :=
  ∃ warcPrefix day time suffix, name = newFilename warcPrefix day time suffix

def IsRecordId (name : String) : Prop := ∃ token, name = newRecordId token

theorem IsFilename.ne_recordId {name id : String} (hname : IsFilename name)
    (hid : IsRecordId id) : name ≠ id := by
  obtain ⟨warcPrefix, day, time, suffix, rfl⟩ := hname
  obtain ⟨token, rfl⟩ := hid
  have hz : (newFilename warcPrefix day time suffix).toList.getLast? = some 'z' := by
    unfold newFilename
    rw [String.toList_append, List.getLast?_append]
    rfl
  have hbracket : (newRecordId token).toList.getLast? = some '>' := by
    unfold newRecordId
    rw [String.toList_append, List.getLast?_append]
    rfl
  intro heq
  rw [heq, hbracket] at hz
  cases hz

inductive BuiltRecord.Captures (libraries : Libraries) (uri digest : String) :
    BuiltRecord → Prop where
  | response : libraries.sha256 payload = digest →
      Captures libraries uri digest (.response uri payload statusLine httpHeaders warcHeaders)

inductive BuiltRecord.Revisits (uri digest : String) : BuiltRecord → Prop where
  | revisit : Revisits uri digest
      (.revisit uri ("sha256:" ++ digest) refersToUri refersToDate warcHeaders)

def BuiltRecord.isRevisit : BuiltRecord → Bool
  | .response .. => false
  | .revisit .. => true

def BuiltRecord.warcHeaders : BuiltRecord → Headers
  | .response _ _ _ _ warcHeaders => warcHeaders
  | .revisit _ _ _ _ warcHeaders => warcHeaders

def BuiltRecord.refersToDate : BuiltRecord → Option String
  | .response .. => none
  | .revisit _ _ _ refersToDate _ => some refersToDate

def ArchiveCall.builds (libraries : Libraries) (call : ArchiveCall)
    (existing : Option WarcIndex) (now : Instant) (recordId : String) : BuiltRecord :=
  match existing with
  | some row => WarcWriter.revisitRecord libraries call.fetchResult.url row.warcFilename row.sha256
      now recordId
  | none => WarcWriter.responseRecord libraries call.fetchResult.url call.fetchResult.statusCode
      call.fetchResult.headers call.body call.contentType recordId

structure LoggedRecord where
  built : BuiltRecord
  date : Instant
deriving DecidableEq

structure Refers (libraries : Libraries) (original : LoggedRecord) (revisit : BuiltRecord) :
    Prop where
  repeats : ∃ uri digest, revisit.Revisits uri digest ∧ original.built.Captures libraries uri digest
  recordId : ∃ id, original.built.warcHeaders.get "WARC-Record-ID" = some id ∧
    revisit.warcHeaders.get "WARC-Refers-To" = some id
  date : revisit.refersToDate = some (libraries.isoformat original.date)

/-- Every revisit refers to a response before it. -/
def RevisitsRefer (libraries : Libraries) (entries : List LoggedRecord) : Prop :=
  ∀ before revisit after, entries = before ++ revisit :: after →
    revisit.built.isRevisit = true → ∃ original ∈ before, Refers libraries original revisit.built

namespace Storage

section Facts

variable {libraries : Libraries} {database : Database} {settings : Settings} {storage : Storage}
  {call : ArchiveCall} {answers : Answers} {upload : Delivery Exn} {filename : String}
  {now : Instant} {row : WarcIndex}

theorem rows_write (storage : Storage) (call : ArchiveCall) (existing : Option WarcIndex)
    (now : Instant) (recordId : String) :
    (storage.write libraries call existing now recordId).2.rows = storage.rows := rfl

theorem row_write (storage : Storage) (call : ArchiveCall) (existing : Option WarcIndex)
    (now : Instant) (recordId : String) (id : Uuid) :
    let row := (storage.write libraries call existing now recordId).1.row id
    row.warcFilename = storage.writer.filename ∧ row.url = call.fetchResult.url ∧
      row.sha256 = (existing.map WarcIndex.sha256).getD (libraries.sha256 call.body) := by
  cases existing with
  | none => exact ⟨rfl, rfl, rfl⟩
  | some row => exact ⟨rfl, rfl, rfl⟩

theorem url_of_lookup {fails : Bool}
    (h : storage.lookup libraries database call fails = some row) :
    row.url = call.fetchResult.url := by
  unfold lookup at h
  split at h
  · cases h
  · exact (of_decide_eq_true (List.mem_filter.mp (database.latest.mem h)).2).2

theorem lookup_eq_none_iff {fails : Bool} :
    storage.lookup libraries database call fails = none ↔
      fails = true ∨ ∀ row ∈ storage.rows,
        ¬ (row.sha256 = libraries.sha256 call.body ∧ row.url = call.fetchResult.url) := by
  unfold lookup checkDuplicate
  cases fails with
  | true => exact iff_of_true rfl (.inl rfl)
  | false =>
      rw [if_neg Bool.false_ne_true]
      have hpick : database.latest.pick (storage.rows.filter fun row =>
          row.sha256 = libraries.sha256 call.body ∧ row.url = call.fetchResult.url) = none ↔
          storage.rows.filter (fun row =>
            row.sha256 = libraries.sha256 call.body ∧ row.url = call.fetchResult.url) = [] := by
        constructor
        · exact fun hnone => not_not.mp fun hsome => database.latest.found hsome hnone
        · intro hempty
          rw [hempty]
          exact Option.eq_none_iff_forall_ne_some.mpr fun row hrow =>
            List.not_mem_nil (database.latest.mem hrow)
      rw [hpick, List.filter_eq_nil_iff]
      simp

theorem indexRecord_cases (storage : Storage) (row : WarcIndex) (fails : Bool) :
    (storage.indexRecord row fails).1 = storage ∨
      (storage.indexRecord row fails).1 = { storage with rows := storage.rows ++ [row] } := by
  unfold indexRecord
  split
  · exact .inl rfl
  · exact .inr rfl

/-- A call leaves its file or the next, and adds the row of its write at most. -/
theorem archiveUnder_cases (storage : Storage) (call : ArchiveCall) (answers : Answers)
    (upload : Delivery Exn) :
    let after := (storage.archiveUnder libraries database settings call answers upload).1
    let written := (storage.write libraries call
      (storage.lookup libraries database call answers.lookupFails) answers.writtenAt
      answers.recordId).1
    (after.writer.filename = storage.writer.filename ∨
      after.writer.filename = answers.filename) ∧
    (after.rows = storage.rows ∨ after.rows = storage.rows ++ [written.row answers.rowId]) := by
  have hindexed (rotated : Storage) (row : WarcIndex)
      (hfilename : rotated.writer.filename = storage.writer.filename ∨
        rotated.writer.filename = answers.filename) (hrows : rotated.rows = storage.rows) :
      let after := (rotated.indexRecord row answers.commitFails).1
      (after.writer.filename = storage.writer.filename ∨
        after.writer.filename = answers.filename) ∧
      (after.rows = storage.rows ∨ after.rows = storage.rows ++ [row]) := by
    rcases rotated.indexRecord_cases row answers.commitFails with hlost | hadded
    · rw [hlost]
      exact ⟨hfilename, .inl hrows⟩
    · rw [hadded]
      exact ⟨hfilename, .inr (congrArg (· ++ [row]) hrows)⟩
  have hfilename := @filename_write libraries storage call
    (storage.lookup libraries database call answers.lookupFails) answers.writtenAt
    answers.recordId
  have hrows := @rows_write libraries storage call
    (storage.lookup libraries database call answers.lookupFails) answers.writtenAt
    answers.recordId
  unfold archiveUnder
  dsimp only
  generalize storage.write libraries call
    (storage.lookup libraries database call answers.lookupFails) answers.writtenAt
    answers.recordId = written at *
  by_cases hdue : written.2.rotates settings answers.checkedAt = true
  · have hends := written.2.rotateUnder_ends settings upload answers.filename answers.createdAt
    have hkept := hends.rows.trans hrows
    have hname := hends.filename
    rw [hfilename] at hname
    rw [if_pos hdue]
    split
    · exact ⟨hname, .inl hkept⟩
    · exact hindexed _ _ hname hkept
  · rw [if_neg hdue]
    exact hindexed _ _ (.inl hfilename) hrows

end Facts

end Storage

namespace Depot

/-- The names in the action are ones the code makes. -/
def Action.Named : Action → Prop
  | .archive _ answers _ => IsRecordId answers.recordId ∧ IsFilename answers.filename
  | .shutdownFlush _ filename _ => IsFilename filename

abbrev NamedAction := { action : Action // action.Named }

section System

variable (libraries : Libraries) (database : Database) (settings : Settings)

/-- The record a call writes, whatever its upload and its commit come to. -/
def writes (depot : Depot) : Action → Option LoggedRecord
  | .archive call answers _ =>
      let existing := depot.storage.lookup libraries database call answers.lookupFails
      let written := depot.storage.write libraries call existing answers.writtenAt answers.recordId
      some ⟨call.builds libraries existing answers.writtenAt answers.recordId,
        written.1.record.date⟩
  | .shutdownFlush .. => none

def logs (depot : Depot) (action : NamedAction) : Depot × Option LoggedRecord :=
  (depot.serve libraries database settings action, depot.writes libraries database action)

/-- The lookup of a call fails or finds no row of the index. -/
def Novel (depot : Depot) : Action → Prop
  | .archive call answers _ =>
      answers.lookupFails = true ∨ ∀ row ∈ depot.storage.rows,
        ¬ (row.sha256 = libraries.sha256 call.body ∧ row.url = call.fetchResult.url)
  | .shutdownFlush .. => True

end System

structure Indexed (libraries : Libraries) (depot : Depot) (entries : List LoggedRecord) : Prop where
  writer : IsFilename depot.storage.writer.filename
  files : ∀ row ∈ depot.storage.rows, IsFilename row.warcFilename
  responses : ∀ row ∈ depot.storage.rows,
    ∃ original ∈ entries, original.built.Captures libraries row.url row.sha256

section Steps

variable {libraries : Libraries} {database : Database} {settings : Settings} {depot : Depot}
  {action : NamedAction} {actions : List NamedAction}
  {entries before after : List LoggedRecord} {entry : LoggedRecord} {filename : String}
  {now : Instant}

theorem indexed_start (hfilename : IsFilename filename) :
    Indexed libraries (start settings filename now) [] where
  writer := hfilename
  files := nofun
  responses := nofun

theorem recordId_of_writes (h : depot.writes libraries database action = some entry) :
    ∃ id, entry.built.warcHeaders.get "WARC-Record-ID" = some id ∧ IsRecordId id := by
  obtain ⟨action, hnamed⟩ := action
  cases action with
  | archive call answers upload =>
      refine ⟨answers.recordId, ?_, hnamed.1⟩
      cases h
      cases depot.storage.lookup libraries database call answers.lookupFails with
      | none => simp [ArchiveCall.builds, WarcWriter.responseRecord, BuiltRecord.warcHeaders,
          Headers.get_cons]
      | some row => simp [ArchiveCall.builds, WarcWriter.revisitRecord, BuiltRecord.warcHeaders,
          Headers.get_cons]
  | shutdownFlush upload filename now => cases h

theorem response_of_novel (hnovel : Novel libraries depot action)
    (h : depot.writes libraries database action = some entry) : entry.built.isRevisit = false := by
  obtain ⟨action, hnamed⟩ := action
  cases action with
  | archive call answers upload =>
      have hlookup : depot.storage.lookup libraries database call answers.lookupFails = none :=
        Storage.lookup_eq_none_iff.mpr hnovel
      cases h
      rw [hlookup]
      rfl
  | shutdownFlush upload filename now => cases h

theorem revisit_of_not_novel (h : ¬ Novel libraries depot action) :
    ∃ row ∈ depot.storage.rows, ∃ entry, depot.writes libraries database action = some entry ∧
      entry.built.isRevisit = true ∧ entry.built.Revisits row.url row.sha256 ∧
      entry.built.warcHeaders.get "WARC-Refers-To" = some row.warcFilename := by
  obtain ⟨action, hnamed⟩ := action
  cases action with
  | archive call answers upload =>
      have hlookup : depot.storage.lookup libraries database call answers.lookupFails ≠ none :=
        fun hnone => h (Storage.lookup_eq_none_iff.mp hnone)
      obtain ⟨row, hrow⟩ := Option.ne_none_iff_exists'.mp hlookup
      refine ⟨row, (Storage.lookup_eq_some hrow).1, _, rfl, ?_⟩
      rw [hrow, Storage.url_of_lookup hrow]
      refine ⟨rfl, .revisit, ?_⟩
      simp [ArchiveCall.builds, WarcWriter.revisitRecord, BuiltRecord.warcHeaders,
        Headers.get_cons]
  | shutdownFlush upload filename now => exact absurd trivial h

theorem Indexed.write (h : Indexed libraries depot entries) {call : ArchiveCall}
    {answers : Answers} (upload : Delivery Exn) (id : Uuid)
    (hwrites : depot.writes libraries database (.archive call answers upload) = some entry) :
    let row := (depot.storage.write libraries call
      (depot.storage.lookup libraries database call answers.lookupFails) answers.writtenAt
      answers.recordId).1.row id
    IsFilename row.warcFilename ∧
      ∃ original ∈ entries ++ [entry], original.built.Captures libraries row.url row.sha256 := by
  have hrow := @Storage.row_write libraries depot.storage call
    (depot.storage.lookup libraries database call answers.lookupFails) answers.writtenAt
    answers.recordId id
  cases hwrites
  dsimp only at hrow ⊢
  rw [hrow.1, hrow.2.1, hrow.2.2]
  refine ⟨h.writer, ?_⟩
  cases hlookup : depot.storage.lookup libraries database call answers.lookupFails with
  | none => exact ⟨_, List.mem_append_right _ (List.mem_singleton_self _), .response rfl⟩
  | some row =>
      obtain ⟨original, horiginal, hcaptures⟩ :=
        h.responses row (Storage.lookup_eq_some hlookup).1
      rw [Storage.url_of_lookup hlookup] at hcaptures
      exact ⟨original, List.mem_append_left _ horiginal, hcaptures⟩

theorem Indexed.extend (h : Indexed libraries depot entries) {storage : Storage}
    (added : List LoggedRecord)
    (hwriter : storage.writer.filename = depot.storage.writer.filename ∨
      IsFilename storage.writer.filename)
    (hrows : ∀ row ∈ storage.rows, row ∈ depot.storage.rows ∨
      IsFilename row.warcFilename ∧
        ∃ original ∈ entries ++ added, original.built.Captures libraries row.url row.sha256) :
    Indexed libraries { depot with storage := storage } (entries ++ added) := by
  refine ⟨hwriter.elim (fun hsame => hsame ▸ h.writer) id, fun row hrow => ?_, fun row hrow => ?_⟩
  · rcases hrows row hrow with hold | hnew
    · exact h.files row hold
    · exact hnew.1
  · rcases hrows row hrow with hold | hnew
    · obtain ⟨original, horiginal, hcaptures⟩ := h.responses row hold
      exact ⟨original, List.mem_append_left _ horiginal, hcaptures⟩
    · exact hnew.2

theorem Indexed.logs (h : Indexed libraries depot entries)
    (action : NamedAction) :
    Indexed libraries (depot.logs libraries database settings action).1
      (entries ++ (depot.logs libraries database settings action).2.toList) := by
  obtain ⟨action, hnamed⟩ := action
  cases action with
  | archive call answers upload =>
      obtain ⟨hfilename, hrows⟩ := @Storage.archiveUnder_cases libraries database
        settings depot.storage call answers upload
      have hwriter := hfilename.imp_right fun hnext => (congrArg IsFilename hnext).mpr hnamed.2
      refine h.extend _ hwriter fun row hrow => ?_
      rcases hrows with hkept | hadded
      · exact .inl (hkept ▸ hrow)
      · rw [hadded] at hrow
        rcases List.mem_append.mp hrow with hold | hnew
        · exact .inl hold
        · rw [List.mem_singleton.mp hnew]
          exact .inr (h.write upload answers.rowId rfl)
  | shutdownFlush upload filename now =>
      have hends := depot.storage.rotateUnder_ends settings upload filename now
      have hwriter := hends.filename.imp_right fun hnext =>
        (congrArg IsFilename hnext).mpr hnamed
      refine h.extend _ hwriter fun row hrow => ?_
      exact .inl (hends.rows ▸ hrow)

theorem indexed_logged (hfilename : IsFilename filename)
    (actions : List NamedAction) :
    Indexed libraries
      (serveAll (logs libraries database settings) (start settings filename now) actions)
      (logged (logs libraries database settings) (start settings filename now) actions) :=
  logged_invariant (Indexed libraries) (fun _ _ action h => h.logs action) actions
    (indexed_start hfilename)

/-- Each revisit repeats a response before it. -/
theorem revisits_repeat (hfilename : IsFilename filename) {revisit : LoggedRecord}
    (h : logged (logs libraries database settings) (start settings filename now) actions =
      before ++ revisit :: after) (hrevisit : revisit.built.isRevisit = true) :
    ∃ uri digest, revisit.built.Revisits uri digest ∧
      ∃ original ∈ before, original.built.Captures libraries uri digest := by
  obtain ⟨earlier, action, later, -, rfl, hwrites⟩ := logged_eq_append_cons h
  have hnovel : ¬ Novel libraries _ action := fun hnovel => by
    rw [response_of_novel hnovel hwrites] at hrevisit
    cases hrevisit
  obtain ⟨row, hrow, written, hwritten, -, hrepeats, -⟩ :=
    @revisit_of_not_novel libraries database _ action hnovel
  cases hwrites.symm.trans hwritten
  exact ⟨row.url, row.sha256, hrepeats, (indexed_logged hfilename earlier).responses row hrow⟩

theorem not_refers_of_revisit {original : LoggedRecord} {row : WarcIndex} {revisit : BuiltRecord}
    (hfile : IsFilename row.warcFilename)
    (hrefers : revisit.warcHeaders.get "WARC-Refers-To" = some row.warcFilename)
    (horiginal : original ∈
      logged (logs libraries database settings) (start settings filename now) actions) :
    ¬ Refers libraries original revisit := by
  intro h
  obtain ⟨served, hserved, houtput⟩ := mem_logged.mp horiginal
  rw [output_of_mem_transcript hserved] at houtput
  obtain ⟨id, hid, hnamed⟩ := recordId_of_writes houtput
  obtain ⟨other, hother, hsame⟩ := h.recordId
  cases hid.symm.trans hother
  cases hrefers.symm.trans hsame
  exact hfile.ne_recordId hnamed rfl

end Steps

/-- The revisits of a run refer to the responses they repeat exactly if it has none: if no call
of it finds the index to hold its uri with its digest. -/
theorem revisits_refer_iff {libraries : Libraries} {database : Database} {settings : Settings}
    {filename : String} {now : Instant} (hfilename : IsFilename filename)
    (actions : List NamedAction) :
    RevisitsRefer libraries
        (logged (logs libraries database settings) (start settings filename now) actions) ↔
      ∀ served ∈
          transcript (logs libraries database settings) (start settings filename now) actions,
        Novel libraries served.before served.action := by
  constructor
  · intro hrefer served hserved
    obtain ⟨before, after, rfl, hbefore⟩ := served_of_transcript hserved
    by_contra hnovel
    obtain ⟨row, hrow, entry, hwrites, hrevisit, -, hname⟩ :=
      @revisit_of_not_novel libraries database _ _ hnovel
    rw [hbefore] at hrow hwrites
    have hentry : (logs libraries database settings (serveAll (logs libraries database settings)
      (start settings filename now) before) served.action).2 = some entry := hwrites
    obtain ⟨original, horiginal, hrefers⟩ := hrefer _ entry _ (by
      rw [logged_append, logged_cons, hentry]
      rfl) hrevisit
    have hfile := (indexed_logged hfilename before).files row hrow
    exact not_refers_of_revisit hfile hname horiginal hrefers
  · intro hnovel before revisit after hsplit hrevisit
    obtain ⟨earlier, action, later, rfl, -, hwrites⟩ := logged_eq_append_cons hsplit
    have hserved := hnovel _ (mem_transcript _ _ earlier action later)
    rw [response_of_novel hserved hwrites] at hrevisit
    cases hrevisit

/-! A page is captured once, and a second time. -/

def crawlFile (suffix : String) : String := newFilename "warc" "2026/07/27" "20260727T000000" suffix

theorem isFilename_crawlFile (suffix : String) : IsFilename (crawlFile suffix) :=
  ⟨_, _, _, _, rfl⟩

def captured (rowId : Uuid) (token : String) : NamedAction where
  val := .archive (page "https://a.example/1" [97])
    { answersFor rowId (crawlFile "ab02") with recordId := newRecordId token } .completes
  property := ⟨⟨token, rfl⟩, isFilename_crawlFile "ab02"⟩

theorem page_captured_once :
    RevisitsRefer (framed digests)
      (logged (logs (framed digests) insertionOrder uploading)
        (start uploading (crawlFile "ab01") 0) [captured 1 "00"]) := by
  refine (revisits_refer_iff (isFilename_crawlFile "ab01") _).mpr fun served hserved => ?_
  rw [List.mem_singleton.mp hserved]
  exact .inr nofun

theorem second_capture_refers_to_file :
    ¬ ∀ libraries database settings filename now actions, IsFilename filename →
      RevisitsRefer libraries
        (logged (logs libraries database settings) (start settings filename now) actions) := by
  intro hrefer
  have hentries := hrefer (framed digests) insertionOrder uploading (crawlFile "ab01") 0
    [captured 1 "00", captured 2 "01"] (isFilename_crawlFile "ab01")
  have hlog : logged (logs (framed digests) insertionOrder uploading)
      (start uploading (crawlFile "ab01") 0) [captured 1 "00", captured 2 "01"] =
      [⟨WarcWriter.responseRecord (framed digests) "https://a.example/1" 200 [] [97]
          "application/octet-stream" (newRecordId "00"), 1⟩,
        ⟨WarcWriter.revisitRecord (framed digests) "https://a.example/1" (crawlFile "ab01")
          (digests [97]) 1 (newRecordId "01"), 1⟩] := by
    decide +kernel
  obtain ⟨original, horiginal, hrefers⟩ := hentries [_] _ [] hlog rfl
  obtain ⟨id, hid, hname⟩ := hrefers.recordId
  rw [List.mem_singleton.mp horiginal] at hid
  have hsame : some (newRecordId "00") = some (crawlFile "ab01") := hid.trans hname.symm
  exact absurd hsame (by decide)

end Depot

end CrawlerApi.Warc
