import CrawlerApi.Foundation.Run
import CrawlerApi.Warc.Framed
import CrawlerApi.Warc.Reader

/-!
# The archive round trip

The reader answers with the first record of a file, whatever offset and length
the row has.  So what was archived comes back as long as every response lands in
a file whose first record is a response with the digest it has.
-/

namespace CrawlerApi.Warc

open Keys Fetch Foundation

/-- The storage, and beside it the payload each committed row was archived for. -/
structure Archival where
  storage : Storage
  archived : List (WarcIndex × Bytes)

inductive Action where
  | archive (call : ArchiveCall) (answers : Answers)
  | shutdownFlush (filename : String) (now : Instant)

section System

variable (libraries : Libraries) (database : Database) (settings : Settings)

def Archival.start (filename : String) (now : Instant) : Archival where
  storage := {
    writer := .start settings filename now
    objects := fun _ => none
    rows := [] }
  archived := []

def serve (state : Archival) : Action → Archival
  | .archive call answers =>
      let result := state.storage.archive libraries database settings call answers
      { storage := result.1
        archived := state.archived ++ (result.2.map fun row => (row, call.body)).toList }
  | .shutdownFlush filename now =>
      { state with storage := state.storage.shutdownFlush settings filename now }

def step (state : Archival) (action : Action) : Option Archival :=
  some (serve libraries database settings state action)

/-- The reader gets a payload with the digest out of a response with these headers
and this payload. -/
def PayloadReads (headers : Headers) (payload : Bytes) (digest : String) : Prop :=
  ∃ body, libraries.contentStream headers payload = .ok body ∧ libraries.sha256 body = digest

def ReadsAs (digest : String) (record : WarcRecord) : Prop :=
  record.warcType = .response ∧ PayloadReads libraries record.headers record.payload digest

/-- A response may go into the file of the writer: its first record, or the response
itself when there is none, reads as the digest of the call's body. -/
def MayJoin (writer : WarcWriter) (call : ArchiveCall) : Prop :=
  match writer.records with
  | [] => PayloadReads libraries call.fetchResult.headers call.body (libraries.sha256 call.body)
  | first :: _ => ReadsAs libraries (libraries.sha256 call.body) first

/-- The steps on which the round trip holds. -/
def Admits (state : Archival) : Action → Prop
  | .archive call answers =>
      let existing := state.storage.lookup libraries database call answers.lookupFails
      let written := state.storage.write libraries call existing answers.writtenAt answers.recordId
      (written.2.rotates settings answers.checkedAt = true →
        Fresh state.storage answers.filename) ∧
      (answers.commitFails = false → existing = none →
        MayJoin libraries state.storage.writer call)
  | .shutdownFlush filename _ => Fresh state.storage filename

end System

section Files

variable {libraries : Libraries} {settings : Settings} {storage : Storage} {writer : WarcWriter}
  {row : WarcIndex} {digest filename : String} {now : Instant}

/-- The file of a writer is the encoding of its records. -/
def WarcWriter.Consistent (libraries : Libraries) (writer : WarcWriter) : Prop :=
  ∃ builts : List BuiltRecord, writer.buffer = builts.flatMap libraries.encode ∧
    List.Forall₂ Describes writer.records builts

def FileReads (libraries : Libraries) (digest : String) (raw : Bytes) : Prop :=
  ∃ uri payload statusLine headers warcHeaders rest,
    raw = (BuiltRecord.response uri payload statusLine headers warcHeaders :: rest).flatMap
      libraries.encode ∧
    PayloadReads libraries headers payload digest

/-- The digest of the row is what its file reads as, now or once it is uploaded. -/
inductive Readable (libraries : Libraries) (storage : Storage) (row : WarcIndex) : Prop where
  | buffered {first : WarcRecord} {rest : List WarcRecord} :
      row.warcFilename = storage.writer.filename → storage.writer.records = first :: rest →
      ReadsAs libraries row.sha256 first → Readable libraries storage row
  | uploaded {raw : Bytes} : row.warcFilename ≠ storage.writer.filename →
      storage.objects row.warcFilename = some raw → FileReads libraries row.sha256 raw →
      Readable libraries storage row

theorem WarcWriter.Consistent.append {built : BuiltRecord} {record : WarcRecord}
    (h : writer.Consistent libraries) (hdescribes : Describes record built) :
    (writer.append libraries built record).Consistent libraries := by
  obtain ⟨builts, hbuffer, hrecords⟩ := h
  refine ⟨builts ++ [built], ?_, List.rel_append hrecords (.cons hdescribes .nil)⟩
  simp [WarcWriter.append, hbuffer]

theorem consistent_start : (WarcWriter.start settings filename now).Consistent libraries :=
  ⟨[], rfl, .nil⟩

theorem WarcWriter.Consistent.fileReads {first : WarcRecord} {rest : List WarcRecord}
    (h : writer.Consistent libraries) (hrecords : writer.records = first :: rest)
    (hreads : ReadsAs libraries digest first) : FileReads libraries digest writer.buffer := by
  obtain ⟨builts, hbuffer, hall⟩ := h
  rw [hrecords] at hall
  cases hall with
  | cons hfirst hrest =>
      rename_i built builts
      cases built with
      | response uri payload statusLine headers warcHeaders =>
          obtain ⟨-, hpayload, hheaders⟩ := hfirst
          exact ⟨uri, payload, statusLine, headers, warcHeaders, builts, hbuffer,
            hheaders ▸ hpayload ▸ hreads.2⟩
      | revisit uri digest refersToUri refersToDate warcHeaders =>
          cases hreads.1.symm.trans hfirst

theorem extractBody_of_fileReads {objects : String → Option Bytes} {raw : Bytes}
    (horder : libraries.YieldsInOrder) (hraw : objects filename = some raw)
    (hreads : FileReads libraries digest raw) (offset length : Nat) :
    ∃ body contentType, extractBody libraries objects filename offset length =
      .ok (body, contentType) ∧ libraries.sha256 body = digest := by
  obtain ⟨uri, payload, statusLine, headers, warcHeaders, rest, rfl, body, hbody, hdigest⟩ := hreads
  refine ⟨body, httpHeader libraries headers "Content-Type", ?_, hdigest⟩
  rw [extractBody, hraw]
  show firstBody libraries (libraries.iterate _) = _
  rw [horder, List.map_cons, firstBody, hbody]

theorem Readable.rotate (hkey : settings.s3AccessKey ≠ "") (hfresh : Fresh storage filename)
    (hwriter : storage.writer.Consistent libraries) (h : Readable libraries storage row) :
    Readable libraries (storage.rotate settings filename now) row := by
  have hobjects : (storage.rotate settings filename now).objects =
      (storage.putObject storage.writer.filename storage.writer.buffer).objects := by
    rw [Storage.rotate, if_pos hkey]
    rfl
  cases h with
  | buffered hname hrecords hreads =>
      refine .uploaded (hname ▸ hfresh.2.symm) ?_ (hwriter.fileReads hrecords hreads)
      rw [hobjects, hname]
      exact if_pos rfl
  | uploaded hname hraw hreads =>
      refine .uploaded (fun heq => ?_) ?_ hreads
      · replace heq : row.warcFilename = filename := heq
        rw [heq, hfresh.1] at hraw
        cases hraw
      · rw [hobjects]
        exact (if_neg hname).trans hraw

theorem Readable.withRows (h : Readable libraries storage row) (rows : List WarcIndex) :
    Readable libraries { storage with rows := rows } row := by
  cases h with
  | buffered hname hrecords hreads => exact .buffered hname hrecords hreads
  | uploaded hname hraw hreads => exact .uploaded hname hraw hreads

theorem Readable.write {built : BuiltRecord} {record : WarcRecord}
    (h : Readable libraries storage row) :
    Readable libraries { storage with writer := storage.writer.append libraries built record }
      row := by
  cases h with
  | buffered hname hrecords hreads =>
      rename_i first rest
      have happended : storage.writer.records ++ [record] = first :: (rest ++ [record]) := by
        rw [hrecords, List.cons_append]
      exact .buffered hname happended hreads
  | uploaded hname hraw hreads => exact .uploaded hname hraw hreads

theorem readable_of_mayJoin {built : BuiltRecord} {record : WarcRecord} {call : ArchiveCall}
    (hjoin : MayJoin libraries storage.writer call)
    (hname : row.warcFilename = storage.writer.filename)
    (hdigest : row.sha256 = libraries.sha256 call.body) (htype : record.warcType = .response)
    (hheaders : record.headers = call.fetchResult.headers) (hpayload : record.payload = call.body) :
    Readable libraries { storage with writer := storage.writer.append libraries built record }
      row := by
  unfold MayJoin at hjoin
  split at hjoin
  · rename_i hrecords
    refine .buffered hname (by rw [WarcWriter.append, hrecords]; rfl) ⟨htype, ?_⟩
    rwa [hheaders, hpayload, hdigest]
  · rename_i first rest hrecords
    refine .buffered hname (by rw [WarcWriter.append, hrecords]; rfl) ?_
    rwa [hdigest]

/-- What the write and the rotation of a call leave, and what they make of its row. -/
structure Stores (libraries : Libraries) (storage : Storage) (call : ArchiveCall)
    (existing : Option WarcIndex) (stored : Written × Storage) : Prop where
  consistent : stored.2.writer.Consistent libraries
  rows : stored.2.rows = storage.rows
  keeps : ∀ row, Readable libraries storage row → Readable libraries stored.2 row
  revisit : ∀ row, existing = some row →
    stored.1.record.warcType = .revisit ∧ stored.1.record.sha256 = row.sha256
  response : existing = none →
    stored.1.record.warcType = .response ∧
      stored.1.record.sha256 = libraries.sha256 call.body ∧
      (MayJoin libraries storage.writer call →
        ∀ id, Readable libraries stored.2 (stored.1.row id))

theorem stores_write (hwriter : storage.writer.Consistent libraries) (call : ArchiveCall)
    (existing : Option WarcIndex) (now : Instant) (recordId : String) :
    Stores libraries storage call existing
      (storage.write libraries call existing now recordId) := by
  obtain ⟨built, record, hdescribes, -, -, hwrite, hrecord⟩ :=
    storage.write_cases call existing now recordId
  rw [hwrite]
  refine ⟨hwriter.append hdescribes, rfl, fun row hrow => hrow.write, fun row hrow => ?_,
    fun hnone => ?_⟩
  · subst hrow
    exact hrecord
  · subst hnone
    obtain ⟨htype, hheaders, hpayload, hdigest⟩ := hrecord
    exact ⟨htype, hdigest, fun hjoin id =>
      readable_of_mayJoin hjoin rfl hdigest htype hheaders hpayload⟩

theorem Stores.rotate {call : ArchiveCall} {existing : Option WarcIndex}
    {stored : Written × Storage} (hkey : settings.s3AccessKey ≠ "")
    (hfresh : Fresh stored.2 filename) (h : Stores libraries storage call existing stored) :
    Stores libraries storage call existing (stored.1, stored.2.rotate settings filename now) where
  consistent := consistent_start
  rows := (Storage.rows_rotate ..).trans h.rows
  keeps row hrow := (h.keeps row hrow).rotate hkey hfresh h.consistent
  revisit := h.revisit
  response hnone :=
    ⟨(h.response hnone).1, (h.response hnone).2.1, fun hjoin id =>
      ((h.response hnone).2.2 hjoin id).rotate hkey hfresh h.consistent⟩

theorem stores_store (hkey : settings.s3AccessKey ≠ "")
    (hwriter : storage.writer.Consistent libraries) (call : ArchiveCall)
    (existing : Option WarcIndex) (answers : Answers)
    (hfresh : (storage.write libraries call existing answers.writtenAt answers.recordId).2.rotates
      settings answers.checkedAt = true → Fresh storage answers.filename) :
    Stores libraries storage call existing
      (storage.store libraries settings call existing answers) := by
  have hwrite := stores_write hwriter call existing answers.writtenAt answers.recordId
  unfold Storage.store
  dsimp only
  split
  · rename_i hrotates
    refine hwrite.rotate hkey ?_
    cases existing with
    | none => exact hfresh hrotates
    | some row => exact hfresh hrotates
  · exact hwrite

end Files

structure Sound (libraries : Libraries) (state : Archival) : Prop where
  consistent : state.storage.writer.Consistent libraries
  ids : (state.storage.rows.map WarcIndex.id).Nodup
  rows : state.storage.rows = state.archived.map Prod.fst
  digests : ∀ entry ∈ state.archived, entry.1.sha256 = libraries.sha256 entry.2
  revisits : ∀ row ∈ state.storage.rows, row.isRevisit = true →
    ∃ original ∈ state.storage.rows, original.isRevisit = false ∧ original.sha256 = row.sha256
  responses : ∀ row ∈ state.storage.rows, row.isRevisit = false →
    Readable libraries state.storage row

section Steps

variable {libraries : Libraries} {database : Database} {settings : Settings} {state : Archival}

theorem sound_start (filename : String) (now : Instant) :
    Sound libraries (.start settings filename now) where
  consistent := consistent_start
  ids := .nil
  rows := rfl
  digests := nofun
  revisits := nofun
  responses := nofun

theorem sound_flush {filename : String} {now : Instant} (hkey : settings.s3AccessKey ≠ "")
    (h : Sound libraries state) (hfresh : Fresh state.storage filename) :
    Sound libraries (serve libraries database settings state (.shutdownFlush filename now)) := by
  have hrows :
      (serve libraries database settings state (.shutdownFlush filename now)).storage.rows =
        state.storage.rows := Storage.rows_rotate ..
  refine ⟨consistent_start, ?_, ?_, h.digests, ?_, fun row hrow hresponse => ?_⟩
  · rw [hrows]
    exact h.ids
  · rw [hrows]
    exact h.rows
  · rw [hrows]
    exact h.revisits
  · rw [hrows] at hrow
    exact (h.responses row hrow hresponse).rotate hkey hfresh h.consistent

theorem Stores.row {call : ArchiveCall} {fails : Bool} {stored : Written × Storage}
    (h : Stores libraries state.storage call
      (state.storage.lookup libraries database call fails) stored) (id : Uuid) :
    (stored.1.row id).sha256 = libraries.sha256 call.body ∧
      ((stored.1.row id).isRevisit = true →
        ∃ row ∈ state.storage.rows, row.sha256 = libraries.sha256 call.body) ∧
      ((stored.1.row id).isRevisit = false →
        state.storage.lookup libraries database call fails = none) := by
  cases hlookup : state.storage.lookup libraries database call fails with
  | none =>
      obtain ⟨htype, hdigest, -⟩ := h.response hlookup
      refine ⟨hdigest, fun hrevisit => ?_, fun _ => rfl⟩
      cases htype.symm.trans (of_decide_eq_true hrevisit)
  | some found =>
      obtain ⟨hmem, hfound⟩ := Storage.lookup_eq_some hlookup
      obtain ⟨htype, hdigest⟩ := h.revisit found hlookup
      refine ⟨hdigest.trans hfound, fun _ => ⟨found, hmem, hfound⟩, fun hresponse => ?_⟩
      exact absurd htype (of_decide_eq_false hresponse)

theorem sound_archive {call : ArchiveCall} {answers : Answers} (hkey : settings.s3AccessKey ≠ "")
    (h : Sound libraries state)
    (hadmits : Admits libraries database settings state (.archive call answers)) :
    Sound libraries (serve libraries database settings state (.archive call answers)) := by
  obtain ⟨hfresh, hjoin⟩ := hadmits
  have hstores := stores_store hkey h.consistent call
    (state.storage.lookup libraries database call answers.lookupFails) answers hfresh
  unfold serve Storage.archive
  dsimp only
  generalize state.storage.store libraries settings call
    (state.storage.lookup libraries database call answers.lookupFails) answers = stored at hstores ⊢
  obtain ⟨hdigest, hrevisit, hresponse⟩ := hstores.row answers.rowId
  have hresponses : ∀ row ∈ stored.2.rows, row.isRevisit = false →
      Readable libraries stored.2 row := fun row hrow hkind =>
    hstores.keeps row (h.responses row (hstores.rows ▸ hrow) hkind)
  unfold Storage.indexRecord
  split
  · refine ⟨hstores.consistent, ?_, ?_, ?_, ?_, hresponses⟩
    · exact hstores.rows ▸ h.ids
    · simpa [hstores.rows] using h.rows
    · simpa using h.digests
    · exact hstores.rows ▸ h.revisits
  · rename_i hcommit
    obtain ⟨hcommits, hid⟩ := not_or.mp hcommit
    refine ⟨hstores.consistent, ?_, ?_, ?_, ?_, ?_⟩
    · rw [List.map_append]
      refine (hstores.rows ▸ h.ids).append (List.nodup_singleton _) ?_
      exact List.disjoint_singleton.mpr hid
    · simp [hstores.rows, h.rows]
    · intro entry hentry
      rcases List.mem_append.mp hentry with hold | hnew
      · exact h.digests entry hold
      · rw [List.mem_singleton.mp hnew]
        exact hdigest
    · intro row hrow hkind
      rw [hstores.rows] at hrow ⊢
      obtain ⟨original, horiginal, hfound⟩ : ∃ original ∈ state.storage.rows,
          original.isRevisit = false ∧ original.sha256 = row.sha256 := by
        rcases List.mem_append.mp hrow with hold | hnew
        · exact h.revisits row hold hkind
        · rw [List.mem_singleton.mp hnew] at hkind ⊢
          obtain ⟨found, hmem, hfound⟩ := hrevisit hkind
          cases hfoundKind : found.isRevisit with
          | false => exact ⟨found, hmem, hfoundKind, hfound.trans hdigest.symm⟩
          | true =>
              obtain ⟨original, horiginal, hresponds, heq⟩ := h.revisits found hmem hfoundKind
              exact ⟨original, horiginal, hresponds, heq.trans (hfound.trans hdigest.symm)⟩
      exact ⟨original, List.mem_append_left _ horiginal, hfound⟩
    · intro row hrow hkind
      rcases List.mem_append.mp hrow with hold | hnew
      · exact (hresponses row hold hkind).withRows _
      · rw [List.mem_singleton.mp hnew] at hkind ⊢
        have hnone := hresponse hkind
        have hmay := hjoin (Bool.not_eq_true _ ▸ hcommits) hnone
        exact ((hstores.response hnone).2.2 hmay answers.rowId).withRows _

theorem sound_step {action : Action} {next : Archival} (hkey : settings.s3AccessKey ≠ "")
    (h : Sound libraries state) (hadmits : Admits libraries database settings state action)
    (hstep : step libraries database settings state action = some next) :
    Sound libraries next := by
  cases Option.some.inj hstep
  cases action with
  | archive call answers => exact sound_archive hkey h hadmits
  | shutdownFlush filename now => exact sound_flush hkey h hadmits

theorem Sound.resolves (h : Sound libraries state) (database : Database) {row : WarcIndex}
    (hrow : row ∈ state.storage.rows) :
    ∃ target ∈ state.storage.rows, target.isRevisit = false ∧ target.sha256 = row.sha256 ∧
      resolveRevisit database state.storage.rows row = some target := by
  unfold resolveRevisit
  split
  · rename_i hrevisit
    obtain ⟨original, horiginal, hkind, hdigest⟩ := h.revisits row hrow hrevisit
    have hmem : original ∈ state.storage.rows.filter fun other =>
        other.sha256 = row.sha256 ∧ ¬ other.isRevisit := by
      simp [horiginal, hkind, hdigest]
    cases hpick : database.oldest.pick (state.storage.rows.filter fun other =>
        other.sha256 = row.sha256 ∧ ¬ other.isRevisit) with
    | none => exact absurd hpick (database.oldest.found (List.ne_nil_of_mem hmem))
    | some target =>
        have htarget := List.mem_filter.mp (database.oldest.mem hpick)
        obtain ⟨hsame, hresponse⟩ := of_decide_eq_true htarget.2
        exact ⟨target, htarget.1, by simpa using hresponse, hsame, rfl⟩
  · rename_i hresponse
    exact ⟨row, hrow, by simpa using hresponse, rfl, rfl⟩

theorem Sound.find (h : Sound libraries state) {row : WarcIndex}
    (hrow : row ∈ state.storage.rows) :
    state.storage.rows.find? (·.id = row.id) = some row := by
  cases hfind : state.storage.rows.find? (·.id = row.id) with
  | none => simpa using List.find?_eq_none.mp hfind row hrow
  | some found =>
      have hid : found.id = row.id := by simpa using List.find?_some hfind
      exact congrArg some
        (List.inj_on_of_nodup_map h.ids (List.mem_of_find?_eq_some hfind) hrow hid)

/-- A committed row of a flushed storage reads back. -/
theorem Sound.reads (h : Sound libraries state) (database : Database)
    (horder : libraries.YieldsInOrder)
    (hflushed : state.storage.writer.records = []) {row : WarcIndex}
    (hrow : row ∈ state.storage.rows) :
    ∃ response payload, getArchive libraries database state.storage row.id = .ok response ∧
      response.bodyB64 = base64 payload ∧ libraries.sha256 payload = row.sha256 := by
  obtain ⟨target, htarget, hkind, hdigest, hresolve⟩ := h.resolves database hrow
  cases h.responses target htarget hkind with
  | buffered _ hrecords _ =>
      rw [hflushed] at hrecords
      cases hrecords
  | uploaded _ hraw hreads =>
      obtain ⟨body, contentType, hextract, hbody⟩ :=
        extractBody_of_fileReads horder hraw hreads target.offset target.length
      unfold getArchive
      rw [h.find hrow]
      dsimp only
      rw [hresolve]
      dsimp only
      rw [hextract]
      exact ⟨_, body, rfl, rfl, hbody.trans hdigest⟩

end Steps

/-- Archive calls and flushes in any order, then a last flush: every committed row
answers with a payload of the digest of what was archived for it. -/
theorem archive_round_trip (libraries : Libraries) (database : Database) (settings : Settings)
    (horder : libraries.YieldsInOrder) (hkey : settings.s3AccessKey ≠ "")
    (first : String) (startedAt : Instant) (actions : List Action) (last : String)
    (flushedAt : Instant) (final : Archival)
    (hrun : run (step libraries database settings) (.start settings first startedAt)
      (actions ++ [.shutdownFlush last flushedAt]) = some final)
    (hadmits : Along (step libraries database settings) (Admits libraries database settings)
      (.start settings first startedAt) (actions ++ [.shutdownFlush last flushedAt])) :
    final.storage.rows = final.archived.map Prod.fst ∧
      ∀ entry ∈ final.archived, ∃ response payload,
        getArchive libraries database final.storage entry.1.id = .ok response ∧
        response.bodyB64 = base64 payload ∧
        libraries.sha256 payload = entry.1.sha256 ∧
        entry.1.sha256 = libraries.sha256 entry.2 := by
  have hsound : Sound libraries final :=
    run_invariant (fun _ _ _ => sound_step hkey) (sound_start first startedAt) hadmits hrun
  have hflushed : final.storage.writer.records = [] := by
    rw [run_append] at hrun
    obtain ⟨middle, -, hlast⟩ := Option.bind_eq_some_iff.mp hrun
    cases Option.some.inj hlast
    rfl
  refine ⟨hsound.rows, fun entry hentry => ?_⟩
  have hrow : entry.1 ∈ final.storage.rows := by
    rw [hsound.rows]
    exact List.mem_map_of_mem hentry
  obtain ⟨response, payload, hget, hbody, hdigest⟩ :=
    hsound.reads database horder hflushed hrow
  exact ⟨response, payload, hget, hbody, hdigest, hsound.digests entry hentry⟩

/-- One page, archived and flushed. -/
theorem archive_round_trip_page :
    ∃ final, run (step (framed digests) insertionOrder uploading)
        (.start uploading "warc/crawl-1" 0)
        [.archive (page "https://a.example/1" [97]) (answersFor 1 "warc/crawl-2"),
          .shutdownFlush "warc/crawl-2" 2] = some final ∧
      final.storage.rows = final.archived.map Prod.fst ∧
      ∀ entry ∈ final.archived, ∃ response payload,
        getArchive (framed digests) insertionOrder final.storage entry.1.id = .ok response ∧
        response.bodyB64 = base64 payload ∧
        digests payload = entry.1.sha256 ∧ entry.1.sha256 = digests entry.2 := by
  refine ⟨_, rfl, archive_round_trip (framed digests) insertionOrder uploading
    (framed_yieldsInOrder digests) (by decide) "warc/crawl-1" 0
    [.archive (page "https://a.example/1" [97]) (answersFor 1 "warc/crawl-2")] "warc/crawl-2" 2 _
    rfl ⟨⟨?_, ?_⟩, ?_⟩⟩
  · exact fun _ => ⟨rfl, by decide⟩
  · exact fun _ _ => ⟨[97], rfl, rfl⟩
  · intro next hnext
    obtain rfl := Option.some.inj hnext
    exact ⟨⟨by decide +kernel, by decide +kernel⟩, fun _ _ => trivial⟩

def twoPages : List Action := [
  .archive (page "https://a.example/1" [97]) (answersFor 1 "warc/crawl-2"),
  .archive (page "https://a.example/2" [98]) (answersFor 2 "warc/crawl-2"),
  .shutdownFlush "warc/crawl-2" 2]

def afterTwoPages : Archival :=
  twoPages.foldl (serve (framed digests) insertionOrder uploading)
    (.start uploading "warc/crawl-1" 0)

/-- Two pages in one file: the row of the second answers with the first. -/
theorem second_record_reads_first :
    (framed digests).YieldsInOrder ∧
      run (step (framed digests) insertionOrder uploading) (.start uploading "warc/crawl-1" 0)
        twoPages = some afterTwoPages ∧
      ¬ ∀ entry ∈ afterTwoPages.archived, ∃ response payload,
        getArchive (framed digests) insertionOrder afterTwoPages.storage entry.1.id =
          .ok response ∧
        response.bodyB64 = base64 payload ∧ digests payload = entry.1.sha256 := by
  refine ⟨framed_yieldsInOrder digests, rfl, fun h => ?_⟩
  have hentry : ∃ entry ∈ afterTwoPages.archived, entry.1.id = 2 ∧
      entry.1.sha256 = "3e23e8160039594a33894f6564e1b1348bbd7a0088d42c4acb73eeaed59c009d" := by
    decide +kernel
  have hread : (getArchive (framed digests) insertionOrder afterTwoPages.storage 2).map
      ArchiveContentResponse.bodyB64 = .ok "YQ==" := by
    decide +kernel
  obtain ⟨entry, hmem, hid, hsha⟩ := hentry
  obtain ⟨response, payload, hget, hbody, hdigest⟩ := h entry hmem
  rw [hid] at hget
  rw [hget] at hread
  have hfirst : base64 payload = "YQ==" := hbody.symm.trans (Except.ok.inj hread)
  have hsecond : payload = [98] := by
    rw [hsha] at hdigest
    unfold digests at hdigest
    split at hdigest
    · exact absurd hdigest (by decide)
    · split at hdigest
      · assumption
      · exact absurd hdigest (by decide)
  rw [hsecond] at hfirst
  exact absurd hfirst (by decide)

end CrawlerApi.Warc
