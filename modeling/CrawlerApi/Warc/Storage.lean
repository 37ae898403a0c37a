import CrawlerApi.Warc.Writer

/-!
# The WARC storage

Deduplication, the pieces of an archive call between its awaits, and the call as
a whole when nothing comes between them.  The bucket and the index table are the
ones of the deployment; every upload succeeds.
-/

namespace CrawlerApi.Warc

open Keys Fetch

structure Settings where
  s3AccessKey : String := ""
  warcMaxSizeBytes : Nat := 1000000000
  warcMaxAgeS : Int := 3600
  warcForceRotateEachWrite : Bool := false

structure WarcIndex where
  id : Uuid
  requestLogId : Option Uuid
  url : String
  warcFilename : String
  offset : Nat
  length : Nat
  sha256 : String
  isRevisit : Bool := false
  contentType : Option String
  statusCode : Option Int
  capturedAt : Instant
deriving DecidableEq, Repr

/-- `ORDER BY captured_at ... LIMIT 1`, with the ties broken as the database likes. -/
structure FirstRow (before : Instant → Instant → Prop) where
  pick : List WarcIndex → Option WarcIndex
  mem : pick rows = some row → row ∈ rows
  first : pick rows = some row → ∀ other ∈ rows, before row.capturedAt other.capturedAt
  found : rows ≠ [] → pick rows ≠ none

structure Database where
  oldest : FirstRow (· ≤ ·)
  latest : FirstRow (· ≥ ·)

def WarcWriter.start (settings : Settings) (filename : String) (now : Instant) : WarcWriter where
  filename := filename
  maxSizeBytes := settings.warcMaxSizeBytes
  maxAgeS := settings.warcMaxAgeS
  createdAt := now

structure Storage where
  writer : WarcWriter
  objects : String → Option Bytes
  rows : List WarcIndex

/-- The arguments of `archive`. -/
structure ArchiveCall where
  fetchResult : FetchResult
  requestLogId : Option Uuid := none
  warcBody : Option Bytes := none

def ArchiveCall.body (call : ArchiveCall) : Bytes := call.warcBody.getD call.fetchResult.body

def ArchiveCall.contentType (call : ArchiveCall) : String :=
  (call.fetchResult.headers.get "content-type").getD "application/octet-stream"

/-- What `archive` keeps from the write for the index: the record and its file. -/
structure Written where
  call : ArchiveCall
  record : WarcRecord
  filename : String

namespace Storage

variable (libraries : Libraries) (database : Database) (settings : Settings)

def checkDuplicate (storage : Storage) (call : ArchiveCall) : Option WarcIndex :=
  database.latest.pick <| storage.rows.filter fun row =>
    row.sha256 = libraries.sha256 call.body ∧ row.url = call.fetchResult.url

def write (storage : Storage) (call : ArchiveCall) (existing : Option WarcIndex) (now : Instant)
    (recordId : String) : Written × Storage :=
  let written := match existing with
    | some row => storage.writer.writeRevisit libraries call.fetchResult.url row.warcFilename
        row.sha256 now recordId
    | none => storage.writer.writeResponse libraries call.fetchResult.url
        call.fetchResult.statusCode call.fetchResult.headers call.body call.contentType now recordId
  (⟨call, written.1, written.2.filename⟩, { storage with writer := written.2 })

def putObject (storage : Storage) (key : String) (body : Bytes) : Storage :=
  { storage with
    objects := fun name => if name = key then some body else storage.objects name }

def resetWriter (storage : Storage) (filename : String) (now : Instant) : Storage :=
  { storage with writer := .start settings filename now }

/-- `_rotate` with nothing between its awaits. -/
def rotate (storage : Storage) (filename : String) (now : Instant) : Storage :=
  let uploaded :=
    if settings.s3AccessKey ≠ "" then
      storage.putObject storage.writer.filename storage.writer.buffer
    else storage
  uploaded.resetWriter settings filename now

end Storage

def Written.row (written : Written) (id : Uuid) : WarcIndex where
  id := id
  requestLogId := written.call.requestLogId
  url := written.record.targetUri
  warcFilename := written.filename
  offset := written.record.offset
  length := written.record.length
  sha256 := written.record.sha256
  isRevisit := written.record.warcType = .revisit
  contentType := some written.call.contentType
  statusCode := some written.call.fetchResult.statusCode
  capturedAt := written.record.date

structure Answers where
  lookupFails : Bool := false
  writtenAt : Instant
  recordId : String
  checkedAt : Instant
  filename : String
  createdAt : Instant
  rowId : Uuid
  commitFails : Bool := false

namespace Storage

variable (libraries : Libraries) (database : Database) (settings : Settings)

def indexRecord (storage : Storage) (row : WarcIndex) (fails : Bool) : Storage × Option WarcIndex :=
  if fails ∨ row.id ∈ storage.rows.map WarcIndex.id then (storage, none)
  else ({ storage with rows := storage.rows ++ [row] }, some row)

def lookup (storage : Storage) (call : ArchiveCall) (fails : Bool) : Option WarcIndex :=
  if fails then none else storage.checkDuplicate libraries database call

def rotates (written : Storage) (now : Instant) : Bool :=
  written.writer.needsRotation settings.warcForceRotateEachWrite now

/-- The write, and the rotation when it is due. -/
def store (storage : Storage) (call : ArchiveCall) (existing : Option WarcIndex)
    (answers : Answers) : Written × Storage :=
  let written := storage.write libraries call existing answers.writtenAt answers.recordId
  if written.2.rotates settings answers.checkedAt then
    (written.1, written.2.rotate settings answers.filename answers.createdAt)
  else written

/-- `archive` with nothing between its awaits, and the row it committed. -/
def archive (storage : Storage) (call : ArchiveCall) (answers : Answers) :
    Storage × Option WarcIndex :=
  let existing := storage.lookup libraries database call answers.lookupFails
  let stored := storage.store libraries settings call existing answers
  stored.2.indexRecord (stored.1.row answers.rowId) answers.commitFails

def shutdownFlush (storage : Storage) (filename : String) (now : Instant) : Storage :=
  storage.rotate settings filename now

section Facts

variable {libraries database settings}

theorem lookup_eq_some {storage : Storage} {call : ArchiveCall} {fails : Bool} {found : WarcIndex}
    (h : storage.lookup libraries database call fails = some found) :
    found ∈ storage.rows ∧ found.sha256 = libraries.sha256 call.body := by
  unfold lookup at h
  split at h
  · cases h
  · have hmem := List.mem_filter.mp (database.latest.mem h)
    exact ⟨hmem.1, (of_decide_eq_true hmem.2).1⟩

@[simp] theorem rows_rotate (storage : Storage) (filename : String) (now : Instant) :
    (storage.rotate settings filename now).rows = storage.rows := by
  unfold rotate
  dsimp only
  split <;> rfl

theorem write_cases (storage : Storage) (call : ArchiveCall) (existing : Option WarcIndex)
    (now : Instant) (recordId : String) :
    ∃ built record, Describes record built ∧ record.offset = storage.writer.buffer.length ∧
      record.length = (libraries.encode built).length ∧
      storage.write libraries call existing now recordId =
        (⟨call, record, storage.writer.filename⟩,
          { storage with writer := storage.writer.append libraries built record }) ∧
      match existing with
      | none => record.warcType = .response ∧ record.headers = call.fetchResult.headers ∧
          record.payload = call.body ∧ record.sha256 = libraries.sha256 call.body
      | some row => record.warcType = .revisit ∧ record.sha256 = row.sha256 := by
  cases existing with
  | none =>
      refine ⟨_, _, ?_, ?_, ?_, rfl, rfl, rfl, rfl, rfl⟩
      · exact ⟨rfl, rfl, rfl⟩
      · rfl
      · rfl
  | some row =>
      refine ⟨_, _, ?_, ?_, ?_, rfl, rfl, rfl⟩
      · rfl
      · rfl
      · rfl

end Facts

end Storage

def Fresh (storage : Storage) (filename : String) : Prop :=
  storage.objects filename = none ∧ filename ≠ storage.writer.filename

end CrawlerApi.Warc
