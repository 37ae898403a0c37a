import CrawlerApi.Foundation.Run
import CrawlerApi.Foundation.Session
import CrawlerApi.Warc.Framed

/-!
# Failing uploads

A rotation whose upload fails drops the file and goes on, and the rows of the file stay
in the index.  What a row names is held somewhere in every run in which no payload is
dropped with the only file that holds it.
-/

namespace CrawlerApi.Warc

open Keys Fetch Foundation

namespace Storage

variable (libraries : Libraries) (database : Database) (settings : Settings)

def uploadFile (storage : Storage) : Storage :=
  storage.putObject storage.writer.filename storage.writer.buffer

theorem objects_uploadFile (storage : Storage) :
    storage.uploadFile.objects storage.writer.filename = some storage.writer.buffer := if_pos rfl

theorem objects_uploadFile_of_ne {storage : Storage} {name : String}
    (h : name ≠ storage.writer.filename) :
    storage.uploadFile.objects name = storage.objects name := if_neg h

/-- `_rotate` around what its upload does; a cancellation passes its handler. -/
def rotateUnder (storage : Storage) (upload : Delivery Exn) (filename : String) (now : Instant) :
    Storage × Except Exn Unit :=
  if settings.s3AccessKey ≠ "" then
    let attempted := upload.effect uploadFile storage
    match upload with
    | .raises .cancelled _ => (attempted, .error .cancelled)
    | _ => (attempted.resetWriter settings filename now, .ok ())
  else (storage.resetWriter settings filename now, .ok ())

/-- `archive` around what the upload of its rotation does, and the row it committed. -/
def archiveUnder (storage : Storage) (call : ArchiveCall) (answers : Answers)
    (upload : Delivery Exn) : Storage × Option WarcIndex :=
  let existing := storage.lookup libraries database call answers.lookupFails
  let written := storage.write libraries call existing answers.writtenAt answers.recordId
  let rotated :=
    if written.2.rotates settings answers.checkedAt then
      written.2.rotateUnder settings upload answers.filename answers.createdAt
    else (written.2, .ok ())
  match rotated.2 with
  | .error _ => (rotated.1, none)
  | .ok () => rotated.1.indexRecord (written.1.row answers.rowId) answers.commitFails

section Facts

variable {libraries database settings} {storage : Storage} {upload : Delivery Exn}
  {filename : String} {now : Instant}

theorem rotateUnder_completes : storage.rotateUnder settings .completes filename now =
    (storage.rotate settings filename now, .ok ()) := by
  unfold rotateUnder rotate
  split
  · rfl
  · rfl

theorem archiveUnder_completes (storage : Storage) (call : ArchiveCall) (answers : Answers) :
    storage.archiveUnder libraries database settings call answers .completes =
      storage.archive libraries database settings call answers := by
  unfold archiveUnder archive store
  dsimp only
  generalize storage.write libraries call
    (storage.lookup libraries database call answers.lookupFails) answers.writtenAt
    answers.recordId = written
  cases written.2.rotates settings answers.checkedAt with
  | true =>
      rw [if_pos rfl, rotateUnder_completes]
      rfl
  | false => rfl

theorem filename_write (storage : Storage) (call : ArchiveCall) (existing : Option WarcIndex)
    (now : Instant) (recordId : String) :
    (storage.write libraries call existing now recordId).2.writer.filename =
      storage.writer.filename := by
  cases existing with
  | none => rfl
  | some row => rfl

theorem rotates_of_age {written : Storage}
    (h : written.writer.maxAgeS ≤ now - written.writer.createdAt) :
    written.rotates settings now = true := by
  simp [rotates, WarcWriter.needsRotation, h]

theorem archiveUnder_of_due (hkey : settings.s3AccessKey ≠ "") (call : ArchiveCall)
    (answers : Answers) (hupload : upload.outcome ≠ .error .cancelled)
    (hdue : (storage.write libraries call
      (storage.lookup libraries database call answers.lookupFails) answers.writtenAt
      answers.recordId).2.rotates settings answers.checkedAt = true) :
    storage.archiveUnder libraries database settings call answers upload =
      let written := storage.write libraries call
        (storage.lookup libraries database call answers.lookupFails) answers.writtenAt
        answers.recordId
      ((upload.effect uploadFile written.2).resetWriter settings answers.filename
        answers.createdAt).indexRecord (written.1.row answers.rowId) answers.commitFails := by
  unfold archiveUnder rotateUnder
  dsimp only
  rw [if_pos hdue, if_pos hkey]
  cases upload with
  | completes => rfl
  | raises exn applied =>
      cases exn with
      | cancelled => exact absurd rfl hupload
      | fetchError message statusCode blocked => rfl
      | proxyPoolUnavailable detail => rfl
      | proxyPoolExhausted detail => rfl
      | exception message => rfl

end Facts

def Uploads (upload : Delivery Exn) : Prop := settings.s3AccessKey ≠ "" ∧ upload.Applied

def Discards (upload : Delivery Exn) : Prop :=
  settings.s3AccessKey = "" ∨ ¬ upload.Applied ∧ upload.outcome ≠ .error .cancelled

inductive RotateEnds (storage : Storage) (upload : Delivery Exn) (filename : String)
    (now : Instant) : Storage → Prop where
  | uploaded : Uploads settings upload →
      RotateEnds storage upload filename now (storage.uploadFile.resetWriter settings filename now)
  | interrupted : Uploads settings upload →
      RotateEnds storage upload filename now storage.uploadFile
  | untouched : RotateEnds storage upload filename now storage
  | discarded : Discards settings upload →
      RotateEnds storage upload filename now (storage.resetWriter settings filename now)

theorem rotateUnder_ends (storage : Storage) (upload : Delivery Exn) (filename : String)
    (now : Instant) : RotateEnds settings storage upload filename now
      (storage.rotateUnder settings upload filename now).1 := by
  unfold rotateUnder
  split
  · rename_i hkey
    cases upload with
    | completes => exact .uploaded ⟨hkey, trivial⟩
    | raises exn applied =>
        cases applied with
        | true =>
            dsimp only
            split
            · exact .interrupted ⟨hkey, rfl⟩
            · exact .uploaded ⟨hkey, rfl⟩
        | false =>
            dsimp only
            split
            · exact .untouched
            · rename_i hcancelled
              refine .discarded (.inr ⟨Bool.false_ne_true, fun heq => ?_⟩)
              cases heq
              exact hcancelled false rfl
  · rename_i hkey
    exact .discarded (.inl (not_not.mp hkey))

theorem RotateEnds.rows {storage after : Storage} {upload : Delivery Exn} {filename : String}
    {now : Instant} (h : RotateEnds settings storage upload filename now after) :
    after.rows = storage.rows := by
  cases h with
  | uploaded _ => rfl
  | interrupted _ => rfl
  | untouched => rfl
  | discarded _ => rfl

theorem RotateEnds.filename {storage after : Storage} {upload : Delivery Exn} {filename : String}
    {now : Instant} (h : RotateEnds settings storage upload filename now after) :
    after.writer.filename = storage.writer.filename ∨ after.writer.filename = filename := by
  cases h with
  | uploaded _ => exact .inr rfl
  | interrupted _ => exact .inl rfl
  | untouched => exact .inl rfl
  | discarded _ => exact .inr rfl

end Storage

/-- The storage and the entries of the dead-letter queue, which no rotation adds to. -/
structure Depot where
  storage : Storage
  deadLetters : List (String × Bytes) := []

namespace Depot

inductive Action where
  | archive (call : ArchiveCall) (answers : Answers) (upload : Delivery Exn)
  | shutdownFlush (upload : Delivery Exn) (filename : String) (now : Instant)

section System

variable (libraries : Libraries) (database : Database) (settings : Settings)

def start (filename : String) (now : Instant) : Depot where
  storage := {
    writer := .start settings filename now
    objects := fun _ => none
    rows := [] }

def serve (depot : Depot) : Action → Depot
  | .archive call answers upload =>
      { depot with
        storage := (depot.storage.archiveUnder libraries database settings call answers upload).1 }
  | .shutdownFlush upload filename now =>
      { depot with storage := (depot.storage.rotateUnder settings upload filename now).1 }

def step (depot : Depot) (action : Action) : Option Depot :=
  some (depot.serve libraries database settings action)

/-- A file with a response whose payload has the digest. -/
def Holds (digest : String) (raw : Bytes) : Prop :=
  ∃ builts : List BuiltRecord, raw = builts.flatMap libraries.encode ∧
    ∃ uri payload statusLine headers warcHeaders,
      .response uri payload statusLine headers warcHeaders ∈ builts ∧
        libraries.sha256 payload = digest

def Stored (digest : String) (depot : Depot) : Prop :=
  (∃ name raw, depot.storage.objects name = some raw ∧ Holds libraries digest raw) ∨
    ∃ entry ∈ depot.deadLetters, Holds libraries digest entry.2

def Held (digest : String) (depot : Depot) : Prop :=
  Holds libraries digest depot.storage.writer.buffer ∨ Stored libraries digest depot

/-- The row of a revisit is committed for a payload that is held. -/
def RevisitHeld (depot : Depot) : Action → Prop
  | .archive call answers upload =>
      ∀ row, (depot.storage.archiveUnder libraries database settings call answers upload).2 =
          some row → row.isRevisit = true →
        Held libraries row.sha256
          (depot.serve libraries database settings (.archive call answers upload))
  | .shutdownFlush .. => True

/-- A rotation drops no payload: the upload replaces no object with a payload its file does
not hold, and a file that is discarded holds nothing that is not stored. -/
structure Spares (upload : Delivery Exn) (depot : Depot) : Prop where
  replaced : Storage.Uploads settings upload → ∀ digest raw,
    depot.storage.objects depot.storage.writer.filename = some raw → Holds libraries digest raw →
      Holds libraries digest depot.storage.writer.buffer
  discarded : Storage.Discards settings upload → ∀ digest,
    Holds libraries digest depot.storage.writer.buffer → Stored libraries digest depot

/-- The rotation of the step, if one is due, drops no payload. -/
def DropsNothing (depot : Depot) : Action → Prop
  | .archive call answers upload =>
      let written := depot.storage.write libraries call
        (depot.storage.lookup libraries database call answers.lookupFails) answers.writtenAt
        answers.recordId
      written.2.rotates settings answers.checkedAt = true →
        Spares libraries settings upload { depot with storage := written.2 }
  | .shutdownFlush upload _ _ => Spares libraries settings upload depot

end System

structure Sound (libraries : Libraries) (depot : Depot) : Prop where
  framed : ∃ builts : List BuiltRecord,
    depot.storage.writer.buffer = builts.flatMap libraries.encode
  held : ∀ row ∈ depot.storage.rows, Held libraries row.sha256 depot

section Steps

variable {libraries : Libraries} {database : Database} {settings : Settings} {depot : Depot}
  {digest filename : String} {now : Instant} {upload : Delivery Exn} {after : Storage}

theorem Holds.append {raw : Bytes} (h : Holds libraries digest raw) (built : BuiltRecord) :
    Holds libraries digest (raw ++ libraries.encode built) := by
  obtain ⟨builts, rfl, uri, payload, statusLine, headers, warcHeaders, hmem, hdigest⟩ := h
  refine ⟨builts ++ [built], by simp, uri, payload, statusLine, headers, warcHeaders, ?_, hdigest⟩
  exact List.mem_append_left _ hmem

theorem Held.write (h : Held libraries digest depot) (built : BuiltRecord) (record : WarcRecord) :
    Held libraries digest { depot with
      storage.writer := depot.storage.writer.append libraries built record } := by
  rcases h with hbuffer | hstored
  · exact .inl (hbuffer.append built)
  · exact .inr hstored

theorem sound_start (filename : String) (now : Instant) :
    Sound libraries (start settings filename now) where
  framed := ⟨[], rfl⟩
  held := nofun

theorem Sound.write (h : Sound libraries depot) (database : Database) (call : ArchiveCall)
    (fails : Bool) (now : Instant) (recordId : String) :
    let written := depot.storage.write libraries call
      (depot.storage.lookup libraries database call fails) now recordId
    Sound libraries { depot with storage := written.2 } ∧
      Held libraries written.1.record.sha256 { depot with storage := written.2 } := by
  obtain ⟨built, record, hdescribes, -, -, hwrite, hrecord⟩ := depot.storage.write_cases call
    (depot.storage.lookup libraries database call fails) now recordId
  obtain ⟨builts, hbuffer⟩ := h.framed
  dsimp only
  rw [hwrite]
  refine ⟨⟨⟨builts ++ [built], ?_⟩, fun row hrow => (h.held row hrow).write built record⟩, ?_⟩
  · simp [hbuffer]
  · cases hlookup : depot.storage.lookup libraries database call fails with
    | none =>
        rw [hlookup] at hrecord
        obtain ⟨htype, -, hpayload, hdigest⟩ := hrecord
        cases built with
        | response uri payload statusLine headers warcHeaders =>
            refine .inl ⟨builts ++ [_], ?_, uri, payload, statusLine, headers, warcHeaders,
              List.mem_append_right _ (List.mem_singleton.mpr rfl), ?_⟩
            · simp [hbuffer]
            · rw [hdigest, ← hpayload, hdescribes.2.1]
        | revisit uri digest refersToUri refersToDate warcHeaders =>
            cases htype.symm.trans hdescribes
    | some found =>
        rw [hlookup] at hrecord
        have hheld := h.held found (Storage.lookup_eq_some hlookup).1
        exact hrecord.2 ▸ hheld.write built record

theorem Spares.stored (h : Spares libraries settings upload depot)
    (huploads : Storage.Uploads settings upload) (hheld : Held libraries digest depot) :
    Stored libraries digest { depot with storage := depot.storage.uploadFile } := by
  have hobject := depot.storage.objects_uploadFile
  rcases hheld with hbuffer | ⟨name, raw, hraw, hholds⟩ | hletter
  · exact .inl ⟨_, _, hobject, hbuffer⟩
  · by_cases hname : name = depot.storage.writer.filename
    · exact .inl ⟨_, _, hobject, h.replaced huploads digest raw (hname ▸ hraw) hholds⟩
    · exact .inl ⟨name, raw, (Storage.objects_uploadFile_of_ne hname).trans hraw, hholds⟩
  · exact .inr hletter

/-- A rotation that spares every payload leaves each of them held. -/
theorem Spares.held (h : Spares libraries settings upload depot)
    (hends : depot.storage.RotateEnds settings upload filename now after)
    (hheld : Held libraries digest depot) :
    Held libraries digest { depot with storage := after } := by
  cases hends with
  | uploaded huploads => exact .inr (h.stored huploads hheld)
  | interrupted huploads => exact .inr (h.stored huploads hheld)
  | untouched => exact hheld
  | discarded hdiscards =>
      rcases hheld with hbuffer | hstored
      · exact .inr (h.discarded hdiscards digest hbuffer)
      · exact .inr hstored

theorem Sound.rotate (h : Sound libraries depot) (hspares : Spares libraries settings upload depot)
    (hends : depot.storage.RotateEnds settings upload filename now after) :
    Sound libraries { depot with storage := after } := by
  refine ⟨?_, fun row hrow => hspares.held hends (h.held row (hends.rows ▸ hrow))⟩
  cases hends with
  | uploaded _ => exact ⟨[], rfl⟩
  | interrupted _ => exact h.framed
  | untouched => exact h.framed
  | discarded _ => exact ⟨[], rfl⟩

/-- What a call leaves: the storage behind its rotation, with the row it committed or
without one. -/
inductive Archives (rotated : Storage) (record : WarcRecord) :
    Storage × Option WarcIndex → Prop where
  | lost : Archives rotated record (rotated, none)
  | committed {row : WarcIndex} : row.sha256 = record.sha256 →
      Archives rotated record ({ rotated with rows := rotated.rows ++ [row] }, some row)

theorem archives_indexRecord (rotated : Storage) (written : Written) (id : Uuid) (fails : Bool) :
    Archives rotated written.record (rotated.indexRecord (written.row id) fails) := by
  unfold Storage.indexRecord
  split
  · exact .lost
  · exact .committed rfl

theorem archives_archiveUnder (h : Sound libraries depot) {call : ArchiveCall}
    {answers : Answers}
    (hsaves : DropsNothing libraries database settings depot (.archive call answers upload)) :
    ∃ (rotated : Storage) (record : WarcRecord),
      Sound libraries { depot with storage := rotated } ∧
      Held libraries record.sha256 { depot with storage := rotated } ∧
      Archives rotated record
        (depot.storage.archiveUnder libraries database settings call answers upload) := by
  obtain ⟨hwrite, hrecord⟩ := h.write database call answers.lookupFails answers.writtenAt
    answers.recordId
  unfold Storage.archiveUnder
  unfold DropsNothing at hsaves
  dsimp only at hsaves hwrite hrecord ⊢
  generalize depot.storage.write libraries call
    (depot.storage.lookup libraries database call answers.lookupFails) answers.writtenAt
    answers.recordId = written at *
  by_cases hdue : written.2.rotates settings answers.checkedAt = true
  · have hspares := hsaves hdue
    have hends := written.2.rotateUnder_ends settings upload answers.filename answers.createdAt
    rw [if_pos hdue]
    refine ⟨_, written.1.record, hwrite.rotate hspares hends, hspares.held hends hrecord, ?_⟩
    split
    · exact .lost
    · exact archives_indexRecord _ written.1 answers.rowId answers.commitFails
  · rw [if_neg hdue]
    exact ⟨written.2, written.1.record, hwrite, hrecord,
      archives_indexRecord _ written.1 answers.rowId answers.commitFails⟩

theorem Archives.mem {rotated : Storage} {record : WarcRecord}
    {result : Storage × Option WarcIndex} {row : WarcIndex} (h : Archives rotated record result)
    (hrow : result.2 = some row) : row ∈ result.1.rows := by
  cases h with
  | lost => cases hrow
  | committed _ =>
      cases hrow
      exact List.mem_append_right _ (List.mem_singleton.mpr rfl)

theorem Archives.sound {rotated : Storage} {record : WarcRecord}
    {result : Storage × Option WarcIndex} (h : Archives rotated record result)
    (hsound : Sound libraries { depot with storage := rotated })
    (hrecord : Held libraries record.sha256 { depot with storage := rotated }) :
    Sound libraries { depot with storage := result.1 } := by
  cases h with
  | lost => exact hsound
  | committed hdigest =>
      refine ⟨hsound.framed, fun row hrow => ?_⟩
      rcases List.mem_append.mp hrow with hold | hnew
      · exact hsound.held row hold
      · rw [List.mem_singleton.mp hnew, hdigest]
        exact hrecord

theorem sound_serve {action : Action} (h : Sound libraries depot)
    (hsaves : DropsNothing libraries database settings depot action) :
    Sound libraries (depot.serve libraries database settings action) := by
  cases action with
  | archive call answers upload =>
      obtain ⟨rotated, record, hsound, hrecord, harchives⟩ := archives_archiveUnder h hsaves
      exact harchives.sound hsound hrecord
  | shutdownFlush upload filename now =>
      exact h.rotate hsaves (depot.storage.rotateUnder_ends settings upload filename now)

theorem revisitHeld_of_sound {action : Action} (h : Sound libraries depot)
    (hsaves : DropsNothing libraries database settings depot action) :
    RevisitHeld libraries database settings depot action := by
  cases action with
  | archive call answers upload =>
      intro row hrow _
      obtain ⟨rotated, record, -, -, harchives⟩ := archives_archiveUnder h hsaves
      exact (sound_serve h hsaves).held row (harchives.mem hrow)
  | shutdownFlush upload filename now => trivial

/-- Calls and flushes in any order with any uploads failing: as long as no rotation drops a
payload, every revisit is committed for a payload that is held. -/
theorem revisits_held {actions : List Action}
    (hsaves : Along (step libraries database settings) (DropsNothing libraries database settings)
      (start settings filename now) actions) :
    Along (step libraries database settings) (RevisitHeld libraries database settings)
      (start settings filename now) actions := by
  have hstep : ∀ (depot : Depot) (action : Action) (next : Depot), Sound libraries depot →
      DropsNothing libraries database settings depot action →
      step libraries database settings depot action = some next → Sound libraries next := by
    intro depot action next h hguard hnext
    cases hnext
    exact sound_serve h hguard
  have hheld : ∀ (depot : Depot) (action : Action), Sound libraries depot →
      DropsNothing libraries database settings depot action →
      RevisitHeld libraries database settings depot action :=
    fun depot action h hguard => revisitHeld_of_sound h hguard
  exact Along.of_invariant hstep hheld (sound_start filename now) hsaves

theorem Holds.mem {builts : List BuiltRecord} (horder : libraries.YieldsInOrder)
    (h : Holds libraries digest (builts.flatMap libraries.encode)) :
    ∃ uri payload statusLine headers warcHeaders,
      .response uri payload statusLine headers warcHeaders ∈ builts ∧
        libraries.sha256 payload = digest := by
  obtain ⟨written, heq, hmem⟩ := h
  have hsame : builts.map Except.ok = written.map (Except.ok (ε := String)) := by
    rw [← horder, ← horder, heq]
  rwa [List.map_injective_iff.mpr (fun _ _ => Except.ok.inj) hsame]

end Steps

/-! A page is captured twice, each time in a file that is due. -/

def capture (rowId : Uuid) (filename : String) (now : Instant) (upload : Delivery Exn) : Action :=
  .archive (page "https://a.example/1" [97])
    { answersFor rowId filename with writtenAt := now, checkedAt := now, createdAt := now } upload

def afterCapture (upload : Delivery Exn) : Depot :=
  (start uploading "warc/crawl-1" 0).serve (framed digests) insertionOrder uploading
    (capture 1 "warc/crawl-2" 3600 upload)

def firstWrite : Written × Storage :=
  (start uploading "warc/crawl-1" 0).storage.write (framed digests)
    (page "https://a.example/1" [97]) none 3600 "<urn:uuid:0>"

theorem afterCapture_eq (hupload : upload.outcome ≠ .error .cancelled) :
    (afterCapture upload).storage = {
      writer := .start uploading "warc/crawl-2" 3600
      objects := (upload.effect Storage.uploadFile firstWrite.2).objects
      rows := [firstWrite.1.row 1] } := by
  unfold afterCapture capture serve
  dsimp only
  rw [Storage.archiveUnder_of_due (by decide) _ _ hupload (Storage.rotates_of_age (by decide))]
  have hrows : (upload.effect Storage.uploadFile firstWrite.2).rows = [] := by
    cases upload with
    | completes => rfl
    | raises exn applied => cases applied <;> rfl
  have hindexed : ∀ storage : Storage, storage.rows = [] →
      (storage.indexRecord (firstWrite.1.row 1) false).1 =
        { storage with rows := [firstWrite.1.row 1] } := by
    intro storage hempty
    rw [Storage.indexRecord, hempty]
    rfl
  exact hindexed _ hrows

theorem revisits_held_page :
    Along (step (framed digests) insertionOrder uploading)
      (RevisitHeld (framed digests) insertionOrder uploading) (start uploading "warc/crawl-1" 0)
      [capture 1 "warc/crawl-2" 3600 .completes, capture 2 "warc/crawl-3" 7200 .completes] := by
  have hfirst : step (framed digests) insertionOrder uploading (start uploading "warc/crawl-1" 0)
      (capture 1 "warc/crawl-2" 3600 .completes) = some (afterCapture .completes) := rfl
  have hkept : ¬ Storage.Discards uploading .completes := by
    rintro (hkey | hupload)
    · exact absurd hkey (by decide)
    · exact hupload.1 trivial
  refine revisits_held (.cons hfirst ?_ (.cons rfl ?_ trivial))
  · refine fun _ => ⟨fun _ digest raw hraw => ?_, fun hdiscards => absurd hdiscards hkept⟩
    cases hraw
  · refine fun _ => ⟨fun _ digest raw hraw => ?_, fun hdiscards => absurd hdiscards hkept⟩
    dsimp only at hraw
    rw [Storage.filename_write, afterCapture_eq (fun h => by cases h)] at hraw
    have hother : firstWrite.2.uploadFile.objects "warc/crawl-2" = none :=
      Storage.objects_uploadFile_of_ne (by decide)
    cases hraw.symm.trans hother

/-! Where the first upload fails, the second row is a revisit of nothing. -/

def down : Delivery Exn := .raises (.exception "S3 is down") false

theorem down_ne_cancelled : down.outcome ≠ .error .cancelled := fun h => by cases h

theorem lookup_afterCapture : (afterCapture down).storage.lookup (framed digests) insertionOrder
    (page "https://a.example/1" [97]) false = some (firstWrite.1.row 1) := by
  have hfilter : [firstWrite.1.row 1].filter (fun row => decide (row.sha256 = digests [97] ∧
      row.url = "https://a.example/1")) = [firstWrite.1.row 1] := by
    rw [List.filter_eq_self]
    intro row hrow
    rw [List.mem_singleton.mp hrow]
    exact decide_eq_true ⟨rfl, rfl⟩
  rw [afterCapture_eq down_ne_cancelled]
  exact congrArg insertionOrder.latest.pick hfilter

theorem failed_upload_leaves_revisit : (framed digests).YieldsInOrder ∧
    ¬ ∀ actions, Along (step (framed digests) insertionOrder uploading)
      (RevisitHeld (framed digests) insertionOrder uploading) (start uploading "warc/crawl-1" 0)
      actions := by
  refine ⟨framed_yieldsInOrder digests, fun h => ?_⟩
  have hlast := ((h [capture 1 "warc/crawl-2" 3600 down, capture 2 "warc/crawl-3" 7200 down]).2
    (afterCapture down) rfl).1
  unfold RevisitHeld capture serve at hlast
  dsimp only at hlast
  rw [Storage.archiveUnder_of_due (by decide) _ _ down_ne_cancelled
    (Storage.rotates_of_age (by rw [afterCapture_eq down_ne_cancelled]; decide))] at hlast
  have hlookup : (afterCapture down).storage.lookup (framed digests) insertionOrder
    (page "https://a.example/1" [97]) (answersFor 2 "warc/crawl-3").lookupFails = _ :=
    lookup_afterCapture
  dsimp only at hlast
  rw [hlookup, afterCapture_eq down_ne_cancelled] at hlast
  rcases hlast _ rfl rfl with hbuffer | ⟨name, raw, hraw, -⟩ | ⟨entry, hentry, -⟩
  · have hempty : Holds (framed digests) _
        (([] : List BuiltRecord).flatMap (framed digests).encode) := hbuffer
    obtain ⟨uri, payload, statusLine, headers, warcHeaders, hmem, -⟩ :=
      hempty.mem (framed_yieldsInOrder digests)
    exact absurd hmem List.not_mem_nil
  · cases hraw
  · exact absurd hentry List.not_mem_nil

end Depot

end CrawlerApi.Warc
