import CrawlerApi.Warc.Revisits

/-!
# What a run shows

Of each step the row it committed, what it passed to `put_object` and the name of the
file it began.
-/

namespace CrawlerApi.Warc

open Keys Fetch Foundation

/-- A call of `put_object`, and what became of it. -/
structure Put where
  key : String
  body : Bytes
  outcome : Except Exn Unit

structure Traced where
  row : Option WarcIndex := none
  put : Option Put := none
  opened : Option String := none

namespace Storage

variable (settings : Settings)

/-- What is seen of `_rotate`. -/
def rotationTraced (storage : Storage) (upload : Delivery Exn) (filename : String)
    (now : Instant) : Traced where
  put :=
    if settings.s3AccessKey ≠ "" then
      some ⟨storage.writer.filename, storage.writer.buffer, upload.outcome⟩
    else none
  opened :=
    if (storage.rotateUnder settings upload filename now).2.isOk then some filename else none

/-- A rotation begins the new file, or was cancelled and goes on with the old one. -/
inductive Rotated (storage : Storage) (upload : Delivery Exn) (filename : String)
    (now : Instant) : Storage × Except Exn Unit → Traced → Prop where
  | renewed (objects : String → Option Bytes) (put : Option Put) :
      (∀ sent ∈ put, sent.key = storage.writer.filename ∧ sent.body = storage.writer.buffer ∧
        sent.outcome ≠ .error .cancelled) →
      Rotated storage upload filename now
        ({ writer := .start settings filename now, objects := objects, rows := storage.rows },
          .ok ())
        { put := put, opened := some filename }
  | cancelled (objects : String → Option Bytes) :
      upload.outcome = .error .cancelled →
      Rotated storage upload filename now
        ({ storage with objects := objects }, .error .cancelled)
        { put := some ⟨storage.writer.filename, storage.writer.buffer, .error .cancelled⟩ }

section Facts

variable {settings} {storage : Storage} {upload : Delivery Exn} {filename : String} {now : Instant}

theorem rows_effect_uploadFile :
    (upload.effect uploadFile storage).rows = storage.rows := by
  cases upload with
  | completes => rfl
  | raises exn applied => cases applied <;> rfl

theorem rotateUnder_of_cancelled (hkey : settings.s3AccessKey ≠ "")
    (h : upload.outcome = .error .cancelled) : ∃ objects,
      storage.rotateUnder settings upload filename now =
        ({ storage with objects := objects }, .error .cancelled) := by
  unfold rotateUnder
  rw [if_pos hkey]
  cases upload with
  | completes => cases h
  | raises exn applied =>
      cases h
      cases applied with
      | true => exact ⟨storage.uploadFile.objects, rfl⟩
      | false => exact ⟨storage.objects, rfl⟩

theorem rotateUnder_of_ne_cancelled
    (h : settings.s3AccessKey ≠ "" → upload.outcome ≠ .error .cancelled) : ∃ objects,
      storage.rotateUnder settings upload filename now =
        ({ writer := .start settings filename now, objects := objects, rows := storage.rows },
          .ok ()) := by
  unfold rotateUnder
  split
  · rename_i hkey
    dsimp only
    split
    · exact absurd rfl (h hkey)
    · refine ⟨(upload.effect uploadFile storage).objects, ?_⟩
      rw [← @rows_effect_uploadFile storage upload]
      rfl
  · exact ⟨storage.objects, rfl⟩

theorem rotated_rotateUnder (storage : Storage) (upload : Delivery Exn) (filename : String)
    (now : Instant) : Rotated settings storage upload filename now
      (storage.rotateUnder settings upload filename now)
      (storage.rotationTraced settings upload filename now) := by
  unfold rotationTraced
  by_cases hcancelled : settings.s3AccessKey ≠ "" ∧ upload.outcome = .error .cancelled
  · obtain ⟨objects, hrotated⟩ :=
      @rotateUnder_of_cancelled settings storage upload filename now hcancelled.1 hcancelled.2
    rw [hrotated, if_pos hcancelled.1, hcancelled.2]
    exact .cancelled objects hcancelled.2
  · have hended : settings.s3AccessKey ≠ "" → upload.outcome ≠ .error .cancelled :=
      fun hkey heq => hcancelled ⟨hkey, heq⟩
    obtain ⟨objects, hrotated⟩ :=
      @rotateUnder_of_ne_cancelled settings storage upload filename now hended
    rw [hrotated]
    refine .renewed objects _ fun sent hsent => ?_
    split at hsent
    · rename_i hkey
      cases hsent
      exact ⟨rfl, rfl, hended hkey⟩
    · cases hsent

end Facts

end Storage

namespace Depot

section System

variable (libraries : Libraries) (database : Database) (settings : Settings)

def written (depot : Depot) (call : ArchiveCall) (answers : Answers) : Written × Storage :=
  depot.storage.write libraries call
    (depot.storage.lookup libraries database call answers.lookupFails) answers.writtenAt
    answers.recordId

def writtenRow (depot : Depot) (call : ArchiveCall) (answers : Answers) : WarcIndex :=
  (depot.written libraries database call answers).1.row answers.rowId

def observe (depot : Depot) : Action → Traced
  | .archive call answers upload =>
      let stored := (depot.written libraries database call answers).2
      let rotation :=
        if stored.rotates settings answers.checkedAt then
          stored.rotationTraced settings upload answers.filename answers.createdAt
        else {}
      { rotation with
        row := (depot.storage.archiveUnder libraries database settings call answers upload).2 }
  | .shutdownFlush upload filename now =>
      depot.storage.rotationTraced settings upload filename now

def trace (depot : Depot) (action : Action) : Depot × Traced :=
  (depot.serve libraries database settings action,
    depot.observe libraries database settings action)

end System

/-- The statements of a call succeed: its lookup, and the insert under a new id. -/
def DatabaseSucceeds (depot : Depot) : Action → Prop
  | .archive _ answers _ => answers.lookupFails = false ∧ answers.commitFails = false ∧
      answers.rowId ∉ depot.storage.rows.map WarcIndex.id
  | .shutdownFlush .. => True

inductive Archived (libraries : Libraries) (database : Database) (settings : Settings)
    (depot : Depot) (call : ArchiveCall) (answers : Answers) (upload : Delivery Exn) :
    Storage → Traced → Prop where
  | kept :
      Archived libraries database settings depot call answers upload
        { (depot.written libraries database call answers).2 with
          rows := depot.storage.rows ++ [depot.writtenRow libraries database call answers] }
        { row := some (depot.writtenRow libraries database call answers) }
  | rotated (objects : String → Option Bytes) (put : Option Put) :
      (∀ sent ∈ put, sent.key = depot.storage.writer.filename ∧
        sent.body = (depot.written libraries database call answers).2.writer.buffer ∧
        sent.outcome ≠ .error .cancelled) →
      Archived libraries database settings depot call answers upload
        { writer := .start settings answers.filename answers.createdAt
          objects := objects
          rows := depot.storage.rows ++ [depot.writtenRow libraries database call answers] }
        { row := some (depot.writtenRow libraries database call answers)
          put := put
          opened := some answers.filename }
  | cancelled (objects : String → Option Bytes) :
      upload.outcome = .error .cancelled →
      Archived libraries database settings depot call answers upload
        { (depot.written libraries database call answers).2 with objects := objects }
        { put := some ⟨depot.storage.writer.filename,
            (depot.written libraries database call answers).2.writer.buffer, .error .cancelled⟩ }

section Steps

variable {libraries : Libraries} {database : Database} {settings : Settings} {depot : Depot}
  {call : ArchiveCall} {answers : Answers} {upload : Delivery Exn} {storage : Storage}
  {row : WarcIndex}

theorem indexRecord_of_free (hfree : row.id ∉ storage.rows.map WarcIndex.id) :
    storage.indexRecord row false = ({ storage with rows := storage.rows ++ [row] }, some row) := by
  unfold Storage.indexRecord
  refine if_neg fun h => ?_
  exact h.elim Bool.false_ne_true hfree

theorem rows_written : (depot.written libraries database call answers).2.rows =
    depot.storage.rows := Storage.rows_write _ _ _ _ _

theorem filename_written : (depot.written libraries database call answers).2.writer.filename =
    depot.storage.writer.filename := Storage.filename_write _ _ _ _ _

theorem archiveUnder_of_rotated {rotated : Storage × Except Exn Unit}
    (hrotated : (if (depot.written libraries database call answers).2.rotates settings
        answers.checkedAt then
          (depot.written libraries database call answers).2.rotateUnder settings upload
            answers.filename answers.createdAt
        else ((depot.written libraries database call answers).2, .ok ())) = rotated) :
    depot.storage.archiveUnder libraries database settings call answers upload =
      if rotated.2.isOk = true then
        rotated.1.indexRecord (depot.writtenRow libraries database call answers)
          answers.commitFails
      else (rotated.1, none) := by
  subst hrotated
  unfold Storage.archiveUnder writtenRow written
  dsimp only
  split
  · rename_i heq
    rw [heq]
    rfl
  · rename_i heq
    rw [heq]
    rfl

theorem archived_trace
    (hdatabase : DatabaseSucceeds depot (.archive call answers upload)) :
    Archived libraries database settings depot call answers upload
      (depot.trace libraries database settings (.archive call answers upload)).1.storage
      (depot.trace libraries database settings (.archive call answers upload)).2 := by
  obtain ⟨-, hcommit, hfree⟩ := hdatabase
  have hindexed (storage : Storage) (hrows : storage.rows = depot.storage.rows) :
      storage.indexRecord (depot.writtenRow libraries database call answers) answers.commitFails =
        ({ storage with
            rows := depot.storage.rows ++ [depot.writtenRow libraries database call answers] },
          some (depot.writtenRow libraries database call answers)) := by
    rw [hcommit, indexRecord_of_free (by rw [hrows]; exact hfree), hrows]
  have hrows : (depot.written libraries database call answers).2.rows = depot.storage.rows :=
    rows_written
  have hname : (depot.written libraries database call answers).2.writer.filename =
      depot.storage.writer.filename := filename_written
  unfold trace serve observe
  dsimp only
  cases hdue : (depot.written libraries database call answers).2.rotates settings
      answers.checkedAt with
  | false =>
      have hkept : (Except.ok () : Except Exn Unit).isOk = true := rfl
      rw [archiveUnder_of_rotated (if_neg (by rw [hdue]; exact Bool.false_ne_true)), if_pos hkept,
        hindexed _ hrows, if_neg Bool.false_ne_true]
      exact .kept
  | true =>
      have hrotated := @Storage.rotated_rotateUnder settings
        (depot.written libraries database call answers).2 upload answers.filename answers.createdAt
      rw [archiveUnder_of_rotated (if_pos hdue), if_pos rfl]
      generalize Storage.rotateUnder settings _ upload answers.filename answers.createdAt = rotated
        at hrotated ⊢
      generalize Storage.rotationTraced settings _ upload answers.filename answers.createdAt = seen
        at hrotated ⊢
      cases hrotated with
      | renewed objects put hput =>
          have hkept : (Except.ok () : Except Exn Unit).isOk = true := rfl
          have hadded := hindexed {
            writer := .start settings answers.filename answers.createdAt
            objects := objects
            rows := (depot.written libraries database call answers).2.rows } hrows
          rw [if_pos hkept, hadded]
          rw [hname] at hput
          exact .rotated objects put hput
      | cancelled objects hcancelled =>
          rw [if_neg (by exact Bool.false_ne_true), hname]
          exact .cancelled objects hcancelled

theorem rows_trace (action : Action) :
    (depot.trace libraries database settings action).1.storage.rows =
      depot.storage.rows ++ (depot.trace libraries database settings action).2.row.toList := by
  cases action with
  | archive call answers upload =>
      have hrows (storage : Storage) (hsame : storage.rows = depot.storage.rows) (row : WarcIndex)
          (fails : Bool) : (storage.indexRecord row fails).1.rows =
            depot.storage.rows ++ (storage.indexRecord row fails).2.toList := by
        unfold Storage.indexRecord
        split
        · exact hsame.trans (List.append_nil _).symm
        · exact congrArg (· ++ [row]) hsame
      unfold trace serve observe
      dsimp only
      by_cases hdue : (depot.written libraries database call answers).2.rotates settings
          answers.checkedAt = true
      · rw [archiveUnder_of_rotated (if_pos hdue)]
        have hends := Storage.rotateUnder_ends settings
          (depot.written libraries database call answers).2 upload answers.filename
          answers.createdAt
        have hsame := hends.rows.trans rows_written
        split
        · exact hrows _ hsame _ _
        · exact hsame.trans (List.append_nil _).symm
      · rw [archiveUnder_of_rotated (if_neg hdue)]
        exact hrows _ rows_written _ _
  | shutdownFlush upload filename now =>
      have hends := depot.storage.rotateUnder_ends settings upload filename now
      exact hends.rows.trans (List.append_nil _).symm

theorem rows_serveAll (actions : List Action) :
    (serveAll (trace libraries database settings) depot actions).storage.rows =
      depot.storage.rows ++ (transcript (trace libraries database settings) depot
        actions).filterMap (·.output.row) := by
  induction actions generalizing depot with
  | nil => exact (List.append_nil _).symm
  | cons action actions ih =>
      rw [serveAll, ih, rows_trace, transcript, List.filterMap_cons, List.append_assoc]
      cases (depot.trace libraries database settings action).2.row with
      | none => rfl
      | some row => rfl

end Steps

end Depot

end CrawlerApi.Warc
