import CrawlerApi.Foundation.Run
import CrawlerApi.Warc.Storage
import Mathlib.Logic.Function.Basic

/-!
# Archive calls that interleave

Any number of tasks share the storage on one event loop, each running one archive
call or one flush.  A task gives way at its awaits only: the duplicate lookup, the
upload and the insert of its row; what the awaited service does is a step of its
own.
-/

namespace CrawlerApi.Warc

open Keys Fetch Foundation

structure Entry where
  written : Written
  encoded : Bytes

inductive Phase where
  | idle
  | looking (call : ArchiveCall)
  | looked (call : ArchiveCall) (existing : Option WarcIndex)
  | uploading (key : String) (data : Bytes) (entry : Option Entry)
  | uploaded (entry : Option Entry)
  | inserting (entry : Entry)
  | done

/-- `_rotate` has taken its snapshot and not yet replaced the writer. -/
def Phase.Rotating : Phase → Prop
  | .uploading .. | .uploaded _ => True
  | _ => False

structure State where
  storage : Storage
  phase : Nat → Phase
  committed : List (WarcIndex × Bytes)

/-- A step of a task, or of the service it waits for. -/
inductive Move where
  | call (task : Nat) (call : ArchiveCall)
  | lookup (task : Nat) (fails : Bool)
  | write (task : Nat) (now : Instant) (recordId : String) (checkedAt : Instant)
      (filename : String) (createdAt : Instant)
  | flush (task : Nat) (filename : String) (createdAt : Instant)
  | putObject (task : Nat)
  | resume (task : Nat) (filename : String) (createdAt : Instant)
  | insert (task : Nat) (rowId : Uuid) (fails : Bool)

section System

variable (libraries : Libraries) (database : Database) (settings : Settings)

def State.start (filename : String) (now : Instant) : State where
  storage := {
    writer := .start settings filename now
    objects := fun _ => none
    rows := [] }
  phase _ := .idle
  committed := []

def State.enter (state : State) (task : Nat) (phase : Phase) : State :=
  { state with phase := Function.update state.phase task phase }

@[simp] theorem storage_enter (state : State) (task : Nat) (phase : Phase) :
    (state.enter task phase).storage = state.storage := rfl

@[simp] theorem phase_enter_self (state : State) (task : Nat) (phase : Phase) :
    (state.enter task phase).phase task = phase := Function.update_self ..

theorem phase_enter_of_ne (state : State) {task other : Nat} (phase : Phase) (h : other ≠ task) :
    (state.enter task phase).phase other = state.phase other := Function.update_of_ne h ..

/-- The continuation of `archive` behind the rotation; a flush has none. -/
def Phase.afterRotation : Option Entry → Phase
  | some entry => .inserting entry
  | none => .done

/-- `_rotate` up to its await; without S3 there is none. -/
def State.beginRotate (state : State) (task : Nat) (entry : Option Entry) (filename : String)
    (createdAt : Instant) : State :=
  if settings.s3AccessKey ≠ "" then
    state.enter task (.uploading state.storage.writer.filename state.storage.writer.buffer entry)
  else
    { state with storage := state.storage.resetWriter settings filename createdAt }.enter task
      (.afterRotation entry)

def Entry.of (before : Storage) (written : Written × Storage) : Entry where
  written := written.1
  encoded := written.2.writer.buffer.drop before.writer.buffer.length

def move (state : State) : Move → Option State
  | .call task call =>
      match state.phase task with
      | .idle => some (state.enter task (.looking call))
      | _ => none
  | .lookup task fails =>
      match state.phase task with
      | .looking call =>
          some (state.enter task
            (.looked call (state.storage.lookup libraries database call fails)))
      | _ => none
  | .write task now recordId checkedAt filename createdAt =>
      match state.phase task with
      | .looked call existing =>
          let written := state.storage.write libraries call existing now recordId
          let entry := Entry.of state.storage written
          let after := { state with storage := written.2 }
          if written.2.rotates settings checkedAt then
            some (after.beginRotate settings task (some entry) filename createdAt)
          else some (after.enter task (.inserting entry))
      | _ => none
  | .flush task filename createdAt =>
      match state.phase task with
      | .idle => some (state.beginRotate settings task none filename createdAt)
      | _ => none
  | .putObject task =>
      match state.phase task with
      | .uploading key data entry =>
          some ({ state with storage := state.storage.putObject key data }.enter task
            (.uploaded entry))
      | _ => none
  | .resume task filename createdAt =>
      match state.phase task with
      | .uploaded entry =>
          some ({ state with
            storage := state.storage.resetWriter settings filename createdAt }.enter task
              (.afterRotation entry))
      | _ => none
  | .insert task rowId fails =>
      match state.phase task with
      | .inserting entry =>
          let result := state.storage.indexRecord (entry.written.row rowId) fails
          some ({ state with
            storage := result.1
            committed := state.committed ++
              (result.2.map fun row => (row, entry.encoded)).toList }.enter task .done)
      | _ => none

end System

section Moves

variable {libraries : Libraries} {database : Database} {settings : Settings} {state : State}
  {task : Nat} {call : ArchiveCall}

theorem move_call (h : state.phase task = .idle) :
    move libraries database settings state (.call task call) =
      some (state.enter task (.looking call)) := by
  simp only [move, h]

theorem move_lookup {fails : Bool} (h : state.phase task = .looking call) :
    move libraries database settings state (.lookup task fails) =
      some (state.enter task
        (.looked call (state.storage.lookup libraries database call fails))) := by
  simp only [move, h]

theorem move_write_rotates {existing : Option WarcIndex} {now : Instant} {recordId : String}
    {checkedAt : Instant} {filename : String} {createdAt : Instant}
    (hkey : settings.s3AccessKey ≠ "") (h : state.phase task = .looked call existing)
    (hrotates : (state.storage.write libraries call existing now recordId).2.rotates settings
      checkedAt = true) :
    let written := state.storage.write libraries call existing now recordId
    move libraries database settings state
        (.write task now recordId checkedAt filename createdAt) =
      some ({ state with storage := written.2 }.enter task
        (.uploading written.2.writer.filename written.2.writer.buffer
          (some (Entry.of state.storage written)))) := by
  simp only [move, h, hrotates, State.beginRotate, if_pos hkey, if_true]

theorem move_write_stays {existing : Option WarcIndex} {now : Instant} {recordId : String}
    {checkedAt : Instant} {filename : String} {createdAt : Instant}
    (h : state.phase task = .looked call existing)
    (hstays : (state.storage.write libraries call existing now recordId).2.rotates settings
      checkedAt = false) :
    let written := state.storage.write libraries call existing now recordId
    move libraries database settings state
        (.write task now recordId checkedAt filename createdAt) =
      some ({ state with storage := written.2 }.enter task
        (.inserting (Entry.of state.storage written))) := by
  simp only [move, h, hstays, Bool.false_eq_true, if_false]

theorem move_flush {filename : String} {createdAt : Instant} (hkey : settings.s3AccessKey ≠ "")
    (h : state.phase task = .idle) :
    move libraries database settings state (.flush task filename createdAt) =
      some (state.enter task
        (.uploading state.storage.writer.filename state.storage.writer.buffer none)) := by
  simp only [move, h, State.beginRotate, if_pos hkey]

theorem move_putObject {key : String} {data : Bytes} {entry : Option Entry}
    (h : state.phase task = .uploading key data entry) :
    move libraries database settings state (.putObject task) =
      some ({ state with storage := state.storage.putObject key data }.enter task
        (.uploaded entry)) := by
  simp only [move, h]

theorem move_resume {filename : String} {createdAt : Instant} {entry : Option Entry}
    (h : state.phase task = .uploaded entry) :
    move libraries database settings state (.resume task filename createdAt) =
      some ({ state with
        storage := state.storage.resetWriter settings filename createdAt }.enter task
          (.afterRotation entry)) := by
  simp only [move, h]

theorem move_insert {rowId : Uuid} {fails : Bool} {entry : Entry}
    (h : state.phase task = .inserting entry) :
    let result := state.storage.indexRecord (entry.written.row rowId) fails
    move libraries database settings state (.insert task rowId fails) =
      some ({ state with
        storage := result.1
        committed := state.committed ++
          (result.2.map fun row => (row, entry.encoded)).toList }.enter task .done) := by
  simp only [move, h]

end Moves

def serial (libraries : Libraries) (database : Database) (settings : Settings) (storage : Storage)
    (task : Nat) (call : ArchiveCall) (answers : Answers) : List Move :=
  let existing := storage.lookup libraries database call answers.lookupFails
  let written := storage.write libraries call existing answers.writtenAt answers.recordId
  .call task call :: .lookup task answers.lookupFails ::
    .write task answers.writtenAt answers.recordId answers.checkedAt answers.filename
      answers.createdAt ::
    if written.2.rotates settings answers.checkedAt then
      [.putObject task, .resume task answers.filename answers.createdAt,
        .insert task answers.rowId answers.commitFails]
    else [.insert task answers.rowId answers.commitFails]

private theorem run_write {libraries : Libraries} {database : Database} {settings : Settings}
    {looked : State} {task : Nat} {call : ArchiveCall} {existing : Option WarcIndex}
    (hkey : settings.s3AccessKey ≠ "") (h : looked.phase task = .looked call existing)
    (answers : Answers) :
    let written := looked.storage.write libraries call existing answers.writtenAt answers.recordId
    let stored := looked.storage.store libraries settings call existing answers
    ∃ next, run (move libraries database settings) looked
        (.write task answers.writtenAt answers.recordId answers.checkedAt answers.filename
            answers.createdAt ::
          if written.2.rotates settings answers.checkedAt then
            [.putObject task, .resume task answers.filename answers.createdAt,
              .insert task answers.rowId answers.commitFails]
          else [.insert task answers.rowId answers.commitFails]) = some next ∧
      next.storage =
        (stored.2.indexRecord (stored.1.row answers.rowId) answers.commitFails).1 := by
  unfold Storage.store
  dsimp only
  rw [run_cons]
  cases hrotates : (looked.storage.write libraries call existing answers.writtenAt
      answers.recordId).2.rotates settings answers.checkedAt with
  | true =>
      rw [move_write_rotates hkey h hrotates, Option.bind_some, if_pos rfl, run_cons,
        move_putObject (phase_enter_self ..), Option.bind_some, run_cons,
        move_resume (phase_enter_self ..), Option.bind_some, Phase.afterRotation, run_cons,
        move_insert (phase_enter_self ..), Option.bind_some]
      refine ⟨_, rfl, ?_⟩
      simp only [Storage.rotate, if_pos hkey, if_true]
      rfl
  | false =>
      rw [move_write_stays h hrotates, Option.bind_some, if_neg Bool.false_ne_true, run_cons,
        move_insert (phase_enter_self ..), Option.bind_some]
      exact ⟨_, rfl, rfl⟩

/-- A call whose moves follow each other does what `archive` does. -/
theorem run_serial {libraries : Libraries} {database : Database} {settings : Settings}
    {state : State} {task : Nat} (hkey : settings.s3AccessKey ≠ "")
    (hidle : state.phase task = .idle) (call : ArchiveCall) (answers : Answers) :
    ∃ next, run (move libraries database settings) state
        (serial libraries database settings state.storage task call answers) = some next ∧
      next.storage = (state.storage.archive libraries database settings call answers).1 := by
  unfold serial
  rw [run_cons, move_call hidle, Option.bind_some, run_cons, move_lookup (phase_enter_self ..),
    Option.bind_some]
  exact run_write hkey (phase_enter_self ..) answers

end CrawlerApi.Warc
