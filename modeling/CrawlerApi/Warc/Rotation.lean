import CrawlerApi.Warc.Concurrent
import CrawlerApi.Warc.Framed

/-!
# Rotations among concurrent calls

`_rotate` uploads a snapshot of the file and replaces the writer when the upload
is done; what is written in between is in neither file.  When nothing writes and
no other rotation begins while one is under way, every committed row names an
uploaded object that holds its record.
-/

namespace CrawlerApi.Warc

open Keys Fetch Foundation

/-- Where the bytes of a record are: in the file of the writer, or in the bucket under
the name of a former file. -/
inductive Located (storage : Storage) (filename : String) (offset length : Nat)
    (encoded : Bytes) : Prop where
  | buffered : filename = storage.writer.filename → storage.writer.records ≠ [] →
      offset + length ≤ storage.writer.buffer.length →
      slice storage.writer.buffer offset length = encoded →
      Located storage filename offset length encoded
  | uploaded {object : Bytes} : filename ≠ storage.writer.filename →
      storage.objects filename = some object → slice object offset length = encoded →
      Located storage filename offset length encoded

def Entry.Located (storage : Storage) (entry : Entry) : Prop :=
  Warc.Located storage entry.written.filename entry.written.record.offset
    entry.written.record.length entry.encoded

/-- What a phase relies on: the snapshot is still the whole file, the upload put it
under the name of the writer, and what is written can be found. -/
def Phase.Backed (storage : Storage) : Phase → Prop
  | .uploading key data entry =>
      key = storage.writer.filename ∧ data = storage.writer.buffer ∧
        ∀ written ∈ entry, written.Located storage
  | .uploaded entry =>
      storage.objects storage.writer.filename = some storage.writer.buffer ∧
        ∀ written ∈ entry, written.Located storage
  | .inserting entry => entry.Located storage
  | _ => True

structure Recoverable (state : State) : Prop where
  single : ∀ task other, (state.phase task).Rotating → (state.phase other).Rotating → task = other
  backed : ∀ task, (state.phase task).Backed state.storage
  rows : state.storage.rows = state.committed.map Prod.fst
  located : ∀ entry ∈ state.committed,
    Located state.storage entry.1.warcFilename entry.1.offset entry.1.length entry.2

/-- The moves nothing is lost on: no write and no new rotation while one is under way,
and a file name that is new. -/
def Undisturbed (state : State) : Move → Prop
  | .write .. | .flush .. => ∀ task, ¬ (state.phase task).Rotating
  | .resume _ filename _ => Fresh state.storage filename
  | _ => True

def Keeps (before after : Storage) : Prop :=
  ∀ filename offset length encoded, Located before filename offset length encoded →
    Located after filename offset length encoded

section Storages

variable {libraries : Libraries} {settings : Settings} {before after storage : Storage}

theorem Keeps.of_same (hwriter : after.writer = before.writer)
    (hobjects : after.objects = before.objects) : Keeps before after := by
  intro filename offset length encoded h
  cases h with
  | buffered hname hrecords hlength hslice =>
      rw [← hwriter] at hname hrecords hlength hslice
      exact .buffered hname hrecords hlength hslice
  | uploaded hname hobject hslice =>
      rw [← hwriter] at hname
      rw [← hobjects] at hobject
      exact .uploaded hname hobject hslice

theorem keeps_append (built : BuiltRecord) (record : WarcRecord) :
    Keeps storage { storage with writer := storage.writer.append libraries built record } := by
  intro filename offset length encoded h
  cases h with
  | buffered hname hrecords hlength hslice =>
      refine .buffered hname ?_ ?_ ((slice_append_left hlength _).trans hslice)
      · exact List.append_ne_nil_of_right_ne_nil _ (List.cons_ne_nil _ _)
      · rw [WarcWriter.buffer_append, List.length_append]
        omega
  | uploaded hname hobject hslice => exact .uploaded hname hobject hslice

theorem located_append {built : BuiltRecord} {record : WarcRecord}
    (hoffset : record.offset = storage.writer.buffer.length)
    (hlength : record.length = (libraries.encode built).length) :
    Located { storage with writer := storage.writer.append libraries built record }
      storage.writer.filename record.offset record.length (libraries.encode built) := by
  refine .buffered rfl ?_ ?_ ?_
  · exact List.append_ne_nil_of_right_ne_nil _ (List.cons_ne_nil _ _)
  · have hend : record.offset + record.length =
        (storage.writer.append libraries built record).buffer.length := by
      rw [WarcWriter.buffer_append, List.length_append, hoffset, hlength]
    exact Nat.le_of_eq hend
  · rw [WarcWriter.buffer_append, hoffset, hlength, slice_append_right]

theorem located_entry_of {built : BuiltRecord} {record : WarcRecord} (call : ArchiveCall)
    (hoffset : record.offset = storage.writer.buffer.length)
    (hlength : record.length = (libraries.encode built).length) :
    let after := { storage with writer := storage.writer.append libraries built record }
    (Entry.of storage (⟨call, record, storage.writer.filename⟩, after)).Located after := by
  have hencoded : (storage.writer.buffer ++ libraries.encode built).drop
      storage.writer.buffer.length = libraries.encode built := List.drop_left
  show Located _ _ _ _ ((storage.writer.buffer ++ libraries.encode built).drop
    storage.writer.buffer.length)
  rw [hencoded]
  exact located_append hoffset hlength

theorem keeps_putObject (data : Bytes) :
    Keeps storage (storage.putObject storage.writer.filename data) := by
  intro filename offset length encoded h
  cases h with
  | buffered hname hrecords hlength hslice => exact .buffered hname hrecords hlength hslice
  | uploaded hname hobject hslice => exact .uploaded hname ((if_neg hname).trans hobject) hslice

theorem keeps_resetWriter {filename : String} {now : Instant}
    (hstored : storage.objects storage.writer.filename = some storage.writer.buffer)
    (hfresh : Fresh storage filename) :
    Keeps storage (storage.resetWriter settings filename now) := by
  intro name offset length encoded h
  cases h with
  | buffered hname hrecords hlength hslice =>
      exact .uploaded (hname ▸ hfresh.2.symm) (hname ▸ hstored) hslice
  | uploaded hname hobject hslice =>
      refine .uploaded (fun heq => ?_) hobject hslice
      replace heq : name = filename := heq
      rw [heq, hfresh.1] at hobject
      cases hobject

theorem Phase.Backed.of_same {phase : Phase} (h : phase.Backed before)
    (hwriter : after.writer = before.writer) (hobjects : after.objects = before.objects) :
    phase.Backed after := by
  have hkeeps := Keeps.of_same hwriter hobjects
  cases phase with
  | uploading key data entry =>
      exact ⟨hwriter ▸ h.1, hwriter ▸ h.2.1, fun written hw => hkeeps _ _ _ _ (h.2.2 written hw)⟩
  | uploaded entry =>
      exact ⟨by rw [hwriter, hobjects]; exact h.1,
        fun written hw => hkeeps _ _ _ _ (h.2 written hw)⟩
  | inserting entry => exact hkeeps _ _ _ _ h
  | _ => trivial

theorem Phase.Backed.of_keeps {phase : Phase} (h : phase.Backed before)
    (hcalm : ¬ phase.Rotating) (hkeeps : Keeps before after) : phase.Backed after := by
  cases phase with
  | uploading key data entry => exact absurd trivial hcalm
  | uploaded entry => exact absurd trivial hcalm
  | inserting entry => exact hkeeps _ _ _ _ h
  | _ => trivial

end Storages

section Moves

variable {libraries : Libraries} {database : Database} {settings : Settings} {state next : State}

/-- Nothing a task relies on is disturbed: either no other task rotates, or the writer
and the bucket are as they were and the task itself does not rotate. -/
inductive Calm (state : State) (storage : Storage) (task : Nat) (phase : Phase) : Prop where
  | alone : (∀ other, other ≠ task → ¬ (state.phase other).Rotating) → Calm state storage task phase
  | same : ¬ phase.Rotating → storage.writer = state.storage.writer →
      storage.objects = state.storage.objects → Calm state storage task phase

theorem Calm.not_rotating {storage : Storage} {task other : Nat} {phase : Phase}
    (h : Calm state storage task phase) (hne : other ≠ task)
    (hother : (state.phase other).Rotating) : ¬ phase.Rotating := by
  cases h with
  | alone halone => exact absurd hother (halone other hne)
  | same hnot _ _ => exact hnot

/-- What a move makes of one task and the storage keeps everything recoverable. -/
theorem Recoverable.enter (h : Recoverable state) {storage : Storage} {task : Nat} {phase : Phase}
    {committed : List (WarcIndex × Bytes)} (hkeeps : Keeps state.storage storage)
    (hcalm : Calm state storage task phase) (hbacked : phase.Backed storage)
    (hrows : storage.rows = committed.map Prod.fst)
    (hlocated : ∀ entry ∈ committed, entry ∉ state.committed →
      Located storage entry.1.warcFilename entry.1.offset entry.1.length entry.2) :
    Recoverable (State.enter ⟨storage, state.phase, committed⟩ task phase) where
  single first second hfirst hsecond := by
    by_cases hone : first = task
    · by_cases htwo : second = task
      · rw [hone, htwo]
      · rw [phase_enter_of_ne _ _ htwo] at hsecond
        rw [hone, phase_enter_self] at hfirst
        exact absurd hfirst (hcalm.not_rotating htwo hsecond)
    · rw [phase_enter_of_ne _ _ hone] at hfirst
      by_cases htwo : second = task
      · rw [htwo, phase_enter_self] at hsecond
        exact absurd hsecond (hcalm.not_rotating hone hfirst)
      · rw [phase_enter_of_ne _ _ htwo] at hsecond
        exact h.single first second hfirst hsecond
  backed other := by
    by_cases heq : other = task
    · rw [heq, phase_enter_self]
      exact hbacked
    · rw [phase_enter_of_ne _ _ heq]
      cases hcalm with
      | alone halone => exact (h.backed other).of_keeps (halone other heq) hkeeps
      | same _ hwriter hobjects => exact (h.backed other).of_same hwriter hobjects
  rows := hrows
  located entry hentry := by
    by_cases hold : entry ∈ state.committed
    · exact hkeeps _ _ _ _ (h.located entry hold)
    · exact hlocated entry hentry hold

theorem recoverable_start (filename : String) (now : Instant) :
    Recoverable (.start settings filename now) where
  single _ _ h := nomatch h
  backed _ := trivial
  rows := rfl
  located := nofun

theorem Recoverable.alone (h : Recoverable state) {task : Nat}
    (hrotating : (state.phase task).Rotating) :
    ∀ other, other ≠ task → ¬ (state.phase other).Rotating :=
  fun other hne hother => hne (h.single other task hother hrotating)

theorem recoverable_write {task : Nat} {call : ArchiveCall} {existing : Option WarcIndex}
    {now : Instant} {recordId : String} {checkedAt : Instant} {filename : String}
    {createdAt : Instant} (hkey : settings.s3AccessKey ≠ "") (h : Recoverable state)
    (hcalm : ∀ task, ¬ (state.phase task).Rotating)
    (hphase : state.phase task = .looked call existing)
    (hmove : move libraries database settings state
      (.write task now recordId checkedAt filename createdAt) = some next) : Recoverable next := by
  obtain ⟨built, record, -, hoffset, hlength, hwrite, -⟩ :=
    Storage.write_cases state.storage call existing now recordId
  have hkeeps : Keeps state.storage
      { state.storage with writer := state.storage.writer.append libraries built record } :=
    keeps_append built record
  have hentry := located_entry_of call hoffset hlength
  cases hrotates : (state.storage.write libraries call existing now recordId).2.rotates settings
      checkedAt with
  | true =>
      rw [move_write_rotates hkey hphase hrotates, hwrite] at hmove
      cases hmove
      refine h.enter hkeeps (.alone fun other _ => hcalm other) ⟨rfl, rfl, ?_⟩ h.rows
        fun entry hentry hnew => absurd hentry hnew
      rintro written ⟨⟩
      exact hentry
  | false =>
      rw [move_write_stays hphase hrotates, hwrite] at hmove
      cases hmove
      exact h.enter hkeeps (.alone fun other _ => hcalm other) hentry h.rows
        fun entry hentry hnew => absurd hentry hnew

theorem recoverable_insert {task : Nat} {entry : Entry} {rowId : Uuid} {fails : Bool}
    (h : Recoverable state) (hentry : entry.Located state.storage) :
    let result := state.storage.indexRecord (entry.written.row rowId) fails
    Recoverable (State.enter { state with
      storage := result.1
      committed := state.committed ++
        (result.2.map fun row => (row, entry.encoded)).toList } task .done) := by
  have hkeeps : Keeps state.storage
      { state.storage with rows := state.storage.rows ++ [entry.written.row rowId] } :=
    .of_same rfl rfl
  unfold Storage.indexRecord
  dsimp only
  split
  · refine h.enter (.of_same rfl rfl) (.same nofun rfl rfl) trivial ?_ fun other hother hnew => ?_
    · simpa using h.rows
    · exact absurd (by simpa using hother) hnew
  · refine h.enter hkeeps (.same nofun rfl rfl) trivial ?_ fun other hother hnew => ?_
    · simp [h.rows]
    · rcases List.mem_append.mp hother with hold | hlast
      · exact absurd hold hnew
      · rw [List.mem_singleton.mp hlast]
        exact hkeeps _ _ _ _ hentry

theorem recoverable_move {action : Move} (hkey : settings.s3AccessKey ≠ "") (h : Recoverable state)
    (hcalm : Undisturbed state action)
    (hmove : move libraries database settings state action = some next) : Recoverable next := by
  cases action with
  | call task call =>
      simp only [move] at hmove
      split at hmove
      · cases hmove
        exact h.enter (.of_same rfl rfl) (.same id rfl rfl) trivial h.rows
          fun entry hentry hnew => absurd hentry hnew
      · cases hmove
  | lookup task fails =>
      simp only [move] at hmove
      split at hmove
      · cases hmove
        exact h.enter (.of_same rfl rfl) (.same id rfl rfl) trivial h.rows
          fun entry hentry hnew => absurd hentry hnew
      · cases hmove
  | write task now recordId checkedAt filename createdAt =>
      cases hphase : state.phase task with
      | looked call existing => exact recoverable_write hkey h hcalm hphase hmove
      | _ => simp only [move, hphase, reduceCtorEq] at hmove
  | flush task filename createdAt =>
      cases hphase : state.phase task with
      | idle =>
          rw [move_flush hkey hphase] at hmove
          cases hmove
          exact h.enter (.of_same rfl rfl) (.alone fun other _ => hcalm other)
            ⟨rfl, rfl, by simp⟩ h.rows fun entry hentry hnew => absurd hentry hnew
      | _ => simp only [move, hphase, reduceCtorEq] at hmove
  | putObject task =>
      simp only [move] at hmove
      split at hmove
      · rename_i key data entry hphase
        cases hmove
        have hbacked := h.backed task
        rw [hphase] at hbacked
        obtain ⟨rfl, rfl, hentry⟩ := hbacked
        have hkeeps : Keeps state.storage (state.storage.putObject state.storage.writer.filename
            state.storage.writer.buffer) := keeps_putObject _
        refine h.enter hkeeps (.alone (h.alone (by rw [hphase]; trivial)))
          ⟨if_pos rfl, fun written hwritten => hkeeps _ _ _ _ (hentry written hwritten)⟩ h.rows
          fun entry hentry hnew => absurd hentry hnew
      · cases hmove
  | resume task filename createdAt =>
      simp only [move] at hmove
      split at hmove
      · rename_i entry hphase
        cases hmove
        have hbacked := h.backed task
        rw [hphase] at hbacked
        obtain ⟨hstored, hentry⟩ := hbacked
        have hkeeps : Keeps state.storage (state.storage.resetWriter settings filename createdAt) :=
          keeps_resetWriter hstored hcalm
        refine h.enter hkeeps (.alone (h.alone (by rw [hphase]; trivial))) ?_ h.rows
          fun entry hentry hnew => absurd hentry hnew
        cases entry with
        | none => trivial
        | some written => exact hkeeps _ _ _ _ (hentry written rfl)
      · cases hmove
  | insert task rowId fails => 
      simp only [move] at hmove
      split at hmove
      · rename_i entry hphase
        cases hmove
        have hbacked := h.backed task
        rw [hphase] at hbacked
        exact recoverable_insert h hbacked
      · cases hmove

end Moves

theorem records_resume {libraries : Libraries} {database : Database} {settings : Settings}
    {state next : State} {task : Nat} {filename : String} {now : Instant}
    (h : move libraries database settings state (.resume task filename now) = some next) :
    next.storage.writer.records = [] := by
  simp only [move] at h
  split at h
  · cases h
    rfl
  · cases h

/-- The moves of a flush nothing comes between. -/
def finalFlush (task : Nat) (filename : String) (now : Instant) : List Move :=
  [.flush task filename now, .putObject task, .resume task filename now]

/-- What was uploaded last under the name of a committed row holds, at its offset and
length, the record written for it. -/
def State.Recorded (state : State) : Prop :=
  state.storage.rows = state.committed.map Prod.fst ∧
    ∀ entry ∈ state.committed,
      (state.storage.objects entry.1.warcFilename).map
        (slice · entry.1.offset entry.1.length) = some entry.2

instance (state : State) : Decidable state.Recorded := inferInstanceAs (Decidable (_ ∧ _))

/-- Calls and flushes of any number of tasks in any order of their moves, undisturbed,
then a last flush: no record is lost. -/
theorem undisturbed_records_survive (libraries : Libraries) (database : Database)
    (settings : Settings) (hkey : settings.s3AccessKey ≠ "") (first : String) (startedAt : Instant)
    (moves : List Move) (task : Nat) (last : String) (flushedAt : Instant) (final : State)
    (hrun : run (move libraries database settings) (.start settings first startedAt)
      (moves ++ finalFlush task last flushedAt) = some final)
    (hcalm : Along (move libraries database settings) Undisturbed
      (.start settings first startedAt) (moves ++ finalFlush task last flushedAt)) :
    final.Recorded := by
  have hrecoverable : Recoverable final :=
    run_invariant (fun _ _ _ h hcalm hmove => recoverable_move hkey h hcalm hmove)
      (recoverable_start first startedAt) hcalm hrun
  have hflushed : final.storage.writer.records = [] := by
    rw [show moves ++ finalFlush task last flushedAt =
        (moves ++ [.flush task last flushedAt, .putObject task]) ++
          [.resume task last flushedAt] by simp [finalFlush], run_append] at hrun
    obtain ⟨middle, -, hlast⟩ := Option.bind_eq_some_iff.mp hrun
    obtain ⟨next, hresume, hnext⟩ := run_cons_eq_some.mp hlast
    cases Option.some.inj hnext
    exact records_resume hresume
  refine ⟨hrecoverable.rows, fun entry hentry => ?_⟩
  cases hrecoverable.located entry hentry with
  | buffered _ hrecords _ _ => exact absurd hflushed hrecords
  | uploaded _ hobject hslice => rw [hobject, Option.map_some, hslice]

/-- One page, archived by one task and flushed by another. -/
theorem undisturbed_records_survive_page :
    ∃ final, run (move (framed digests) insertionOrder uploading)
        (.start uploading "warc/crawl-1" 0)
        ([.call 0 (page "https://a.example/1" [97]), .lookup 0 false,
            .write 0 1 "<urn:uuid:0>" 1 "" 0, .insert 0 1 false] ++
          finalFlush 1 "warc/crawl-2" 2) = some final ∧
      final.Recorded := by
  have hrun : (run (move (framed digests) insertionOrder uploading)
      (.start uploading "warc/crawl-1" 0)
      ([.call 0 (page "https://a.example/1" [97]), .lookup 0 false,
          .write 0 1 "<urn:uuid:0>" 1 "" 0, .insert 0 1 false] ++
        finalFlush 1 "warc/crawl-2" 2)).isSome = true := by
    decide +kernel
  obtain ⟨final, hfinal⟩ := Option.isSome_iff_exists.mp hrun
  refine ⟨final, hfinal, undisturbed_records_survive (framed digests) insertionOrder uploading
    (by decide) "warc/crawl-1" 0 _ 1 "warc/crawl-2" 2 final hfinal ?_⟩
  refine .cons (move_call rfl) trivial (.cons (move_lookup rfl) trivial (.cons
    (move_write_stays rfl (by decide +kernel)) ?_ (.cons (move_insert rfl) trivial ?_)))
  · rintro (_ | task)
    · exact id
    · exact id
  · refine .cons (move_flush (by decide) rfl) ?_ (.cons (move_putObject rfl) trivial
      ⟨⟨by decide +kernel, by decide +kernel⟩, fun _ _ => trivial⟩)
    rintro (_ | task)
    · exact id
    · exact id

/-- Two calls whose rotations overlap: the snapshot of the first is uploaded over the
file that holds both records. -/
def overlappingRotations : List Move := [
  .call 0 (page "https://a.example/1" [97]),
  .call 1 (page "https://a.example/2" [98]),
  .lookup 0 false,
  .lookup 1 false,
  .write 0 4000 "<urn:uuid:0>" 4000 "" 0,
  .write 1 4000 "<urn:uuid:1>" 4000 "" 0,
  .putObject 1,
  .putObject 0,
  .resume 0 "warc/crawl-2" 4001,
  .resume 1 "warc/crawl-3" 4001,
  .insert 0 1 false,
  .insert 1 2 false]

theorem overlapping_rotations_lose_record :
    ∃ final, run (move (framed digests) insertionOrder uploading)
        (.start uploading "warc/crawl-1" 0)
        (overlappingRotations ++ finalFlush 2 "warc/crawl-4" 4002) = some final ∧
      ¬ final.Recorded := by
  have hlost : (run (move (framed digests) insertionOrder uploading)
      (.start uploading "warc/crawl-1" 0)
      (overlappingRotations ++ finalFlush 2 "warc/crawl-4" 4002)).map
        (fun final => decide final.Recorded) = some false := by
    decide +kernel
  obtain ⟨final, hfinal, hrecorded⟩ := Option.map_eq_some_iff.mp hlost
  exact ⟨final, hfinal, of_decide_eq_false hrecorded⟩

end CrawlerApi.Warc
