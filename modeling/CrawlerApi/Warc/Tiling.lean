import CrawlerApi.Warc.Trace

/-!
# Where the rows point

What is written into a file lies in it without a gap, from its start to the size of what
is uploaded; each row names its file and its place in it.  A call that is cancelled in its
upload leaves a record without a row.
-/

namespace CrawlerApi.Warc

open Keys Fetch Foundation

/-- The intervals of the rows lead from `start` to `stop` without a gap. -/
def Tiles : Nat → List WarcIndex → Nat → Prop
  | start, [], stop => start = stop
  | start, row :: rows, stop => row.offset = start ∧ Tiles (start + row.length) rows stop

structure Places (before after : WarcWriter) (row : WarcIndex) : Prop where
  file : row.warcFilename = before.filename
  offset : row.offset = before.buffer.length
  contents : ∃ encoded, after.buffer = before.buffer ++ encoded ∧ encoded.length = row.length

def fileRows (rows : List WarcIndex) (name : String) : List WarcIndex :=
  rows.filter (·.warcFilename = name)

structure Tiled (names : List String) (writer : WarcWriter) (rows : List WarcIndex)
    (puts : List Put) : Prop where
  current : Tiles 0 (fileRows rows writer.filename) writer.buffer.length
  ongoing : ∀ sent ∈ puts, sent.outcome ≠ .error .cancelled → sent.key ≠ writer.filename
  ended : ∀ name, name ≠ writer.filename → ∃ stop, Tiles 0 (fileRows rows name) stop ∧
    ∀ sent ∈ puts, sent.key = name → sent.outcome ≠ .error .cancelled → sent.body.length = stop
  rowNames : ∀ row ∈ rows, row.warcFilename ∈ names
  putNames : ∀ sent ∈ puts, sent.key ∈ names
  named : writer.filename ∈ names

section Files

variable {names : List String} {writer next : WarcWriter} {rows : List WarcIndex}
  {puts : List Put} {row : WarcIndex} {sent : Put} {start stop : Nat} {name : String}

theorem Tiles.append (h : Tiles start rows stop) (hoffset : row.offset = stop) :
    Tiles start (rows ++ [row]) (stop + row.length) := by
  induction rows generalizing start with
  | nil =>
      cases h
      exact ⟨hoffset, rfl⟩
  | cons head rows ih => exact ⟨h.1, ih h.2⟩

theorem fileRows_append_of_same (h : row.warcFilename = name) :
    fileRows (rows ++ [row]) name = fileRows rows name ++ [row] := by
  unfold fileRows
  rw [List.filter_append, List.filter_cons_of_pos (by simpa using h), List.filter_nil]

theorem fileRows_append_of_ne (h : row.warcFilename ≠ name) :
    fileRows (rows ++ [row]) name = fileRows rows name := by
  unfold fileRows
  rw [List.filter_append, List.filter_cons_of_neg (by simpa using h), List.filter_nil,
    List.append_nil]

theorem tiled_start (settings : Settings) (filename : String) (now : Instant) :
    Tiled [filename] (.start settings filename now) [] [] where
  current := rfl
  ongoing := nofun
  ended _ _ := ⟨0, rfl, nofun⟩
  rowNames := nofun
  putNames := nofun
  named := List.mem_singleton_self _

theorem Tiled.write (h : Tiled names writer rows puts) (hplaces : Places writer next row)
    (hname : next.filename = writer.filename) : Tiled names next (rows ++ [row]) puts where
  current := by
    obtain ⟨encoded, hbuffer, hlength⟩ := hplaces.contents
    rw [hname, fileRows_append_of_same hplaces.file, hbuffer, List.length_append, hlength]
    exact h.current.append hplaces.offset
  ongoing sent hsent := hname ▸ h.ongoing sent hsent
  ended name hne := by
    rw [hname] at hne
    rw [fileRows_append_of_ne (by rw [hplaces.file]; exact hne.symm)]
    exact h.ended name hne
  rowNames other hother := by
    rcases List.mem_append.mp hother with hold | hnew
    · exact h.rowNames other hold
    · rw [List.mem_singleton.mp hnew, hplaces.file]
      exact h.named
  putNames := h.putNames
  named := hname ▸ h.named

theorem Tiled.cancelled (h : Tiled names writer rows puts) (hkey : sent.key = writer.filename)
    (hcancelled : sent.outcome = .error .cancelled) :
    Tiled names writer rows (puts ++ [sent]) where
  current := h.current
  ongoing other hother houtcome := by
    rcases List.mem_append.mp hother with hold | hnew
    · exact h.ongoing other hold houtcome
    · rw [List.mem_singleton.mp hnew] at houtcome
      exact absurd hcancelled houtcome
  ended name hne := by
    obtain ⟨stop, htiles, hputs⟩ := h.ended name hne
    refine ⟨stop, htiles, fun other hother hother' houtcome => ?_⟩
    rcases List.mem_append.mp hother with hold | hnew
    · exact hputs other hold hother' houtcome
    · rw [List.mem_singleton.mp hnew] at houtcome
      exact absurd hcancelled houtcome
  rowNames := h.rowNames
  putNames other hother := by
    rcases List.mem_append.mp hother with hold | hnew
    · exact h.putNames other hold
    · rw [List.mem_singleton.mp hnew, hkey]
      exact h.named
  named := h.named

theorem Tiled.renew (h : Tiled names writer rows puts) {filename : String}
    (hfresh : filename ∉ names) (settings : Settings) (now : Instant) {put : Option Put}
    (hput : ∀ sent ∈ put, sent.key = writer.filename ∧ sent.body = writer.buffer) :
    Tiled (names ++ [filename]) (.start settings filename now) rows (puts ++ put.toList) where
  current := by
    have hnone : fileRows rows filename = [] := by
      refine List.filter_eq_nil_iff.mpr fun row hrow hsame => ?_
      exact hfresh (of_decide_eq_true hsame ▸ h.rowNames row hrow)
    exact hnone ▸ rfl
  ongoing sent hsent _ hkey := by
    replace hkey : sent.key = filename := hkey
    rcases List.mem_append.mp hsent with hold | hnew
    · exact hfresh (hkey ▸ h.putNames sent hold)
    · rw [(hput sent (Option.mem_toList.mp hnew)).1] at hkey
      exact hfresh (hkey ▸ h.named)
  ended name hne := by
    by_cases hname : name = writer.filename
    · subst hname
      refine ⟨_, h.current, fun sent hsent hkey houtcome => ?_⟩
      rcases List.mem_append.mp hsent with hold | hnew
      · exact absurd hkey (h.ongoing sent hold houtcome)
      · rw [(hput sent (Option.mem_toList.mp hnew)).2]
    · obtain ⟨stop, htiles, hputs⟩ := h.ended name hname
      refine ⟨stop, htiles, fun sent hsent hkey houtcome => ?_⟩
      rcases List.mem_append.mp hsent with hold | hnew
      · exact hputs sent hold hkey houtcome
      · rw [(hput sent (Option.mem_toList.mp hnew)).1] at hkey
        exact absurd hkey.symm hname
  rowNames row hrow := List.mem_append_left _ (h.rowNames row hrow)
  putNames sent hsent := by
    refine List.mem_append_left _ ?_
    rcases List.mem_append.mp hsent with hold | hnew
    · exact h.putNames sent hold
    · rw [(hput sent (Option.mem_toList.mp hnew)).1]
      exact h.named
  named := List.mem_append_right _ (List.mem_singleton_self _)

theorem Tiled.forall_name (h : Tiled names writer rows puts) (name : String) :
    ∃ stop, Tiles 0 (fileRows rows name) stop ∧
      ∀ sent ∈ puts, sent.key = name → sent.outcome ≠ .error .cancelled →
        sent.body.length = stop := by
  by_cases hname : name = writer.filename
  · subst hname
    exact ⟨_, h.current, fun sent hsent hkey houtcome =>
      absurd hkey (h.ongoing sent hsent houtcome)⟩
  · exact h.ended name hname

end Files

namespace Depot

section System

variable (libraries : Libraries) (database : Database)

def writtenRows (served : List (Served Depot Action Traced)) : List WarcIndex :=
  served.filterMap fun entry =>
    match entry.action with
    | .archive call answers _ => some (entry.before.writtenRow libraries database call answers)
    | .shutdownFlush .. => none

end System

def puts (served : List (Served Depot Action Traced)) : List Put :=
  served.filterMap (·.output.put)

def names (filename : String) (served : List (Served Depot Action Traced)) : List String :=
  filename :: served.filterMap (·.output.opened)

/-- What a step saw of its database and of `_new_filename`. -/
structure Admitted (libraries : Libraries) (database : Database) (settings : Settings)
    (filename : String) (served : List (Served Depot Action Traced)) (depot : Depot)
    (action : Action) : Prop where
  succeeds : DatabaseSucceeds depot action
  fresh : ∀ opened ∈ (depot.trace libraries database settings action).2.opened,
    opened ∉ names filename served

section Runs

variable {libraries : Libraries} {database : Database} {settings : Settings} {filename : String}
  {depot : Depot} {call : ArchiveCall} {answers : Answers} {upload : Delivery Exn}
  {action : Action} {served : List (Served Depot Action Traced)}

theorem places_written : Places depot.storage.writer
    (depot.written libraries database call answers).2.writer
    (depot.writtenRow libraries database call answers) := by
  obtain ⟨built, record, -, hoffset, hlength, hwrite, -⟩ :=
    @Storage.write_cases libraries depot.storage call
      (depot.storage.lookup libraries database call answers.lookupFails) answers.writtenAt
      answers.recordId
  unfold writtenRow written
  rw [hwrite]
  exact ⟨rfl, hoffset, libraries.encode built, rfl, hlength.symm⟩

theorem filterMap_append_singleton {α β : Type} (f : α → Option β) (items : List α) (item : α) :
    (items ++ [item]).filterMap f = items.filterMap f ++ (f item).toList := by
  rw [List.filterMap_append]
  cases h : f item with
  | none => simp [h]
  | some found => simp [h]

/-- The rows, the uploads and the names of a run fit its writer. -/
def Covers (libraries : Libraries) (database : Database) (filename : String) (depot : Depot)
    (served : List (Served Depot Action Traced)) : Prop :=
  Tiled (names filename served) depot.storage.writer (writtenRows libraries database served)
    (puts served)

theorem Covers.step (h : Covers libraries database filename depot served)
    (hguard : Admitted libraries database settings filename served depot action) :
    Covers libraries database filename (depot.trace libraries database settings action).1
      (served ++ [⟨depot, action, (depot.trace libraries database settings action).2⟩]) := by
  obtain ⟨hdatabase, hfresh⟩ := hguard
  unfold Covers names puts writtenRows at h ⊢
  rw [filterMap_append_singleton, filterMap_append_singleton, filterMap_append_singleton,
    ← List.cons_append]
  cases action with
  | archive call answers upload =>
      have harchived := @archived_trace libraries database settings depot call answers upload
        hdatabase
      have hwritten := h.write (@places_written libraries database depot call answers)
        filename_written
      generalize (depot.trace libraries database settings
        (.archive call answers upload)).2 = traced at harchived hfresh ⊢
      generalize (depot.trace libraries database settings
        (.archive call answers upload)).1 = after at harchived ⊢
      generalize hstorage : after.storage = storage at harchived ⊢
      cases harchived with
      | kept =>
          simp only [Option.toList_none, List.append_nil]
          exact hwritten
      | rotated objects put hput =>
          refine hwritten.renew (hfresh _ rfl) settings answers.createdAt fun sent hsent => ?_
          exact ⟨(hput sent hsent).1.trans filename_written.symm, (hput sent hsent).2.1⟩
      | cancelled objects hcancelled =>
          simp only [Option.toList_none, List.append_nil]
          exact hwritten.cancelled filename_written.symm rfl
  | shutdownFlush upload filename now =>
      have hrotated := @Storage.rotated_rotateUnder settings depot.storage upload filename now
      unfold trace serve observe at hfresh ⊢
      dsimp only at hfresh ⊢
      generalize depot.storage.rotateUnder settings upload filename now = rotated at hrotated ⊢
      generalize depot.storage.rotationTraced settings upload filename now = traced
        at hrotated hfresh ⊢
      rw [Option.toList_none, List.append_nil]
      cases hrotated with
      | renewed objects put hput =>
          refine h.renew (hfresh _ rfl) settings now fun sent hsent => ?_
          exact ⟨(hput sent hsent).1, (hput sent hsent).2.1⟩
      | cancelled objects hcancelled =>
          simp only [Option.toList_none, List.append_nil]
          exact h.cancelled rfl rfl

/-- A call commits its row, unless it is cancelled in its upload. -/
theorem row_or_cancelled (hdatabase : DatabaseSucceeds depot (.archive call answers upload)) :
    let traced := (depot.trace libraries database settings (.archive call answers upload)).2
    traced.row = some (depot.writtenRow libraries database call answers) ∨
      traced.row = none ∧ ∃ sent ∈ traced.put, sent.outcome = .error .cancelled := by
  have harchived := @archived_trace libraries database settings depot call answers upload hdatabase
  dsimp only
  generalize (depot.trace libraries database settings (.archive call answers upload)).2 = traced
    at harchived ⊢
  generalize (depot.trace libraries database settings
    (.archive call answers upload)).1.storage = storage at harchived
  cases harchived with
  | kept => exact .inl rfl
  | rotated objects put hput => exact .inl rfl
  | cancelled objects hcancelled => exact .inr ⟨rfl, _, rfl, rfl⟩

theorem admitted_of_nodup {actions : List Action}
    (hdatabase : ∀ served ∈ transcript (trace libraries database settings) depot actions,
      DatabaseSucceeds served.before served.action)
    (hfresh : (names filename
      (transcript (trace libraries database settings) depot actions)).Nodup)
    (before : List (Served Depot Action Traced)) (entry : Served Depot Action Traced)
    (after : List (Served Depot Action Traced))
    (hsplit : transcript (trace libraries database settings) depot actions =
      before ++ entry :: after) :
    Admitted libraries database settings filename before entry.before entry.action := by
  have hmem : entry ∈ transcript (trace libraries database settings) depot actions := by
    rw [hsplit]
    exact List.mem_append_right _ List.mem_cons_self
  refine ⟨hdatabase entry hmem, fun opened hopened => ?_⟩
  rw [← output_of_mem_transcript hmem] at hopened
  unfold names at hfresh ⊢
  rw [hsplit, List.filterMap_append, ← List.cons_append, List.nodup_append] at hfresh
  have hafter : opened ∈ (entry :: after).filterMap (·.output.opened) :=
    List.mem_filterMap.mpr ⟨entry, List.mem_cons_self, hopened⟩
  exact fun hold => hfresh.2.2 opened hold opened hafter rfl

end Runs

/-- The files of a run: each row places its record in its file, and the records written to a file
lead from its start to the size of its upload; they are its rows, unless a call was cancelled in
its upload. -/
theorem records_tile {libraries : Libraries} {database : Database} {settings : Settings}
    {filename : String} {now : Instant} {actions : List Action}
    (hdatabase : ∀ served ∈ transcript (trace libraries database settings)
      (start settings filename now) actions, DatabaseSucceeds served.before served.action)
    (hfresh : (filename :: (transcript (trace libraries database settings)
      (start settings filename now) actions).filterMap (·.output.opened)).Nodup) :
    let served := transcript (trace libraries database settings) (start settings filename now)
      actions
    let rows := (serveAll (trace libraries database settings) (start settings filename now)
      actions).storage.rows
    (∀ entry ∈ served, ∀ call answers upload, entry.action = .archive call answers upload →
      Places entry.before.storage.writer
        (entry.before.written libraries database call answers).2.writer
        (entry.before.writtenRow libraries database call answers) ∧
      (entry.output.row = some (entry.before.writtenRow libraries database call answers) ∨
        entry.output.row = none ∧ ∃ sent ∈ entry.output.put, sent.outcome = .error .cancelled)) ∧
      rows = served.filterMap (·.output.row) ∧
      (∀ name, ∃ stop, Tiles 0 (fileRows (writtenRows libraries database served) name) stop ∧
        ∀ entry ∈ served, ∀ sent ∈ entry.output.put, sent.key = name →
          sent.outcome ≠ .error .cancelled → sent.body.length = stop) ∧
      ((∀ entry ∈ served, ∀ sent ∈ entry.output.put, sent.outcome ≠ .error .cancelled) →
        writtenRows libraries database served = rows) := by
  have hcovers : Covers libraries database filename
      (serveAll (trace libraries database settings) (start settings filename now) actions)
      ([] ++ transcript (trace libraries database settings) (start settings filename now)
        actions) :=
    history_invariant (Covers libraries database filename)
      (Admitted libraries database settings filename) (fun _ _ _ h hguard => h.step hguard)
      (tiled_start settings filename now) (admitted_of_nodup hdatabase hfresh)
  rw [List.nil_append] at hcovers
  have hrow : ∀ entry ∈ transcript (trace libraries database settings)
      (start settings filename now) actions, ∀ call answers upload,
      entry.action = .archive call answers upload →
      entry.output.row = some (entry.before.writtenRow libraries database call answers) ∨
        entry.output.row = none ∧ ∃ sent ∈ entry.output.put, sent.outcome = .error .cancelled := by
    intro entry hentry call answers upload haction
    have hsucceeds := hdatabase entry hentry
    rw [haction] at hsucceeds
    rw [output_of_mem_transcript hentry, haction]
    exact row_or_cancelled hsucceeds
  have hrows := @rows_serveAll libraries database settings (start settings filename now) actions
  refine ⟨fun entry hentry call answers upload haction =>
    ⟨places_written, hrow entry hentry call answers upload haction⟩, hrows, fun name => ?_, ?_⟩
  · obtain ⟨stop, htiles, hputs⟩ := Tiled.forall_name hcovers name
    refine ⟨stop, htiles, fun entry hentry sent hsent hkey houtcome => ?_⟩
    exact hputs sent (List.mem_filterMap.mpr ⟨entry, hentry, hsent⟩) hkey houtcome
  · intro hsettled
    rw [hrows]
    refine List.filterMap_congr fun entry hentry => ?_
    cases haction : entry.action with
    | archive call answers upload =>
        refine ((hrow entry hentry call answers upload haction).resolve_right ?_).symm
        rintro ⟨-, sent, hsent, hcancelled⟩
        exact hsettled entry hentry sent hsent hcancelled
    | shutdownFlush upload filename now =>
        rw [output_of_mem_transcript hentry, haction]
        rfl

def rotating : Settings where
  s3AccessKey := "minio"
  warcForceRotateEachWrite := true

def twoPages (upload : Delivery Exn) : List Action := [
  .archive (page "https://a.example/1" [97]) (answersFor 1 "warc/1") upload,
  .archive (page "https://a.example/2" [98]) (answersFor 2 "warc/2") .completes]

def twoPagesServed (upload : Delivery Exn) : List (Served Depot Action Traced) :=
  transcript (trace (framed digests) insertionOrder rotating) (start rotating "warc/0" 0)
    (twoPages upload)

theorem databaseSucceeds_twoPages {upload : Delivery Exn}
    (hfree : 2 ∉ ((start rotating "warc/0" 0).trace (framed digests) insertionOrder rotating
      (.archive (page "https://a.example/1" [97]) (answersFor 1 "warc/1")
        upload)).1.storage.rows.map WarcIndex.id) :
    ∀ served ∈ twoPagesServed upload, DatabaseSucceeds served.before served.action := by
  intro served hserved
  rcases List.mem_cons.mp hserved with rfl | hsecond
  · exact ⟨rfl, rfl, nofun⟩
  · rw [List.mem_singleton.mp hsecond]
    exact ⟨rfl, rfl, hfree⟩

theorem two_pages_tile :
    ∃ stop, Tiles 0 (fileRows (writtenRows (framed digests) insertionOrder
      (twoPagesServed .completes)) "warc/1") stop ∧
        ∀ entry ∈ twoPagesServed .completes, ∀ sent ∈ entry.output.put, sent.key = "warc/1" →
          sent.outcome ≠ .error .cancelled → sent.body.length = stop :=
  (records_tile (databaseSucceeds_twoPages (by decide +kernel)) (by decide +kernel)).2.2.1 "warc/1"

theorem rows_of_cancelled :
    (serveAll (trace (framed digests) insertionOrder rotating) (start rotating "warc/0" 0)
      (twoPages (.raises .cancelled false))).storage.rows.map
        (fun row => (row.warcFilename, row.offset)) = [("warc/0", 719)] := by
  decide +kernel

theorem not_tiles_of_gap {rows : List WarcIndex}
    (hrows : rows.map (fun row => (row.warcFilename, row.offset)) = [("warc/0", 719)])
    (stop : Nat) : ¬ Tiles 0 (fileRows rows "warc/0") stop := by
  intro htiles
  obtain ⟨row, rfl, hrow⟩ := List.map_eq_singleton_iff.mp hrows
  obtain ⟨hname, hoffset⟩ := Prod.mk.inj hrow
  rw [fileRows, List.filter_cons_of_pos (by simpa using hname)] at htiles
  exact absurd (hoffset.symm.trans htiles.1) (by decide)

theorem cancelled_upload_leaves_gap :
    ¬ ∀ libraries database settings filename now actions,
      (∀ served ∈ transcript (trace libraries database settings) (start settings filename now)
        actions, DatabaseSucceeds served.before served.action) →
      (filename :: (transcript (trace libraries database settings) (start settings filename now)
        actions).filterMap (·.output.opened)).Nodup →
      ∀ name, ∃ stop, Tiles 0 (fileRows (serveAll (trace libraries database settings)
        (start settings filename now) actions).storage.rows name) stop := by
  intro htile
  have hfresh : (names "warc/0" (twoPagesServed (.raises .cancelled false))).Nodup := by
    decide +kernel
  exact (htile (framed digests) insertionOrder rotating "warc/0" 0
    (twoPages (.raises .cancelled false)) (databaseSucceeds_twoPages (by decide +kernel)) hfresh
    "warc/0").elim (not_tiles_of_gap rows_of_cancelled)

end Depot

end CrawlerApi.Warc
