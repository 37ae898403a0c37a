import CrawlerApi.Foundation.Eviction
import CrawlerApi.Warc.Trace
import Mathlib.Data.List.AList
import Mathlib.Data.List.Sort
import Mathlib.Data.Prod.Lex
import Mathlib.Data.String.Basic

/-!
# The dead-letter queue

`WarcDLQ` on the directory it keeps: two files for an entry, and an answer of the file
system for each of its calls.
-/

namespace CrawlerApi.Warc

open Keys Fetch Foundation

/-- What a file reads as: a compressed buffer, or the JSON document with the filename; nothing
where it cannot be read. -/
inductive Content where
  | gzip (data : Option Bytes)
  | json (filename : Option String)

structure StoredFile where
  content : Content
  size : Nat
  mtime : Instant

/-- The directory of the queue: its files by their names. -/
abbrev Directory := AList fun _ : String => StoredFile

def dlqMetaSuffix : String := ".meta.json"

/-- `entry.endswith(DLQ_META_SUFFIX)`. -/
def isMeta (entry : String) : Bool := dlqMetaSuffix.toList.isSuffixOf entry.toList

def metaName (entry : String) : String := entry ++ dlqMetaSuffix

/-- `filename.replace("/", "_")`. -/
def baseName (filename : String) : String :=
  String.ofList (filename.toList.map fun c => if c = '/' then '_' else c)

/-- What becomes of opening a file for writing, the write and the close: the file of that size,
the file that was there, or a file that reads as something else. -/
inductive Writing (γ : Type) where
  | completes (size : Nat)
  | refused
  | broken (left : Option γ) (size : Nat)

/-- What the file system and the clock answer in `store`. -/
structure StoreAnswers where
  makedirsFails : Bool := false
  listdirFails : Bool := false
  statFails : String → Bool := fun _ => false
  removeFails : String → Bool := fun _ => false
  existsFails : String → Bool := fun _ => false
  dataWriting : Writing Bytes
  metaWriting : Writing String
  now : Instant

/-- The arguments and the answers of a `store`. -/
structure StoreCall where
  filename : String
  data : Bytes
  answers : StoreAnswers

def StoreCall.base (call : StoreCall) : String := baseName call.filename

/-- An element of `entries`. -/
structure Stat where
  mtime : Instant
  size : Nat
  name : String
deriving DecidableEq, Repr

def Stat.Older (stat other : Stat) : Prop :=
  toLex (stat.mtime, toLex (stat.size, stat.name)) ≤
    toLex (other.mtime, toLex (other.size, other.name))

instance : DecidableRel Stat.Older := fun stat other =>
  inferInstanceAs (Decidable (toLex (stat.mtime, toLex (stat.size, stat.name)) ≤
    toLex (other.mtime, toLex (other.size, other.name))))

namespace Directory

def statOf (statFails : String → Bool) (entry : (_ : String) × StoredFile) : Option Stat :=
  if isMeta entry.1 ∨ statFails entry.1 then none
  else some ⟨entry.2.mtime, entry.2.size, entry.1⟩

def stats (directory : Directory) (statFails : String → Bool) : List Stat :=
  directory.entries.filterMap (statOf statFails)

/-- `entries` once it is sorted. -/
def oldestFirst (directory : Directory) (statFails : String → Bool) : List Stat :=
  (directory.stats statFails).insertionSort Stat.Older

def evict (directory : Directory) (answers : StoreAnswers) (entry : String) : Directory × Bool :=
  if answers.removeFails entry then (directory, false)
  else
    let removed := directory.erase entry
    if metaName entry ∈ removed ∧ ¬ answers.existsFails (metaName entry) then
      if answers.removeFails (metaName entry) then (removed, false)
      else (removed.erase (metaName entry), true)
    else (removed, true)

def evictOldest (answers : StoreAnswers) (maxBytes incoming : Nat) :
    Directory → Nat → List Stat → Directory
  | directory, _, [] => directory
  | directory, total, stat :: stats =>
      if maxBytes < total + incoming then
        let evicted := directory.evict answers stat.name
        evictOldest answers maxBytes incoming evicted.1
          (if evicted.2 then total - stat.size else total) stats
      else directory

/-- `_enforce_cap` behind its listing. -/
def makeRoom (directory : Directory) (answers : StoreAnswers) (maxBytes incoming : Nat) :
    Directory :=
  let stats := directory.oldestFirst answers.statFails
  evictOldest answers maxBytes incoming directory (totalOf Stat.size stats) stats

/-- `_enforce_cap`; the error of its listing goes through. -/
def enforceCap (directory : Directory) (answers : StoreAnswers) (maxBytes incoming : Nat) :
    Option Directory :=
  if answers.listdirFails then none else some (directory.makeRoom answers maxBytes incoming)

/-- A file is written, or left as the writing says. -/
def write {γ : Type} (directory : Directory) (writing : Writing γ) (name : String)
    (content : Option γ → Content) (value : γ) (now : Instant) : Directory × Bool :=
  match writing with
  | .completes size => (directory.insert name ⟨content (some value), size, now⟩, true)
  | .refused => (directory, false)
  | .broken left size => (directory.insert name ⟨content left, size, now⟩, false)

/-- `store`, and what it returns; it does not return when the listing fails. -/
def store (directory : Directory) (maxBytes : Nat) (filename : String) (data : Bytes)
    (answers : StoreAnswers) : Directory × Option Bool :=
  if answers.makedirsFails then (directory, some false)
  else
    match directory.enforceCap answers maxBytes data.length with
    | none => (directory, none)
    | some evicted =>
        let stored := evicted.write answers.dataWriting (baseName filename) .gzip data answers.now
        if stored.2 then
          let described := stored.1.write answers.metaWriting (metaName (baseName filename)) .json
            filename answers.now
          (described.1, some described.2)
        else (stored.1, some false)

def storing (maxBytes : Nat) (directory : Directory) (call : StoreCall) :
    Directory × Option Bool :=
  directory.store maxBytes call.filename call.data call.answers

end Directory

/-- What the file system and the bucket answer in `retry_uploads`; the listing has an order of
its own. -/
structure RetryAnswers where
  isDir : Bool := true
  listdirFails : Bool := false
  arrange : List String → List String
  perm : ∀ entries, (arrange entries).Perm entries
  readFails : String → Bool := fun _ => false
  putObject : String → Delivery Exn := fun _ => .completes
  removeFails : String → Bool := fun _ => false

def StoredFile.filename? (file : StoredFile) : Option String :=
  match file.content with
  | .json filename => filename
  | .gzip _ => none

def StoredFile.data? (file : StoredFile) : Option Bytes :=
  match file.content with
  | .gzip data => data
  | .json _ => none

/-- What `retry_uploads` did: its uploads, and what it returns when it was not cancelled. -/
structure Retried where
  puts : List Put := []
  succeeded : Option Nat := some 0

namespace Directory

/-- The entry as `retry_uploads` reads it: the key and the body of its upload. -/
def read (directory : Directory) (readFails : String → Bool) (entry : String) :
    Option (String × Bytes) :=
  if readFails (metaName entry) ∨ readFails entry then none
  else do
    let filename ← (directory.lookup (metaName entry)).bind StoredFile.filename?
    let data ← (directory.lookup entry).bind StoredFile.data?
    return (filename, data)

def removeEntry (directory : Directory) (removeFails : String → Bool) (entry : String) :
    Directory × Bool :=
  if removeFails entry then (directory, false)
  else if removeFails (metaName entry) then (directory.erase entry, false)
  else ((directory.erase entry).erase (metaName entry), true)

def retryEntries (answers : RetryAnswers) : Directory → List String → Directory × Retried
  | directory, [] => (directory, {})
  | directory, entry :: entries =>
      if isMeta entry then retryEntries answers directory entries
      else
        match directory.read answers.readFails entry with
        | none => retryEntries answers directory entries
        | some (filename, data) =>
            let put : Put := ⟨filename, data, (answers.putObject entry).outcome⟩
            match put.outcome with
            | .error .cancelled => (directory, { puts := [put], succeeded := none })
            | .error _ =>
                let rest := retryEntries answers directory entries
                (rest.1, { rest.2 with puts := put :: rest.2.puts })
            | .ok () =>
                let removed := directory.removeEntry answers.removeFails entry
                let rest := retryEntries answers removed.1 entries
                (rest.1, {
                  puts := put :: rest.2.puts
                  succeeded := rest.2.succeeded.map (· + removed.2.toNat) })

/-- `retry_uploads`. -/
def retryUploads (directory : Directory) (answers : RetryAnswers) : Directory × Retried :=
  if answers.isDir = false then (directory, {})
  else if answers.listdirFails then (directory, { succeeded := none })
  else retryEntries answers directory (answers.arrange directory.keys)

end Directory

section Names

theorem isMeta_metaName (entry : String) : isMeta (metaName entry) = true := by
  unfold isMeta metaName
  rw [String.toList_append, List.isSuffixOf_iff_suffix]
  exact List.suffix_append _ _

theorem ne_metaName {entry other : String} (h : isMeta entry = false) : entry ≠ metaName other := by
  rintro rfl
  rw [isMeta_metaName] at h
  cases h

theorem ne_metaName_self (entry : String) : entry ≠ metaName entry := by
  intro h
  have hlength := congrArg (fun name => name.toList.length) h
  unfold metaName at hlength
  rw [String.toList_append, List.length_append] at hlength
  exact absurd hlength (Nat.ne_of_lt (Nat.lt_add_of_pos_right (by decide)))

theorem metaName_injective {entry other : String} (h : metaName entry = metaName other) :
    entry = other := by
  have hlist := congrArg String.toList h
  unfold metaName at hlist
  rw [String.toList_append, String.toList_append] at hlist
  exact String.toList_inj.mp (List.append_cancel_right hlist)

theorem Stat.older_refl (stat : Stat) : stat.Older stat := le_refl _

instance : IsTrans Stat Stat.Older where
  trans _ _ _ := le_trans

instance : Std.Total Stat.Older where
  total _ _ := le_total _ _

end Names

namespace Directory

section Facts

variable {directory : Directory} {answers : StoreAnswers} {entry name : String} {file : StoredFile}
  {maxBytes incoming : Nat} {stats : List Stat} {stat : Stat}

theorem mem_iff_lookup : name ∈ directory ↔ ∃ file, directory.lookup name = some file := by
  rw [← AList.lookup_isSome, Option.isSome_iff_exists]

theorem lookup_evict_of_ne (hname : name ≠ entry) (hmeta : name ≠ metaName entry) :
    (directory.evict answers entry).1.lookup name = directory.lookup name := by
  unfold evict
  split
  · rfl
  · dsimp only
    split
    · split
      · exact AList.lookup_erase_ne hname
      · exact (AList.lookup_erase_ne hmeta).trans (AList.lookup_erase_ne hname)
    · exact AList.lookup_erase_ne hname

theorem lookup_evict_self (hremove : answers.removeFails entry = false)
    (hentry : isMeta entry = false) : (directory.evict answers entry).1.lookup entry = none := by
  have herased : (directory.erase entry).lookup entry = none := AList.lookup_erase entry directory
  unfold evict
  rw [if_neg (by rw [hremove]; exact Bool.false_ne_true)]
  dsimp only
  split
  · split
    · exact herased
    · exact (AList.lookup_erase_ne (ne_metaName hentry)).trans herased
  · exact herased

theorem lookup_of_evict (h : (directory.evict answers entry).1.lookup name = some file) :
    directory.lookup name = some file := by
  have hsubset {other : Directory} {gone : String}
      (hleft : (other.erase gone).lookup name = some file) : other.lookup name = some file := by
    by_cases hname : name = gone
    · rw [hname, AList.lookup_erase] at hleft
      cases hleft
    · rwa [AList.lookup_erase_ne hname] at hleft
  unfold evict at h
  split at h
  · exact h
  · dsimp only at h
    split at h
    · split at h
      · exact hsubset h
      · exact hsubset (hsubset h)
    · exact hsubset h

theorem evict_done (hdata : answers.removeFails entry = false)
    (hmeta : answers.removeFails (metaName entry) = false) :
    (directory.evict answers entry).2 = true := by
  unfold evict
  rw [if_neg (by rw [hdata]; exact Bool.false_ne_true)]
  dsimp only
  split
  · rw [if_neg (by rw [hmeta]; exact Bool.false_ne_true)]
  · rfl

def evictEach (answers : StoreAnswers) : Directory → List Stat → Directory
  | directory, [] => directory
  | directory, stat :: stats => evictEach answers (directory.evict answers stat.name).1 stats

theorem lookup_evictEach_of_ne
    (h : ∀ stat ∈ stats, name ≠ stat.name ∧ name ≠ metaName stat.name) :
    (evictEach answers directory stats).lookup name = directory.lookup name := by
  induction stats generalizing directory with
  | nil => rfl
  | cons stat stats ih =>
      obtain ⟨hfirst, hrest⟩ := List.forall_mem_cons.mp h
      exact (ih hrest).trans (lookup_evict_of_ne hfirst.1 hfirst.2)

theorem lookup_of_evictEach (h : (evictEach answers directory stats).lookup name = some file) :
    directory.lookup name = some file := by
  induction stats generalizing directory with
  | nil => exact h
  | cons stat stats ih => exact lookup_of_evict (ih h)

theorem lookup_evictEach_of_mem (hremove : ∀ stat ∈ stats, answers.removeFails stat.name = false)
    (hstat : stat ∈ stats) (hname : isMeta stat.name = false) :
    (evictEach answers directory stats).lookup stat.name = none := by
  induction stats generalizing directory with
  | nil => cases hstat
  | cons head stats ih =>
      obtain ⟨hfirst, hrest⟩ := List.forall_mem_cons.mp hremove
      rcases List.mem_cons.mp hstat with rfl | hlater
      · refine Option.eq_none_iff_forall_ne_some.mpr fun file hfile => ?_
        unfold evictEach at hfile
        have hleft := lookup_of_evictEach hfile
        rw [lookup_evict_self hfirst hname] at hleft
        cases hleft
      · exact ih hrest hlater

def Removes (answers : StoreAnswers) (stats : List Stat) : Prop :=
  ∀ stat ∈ stats, answers.removeFails stat.name = false ∧
    answers.removeFails (metaName stat.name) = false

/-- Where every removal succeeds the loop evicts what does not fit. -/
theorem evictOldest_eq (hremove : Removes answers stats) :
    evictOldest answers maxBytes incoming directory (totalOf Stat.size stats) stats =
      evictEach answers directory (evictUntilFitting Stat.size maxBytes incoming stats) := by
  induction stats generalizing directory with
  | nil => rfl
  | cons stat stats ih =>
      obtain ⟨hfirst, hrest⟩ := List.forall_mem_cons.mp hremove
      unfold evictOldest evictUntilFitting
      split
      · dsimp only
        rw [evict_done hfirst.1 hfirst.2, if_pos rfl, totalOf, Nat.add_sub_cancel_left]
        exact ih hrest
      · rfl

theorem evictOldest_of_fits {total : Nat} (h : total + incoming ≤ maxBytes) :
    evictOldest answers maxBytes incoming directory total stats = directory := by
  cases stats with
  | nil => rfl
  | cons stat stats => exact if_neg (Nat.not_lt_of_le h)

def listed (directory : Directory) : List Stat := directory.stats fun _ => false

theorem statOf_eq_some {statFails : String → Bool} {listing : (_ : String) × StoredFile} :
    statOf statFails listing = some stat ↔ isMeta stat.name = false ∧
      statFails stat.name = false ∧ stat = ⟨listing.2.mtime, listing.2.size, listing.1⟩ := by
  unfold statOf
  constructor
  · intro h
    split at h
    · cases h
    · rename_i hlooked
      cases h
      rw [not_or] at hlooked
      exact ⟨Bool.eq_false_of_not_eq_true hlooked.1, Bool.eq_false_of_not_eq_true hlooked.2, rfl⟩
  · rintro ⟨hmeta, hlooked, rfl⟩
    dsimp only at hmeta hlooked
    rw [hmeta, hlooked, if_neg (by simp)]

theorem mem_listed : stat ∈ directory.listed ↔ isMeta stat.name = false ∧
    ∃ file, directory.lookup stat.name = some file ∧
      stat = ⟨file.mtime, file.size, stat.name⟩ := by
  unfold listed stats
  rw [List.mem_filterMap]
  constructor
  · rintro ⟨⟨name, file⟩, hentry, hstat⟩
    obtain ⟨hmeta, -, rfl⟩ := statOf_eq_some.mp hstat
    exact ⟨hmeta, file, AList.mem_lookup_iff.mpr hentry, rfl⟩
  · rintro ⟨hmeta, file, hlookup, hstat⟩
    exact ⟨⟨stat.name, file⟩, AList.mem_lookup_iff.mp hlookup,
      statOf_eq_some.mpr ⟨hmeta, rfl, hstat⟩⟩

theorem nodup_names_listed (directory : Directory) : (directory.listed.map Stat.name).Nodup := by
  have hkeys := List.nodupKeys_iff_pairwise.mp directory.nodupKeys
  refine List.pairwise_map.mpr (hkeys.filterMap (statOf fun _ => false) ?_)
  intro first second hne stat hstat other hother heq
  obtain ⟨-, -, rfl⟩ := statOf_eq_some.mp hstat
  obtain ⟨-, -, rfl⟩ := statOf_eq_some.mp hother
  exact hne heq

theorem stats_eq_listed {statFails : String → Bool}
    (hlooked : ∀ stat ∈ directory.listed, statFails stat.name = false) :
    directory.stats statFails = directory.listed := by
  unfold listed stats
  refine List.filterMap_congr fun entry hentry => ?_
  refine Option.ext fun stat => ?_
  rw [statOf_eq_some, statOf_eq_some]
  refine and_congr_right fun hmeta => and_congr_left fun hstat => ?_
  refine iff_of_true (hlooked stat (mem_listed.mpr ⟨hmeta, entry.2, ?_, ?_⟩)) rfl
  · rw [hstat]
    exact AList.mem_lookup_iff.mpr hentry
  · rw [hstat]

/-- The room that was made: what went was older than what stayed, and did not fit beside the
incoming size with what is younger. -/
structure Room (maxBytes incoming : Nat) (directory room : Directory) (gone keep : List Stat) :
    Prop where
  perm : (gone ++ keep).Perm directory.listed
  removed : ∀ stat ∈ gone, room.lookup stat.name = none
  untouched : ∀ name, isMeta name = false → name ∉ gone.map Stat.name →
    room.lookup name = directory.lookup name ∧
      room.lookup (metaName name) = directory.lookup (metaName name)
  subset : ∀ name file, room.lookup name = some file → directory.lookup name = some file
  oldest : ∀ stat ∈ gone, ∀ left ∈ keep, stat.Older left
  needed : ∀ stat ∈ gone,
    maxBytes < totalOf Stat.size (directory.listed.filter (stat.Older ·)) + incoming

theorem room_self (directory : Directory) (maxBytes incoming : Nat) :
    Room maxBytes incoming directory directory [] directory.listed where
  perm := .refl _
  removed := nofun
  untouched _ _ _ := ⟨rfl, rfl⟩
  subset _ _ := id
  oldest := nofun
  needed := nofun

theorem makeRoom_eq_self
    (h : totalOf Stat.size (directory.stats answers.statFails) + incoming ≤ maxBytes) :
    directory.makeRoom answers maxBytes incoming = directory := by
  refine evictOldest_of_fits ?_
  have hperm : (directory.oldestFirst answers.statFails).Perm
      (directory.stats answers.statFails) := List.perm_insertionSort Stat.Older _
  rwa [totalOf_perm hperm]

theorem room_makeRoom
    (hlooked : ∀ stat ∈ directory.listed, answers.statFails stat.name = false)
    (hremove : Removes answers directory.listed) (maxBytes incoming : Nat) :
    ∃ gone keep, Room maxBytes incoming directory
      (directory.makeRoom answers maxBytes incoming) gone keep ∧
      (keep = [] ∨ totalOf Stat.size keep + incoming ≤ maxBytes) := by
  have hperm : (directory.oldestFirst answers.statFails).Perm directory.listed := by
    unfold oldestFirst
    rw [stats_eq_listed hlooked]
    exact List.perm_insertionSort Stat.Older _
  have hsorted : (directory.oldestFirst answers.statFails).Pairwise Stat.Older :=
    List.pairwise_insertionSort Stat.Older _
  unfold makeRoom
  dsimp only
  generalize directory.oldestFirst answers.statFails = stats at hperm hsorted
  have hparts := @evict_append_keep _ Stat.size maxBytes incoming stats
  rw [evictOldest_eq fun stat hstat => hremove stat (hperm.subset hstat)]
  refine ⟨evictUntilFitting Stat.size maxBytes incoming stats,
    keepFitting Stat.size maxBytes incoming stats, ⟨?_, fun stat hstat => ?_, ?_, ?_, ?_, ?_⟩,
    keepFitting_fits stats⟩
  · rw [hparts]
    exact hperm
  · have hgone (other : Stat) (hother : other ∈ evictUntilFitting Stat.size maxBytes incoming
        stats) : other ∈ directory.listed :=
      hperm.subset (hparts ▸ List.mem_append_left _ hother)
    exact lookup_evictEach_of_mem (fun other hother => (hremove other (hgone other hother)).1) hstat
      (mem_listed.mp (hgone stat hstat)).1
  · intro name hname hgone
    refine ⟨lookup_evictEach_of_ne fun stat hstat => ⟨?_, ne_metaName hname⟩,
      lookup_evictEach_of_ne fun stat hstat => ⟨?_, fun heq => ?_⟩⟩
    · rintro rfl
      exact hgone (List.mem_map_of_mem hstat)
    · have hmem := hperm.subset (hparts ▸ List.mem_append_left _ hstat)
      exact (ne_metaName (mem_listed.mp hmem).1).symm
    · exact hgone (metaName_injective heq ▸ List.mem_map_of_mem hstat)
  · exact fun name file => lookup_of_evictEach
  · exact fun stat hstat left hleft => before_of_evict_of_keep hsorted hstat hleft
  · intro stat hstat
    rw [← totalOf_perm (hperm.filter _)]
    exact overflows_of_ordered Stat.older_refl hsorted hstat

section Rooms

variable {room : Directory} {gone keep : List Stat}

theorem Room.mem_keep (hroom : Room maxBytes incoming directory room gone keep)
    (h : stat ∈ directory.listed) (hlookup : room.lookup stat.name = some file) :
    stat ∈ keep := by
  refine (List.mem_append.mp (hroom.perm.symm.subset h)).resolve_left fun hgone => ?_
  rw [hroom.removed stat hgone] at hlookup
  cases hlookup

theorem Room.lookup_of_keep (hroom : Room maxBytes incoming directory room gone keep)
    (h : stat ∈ keep) : room.lookup stat.name = directory.lookup stat.name := by
  have hlisted := hroom.perm.subset (List.mem_append_right _ h)
  refine (hroom.untouched _ (mem_listed.mp hlisted).1 fun hmem => ?_).1
  have hnames := (hroom.perm.map Stat.name).nodup_iff.mpr (nodup_names_listed directory)
  rw [List.map_append, List.nodup_append] at hnames
  exact hnames.2.2 _ hmem _ (List.mem_map_of_mem h) rfl

end Rooms

theorem lookup_write_of_ne {γ : Type} {writing : Writing γ} {content : Option γ → Content}
    {value : γ} {now : Instant} {other : String} (h : name ≠ other) :
    (directory.write writing other content value now).1.lookup name = directory.lookup name := by
  cases writing with
  | completes size => exact AList.lookup_insert_ne h
  | refused => rfl
  | broken left size => exact AList.lookup_insert_ne h

/-- What a `store` can do: nothing, or make room and write, the description behind the data. -/
theorem store_cases (directory : Directory) (maxBytes : Nat) (filename : String) (data : Bytes)
    (answers : StoreAnswers) :
    (∃ returned, returned ≠ some true ∧
      directory.store maxBytes filename data answers = (directory, returned)) ∨
    let stored := (directory.makeRoom answers maxBytes data.length).write answers.dataWriting
      (baseName filename) .gzip data answers.now
    let described := stored.1.write answers.metaWriting (metaName (baseName filename)) .json
      filename answers.now
    stored.2 = false ∧ directory.store maxBytes filename data answers = (stored.1, some false) ∨
      stored.2 = true ∧ directory.store maxBytes filename data answers =
        (described.1, some described.2) := by
  unfold store enforceCap
  by_cases hmakedirs : answers.makedirsFails = true
  · rw [if_pos hmakedirs]
    exact .inl ⟨some false, nofun, rfl⟩
  · rw [if_neg hmakedirs]
    by_cases hlistdir : answers.listdirFails = true
    · rw [if_pos hlistdir]
      exact .inl ⟨none, nofun, rfl⟩
    · rw [if_neg hlistdir]
      refine .inr ?_
      dsimp only
      split
      · rename_i hstored
        exact .inr ⟨hstored, rfl⟩
      · rename_i hstored
        exact .inl ⟨Bool.eq_false_of_not_eq_true hstored, rfl⟩

end Facts

end Directory

end CrawlerApi.Warc
