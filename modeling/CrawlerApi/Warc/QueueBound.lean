import CrawlerApi.Warc.DeadLetters

/-!
# The bound on the dead-letter queue

A store evicts before it writes, by the size of the data and the sizes on disk, an old copy
of its own entry among them.  The bound holds unless more than the bound is left of the
data, and others are evicted on account of an old copy.
-/

namespace CrawlerApi.Warc

open Keys Fetch Foundation

def StoredFile.IsData (file : StoredFile) : Bool :=
  match file.content with
  | .gzip _ => true
  | .json _ => false

def Writing.left {γ : Type} : Writing γ → Nat
  | .completes size => size
  | .refused => 0
  | .broken _ size => size

namespace Directory

def storedOf (entry : (_ : String) × StoredFile) : Option Stat :=
  if entry.2.IsData then some ⟨entry.2.mtime, entry.2.size, entry.1⟩ else none

/-- The stored entries, by their data files. -/
def stored (directory : Directory) : List Stat := directory.entries.filterMap storedOf

def storedBytes (directory : Directory) : Nat := totalOf Stat.size directory.stored

/-- The data files are the ones whose names are not those of meta files. -/
def Regular (directory : Directory) : Prop :=
  ∀ name file, directory.lookup name = some file → (file.IsData = true ↔ isMeta name = false)

/-- What goes is older than what stays, and does not fit beside the new entry with what is
younger; the copy the new entry replaces does not count for others. -/
structure EvictsAsNeeded (maxBytes incoming : Nat) (base : String) (before after : Directory) :
    Prop where
  oldest : ∀ gone ∈ before.stored, gone.name ∉ after → ∀ left ∈ before.stored,
    left.name ∈ after → left.name ≠ base → gone.Older left
  needed : ∀ gone ∈ before.stored, gone.name ∉ after →
    maxBytes < totalOf Stat.size (before.stored.filter fun other =>
      gone.Older other ∧ (other.name = base → gone.name = base)) + incoming
  kept : ∀ left ∈ before.stored, left.name ∈ after → left.name ≠ base →
    after.lookup left.name = before.lookup left.name

/-- The name is not one of a meta file, every entry can be looked at, what is left of the data is
not over the bound, and no other entry goes only for the copy that is replaced. -/
structure Fits (maxBytes : Nat) (directory : Directory) (call : StoreCall) : Prop where
  named : isMeta call.base = false
  looked : ∀ stat ∈ directory.stored, call.answers.statFails stat.name = false
  left : call.answers.dataWriting.left ≤ maxBytes
  replaced : ∀ gone ∈ directory.stored, gone.name ≠ call.base →
    maxBytes < totalOf Stat.size (directory.stored.filter (gone.Older ·)) + call.data.length →
      maxBytes < totalOf Stat.size (directory.stored.filter fun other =>
        gone.Older other ∧ other.name ≠ call.base) + call.data.length

section Facts

variable {directory before after : Directory} {answers : StoreAnswers} {call : StoreCall}
  {name : String} {file : StoredFile} {maxBytes : Nat} {stat : Stat}

theorem mem_stored : stat ∈ directory.stored ↔ ∃ file, directory.lookup stat.name = some file ∧
    file.IsData = true ∧ stat = ⟨file.mtime, file.size, stat.name⟩ := by
  unfold stored
  rw [List.mem_filterMap]
  constructor
  · rintro ⟨⟨name, file⟩, hentry, hstat⟩
    unfold storedOf at hstat
    split at hstat
    · rename_i hdata
      cases hstat
      exact ⟨file, AList.mem_lookup_iff.mpr hentry, hdata, rfl⟩
    · cases hstat
  · rintro ⟨file, hlookup, hdata, hstat⟩
    refine ⟨⟨stat.name, file⟩, AList.mem_lookup_iff.mp hlookup, ?_⟩
    unfold storedOf
    rw [if_pos hdata, ← hstat]

theorem stored_eq_listed (hregular : directory.Regular) : directory.stored = directory.listed := by
  unfold stored listed stats
  refine List.filterMap_congr fun entry hentry => ?_
  have hdata := hregular entry.1 entry.2 (AList.mem_lookup_iff.mpr hentry)
  unfold statOf storedOf
  by_cases hmeta : isMeta entry.1 = true
  · rw [if_neg (by rw [hdata, hmeta]; nofun), if_pos (.inl hmeta)]
  · rw [if_pos (hdata.mpr (Bool.eq_false_of_not_eq_true hmeta)), if_neg (by simpa using hmeta)]

theorem lookup_write_self {γ : Type} {writing : Writing γ} {content : Option γ → Content}
    {value : γ} {now : Instant} :
    (directory.write writing name content value now).1.lookup name = directory.lookup name ∧
        writing = .refused ∨
      ∃ left, (directory.write writing name content value now).1.lookup name =
        some ⟨content left, writing.left, now⟩ := by
  cases writing with
  | completes size => exact .inr ⟨some value, AList.lookup_insert directory⟩
  | refused => exact .inl ⟨rfl, rfl⟩
  | broken left size => exact .inr ⟨left, AList.lookup_insert directory⟩

/-- What a `store` leaves of the files in the room that was made. -/
structure Leaves (room after : Directory) (call : StoreCall) : Prop where
  other : ∀ name, name ≠ call.base → name ≠ metaName call.base →
    after.lookup name = room.lookup name
  data : after.lookup call.base = room.lookup call.base ∨ ∃ left, after.lookup call.base =
    some ⟨.gzip left, call.answers.dataWriting.left, call.answers.now⟩
  description : after.lookup (metaName call.base) = room.lookup (metaName call.base) ∨
    ∃ left, after.lookup (metaName call.base) =
      some ⟨.json left, call.answers.metaWriting.left, call.answers.now⟩

theorem leaves_storing (maxBytes : Nat) (directory : Directory) (call : StoreCall) :
    (storing maxBytes directory call).1 = directory ∨
      Leaves (directory.makeRoom call.answers maxBytes call.data.length)
        (storing maxBytes directory call).1 call := by
  have hne := ne_metaName_self call.base
  have hcases := directory.store_cases maxBytes call.filename call.data call.answers
  unfold storing
  generalize directory.makeRoom call.answers maxBytes call.data.length = room at hcases ⊢
  obtain ⟨returned, -, hstore⟩ | ⟨-, hstore⟩ | ⟨-, hstore⟩ := hcases
  · rw [hstore]
    exact .inl rfl
  · rw [hstore]
    refine .inr ⟨fun name hname _ => lookup_write_of_ne hname, ?_,
      .inl (lookup_write_of_ne hne.symm)⟩
    exact lookup_write_self.imp_left And.left
  · rw [hstore]
    refine .inr ⟨fun name hname hmeta => ?_, ?_, ?_⟩
    · exact (lookup_write_of_ne hmeta).trans (lookup_write_of_ne hname)
    · unfold StoreCall.base at hne ⊢
      rw [lookup_write_of_ne hne]
      exact lookup_write_self.imp_left And.left
    · unfold StoreCall.base at hne ⊢
      refine lookup_write_self.imp_left fun hrefused => ?_
      exact hrefused.1.trans (lookup_write_of_ne hne.symm)

section Step

variable {room : Directory} {gone keep : List Stat} {incoming : Nat}

theorem Leaves.lookup (hleaves : Leaves room after call) (hname : isMeta name = false)
    (hne : name ≠ call.base) : after.lookup name = room.lookup name :=
  hleaves.other name hne (ne_metaName hname)

theorem Regular.leaves (hregular : directory.Regular)
    (hroom : Room maxBytes incoming directory room gone keep)
    (hleaves : Leaves room after call) (hnamed : isMeta call.base = false) : after.Regular := by
  intro name file hlookup
  by_cases hbase : name = call.base
  · subst hbase
    rcases hleaves.data with hsame | ⟨left, hleft⟩
    · exact hregular _ _ (hroom.subset _ _ (hsame ▸ hlookup))
    · cases hleft.symm.trans hlookup
      exact iff_of_true rfl hnamed
  · by_cases hmeta : name = metaName call.base
    · subst hmeta
      rcases hleaves.description with hsame | ⟨left, hleft⟩
      · exact hregular _ _ (hroom.subset _ _ (hsame ▸ hlookup))
      · cases hleft.symm.trans hlookup
        rw [isMeta_metaName]
        exact iff_of_false Bool.false_ne_true (fun h => nomatch h)
    · rw [hleaves.other name hbase hmeta] at hlookup
      exact hregular _ _ (hroom.subset _ _ hlookup)

theorem stored_subset (hregular : directory.Regular)
    (hroom : Room maxBytes incoming directory room gone keep)
    (hleaves : Leaves room after call) (hnamed : isMeta call.base = false) :
    after.stored ⊆ ⟨call.answers.now, call.answers.dataWriting.left, call.base⟩ :: keep := by
  intro stat hmem
  rw [stored_eq_listed (hregular.leaves hroom hleaves hnamed)] at hmem
  obtain ⟨hname, file, hlookup, hstat⟩ := mem_listed.mp hmem
  have hkept (hsame : after.lookup stat.name = room.lookup stat.name) : stat ∈ keep := by
    rw [hsame] at hlookup
    have hbefore := mem_listed.mpr ⟨hname, file, hroom.subset _ _ hlookup, hstat⟩
    exact hroom.mem_keep hbefore hlookup
  by_cases hbase : stat.name = call.base
  · rcases hleaves.data with hsame | ⟨left, hleft⟩
    · exact List.mem_cons_of_mem _ (hkept (hbase ▸ hsame))
    · rw [hbase, hleft] at hlookup
      cases hlookup
      rw [hstat, hbase]
      exact List.mem_cons_self
  · exact List.mem_cons_of_mem _ (hkept (hleaves.lookup hname hbase))

theorem storedBytes_le (hregular : directory.Regular)
    (hroom : Room maxBytes incoming directory room gone keep)
    (hleaves : Leaves room after call) (hnamed : isMeta call.base = false)
    (hkeep : keep = [] ∨ totalOf Stat.size keep + call.data.length ≤ maxBytes)
    (hsize : call.answers.dataWriting.left ≤ call.data.length)
    (hleft : call.answers.dataWriting.left ≤ maxBytes) : after.storedBytes ≤ maxBytes := by
  have hnodup : after.stored.Nodup := by
    rw [stored_eq_listed (hregular.leaves hroom hleaves hnamed)]
    exact (nodup_names_listed after).of_map
  have htotal := @totalOf_le_of_subset _ Stat.size _ _ hnodup
    (stored_subset hregular hroom hleaves hnamed)
  unfold storedBytes
  rw [totalOf] at htotal
  rcases hkeep with rfl | hfits
  · exact htotal.trans hleft
  · dsimp only at htotal
    omega

theorem mem_after_of_keep (hroom : Room maxBytes incoming directory room gone keep)
    (hleaves : Leaves room after call) (h : stat ∈ keep) : stat.name ∈ after := by
  have hlisted := hroom.perm.subset (List.mem_append_right _ h)
  obtain ⟨hname, file, hlookup, -⟩ := mem_listed.mp hlisted
  have huntouched := (hroom.lookup_of_keep h).trans hlookup
  rw [mem_iff_lookup]
  by_cases hbase : stat.name = call.base
  · rw [hbase] at huntouched ⊢
    rcases hleaves.data with hsame | ⟨left, hleft⟩
    · exact ⟨file, hsame.trans huntouched⟩
    · exact ⟨_, hleft⟩
  · exact ⟨file, (hleaves.lookup hname hbase).trans huntouched⟩

theorem mem_keep_of_after (hroom : Room maxBytes incoming directory room gone keep)
    (hleaves : Leaves room after call) (h : stat ∈ directory.listed) (hmem : stat.name ∈ after)
    (hbase : stat.name ≠ call.base) : stat ∈ keep := by
  obtain ⟨file, hlookup⟩ := mem_iff_lookup.mp hmem
  rw [hleaves.lookup (mem_listed.mp h).1 hbase] at hlookup
  exact hroom.mem_keep h hlookup

theorem evictsAsNeeded_of_room (hregular : directory.Regular) (hfits : Fits maxBytes directory call)
    (hroom : Room maxBytes call.data.length directory room gone keep)
    (hleaves : Leaves room after call) :
    EvictsAsNeeded maxBytes call.data.length call.base directory after := by
  have hgone : ∀ stat ∈ directory.listed, stat.name ∉ after → stat ∈ gone := by
    intro stat hstat hmem
    refine (List.mem_append.mp (hroom.perm.symm.subset hstat)).resolve_right fun hkeep => ?_
    exact hmem (mem_after_of_keep hroom hleaves hkeep)
  have hreplaced := hfits.replaced
  rw [stored_eq_listed hregular] at hreplaced
  refine ⟨fun first hstored hmem left hleft hafter hbase => ?_, fun first hstored hmem => ?_,
    fun left hleft hafter hbase => ?_⟩
  · rw [stored_eq_listed hregular] at hstored hleft
    exact hroom.oldest first (hgone first hstored hmem) left
      (mem_keep_of_after hroom hleaves hleft hafter hbase)
  · rw [stored_eq_listed hregular] at hstored ⊢
    have hover := hroom.needed first (hgone first hstored hmem)
    by_cases hbase : first.name = call.base
    · simpa [hbase] using hover
    · simpa [hbase] using hreplaced first hstored hbase hover
  · rw [stored_eq_listed hregular] at hleft
    have hkeep := mem_keep_of_after hroom hleaves hleft hafter hbase
    exact (hleaves.lookup (mem_listed.mp hleft).1 hbase).trans (hroom.lookup_of_keep hkeep)

theorem evictsAsNeeded_self {incoming : Nat} {base : String} :
    EvictsAsNeeded maxBytes incoming base directory directory := by
  have hmem : ∀ stat ∈ directory.stored, stat.name ∈ directory := by
    intro stat hstat
    obtain ⟨file, hlookup, -⟩ := mem_stored.mp hstat
    exact mem_iff_lookup.mpr ⟨file, hlookup⟩
  refine ⟨fun gone hgone hnot => ?_, fun gone hgone hnot => ?_, fun _ _ _ _ => rfl⟩
  · exact absurd (hmem gone hgone) hnot
  · exact absurd (hmem gone hgone) hnot

/-- One `store` keeps the bound, and evicts in order and as needed. -/
theorem bounded_step (hregular : directory.Regular) (htotal : directory.storedBytes ≤ maxBytes)
    (hfits : Fits maxBytes directory call)
    (hremove : ∀ entry, call.answers.removeFails entry = false)
    (hsize : call.answers.dataWriting.left ≤ call.data.length) :
    (storing maxBytes directory call).1.Regular ∧
      (storing maxBytes directory call).1.storedBytes ≤ maxBytes ∧
      EvictsAsNeeded maxBytes call.data.length call.base directory
        (storing maxBytes directory call).1 := by
  rcases leaves_storing maxBytes directory call with hsame | hleaves
  · rw [hsame]
    exact ⟨hregular, htotal, evictsAsNeeded_self⟩
  · have hlooked := hfits.looked
    rw [stored_eq_listed hregular] at hlooked
    obtain ⟨gone, keep, hroom, hkeep⟩ := room_makeRoom hlooked
      (fun stat _ => ⟨hremove stat.name, hremove (metaName stat.name)⟩) maxBytes call.data.length
    refine ⟨hregular.leaves hroom hleaves hfits.named, ?_,
      evictsAsNeeded_of_room hregular hfits hroom hleaves⟩
    exact storedBytes_le hregular hroom hleaves hfits.named hkeep hsize hfits.left

end Step

end Facts

/-- In every run of stores that fit the queue stays in its bound, and evicts in the order of age
and no more than the new entry needs. -/
theorem stores_bounded {maxBytes : Nat} {directory : Directory} {calls : List StoreCall}
    (hregular : directory.Regular) (htotal : directory.storedBytes ≤ maxBytes)
    (hremove : ∀ call ∈ calls, ∀ entry, call.answers.removeFails entry = false)
    (hsize : ∀ call ∈ calls, call.answers.dataWriting.left ≤ call.data.length)
    (hfits : ∀ served ∈ transcript (storing maxBytes) directory calls,
      Fits maxBytes served.before served.action) :
    ∀ served ∈ transcript (storing maxBytes) directory calls,
      (storing maxBytes served.before served.action).1.storedBytes ≤ maxBytes ∧
        EvictsAsNeeded maxBytes served.action.data.length served.action.base served.before
          (storing maxBytes served.before served.action).1 := by
  induction calls generalizing directory with
  | nil => exact List.forall_mem_nil _
  | cons call calls ih =>
      obtain ⟨hfirst, hrest⟩ := List.forall_mem_cons.mp hfits
      obtain ⟨hregular', htotal', hevicts⟩ := bounded_step hregular htotal hfirst
        (hremove call List.mem_cons_self) (hsize call List.mem_cons_self)
      refine List.forall_mem_cons.mpr ⟨⟨htotal', hevicts⟩, ?_⟩
      exact ih hregular' htotal' (fun other hother => hremove other (List.mem_cons_of_mem _ hother))
        (fun other hother => hsize other (List.mem_cons_of_mem _ hother)) hrest

def twoBytes : StoreCall where
  filename := "warc/crawl.warc.gz"
  data := [1, 2]
  answers := {
    dataWriting := .completes 2
    metaWriting := .completes 60
    now := 1 }

theorem regular_empty : Regular ∅ := nofun

theorem two_bytes_bounded :
    (storing 2 ∅ twoBytes).1.storedBytes ≤ 2 ∧
      EvictsAsNeeded 2 2 twoBytes.base ∅ (storing 2 ∅ twoBytes).1 := by
  have hfits : Fits 2 ∅ twoBytes := ⟨by decide, nofun, Nat.le_refl 2, nofun⟩
  have hsize : twoBytes.answers.dataWriting.left ≤ twoBytes.data.length := Nat.le_refl 2
  exact stores_bounded regular_empty (Nat.zero_le 2)
    (List.forall_mem_singleton.mpr fun _ => rfl) (List.forall_mem_singleton.mpr hsize)
    (List.forall_mem_singleton.mpr hfits) _ List.mem_cons_self

theorem two_bytes_over_bound :
    ¬ ∀ (maxBytes : Nat) (calls : List StoreCall),
      (∀ call ∈ calls, ∀ entry, call.answers.removeFails entry = false) →
      (∀ call ∈ calls, 1 ≤ call.answers.dataWriting.left ∧
        call.answers.dataWriting.left ≤ call.data.length) →
      ∀ served ∈ transcript (storing maxBytes) ∅ calls,
        (storing maxBytes served.before served.action).1.storedBytes ≤ maxBytes := by
  intro hbounded
  have hsize : 1 ≤ twoBytes.answers.dataWriting.left ∧
      twoBytes.answers.dataWriting.left ≤ twoBytes.data.length := by decide
  have htotal := hbounded 1 [twoBytes] (List.forall_mem_singleton.mpr fun _ => rfl)
    (List.forall_mem_singleton.mpr hsize) _ List.mem_cons_self
  exact absurd htotal (by decide +kernel)

end Directory

end CrawlerApi.Warc
