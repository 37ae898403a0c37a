import CrawlerApi.Warc.DeadLetters

/-!
# What the dead-letter queue keeps

A stored entry stays until it is uploaded as it is, or goes as the oldest to make room, in
every run whose stores take a name of their own, that is not one of a meta file, and are
refused or written as a whole, with no failure among their evictions.
-/

namespace CrawlerApi.Warc

open Keys Fetch Foundation

namespace Directory

/-- The entry is in the queue, and will be uploaded as it is. -/
structure Queued (directory : Directory) (filename : String) (data : Bytes) : Prop where
  named : isMeta (baseName filename) = false
  data : (directory.lookup (baseName filename)).bind StoredFile.data? = some data
  description :
    (directory.lookup (metaName (baseName filename))).bind StoredFile.filename? = some filename

inductive QueueAction where
  | store (call : StoreCall)
  | retryUploads (answers : RetryAnswers)

structure QueueSeen where
  stored : Option Bool := none
  puts : List Put := []

def serveQueue (maxBytes : Nat) (directory : Directory) : QueueAction → Directory × QueueSeen
  | .store call =>
      let stored := storing maxBytes directory call
      (stored.1, { stored := stored.2 })
  | .retryUploads answers =>
      let retried := directory.retryUploads answers
      (retried.1, { puts := retried.2.puts })

/-- The entry goes as the oldest of those there are, to make room for the data of the call. -/
def EvictedAsOldest (maxBytes : Nat) (before after : Directory) (call : StoreCall)
    (entry : String) : Prop :=
  ∃ gone ∈ before.listed, gone.name = entry ∧
    (∀ left ∈ before.listed, left.name ∈ after → left.name ≠ call.base → gone.Older left) ∧
    maxBytes < totalOf Stat.size (before.listed.filter (gone.Older ·)) + call.data.length

def Uploaded (seen : QueueSeen) (filename : String) (data : Bytes) : Prop :=
  ∃ sent ∈ seen.puts, sent.key = filename ∧ sent.body = data ∧ sent.outcome = .ok ()

structure LosesNothing (maxBytes : Nat) (before : Directory) (action : QueueAction)
    (after : Directory) (seen : QueueSeen) : Prop where
  stored : ∀ call, action = .store call → seen.stored = some true →
    after.Queued call.filename call.data
  kept : ∀ filename data, before.Queued filename data → after.Queued filename data ∨
    Uploaded seen filename data ∨
      ∃ call, action = .store call ∧
        EvictedAsOldest maxBytes before after call (baseName filename)
  failed : ∀ call, action = .store call → seen.stored ≠ some true → ∀ entry file,
    isMeta entry = false → after.lookup entry = some file →
      before.lookup entry = some file ∧
        after.lookup (metaName entry) = before.lookup (metaName entry)

def WritesWhole (answers : StoreAnswers) : Prop :=
  answers.dataWriting = .refused ∨
    ∃ size described, answers.dataWriting = .completes size ∧
      answers.metaWriting = .completes described

structure Careful (maxBytes : Nat) (directory : Directory) (call : StoreCall) : Prop where
  named : isMeta call.base = false
  own : ∀ filename data, directory.Queued filename data → baseName filename = call.base →
    filename = call.filename ∧ data = call.data
  whole : WritesWhole call.answers
  room : totalOf Stat.size (directory.stats call.answers.statFails) + call.data.length ≤ maxBytes ∨
    (∀ stat ∈ directory.listed, call.answers.statFails stat.name = false) ∧
      Removes call.answers directory.listed

def Harmless (maxBytes : Nat) (directory : Directory) : QueueAction → Prop
  | .store call => Careful maxBytes directory call
  | .retryUploads _ => True

def withEntry (room : Directory) (call : StoreCall) (size described : Nat) : Directory :=
  (room.insert call.base ⟨.gzip (some call.data), size, call.answers.now⟩).insert
    (metaName call.base) ⟨.json (some call.filename), described, call.answers.now⟩

section Facts

variable {directory before after room : Directory} {answers : StoreAnswers} {call : StoreCall}
  {filename : String} {data : Bytes} {maxBytes incoming : Nat} {gone keep : List Stat}

theorem exists_room (h : Careful maxBytes directory call) :
    ∃ gone keep, Room maxBytes call.data.length directory
      (directory.makeRoom call.answers maxBytes call.data.length) gone keep := by
  rcases h.room with hfits | ⟨hlooked, hremove⟩
  · rw [makeRoom_eq_self hfits]
    exact ⟨[], directory.listed, room_self directory maxBytes _⟩
  · obtain ⟨gone, keep, hroom, -⟩ := room_makeRoom hlooked hremove maxBytes call.data.length
    exact ⟨gone, keep, hroom⟩

theorem Queued.of_lookup (h : before.Queued filename data)
    (hdata : after.lookup (baseName filename) = before.lookup (baseName filename))
    (hmeta : after.lookup (metaName (baseName filename)) =
      before.lookup (metaName (baseName filename))) : after.Queued filename data :=
  ⟨h.named, by rw [hdata]; exact h.data, by rw [hmeta]; exact h.description⟩

theorem evictedAsOldest_of_gone (hroom : Room maxBytes call.data.length directory room gone keep)
    (hafter : ∀ name, isMeta name = false → name ≠ call.base →
      after.lookup name = room.lookup name)
    {entry : String} (hgone : entry ∈ gone.map Stat.name) :
    EvictedAsOldest maxBytes directory after call entry := by
  obtain ⟨stat, hstat, rfl⟩ := List.mem_map.mp hgone
  refine ⟨stat, hroom.perm.subset (List.mem_append_left _ hstat), rfl,
    fun left hleft hmem hbase => ?_, hroom.needed stat hstat⟩
  obtain ⟨file, hlookup⟩ := mem_iff_lookup.mp hmem
  rw [hafter _ (mem_listed.mp hleft).1 hbase] at hlookup
  exact hroom.oldest stat hstat left (hroom.mem_keep hleft hlookup)

theorem Queued.of_room (h : directory.Queued filename data)
    (hroom : Room maxBytes call.data.length directory room gone keep)
    (hafter : ∀ name, isMeta name = false → name ≠ call.base →
      after.lookup name = room.lookup name)
    (hdata : after.lookup (baseName filename) = room.lookup (baseName filename))
    (hmeta : after.lookup (metaName (baseName filename)) =
      room.lookup (metaName (baseName filename))) :
    after.Queued filename data ∨
      EvictedAsOldest maxBytes directory after call (baseName filename) := by
  by_cases hgone : baseName filename ∈ gone.map Stat.name
  · exact .inr (evictedAsOldest_of_gone hroom hafter hgone)
  · obtain ⟨hdata', hmeta'⟩ := hroom.untouched _ h.named hgone
    exact .inl (h.of_lookup (hdata.trans hdata') (hmeta.trans hmeta'))

theorem queued_withEntry {size described : Nat} (hnamed : isMeta call.base = false) :
    (room.withEntry call size described).Queued call.filename call.data := by
  have hne := ne_metaName_self call.base
  unfold withEntry
  unfold StoreCall.base at hne hnamed ⊢
  refine ⟨hnamed, ?_, ?_⟩
  · rw [AList.lookup_insert_ne hne, AList.lookup_insert]
    rfl
  · rw [AList.lookup_insert]
    rfl

theorem losesNothing_self {returned : Option Bool} (hreturned : returned ≠ some true) :
    LosesNothing maxBytes directory (.store call) directory { stored := returned } where
  stored _ _ h := absurd h hreturned
  kept _ _ h := .inl h
  failed _ _ _ _ _ _ h := ⟨h, rfl⟩

theorem losesNothing_room (hroom : Room maxBytes call.data.length directory room gone keep)
    {returned : Option Bool} (hreturned : returned ≠ some true) :
    LosesNothing maxBytes directory (.store call) room { stored := returned } where
  stored _ _ h := absurd h hreturned
  kept filename data h := by
    refine (h.of_room hroom (fun _ _ _ => rfl) rfl rfl).imp_right fun hevicted => ?_
    exact .inr ⟨call, rfl, hevicted⟩
  failed _ _ _ entry file hentry hlookup := by
    have hbefore := hroom.subset _ _ hlookup
    refine ⟨hbefore, (hroom.untouched entry hentry fun hgone => ?_).2⟩
    obtain ⟨stat, hstat, rfl⟩ := List.mem_map.mp hgone
    rw [hroom.removed stat hstat] at hlookup
    cases hlookup

theorem losesNothing_written (hcareful : Careful maxBytes directory call)
    (hroom : Room maxBytes call.data.length directory room gone keep) (size described : Nat) :
    LosesNothing maxBytes directory (.store call) (room.withEntry call size described)
      { stored := some true } := by
  have hself := @queued_withEntry room call size described hcareful.named
  have hafter (name : String) (hbase : name ≠ call.base) (hmeta : name ≠ metaName call.base) :
      (room.withEntry call size described).lookup name = room.lookup name :=
    (AList.lookup_insert_ne hmeta).trans (AList.lookup_insert_ne hbase)
  refine ⟨?_, fun filename data h => ?_, fun _ _ h => absurd rfl h⟩
  · intro other hother _
    cases hother
    exact hself
  · by_cases hbase : baseName filename = call.base
    · obtain ⟨rfl, rfl⟩ := hcareful.own filename data h hbase
      exact .inl hself
    · have hname := hafter _ hbase (ne_metaName h.named)
      have hmeta := hafter (metaName (baseName filename)) (ne_metaName hcareful.named).symm
        fun heq => hbase (metaName_injective heq)
      refine (h.of_room hroom (fun name hnamed hne => hafter name hne (ne_metaName hnamed)) hname
        hmeta).imp_right fun hevicted => ?_
      exact .inr ⟨call, rfl, hevicted⟩

theorem losesNothing_store (hcareful : Careful maxBytes directory call) :
    LosesNothing maxBytes directory (.store call) (serveQueue maxBytes directory (.store call)).1
      (serveQueue maxBytes directory (.store call)).2 := by
  obtain ⟨gone, keep, hroom⟩ := exists_room hcareful
  have hcases := directory.store_cases maxBytes call.filename call.data call.answers
  unfold serveQueue storing
  dsimp only
  generalize directory.makeRoom call.answers maxBytes call.data.length = room at hcases hroom
  rcases hcareful.whole with hrefused | ⟨size, described, hdata, hmeta⟩
  · unfold write at hcases
    rw [hrefused] at hcases
    obtain ⟨returned, hreturned, hstore⟩ | ⟨-, hstore⟩ | ⟨hstored, -⟩ := hcases
    · rw [hstore]
      exact losesNothing_self hreturned
    · rw [hstore]
      exact losesNothing_room hroom nofun
    · cases hstored
  · unfold write at hcases
    rw [hdata, hmeta] at hcases
    obtain ⟨returned, hreturned, hstore⟩ | ⟨hstored, -⟩ | ⟨-, hstore⟩ := hcases
    · rw [hstore]
      exact losesNothing_self hreturned
    · cases hstored
    · rw [hstore]
      exact losesNothing_written hcareful hroom size described

section Retry

variable {answers : RetryAnswers} {entry key : String} {body : Bytes} {entries : List String}

theorem Queued.read (h : directory.Queued filename data) {readFails : String → Bool}
    (hread : directory.read readFails (baseName filename) = some (key, body)) :
    key = filename ∧ body = data := by
  unfold Directory.read at hread
  split at hread
  · cases hread
  · rw [h.description, h.data] at hread
    cases hread
    exact ⟨rfl, rfl⟩

theorem lookup_removeEntry {name : String} {removeFails : String → Bool} (hname : name ≠ entry)
    (hmeta : name ≠ metaName entry) :
    (directory.removeEntry removeFails entry).1.lookup name = directory.lookup name := by
  unfold removeEntry
  split
  · rfl
  · split
    · exact AList.lookup_erase_ne hname
    · exact (AList.lookup_erase_ne hmeta).trans (AList.lookup_erase_ne hname)

theorem Queued.removeEntry (h : directory.Queued filename data) {removeFails : String → Bool}
    (hentry : isMeta entry = false) (hne : baseName filename ≠ entry) :
    (directory.removeEntry removeFails entry).1.Queued filename data := by
  refine h.of_lookup (lookup_removeEntry hne (ne_metaName h.named)) (lookup_removeEntry ?_ ?_)
  · exact (ne_metaName hentry).symm
  · exact fun heq => hne (metaName_injective heq)

theorem Queued.retryEntries (h : directory.Queued filename data) :
    (retryEntries answers directory entries).1.Queued filename data ∨
      ∃ sent ∈ (retryEntries answers directory entries).2.puts,
        sent.key = filename ∧ sent.body = data ∧ sent.outcome = .ok () := by
  induction entries generalizing directory with
  | nil => exact .inl h
  | cons entry entries ih =>
      unfold Directory.retryEntries
      split
      · exact ih h
      · rename_i hentry
        split
        · exact ih h
        · rename_i key body hread
          dsimp only
          split
          · exact .inl h
          · refine (ih h).imp_right fun ⟨sent, hsent, huploaded⟩ => ?_
            exact ⟨sent, List.mem_cons_of_mem _ hsent, huploaded⟩
          · rename_i houtcome
            by_cases hbase : baseName filename = entry
            · subst hbase
              obtain ⟨hkey, hbody⟩ := h.read hread
              exact .inr ⟨_, List.mem_cons_self, hkey, hbody, houtcome⟩
            · have hkept := @Queued.removeEntry _ _ _ _ h answers.removeFails
                (Bool.eq_false_of_not_eq_true hentry) hbase
              refine (ih hkept).imp_right fun ⟨sent, hsent, huploaded⟩ => ?_
              exact ⟨sent, List.mem_cons_of_mem _ hsent, huploaded⟩

theorem losesNothing_retryUploads :
    LosesNothing maxBytes directory (.retryUploads answers)
      (serveQueue maxBytes directory (.retryUploads answers)).1
      (serveQueue maxBytes directory (.retryUploads answers)).2 where
  stored _ h := nomatch h
  kept filename data h := by
    unfold serveQueue retryUploads
    dsimp only
    split
    · exact .inl h
    · split
      · exact .inl h
      · exact h.retryEntries.imp_right .inl
  failed _ h := nomatch h

end Retry

theorem losesNothing_serveQueue {action : QueueAction} (h : Harmless maxBytes directory action) :
    LosesNothing maxBytes directory action (serveQueue maxBytes directory action).1
      (serveQueue maxBytes directory action).2 := by
  cases action with
  | store call => exact losesNothing_store h
  | retryUploads answers => exact losesNothing_retryUploads

end Facts

/-- A step in which the entry is uploaded, or goes as the oldest to make room. -/
def Settles (maxBytes : Nat) (served : Served Directory QueueAction QueueSeen) (filename : String)
    (data : Bytes) : Prop :=
  Uploaded served.output filename data ∨
    ∃ call, served.action = .store call ∧ EvictedAsOldest maxBytes served.before
      (serveQueue maxBytes served.before served.action).1 call (baseName filename)

theorem queued_until_settled {maxBytes : Nat} {directory : Directory} {filename : String}
    {data : Bytes} {actions : List QueueAction} (h : directory.Queued filename data)
    (hharmless : ∀ served ∈ transcript (serveQueue maxBytes) directory actions,
      Harmless maxBytes served.before served.action) :
    (serveAll (serveQueue maxBytes) directory actions).Queued filename data ∨
      ∃ served ∈ transcript (serveQueue maxBytes) directory actions,
        Settles maxBytes served filename data := by
  induction actions generalizing directory with
  | nil => exact .inl h
  | cons action actions ih =>
      obtain ⟨hfirst, hrest⟩ := List.forall_mem_cons.mp hharmless
      rcases (losesNothing_serveQueue hfirst).kept filename data h with hkept | hsettled
      · refine (ih hkept hrest).imp_right fun ⟨served, hserved, hsettles⟩ => ?_
        exact ⟨served, List.mem_cons_of_mem _ hserved, hsettles⟩
      · exact .inr ⟨_, List.mem_cons_self, hsettled⟩

theorem stored_until_settled {maxBytes : Nat} {directory : Directory} {actions : List QueueAction}
    {before after : List (Served Directory QueueAction QueueSeen)}
    {stored : Served Directory QueueAction QueueSeen} {call : StoreCall}
    (hharmless : ∀ served ∈ transcript (serveQueue maxBytes) directory actions,
      Harmless maxBytes served.before served.action)
    (hsplit : transcript (serveQueue maxBytes) directory actions = before ++ stored :: after)
    (haction : stored.action = .store call) (hstored : stored.output.stored = some true) :
    (serveAll (serveQueue maxBytes) directory actions).Queued call.filename call.data ∨
      ∃ served ∈ after, Settles maxBytes served call.filename call.data := by
  induction before generalizing directory actions with
  | nil =>
      cases actions with
      | nil => cases hsplit
      | cons action actions =>
          obtain ⟨rfl, rfl⟩ := List.cons.inj hsplit
          obtain ⟨hfirst, hrest⟩ := List.forall_mem_cons.mp hharmless
          have hqueued := (losesNothing_serveQueue hfirst).stored call haction hstored
          exact queued_until_settled hqueued hrest
  | cons head before ih =>
      cases actions with
      | nil => cases hsplit
      | cons action actions =>
          obtain ⟨-, hrest⟩ := List.forall_mem_cons.mp hharmless
          obtain ⟨-, htail⟩ := List.cons.inj hsplit
          have hnext := ih hrest htail
          exact hnext

/-- In every run of retries and of careful stores no step loses anything silently, and what was
stored stays until it is uploaded as it is or goes as the oldest to make room. -/
theorem queue_loses_nothing {maxBytes : Nat} {directory : Directory} {actions : List QueueAction}
    (hharmless : ∀ served ∈ transcript (serveQueue maxBytes) directory actions,
      Harmless maxBytes served.before served.action) :
    (∀ served ∈ transcript (serveQueue maxBytes) directory actions,
      LosesNothing maxBytes served.before served.action
        (serveQueue maxBytes served.before served.action).1 served.output) ∧
      ∀ before stored after call,
        transcript (serveQueue maxBytes) directory actions = before ++ stored :: after →
          stored.action = .store call → stored.output.stored = some true →
            (serveAll (serveQueue maxBytes) directory actions).Queued call.filename call.data ∨
              ∃ served ∈ after, Settles maxBytes served call.filename call.data := by
  refine ⟨fun served hserved => ?_, fun before stored after call hsplit haction hstored =>
    stored_until_settled hharmless hsplit haction hstored⟩
  rw [output_of_mem_transcript hserved]
  exact losesNothing_serveQueue (hharmless served hserved)

def writtenStore (filename : String) (data : Bytes) : StoreCall where
  filename := filename
  data := data
  answers := {
    dataWriting := .completes 1
    metaWriting := .completes 40
    now := 1 }

theorem harmless_empty :
    Harmless 10 ∅ (.store (writtenStore "a/b" [1])) where
  named := by decide
  own _ _ h := nomatch h.data
  whole := .inr ⟨1, 40, rfl, rfl⟩
  room := .inl (by decide)

theorem stored_stays_queued :
    (serveAll (serveQueue 10) ∅ [.store (writtenStore "a/b" [1])]).Queued "a/b" [1] := by
  have hharmless : ∀ served ∈ transcript (serveQueue 10) ∅ [.store (writtenStore "a/b" [1])],
      Harmless 10 served.before served.action := List.forall_mem_singleton.mpr harmless_empty
  have hstays := (queue_loses_nothing hharmless).2 [] _ [] (writtenStore "a/b" [1]) rfl rfl rfl
  exact hstays.resolve_right fun ⟨_, hmem, _⟩ => nomatch hmem

theorem other_name_overwrites :
    ¬ ∀ maxBytes directory actions, ∀ served ∈ transcript (serveQueue maxBytes) directory actions,
      LosesNothing maxBytes served.before served.action
        (serveQueue maxBytes served.before served.action).1 served.output := by
  intro hloses
  have hkept := (hloses 10 ∅ [.store (writtenStore "a/b" [1]), .store (writtenStore "a_b" [2])] _
    (List.mem_cons_of_mem _ List.mem_cons_self)).kept "a/b" [1]
    ⟨by decide, by decide +kernel, by decide +kernel⟩
  rcases hkept with hqueued | ⟨sent, hsent, -⟩ | ⟨call, hcall, gone, -, -, -, hover⟩
  · exact absurd hqueued.data (by decide +kernel)
  · cases hsent
  · cases hcall
    have hlisted : totalOf Stat.size (listed (storing 10 ∅ (writtenStore "a/b" [1])).1) = 1 := by
      decide +kernel
    have hle : totalOf Stat.size ((storing 10 ∅ (writtenStore "a/b" [1])).1.listed.filter
        (gone.Older ·)) ≤ 1 := (totalOf_sublist List.filter_sublist).trans hlisted.le
    exact absurd (hover.trans_le (Nat.add_le_add_right hle _)) (by decide)

end Directory

end CrawlerApi.Warc
