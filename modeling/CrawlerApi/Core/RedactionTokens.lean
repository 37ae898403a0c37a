import CrawlerApi.Core.RedactionReaders

/-!
# Redaction goes by words

What the readers find, taken apart, and that white space ends it: the text on the two sides of
white space is redacted independently.
-/

namespace CrawlerApi

open Foundation

section Delimited

variable {accepts : Char → Bool} {delimiter stop : Char}

theorem delimited_cons (c : Char) (text : List Char) :
    delimited accepts delimiter (c :: text) =
      if accepts c then
        (delimited accepts delimiter text).map fun found => (c :: found.1, found.2)
      else if c = delimiter then some ([], text) else none := by
  unfold delimited
  by_cases hc : accepts c = true
  · rw [List.dropWhile_cons_of_pos hc, List.takeWhile_cons_of_pos hc, if_pos hc]
    split
    · rfl
    · split
      · rfl
      · rfl
  · rw [List.dropWhile_cons_of_neg hc, List.takeWhile_cons_of_neg hc, if_neg hc]

theorem delimited_append {run : List Char} (hrun : ∀ c ∈ run, accepts c = true)
    (hdelimiter : accepts delimiter = false) (rest : List Char) :
    delimited accepts delimiter (run ++ delimiter :: rest) = some (run, rest) := by
  induction run with
  | nil =>
      rw [List.nil_append, delimited_cons, hdelimiter, if_neg Bool.false_ne_true, if_pos rfl]
  | cons c run ih =>
      obtain ⟨hc, hmore⟩ := List.forall_mem_cons.mp hrun
      rw [List.cons_append, delimited_cons, if_pos hc, ih hmore]
      rfl

theorem delimited_append_of_ne {run : List Char} (hrun : ∀ c ∈ run, accepts c = true)
    {c : Char} (hc : accepts c = false) (hne : c ≠ delimiter) (rest : List Char) :
    delimited accepts delimiter (run ++ c :: rest) = none := by
  induction run with
  | nil => rw [List.nil_append, delimited_cons, hc, if_neg Bool.false_ne_true, if_neg hne]
  | cons first run ih =>
      obtain ⟨hfirst, hmore⟩ := List.forall_mem_cons.mp hrun
      rw [List.cons_append, delimited_cons, if_pos hfirst, ih hmore]
      rfl

theorem delimited_append_stop (hstop : accepts stop = false) (hne : stop ≠ delimiter)
    (text rest : List Char) :
    delimited accepts delimiter (text ++ stop :: rest) =
      (delimited accepts delimiter text).map fun found => (found.1, found.2 ++ stop :: rest) := by
  induction text with
  | nil => rw [List.nil_append, delimited_cons, hstop, if_neg Bool.false_ne_true, if_neg hne]; rfl
  | cons c text ih =>
      rw [List.cons_append, delimited_cons, delimited_cons, ih]
      split
      · rw [Option.map_map, Option.map_map]
        rfl
      · split
        · rfl
        · rfl

theorem takeWhile_append_stop (hstop : accepts stop = false) (text rest : List Char) :
    (text ++ stop :: rest).takeWhile accepts = text.takeWhile accepts := by
  rw [List.takeWhile_append]
  split
  · rename_i hall
    rw [List.takeWhile_cons_of_neg (by rw [hstop]; exact Bool.false_ne_true), List.append_nil,
      (List.takeWhile_prefix accepts).eq_of_length hall]
  · rfl

theorem dropWhile_append_stop (hstop : accepts stop = false) (text rest : List Char) :
    (text ++ stop :: rest).dropWhile accepts = text.dropWhile accepts ++ stop :: rest := by
  induction text with
  | nil => exact List.dropWhile_cons_of_neg (by rw [hstop]; exact Bool.false_ne_true)
  | cons c text ih =>
      by_cases hc : accepts c = true
      · rw [List.cons_append, List.dropWhile_cons_of_pos hc, List.dropWhile_cons_of_pos hc, ih]
      · rw [List.cons_append, List.dropWhile_cons_of_neg hc, List.dropWhile_cons_of_neg hc]
        rfl

theorem isPrefixOf_append_stop {mark : List Char} (hmark : stop ∉ mark) (text rest : List Char) :
    mark.isPrefixOf (text ++ stop :: rest) = mark.isPrefixOf text := by
  induction mark generalizing text with
  | nil => rw [List.isPrefixOf_nil_left, List.isPrefixOf_nil_left]
  | cons c mark ih =>
      have hc := List.ne_of_not_mem_cons hmark
      have hmore := List.not_mem_of_not_mem_cons hmark
      cases text with
      | nil =>
          show (c == stop && mark.isPrefixOf rest) = false
          rw [beq_false_of_ne (Ne.symm hc)]
          rfl
      | cons first text =>
          rw [List.cons_append, List.isPrefixOf_cons_cons, List.isPrefixOf_cons_cons, ih hmore]

end Delimited

section Readers

variable {read : Bool → List Char → Option (List Char × List Char)} {w : Char}

theorem finderOf_eq_some {afterWord : Bool} {text put : List Char} {length : Nat}
    (h : finderOf read afterWord text = some (length, put)) :
    ∃ rest, read afterWord text = some (put, rest) ∧ length = text.length - rest.length := by
  obtain ⟨found, hread, hfound⟩ := Option.map_eq_some_iff.mp h
  cases hfound
  exact ⟨found.2, hread, rfl⟩

theorem finderOf_proper (h : ∀ afterWord text put rest,
    read afterWord text = some (put, rest) → rest.length < text.length) :
    (finderOf read).Proper := by
  intro afterWord text length put hfind
  obtain ⟨rest, hread, rfl⟩ := finderOf_eq_some hfind
  have hless := h afterWord text put rest hread
  omega

theorem replaceFrom_of_read {word : Char → Bool} (hproper : (finderOf read).Proper)
    {afterWord : Bool} {consumed put rest : List Char}
    (h : read afterWord (consumed ++ rest) = some (put, rest)) :
    replaceFrom word (finderOf read) 0 afterWord (consumed ++ rest) =
      put ++ replaceFrom word (finderOf read) 0 (afterText word afterWord consumed) rest := by
  have hfind : finderOf read afterWord (consumed ++ rest) = some (consumed.length, put) := by
    unfold finderOf
    rw [h, Option.map_some, List.length_append, Nat.add_sub_cancel]
  rw [replaceFrom_of_some hproper hfind, List.take_left, List.drop_left]

theorem finderOf_stopsAt (h : ∀ afterWord text rest, read afterWord (text ++ w :: rest) =
    (read afterWord text).map fun found => (found.1, found.2 ++ w :: rest)) :
    (finderOf read).StopsAt w := by
  intro afterWord text rest
  unfold finderOf
  rw [h, Option.map_map]
  congr 1
  funext found
  rw [Function.comp_apply, List.length_append, List.length_append, Nat.add_sub_add_right]

end Readers

section Found

variable {classes : CharClasses} {text put rest : List Char} {afterWord : Bool}

theorem readSecret_eq_some (h : classes.readSecret text = some rest) :
    ∃ user pass, text = user ++ ':' :: (pass ++ rest) ∧
      (∀ c ∈ user, classes.plainChar c = true) ∧ (∀ c ∈ pass, classes.plainChar c = true) ∧
      pass ≠ [] := by
  obtain ⟨⟨user, tail⟩, hdelimited, hrest⟩ := Option.bind_eq_some_iff.mp h
  obtain ⟨rfl, huser⟩ := delimited_eq_some hdelimited
  split at hrest
  · split at hrest
    · rename_i hpass
      cases hrest
      refine ⟨user, tail.takeWhile classes.plainChar, ?_, huser,
        fun c hc => List.mem_takeWhile_imp hc, hpass⟩
      rw [List.takeWhile_append_dropWhile]
    · cases hrest
  · cases hrest

theorem readPort_eq_some {port : List Char} (h : classes.readPort text = some (port, rest)) :
    ∃ tail, text = port ++ ':' :: tail ∧ (∀ c ∈ port, classes.isDigit c = true) ∧
      2 ≤ port.length ∧ port.length ≤ 5 ∧ classes.readSecret tail = some rest := by
  obtain ⟨⟨digits, tail⟩, hdelimited, hrest⟩ := Option.bind_eq_some_iff.mp h
  obtain ⟨rfl, hdigits⟩ := delimited_eq_some hdelimited
  split at hrest
  · rename_i hlength
    obtain ⟨behind, hsecret, hfound⟩ := Option.map_eq_some_iff.mp hrest
    cases hfound
    exact ⟨tail, rfl, hdigits, hlength.1, hlength.2, hsecret⟩
  · cases hrest

theorem readLine_eq_some (h : classes.readLine afterWord text = some (put, rest)) :
    afterWord ≠ text.head?.any classes.isWord ∧ ∃ host port tail, text = host ++ ':' :: tail ∧
      (∀ c ∈ host, classes.hostChar c = true) ∧ host ≠ [] ∧
      classes.readPort tail = some (port, rest) ∧
      put = host ++ ':' :: port ++ ":***:***".toList := by
  unfold CharClasses.readLine at h
  split at h
  · cases h
  · rename_i hboundary
    obtain ⟨⟨host, tail⟩, hdelimited, hrest⟩ := Option.bind_eq_some_iff.mp h
    obtain ⟨rfl, hhost⟩ := delimited_eq_some hdelimited
    split at hrest
    · rename_i hne
      obtain ⟨⟨port, behind⟩, hport, hfound⟩ := Option.map_eq_some_iff.mp hrest
      cases hfound
      exact ⟨hboundary, host, port, tail, rfl, hhost, hne, hport, rfl⟩
    · cases hrest

theorem readUserinfo_eq_some (h : classes.readUserinfo text = some rest) :
    ∃ user pass, text = user ++ ':' :: (pass ++ '@' :: rest) ∧
      (∀ c ∈ user, classes.userinfoChar c = true) ∧
      ∀ c ∈ pass, classes.userinfoChar c = true := by
  obtain ⟨⟨user, tail⟩, hdelimited, hrest⟩ := Option.bind_eq_some_iff.mp h
  obtain ⟨rfl, huser⟩ := delimited_eq_some hdelimited
  split at hrest
  · obtain ⟨⟨pass, behind⟩, hpass, hfound⟩ := Option.bind_eq_some_iff.mp hrest
    obtain ⟨rfl, hchars⟩ := delimited_eq_some hpass
    split at hfound
    · cases hfound
      exact ⟨user, pass, rfl, huser, hchars⟩
    · cases hfound
  · cases hrest

def urlSchemes : List (List Char) := ["https".toList, "http".toList, "socks5".toList]

theorem readUrl_eq_some (h : classes.readUrl text = some (put, rest)) :
    ∃ scheme ∈ urlSchemes, ∃ tail, text = scheme ++ "://".toList ++ tail ∧
      classes.readUserinfo tail = some rest ∧ put = scheme ++ "://***:***@".toList := by
  obtain ⟨scheme, hscheme, hfound⟩ := List.exists_of_findSome?_eq_some h
  refine ⟨scheme, hscheme, ?_⟩
  split at hfound
  · rename_i hprefix
    obtain ⟨tail, rfl⟩ := List.isPrefixOf_iff_prefix.mp hprefix
    obtain ⟨behind, huserinfo, hput⟩ := Option.map_eq_some_iff.mp hfound
    cases hput
    have hlength : (scheme ++ "://".toList).length = scheme.length + 3 := List.length_append
    rw [← hlength, List.drop_left] at huserinfo
    exact ⟨tail, rfl, huserinfo, rfl⟩
  · cases hfound

theorem readKey_eq_some (h : classes.readKey afterWord text = some (put, rest)) :
    rest = text.dropWhile keyChar ∧ ∃ count < (text.takeWhile keyChar).length,
      put = text.take count ++ "_***".toList := by
  unfold CharClasses.readKey at h
  split at h
  · cases h
  · dsimp only at h
    split at h
    · rename_i hshort
      cases h
      exact ⟨rfl, 8, hshort.2, rfl⟩
    · split at h
      · rename_i hlong
        cases h
        exact ⟨rfl, 17, hlong.2, rfl⟩
      · cases h

theorem lineFinder_proper : classes.lineFinder.Proper := by
  rw [lineFinder_eq]
  apply finderOf_proper
  intro afterWord text put rest h
  obtain ⟨-, host, port, tail, rfl, -, -, hport, -⟩ := readLine_eq_some h
  obtain ⟨secret, rfl, -, -, -, hsecret⟩ := readPort_eq_some hport
  obtain ⟨user, pass, rfl, -, -, -⟩ := readSecret_eq_some hsecret
  simp only [List.length_append, List.length_cons]
  omega

theorem urlFinder_proper : classes.urlFinder.Proper := by
  rw [urlFinder_eq]
  apply finderOf_proper
  intro _ text put rest h
  obtain ⟨scheme, -, tail, rfl, huserinfo, -⟩ := readUrl_eq_some h
  obtain ⟨user, pass, rfl, -, -⟩ := readUserinfo_eq_some huserinfo
  simp only [List.length_append, List.length_cons]
  omega

theorem keyFinder_proper : classes.keyFinder.Proper := by
  rw [keyFinder_eq]
  apply finderOf_proper
  intro afterWord text put rest h
  obtain ⟨rfl, count, hcount, -⟩ := readKey_eq_some h
  have hsplit := congrArg List.length
    (List.takeWhile_append_dropWhile : text.takeWhile keyChar ++ text.dropWhile keyChar = text)
  rw [List.length_append] at hsplit
  omega

end Found

section Stops

variable {classes : CharClasses} {w : Char}

theorem space_ne (hw : classes.isSpace w = true) {c : Char} (hc : c.toNat < 128)
    (hspace : asciiSpace c = false) : w ≠ c := by
  rintro rfl
  rw [classes.space_ascii w hc] at hw
  exact Bool.false_ne_true (hspace.symm.trans hw)

theorem space_notMem (hw : classes.isSpace w = true) {mark : List Char}
    (hmark : mark.all (fun c => c.toNat < 128 && !asciiSpace c) = true) : w ∉ mark := by
  intro hmem
  have hascii := List.all_eq_true.mp hmark w hmem
  rw [Bool.and_eq_true, decide_eq_true_eq, Bool.not_eq_true'] at hascii
  exact space_ne hw hascii.1 hascii.2 rfl

theorem isWord_space (hw : classes.isSpace w = true) : classes.isWord w = false := by
  by_contra h
  rw [classes.space_of_word w (by simpa using h)] at hw
  cases hw

theorem isDigit_space (hw : classes.isSpace w = true) : classes.isDigit w = false := by
  by_contra h
  have hword := classes.word_of_digit w (by simpa using h)
  rw [isWord_space hw] at hword
  cases hword

theorem hostChar_space (hw : classes.isSpace w = true) : classes.hostChar w = false := by
  unfold CharClasses.hostChar
  rw [isWord_space hw, decide_eq_false (space_ne hw (by decide) (by decide)),
    decide_eq_false (space_ne hw (by decide) (by decide))]
  rfl

theorem plainChar_space (hw : classes.isSpace w = true) : classes.plainChar w = false := by
  unfold CharClasses.plainChar
  rw [hw, Bool.or_true]
  rfl

theorem userinfoChar_space (hw : classes.isSpace w = true) : classes.userinfoChar w = false := by
  unfold CharClasses.userinfoChar
  rw [hw, Bool.or_true]
  rfl

theorem isAlphanum_space (hw : classes.isSpace w = true) : w.isAlphanum = false := by
  by_contra h
  have hc : w.isAlphanum = true := by simpa using h
  have hascii : w.toNat < 128 := by
    have hrange := toNat_of_isAlphanum hc
    omega
  have hword : classes.isWord w = true := isWord_ascii hascii (by rw [hc]; rfl)
  rw [isWord_space hw] at hword
  cases hword

theorem head_append_space (hw : classes.isSpace w = true) (text rest : List Char) :
    (text ++ w :: rest).head?.any classes.isWord = text.head?.any classes.isWord := by
  cases text with
  | nil => exact isWord_space hw
  | cons c text => rfl

theorem readSecret_append_space (hw : classes.isSpace w = true) (text rest : List Char) :
    classes.readSecret (text ++ w :: rest) =
      (classes.readSecret text).map (· ++ w :: rest) := by
  unfold CharClasses.readSecret
  rw [delimited_append_stop (plainChar_space hw) (space_ne hw (by decide) (by decide)),
    Option.bind_map, Option.map_bind]
  apply Option.bind_congr
  intro user _
  rw [Function.comp_apply, Function.comp_apply]
  dsimp only
  rw [takeWhile_append_stop (plainChar_space hw), dropWhile_append_stop (plainChar_space hw)]
  split
  · split
    · rfl
    · rfl
  · rfl

theorem readPort_append_space (hw : classes.isSpace w = true) (text rest : List Char) :
    classes.readPort (text ++ w :: rest) =
      (classes.readPort text).map fun found => (found.1, found.2 ++ w :: rest) := by
  unfold CharClasses.readPort
  rw [delimited_append_stop (isDigit_space hw) (space_ne hw (by decide) (by decide)),
    Option.bind_map, Option.map_bind]
  apply Option.bind_congr
  intro port _
  rw [Function.comp_apply, Function.comp_apply]
  dsimp only
  rw [readSecret_append_space hw]
  split
  · rw [Option.map_map, Option.map_map]
    rfl
  · rfl

theorem lineFinder_stopsAt (hw : classes.isSpace w = true) : classes.lineFinder.StopsAt w := by
  rw [lineFinder_eq]
  apply finderOf_stopsAt
  intro afterWord text rest
  unfold CharClasses.readLine
  rw [head_append_space hw]
  split
  · rfl
  · rw [delimited_append_stop (hostChar_space hw) (space_ne hw (by decide) (by decide)),
      Option.bind_map, Option.map_bind]
    apply Option.bind_congr
    intro host _
    rw [Function.comp_apply, Function.comp_apply]
    dsimp only
    rw [readPort_append_space hw]
    split
    · rw [Option.map_map, Option.map_map]
      rfl
    · rfl

theorem readUserinfo_append_space (hw : classes.isSpace w = true) (text rest : List Char) :
    classes.readUserinfo (text ++ w :: rest) =
      (classes.readUserinfo text).map (· ++ w :: rest) := by
  unfold CharClasses.readUserinfo
  rw [delimited_append_stop (userinfoChar_space hw) (space_ne hw (by decide) (by decide)),
    Option.bind_map, Option.map_bind]
  apply Option.bind_congr
  intro user _
  rw [Function.comp_apply, Function.comp_apply]
  dsimp only
  split
  · rw [delimited_append_stop (userinfoChar_space hw) (space_ne hw (by decide) (by decide)),
      Option.bind_map, Option.map_bind]
    apply Option.bind_congr
    intro pass _
    rw [Function.comp_apply, Function.comp_apply]
    dsimp only
    split
    · rfl
    · rfl
  · rfl

theorem urlSchemes_ascii : ∀ scheme ∈ urlSchemes,
    (scheme ++ "://".toList).all (fun c => c.toNat < 128 && !asciiSpace c) = true := by
  decide

theorem findSome_congr {f g : α → Option β} {l : List α} (h : ∀ a ∈ l, f a = g a) :
    l.findSome? f = l.findSome? g := by
  induction l with
  | nil => rfl
  | cons a l ih =>
      obtain ⟨hhead, htail⟩ := List.forall_mem_cons.mp h
      rw [List.findSome?_cons, List.findSome?_cons, hhead, ih htail]

theorem urlFinder_stopsAt (hw : classes.isSpace w = true) : classes.urlFinder.StopsAt w := by
  rw [urlFinder_eq]
  apply finderOf_stopsAt
  intro _ text rest
  unfold CharClasses.readUrl
  rw [List.map_findSome?]
  apply findSome_congr
  intro scheme hscheme
  have hmark : w ∉ scheme ++ "://".toList := space_notMem hw (urlSchemes_ascii scheme hscheme)
  rw [Function.comp_apply, isPrefixOf_append_stop hmark]
  by_cases hprefix : (scheme ++ "://".toList).isPrefixOf text = true
  · obtain ⟨tail, rfl⟩ := List.isPrefixOf_iff_prefix.mp hprefix
    have hdrop : ∀ more, (scheme ++ "://".toList ++ more).drop (scheme.length + 3) = more :=
      fun more => List.drop_left' List.length_append
    rw [if_pos hprefix, if_pos hprefix, List.append_assoc, hdrop, hdrop,
      readUserinfo_append_space hw, Option.map_map, Option.map_map]
    rfl
  · rw [if_neg hprefix, if_neg hprefix]
    rfl

theorem keyChar_space (hw : classes.isSpace w = true) : keyChar w = false := by
  unfold keyChar
  rw [isAlphanum_space hw, decide_eq_false (space_ne hw (by decide) (by decide)),
    decide_eq_false (space_ne hw (by decide) (by decide))]
  rfl

theorem shortHead_append_space (hw : classes.isSpace w = true) (text rest : List Char) :
    shortHead (text ++ w :: rest) = shortHead text := by
  unfold shortHead
  rw [isPrefixOf_append_stop (space_notMem hw (by decide))]
  by_cases hcrw : "crw".toList.isPrefixOf text = true
  · obtain ⟨more, rfl⟩ := List.isPrefixOf_iff_prefix.mp hcrw
    rw [hcrw, Bool.true_and, Bool.true_and]
    cases more with
    | nil =>
        have hmode : (decide (w = 'l') || decide (w = 't')) = false := by
          rw [decide_eq_false (space_ne hw (by decide) (by decide)),
            decide_eq_false (space_ne hw (by decide) (by decide))]
          rfl
        exact congrArg (· && _) hmode
    | cons c more =>
        show (_ && decide (4 ≤ ((more ++ w :: rest).takeWhile keyChar).length)) = _
        rw [takeWhile_append_stop (keyChar_space hw)]
        rfl
  · rw [Bool.eq_false_iff.mpr hcrw, Bool.false_and, Bool.false_and, Bool.false_and]
    rfl

theorem longHead_append_space (hw : classes.isSpace w = true) (text rest : List Char) :
    longHead (text ++ w :: rest) = longHead text := by
  unfold longHead
  rw [isPrefixOf_append_stop (space_notMem hw (by decide))]
  by_cases hcrw : "crw_".toList.isPrefixOf text = true
  · obtain ⟨more, rfl⟩ := List.isPrefixOf_iff_prefix.mp hcrw
    have hdrop : ∀ count tail, ("crw_".toList ++ tail).drop (4 + count) = tail.drop count :=
      fun count tail => (List.drop_drop ..).symm
    rw [hcrw, Bool.true_and, Bool.true_and, List.append_assoc, hdrop 0, hdrop 0, hdrop 4, hdrop 4,
      hdrop 5, hdrop 5, List.drop_zero, List.drop_zero,
      isPrefixOf_append_stop (space_notMem hw (by decide)),
      isPrefixOf_append_stop (space_notMem hw (by decide))]
    by_cases hmode : ("live".toList.isPrefixOf more || "test".toList.isPrefixOf more) = true
    · have hlength : 4 ≤ more.length := by
        rcases Bool.or_eq_true_iff.mp hmode with hlive | htest
        · exact (List.isPrefixOf_iff_prefix.mp hlive).length_le
        · exact (List.isPrefixOf_iff_prefix.mp htest).length_le
      rw [hmode, Bool.true_and, Bool.true_and, List.drop_append_of_le_length hlength,
        isPrefixOf_append_stop (space_notMem hw (by decide))]
      by_cases hmark : "_".toList.isPrefixOf (more.drop 4) = true
      · obtain ⟨tail, htail⟩ := List.isPrefixOf_iff_prefix.mp hmark
        have hlonger : 5 ≤ more.length := by
          have h := congrArg List.length htail
          rw [List.length_append, List.length_drop] at h
          simp only [String.reduceToList, List.length_cons, List.length_nil] at h
          omega
        rw [List.drop_append_of_le_length hlonger, takeWhile_append_stop (isAlphanum_space hw)]
      · rw [Bool.eq_false_iff.mpr hmark, Bool.false_and, Bool.false_and]
    · rw [Bool.eq_false_iff.mpr hmode]
      rfl
  · rw [Bool.eq_false_iff.mpr hcrw, Bool.false_and, Bool.false_and, Bool.false_and]
    rfl

theorem keyFinder_stopsAt (hw : classes.isSpace w = true) : classes.keyFinder.StopsAt w := by
  rw [keyFinder_eq]
  apply finderOf_stopsAt
  intro afterWord text rest
  unfold CharClasses.readKey
  have htake : ∀ count, count < (text.takeWhile keyChar).length →
      (text ++ w :: rest).take count = text.take count := fun count hcount =>
    List.take_append_of_le_length
      (hcount.le.trans (List.takeWhile_prefix keyChar).length_le)
  dsimp only
  rw [head_append_space hw, shortHead_append_space hw, longHead_append_space hw,
    takeWhile_append_stop (keyChar_space hw), dropWhile_append_stop (keyChar_space hw)]
  split
  · rfl
  · split
    · rename_i hshort
      rw [htake 8 hshort.2]
      rfl
    · split
      · rename_i hlong
        rw [htake 17 hlong.2]
        rfl
      · rfl

theorem redact_append_space (hw : classes.isSpace w = true) (text rest : List Char) :
    classes.redact (text ++ w :: rest) = classes.redact text ++ w :: classes.redact rest := by
  have hword := isWord_space hw
  unfold CharClasses.redact replaceAll
  dsimp only
  rw [replaceFrom_append_stop lineFinder_proper (lineFinder_stopsAt hw), hword,
    replaceFrom_append_stop urlFinder_proper (urlFinder_stopsAt hw), hword,
    replaceFrom_append_stop keyFinder_proper (keyFinder_stopsAt hw), hword]

end Stops

end CrawlerApi
