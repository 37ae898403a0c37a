import CrawlerApi.Core.Redaction

/-!
# What the redaction patterns find

Every run of the patterns ends at a character that is not in its set, so each pattern is read
in one way, without backtracking.
-/

namespace CrawlerApi

open Foundation

def finderOf (read : Bool → List Char → Option (List Char × List Char)) : Finder :=
  fun afterWord text => (read afterWord text).map fun found =>
    (text.length - found.2.length, found.1)

/-- `crw`, the mode and four more characters. -/
def shortHead (text : List Char) : Bool :=
  "crw".toList.isPrefixOf text && (text.drop 3).head?.any (fun c => c = 'l' || c = 't') &&
    4 ≤ ((text.drop 4).takeWhile keyChar).length

/-- `crw_live_` or `crw_test_` and eight more characters. -/
def longHead (text : List Char) : Bool :=
  "crw_".toList.isPrefixOf text &&
    ("live".toList.isPrefixOf (text.drop 4) || "test".toList.isPrefixOf (text.drop 4)) &&
    "_".toList.isPrefixOf (text.drop 8) && 8 ≤ ((text.drop 9).takeWhile Char.isAlphanum).length

namespace CharClasses

variable (classes : CharClasses)

/-- The text behind `user:pass`. -/
def readSecret (text : List Char) : Option (List Char) :=
  (delimited classes.plainChar ':' text).bind fun user =>
    if user.1 ≠ [] then
      if user.2.takeWhile classes.plainChar ≠ [] then
        some (user.2.dropWhile classes.plainChar)
      else none
    else none

/-- The port and the text behind `port:user:pass`. -/
def readPort (text : List Char) : Option (List Char × List Char) :=
  (delimited classes.isDigit ':' text).bind fun port =>
    if 2 ≤ port.1.length ∧ port.1.length ≤ 5 then
      (classes.readSecret port.2).map fun rest => (port.1, rest)
    else none

def readLine (afterWord : Bool) (text : List Char) : Option (List Char × List Char) :=
  if afterWord = text.head?.any classes.isWord then none
  else
    (delimited classes.hostChar ':' text).bind fun host =>
      if host.1 ≠ [] then
        (classes.readPort host.2).map fun tail =>
          (host.1 ++ ':' :: tail.1 ++ ":***:***".toList, tail.2)
      else none

/-- The text behind `user:pass@`. -/
def readUserinfo (text : List Char) : Option (List Char) :=
  (delimited classes.userinfoChar ':' text).bind fun user =>
    if user.1 ≠ [] then
      (delimited classes.userinfoChar '@' user.2).bind fun pass =>
        if pass.1 ≠ [] then some pass.2 else none
    else none

def readUrl (text : List Char) : Option (List Char × List Char) :=
  ["https".toList, "http".toList, "socks5".toList].findSome? fun scheme =>
    if (scheme ++ "://".toList).isPrefixOf text then
      (classes.readUserinfo (text.drop (scheme.length + 3))).map fun rest =>
        (scheme ++ "://***:***@".toList, rest)
    else none

def readKey (afterWord : Bool) (text : List Char) : Option (List Char × List Char) :=
  if afterWord = text.head?.any classes.isWord then none
  else
    let run := text.takeWhile keyChar
    if shortHead text ∧ 8 < run.length then
      some (text.take 8 ++ "_***".toList, text.dropWhile keyChar)
    else if longHead text ∧ 17 < run.length then
      some (text.take 17 ++ "_***".toList, text.dropWhile keyChar)
    else none

end CharClasses

section Classes

variable {classes : CharClasses} {c : Char}

theorem isWord_ascii (h : c.toNat < 128) (hc : (c.isAlphanum || c = '_') = true) :
    classes.isWord c = true := (classes.word_ascii c h).trans hc

theorem hostChar_of_isDigit (h : classes.isDigit c = true) : classes.hostChar c = true := by
  unfold CharClasses.hostChar
  rw [classes.word_of_digit c h]
  rfl

theorem hostChar_colon : classes.hostChar ':' = false := by
  unfold CharClasses.hostChar
  rw [classes.word_ascii ':' (by decide)]
  decide

theorem isDigit_colon : classes.isDigit ':' = false :=
  (classes.digit_ascii ':' (by decide)).trans (by decide)

theorem plainChar_colon : classes.plainChar ':' = false := rfl

theorem userinfoChar_colon : classes.userinfoChar ':' = false := rfl

theorem userinfoChar_at : classes.userinfoChar '@' = false := rfl

end Classes

section Line

variable {classes : CharClasses}

theorem dottedQuad_within : classes.dottedQuad.Within classes.hostChar := by
  have hdigit : ∀ c, classes.isDigit c = true → classes.hostChar c = true :=
    fun _ => hostChar_of_isDigit
  have hdot : ∀ c, decide (c = '.') = true → classes.hostChar c = true := by
    intro c hc
    rw [of_decide_eq_true hc]
    unfold CharClasses.hostChar
    simp
  exact ⟨⟨⟨hdigit, hdot⟩, ⟨hdigit, hdot⟩, ⟨hdigit, hdot⟩⟩, hdigit⟩

theorem dottedQuad_nil (spot : Spot) (h : spot.rest.head?.any classes.hostChar = false) :
    classes.dottedQuad.results classes.isWord spot = [] := by
  have hdigit : spot.rest.head?.any classes.isDigit = false := by
    cases hhead : spot.rest.head? with
    | none => rfl
    | some c =>
        rw [hhead, Option.any_some] at h
        rw [Option.any_some]
        by_contra hc
        rw [hostChar_of_isDigit (by simpa using hc)] at h
        cases h
  unfold CharClasses.dottedQuad
  dsimp only
  rw [results_seq, results_seq, results_seq, results_many_of_head hdigit]
  rfl

theorem host_runs :
    (Regex.alt classes.dottedQuad (.many classes.hostChar 1 none)).Runs classes.isWord
      classes.hostChar (· ≠ []) :=
  dottedQuad_within.runs_alt dottedQuad_nil

theorem head_results_secret (spot : Spot) :
    ((Regex.seq (.many classes.plainChar 1 none)
        (.seq (.set (· = ':')) (.many classes.plainChar 1 none))).results classes.isWord
        spot).head?.map (fun behind => (behind.rest, behind.groups)) =
      (classes.readSecret spot.rest).map fun rest => (rest, spot.groups) := by
  rw [(runs_some classes.plainChar).head_results plainChar_colon]
  unfold CharClasses.readSecret
  rw [Option.map_bind, Option.map_bind]
  apply Option.bind_congr
  intro user _
  rw [Function.comp_apply, Function.comp_apply, head_results_many]
  by_cases hne : user.1 ≠ []
  · rw [if_pos hne, if_pos hne]
    dsimp only
    by_cases hpass : user.2.takeWhile classes.plainChar = []
    · rw [hpass]
      rfl
    · have hlength : 1 ≤ (user.2.takeWhile classes.plainChar).length :=
        List.length_pos_iff.mpr hpass
      rw [if_pos hlength, if_pos hpass]
      unfold Spot.skip
      dsimp only
      rw [Option.map_some, Option.map_some, drop_length_takeWhile]
  · rw [if_neg hne, if_neg hne]
    rfl

theorem head_results_port (spot : Spot) :
    ((Regex.seq (.group 2 (.many classes.isDigit 2 (some 5)))
        (.seq (.set (· = ':'))
          (.seq (.many classes.plainChar 1 none)
            (.seq (.set (· = ':')) (.many classes.plainChar 1 none))))).results classes.isWord
        spot).head?.map (fun behind => (behind.rest, behind.groups)) =
      (classes.readPort spot.rest).map fun tail => (tail.2, (spot.capture 2 tail.1).groups) := by
  rw [(runs_many classes.isDigit 2 (some 5)).head_results_group isDigit_colon]
  unfold CharClasses.readPort
  rw [Option.map_bind, Option.map_bind]
  apply Option.bind_congr
  intro port _
  have hport : (2 ≤ port.1.length ∧ ∀ bound ∈ some 5, port.1.length ≤ bound) ↔
      2 ≤ port.1.length ∧ port.1.length ≤ 5 := by
    apply and_congr_right
    intro _
    exact ⟨fun h => h 5 rfl, fun h bound hbound => Option.some.inj hbound ▸ h⟩
  rw [Function.comp_apply, Function.comp_apply, if_congr hport rfl rfl]
  split
  · rw [head_results_secret, Option.map_map]
    rfl
  · rfl

theorem lineFinder_eq : classes.lineFinder = finderOf classes.readLine := by
  funext afterWord text
  unfold CharClasses.lineFinder Regex.finder finderOf CharClasses.proxyLine CharClasses.readLine
  rw [results_seq, results_boundary]
  split
  · rfl
  · rw [List.flatMap_singleton, host_runs.head_results_group hostChar_colon, Option.map_bind,
      Option.map_bind]
    apply Option.bind_congr
    intro host _
    rw [Function.comp_apply, Function.comp_apply]
    by_cases hhost : host.1 ≠ []
    · rw [if_pos hhost, if_pos hhost]
      have hport := congrArg (Option.map fun behind : List Char × (Nat → List Char) =>
          (text.length - behind.1.length,
            behind.2 1 ++ ":".toList ++ behind.2 2 ++ ":***:***".toList))
        (@head_results_port classes (Spot.capture
          { afterWord := classes.isWord ':', rest := host.2 } 1 host.1))
      rw [Option.map_map, Option.map_map] at hport
      refine Eq.trans hport ?_
      rw [Option.map_map]
      congr 1
      funext tail
      simp [Spot.capture]
    · rw [if_neg hhost, if_neg hhost]
      rfl

end Line

section Url

variable {classes : CharClasses}

theorem head_results_userinfo (spot : Spot) :
    ((Regex.seq (.many classes.userinfoChar 1 none)
        (.seq (.set (· = ':'))
          (.seq (.many classes.userinfoChar 1 none) (.set (· = '@'))))).results classes.isWord
        spot).head?.map (fun behind => (behind.rest, behind.groups)) =
      (classes.readUserinfo spot.rest).map fun rest => (rest, spot.groups) := by
  rw [(runs_some classes.userinfoChar).head_results userinfoChar_colon]
  unfold CharClasses.readUserinfo
  rw [Option.map_bind, Option.map_bind]
  apply Option.bind_congr
  intro user _
  rw [Function.comp_apply, Function.comp_apply]
  by_cases huser : user.1 ≠ []
  · rw [if_pos huser, if_pos huser, results_seq_end, 
      (runs_some classes.userinfoChar).head_results userinfoChar_at, Option.map_bind,
      Option.map_bind]
    apply Option.bind_congr
    intro pass _
    rw [Function.comp_apply, Function.comp_apply]
    by_cases hpass : pass.1 ≠ []
    · rw [if_pos hpass, if_pos hpass, results_literal, List.isPrefixOf_nil_left, if_pos rfl]
      rfl
    · rw [if_neg hpass, if_neg hpass]
      rfl
  · rw [if_neg huser, if_neg huser]
    rfl

theorem head_results_mark (spot : Spot) :
    ((Regex.seq (.literal "://".toList)
        (.seq (.many classes.userinfoChar 1 none)
          (.seq (.set (· = ':'))
            (.seq (.many classes.userinfoChar 1 none) (.set (· = '@')))))).results classes.isWord
        spot).head?.map (fun behind => (behind.rest, behind.groups)) =
      if "://".toList.isPrefixOf spot.rest then
        (classes.readUserinfo (spot.rest.drop 3)).map fun rest => (rest, spot.groups)
      else none := by
  rw [results_seq, results_literal]
  split
  · rw [List.flatMap_singleton, head_results_userinfo]
    rfl
  · rfl

theorem results_scheme (spot : Spot) :
    (Regex.alt (.seq (.literal "http".toList) (.many (· = 's') 0 (some 1)))
        (.literal "socks5".toList)).results classes.isWord spot =
      (["https".toList, "http".toList, "socks5".toList].filter (·.isPrefixOf spot.rest)).map
        fun scheme => spot.skip classes.isWord scheme.length := by
  rw [results_alt, results_seq, results_literal, results_literal]
  obtain ⟨afterWord, rest, groups⟩ := spot
  dsimp only
  by_cases hhttp : "http".toList.isPrefixOf rest = true
  · obtain ⟨more, rfl⟩ := List.isPrefixOf_iff_prefix.mp hhttp
    rw [if_pos hhttp, List.flatMap_singleton, results_optional]
    cases more with
    | nil => rfl
    | cons c more =>
        by_cases hc : c = 's'
        · subst hc
          rfl
        · simp [Spot.skip, hc, Ne.symm hc]
  · have hhttps : ¬ "https".toList.isPrefixOf rest = true := fun h =>
      hhttp (List.isPrefixOf_iff_prefix.mpr
        ((List.prefix_append "http".toList "s".toList).trans (List.isPrefixOf_iff_prefix.mp h)))
    rw [if_neg hhttp, List.filter_cons, if_neg hhttps, List.filter_cons, if_neg hhttp,
      List.filter_cons]
    split
    · rfl
    · rfl

theorem findSome_filter {p : α → Bool} {f g : α → Option β} {l : List α}
    (h : ∀ a ∈ l, g a = if p a then f a else none) : (l.filter p).findSome? f = l.findSome? g := by
  induction l with
  | nil => rfl
  | cons a l ih =>
      obtain ⟨hhead, htail⟩ := List.forall_mem_cons.mp h
      rw [List.filter_cons, List.findSome?_cons, hhead, ← ih htail]
      split
      · rfl
      · rfl

theorem urlFinder_eq : classes.urlFinder = finderOf fun _ => classes.readUrl := by
  funext afterWord text
  unfold CharClasses.urlFinder Regex.finder finderOf CharClasses.proxyUrl
  dsimp only
  have hgroup : (Regex.group 1 (.alt (.seq (.literal "http".toList) (.many (· = 's') 0 (some 1)))
      (.literal "socks5".toList))).results classes.isWord { afterWord := afterWord, rest := text } =
      (["https".toList, "http".toList, "socks5".toList].filter (·.isPrefixOf text)).map
        fun scheme => (Spot.skip classes.isWord { afterWord := afterWord, rest := text }
          scheme.length).capture 1 scheme := by
    rw [results_group, results_scheme, List.map_map]
    apply List.map_congr_left
    intro scheme hscheme
    obtain ⟨more, rfl⟩ := List.isPrefixOf_iff_prefix.mp (List.mem_filter.mp hscheme).2
    simp [Spot.skip, Spot.capture]
  rw [results_seq, hgroup, List.flatMap_map, List.head?_flatMap]
  unfold CharClasses.readUrl
  rw [List.map_findSome?, List.map_findSome?]
  apply findSome_filter
  intro scheme _
  rw [Function.comp_apply, Function.comp_apply]
  by_cases hscheme : scheme.isPrefixOf text = true
  · obtain ⟨more, rfl⟩ := List.isPrefixOf_iff_prefix.mp hscheme
    have hmark : (scheme ++ "://".toList).isPrefixOf (scheme ++ more) =
        "://".toList.isPrefixOf more := by
      rw [Bool.eq_iff_iff, List.isPrefixOf_iff_prefix, List.isPrefixOf_iff_prefix]
      exact List.prefix_append_right_inj scheme
    have hbehind : (scheme ++ more).drop (scheme.length + 3) = more.drop 3 := by
      rw [← List.drop_drop, List.drop_left]
    have hfound := congrArg (Option.map fun behind : List Char × (Nat → List Char) =>
        ((scheme ++ more).length - behind.1.length, behind.2 1 ++ "://***:***@".toList))
      (@head_results_mark classes (Spot.capture (Spot.skip classes.isWord
        { afterWord := afterWord, rest := scheme ++ more } scheme.length) 1 scheme))
    rw [Option.map_map] at hfound
    rw [if_pos hscheme, hmark, hbehind]
    refine Eq.trans ?_ hfound.symm
    unfold Spot.capture Spot.skip
    dsimp only
    rw [List.drop_left]
    split
    · rw [Option.map_map, Option.map_map]
      rfl
    · rfl
  · have hlonger : ¬ (scheme ++ "://".toList).isPrefixOf text = true := fun h =>
      hscheme (List.isPrefixOf_iff_prefix.mpr
        ((List.prefix_append scheme _).trans (List.isPrefixOf_iff_prefix.mp h)))
    rw [if_neg hscheme, if_neg hlonger]
    rfl

end Url

section Key

variable {classes : CharClasses}

theorem results_shortHead (spot : Spot) :
    (Regex.seq (.literal "crw".toList)
        (.seq (.set fun c => c = 'l' || c = 't') (.many keyChar 4 (some 4)))).results
        classes.isWord spot =
      if shortHead spot.rest then [spot.skip classes.isWord 8] else [] := by
  unfold shortHead
  rw [results_seq, results_literal]
  by_cases hcrw : "crw".toList.isPrefixOf spot.rest = true
  · rw [if_pos hcrw, hcrw, Bool.true_and, List.flatMap_singleton, results_seq_set]
    have hrest : (spot.skip classes.isWord "crw".toList.length).rest = spot.rest.drop 3 := rfl
    rw [hrest]
    cases (spot.rest.drop 3).head?.any fun c => c = 'l' || c = 't' with
    | false => rfl
    | true =>
        rw [if_pos rfl, results_exactly, skip_skip, skip_skip, Bool.true_and]
        exact if_congr decide_eq_true_iff.symm rfl rfl
  · rw [if_neg hcrw, Bool.eq_false_iff.mpr hcrw]
    rfl

theorem results_mode (spot : Spot) :
    (Regex.alt (.literal "live".toList) (.literal "test".toList)).results classes.isWord spot =
      if "live".toList.isPrefixOf spot.rest || "test".toList.isPrefixOf spot.rest then
        [spot.skip classes.isWord 4] else [] := by
  rw [results_alt, results_literal, results_literal]
  by_cases hlive : "live".toList.isPrefixOf spot.rest = true
  · have htest : ¬ "test".toList.isPrefixOf spot.rest = true := by
      intro htest
      obtain ⟨more, hmore⟩ := List.isPrefixOf_iff_prefix.mp hlive
      rw [← hmore] at htest
      cases htest
    rw [if_pos hlive, if_neg htest, hlive]
    rfl
  · rw [if_neg hlive, Bool.eq_false_iff.mpr hlive, Bool.false_or]
    rfl

theorem results_longHead (spot : Spot) :
    (Regex.seq (.literal "crw_".toList)
        (.seq (.alt (.literal "live".toList) (.literal "test".toList))
          (.seq (.literal "_".toList) (.many Char.isAlphanum 8 (some 8))))).results
        classes.isWord spot =
      if longHead spot.rest then [spot.skip classes.isWord 17] else [] := by
  unfold longHead
  rw [results_seq, results_literal]
  by_cases hcrw : "crw_".toList.isPrefixOf spot.rest = true
  · have hrest : (spot.skip classes.isWord "crw_".toList.length).rest = spot.rest.drop 4 := rfl
    rw [if_pos hcrw, hcrw, Bool.true_and, List.flatMap_singleton, results_seq, results_mode, hrest]
    cases "live".toList.isPrefixOf (spot.rest.drop 4) ||
        "test".toList.isPrefixOf (spot.rest.drop 4) with
    | false => rfl
    | true =>
        rw [if_pos rfl, List.flatMap_singleton, results_seq, results_literal, skip_skip,
          Bool.true_and]
        have hmark : (spot.skip classes.isWord ("crw_".toList.length + 4)).rest =
            spot.rest.drop 8 := rfl
        rw [hmark]
        cases "_".toList.isPrefixOf (spot.rest.drop 8) with
        | false => rfl
        | true =>
            rw [if_pos rfl, List.flatMap_singleton, results_exactly, skip_skip, skip_skip,
              Bool.true_and]
            exact if_congr decide_eq_true_iff.symm rfl rfl
  · rw [if_neg hcrw, Bool.eq_false_iff.mpr hcrw]
    rfl

theorem length_run_of_shortHead {text : List Char} (h : shortHead text = true) :
    8 ≤ (text.takeWhile keyChar).length := by
  unfold shortHead at h
  rw [Bool.and_eq_true, Bool.and_eq_true, List.isPrefixOf_iff_prefix, decide_eq_true_eq] at h
  obtain ⟨⟨⟨more, rfl⟩, hmode⟩, hrun⟩ := h
  cases more with
  | nil => cases hmode
  | cons c more =>
      have hc : keyChar c = true := by
        rcases (by simpa using hmode : c = 'l' ∨ c = 't') with rfl | rfl
        · rfl
        · rfl
      have htake : ("crw".toList ++ c :: more).takeWhile keyChar =
          "crw".toList ++ c :: more.takeWhile keyChar := by
        rw [List.takeWhile_append_of_pos (List.all_eq_true.mp (by decide)),
          List.takeWhile_cons_of_pos hc]
      rw [htake]
      exact Nat.add_le_add_right hrun 4

theorem length_run_of_longHead {text : List Char} (h : longHead text = true) :
    17 ≤ (text.takeWhile keyChar).length := by
  unfold longHead at h
  simp only [Bool.and_eq_true, Bool.or_eq_true, List.isPrefixOf_iff_prefix,
    decide_eq_true_eq] at h
  obtain ⟨⟨⟨⟨more, rfl⟩, hmode⟩, hmark⟩, hrun⟩ := h
  obtain ⟨mode, rest, hlength, hchars, hmore⟩ : ∃ mode rest : List Char, mode.length = 4 ∧
      (∀ c ∈ mode, keyChar c = true) ∧ more = mode ++ rest := by
    rcases hmode with ⟨rest, hrest⟩ | ⟨rest, hrest⟩
    · exact ⟨_, rest, rfl, List.all_eq_true.mp (by decide), hrest.symm⟩
    · exact ⟨_, rest, rfl, List.all_eq_true.mp (by decide), hrest.symm⟩
  subst hmore
  have hdrop : ("crw_".toList ++ (mode ++ rest)).drop 8 = rest := by
    rw [← List.append_assoc]
    exact List.drop_left' (by rw [List.length_append, hlength]; rfl)
  rw [hdrop] at hmark
  rw [show 9 = 8 + 1 from rfl, ← List.drop_drop, hdrop] at hrun
  obtain ⟨last, rfl⟩ := hmark
  have hle := length_takeWhile_le_of_imp
    (fun c (hc : c.isAlphanum = true) => (by simp [keyChar, hc] : keyChar c = true)) last
  rw [List.takeWhile_append_of_pos (List.all_eq_true.mp (by decide)),
    List.takeWhile_append_of_pos hchars,
    List.takeWhile_append_of_pos (List.all_eq_true.mp (by decide))]
  simp only [List.length_append, hlength]
  exact Nat.add_le_add_left (Nat.add_le_add_left (Nat.add_le_add_left (hrun.trans hle) 1) 4) 4

theorem shortHead_eq_false {text : List Char} (h : longHead text = true) :
    shortHead text = false := by
  unfold longHead at h
  rw [Bool.and_eq_true, Bool.and_eq_true, Bool.and_eq_true, List.isPrefixOf_iff_prefix] at h
  obtain ⟨⟨⟨⟨more, rfl⟩, -⟩, -⟩, -⟩ := h
  rfl


theorem head_results_keyRun (spot : Spot) {count : Nat}
    (h : count ≤ (spot.rest.takeWhile keyChar).length) :
    ((Regex.many keyChar 1 none).results classes.isWord
        ((spot.skip classes.isWord count).capture 1 (spot.rest.take count))).head?.map
        (fun behind => (behind.rest, behind.groups 1)) =
      if count < (spot.rest.takeWhile keyChar).length then
        some (spot.rest.dropWhile keyChar, spot.rest.take count) else none := by
  rw [head_results_many]
  unfold Spot.capture Spot.skip
  dsimp only
  rw [length_takeWhile_drop keyChar h, List.drop_drop, Nat.add_sub_cancel' h,
    drop_length_takeWhile, ← drop_length_takeWhile]
  have hmore : 1 ≤ (spot.rest.takeWhile keyChar).length - count ↔
      count < (spot.rest.takeWhile keyChar).length := by
    omega
  rw [if_congr hmore rfl rfl]
  split
  · rfl
  · rfl

theorem head_results_head (spot : Spot) (head : Regex) {count : Nat}
    (hhead : head.results classes.isWord spot = [spot.skip classes.isWord count])
    (h : count ≤ (spot.rest.takeWhile keyChar).length) :
    ((Regex.seq (.group 1 head) (.many keyChar 1 none)).results classes.isWord spot).head?.map
        (fun behind => (behind.rest, behind.groups 1)) =
      if count < (spot.rest.takeWhile keyChar).length then
        some (spot.rest.dropWhile keyChar, spot.rest.take count) else none := by
  have hgroup : (Regex.group 1 head).results classes.isWord spot =
      [(spot.skip classes.isWord count).capture 1 (spot.rest.take count)] := by
    have hle := h.trans (List.takeWhile_prefix keyChar).length_le
    rw [results_group, hhead]
    show [Spot.capture _ 1 (spot.rest.take (spot.rest.length - (spot.rest.drop count).length))] = _
    rw [List.length_drop, Nat.sub_sub_self hle]
  rw [results_seq, hgroup, List.flatMap_singleton, head_results_keyRun spot h]

theorem results_heads (spot : Spot) :
    (Regex.alt
        (.seq (.literal "crw".toList)
          (.seq (.set fun c => c = 'l' || c = 't') (.many keyChar 4 (some 4))))
        (.seq (.literal "crw_".toList)
          (.seq (.alt (.literal "live".toList) (.literal "test".toList))
            (.seq (.literal "_".toList) (.many Char.isAlphanum 8 (some 8)))))).results
        classes.isWord spot =
      if shortHead spot.rest then [spot.skip classes.isWord 8]
      else if longHead spot.rest then [spot.skip classes.isWord 17] else [] := by
  rw [results_alt, results_shortHead, results_longHead]
  by_cases hlong : longHead spot.rest = true
  · rw [shortHead_eq_false hlong, if_pos hlong]
    rfl
  · rw [if_neg hlong, List.append_nil]

theorem keyFinder_eq : classes.keyFinder = finderOf classes.readKey := by
  funext afterWord text
  unfold CharClasses.keyFinder Regex.finder finderOf CharClasses.apiKey CharClasses.readKey
  rw [results_seq, results_boundary]
  dsimp only
  split
  · rfl
  · rw [List.flatMap_singleton]
    have hfound : ∀ count, (count ≤ (text.takeWhile keyChar).length) →
        _ → _ := fun count hcount hheads =>
      congrArg (Option.map fun behind : List Char × List Char =>
          (text.length - behind.1.length, behind.2 ++ "_***".toList))
        (@head_results_head classes { afterWord := afterWord, rest := text } _ count
          ((results_heads _).trans hheads) hcount)
    by_cases hshort : shortHead text = true
    · have hkey := hfound 8 (length_run_of_shortHead hshort) (if_pos hshort)
      rw [Option.map_map] at hkey
      refine Eq.trans hkey ?_
      by_cases hrun : 8 < (text.takeWhile keyChar).length
      · rw [if_pos hrun, if_pos ⟨hshort, hrun⟩]
        rfl
      · have hlong : ¬ (longHead text = true ∧ 17 < (text.takeWhile keyChar).length) :=
          fun h => hrun (Nat.lt_trans (by decide) h.2)
        rw [if_neg hrun, if_neg (fun h => hrun h.2), if_neg hlong]
        rfl
    · rw [if_neg (fun h => hshort h.1)]
      by_cases hlong : longHead text = true
      · have hkey := hfound 17 (length_run_of_longHead hlong)
          ((if_neg hshort).trans (if_pos hlong))
        rw [Option.map_map] at hkey
        refine Eq.trans hkey ?_
        by_cases hrun : 17 < (text.takeWhile keyChar).length
        · rw [if_pos hrun, if_pos ⟨hlong, hrun⟩]
          rfl
        · rw [if_neg hrun, if_neg (fun h => hrun h.2)]
          rfl
      · rw [if_neg (fun h => hlong h.1), results_seq, results_group, results_heads,
          if_neg hshort, if_neg hlong]
        rfl

end Key

end CrawlerApi
