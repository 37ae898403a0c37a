import CrawlerApi.Core.RedactionTokens
import Mathlib.Data.List.Infix

/-!
# Texts with an API key in them

What the redaction patterns make of a text in which one API key stands where another one may
stand: as long as no word character is before it they treat all keys of one prefix alike.
-/

namespace CrawlerApi

open Foundation

/-- The shape of the keys: `crw`, the mode and two tokens, of which the last ends in a
character with four bits left. -/
structure KeyShape (key : List Char) : Prop where
  head : ∃ mode rest, key = 'c' :: 'r' :: 'w' :: mode :: rest ∧ (mode = 'l' ∨ mode = 't')
  chars : ∀ c ∈ key, keyChar c = true
  length : key.length = 48
  last : ∃ front, ∃ c ∈ "AQgw".toList, key = front ++ [c]

inductive Behind where
  | before (text : List Char)
  | after (text : List Char)

namespace Behind

def fill (key after : List Char) : Behind → List Char
  | .before text => text ++ key ++ after
  | .after text => text

def Fits (before after : List Char) : Behind → Prop
  | .before text => text.length ≤ before.length
  | .after text => text.length ≤ after.length

end Behind

/-- Reading goes the same way whatever the key is. -/
def Steady {α : Type} (read : List Char → Option (α × List Char)) (before after : List Char) :
    Prop :=
  ∃ outcome : Option (α × Behind), (∀ found ∈ outcome, found.2.Fits before after) ∧
    ∀ key, KeyShape key → read (before ++ key ++ after) =
      outcome.map fun found => (found.1, found.2.fill key after)

section Steady

variable {α β : Type} {read : List Char → Option (α × List Char)} {before after : List Char}

theorem Steady.of_none (h : ∀ key, KeyShape key → read (before ++ key ++ after) = none) :
    Steady read before after :=
  ⟨none, nofun, h⟩

theorem Steady.of_after (found : α) (rest : List Char) (hrest : rest.length ≤ after.length)
    (h : ∀ key, KeyShape key → read (before ++ key ++ after) = some (found, rest)) :
    Steady read before after :=
  ⟨some (found, .after rest), fun _ hfound => Option.some.inj hfound ▸ hrest, h⟩

theorem Steady.of_before (found : α) (rest : List Char) (hrest : rest.length ≤ before.length)
    (h : ∀ key, KeyShape key →
      read (before ++ key ++ after) = some (found, rest ++ key ++ after)) :
    Steady read before after :=
  ⟨some (found, .before rest), fun _ hfound => Option.some.inj hfound ▸ hrest, h⟩

theorem run_cases (accepts : Char → Bool) (text : List Char) :
    (∀ c ∈ text, accepts c = true) ∨ ∃ run c more, text = run ++ c :: more ∧
      (∀ d ∈ run, accepts d = true) ∧ accepts c = false := by
  induction text with
  | nil => exact Or.inl nofun
  | cons first text ih =>
      cases hfirst : accepts first with
      | false => exact Or.inr ⟨[], first, text, rfl, nofun, hfirst⟩
      | true =>
          rcases ih with hall | ⟨run, c, more, rfl, hrun, hc⟩
          · exact Or.inl (List.forall_mem_cons.mpr ⟨hfirst, hall⟩)
          · exact Or.inr
              ⟨first :: run, c, more, rfl, List.forall_mem_cons.mpr ⟨hfirst, hrun⟩, hc⟩

theorem delimited_append_all {accepts : Char → Bool} {delimiter : Char} {text : List Char}
    (h : ∀ c ∈ text, accepts c = true) (rest : List Char) :
    delimited accepts delimiter (text ++ rest) =
      (delimited accepts delimiter rest).map fun found => (text ++ found.1, found.2) := by
  induction text with
  | nil => exact (congrFun Option.map_id _).symm
  | cons c text ih =>
      obtain ⟨hc, hmore⟩ := List.forall_mem_cons.mp h
      rw [List.cons_append, delimited_cons, if_pos hc, ih hmore, Option.map_map]
      rfl

theorem Behind.fits_mono {more : List Char} (h : more.length ≤ before.length) {behind : Behind}
    (hfits : behind.Fits more after) : behind.Fits before after := by
  cases behind with
  | before text => exact Nat.le_trans hfits h
  | after text => exact hfits

theorem Steady.of_tail {more : List Char} (hmore : more.length ≤ before.length)
    {next : List Char → Option (α × List Char)} (h : Steady next more after)
    (hread : ∀ key, KeyShape key → read (before ++ key ++ after) = next (more ++ key ++ after)) :
    Steady read before after := by
  obtain ⟨outcome, hfits, houtcome⟩ := h
  exact ⟨outcome, fun found hfound => Behind.fits_mono hmore (hfits found hfound),
    fun key hkey => (hread key hkey).trans (houtcome key hkey)⟩

theorem Steady.relabel (h : Steady read before after) (label : α → β) :
    Steady (fun text => (read text).map fun found => (label found.1, found.2)) before after := by
  obtain ⟨outcome, hfits, houtcome⟩ := h
  refine ⟨outcome.map fun found => (label found.1, found.2), ?_, fun key hkey => ?_⟩
  · intro found hfound
    obtain ⟨other, hother, rfl⟩ := Option.map_eq_some_iff.mp hfound
    exact hfits other hother
  · dsimp only
    rw [houtcome key hkey, Option.map_map, Option.map_map]
    rfl

theorem Steady.bind {accepts : Char → Bool} {delimiter : Char}
    (hdelimiter : accepts delimiter = false)
    {next : List Char × List Char → Option (α × List Char)}
    (hall : (∀ c ∈ before, accepts c = true) →
      Steady (fun text => (delimited accepts delimiter text).bind next) before after)
    (hnext : ∀ run more, before = run ++ delimiter :: more →
      Steady (fun text => next (run, text)) more after) :
    Steady (fun text => (delimited accepts delimiter text).bind next) before after := by
  rcases run_cases accepts before with hbefore | ⟨run, c, more, rfl, hrun, hc⟩
  · exact hall hbefore
  · by_cases hcd : c = delimiter
    · subst hcd
      refine (hnext run more rfl).of_tail (by simp; omega) fun key _ => ?_
      rw [List.append_assoc, List.append_assoc, List.cons_append, delimited_append hrun hc,
        Option.bind_some, List.append_assoc]
    · apply Steady.of_none
      intro key _
      rw [List.append_assoc, List.append_assoc, List.cons_append,
        delimited_append_of_ne hrun hc hcd]
      rfl

theorem Steady.over {accepts : Char → Bool} {delimiter : Char}
    (hkeys : ∀ c, keyChar c = true → accepts c = true) (hbefore : ∀ c ∈ before, accepts c = true)
    {next : List Char × List Char → Option (α × List Char)}
    (outcome : List Char → Option (α × List Char))
    (hnext : ∀ run rest, run ≠ [] → next (run, rest) = outcome rest)
    (hrest : ∀ rest found, rest.length ≤ after.length → outcome rest = some found →
      found.2.length ≤ after.length) :
    Steady (fun text => (delimited accepts delimiter text).bind next) before after := by
  have hread : ∀ key, KeyShape key → (delimited accepts delimiter (before ++ key ++ after)).bind
      next = (delimited accepts delimiter after).bind fun found => outcome found.2 := by
    intro key hkey
    have hchars : ∀ c ∈ before ++ key, accepts c = true := by
      intro c hc
      rcases List.mem_append.mp hc with hc | hc
      · exact hbefore c hc
      · exact hkeys c (hkey.chars c hc)
    rw [delimited_append_all hchars, Option.bind_map]
    apply Option.bind_congr
    intro found _
    apply hnext
    obtain ⟨mode, rest, rfl, -⟩ := hkey.head
    simp
  cases hdelimited : delimited accepts delimiter after with
  | none => exact Steady.of_none fun key hkey => by rw [hread key hkey, hdelimited]; rfl
  | some found =>
      have hlength : found.2.length ≤ after.length := by
        rw [(delimited_eq_some hdelimited).1, List.length_append, List.length_cons]
        omega
      cases hfound : outcome found.2 with
      | none =>
          exact Steady.of_none fun key hkey => by
            rw [hread key hkey, hdelimited, Option.bind_some, hfound]
      | some result =>
          exact Steady.of_after _ _ (hrest _ _ hlength hfound) fun key hkey => by
            rw [hread key hkey, hdelimited, Option.bind_some, hfound]

end Steady

section Line

variable {classes : CharClasses} {before after : List Char}

theorem isWord_keyChar {c : Char} (h : keyChar c = true) : classes.isWord c = true ∨ c = '-' := by
  have hcases : (c.isAlphanum = true ∨ c = '_') ∨ c = '-' := by simpa [keyChar] using h
  rcases hcases with hword | rfl
  · left
    refine isWord_ascii ?_ (by simpa using hword)
    rcases hword with hword | rfl
    · have hrange := toNat_of_isAlphanum hword
      omega
    · decide
  · exact Or.inr rfl

theorem hostChar_keyChar (c : Char) (h : keyChar c = true) : classes.hostChar c = true := by
  rcases @isWord_keyChar classes c h with hword | rfl
  · unfold CharClasses.hostChar
    rw [hword]
    rfl
  · unfold CharClasses.hostChar
    simp

theorem isSpace_keyChar {c : Char} (h : keyChar c = true) : classes.isSpace c = false := by
  rcases @isWord_keyChar classes c h with hword | rfl
  · exact classes.space_of_word c hword
  · exact (classes.space_ascii '-' (by decide)).trans (by decide)

theorem userinfoChar_keyChar (c : Char) (h : keyChar c = true) :
    classes.userinfoChar c = true := by
  have hne : ∀ d, keyChar d = false → c ≠ d := by
    rintro d hd rfl
    rw [h] at hd
    cases hd
  unfold CharClasses.userinfoChar
  simp [hne ':' (by decide), hne '/' (by decide), hne '@' (by decide), isSpace_keyChar h]

theorem plainChar_keyChar (c : Char) (h : keyChar c = true) : classes.plainChar c = true := by
  have hne : c ≠ ':' := by
    rintro rfl
    cases h
  unfold CharClasses.plainChar
  simp [hne, isSpace_keyChar h]

theorem steady_pass (before after : List Char) :
    Steady (fun text => if text.takeWhile classes.plainChar ≠ [] then
      some ((), text.dropWhile classes.plainChar) else none) before after := by
  rcases run_cases classes.plainChar before with hall | ⟨run, c, more, rfl, hrun, hc⟩
  · refine Steady.of_after () (after.dropWhile classes.plainChar) ?_ fun key hkey => ?_
    · exact (List.dropWhile_suffix _).length_le
    · have hchars : ∀ c ∈ before ++ key, classes.plainChar c = true := by
        intro c hc
        rcases List.mem_append.mp hc with hc | hc
        · exact hall c hc
        · exact plainChar_keyChar c (hkey.chars c hc)
      have hne : (before ++ key ++ after).takeWhile classes.plainChar ≠ [] := by
        obtain ⟨mode, rest, rfl, -⟩ := hkey.head
        rw [List.takeWhile_append_of_pos hchars]
        simp
      rw [if_pos hne, List.dropWhile_append_of_pos hchars]
  · have htake : ∀ tail, (run ++ c :: tail).takeWhile classes.plainChar = run := by
      intro tail
      rw [takeWhile_append_stop hc]
      exact List.takeWhile_eq_self_iff.mpr hrun
    have hdrop : ∀ tail, (run ++ c :: tail).dropWhile classes.plainChar = c :: tail := by
      intro tail
      rw [dropWhile_append_stop hc, List.dropWhile_eq_nil_iff.mpr hrun]
      rfl
    by_cases hne : run = []
    · apply Steady.of_none
      intro key _
      rw [List.append_assoc, List.append_assoc, List.cons_append, htake, if_neg (not_not.mpr hne)]
    · refine Steady.of_before () (c :: more) (by simp) fun key _ => ?_
      rw [List.append_assoc, List.append_assoc, List.cons_append, htake, hdrop, if_pos hne,
        List.append_assoc]
      rfl

theorem steady_secret (before after : List Char) :
    Steady (fun text => (classes.readSecret text).map fun rest => ((), rest)) before after := by
  have hsecret : (fun text => (classes.readSecret text).map fun rest => ((), rest)) = fun text =>
      (delimited classes.plainChar ':' text).bind fun user => if user.1 ≠ [] then
        if user.2.takeWhile classes.plainChar ≠ [] then
          some ((), user.2.dropWhile classes.plainChar) else none
        else none := by
    funext text
    unfold CharClasses.readSecret
    rw [Option.map_bind]
    congr 1
    funext user
    rw [Function.comp_apply]
    split
    · split
      · rfl
      · rfl
    · rfl
  rw [hsecret]
  apply Steady.bind plainChar_colon
  · intro hbefore
    apply Steady.over plainChar_keyChar hbefore fun rest =>
      if rest.takeWhile classes.plainChar ≠ [] then
        some ((), rest.dropWhile classes.plainChar) else none
    · intro run rest hrun
      exact if_pos hrun
    · intro rest found hrest hfound
      split at hfound
      · cases hfound
        exact (List.dropWhile_suffix _).length_le.trans hrest
      · cases hfound
  · intro run more _
    by_cases hrun : run ≠ []
    · simp only [if_pos hrun]
      exact steady_pass more after
    · simp only [if_neg hrun]
      exact Steady.of_none fun _ _ => rfl

theorem steady_port (before after : List Char) :
    Steady classes.readPort before after := by
  unfold CharClasses.readPort
  apply Steady.bind isDigit_colon
  · intro hbefore
    apply Steady.of_none
    intro key hkey
    obtain ⟨mode, rest, rfl, -⟩ := hkey.head
    have hdigit : classes.isDigit 'c' = false :=
      (classes.digit_ascii 'c' (by decide)).trans (by decide)
    rw [List.append_assoc, List.cons_append, delimited_append_of_ne hbefore hdigit (by decide)]
    rfl
  · intro run more _
    dsimp only
    by_cases hlength : 2 ≤ run.length ∧ run.length ≤ 5
    · simp only [if_pos hlength]
      have h := (@steady_secret classes more after).relabel fun _ => run
      simp only [Option.map_map] at h
      exact h
    · simp only [if_neg hlength]
      exact Steady.of_none fun _ _ => rfl

end Line

section Url

variable {classes : CharClasses} {before after : List Char}

theorem steady_userinfoPass (before after : List Char) :
    Steady (fun text => (delimited classes.userinfoChar '@' text).bind fun pass =>
      if pass.1 ≠ [] then some ((), pass.2) else none) before after := by
  apply Steady.bind userinfoChar_at
  · intro hbefore
    apply Steady.over userinfoChar_keyChar hbefore fun rest => some ((), rest)
    · intro run rest hrun
      exact if_pos hrun
    · intro rest found hrest hfound
      cases hfound
      exact hrest
  · intro run more _
    by_cases hrun : run ≠ []
    · simp only [if_pos hrun]
      exact Steady.of_before () more (Nat.le_refl _) fun _ _ => rfl
    · simp only [if_neg hrun]
      exact Steady.of_none fun _ _ => rfl

theorem steady_userinfo (before after : List Char) :
    Steady (fun text => (classes.readUserinfo text).map fun rest => ((), rest)) before after := by
  have huserinfo : (fun text => (classes.readUserinfo text).map fun rest => ((), rest)) =
      fun text => (delimited classes.userinfoChar ':' text).bind fun user => if user.1 ≠ [] then
        (delimited classes.userinfoChar '@' user.2).bind fun pass =>
          if pass.1 ≠ [] then some ((), pass.2) else none
        else none := by
    funext text
    unfold CharClasses.readUserinfo
    rw [Option.map_bind]
    congr 1
    funext user
    rw [Function.comp_apply]
    split
    · rw [Option.map_bind]
      congr 1
      funext pass
      rw [Function.comp_apply]
      split
      · rfl
      · rfl
    · rfl
  rw [huserinfo]
  apply Steady.bind userinfoChar_colon
  · intro hbefore
    apply Steady.over userinfoChar_keyChar hbefore fun rest =>
      (delimited classes.userinfoChar '@' rest).bind fun pass =>
        if pass.1 ≠ [] then some ((), pass.2) else none
    · intro run rest hrun
      exact if_pos hrun
    · intro rest found hrest hfound
      obtain ⟨pass, hpass, hsome⟩ := Option.bind_eq_some_iff.mp hfound
      split at hsome
      · cases hsome
        rw [(delimited_eq_some hpass).1, List.length_append, List.length_cons] at hrest
        show pass.2.length ≤ after.length
        omega
      · cases hsome
  · intro run more _
    by_cases hrun : run ≠ []
    · simp only [if_pos hrun]
      exact steady_userinfoPass more after
    · simp only [if_neg hrun]
      exact Steady.of_none fun _ _ => rfl

theorem prefix_before {mark key : List Char} (hkey : KeyShape key)
    (hmark : ∀ tail ∈ mark.tails, tail = [] ∨ tail.head? ≠ some 'c' ∨
      tail.tail.head? ≠ some 'r' ∧ tail.tail ≠ [])
    (h : mark <+: before ++ key ++ after) : mark <+: before := by
  obtain ⟨mode, rest, rfl, -⟩ := hkey.head
  obtain ⟨behind, hbehind⟩ := h
  rw [List.append_assoc] at hbehind
  rcases List.append_eq_append_iff.mp hbehind with ⟨part, hpart, -⟩ | ⟨part, hpart, hrest⟩
  · exact ⟨part, hpart.symm⟩
  · have htail := (List.mem_tails _ _).mpr ⟨before, hpart.symm⟩
    rcases hmark part htail with rfl | hhead | ⟨hsecond, hne⟩
    · exact ⟨[], by rw [hpart, List.append_nil, List.append_nil]⟩
    · cases part with
      | nil => exact ⟨[], by rw [hpart, List.append_nil, List.append_nil]⟩
      | cons c part => exact absurd (congrArg some (List.cons.inj hrest).1.symm) hhead
    · cases part with
      | nil => exact absurd rfl hne
      | cons c part =>
          cases part with
          | nil => exact absurd rfl hne
          | cons d part =>
              have hd := (List.cons.inj (List.cons.inj hrest).2).1
              exact absurd (congrArg some hd.symm) hsecond

theorem urlMarks_apart : ∀ scheme ∈ urlSchemes, ∀ tail ∈ (scheme ++ "://".toList).tails,
    tail = [] ∨ tail.head? ≠ some 'c' ∨ tail.tail.head? ≠ some 'r' ∧ tail.tail ≠ [] := by
  decide

theorem steady_scheme {scheme : List Char} (hscheme : scheme ∈ urlSchemes)
    (before after : List Char) :
    Steady (fun text => if (scheme ++ "://".toList).isPrefixOf text then
      (classes.readUserinfo (text.drop (scheme.length + 3))).map fun rest =>
        (scheme ++ "://***:***@".toList, rest)
      else none) before after := by
  by_cases hprefix : scheme ++ "://".toList <+: before
  · obtain ⟨more, rfl⟩ := hprefix
    have h := (@steady_userinfo classes more after).relabel fun _ =>
      scheme ++ "://***:***@".toList
    refine h.of_tail ?_ fun key _ => ?_
    · rw [List.length_append]
      omega
    · have hdrop : ∀ tail, (scheme ++ "://".toList ++ tail).drop (scheme.length + 3) = tail :=
        fun tail => List.drop_left' List.length_append
      rw [if_pos (List.isPrefixOf_iff_prefix.mpr ⟨more ++ key ++ after, by simp⟩),
        List.append_assoc, List.append_assoc, hdrop, Option.map_map, ← List.append_assoc]
      rfl
  · apply Steady.of_none
    intro key hkey
    exact if_neg fun h => hprefix
      (prefix_before hkey (urlMarks_apart scheme hscheme) (List.isPrefixOf_iff_prefix.mp h))

theorem Steady.findSome {α β : Type} {read : β → List Char → Option (α × List Char)}
    {labels : List β} (h : ∀ label ∈ labels, Steady (read label) before after) :
    Steady (fun text => labels.findSome? fun label => read label text) before after := by
  induction labels with
  | nil => exact Steady.of_none fun _ _ => rfl
  | cons label labels ih =>
      obtain ⟨hhead, htail⟩ := List.forall_mem_cons.mp h
      obtain ⟨outcome, hfits, houtcome⟩ := hhead
      cases houtcomes : outcome with
      | none =>
          refine (ih htail).of_tail (Nat.le_refl _) fun key hkey => ?_
          rw [List.findSome?_cons, houtcome key hkey, houtcomes]
          rfl
      | some found =>
          refine ⟨outcome, hfits, fun key hkey => ?_⟩
          dsimp only
          rw [List.findSome?_cons, houtcome key hkey, houtcomes]
          rfl

theorem steady_url (before after : List Char) : Steady classes.readUrl before after :=
  Steady.findSome fun _ hscheme => steady_scheme hscheme before after

theorem KeyShape.last_mem {key done more : List Char} (hkey : KeyShape key) {c : Char}
    (hsplit : key = done ++ c :: more) : ∃ d ∈ "AQgw".toList, d ∈ c :: more := by
  obtain ⟨front, d, hd, hlast⟩ := hkey.last
  refine ⟨d, hd, ?_⟩
  have h := congrArg List.getLast? (hlast.symm.trans hsplit)
  rw [List.getLast?_concat, List.getLast?_append] at h
  cases hmore : (c :: more).getLast? with
  | none => cases List.getLast?_eq_none_iff.mp hmore
  | some other =>
      rw [hmore] at h
      cases h
      exact List.mem_of_getLast? hmore

theorem urlMarks_last : ∀ scheme ∈ urlSchemes,
    ("AQgw".toList).all (fun d => d ∉ scheme ++ "://".toList) = true := by
  decide

theorem readUrl_in_key {key done more : List Char} (hkey : KeyShape key) {c : Char}
    (hsplit : key = done ++ c :: more) : classes.readUrl (c :: more ++ after) = none := by
  cases hread : classes.readUrl (c :: more ++ after) with
  | none => rfl
  | some found =>
      obtain ⟨scheme, hscheme, tail, htail, -, -⟩ := readUrl_eq_some hread
      have hpart : c :: more <+: c :: more ++ after := List.prefix_append _ _
      rw [htail] at hpart
      rcases List.prefix_or_prefix_of_prefix hpart (List.prefix_append _ _) with h | h
      · obtain ⟨d, hd, hmem⟩ := hkey.last_mem hsplit
        have hlast := List.all_eq_true.mp (urlMarks_last scheme hscheme) d hd
        exact absurd (h.subset hmem) (of_decide_eq_true hlast)
      · have hcolon : ':' ∈ scheme ++ "://".toList := List.mem_append_right _ (by decide)
        have hmem : ':' ∈ key := hsplit ▸ List.mem_append_right done (h.subset hcolon)
        cases hkey.chars ':' hmem

end Url

section Sees

variable {classes : CharClasses} {first second before after : List Char} {afterWord shows : Bool}

theorem Steady.sees {word : Char → Bool}
    {read : Bool → List Char → Option (List Char × List Char)} {shows : Prop}
    (hread : Steady (read afterWord) before after) (hfirst : KeyShape first)
    (hsecond : KeyShape second)
    (hleaves : before = [] → (∀ key, KeyShape key → read afterWord (key ++ after) = none) →
      shows ∧ ∀ key, KeyShape key → ∀ done c more, key = done ++ c :: more →
        read (afterText word afterWord done) (c :: more ++ after) = none) :
    Sees word (finderOf read) first second shows afterWord before after := by
  obtain ⟨outcome, hfits, houtcome⟩ := hread
  have hfind : ∀ key, KeyShape key → finderOf read afterWord (before ++ key ++ after) =
      outcome.map fun found => (before.length + 48 + after.length -
        (found.2.fill key after).length, found.1) := by
    intro key hkey
    unfold finderOf
    rw [houtcome key hkey, Option.map_map]
    congr 1
    funext found
    rw [Function.comp_apply, List.length_append, List.length_append, hkey.length]
  cases outcome with
  | none =>
      by_cases hbefore : before = []
      · subst hbefore
        obtain ⟨hshows, hkeys⟩ := hleaves rfl houtcome
        refine Sees.leaves hshows rfl ?_ ?_
        · intro done c more hsplit
          exact congrArg (Option.map _) (hkeys first hfirst done c more hsplit)
        · intro done c more hsplit
          exact congrArg (Option.map _) (hkeys second hsecond done c more hsplit)
      · exact Sees.passes hbefore (hfind first hfirst) (hfind second hsecond)
  | some found =>
      obtain ⟨put, behind⟩ := found
      have hfit := hfits _ rfl
      cases behind with
      | before rest =>
          have hlength : ∀ key, KeyShape key →
              ((Behind.before rest).fill key after).length = rest.length + 48 + after.length := by
            intro key hkey
            show (rest ++ key ++ after).length = _
            rw [List.length_append, List.length_append, hkey.length]
          have hone := hfind first hfirst
          have hother := hfind second hsecond
          rw [Option.map_some, hlength _ hfirst] at hone
          rw [Option.map_some, hlength _ hsecond] at hother
          exact Sees.covers _ put (Or.inl (by omega)) hone hother
      | after rest =>
          have hle : rest.length ≤ after.length := hfit
          exact Sees.covers (before.length + 48 + after.length - rest.length) put
            (Or.inr (by rw [hfirst.length]; omega)) (hfind first hfirst) (hfind second hsecond)

theorem readLine_over {part : List Char} (hpart : ∀ c ∈ part, classes.hostChar c = true)
    (hne : part ≠ []) (afterWord : Bool) (after : List Char) :
    classes.readLine afterWord (part ++ after) =
      if afterWord = part.head?.any classes.isWord then none
      else
        ((delimited classes.hostChar ':' after).bind fun host =>
          (classes.readPort host.2).map fun tail => (host.1 ++ ':' :: tail.1, tail.2)).map
            fun found => (part ++ (found.1 ++ ":***:***".toList), found.2) := by
  have hhead : (part ++ after).head? = part.head? := by
    cases part with
    | nil => exact absurd rfl hne
    | cons c part => rfl
  unfold CharClasses.readLine
  rw [hhead]
  split
  · rfl
  · rw [delimited_append_all hpart, Option.bind_map, Option.map_bind]
    congr 1
    funext host
    have hhost : part ++ host.1 ≠ [] := fun h => hne (List.append_eq_nil_iff.mp h).1
    rw [Function.comp_apply, Function.comp_apply, if_pos hhost, Option.map_map]
    congr 1
    funext tail
    simp

theorem steady_line {c : Char} (hmem : c ∈ before) (hc : classes.hostChar c = false)
    (afterWord : Bool) (after : List Char) :
    Steady (classes.readLine afterWord) before after := by
  have hhead : ∀ key, (before ++ key ++ after).head? = before.head? := by
    intro key
    cases before with
    | nil => cases hmem
    | cons d before => rfl
  have hbind : Steady (fun text => (delimited classes.hostChar ':' text).bind fun host =>
      if host.1 ≠ [] then
        (classes.readPort host.2).map fun tail =>
          (host.1 ++ ':' :: tail.1 ++ ":***:***".toList, tail.2)
      else none) before after := by
    apply Steady.bind hostChar_colon
    · intro hall
      rw [hall c hmem] at hc
      cases hc
    · intro run more _
      dsimp only
      by_cases hrun : run ≠ []
      · simp only [if_pos hrun]
        exact (steady_port more after).relabel fun port => run ++ ':' :: port ++ ":***:***".toList
      · simp only [if_neg hrun]
        exact Steady.of_none fun _ _ => rfl
  by_cases hboundary : afterWord = before.head?.any classes.isWord
  · apply Steady.of_none
    intro key _
    unfold CharClasses.readLine
    rw [hhead, if_pos hboundary]
  · refine hbind.of_tail (Nat.le_refl _) fun key _ => ?_
    unfold CharClasses.readLine
    rw [hhead, if_neg hboundary]

theorem length_of_lineTail {found : List Char × List Char}
    (h : ((delimited classes.hostChar ':' after).bind fun host =>
      (classes.readPort host.2).map fun tail => (host.1 ++ ':' :: tail.1, tail.2)) = some found) :
    found.2.length ≤ after.length := by
  obtain ⟨host, hhost, hmap⟩ := Option.bind_eq_some_iff.mp h
  obtain ⟨⟨port, rest⟩, hport, rfl⟩ := Option.map_eq_some_iff.mp hmap
  obtain ⟨secret, hsecret, -, -, -, hrest⟩ := readPort_eq_some hport
  obtain ⟨user, pass, hpass, -, -, -⟩ := readSecret_eq_some hrest
  rw [(delimited_eq_some hhost).1, hsecret, hpass]
  simp only [List.length_append, List.length_cons]
  omega

theorem sees_line (hfirst : KeyShape first) (hsecond : KeyShape second)
    (hbefore : afterText classes.isWord afterWord before = false) :
    Sees classes.isWord classes.lineFinder first second True afterWord before after := by
  rw [lineFinder_eq]
  rcases run_cases classes.hostChar before with hall | ⟨run, c, more, rfl, hrun, hc⟩
  · have hchars : ∀ key, KeyShape key → ∀ c ∈ before ++ key, classes.hostChar c = true := by
      intro key hkey c hc
      rcases List.mem_append.mp hc with hc | hc
      · exact hall c hc
      · exact hostChar_keyChar c (hkey.chars c hc)
    have hne : ∀ key, KeyShape key → before ++ key ≠ [] ∧
        (before ++ key).head? = (before ++ ['c']).head? := by
      intro key hkey
      obtain ⟨mode, rest, rfl, -⟩ := hkey.head
      cases before with
      | nil => exact ⟨List.cons_ne_nil _ _, rfl⟩
      | cons d before => exact ⟨List.cons_ne_nil _ _, rfl⟩
    have hread := fun key hkey =>
      readLine_over (hchars key hkey) (hne key hkey).1 afterWord after
    cases htail : (delimited classes.hostChar ':' after).bind fun host =>
        (classes.readPort host.2).map fun tail => (host.1 ++ ':' :: tail.1, tail.2) with
    | none =>
        refine (Steady.of_none fun key hkey => ?_).sees hfirst hsecond fun _ _ =>
          ⟨trivial, fun key hkey done c more hsplit => ?_⟩
        · rw [hread key hkey, htail]
          exact ite_self _
        · have hmore : ∀ d ∈ c :: more, classes.hostChar d = true := fun d hd =>
            hostChar_keyChar d (hkey.chars d (hsplit ▸ List.mem_append_right done hd))
          rw [readLine_over hmore (List.cons_ne_nil c more), htail]
          exact ite_self _
    | some found =>
        by_cases hboundary : afterWord = (before ++ ['c']).head?.any classes.isWord
        · refine (Steady.of_none fun key hkey => ?_).sees hfirst hsecond fun hnil _ => ?_
          · rw [hread key hkey, (hne key hkey).2, if_pos hboundary]
          · subst hnil
            have hword : classes.isWord 'c' = true := isWord_ascii (by decide) (by decide)
            exact absurd (hbefore.symm.trans (hboundary.trans hword)) (by decide)
        · have hfind : ∀ key, KeyShape key → finderOf classes.readLine afterWord
              (before ++ key ++ after) = some (before.length + 48 + after.length -
                found.2.length, before ++ key ++ (found.1 ++ ":***:***".toList)) := by
            intro key hkey
            unfold finderOf
            rw [hread key hkey, (hne key hkey).2, if_neg hboundary, htail, List.length_append,
              List.length_append, hkey.length]
            rfl
          have hle : found.2.length ≤ after.length := length_of_lineTail htail
          exact Sees.keeps _ before _ trivial (by rw [hfirst.length]; omega) hbefore
            (hfind first hfirst) (hfind second hsecond)
  · exact (steady_line (List.mem_append_right _ List.mem_cons_self) hc afterWord after).sees
      hfirst hsecond fun hnil => by simp at hnil

theorem sees_url (hfirst : KeyShape first) (hsecond : KeyShape second) (afterWord : Bool)
    (before after : List Char) :
    Sees classes.isWord classes.urlFinder first second True afterWord before after := by
  rw [urlFinder_eq]
  exact (steady_url before after).sees hfirst hsecond fun _ _ =>
    ⟨trivial, fun _ hkey _ _ _ hsplit => readUrl_in_key hkey hsplit⟩

end Sees

section Key

variable {part rest : List Char} {count : Nat}

theorem isPrefixOf_append_of_le {mark : List Char} (h : mark.length ≤ part.length) :
    mark.isPrefixOf (part ++ rest) = mark.isPrefixOf part := by
  rw [Bool.eq_iff_iff, List.isPrefixOf_iff_prefix, List.isPrefixOf_iff_prefix]
  constructor
  · intro hprefix
    exact List.prefix_of_prefix_length_le hprefix (List.prefix_append _ _) h
  · intro hprefix
    exact hprefix.trans (List.prefix_append _ _)

theorem le_run_append (accepts : Char → Bool) (h : count ≤ part.length) :
    (count ≤ ((part ++ rest).takeWhile accepts).length) =
      (count ≤ (part.takeWhile accepts).length) := by
  rcases run_cases accepts part with hall | ⟨run, c, more, rfl, hrun, hc⟩
  · have hpart : part.takeWhile accepts = part := List.takeWhile_eq_self_iff.mpr hall
    rw [List.takeWhile_append_of_pos hall, hpart, List.length_append]
    exact propext ⟨fun _ => h, fun _ => Nat.le_trans h (Nat.le_add_right _ _)⟩
  · rw [List.append_assoc, List.cons_append, takeWhile_append_stop hc, takeWhile_append_stop hc]

theorem shortHead_append (h : 8 ≤ part.length) : shortHead (part ++ rest) = shortHead part := by
  have hcrw : ("crw".toList).length ≤ part.length := Nat.le_trans (by decide) h
  have hmode : (part.drop 3 ++ rest).head? = (part.drop 3).head? := by
    cases hdrop : part.drop 3 with
    | nil =>
        have hlength := congrArg List.length hdrop
        rw [List.length_drop, List.length_nil] at hlength
        omega
    | cons c more => rfl
  unfold shortHead
  rw [isPrefixOf_append_of_le hcrw, List.drop_append_of_le_length (by omega), hmode,
    List.drop_append_of_le_length (by omega)]
  simp only [le_run_append keyChar (show 4 ≤ (part.drop 4).length by
    rw [List.length_drop]; omega)]

theorem longHead_append (h : 17 ≤ part.length) : longHead (part ++ rest) = longHead part := by
  have hcrw : ("crw_".toList).length ≤ part.length := Nat.le_trans (by decide) h
  have hlive : ("live".toList).length ≤ (part.drop 4).length := by
    rw [List.length_drop]
    exact Nat.le_trans (by decide) (Nat.sub_le_sub_right h 4)
  have htest : ("test".toList).length ≤ (part.drop 4).length := hlive
  have hmark : ("_".toList).length ≤ (part.drop 8).length := by
    rw [List.length_drop]
    exact Nat.le_trans (by decide) (Nat.sub_le_sub_right h 8)
  unfold longHead
  rw [isPrefixOf_append_of_le hcrw, List.drop_append_of_le_length (by omega),
    isPrefixOf_append_of_le hlive, isPrefixOf_append_of_le htest,
    List.drop_append_of_le_length (by omega), isPrefixOf_append_of_le hmark,
    List.drop_append_of_le_length (by omega)]
  simp only [le_run_append Char.isAlphanum (show 8 ≤ (part.drop 9).length by
    rw [List.length_drop]; omega)]

def longMarks : List (List Char) := ["crw_live_".toList, "crw_test_".toList]

theorem mark_of_longHead {text : List Char} (h : longHead text = true) :
    ∃ mark ∈ longMarks, mark <+: text := by
  unfold longHead at h
  simp only [Bool.and_eq_true, Bool.or_eq_true, List.isPrefixOf_iff_prefix,
    decide_eq_true_eq] at h
  obtain ⟨⟨⟨⟨more, rfl⟩, hmode⟩, hmark⟩, -⟩ := h
  have hdrop : ∀ count, ("crw_".toList ++ more).drop (4 + count) = more.drop count :=
    fun count => (List.drop_drop ..).symm
  rw [hdrop 4] at hmark
  rw [hdrop 0] at hmode
  obtain ⟨tail, htail⟩ := hmark
  rcases hmode with ⟨rest, hrest⟩ | ⟨rest, hrest⟩
  · refine ⟨"crw_live_".toList, List.mem_cons_self, tail, ?_⟩
    rw [List.drop_zero] at hrest
    rw [← hrest] at htail ⊢
    exact congrArg ("crw_live".toList ++ ·) htail
  · refine ⟨"crw_test_".toList, List.mem_cons_of_mem _ List.mem_cons_self, tail, ?_⟩
    rw [List.drop_zero] at hrest
    rw [← hrest] at htail ⊢
    exact congrArg ("crw_test".toList ++ ·) htail

theorem longMarks_tail : ∀ mark ∈ longMarks, mark.length = 9 ∧ 'c' ∉ mark.tail := by
  decide

theorem longHead_before {before after key : List Char} (hkey : KeyShape key)
    (hne : before ≠ []) (hlength : before.length < 9) :
    longHead (before ++ key ++ after) = false := by
  by_contra h
  obtain ⟨mark, hmark, behind, hbehind⟩ := mark_of_longHead ((Bool.not_eq_false _).mp h)
  obtain ⟨hsize, htail⟩ := longMarks_tail mark hmark
  obtain ⟨mode, rest, rfl, -⟩ := hkey.head
  rw [List.append_assoc] at hbehind
  rcases List.append_eq_append_iff.mp hbehind with ⟨piece, hpiece, -⟩ | ⟨piece, hpiece, hrest⟩
  · have htotal := congrArg List.length hpiece
    rw [List.length_append, hsize] at htotal
    omega
  · cases before with
    | nil => exact hne rfl
    | cons d before =>
        rw [hpiece] at htail
        cases piece with
        | nil =>
            rw [hpiece, List.append_nil] at hsize
            omega
        | cons first piece =>
            rw [(List.cons.inj hrest).1.symm] at htail
            exact htail (List.mem_append_right before List.mem_cons_self)

end Key

section KeySees

variable {classes : CharClasses} {first second before after : List Char} {afterWord : Bool}

def keyCut (text : List Char) : Option Nat :=
  if shortHead text ∧ 8 < (text.takeWhile keyChar).length then some 8
  else if longHead text ∧ 17 < (text.takeWhile keyChar).length then some 17 else none

theorem readKey_eq (afterWord : Bool) (text : List Char) :
    classes.readKey afterWord text = if afterWord = text.head?.any classes.isWord then none
      else (keyCut text).map fun count =>
        (text.take count ++ "_***".toList, text.dropWhile keyChar) := by
  unfold CharClasses.readKey keyCut
  dsimp only
  split
  · rfl
  · by_cases hshort : shortHead text ∧ 8 < (text.takeWhile keyChar).length
    · rw [if_pos hshort, if_pos hshort]
      rfl
    · rw [if_neg hshort, if_neg hshort]
      split
      · rfl
      · rfl

theorem run_same (before after : List Char) :
    (∀ key, KeyShape key →
      ((before ++ key ++ after).takeWhile keyChar).length =
        before.length + 48 + (after.takeWhile keyChar).length ∧
      (before ++ key ++ after).dropWhile keyChar = after.dropWhile keyChar) ∨
    ∃ run rest, before = run ++ rest ∧ ∀ key,
      ((before ++ key ++ after).takeWhile keyChar).length = run.length ∧
        (before ++ key ++ after).dropWhile keyChar = rest ++ key ++ after := by
  rcases run_cases keyChar before with hall | ⟨run, c, more, rfl, hrun, hc⟩
  · left
    intro key hkey
    have hchars : ∀ c ∈ before ++ key, keyChar c = true := by
      intro c hmem
      rcases List.mem_append.mp hmem with hmem | hmem
      · exact hall c hmem
      · exact hkey.chars c hmem
    rw [List.takeWhile_append_of_pos hchars, List.dropWhile_append_of_pos hchars,
      List.length_append, List.length_append, hkey.length]
    exact ⟨rfl, rfl⟩
  · right
    refine ⟨run, c :: more, rfl, fun key => ?_⟩
    rw [List.append_assoc, List.append_assoc, List.cons_append, takeWhile_append_stop hc,
      dropWhile_append_stop hc, List.takeWhile_eq_self_iff.mpr hrun,
      List.dropWhile_eq_nil_iff.mpr hrun]
    exact ⟨rfl, by simp⟩

theorem short_key {key : List Char} (hkey : KeyShape key) (after : List Char) :
    shortHead ([] ++ key ++ after) = true ∧
      8 < (([] ++ key ++ after).takeWhile keyChar).length := by
  obtain ⟨mode, rest, rfl, hmode⟩ := hkey.head
  have hrest : ∀ c ∈ rest, keyChar c = true := fun c hc =>
    hkey.chars c (List.mem_append_right ['c', 'r', 'w', mode] hc)
  have hlength : rest.length = 44 := by
    have h := hkey.length
    simp only [List.length_cons] at h
    omega
  constructor
  · have hrun : 4 ≤ ((rest ++ after).takeWhile keyChar).length := by
      rw [List.takeWhile_append_of_pos hrest, List.length_append]
      omega
    have hhead : (decide (mode = 'l') || decide (mode = 't')) = true := by
      rcases hmode with rfl | rfl
      · rfl
      · rfl
    show (true && (decide (mode = 'l') || decide (mode = 't')) &&
      decide (4 ≤ ((rest ++ after).takeWhile keyChar).length)) = true
    rw [hhead, decide_eq_true hrun]
    rfl
  · rw [List.nil_append, List.takeWhile_append_of_pos hkey.chars, List.length_append, hkey.length]
    omega

theorem keyCut_same (hfirst : KeyShape first) (hsecond : KeyShape second)
    (htake : first.take 8 = second.take 8) :
    keyCut (before ++ first ++ after) = keyCut (before ++ second ++ after) ∧
      ∀ count ∈ keyCut (before ++ first ++ after),
        (before ++ first ++ after).take count = (before ++ second ++ after).take count := by
  obtain ⟨start, hstart⟩ : ∃ start, start = first.take 8 := ⟨_, rfl⟩
  have hsize : start.length = 8 := by
    rw [hstart, List.length_take, hfirst.length]
    rfl
  have hsplit : ∀ key : List Char, start = key.take 8 →
      before ++ key ++ after = before ++ start ++ (key.drop 8 ++ after) := by
    intro key hkey
    simp only [List.append_assoc]
    rw [← List.append_assoc start, hkey, List.take_append_drop]
  have hlength : (before ++ start).length = before.length + 8 := by
    rw [List.length_append, hsize]
  have htakes : ∀ count ≤ before.length + 8,
      (before ++ first ++ after).take count = (before ++ second ++ after).take count := by
    intro count hcount
    have hle : count ≤ (before ++ start).length := by omega
    rw [hsplit first hstart, hsplit second (hstart.trans htake),
      List.take_append_of_le_length hle, List.take_append_of_le_length hle]
  have hshort : shortHead (before ++ first ++ after) = shortHead (before ++ second ++ after) := by
    have hle : 8 ≤ (before ++ start).length := by omega
    rw [hsplit first hstart, hsplit second (hstart.trans htake), shortHead_append hle,
      shortHead_append hle]
  have hrun : ((before ++ first ++ after).takeWhile keyChar).length =
      ((before ++ second ++ after).takeWhile keyChar).length := by
    rcases run_same before after with hall | ⟨run, rest, -, hpart⟩
    · rw [(hall first hfirst).1, (hall second hsecond).1]
    · rw [(hpart first).1, (hpart second).1]
  by_cases hcut : shortHead (before ++ second ++ after) ∧
      8 < ((before ++ second ++ after).takeWhile keyChar).length
  · have hsame : keyCut (before ++ second ++ after) = some 8 := if_pos hcut
    have hfirstCut : keyCut (before ++ first ++ after) = some 8 := if_pos (by rwa [hshort, hrun])
    refine ⟨hfirstCut.trans hsame.symm, fun count hcount => ?_⟩
    rw [hfirstCut] at hcount
    cases hcount
    exact htakes 8 (by omega)
  · have hbefore : before ≠ [] := by
      rintro rfl
      exact hcut (short_key hsecond after)
    have hlong : longHead (before ++ first ++ after) = longHead (before ++ second ++ after) := by
      by_cases hless : before.length < 9
      · rw [longHead_before hfirst hbefore hless, longHead_before hsecond hbefore hless]
      · have hle : 17 ≤ (before ++ start).length := by omega
        rw [hsplit first hstart, hsplit second (hstart.trans htake), longHead_append hle,
          longHead_append hle]
    have hsame : keyCut (before ++ first ++ after) = keyCut (before ++ second ++ after) := by
      unfold keyCut
      rw [hshort, hrun, hlong]
    refine ⟨hsame, fun count hcount => ?_⟩
    rw [hsame] at hcount
    unfold keyCut at hcount
    rw [if_neg hcut] at hcount
    split at hcount
    · rename_i hfound
      cases hcount
      apply htakes
      by_contra hless
      rw [longHead_before hsecond hbefore (by omega)] at hfound
      exact Bool.false_ne_true hfound.1
    · cases hcount

theorem sees_key (hfirst : KeyShape first) (hsecond : KeyShape second)
    (htake : first.take 8 = second.take 8)
    (hbefore : afterText classes.isWord afterWord before = false) :
    Sees classes.isWord classes.keyFinder first second False afterWord before after := by
  obtain ⟨hcut, htakes⟩ := @keyCut_same first second before after hfirst hsecond htake
  have hhead : ∀ key, KeyShape key → (before ++ key ++ after).head? = (before ++ ['c']).head? := by
    intro key hkey
    obtain ⟨mode, rest, rfl, -⟩ := hkey.head
    cases before with
    | nil => rfl
    | cons d before => rfl
  have hword : classes.isWord 'c' = true := isWord_ascii (by decide) (by decide)
  rw [keyFinder_eq]
  by_cases hboundary : afterWord = (before ++ ['c']).head?.any classes.isWord
  · have hnone : ∀ key, KeyShape key →
        finderOf classes.readKey afterWord (before ++ key ++ after) = none := by
      intro key hkey
      unfold finderOf
      rw [readKey_eq, hhead key hkey, if_pos hboundary]
      rfl
    have hne : before ≠ [] := by
      rintro rfl
      exact absurd (hbefore.symm.trans (hboundary.trans hword)) (by decide)
    exact Sees.passes hne (hnone first hfirst) (hnone second hsecond)
  · have hfind : ∀ key, KeyShape key → finderOf classes.readKey afterWord (before ++ key ++ after) =
        (keyCut (before ++ key ++ after)).map fun count => (before.length + 48 + after.length -
            ((before ++ key ++ after).dropWhile keyChar).length,
          (before ++ key ++ after).take count ++ "_***".toList) := by
      intro key hkey
      unfold finderOf
      rw [readKey_eq, hhead key hkey, if_neg hboundary, Option.map_map, List.length_append,
        List.length_append, hkey.length]
      rfl
    have hone := hfind first hfirst
    have hother := hfind second hsecond
    cases hcase : keyCut (before ++ first ++ after) with
    | none =>
        rw [← hcut, hcase] at hother
        rw [hcase] at hone
        have hne : before ≠ [] := by
          rintro rfl
          unfold keyCut at hcase
          rw [if_pos (short_key hfirst after)] at hcase
          cases hcase
        exact Sees.passes hne hone hother
    | some count =>
        rw [← hcut, hcase, Option.map_some, ← htakes count hcase] at hother
        rw [hcase, Option.map_some] at hone
        rcases run_same before after with hall | ⟨run, rest, hsplit, hpart⟩
        · rw [(hall first hfirst).2] at hone
          rw [(hall second hsecond).2] at hother
          have hle : (after.dropWhile keyChar).length ≤ after.length :=
            (List.dropWhile_suffix keyChar).length_le
          exact Sees.covers _ _ (Or.inr (by rw [hfirst.length]; omega)) hone hother
        · rw [(hpart first).2, List.length_append, List.length_append, hfirst.length] at hone
          rw [(hpart second).2, List.length_append, List.length_append, hsecond.length] at hother
          have hlength := congrArg List.length hsplit
          rw [List.length_append] at hlength
          exact Sees.covers _ _ (Or.inl (by omega)) hone hother

theorem afterText_key {key : List Char} (hkey : KeyShape key) (afterWord : Bool) :
    afterText classes.isWord afterWord key = true := by
  obtain ⟨front, c, hc, rfl⟩ := hkey.last
  rw [afterText_singleton_end]
  have hascii : ∀ d ∈ "AQgw".toList, d.toNat < 128 ∧ (d.isAlphanum || d = '_') = true :=
    List.forall_iff_forall_mem.mp (by decide)
  exact isWord_ascii (hascii c hc).1 (hascii c hc).2

theorem isWord_star : classes.isWord '*' = false := classes.word_ascii '*' (by decide)

theorem isWord_at : classes.isWord '@' = false := classes.word_ascii '@' (by decide)

theorem afterText_line {text put : List Char} {length : Nat}
    (h : classes.lineFinder afterWord text = some (length, put)) (behind : Bool) :
    afterText classes.isWord behind put = false := by
  rw [lineFinder_eq] at h
  obtain ⟨rest, hread, -⟩ := finderOf_eq_some h
  obtain ⟨-, host, port, tail, -, -, -, -, rfl⟩ := readLine_eq_some hread
  have hsplit : host ++ ':' :: port ++ ":***:***".toList =
      host ++ ':' :: port ++ ":***:**".toList ++ ['*'] := by
    simp
  rw [hsplit, afterText_singleton_end, isWord_star]

theorem afterText_url {text put : List Char} {length : Nat}
    (h : classes.urlFinder afterWord text = some (length, put)) (behind : Bool) :
    afterText classes.isWord behind put = false := by
  rw [urlFinder_eq] at h
  obtain ⟨rest, hread, -⟩ := finderOf_eq_some h
  obtain ⟨scheme, -, tail, -, -, rfl⟩ := readUrl_eq_some hread
  have hsplit : scheme ++ "://***:***@".toList = scheme ++ "://***:***".toList ++ ['@'] := by
    simp
  rw [hsplit, afterText_singleton_end, isWord_at]

theorem afterText_keyFinder {text put : List Char} {length : Nat}
    (h : classes.keyFinder afterWord text = some (length, put)) (behind : Bool) :
    afterText classes.isWord behind put = false := by
  rw [keyFinder_eq] at h
  obtain ⟨rest, hread, -⟩ := finderOf_eq_some h
  obtain ⟨-, count, -, rfl⟩ := readKey_eq_some hread
  have hsplit : text.take count ++ "_***".toList = text.take count ++ "_**".toList ++ ['*'] := by
    simp
  rw [hsplit, afterText_singleton_end, isWord_star]

/-- Behind no word character every key of one prefix is redacted to the same text. -/
theorem redact_key (hfirst : KeyShape first) (hsecond : KeyShape second)
    (htake : first.take 8 = second.take 8)
    (hbefore : afterText classes.isWord false before = false) :
    classes.redact (before ++ first ++ after) = classes.redact (before ++ second ++ after) := by
  have hlength : first.length = second.length := hfirst.length.trans hsecond.length.symm
  have hend : ∀ afterWord, afterText classes.isWord afterWord first =
      afterText classes.isWord afterWord second := fun afterWord =>
    (afterText_key hfirst afterWord).trans (afterText_key hsecond afterWord).symm
  have hline : Alike classes.isWord first second True false
      (replaceFrom classes.isWord classes.lineFinder 0 false (before ++ first ++ after))
      (replaceFrom classes.isWord classes.lineFinder 0 false (before ++ second ++ after)) :=
    alike_replaceFrom lineFinder_proper hlength hend (fun _ _ _ _ h => afterText_line h)
      (fun _ _ => sees_line hfirst hsecond) false before hbefore
  have hurl : ∀ left right, afterText classes.isWord false left = false →
      Alike classes.isWord first second True false
        (replaceFrom classes.isWord classes.urlFinder 0 false (left ++ first ++ right))
        (replaceFrom classes.isWord classes.urlFinder 0 false (left ++ second ++ right)) :=
    fun left right hleft => alike_replaceFrom urlFinder_proper hlength hend
      (fun _ _ _ _ h => afterText_url h)
      (fun afterWord before _ => sees_url hfirst hsecond afterWord before right) false left hleft
  have hkey : ∀ left right, afterText classes.isWord false left = false →
      Alike classes.isWord first second False false
        (replaceFrom classes.isWord classes.keyFinder 0 false (left ++ first ++ right))
        (replaceFrom classes.isWord classes.keyFinder 0 false (left ++ second ++ right)) :=
    fun left right hleft => alike_replaceFrom keyFinder_proper hlength hend
      (fun _ _ _ _ h => afterText_keyFinder h)
      (fun _ _ => sees_key hfirst hsecond htake) false left hleft
  unfold CharClasses.redact replaceAll
  dsimp only
  rcases hline with hsame | ⟨-, left, right, hleft, hone, hother⟩
  · rw [hsame]
  · rw [hone, hother]
    rcases hurl left right hleft with hsame | ⟨-, left, right, hleft, hone, hother⟩
    · rw [hsame]
    · rw [hone, hother]
      rcases hkey left right hleft with hsame | ⟨hfalse, -⟩
      · exact hsame
      · exact hfalse.elim

end KeySees

end CrawlerApi
