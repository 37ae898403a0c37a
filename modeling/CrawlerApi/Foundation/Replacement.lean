import CrawlerApi.Foundation.Regex
import Mathlib.Data.List.Count

/-!
# Replacing what is found

A text is read from the left.  Where a finder finds something its replacement is written and
reading goes on behind it; any other character is copied.
-/

namespace CrawlerApi.Foundation

abbrev Finder := Bool → List Char → Option (Nat × List Char)

def Finder.Proper (find : Finder) : Prop :=
  ∀ afterWord text length put, find afterWord text = some (length, put) →
    0 < length ∧ length ≤ text.length

def Finder.StopsAt (find : Finder) (stop : Char) : Prop :=
  ∀ afterWord text rest, find afterWord (text ++ stop :: rest) = find afterWord text

section Replacing

variable (word : Char → Bool)

def Regex.finder (expression : Regex) (template : (Nat → List Char) → List Char) : Finder :=
  fun afterWord text =>
    (expression.results word { afterWord := afterWord, rest := text }).head?.map fun behind =>
      (text.length - behind.rest.length, template behind.groups)

variable (find : Finder)

/-- The rest of the text with `skip` characters of it already replaced. -/
def replaceFrom : Nat → Bool → List Char → List Char
  | _, _, [] => []
  | skip + 1, _, c :: text => replaceFrom skip (word c) text
  | 0, afterWord, c :: text =>
      match find afterWord (c :: text) with
      | some (skip + 1, put) => put ++ replaceFrom skip (word c) text
      | _ => c :: replaceFrom 0 (word c) text

def replaceAll (text : List Char) : List Char := replaceFrom word find 0 false text

end Replacing

section Results

variable {word : Char → Bool} {find : Finder} {afterWord : Bool} {text rest put : List Char}
  {length : Nat} {c stop : Char}

theorem replaceFrom_skip (skip : Nat) (afterWord : Bool) (text : List Char) :
    replaceFrom word find skip afterWord text =
      replaceFrom word find 0 (afterText word afterWord (text.take skip)) (text.drop skip) := by
  induction text generalizing skip afterWord with
  | nil => cases skip <;> rfl
  | cons c text ih =>
      cases skip with
      | zero => rfl
      | succ skip => exact ih skip (word c)

theorem replaceFrom_of_none (h : find afterWord (c :: text) = none) :
    replaceFrom word find 0 afterWord (c :: text) =
      c :: replaceFrom word find 0 (word c) text := by
  rw [replaceFrom, h]

theorem replaceFrom_of_some (hproper : find.Proper)
    (h : find afterWord text = some (length, put)) :
    replaceFrom word find 0 afterWord text =
      put ++ replaceFrom word find 0 (afterText word afterWord (text.take length))
        (text.drop length) := by
  obtain ⟨hpos, hle⟩ := hproper _ _ _ _ h
  cases text with
  | nil => exact absurd hle (Nat.not_le_of_lt hpos)
  | cons c text =>
      cases length with
      | zero => exact absurd hpos (Nat.lt_irrefl 0)
      | succ skip =>
          rw [replaceFrom, h]
          exact congrArg (put ++ ·) (replaceFrom_skip skip (word c) text)

theorem Finder.Proper.induction (word : Char → Bool) (hproper : find.Proper)
    {motive : Bool → List Char → Prop}
    (nil : ∀ afterWord, motive afterWord [])
    (copy : ∀ afterWord c text, find afterWord (c :: text) = none → motive (word c) text →
      motive afterWord (c :: text))
    (put : ∀ afterWord text length put, find afterWord text = some (length, put) →
      0 < length → length ≤ text.length →
      motive (afterText word afterWord (text.take length)) (text.drop length) →
      motive afterWord text)
    (afterWord : Bool) (text : List Char) : motive afterWord text := by
  induction hlength : text.length using Nat.strong_induction_on generalizing afterWord text with
  | h total ih =>
      subst hlength
      cases hfind : find afterWord text with
      | none =>
          cases text with
          | nil => exact nil afterWord
          | cons c text => exact copy _ _ _ hfind (ih _ (Nat.lt_succ_self _) _ _ rfl)
      | some found =>
          obtain ⟨hpos, hle⟩ := hproper _ _ _ _ hfind
          refine put _ _ _ _ hfind hpos hle (ih _ ?_ _ _ rfl)
          rw [List.length_drop]
          omega

theorem find_nil (hproper : find.Proper) (afterWord : Bool) : find afterWord [] = none := by
  cases hfind : find afterWord [] with
  | none => rfl
  | some found =>
      obtain ⟨hpos, hle⟩ := hproper _ _ _ _ hfind
      exact absurd hle (Nat.not_le_of_lt hpos)

/-- A character that stops the finder splits the text. -/
theorem replaceFrom_append_stop (hproper : find.Proper) (hstops : find.StopsAt stop)
    (afterWord : Bool) (text rest : List Char) :
    replaceFrom word find 0 afterWord (text ++ stop :: rest) =
      replaceFrom word find 0 afterWord text ++
        stop :: replaceFrom word find 0 (word stop) rest := by
  induction afterWord, text using hproper.induction word with
  | nil afterWord =>
      exact replaceFrom_of_none ((hstops afterWord [] rest).trans (find_nil hproper afterWord))
  | copy afterWord c text hfind ih =>
      rw [replaceFrom_of_none hfind, List.cons_append, List.cons_append, ← ih]
      exact replaceFrom_of_none ((hstops afterWord (c :: text) rest).trans hfind)
  | put afterWord text length put hfind _ hle ih =>
      rw [replaceFrom_of_some hproper hfind,
        replaceFrom_of_some hproper ((hstops afterWord text rest).trans hfind),
        List.take_append_of_le_length hle, List.drop_append_of_le_length hle, ih,
        List.append_assoc]

theorem count_replaceFrom (hproper : find.Proper)
    (hcount : ∀ afterWord text length put, find afterWord text = some (length, put) →
      (text.take length).count c = put.count c) (afterWord : Bool) (text : List Char) :
    (replaceFrom word find 0 afterWord text).count c = text.count c := by
  induction afterWord, text using hproper.induction word with
  | nil afterWord => rfl
  | copy afterWord first text hfind ih =>
      rw [replaceFrom_of_none hfind, List.count_cons, List.count_cons, ih]
  | put afterWord text length put hfind _ _ ih =>
      rw [replaceFrom_of_some hproper hfind, List.count_append, ih,
        ← hcount _ _ _ _ hfind, ← List.count_append, List.take_append_drop]

theorem replaceFrom_append_of_none
    (h : ∀ done c more, text = done ++ c :: more →
      find (afterText word afterWord done) (c :: more ++ rest) = none) :
    replaceFrom word find 0 afterWord (text ++ rest) =
      text ++ replaceFrom word find 0 (afterText word afterWord text) rest := by
  induction text generalizing afterWord with
  | nil => rfl
  | cons c text ih =>
      have hnone : find afterWord (c :: (text ++ rest)) = none := h [] c text rfl
      rw [List.cons_append, replaceFrom_of_none hnone, ih]
      · rfl
      · intro done other more htext
        exact h (c :: done) other more (congrArg (c :: ·) htext)

theorem getLast_replaceFrom (hproper : find.Proper)
    (h : ∀ done more length put, text = done ++ more →
      find (afterText word afterWord done) more = some (length, put) → length < more.length) :
    (replaceFrom word find 0 afterWord text).getLast? = text.getLast? := by
  induction afterWord, text using hproper.induction word with
  | nil afterWord => rfl
  | copy afterWord c text hfind ih =>
      rw [replaceFrom_of_none hfind, List.getLast?_cons, List.getLast?_cons, ih]
      intro done more length put htext
      exact h (c :: done) more length put (congrArg (c :: ·) htext)
  | put afterWord text length put hfind hpos hle ih =>
      have hmore : text.drop length ≠ [] := by
        have hless := h [] text length put rfl hfind
        exact fun hnil => absurd (List.drop_eq_nil_iff.mp hnil) (Nat.not_le_of_lt hless)
      have hlast := ih fun done more other found htext hfound =>
        h (text.take length ++ done) more other found
          (by rw [List.append_assoc, ← htext, List.take_append_drop])
          (by rwa [afterText_append])
      rw [replaceFrom_of_some hproper hfind, List.getLast?_append, hlast,
        List.getLast?_drop, if_neg (fun hge => hmore (List.drop_eq_nil_iff.mpr hge))]
      cases hcase : text.getLast? with
      | none =>
          rw [List.getLast?_eq_none_iff.mp hcase, List.drop_nil] at hmore
          exact absurd rfl hmore
      | some last => rfl

end Results

/-!
Two texts that differ in one piece: `first` stands in one where `second` stands in the other.
-/

section Pieces

variable (word : Char → Bool) (find : Finder) (first second : List Char)

/-- What a finder does at a place before the piece, or right at it, in both texts. -/
inductive Sees (shows : Prop) (afterWord : Bool) (before after : List Char) : Prop where
  | passes (hbefore : before ≠ [])
      (hfirst : find afterWord (before ++ first ++ after) = none)
      (hsecond : find afterWord (before ++ second ++ after) = none)
  | covers (length : Nat) (put : List Char)
      (hlength : length ≤ before.length ∨ before.length + first.length ≤ length)
      (hfirst : find afterWord (before ++ first ++ after) = some (length, put))
      (hsecond : find afterWord (before ++ second ++ after) = some (length, put))
  | keeps (length : Nat) (left right : List Char) (hshows : shows)
      (hlength : before.length + first.length ≤ length)
      (hleft : afterText word afterWord left = false)
      (hfirst : find afterWord (before ++ first ++ after) =
        some (length, left ++ first ++ right))
      (hsecond : find afterWord (before ++ second ++ after) =
        some (length, left ++ second ++ right))
  | leaves (hshows : shows) (hbefore : before = [])
      (hfirst : ∀ done c more, first = done ++ c :: more →
        find (afterText word afterWord done) (c :: more ++ after) = none)
      (hsecond : ∀ done c more, second = done ++ c :: more →
        find (afterText word afterWord done) (c :: more ++ after) = none)

/-- The texts are the same, or the piece is still in them and not behind a word character. -/
def Alike (shows : Prop) (afterWord : Bool) (one other : List Char) : Prop :=
  one = other ∨ shows ∧ ∃ left right, afterText word afterWord left = false ∧
    one = left ++ first ++ right ∧ other = left ++ second ++ right

end Pieces

section Alike

variable {word : Char → Bool} {find : Finder} {first second : List Char} {shows : Prop}
  {afterWord : Bool} {before after one other done : List Char}

theorem Alike.cons {c : Char} (h : Alike word first second shows (word c) one other) :
    Alike word first second shows afterWord (c :: one) (c :: other) := by
  rcases h with rfl | ⟨hshows, left, right, hleft, rfl, rfl⟩
  · exact Or.inl rfl
  · exact Or.inr ⟨hshows, c :: left, right, hleft, rfl, rfl⟩

theorem Alike.append (hdone : afterText word afterWord done = false) {behind : Bool}
    (h : Alike word first second shows behind one other) :
    Alike word first second shows afterWord (done ++ one) (done ++ other) := by
  rcases h with rfl | ⟨hshows, left, right, hleft, rfl, rfl⟩
  · exact Or.inl rfl
  · refine Or.inr ⟨hshows, done ++ left, right, ?_, by simp, by simp⟩
    rw [afterText_append, hdone]
    cases left with
    | nil => rfl
    | cons c left => exact hleft

/-- Behind a match that covers the piece reading goes on in the same text. -/
theorem replaceFrom_behind (hlength : first.length = second.length)
    (hend : ∀ afterWord, afterText word afterWord first = afterText word afterWord second)
    {length : Nat} (hcovered : before.length + first.length ≤ length) :
    replaceFrom word find 0
        (afterText word afterWord ((before ++ first ++ after).take length))
        ((before ++ first ++ after).drop length) =
      replaceFrom word find 0
        (afterText word afterWord ((before ++ second ++ after).take length))
        ((before ++ second ++ after).drop length) := by
  have htake : ∀ done : List Char, done.length ≤ length →
      (done ++ after).take length = done ++ after.take (length - done.length) ∧
        (done ++ after).drop length = after.drop (length - done.length) := by
    intro done hdone
    rw [List.take_append, List.drop_append, List.take_of_length_le hdone,
      List.drop_of_length_le hdone]
    exact ⟨rfl, rfl⟩
  have hsame : (before ++ first).length = (before ++ second).length := by
    rw [List.length_append, List.length_append, hlength]
  have hdone : (before ++ first).length ≤ length := by
    rw [List.length_append]
    exact hcovered
  rw [(htake _ hdone).1, (htake _ hdone).2, (htake _ (hsame ▸ hdone)).1,
    (htake _ (hsame ▸ hdone)).2, hsame]
  simp only [afterText_append, hend]

theorem alike_replaceFrom (hproper : find.Proper) (hlength : first.length = second.length)
    (hend : ∀ afterWord, afterText word afterWord first = afterText word afterWord second)
    (hput : ∀ afterWord text length put, find afterWord text = some (length, put) →
      ∀ behind, afterText word behind put = false)
    (hsees : ∀ afterWord before, afterText word afterWord before = false →
      Sees word find first second shows afterWord before after)
    (afterWord : Bool) (before : List Char) (hbefore : afterText word afterWord before = false) :
    Alike word first second shows afterWord
      (replaceFrom word find 0 afterWord (before ++ first ++ after))
      (replaceFrom word find 0 afterWord (before ++ second ++ after)) := by
  induction htotal : before.length using Nat.strong_induction_on
    generalizing afterWord before with
  | h total ih =>
      subst htotal
      cases hsees afterWord before hbefore with
      | passes hne hfirst hsecond =>
          cases before with
          | nil => exact absurd rfl hne
          | cons c before =>
              rw [List.cons_append, List.cons_append] at hfirst hsecond ⊢
              rw [List.cons_append, List.cons_append, replaceFrom_of_none hfirst,
                replaceFrom_of_none hsecond]
              exact (ih _ (Nat.lt_succ_self _) (word c) before hbefore rfl).cons
      | covers length put hcovered hfirst hsecond =>
          rw [replaceFrom_of_some hproper hfirst, replaceFrom_of_some hproper hsecond]
          apply Alike.append (hput _ _ _ _ hfirst afterWord)
          rcases hcovered with hle | hge
          · have hpos := (hproper _ _ _ _ hfirst).1
            rw [List.append_assoc, List.append_assoc, List.take_append_of_le_length hle,
              List.take_append_of_le_length hle, List.drop_append_of_le_length hle,
              List.drop_append_of_le_length hle, ← List.append_assoc, ← List.append_assoc]
            refine ih _ ?_ _ (before.drop length) ?_ rfl
            · rw [List.length_drop]
              omega
            · rw [← afterText_append, List.take_append_drop]
              exact hbefore
          · exact Or.inl (replaceFrom_behind hlength hend hge)
      | keeps length left right hshows hcovered hleft hfirst hsecond =>
          rw [replaceFrom_of_some hproper hfirst, replaceFrom_of_some hproper hsecond,
            replaceFrom_behind hlength hend hcovered]
          exact Or.inr ⟨hshows, left, _, hleft, List.append_assoc .., List.append_assoc ..⟩
      | leaves hshows hnil hfirst hsecond =>
          subst hnil
          rw [List.nil_append, List.nil_append, replaceFrom_append_of_none hfirst,
            replaceFrom_append_of_none hsecond, hend]
          exact Or.inr ⟨hshows, [], _, hbefore, rfl, rfl⟩

end Alike

end CrawlerApi.Foundation
