import Mathlib.Data.List.TakeWhile
import Mathlib.Tactic.Choose

/-!
# Regular expressions with groups

Backtracking matching as the list of all matches in the order they are tried: the first one
is the match.  Runs of a character set are greedy, and may be bounded.
-/

namespace CrawlerApi.Foundation

inductive Regex where
  | set (accepts : Char → Bool)
  | many (accepts : Char → Bool) (least : Nat) (most : Option Nat)
  | boundary
  | seq (first second : Regex)
  | alt (first second : Regex)
  | group (number : Nat) (inner : Regex)

/-- A place in the text, whether it is behind a word character, and what the groups hold. -/
structure Spot where
  afterWord : Bool
  rest : List Char
  groups : Nat → List Char := fun _ => []

section Matching

variable (word : Char → Bool)

def afterText : Bool → List Char → Bool
  | afterWord, [] => afterWord
  | _, c :: text => afterText (word c) text

namespace Spot

def skip (spot : Spot) (length : Nat) : Spot :=
  { spot with
    afterWord := afterText word spot.afterWord (spot.rest.take length)
    rest := spot.rest.drop length }

def capture (spot : Spot) (number : Nat) (text : List Char) : Spot :=
  { spot with groups := fun other => if other = number then text else spot.groups other }

end Spot

def lengthsDown (least longest : Nat) : List Nat :=
  (List.range (longest + 1 - least)).map (longest - ·)

def longestRun (accepts : Char → Bool) (most : Option Nat) (text : List Char) : Nat :=
  (most.map (min (text.takeWhile accepts).length)).getD (text.takeWhile accepts).length

namespace Regex

def results : Regex → Spot → List Spot
  | .set accepts, spot =>
      if spot.rest.head?.any accepts then [spot.skip word 1] else []
  | .many accepts least most, spot =>
      (lengthsDown least (longestRun accepts most spot.rest)).map (spot.skip word)
  | .boundary, spot => if spot.afterWord = spot.rest.head?.any word then [] else [spot]
  | .seq first second, spot => (first.results spot).flatMap second.results
  | .alt first second, spot => first.results spot ++ second.results spot
  | .group number inner, spot =>
      (inner.results spot).map fun behind =>
        behind.capture number (spot.rest.take (spot.rest.length - behind.rest.length))

def literal (text : List Char) : Regex :=
  text.foldr (fun c => .seq (.set (· = c))) (.many (fun _ => false) 0 (some 0))

end Regex

section Texts

variable {word}

@[simp] theorem afterText_nil (afterWord : Bool) : afterText word afterWord [] = afterWord := rfl

@[simp] theorem afterText_cons (afterWord : Bool) (c : Char) (text : List Char) :
    afterText word afterWord (c :: text) = afterText word (word c) text := rfl

theorem afterText_append (afterWord : Bool) (text more : List Char) :
    afterText word afterWord (text ++ more) =
      afterText word (afterText word afterWord text) more := by
  induction text generalizing afterWord with
  | nil => rfl
  | cons c text ih => exact ih (word c)

theorem afterText_singleton_end (afterWord : Bool) (text : List Char) (c : Char) :
    afterText word afterWord (text ++ [c]) = word c := by
  rw [afterText_append]
  rfl

end Texts

section Results

variable {word} {accepts stops : Char → Bool} {spot : Spot} {least longest length : Nat}
  {first second : Regex} {lengths : List Nat} {behind : Nat → Spot}

theorem results_set (spot : Spot) : (Regex.set accepts).results word spot =
    if spot.rest.head?.any accepts then [spot.skip word 1] else [] := rfl

theorem results_boundary (spot : Spot) : Regex.boundary.results word spot =
    if spot.afterWord = spot.rest.head?.any word then [] else [spot] := rfl

theorem results_seq (first second : Regex) (spot : Spot) :
    (Regex.seq first second).results word spot =
      (first.results word spot).flatMap (second.results word) := rfl

theorem results_alt (first second : Regex) (spot : Spot) :
    (Regex.alt first second).results word spot =
      first.results word spot ++ second.results word spot := rfl

theorem results_group (number : Nat) (inner : Regex) (spot : Spot) :
    (Regex.group number inner).results word spot = (inner.results word spot).map fun behind =>
      behind.capture number (spot.rest.take (spot.rest.length - behind.rest.length)) := rfl

theorem skip_skip (spot : Spot) (length more : Nat) :
    (spot.skip word length).skip word more = spot.skip word (length + more) := by
  unfold Spot.skip
  dsimp only
  rw [List.drop_drop, ← afterText_append, List.take_add]

theorem mem_lengthsDown :
    length ∈ lengthsDown least longest ↔ least ≤ length ∧ length ≤ longest := by
  unfold lengthsDown
  simp only [List.mem_map, List.mem_range]
  constructor
  · rintro ⟨shorter, hshorter, rfl⟩
    omega
  · intro h
    exact ⟨longest - length, by omega, by omega⟩

theorem head_lengthsDown (h : least ≤ longest) :
    (lengthsDown least longest).head? = some longest := by
  unfold lengthsDown
  obtain ⟨more, hmore⟩ : ∃ more, longest + 1 - least = more + 1 := ⟨longest - least, by omega⟩
  rw [hmore, List.range_succ_eq_map]
  rfl

theorem lengthsDown_eq_nil (h : longest < least) : lengthsDown least longest = [] := by
  unfold lengthsDown
  rw [show longest + 1 - least = 0 by omega]
  rfl

theorem longestRun_le (accepts : Char → Bool) (most : Option Nat) (text : List Char) :
    longestRun accepts most text ≤ (text.takeWhile accepts).length := by
  cases most with
  | none => exact Nat.le_refl _
  | some bound => exact Nat.min_le_left _ _

theorem length_takeWhile_drop (accepts : Char → Bool) {text : List Char} {length : Nat}
    (h : length ≤ (text.takeWhile accepts).length) :
    ((text.drop length).takeWhile accepts).length =
      (text.takeWhile accepts).length - length := by
  induction text generalizing length with
  | nil => simp at h ⊢
  | cons c text ih =>
      cases length with
      | zero => rfl
      | succ length =>
          by_cases hc : accepts c = true
          · rw [List.takeWhile_cons_of_pos hc, List.length_cons] at h ⊢
            rw [List.drop_succ_cons, ih (Nat.le_of_succ_le_succ h)]
            omega
          · rw [List.takeWhile_cons_of_neg hc] at h
            cases h

def Regex.Within (accepts : Char → Bool) : Regex → Prop
  | .set inner => ∀ c, inner c = true → accepts c = true
  | .many inner _ _ => ∀ c, inner c = true → accepts c = true
  | .boundary => True
  | .seq first second => first.Within accepts ∧ second.Within accepts
  | .alt first second => first.Within accepts ∧ second.Within accepts
  | .group _ _ => False

theorem length_takeWhile_le_of_imp {inner : Char → Bool}
    (h : ∀ c, inner c = true → accepts c = true) (text : List Char) :
    (text.takeWhile inner).length ≤ (text.takeWhile accepts).length := by
  induction text with
  | nil => exact Nat.le_refl _
  | cons c text ih =>
      by_cases hc : inner c = true
      · rw [List.takeWhile_cons_of_pos hc, List.takeWhile_cons_of_pos (h c hc)]
        exact Nat.succ_le_succ ih
      · rw [List.takeWhile_cons_of_neg hc]
        exact Nat.zero_le _

theorem Regex.Within.results {expression : Regex} (h : expression.Within accepts) (spot : Spot) :
    ∃ lengths : List Nat, expression.results word spot = lengths.map (spot.skip word) ∧
      ∀ length ∈ lengths, length ≤ (spot.rest.takeWhile accepts).length := by
  induction expression generalizing spot with
  | set inner =>
      unfold Regex.results
      split
      · rename_i hhead
        refine ⟨[1], rfl, fun length hlength => ?_⟩
        rw [List.mem_singleton.mp hlength]
        cases hrest : spot.rest with
        | nil =>
            rw [hrest] at hhead
            cases hhead
        | cons c rest =>
            rw [hrest] at hhead
            rw [List.takeWhile_cons_of_pos (h c hhead)]
            exact Nat.succ_le_succ (Nat.zero_le _)
      · exact ⟨[], rfl, nofun⟩
  | many inner least most =>
      refine ⟨_, rfl, fun length hlength => ?_⟩
      exact (mem_lengthsDown.mp hlength).2.trans
        ((longestRun_le inner most spot.rest).trans (length_takeWhile_le_of_imp h _))
  | boundary =>
      unfold Regex.results
      split
      · exact ⟨[], rfl, nofun⟩
      · exact ⟨[0], rfl, fun length hlength => List.mem_singleton.mp hlength ▸ Nat.zero_le _⟩
  | seq first second ihFirst ihSecond =>
      obtain ⟨lengths, hlengths, hbound⟩ := ihFirst h.1 spot
      choose more hmore hmoreBound using fun length => ihSecond h.2 (spot.skip word length)
      refine ⟨lengths.flatMap fun length => (more length).map (length + ·), ?_, ?_⟩
      · unfold Regex.results
        rw [hlengths, List.flatMap_map, List.map_flatMap]
        congr 1
        funext length
        rw [hmore, List.map_map]
        exact List.map_congr_left fun other _ => skip_skip spot length other
      · intro total htotal
        obtain ⟨length, hlength, hadded⟩ := List.mem_flatMap.mp htotal
        obtain ⟨other, hother, rfl⟩ := List.mem_map.mp hadded
        have hle := hmoreBound length other hother
        have hfirst := hbound length hlength
        unfold Spot.skip at hle
        rw [length_takeWhile_drop accepts hfirst] at hle
        omega
  | alt first second ihFirst ihSecond =>
      obtain ⟨lengths, hlengths, hbound⟩ := ihFirst h.1 spot
      obtain ⟨others, hothers, hotherBound⟩ := ihSecond h.2 spot
      refine ⟨lengths ++ others, ?_, fun length hlength => ?_⟩
      · unfold Regex.results
        rw [hlengths, hothers, List.map_append]
      · rcases List.mem_append.mp hlength with hleft | hright
        · exact hbound length hleft
        · exact hotherBound length hright
  | group number inner _ => exact h.elim

theorem results_seq_set (spot : Spot) (second : Regex) :
    (Regex.seq (.set accepts) second).results word spot =
      if spot.rest.head?.any accepts then second.results word (spot.skip word 1) else [] := by
  rw [results_seq, results_set]
  split
  · exact List.flatMap_singleton ..
  · rfl

theorem results_literal (text : List Char) (spot : Spot) :
    (Regex.literal text).results word spot =
      if text.isPrefixOf spot.rest then [spot.skip word text.length] else [] := by
  induction text generalizing spot with
  | nil =>
      rw [List.isPrefixOf_nil_left, if_pos rfl]
      exact congrArg (List.map (spot.skip word)) (congrArg (lengthsDown 0) (Nat.min_zero _))
  | cons c text ih =>
      unfold Regex.literal List.foldr
      rw [results_seq_set]
      cases hrest : spot.rest with
      | nil => rfl
      | cons first rest =>
          rw [List.isPrefixOf_cons_cons, List.head?_cons, Option.any_some]
          by_cases hc : first = c
          · rw [if_pos (decide_eq_true hc)]
            refine (ih _).trans ?_
            rw [skip_skip, Nat.add_comm]
            unfold Spot.skip
            rw [hrest, hc]
            simp
          · rw [if_neg (by simpa using hc), if_neg]
            simp [Ne.symm hc]

theorem results_seq_nil (first : Regex) (spot : Spot) :
    (Regex.seq first (.literal [])).results word spot = first.results word spot := by
  have hnil : (Regex.literal []).results word = fun spot => [spot] := by
    funext other
    rw [results_literal, List.isPrefixOf_nil_left, if_pos rfl]
    rfl
  rw [results_seq, hnil]
  exact List.flatMap_singleton' _

theorem results_seq_end (first second : Regex) (spot : Spot) :
    (Regex.seq first second).results word spot =
      (Regex.seq first (.seq second (.literal []))).results word spot := by
  rw [results_seq, results_seq]
  congr 1
  funext behind
  exact (results_seq_nil second behind).symm

theorem results_optional (spot : Spot) :
    (Regex.many accepts 0 (some 1)).results word spot =
      if spot.rest.head?.any accepts then [spot.skip word 1, spot] else [spot] := by
  have hlongest : longestRun accepts (some 1) spot.rest =
      if spot.rest.head?.any accepts then 1 else 0 := by
    unfold longestRun
    cases spot.rest with
    | nil => rfl
    | cons c rest =>
        rw [List.head?_cons, Option.any_some]
        by_cases hc : accepts c = true
        · rw [List.takeWhile_cons_of_pos hc, if_pos hc]
          exact Nat.min_eq_right (Nat.succ_le_succ (Nat.zero_le _))
        · rw [List.takeWhile_cons_of_neg hc, if_neg hc]
          rfl
  unfold Regex.results
  rw [hlongest]
  split
  · rfl
  · rfl

theorem results_exactly (count : Nat) (spot : Spot) :
    (Regex.many accepts count (some count)).results word spot =
      if count ≤ (spot.rest.takeWhile accepts).length then [spot.skip word count] else [] := by
  unfold Regex.results longestRun
  rw [Option.map_some, Option.getD_some]
  split
  · rename_i h
    rw [Nat.min_eq_right h]
    unfold lengthsDown
    rw [Nat.add_sub_cancel_left]
    rfl
  · rename_i h
    rw [lengthsDown_eq_nil (Nat.lt_of_le_of_lt (Nat.min_le_left _ _) (Nat.lt_of_not_le h))]
    rfl


theorem head_results_many (spot : Spot) :
    ((Regex.many accepts least none).results word spot).head? =
      if least ≤ (spot.rest.takeWhile accepts).length then
        some (spot.skip word (spot.rest.takeWhile accepts).length)
      else none := by
  unfold Regex.results longestRun
  rw [List.head?_map, Option.map_none, Option.getD_none]
  split
  · rename_i h
    rw [head_lengthsDown h]
    rfl
  · rename_i h
    rw [lengthsDown_eq_nil (Nat.lt_of_not_le h)]
    rfl

theorem head_drop_takeWhile (text : List Char) :
    (text.drop (text.takeWhile accepts).length).head?.any accepts = false := by
  induction text with
  | nil => rfl
  | cons c text ih =>
      by_cases hc : accepts c = true
      · rw [List.takeWhile_cons_of_pos hc]
        exact ih
      · rw [List.takeWhile_cons_of_neg hc]
        exact Bool.eq_false_iff.mpr hc

theorem head_drop_of_lt {text : List Char} (h : length < (text.takeWhile accepts).length) :
    (text.drop length).head?.any accepts = true := by
  induction text generalizing length with
  | nil => cases h
  | cons c text ih =>
      by_cases hc : accepts c = true
      · rw [List.takeWhile_cons_of_pos hc, List.length_cons] at h
        cases length with
        | zero => exact hc
        | succ length => exact ih (Nat.lt_of_succ_lt_succ h)
      · rw [List.takeWhile_cons_of_neg hc] at h
        cases h

/-- Of the beginnings of a run only the whole run is before a character of another set. -/
theorem head_results_delimited (hbehind : ∀ length, (behind length).rest = spot.rest.drop length)
    (hlengths : ∀ length ∈ lengths, length ≤ (spot.rest.takeWhile accepts).length)
    (hdisjoint : ∀ c, accepts c = true → stops c = false) (second : Regex) :
    ((lengths.map behind).flatMap ((Regex.seq (.set stops) second).results word)).head? =
      if (spot.rest.takeWhile accepts).length ∈ lengths then
        ((Regex.seq (.set stops) second).results word
          (behind (spot.rest.takeWhile accepts).length)).head?
      else none := by
  have hnone : ∀ length, length < (spot.rest.takeWhile accepts).length →
      (Regex.seq (.set stops) second).results word (behind length) = [] := by
    intro length hlength
    have hhead := head_drop_of_lt hlength
    rw [results_seq_set, hbehind, if_neg]
    cases hrest : (spot.rest.drop length).head? with
    | none => exact Bool.false_ne_true
    | some c =>
        rw [hrest] at hhead
        rw [Option.any_some, hdisjoint c hhead]
        exact Bool.false_ne_true
  induction lengths with
  | nil => rfl
  | cons length lengths ih =>
      obtain ⟨hfirst, hrest⟩ := List.forall_mem_cons.mp hlengths
      rw [List.map_cons, List.flatMap_cons, List.head?_append, ih hrest]
      rcases Nat.lt_or_eq_of_le hfirst with hless | heq
      · rw [hnone length hless, List.head?_nil, Option.none_or]
        congr 1
        simp [Nat.ne_of_gt hless]
      · subst heq
        rw [if_pos List.mem_cons_self]
        split
        · cases ((Regex.seq (.set stops) second).results word
            (behind (spot.rest.takeWhile accepts).length)).head? with
          | none => rfl
          | some found => rfl
        · exact Option.or_none

def delimited (accepts : Char → Bool) (delimiter : Char) (text : List Char) :
    Option (List Char × List Char) :=
  match text.dropWhile accepts with
  | [] => none
  | c :: rest => if c = delimiter then some (text.takeWhile accepts, rest) else none

theorem delimited_eq_some {delimiter : Char} {text run rest : List Char}
    (h : delimited accepts delimiter text = some (run, rest)) :
    text = run ++ delimiter :: rest ∧ ∀ c ∈ run, accepts c = true := by
  unfold delimited at h
  split at h
  · cases h
  · rename_i c behind hdrop
    split at h
    · rename_i hc
      cases h
      subst hc
      refine ⟨?_, fun c hc => List.mem_takeWhile_imp hc⟩
      rw [← hdrop, List.takeWhile_append_dropWhile]
    · cases h

variable (word) in
/-- The expression matches beginnings of the runs of the set, whole runs when they are valid. -/
def Regex.Runs (accepts : Char → Bool) (valid : List Char → Prop) (expression : Regex) : Prop :=
  ∀ spot : Spot, ∃ lengths : List Nat,
    expression.results word spot = lengths.map (spot.skip word) ∧
    (∀ length ∈ lengths, length ≤ (spot.rest.takeWhile accepts).length) ∧
    ((spot.rest.takeWhile accepts).length ∈ lengths ↔ valid (spot.rest.takeWhile accepts))

theorem runs_many (accepts : Char → Bool) (least : Nat) (most : Option Nat) :
    (Regex.many accepts least most).Runs word accepts
      fun run => least ≤ run.length ∧ ∀ bound ∈ most, run.length ≤ bound := by
  intro spot
  refine ⟨_, rfl, fun length hlength => ?_, ?_⟩
  · exact (mem_lengthsDown.mp hlength).2.trans (longestRun_le accepts most spot.rest)
  · rw [mem_lengthsDown]
    apply and_congr_right
    intro _
    cases most with
    | none => exact ⟨nofun, fun _ => Nat.le_refl _⟩
    | some bound =>
        constructor
        · intro h other hother
          cases hother
          exact h.trans (Nat.min_le_right _ _)
        · intro h
          exact Nat.le_min.mpr ⟨Nat.le_refl _, h bound rfl⟩

theorem runs_some (accepts : Char → Bool) :
    (Regex.many accepts 1 none).Runs word accepts (· ≠ []) := by
  intro spot
  obtain ⟨lengths, hresults, hlengths, hvalid⟩ := runs_many accepts 1 none spot
  have hpos : 1 ≤ (spot.rest.takeWhile accepts).length ↔ spot.rest.takeWhile accepts ≠ [] :=
    List.length_pos_iff
  exact ⟨lengths, hresults, hlengths,
    hvalid.trans ⟨fun h => hpos.mp h.1, fun h => ⟨hpos.mpr h, nofun⟩⟩⟩

theorem results_many_of_head (h : spot.rest.head?.any accepts = false) (most : Option Nat) :
    (Regex.many accepts (least + 1) most).results word spot = [] := by
  have hrun : (spot.rest.takeWhile accepts).length = 0 := by
    cases hrest : spot.rest with
    | nil => rfl
    | cons c rest =>
        rw [hrest, List.head?_cons, Option.any_some] at h
        rw [List.takeWhile_cons_of_neg (by simpa using h)]
        rfl
  have hlongest := longestRun_le accepts most spot.rest
  unfold Regex.results
  rw [lengthsDown_eq_nil (by omega)]
  rfl

theorem Regex.Within.runs_alt {expression : Regex} (h : expression.Within accepts)
    (hhead : ∀ spot, spot.rest.head?.any accepts = false → expression.results word spot = []) :
    (Regex.alt expression (.many accepts 1 none)).Runs word accepts (· ≠ []) := by
  intro spot
  obtain ⟨lengths, hresults, hlengths⟩ := h.results spot
  obtain ⟨runs, hruns, hrunLengths, hvalid⟩ := runs_some accepts spot
  refine ⟨lengths ++ runs, ?_, fun length hlength => ?_, ?_⟩
  · unfold Regex.results
    rw [hresults, hruns, List.map_append]
  · rcases List.mem_append.mp hlength with hleft | hright
    · exact hlengths length hleft
    · exact hrunLengths length hright
  · rw [List.mem_append, hvalid]
    constructor
    · rintro (hleft | hright) hnil
      · have hnone : spot.rest.head?.any accepts = false := by
          have hdrop := @head_drop_takeWhile accepts spot.rest
          rwa [hnil, List.length_nil, List.drop_zero] at hdrop
        rw [hhead spot hnone] at hresults
        rw [List.map_eq_nil_iff.mp hresults.symm] at hleft
        cases hleft
      · exact hright hnil
    · exact Or.inr

theorem drop_length_takeWhile (accepts : Char → Bool) (text : List Char) :
    text.drop (text.takeWhile accepts).length = text.dropWhile accepts := by
  have h : (text.takeWhile accepts ++ text.dropWhile accepts).drop
      (text.takeWhile accepts).length = text.dropWhile accepts := List.drop_left
  rwa [List.takeWhile_append_dropWhile] at h

theorem head_results_behind {valid : List Char → Prop} [DecidablePred valid] {delimiter : Char}
    (hbehind : ∀ length, (behind length).rest = spot.rest.drop length)
    (hlengths : ∀ length ∈ lengths, length ≤ (spot.rest.takeWhile accepts).length)
    (hvalid : (spot.rest.takeWhile accepts).length ∈ lengths ↔
      valid (spot.rest.takeWhile accepts))
    (hdelimiter : accepts delimiter = false) (second : Regex) :
    ((lengths.map behind).flatMap
        ((Regex.seq (.set (· = delimiter)) second).results word)).head? =
      (delimited accepts delimiter spot.rest).bind fun found =>
        if valid found.1 then
          (second.results word ((behind found.1.length).skip word 1)).head?
        else none := by
  have hdisjoint : ∀ c, accepts c = true → decide (c = delimiter) = false := by
    intro c hc
    apply decide_eq_false
    intro heq
    rw [heq, hdelimiter] at hc
    cases hc
  rw [head_results_delimited hbehind hlengths hdisjoint, results_seq_set, hbehind,
    drop_length_takeWhile]
  unfold delimited
  cases hrest : spot.rest.dropWhile accepts with
  | nil => exact ite_self _
  | cons c rest =>
      rw [List.head?_cons, Option.any_some]
      by_cases hc : c = delimiter
      · rw [if_pos (decide_eq_true hc)]
        dsimp only
        rw [if_pos hc, Option.bind_some]
        exact if_congr hvalid rfl rfl
      · have hcd : ¬ decide (c = delimiter) = true := by simpa using hc
        dsimp only
        rw [if_neg hc, if_neg hcd]
        exact ite_self _

theorem skip_delimited {delimiter : Char} {run rest : List Char}
    (h : spot.rest = run ++ delimiter :: rest) :
    (spot.skip word run.length).skip word 1 =
      { spot with afterWord := word delimiter, rest := rest } := by
  unfold Spot.skip
  rw [h]
  dsimp only
  rw [List.drop_left, List.take_left]
  rfl

namespace Regex.Runs

variable {expression : Regex} {valid : List Char → Prop} [DecidablePred valid] {delimiter : Char}

theorem head_results (h : expression.Runs word accepts valid)
    (hdelimiter : accepts delimiter = false) (second : Regex) (spot : Spot) :
    ((Regex.seq expression (.seq (.set (· = delimiter)) second)).results word spot).head? =
      (delimited accepts delimiter spot.rest).bind fun found =>
        if valid found.1 then
          (second.results word { spot with afterWord := word delimiter, rest := found.2 }).head?
        else none := by
  obtain ⟨lengths, hresults, hlengths, hvalid⟩ := h spot
  rw [results_seq, hresults, head_results_behind (fun _ => rfl) hlengths hvalid hdelimiter]
  apply Option.bind_congr
  intro found hfound
  rw [skip_delimited (delimited_eq_some hfound).1]

theorem head_results_group (h : expression.Runs word accepts valid)
    (hdelimiter : accepts delimiter = false) (number : Nat) (second : Regex) (spot : Spot) :
    ((Regex.seq (.group number expression) (.seq (.set (· = delimiter)) second)).results word
        spot).head? =
      (delimited accepts delimiter spot.rest).bind fun found =>
        if valid found.1 then
          (second.results word (Spot.capture
            { spot with afterWord := word delimiter, rest := found.2 } number found.1)).head?
        else none := by
  obtain ⟨lengths, hresults, hlengths, hvalid⟩ := h spot
  have hgroup : (Regex.group number expression).results word spot = lengths.map fun length =>
      (spot.skip word length).capture number (spot.rest.take length) := by
    rw [results_group, hresults, List.map_map]
    apply List.map_congr_left
    intro length hlength
    have hle := (hlengths length hlength).trans (List.takeWhile_prefix accepts).length_le
    show (spot.skip word length).capture number
      (spot.rest.take (spot.rest.length - (spot.rest.drop length).length)) = _
    rw [List.length_drop, Nat.sub_sub_self hle]
  rw [results_seq, hgroup, head_results_behind (fun _ => rfl) hlengths hvalid hdelimiter]
  apply Option.bind_congr
  intro found hfound
  have hrest := (delimited_eq_some hfound).1
  show (if valid found.1 then (second.results word (Spot.capture
    ((spot.skip word found.1.length).skip word 1) number (spot.rest.take found.1.length))).head?
    else none) = _
  rw [skip_delimited hrest, hrest, List.take_left]

end Regex.Runs

end Results

end Matching

end CrawlerApi.Foundation
