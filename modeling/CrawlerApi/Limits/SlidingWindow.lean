import CrawlerApi.Foundation.Run
import CrawlerApi.Foundation.SortedSet
import Mathlib.Data.String.Basic

/-!
# The sliding-window script

`LUA_SLIDING_WINDOW` over one sorted-set key, evaluated atomically.  A check
carries the reading it passes as `now`, the server's clock when the script runs
and the values `math.random` returns in that evaluation.
-/

namespace CrawlerApi.Limits

open Foundation

/-- The window in seconds and the limit of one layer. -/
structure Layer where
  window : Nat
  limit : Nat
deriving DecidableEq, Repr

structure Check where
  now : Int
  cost : Int := 1
  evaluatedAt : Int
  random : Nat → Nat

/-- The sorted set under the key and the time its EXPIRE set, on the server's clock. -/
structure Key where
  set : SortedSet String
  expiresAt : Option Int

def Key.absent : Key := ⟨SortedSet.empty, none⟩

def Key.expired (key : Key) (clock : Int) : Prop := ∃ deadline ∈ key.expiresAt, deadline < clock

instance (key : Key) (clock : Int) : Decidable (key.expired clock) :=
  match h : key.expiresAt with
  | none => .isFalse (by simp [Key.expired, h])
  | some deadline => decidable_of_iff (deadline < clock) (by simp [Key.expired, h])

/-- Redis drops an expired key before the script sees it. -/
def Key.fetched (key : Key) (clock : Int) : Key := if key.expired clock then .absent else key

structure Reply where
  allowed : Bool
  count : Int
  resetAt : Int
deriving DecidableEq, Repr

/-- `now .. '-' .. i .. '-' .. math.random(1000000)`. -/
def member (now : Int) (i random : Nat) : String :=
  toString now ++ "-" ++ toString i ++ "-" ++ toString random

/-- The members the loop `for i = 1, cost` adds. -/
def Check.members (check : Check) : List String :=
  (List.range' 1 check.cost.toNat).map fun i => member check.now i (check.random i)

def Check.cutoff (layer : Layer) (check : Check) : Int := check.now - layer.window * 1000

def live (layer : Layer) (key : Key) (check : Check) : SortedSet String :=
  (key.fetched check.evaluatedAt).set.removeUpTo (check.cutoff layer)

def luaSlidingWindow (layer : Layer) (key : Key) (check : Check) : Key × Reply :=
  let fetched := key.fetched check.evaluatedAt
  let set := live layer key check
  let count : Int := set.card
  if count + check.cost > layer.limit then
    let resetAt := match set.first with
      | some oldest => oldest.score + layer.window * 1000
      | none => 0
    (⟨set, fetched.expiresAt⟩, ⟨false, count, resetAt⟩)
  else
    (⟨set.addAll check.now check.members,
        some (check.evaluatedAt + (layer.window + 1) * 1000)⟩,
      ⟨true, count + check.cost, check.now + layer.window * 1000⟩)

/-! Within one evaluation the index keeps the members apart, whatever the random
suffixes are. -/

private theorem takeWhile_digits (i : Nat) (rest : List Char) :
    (Nat.toDigits 10 i ++ '-' :: rest).takeWhile Char.isDigit = Nat.toDigits 10 i := by
  rw [List.takeWhile_append_of_pos]
  · simp
  · intro c hc
    exact Nat.isDigit_of_mem_toDigits (by decide) (by decide) hc

theorem member_index_injective {now : Int} {i j random other : Nat}
    (h : member now i random = member now j other) : i = j := by
  have hlist := congrArg String.toList h
  simp only [member, String.toList_append, List.append_assoc, List.append_cancel_left_eq,
    Nat.toString_eq_repr, Nat.toList_repr] at hlist
  have hdigits := congrArg (List.takeWhile Char.isDigit) hlist
  rw [show "-".toList = ['-'] from rfl, List.singleton_append, List.singleton_append,
    takeWhile_digits, takeWhile_digits] at hdigits
  rw [← Nat.ofDigitChars_ten_toDigits (n := i), hdigits, Nat.ofDigitChars_ten_toDigits]

theorem Check.members_nodup (check : Check) : check.members.Nodup := by
  refine List.Nodup.map_on ?_ (List.nodup_range' ..)
  intro i _ j _ h
  exact member_index_injective h

theorem Check.length_members (check : Check) : check.members.length = check.cost.toNat := by
  simp [Check.members]

end CrawlerApi.Limits
