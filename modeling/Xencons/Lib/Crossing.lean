import Mathlib.Data.List.Basic

/-!
# How often a walk changes sides

A walk goes from place to place, and every place is on one of two sides. What is done whenever it
changes sides is done to and fro by turns, wherever the walk goes.

* `crossings side a walk` -- the sides it comes to, at every change;
* `crossings_append` -- the changes of a walk that goes on;
* `crossings_turns` -- they come by turns; `side_walk` -- and how many there are says where it is.
-/

namespace Xencons.Lib

variable {α : Type*} (side : α → Bool)

/-- The side that is come to by one move, if it is another one. -/
def crossing (a b : α) : List Bool := if side a = side b then [] else [side b]

/-- The sides that a walk from `a` comes to, at every change. -/
def crossings : α → List α → List Bool
  | _, [] => []
  | a, b :: walk => crossing side a b ++ crossings b walk

/-- Where a walk from `a` ends. -/
def endOf (a : α) (walk : List α) : α := walk.getLast?.getD a

variable {side} {a b : α}

theorem crossing_same (h : side a = side b) : crossing side a b = [] := if_pos h

theorem crossing_other (h : side a ≠ side b) : crossing side a b = [side b] := if_neg h

theorem endOf_cons (a b : α) (walk : List α) : endOf a (b :: walk) = endOf b walk := by
  cases walk with
  | nil => rfl
  | cons c walk => simp [endOf, List.getLast?_cons]

theorem endOf_append (a b : α) (walk : List α) : endOf a (walk ++ [b]) = b := by
  simp [endOf]

/-- **One move more.** -/
theorem crossings_append (a : α) (walk : List α) (b : α) :
    crossings side a (walk ++ [b]) = crossings side a walk ++ crossing side (endOf a walk) b := by
  induction walk generalizing a with
  | nil => simp [crossings, endOf]
  | cons c walk ih => rw [List.cons_append, crossings, ih c, crossings, endOf_cons, List.append_assoc]

/-- **How many changes there have been says where the walk is.** -/
theorem side_endOf (a : α) (walk : List α) :
    side (endOf a walk) = (side a ^^ decide ((crossings side a walk).length % 2 = 1)) := by
  induction walk generalizing a with
  | nil => simp [crossings, endOf]
  | cons b walk ih =>
    rw [endOf_cons, ih b, crossings]
    by_cases h : side a = side b
    · rw [crossing_same h, h, List.nil_append]
    · have hflip : side b = !side a := by
        cases ha : side a <;> cases hb : side b <;> simp_all
      rw [crossing_other h, List.singleton_append, List.length_cons, hflip]
      rcases Nat.mod_two_eq_zero_or_one (crossings side b walk).length with hm | hm
      · have hs : ((crossings side b walk).length + 1) % 2 = 1 := by omega
        simp [hm, hs]
      · have hs : ((crossings side b walk).length + 1) % 2 = 0 := by omega
        simp [hm, hs]

/-- **The changes come by turns**, the first of them away from where the walk begins. -/
theorem crossings_turns (a : α) (walk : List α) (i : Nat) (s : Bool)
    (h : (crossings side a walk)[i]? = some s) : s = (side a ^^ decide (i % 2 = 0)) := by
  induction walk generalizing a i with
  | nil => simp [crossings] at h
  | cons b walk ih =>
    rw [crossings] at h
    by_cases hab : side a = side b
    · rw [crossing_same hab, List.nil_append] at h
      rw [hab]
      exact ih b i h
    · have hflip : side b = !side a := by
        cases ha : side a <;> cases hb : side b <;> simp_all
      rw [crossing_other hab, List.singleton_append] at h
      cases i with
      | zero =>
          obtain rfl : side b = s := by simpa using h
          simp [hflip]
      | succ i =>
          rw [ih b i (by simpa using h), hflip]
          rcases Nat.mod_two_eq_zero_or_one i with hm | hm
          · have hs : (i + 1) % 2 = 1 := by omega
            simp [hm, hs]
          · have hs : (i + 1) % 2 = 0 := by omega
            simp [hm, hs]

end Xencons.Lib
