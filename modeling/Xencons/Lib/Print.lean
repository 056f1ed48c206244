import Mathlib.Data.List.Basic

/-!
# Strings printed into a block

A block that has been zeroed is filled with strings, one behind the other, by a function that is told
how much room there is and cuts what does not fit. Whoever reads the block goes from string to string
up to an empty one.

* `put`, `print`, `lengthAt` -- what is written and read; what is outside of the block is `none`;
* `Printed` -- a block that has these strings and no others: `Printed.blank`, **`Printed.print`**,
  `Printed.lengthAt`;
* `readStrings` -- the way from string to string: **`Printed.readStrings`**.
-/

namespace Xencons.Lib

variable {α : Type} (nul : α)

/-! ## 1. Writing and reading -/

/-- Writes `text` from place `i` of the block on. -/
def put (i : Nat) (text m : List α) : Option (List α) :=
  if i + text.length ≤ m.length then some (m.take i ++ text ++ m.drop (i + text.length)) else none

/-- Prints `text` from place `i` on, where there is said to be room for `n` characters: whether it
    fits with its NUL, and what is there then. -/
def print (i n : Nat) (text m : List α) : Option (Bool × List α) :=
  if n = 0 then some (false, m)
  else (put i (text.take (n - 1) ++ [nul]) m).map (decide (text.length < n), ·)

/-- The length of the string from place `i` on. -/
def lengthAt [DecidableEq α] (i : Nat) (m : List α) : Option Nat := (m.drop i).findIdx? (· = nul)

/-- The strings from place `i` on: the first, and then others up to an empty one. -/
def readStrings [DecidableEq α] : Nat → Nat → List α → Option (List (List α))
  | 0, _, _ => none
  | left + 1, i, m => do
    let length ← lengthAt nul i m
    let c ← m[i + length + 1]?
    if c = nul then some [(m.drop i).take length]
    else
      let rest ← readStrings left (i + length + 1) m
      some ((m.drop i).take length :: rest)

/-! ## 2. What is in a block -/

/-- The strings, each with its NUL. -/
def terminated (strings : List (List α)) : List α := strings.flatMap (· ++ [nul])

/-- **A block that has these strings**, and so many NULs behind them. -/
structure Printed (strings : List (List α)) (left : Nat) (m : List α) : Prop where
  block : m = terminated nul strings ++ List.replicate left nul
  clean : ∀ s ∈ strings, nul ∉ s

variable {nul} {strings : List (List α)} {text s m : List α} {left i n : Nat}

theorem terminated_append (strings rest : List (List α)) :
    terminated nul (strings ++ rest) = terminated nul strings ++ terminated nul rest :=
  List.flatMap_append

theorem length_terminated_snoc (strings : List (List α)) (s : List α) :
    (terminated nul (strings ++ [s])).length = (terminated nul strings).length + (s.length + 1) := by
  rw [terminated_append, List.length_append]
  simp [terminated]

theorem lengthAt_of_drop [DecidableEq α] (rest : List α) (hs : nul ∉ s) (h : m.drop i = s ++ nul :: rest) :
    lengthAt nul i m = some s.length := by
  unfold lengthAt
  rw [h, List.findIdx?_append, List.findIdx?_eq_none_iff.mpr]
  · simp [List.findIdx?_cons]
  · intro c hc
    exact decide_eq_false fun e => hs (e ▸ hc)

namespace Printed

/-- A block that has been zeroed. -/
theorem blank (n : Nat) : Printed nul [] n (List.replicate n nul) := ⟨rfl, nofun⟩

theorem length (h : Printed nul strings left m) :
    m.length = (terminated nul strings).length + left := by
  rw [h.block, List.length_append, List.length_replicate]

/-- **One string more**, behind the others: it fits, and is all that changes. -/
theorem print (h : Printed nul strings left m) (hclean : nul ∉ text) (hroom : text.length < n)
    (hleft : text.length < left) (hi : i = (terminated nul strings).length) :
    ∃ m', Lib.print nul i n text m = some (true, m') ∧
      Printed nul (strings ++ [text]) (left - (text.length + 1)) m' := by
  subst hi
  have htake : text.take (n - 1) = text := List.take_of_length_le (Nat.le_sub_one_of_lt hroom)
  have hput : put (terminated nul strings).length (text ++ [nul]) m =
      some (terminated nul strings ++ (text ++ [nul]) ++
        List.replicate (left - (text.length + 1)) nul) := by
    unfold put
    rw [h.length, List.length_append, List.length_singleton, if_pos (by omega), h.block,
      List.take_left, List.drop_append, List.drop_replicate, List.drop_of_length_le (by omega),
      Nat.add_sub_cancel_left, List.nil_append]
  refine ⟨terminated nul strings ++ (text ++ [nul]) ++
    List.replicate (left - (text.length + 1)) nul, ?_, ?_, fun s hs => ?_⟩
  · unfold Lib.print
    rw [if_neg (Nat.ne_of_gt (Nat.lt_of_le_of_lt (Nat.zero_le _) hroom)), htake, hput,
      decide_eq_true hroom]
    rfl
  · rw [terminated_append]
    simp [terminated]
  · rcases List.mem_append.mp hs with hs | hs
    · exact h.clean s hs
    · rw [List.mem_singleton.mp hs]
      exact hclean

/-- The length of the last string. -/
theorem lengthAt [DecidableEq α] (strings : List (List α)) (h : Printed nul (strings ++ [text]) left m)
    (hi : i = (terminated nul strings).length) : Lib.lengthAt nul i m = some text.length := by
  subst hi
  refine lengthAt_of_drop (List.replicate left nul) (h.clean text (by simp)) ?_
  rw [h.block, terminated_append, List.append_assoc, List.drop_left]
  simp [terminated]

/-- **Whoever reads the block gets the strings**, if none of them is empty and one more NUL is
    behind them. -/
theorem readStrings [DecidableEq α] (before : List (List α)) (h : Printed nul (before ++ strings) left m)
    (hstrings : strings ≠ []) (hne : ∀ s ∈ strings, s ≠ []) (hleft : 0 < left)
    (hi : i = (terminated nul before).length) (hn : strings.length ≤ n) :
    Lib.readStrings nul n i m = some strings := by
  induction strings generalizing before i n with
  | nil => exact absurd rfl hstrings
  | cons s rest ih =>
      cases n with
      | zero => exact absurd hn (Nat.not_succ_le_zero _)
      | succ n =>
          have hdrop : m.drop i = s ++ nul :: (terminated nul rest ++ List.replicate left nul) := by
            rw [h.block, hi, terminated_append, List.append_assoc, List.drop_left]
            simp [terminated]
          have hlength := lengthAt_of_drop _ (h.clean s (by simp)) hdrop
          have hnext : m[i + s.length + 1]? =
              (terminated nul rest ++ List.replicate left nul)[0]? := by
            have hget : (m.drop i)[s.length + 1]? = m[i + (s.length + 1)]? := List.getElem?_drop
            rw [Nat.add_assoc, ← hget, hdrop, List.getElem?_append_right (Nat.le_succ _)]
            simp
          have htake : (m.drop i).take s.length = s := by rw [hdrop, List.take_left]
          unfold Lib.readStrings
          rw [hlength]
          cases rest with
          | nil =>
              have hzero : m[i + s.length + 1]? = some nul := by
                rw [hnext]
                simp [terminated, hleft]
              simp [hzero, htake]
          | cons s' rest =>
              obtain ⟨c, cs, rfl⟩ := List.exists_cons_of_ne_nil (hne s' (by simp))
              have hc : c ≠ nul := fun e => h.clean (c :: cs) (by simp) (by simp [e])
              have hsome : m[i + s.length + 1]? = some c := by
                rw [hnext]
                simp [terminated]
              have hplace : i + s.length + 1 = (terminated nul (before ++ [s])).length := by
                rw [length_terminated_snoc, hi, Nat.add_assoc]
              have hrest := ih (before ++ [s]) (by simpa using h) (by simp)
                (fun x hx => hne x (List.mem_cons_of_mem _ hx)) hplace (Nat.le_of_succ_le_succ hn)
              simp [hsome, hc, htake, hrest]

end Printed

end Xencons.Lib
