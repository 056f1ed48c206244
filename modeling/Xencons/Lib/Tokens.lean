import Mathlib.Data.List.Basic

/-!
# Tokens between separators

* `tokens p s` -- the runs of `s` without separators, those of no characters left out;
* `tokens_cons_sep`, `tokens_run`, `tokens_append_sep` -- what it starts with;
* `nextToken p s` -- the first run and what is behind it; `nextToken_eq`: taken one by one, these
  are the tokens.
-/

namespace Xencons.Lib

variable {α : Type*} {p : α → Bool}

/-- The runs between the separators. -/
def tokens (p : α → Bool) (s : List α) : List (List α) := (s.splitOnP p).filter (! ·.isEmpty)

/-- The first run, and what is behind the separator that ends it. -/
def nextToken (p : α → Bool) (s : List α) : Option (List α × List α) :=
  match s.dropWhile p with
  | [] => none
  | c :: s => some (c :: s.takeWhile (! p ·), (s.dropWhile (! p ·)).drop 1)

theorem tokens_cons_sep {c : α} (hc : p c = true) (s : List α) :
    tokens p (c :: s) = tokens p s := by
  rw [tokens, List.splitOnP_cons_eq_if_modifyHead, if_pos hc, List.filter_cons_of_neg (by simp)]
  rfl

/-- A run up to a separator. -/
theorem tokens_append_sep {t : List α} (ht : t ≠ []) (hp : ∀ c ∈ t, p c = false) {c : α}
    (hc : p c = true) (s : List α) : tokens p (t ++ c :: s) = t :: tokens p s := by
  rw [tokens, List.splitOnP_append_cons_of_forall_mem hp c hc,
    List.filter_cons_of_pos (by simpa using ht)]
  rfl

/-- A run up to the end. -/
theorem tokens_run {t : List α} (ht : t ≠ []) (hp : ∀ c ∈ t, p c = false) : tokens p t = [t] := by
  rw [tokens, List.splitOnP_eq_singleton hp, List.filter_cons_of_pos (by simpa using ht)]
  rfl

theorem nextToken_cons_sep {c : α} (hc : p c = true) (s : List α) :
    nextToken p (c :: s) = nextToken p s := by
  rw [nextToken, List.dropWhile_cons_of_pos hc, nextToken]

theorem nextToken_cons {c : α} (hc : p c = false) (s : List α) :
    nextToken p (c :: s) =
      some (c :: s.takeWhile (! p ·), (s.dropWhile (! p ·)).drop 1) := by
  rw [nextToken, List.dropWhile_cons_of_neg (by rw [hc]; exact Bool.false_ne_true)]

/-- The first run of what does not start with a separator. -/
theorem tokens_cons {c : α} (hc : p c = false) (s : List α) :
    tokens p (c :: s) =
      (c :: s.takeWhile (! p ·)) :: tokens p ((s.dropWhile (! p ·)).drop 1) := by
  have hrun : ∀ d ∈ c :: s.takeWhile (! p ·), p d = false := by
    intro d hd
    rcases List.mem_cons.mp hd with rfl | hd
    · exact hc
    · simpa using List.all_eq_true.mp (List.all_takeWhile (p := (! p ·)) (l := s)) d hd
  have hsplit : c :: s = (c :: s.takeWhile (! p ·)) ++ s.dropWhile (! p ·) := by
    rw [List.cons_append, List.takeWhile_append_dropWhile]
  cases hrest : s.dropWhile (! p ·) with
  | nil =>
      rw [hrest, List.append_nil] at hsplit
      rw [hsplit]
      exact tokens_run (by nofun) hrun
  | cons d rest =>
      have hd : p d = true := by
        have hne : s.dropWhile (! p ·) ≠ [] := by rw [hrest]; nofun
        have := List.head_dropWhile_not (! p ·) hne
        simpa [hrest] using this
      rw [hrest] at hsplit
      rw [hsplit]
      exact tokens_append_sep (by nofun) hrun hd rest

/-- There are no more of them than there are characters. -/
theorem length_tokens_le (p : α → Bool) (s : List α) : (tokens p s).length ≤ s.length := by
  induction hn : s.length using Nat.strongRecOn generalizing s with
  | ind n ih =>
      cases s with
      | nil => exact Nat.zero_le _
      | cons c s =>
          rw [List.length_cons] at hn
          cases hc : p c with
          | true =>
              rw [tokens_cons_sep hc]
              exact Nat.le_trans (ih s.length (by omega) s rfl) (by omega)
          | false =>
              have hrest : ((s.dropWhile (! p ·)).drop 1).length ≤ s.length := by
                have := (List.dropWhile_sublist (! p ·) (l := s)).length_le
                rw [List.length_drop]
                omega
              have := ih _ (by omega) ((s.dropWhile (! p ·)).drop 1) rfl
              rw [tokens_cons hc, List.length_cons]
              omega

/-- **Taken one by one, these are the runs.** -/
theorem nextToken_eq (s : List α) :
    nextToken p s = none ∧ tokens p s = [] ∨
      ∃ t rest, nextToken p s = some (t, rest) ∧ tokens p s = t :: tokens p rest := by
  induction s with
  | nil => exact .inl ⟨rfl, rfl⟩
  | cons c s ih =>
      cases hc : p c with
      | true =>
          rw [nextToken_cons_sep hc, tokens_cons_sep hc]
          exact ih
      | false => exact .inr ⟨_, _, nextToken_cons hc s, tokens_cons hc s⟩

end Xencons.Lib
