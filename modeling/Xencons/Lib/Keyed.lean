import Mathlib.Data.List.Basic
import Mathlib.Data.List.Pairwise

/-!
# Logs that are sorted by a key

A log whose entries carry increasing keys can be read key by key: `flatMap_filter_key` says that
collecting, for each key of a sorted list that has them all, the entries with that key gives the log
back, and `pairwise_key_append` lets a log grow.
-/

namespace Xencons.Lib

variable {α β γ : Type*}

/-- A sorted log may be extended by an entry behind all others. -/
theorem pairwise_key_append {key : α → Nat} {l : List α} {x : α}
    (h : (l.map key).Pairwise (· < ·)) (hx : ∀ y ∈ l, key y < key x) :
    ((l ++ [x]).map key).Pairwise (· < ·) := by
  rw [List.map_append, List.pairwise_append]
  refine ⟨h, List.pairwise_singleton _ _, fun k hk k' hk' => ?_⟩
  obtain ⟨y, hy, rfl⟩ := List.mem_map.mp hk
  obtain rfl : k' = key x := by simpa using hk'
  exact hx y hy

/-- **Read key by key, a sorted log is itself.** -/
theorem flatMap_filter_key {key : α → Nat} {name : β → Nat} {f : α → List γ} {keys : List β}
    (hk : (keys.map name).Pairwise (· < ·)) {l : List α} (hl : (l.map key).Pairwise (· < ·))
    (hsub : ∀ x ∈ l, ∃ k ∈ keys, name k = key x) :
    keys.flatMap (fun k => (l.filter fun x => key x = name k).flatMap f) = l.flatMap f := by
  induction keys generalizing l with
  | nil =>
      cases l with
      | nil => rfl
      | cons x l =>
          obtain ⟨k, hmem, -⟩ := hsub x List.mem_cons_self
          exact absurd hmem List.not_mem_nil
  | cons k keys ih =>
      rw [List.map_cons, List.pairwise_cons] at hk
      have hlater : ∀ k' ∈ keys, name k < name k' := fun k' hk' => hk.1 _ (List.mem_map_of_mem hk')
      -- an entry that is not under the first key is under a later one
      have hrest : ∀ x ∈ l, key x ≠ name k → name k < key x ∧ ∃ k' ∈ keys, name k' = key x := by
        intro x hx hne
        obtain ⟨k', hk', he⟩ := hsub x hx
        rcases List.mem_cons.mp hk' with rfl | hk'
        · exact absurd he.symm hne
        · exact ⟨he ▸ hlater k' hk', k', hk', he⟩
      cases l with
      | nil => simp
      | cons x l =>
          rw [List.map_cons, List.pairwise_cons] at hl
          have hbehind : ∀ y ∈ l, key x < key y := fun y hy => hl.1 _ (List.mem_map_of_mem hy)
          by_cases hx : key x = name k
          · -- the first entry is the only one under the first key
            have hnone : l.filter (fun y => key y = name k) = [] := by
              refine List.filter_eq_nil_iff.mpr fun y hy => ?_
              have := hbehind y hy
              simp only [decide_eq_true_eq]
              omega
            have hskip : ∀ k' ∈ keys, (x :: l).filter (fun y => key y = name k') =
                l.filter fun y => key y = name k' := by
              intro k' hk'
              have := hlater k' hk'
              rw [List.filter_cons_of_neg]
              simp only [decide_eq_true_eq]
              omega
            have htail : keys.flatMap (fun k' => ((x :: l).filter fun y => key y = name k').flatMap f)
                = l.flatMap f := by
              rw [← ih hk.2 hl.2 fun y hy => (hrest y (List.mem_cons_of_mem _ hy)
                (by have := hbehind y hy; omega)).2]
              exact List.flatMap_congr fun k' hk' => by rw [hskip k' hk']
            rw [List.flatMap_cons, htail, List.filter_cons_of_pos (by simpa using hx), hnone]
            simp
          · have hnone : (x :: l).filter (fun y => key y = name k) = [] := by
              refine List.filter_eq_nil_iff.mpr fun y hy => ?_
              have hlt := (hrest x List.mem_cons_self hx).1
              have hge : key x ≤ key y := by
                rcases List.mem_cons.mp hy with rfl | hy
                · exact Nat.le_refl _
                · exact Nat.le_of_lt (hbehind y hy)
              simp only [decide_eq_true_eq]
              omega
            rw [List.flatMap_cons, hnone, List.flatMap_nil, List.nil_append]
            refine ih hk.2 (List.pairwise_cons.mpr hl) fun y hy => ?_
            refine (hrest y hy fun he => ?_).2
            have hmem : y ∈ (x :: l).filter fun y => key y = name k := by simp [hy, he]
            rw [hnone] at hmem
            exact absurd hmem List.not_mem_nil

end Xencons.Lib
