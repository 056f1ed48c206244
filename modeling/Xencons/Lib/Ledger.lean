import Mathlib.Algebra.BigOperators.Group.List.Basic
import Mathlib.Algebra.Order.Group.Int
import Mathlib.Logic.Function.Basic
import Mathlib.Tactic.Ring

/-!
# A total over accounts

A total is kept while accounts are opened and change, one at a time.

* `total` -- what the accounts of a list hold together;
* `total_update`, `total_snoc` -- one of them changes, or one more is opened;
* `total_const` -- all of them hold the same.
-/

namespace Xencons.Lib

open Function

variable {κ : Type*} {hold : κ → Int} {keys : List κ} {k : κ}

/-- What the accounts hold together. -/
def total (hold : κ → Int) (keys : List κ) : Int := (keys.map hold).sum

@[simp] theorem total_nil (hold : κ → Int) : total hold [] = 0 := rfl

theorem total_cons (hold : κ → Int) (k : κ) (keys : List κ) :
    total hold (k :: keys) = hold k + total hold keys := by
  simp [total]

theorem total_snoc (hold : κ → Int) (keys : List κ) (k : κ) :
    total hold (keys ++ [k]) = total hold keys + hold k := by
  simp [total]

theorem total_const {c : Int} (h : ∀ k ∈ keys, hold k = c) :
    total hold keys = keys.length * c := by
  induction keys with
  | nil => simp
  | cons k keys ih =>
      rw [total_cons, h k List.mem_cons_self, ih fun k' h' => h k' (List.mem_cons_of_mem _ h'),
        List.length_cons]
      push_cast
      ring

variable [DecidableEq κ]

/-- An account that is not among them has changed. -/
theorem total_update_of_not_mem (hk : k ∉ keys) (x : Int) :
    total (update hold k x) keys = total hold keys := by
  have hsame : ∀ k' ∈ keys, update hold k x k' = hold k' := fun k' h' =>
    update_of_ne (fun e : k' = k => hk (e ▸ h')) x hold
  rw [total, List.map_congr_left hsame, total]

/-- **One of them has changed.** -/
theorem total_update (hn : keys.Nodup) (hk : k ∈ keys) (x : Int) :
    total (update hold k x) keys = total hold keys + (x - hold k) := by
  induction keys with
  | nil => exact absurd hk List.not_mem_nil
  | cons k' keys ih =>
      obtain ⟨hnot, hn⟩ := List.nodup_cons.mp hn
      rw [total_cons, total_cons]
      rcases List.mem_cons.mp hk with rfl | hmem
      · rw [update_self, total_update_of_not_mem hnot]
        ring
      · have hne : k' ≠ k := fun e => hnot (e ▸ hmem)
        rw [update_of_ne hne, ih hn hmem]
        ring

end Xencons.Lib
