import Mathlib.Data.List.Basic
import Mathlib.Data.List.Nodup

/-!
# Walks over a list that lose what they visit

A loop that has the next entry in hand before it visits one may unlink the entry it visits, and no
other. So every entry is still linked when its turn comes.

* `not_mem_done`, `done_eq` -- what is visited has not been visited before;
* `walk_rule` -- what each visit keeps, of what has been visited so far, holds behind the walk;
* `chase` -- the loop itself, from entry to entry: `chase_eq_foldl`, it visits each of them once;
* `linkedStill` -- the entries still linked, where it is known which of them are unlinked.
-/

namespace Xencons.Lib

variable {σ α : Type*}

theorem not_mem_done {l done rest : List α} {i : α} (hl : l.Nodup) (h : l = done ++ i :: rest) :
    i ∉ done := by
  rw [h] at hl
  exact fun hi => (List.nodup_append.mp hl).2.2 i hi i List.mem_cons_self rfl

/-- An entry is visited once. -/
theorem done_eq {l done rest done' rest' : List α} {i : α} (hl : l.Nodup)
    (h : l = done ++ i :: rest) (h' : l = done' ++ i :: rest') : done = done' := by
  have hrest : i ∉ rest := by
    rw [h] at hl
    exact (List.nodup_cons.mp (List.nodup_append.mp hl).2.1).1
  exact ((List.append_cons_inj_of_notMem (not_mem_done hl h) hrest).mp (h.symm.trans h')).1

/-- **The rule for walks**: `I done s` says what holds when `done` has been visited. -/
theorem walk_rule (list : σ → List α) {visit : σ → α → σ}
    (hlist : ∀ s i j, j ∈ list s → j ≠ i → j ∈ list (visit s i)) {I : List α → σ → Prop}
    {l : List α} (hl : l.Nodup)
    (hI : ∀ done i rest s, l = done ++ i :: rest → i ∈ list s → I done s →
      I (done ++ [i]) (visit s i))
    {s : σ} (hsub : ∀ i ∈ l, i ∈ list s) (h0 : I [] s) : I l (l.foldl visit s) := by
  suffices h : ∀ (rest done : List α) (s : σ), l = done ++ rest → (∀ i ∈ rest, i ∈ list s) →
      I done s → I l (rest.foldl visit s) from h l [] s rfl hsub h0
  intro rest
  induction rest with
  | nil =>
      intro done s hd _ h
      rw [hd, List.append_nil]
      exact h
  | cons i rest ih =>
      intro done s hd hsub h
      refine ih (done ++ [i]) _ (by rw [hd, List.append_cons]) (fun j hj => ?_)
        (hI done i rest s hd (hsub i List.mem_cons_self) h)
      refine hlist s i j (hsub j (List.mem_cons_of_mem _ hj)) ?_
      rintro rfl
      rw [hd] at hl
      exact (List.nodup_cons.mp (List.nodup_append.mp hl).2.1).1 hj

/-! ## The loop -/

section Chase

variable [DecidableEq α]

/-- The entry behind one, as the list is now. -/
def nextIn (l : List α) (i : α) : Option α := l[l.idxOf i + 1]?

/-- From an entry on, with the next one in hand before each is visited. -/
def chase (list : σ → List α) (visit : σ → α → σ) : Nat → Option α → σ → σ
  | fuel + 1, some i, s => chase list visit fuel (nextIn (list s) i) (visit s i)
  | _, _, s => s

theorem nextIn_append {kept rest : List α} {i : α} (h : i ∉ kept) :
    nextIn (kept ++ i :: rest) i = rest.head? := by
  have hat : (kept ++ i :: rest).idxOf i = kept.length := by
    rw [List.idxOf_append_of_notMem h, List.idxOf_cons_self]
    rfl
  have hle : kept.length ≤ kept.length + 1 := by omega
  rw [nextIn, hat, List.getElem?_append_right hle, Nat.add_sub_cancel_left,
    List.getElem?_cons_succ, List.head?_eq_getElem?]

/-- **It visits each entry once, and ends**: more fuel than there are entries makes no
    difference. -/
theorem chase_eq_foldl (list : σ → List α) {visit : σ → α → σ}
    (hvisit : ∀ s i, list (visit s i) = list s ∨ list (visit s i) = (list s).erase i) (s : σ)
    (hl : (list s).Nodup) {fuel : Nat} (hfuel : (list s).length ≤ fuel) :
    chase list visit fuel (list s).head? s = (list s).foldl visit s := by
  suffices h : ∀ (rest kept : List α) (fuel : Nat) (s : σ), list s = kept ++ rest →
      (list s).Nodup → rest.length ≤ fuel →
      chase list visit fuel rest.head? s = rest.foldl visit s from h (list s) [] fuel s rfl hl hfuel
  intro rest
  induction rest with
  | nil => exact fun _ fuel _ _ _ _ => by cases fuel <;> rfl
  | cons i rest ih =>
      intro kept fuel s hs hnd hfuel
      obtain ⟨fuel, rfl⟩ : ∃ k, fuel = k + 1 :=
        ⟨fuel - 1, (Nat.sub_add_cancel (Nat.le_trans (Nat.le_add_left 1 _) hfuel)).symm⟩
      have hi : i ∉ kept := not_mem_done hnd hs
      show chase list visit fuel (nextIn (list s) i) (visit s i) = rest.foldl visit (visit s i)
      rw [hs, nextIn_append hi]
      rcases hvisit s i with e | e
      · refine ih (kept ++ [i]) fuel _ ?_ (e ▸ hnd) (Nat.le_of_succ_le_succ hfuel)
        rw [e, hs, List.append_cons]
      · refine ih kept fuel _ ?_ (e ▸ hnd.erase i) (Nat.le_of_succ_le_succ hfuel)
        rw [e, hs, List.erase_append_right _ hi, List.erase_cons_head]

end Chase

/-! ## What is left of the list -/

section Left

variable [DecidableEq α] {l done : List α} {gone : α → Prop} [DecidablePred gone] {i : α}

/-- The entries still linked when `done` has been visited, of which those that are `gone` were
    unlinked. -/
def linkedStill (l done : List α) (gone : α → Prop) [DecidablePred gone] : List α :=
  l.filter fun j => !decide (j ∈ done ∧ gone j)

theorem mem_linkedStill {j : α} : j ∈ linkedStill l done gone ↔ j ∈ l ∧ ¬(j ∈ done ∧ gone j) := by
  rw [linkedStill, List.mem_filter, Bool.not_eq_true', decide_eq_false_iff_not]

theorem linkedStill_keep (hi : ¬gone i) :
    linkedStill l (done ++ [i]) gone = linkedStill l done gone := by
  refine List.filter_congr fun j _ => ?_
  have hiff : j ∈ done ++ [i] ∧ gone j ↔ j ∈ done ∧ gone j := by
    refine and_congr_left fun hj => ?_
    rw [List.mem_append, List.mem_singleton]
    exact or_iff_left fun e => hi (e ▸ hj)
  simp only [hiff]

theorem linkedStill_erase (hl : l.Nodup) (hi : gone i) :
    linkedStill l (done ++ [i]) gone = (linkedStill l done gone).erase i := by
  unfold linkedStill
  rw [(hl.filter _).erase_eq_filter, List.filter_filter]
  refine List.filter_congr fun j _ => ?_
  by_cases hj : j = i
  · subst hj
    simp [hi]
  · simp [hj]

end Left

end Xencons.Lib
