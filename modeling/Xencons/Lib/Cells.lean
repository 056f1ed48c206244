import Mathlib.Data.List.Basic
import Mathlib.Logic.Function.Basic
import Mathlib.Tactic.TypeStar

/-!
# Cells that others write as well

What one party reads in a memory says something only together with what everybody does to the
memory. A history has that in its order: what the party has written and seen, and what the others
have changed in between, which may be anything.

* `Moment` -- one thing done or seen, `behind` -- what a history leaves;
* `Faithful` -- a history in which whatever has been seen was there: `faithful_append`;
* `Moment.Leaves` -- a moment that does not change a cell: `behind_leaves`;
* **`Faithful.seen`** -- what has been written is seen, as long as nothing has changed the cell since.
-/

namespace Xencons.Lib

/-- A memory: some of its cells have a content. -/
abbrev Cells (κ ν : Type*) := κ → Option ν

/-- One thing done to a memory, or seen in it. -/
inductive Moment (κ ν : Type*) where
  /-- the others change what they like -/
  | others (change : Cells κ ν → Cells κ ν)
  /-- a cell gets a content, or loses the one it had -/
  | wrote (k : κ) (v : Option ν)
  | saw (k : κ) (v : Option ν)

namespace Moment

variable {κ ν : Type*} [DecidableEq κ]

def next : Moment κ ν → Cells κ ν → Cells κ ν
  | .others change, c => change c
  | .wrote k v, c => Function.update c k v
  | .saw _ _, c => c

/-- What is seen is there. -/
def Holds : Moment κ ν → Cells κ ν → Prop
  | .saw k v, c => c k = v
  | .others _, _ | .wrote _ _, _ => True

/-- The cell has the same content behind it, whatever the memory has. -/
def Leaves (k : κ) (m : Moment κ ν) : Prop := ∀ c, m.next c k = c k

theorem leaves_saw (k k' : κ) (v : Option ν) : (Moment.saw k' v).Leaves k := fun _ => rfl

theorem leaves_wrote {k k' : κ} (h : k ≠ k') (v : Option ν) : (Moment.wrote k' v).Leaves k :=
  fun _ => Function.update_of_ne h _ _

end Moment

section Histories

variable {κ ν : Type*} [DecidableEq κ] {c : Cells κ ν} {k : κ} {v v' : Option ν}
  {m : Moment κ ν} {history before between rest : List (Moment κ ν)}

/-- What a history leaves. -/
def behind (history : List (Moment κ ν)) (c : Cells κ ν) : Cells κ ν :=
  history.foldl (fun c m => m.next c) c

/-- **Whatever has been seen was there.** -/
def Faithful : List (Moment κ ν) → Cells κ ν → Prop
  | [], _ => True
  | m :: rest, c => m.Holds c ∧ Faithful rest (m.next c)

@[simp] theorem behind_append (before rest : List (Moment κ ν)) (c : Cells κ ν) :
    behind (before ++ rest) c = behind rest (behind before c) := List.foldl_append

theorem faithful_append : Faithful (before ++ rest) c ↔
    Faithful before c ∧ Faithful rest (behind before c) := by
  induction before generalizing c with
  | nil => exact ⟨fun h => ⟨trivial, h⟩, fun h => h.2⟩
  | cons m before ih =>
      show m.Holds c ∧ Faithful (before ++ rest) (m.next c) ↔ _
      rw [ih, ← and_assoc]
      exact Iff.rfl

/-- A moment more. -/
theorem Faithful.snoc (h : Faithful history c) (hm : m.Holds (behind history c)) :
    Faithful (history ++ [m]) c := faithful_append.mpr ⟨h, hm, trivial⟩

/-- What nobody changes stays. -/
theorem behind_leaves (h : ∀ m ∈ history, m.Leaves k) : behind history c k = c k := by
  induction history generalizing c with
  | nil => rfl
  | cons m history ih =>
      have hrest : behind history (m.next c) k = m.next c k :=
        ih fun m' hm' => h m' (List.mem_cons_of_mem _ hm')
      exact hrest.trans (h m List.mem_cons_self c)

/-- **What has been written is seen**, as long as nothing has changed the cell since. -/
theorem Faithful.seen (h : Faithful (before ++ .wrote k v :: (between ++ .saw k v' :: rest)) c)
    (hbetween : ∀ m ∈ between, m.Leaves k) : v' = v := by
  have hwrote := (faithful_append.mp h).2
  have hsaw : behind between ((Moment.wrote k v).next (behind before c)) k = v' :=
    (faithful_append.mp hwrote.2).2.1
  rw [behind_leaves hbetween] at hsaw
  have hcell : Function.update (behind before c) k v k = v := Function.update_self ..
  exact hsaw.symm.trans hcell

end Histories

end Xencons.Lib
