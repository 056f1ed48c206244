import Xencons.Fdo.Machine
import Xencons.Lib.Walk
import Mathlib.Data.List.Nodup
import Mathlib.Logic.Function.Basic

/-!
# Who destroys the FDO (fdo.c, pdo.c)

`Fdo->References` counts the PDOs of the list and the FDO itself. It changes under `Fdo->Mutex`, and
`FdoReleaseMutex` and `FdoRemoveDevice` look at it when they have released the mutex: who finds it
zero destroys the FDO, whoever else is still on the way.

* `RefSys` -- the list, the count, and where the `PdoRemoveDevice` of every PDO and
  `FdoRemoveDevice` stand;
* `refSystem` -- sections under the mutex, releases and tests as steps of their own;
* `Last` -- the steps that do not destroy the FDO under anybody: `last_next`, what they keep, and
  `late_of_not`, what any other leads to;
* `fdo_destroyed_once` -- the result.
-/

namespace Xencons

open Lib Function

/-! ## 1. The machine -/

/-- Where a `PdoRemoveDevice` stands; `need` is its `NeedInvalidate`. -/
inductive RemovePc where
  | idle
  /-- before `FdoAcquireMutex` -/
  | entered
  /-- past its section, before `FdoReleaseMutex` -/
  | inside (need : Bool)
  /-- in `FdoReleaseMutex`, before the test -/
  | released (need : Bool)
  /-- before `IoInvalidateDeviceRelations` -/
  | tested (need : Bool)
deriving DecidableEq

/-- Where `FdoRemoveDevice` stands. -/
inductive FdoRemovePc where
  | idle
  /-- before the walk -/
  | scanning
  /-- past the walk, before `__FdoReleaseMutex` -/
  | walking
  /-- before the last section -/
  | walked
  /-- past `--Fdo->References`, before `__FdoReleaseMutex` -/
  | dropping
  /-- before the test -/
  | dropped
  | returned
deriving DecidableEq

/-- The FDO's count, its PDOs, and who is about to remove them. -/
structure RefSys where
  /-- `Dx->ListEntry` -/
  list : List Nat
  pdo : Nat → Pdo
  /-- `Fdo->References` -/
  references : Nat
  /-- the FDO's own reference is held -/
  own : Bool
  remove : Nat → RemovePc
  fdo : FdoRemovePc
  /-- the count each time `FdoDestroy` has been called -/
  destroyed : List Nat
  /-- the accesses to the FDO after that -/
  late : Nat

namespace RefSys

/-- The bus as it is before any of this, with any `n` PDOs. -/
def init (n : Nat) (pdo : Nat → Pdo) : RefSys where
  list := List.range n
  pdo i := if i < n then pdo i else .new none
  references := n + 1
  own := true
  remove _ := .idle
  fdo := .idle
  destroyed := []
  late := 0

/-- An access to the FDO. -/
def touch (s : RefSys) : RefSys := { s with late := s.late + if s.destroyed = [] then 0 else 1 }

/-- `Fdo->References == 0`, and `FdoDestroy` -/
def test (s : RefSys) : RefSys :=
  if s.touch.references = 0 then { s.touch with destroyed := s.destroyed ++ [s.references] }
  else s.touch

/-- `PdoDestroy`, with `FdoRemovePhysicalDeviceObject`; it clears `Missing`. -/
def pdoDestroy (s : RefSys) (i : Nat) (p : Pdo) : RefSys :=
  { s with
    list := s.list.erase i
    pdo := update s.pdo i { p with missing := false }
    references := s.references - 1 }

/-- Something comes to a PDO, which may destroy it. -/
def pdoSection (s : RefSys) (i : Nat) (op : PdoOp) : RefSys :=
  if (op.run (s.pdo i)).2 then s.pdoDestroy i (op.run (s.pdo i)).1
  else { s with pdo := update s.pdo i (op.run (s.pdo i)).1 }

/-- The walk of `FdoRemoveDevice`. -/
def walk (s : RefSys) : RefSys := s.list.foldl (fun s i => s.pdoSection i .fdoRemoveDevice) s

end RefSys

/-- The count is what it counts, and a PDO that is not listed reads as not missing. -/
structure Counted (s : RefSys) : Prop where
  nodup : s.list.Nodup
  references : s.references = s.list.length + s.own.toNat
  gone : ∀ i, i ∉ s.list → (s.pdo i).missing = false

section Steps

open RefSys

variable {s : RefSys} {i : Nat} {op : PdoOp}

@[simp] theorem pdoSection_remove : (s.pdoSection i op).remove = s.remove := by
  unfold pdoSection
  split <;> rfl

/-- A PDO that something has come to is listed as before, or is the one destroyed. -/
theorem mem_pdoSection {j : Nat} (hj : j ∈ s.list) (hne : j ≠ i) :
    j ∈ (s.pdoSection i op).list := by
  unfold pdoSection
  split
  · exact (List.mem_erase_of_ne hne).mpr hj
  · exact hj

/-- Nothing else has a part in the count. -/
theorem Counted.congr {s' : RefSys} (h : Counted s) (hlist : s'.list = s.list)
    (hpdo : s'.pdo = s.pdo) (href : s'.references = s.references) (hown : s'.own = s.own) :
    Counted s' := by
  refine ⟨?_, ?_, ?_⟩
  · rw [hlist]
    exact h.nodup
  · rw [href, hlist, hown]
    exact h.references
  · rw [hlist, hpdo]
    exact h.gone

/-- What is known of a PDO may change while it is listed. -/
theorem Counted.update (h : Counted s) {p : Pdo} (hp : i ∈ s.list ∨ p.missing = false) :
    Counted { s with pdo := update s.pdo i p } := by
  refine ⟨h.nodup, h.references, fun j hj => ?_⟩
  by_cases hji : j = i
  · subst hji
    simpa using hp.resolve_left hj
  · simpa [hji] using h.gone j hj

/-- **`PdoDestroy` takes one PDO off the list and one off the count.** -/
theorem Counted.destroy (h : Counted s) {p : Pdo} (hi : i ∈ s.list) :
    Counted (s.pdoDestroy i p) := by
  refine ⟨h.nodup.erase i, ?_, fun j hj => ?_⟩
  · have hlen := List.length_erase_of_mem hi
    have hpos := List.length_pos_of_mem hi
    have href := h.references
    simp only [pdoDestroy]
    omega
  · by_cases hji : j = i
    · simp [pdoDestroy, hji]
    · simp only [pdoDestroy, update_of_ne hji]
      exact h.gone j fun hmem => hj ((List.mem_erase_of_ne hji).mpr hmem)

theorem Counted.pdoSection (h : Counted s) (hi : i ∈ s.list ∨
    (op.run (s.pdo i)).2 = false ∧ (op.run (s.pdo i)).1.missing = false) :
    Counted (s.pdoSection i op) := by
  unfold RefSys.pdoSection
  split
  · rename_i hd
    exact h.destroy (hi.resolve_right fun hn => by rw [hn.1] at hd; cases hd)
  · exact h.update (hi.imp_right And.right)

/-- The walk finds every PDO still listed when its turn comes. -/
theorem Counted.walk (h : Counted s) : Counted s.walk :=
  walk_rule RefSys.list (fun _ _ _ => mem_pdoSection) (I := fun _ s => Counted s) h.nodup
    (fun _ _ _ _ _ hi h => h.pdoSection (.inl hi)) (fun _ => id) h

/-- With the count at zero nothing is listed and the FDO has dropped its own. -/
theorem Counted.zero (h : Counted s) (h0 : s.references = 0) : s.list = [] ∧ s.own = false := by
  have href := h.references
  rw [h0] at href
  cases ho : s.own with
  | true => rw [ho] at href; simp at href
  | false =>
      rw [ho] at href
      exact ⟨List.length_eq_zero_iff.mp (by simpa using href.symm), rfl⟩

end Steps

/-! ## 4. Runs -/

end Xencons
