import Mathlib.Data.List.Basic
import Mathlib.Data.List.Nodup

/-!
# Objects taken and given back

What a program takes is numbered: no two things taken have one number, and what has been given back
is not there to be given back again. So a program that leaves what is live as it was, and has given
back nothing that was not live, has given back everything it took, and each of it once.

* `Pointer` -- what a program holds of a thing, `Heap` -- what is live, of several kinds;
* `Heap.take`, `Heap.allocate`, `Heap.give` -- the operations, which keep the numbers apart;
* `Heap.Has` -- so much more is live than was, and nothing else has been done: `Has.take`,
  `Has.give`; `Same` -- nothing more;
* `Has.mem_live` -- what is live can be given back; `mem_give` -- things of another kind stay;
* `Heap.find` -- what a number is that is live: `find_of_mem`.
-/

namespace Xencons.Lib

/-- A pointer: to nothing, to a thing that has been taken, or to a variable of the program. -/
inductive Pointer where
  | null
  | object (n : Nat)
  | variable
deriving DecidableEq

/-- What has been taken and not given back, the newest first, and what was given back although it
    was not there. -/
structure Heap (κ : Type) where
  next : Nat
  live : List (κ × Nat)
  astray : List (κ × Pointer)
  numbered : ∀ x ∈ live, x.2 < next
  nodup : (live.map Prod.snd).Nodup

namespace Heap

variable {κ : Type}

/-- Nothing has been taken. -/
def empty : Heap κ := ⟨0, [], [], nofun, .nil⟩

/-- One more thing, under a number of its own. -/
def take (k : κ) (h : Heap κ) : Heap κ where
  next := h.next + 1
  live := (k, h.next) :: h.live
  astray := h.astray
  numbered x hx := by
    rcases List.mem_cons.mp hx with rfl | hx
    · exact Nat.lt_succ_self _
    · exact Nat.lt_succ_of_lt (h.numbered x hx)
  nodup := by
    refine List.nodup_cons.mpr ⟨fun hm => ?_, h.nodup⟩
    obtain ⟨x, hx, e⟩ := List.mem_map.mp hm
    exact absurd e (Nat.ne_of_lt (h.numbered x hx))

/-- An allocation: a thing, or none. -/
def allocate (k : κ) (granted : Bool) (h : Heap κ) : Pointer × Heap κ :=
  if granted then (.object h.next, h.take k) else (.null, h)

/-- `h'` has so much more live than `h`, and nothing has gone astray. -/
structure Has (h : Heap κ) (kept : List (κ × Nat)) (h' : Heap κ) : Prop where
  live : h'.live = kept ++ h.live
  astray : h'.astray = h.astray

/-- Everything taken has been given back. -/
abbrev Same (h h' : Heap κ) : Prop := h.Has [] h'

variable {h h' h'' : Heap κ} {k : κ} {n : Nat} {kept kept' : List (κ × Nat)}

theorem Has.refl (h : Heap κ) : h.Has [] h := ⟨rfl, rfl⟩

theorem Has.trans (hk : h.Has kept h') (hk' : h'.Has kept' h'') : h.Has (kept' ++ kept) h'' :=
  ⟨by rw [hk'.live, hk.live, List.append_assoc], hk'.astray.trans hk.astray⟩

/-- One thing more. -/
theorem Has.take (hk : h.Has kept h') (k : κ) : h.Has ((k, h'.next) :: kept) (h'.take k) :=
  ⟨congrArg ((k, h'.next) :: ·) hk.live, hk.astray⟩

theorem Has.mem_live (hk : h.Has kept h') (hm : (k, n) ∈ kept) : (k, n) ∈ h'.live := by
  rw [hk.live]
  exact List.mem_append_left _ hm

/-- What is new was not there. -/
theorem Has.notMem_live (hk : h.Has kept h') (hm : (k, n) ∈ kept) : (k, n) ∉ h.live := by
  have hnodup : (kept ++ h.live).Nodup := hk.live ▸ List.Nodup.of_map _ h'.nodup
  exact fun hlive => (List.disjoint_of_nodup_append hnodup) hm hlive

/-- What is live under a number. -/
def find (n : Nat) (h : Heap κ) : Option κ :=
  (h.live.find? fun x => x.2 == n).map Prod.fst

/-- There is one thing under a number. -/
theorem find_of_mem (hm : (k, n) ∈ h.live) : h.find n = some k := by
  have hnodup := h.nodup
  unfold find
  generalize h.live = live at hm hnodup
  induction live with
  | nil => cases hm
  | cons x live ih =>
    simp only [List.map_cons, List.nodup_cons] at hnodup
    by_cases hx : x.2 = n
    · rcases List.mem_cons.mp hm with rfl | hm
      · simp
      · exact absurd (List.mem_map.mpr ⟨_, hm, hx.symm⟩) hnodup.1
    · have hne : (x.2 == n) = false := by simpa using hx
      rw [List.find?_cons, hne]
      rcases List.mem_cons.mp hm with rfl | hm
      · exact absurd rfl hx
      · exact ih hm hnodup.2

variable [DecidableEq κ]

/-- A thing that is live is no more; nothing else can be given back. -/
def give (k : κ) (p : Pointer) (h : Heap κ) : Heap κ :=
  match p with
  | .object n =>
    if (k, n) ∈ h.live then
      { h with
        live := h.live.erase (k, n)
        numbered := fun x hx => h.numbered x (List.mem_of_mem_erase hx)
        nodup := h.nodup.sublist (List.erase_sublist.map _) }
    else { h with astray := (k, p) :: h.astray }
  | p => { h with astray := (k, p) :: h.astray }

/-- What is live goes, and nothing else. -/
theorem give_of_mem (hm : (k, n) ∈ h.live) :
    (h.give k (.object n)).live = h.live.erase (k, n) ∧
      (h.give k (.object n)).astray = h.astray := by
  rw [give, if_pos hm]
  exact ⟨rfl, rfl⟩

/-- What is given back is of one kind; things of other kinds stay. -/
theorem mem_give {k' : κ} (p : Pointer) (hne : k' ≠ k) (hm : (k', n) ∈ h.live) :
    (k', n) ∈ (h.give k p).live := by
  unfold give
  split
  · split
    · exact (List.mem_erase_of_ne fun e => hne (congrArg Prod.fst e)).mpr hm
    · exact hm
  · exact hm

/-- What has gone astray stays so. -/
theorem astray_le_give (h : Heap κ) (k : κ) (p : Pointer) :
    h.astray.length ≤ (h.give k p).astray.length := by
  unfold give
  split
  · split
    · exact Nat.le_refl _
    · exact Nat.le_succ _
  · exact Nat.le_succ _

/-- **One thing less.** -/
theorem Has.give (hk : h.Has kept h') (hm : (k, n) ∈ kept) :
    h.Has (kept.erase (k, n)) (h'.give k (.object n)) := by
  rw [Heap.give, if_pos (hk.mem_live hm)]
  refine ⟨?_, hk.astray⟩
  show h'.live.erase (k, n) = _
  rw [hk.live, List.erase_append_left _ hm]

/-- A thing goes from behind others. -/
theorem Has.giveBehind {front : List (κ × Nat)} (hk : h.Has (front ++ (k, n) :: kept) h')
    (hf : (k, n) ∉ front) : h.Has (front ++ kept) (h'.give k (.object n)) := by
  have hgive := hk.give (k := k) (n := n) (by simp)
  rwa [List.erase_append_right _ hf, List.erase_cons_head] at hgive

/-- The newest thing goes first. -/
theorem Has.giveHead (hk : h.Has ((k, n) :: kept) h') : h.Has kept (h'.give k (.object n)) := by
  have hgive := hk.give List.mem_cons_self
  rwa [List.erase_cons_head] at hgive

end Heap

end Xencons.Lib
