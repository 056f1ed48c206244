import Xencons.Fdo.Machine
import Xencons.Frontend.Abi

/-!
# Console references follow the power state of the bus

A PDO of a bus in D0 holds one `Acquire` of its console ABI, a PDO of a bus in D3 none. `FdoD3ToD0`
and `FdoD0ToD3` move all PDOs at once; who adds or removes one moves that one, by the power state it
finds. The two fit together while nothing comes between the parts of a transition, and while the
walk of `FdoD0ToD3` passes over nobody.

* `FdoSys.outstanding` -- what each PDO holds; `FdoSys.Follows` -- that it does, in every state
  between and inside the transitions;
* `InStep` -- the steps that keep it;
* `references_follow_power` -- every run of such steps;
* `Counts` -- what is counted here is `References` of the frontend behind the PDO.
-/

namespace Xencons

open Lib FdoSys

/-! ## 1. What is held, and by which steps -/

/-- What a PDO of the list holds: one reference in D0, but where the walk of the transition is still
    to come, or over. -/
def FdoSys.outstanding (s : FdoSys) : Int :=
  if s.power = .idle ∧ s.devicePowerState = .d0 then 1 else 0

/-- The invariant: a transition is under way in D0 only, everybody in the list holds the same, and
    whoever has been destroyed held nothing. -/
structure FdoSys.Follows (s : FdoSys) : Prop where
  power : s.power ≠ .idle → s.devicePowerState = .d0
  pdos : ∀ p ∈ s.pdos, p.abiRefs = s.outstanding
  destroyed : ∀ r ∈ s.destroyed, r = 0

/-- Between two power transitions a PDO holds what the power state says, and no `PdoDestroy` has
    reached a console with a reference outstanding. -/
def FdoSys.Balanced (s : FdoSys) : Prop :=
  (s.power = .idle → ∀ p ∈ s.pdos, p.abiRefs = if s.devicePowerState = .d0 then 1 else 0) ∧
    ∀ r ∈ s.destroyed, r = 0

/-- A step taken between two transitions, where it adds a PDO or removes one; a walk of `FdoD0ToD3`
    that passes over nobody; a walk of `FdoD3ToD0` that acquires everywhere. -/
def InStep (s : FdoSys) : FdoLabel → Prop
  | .create _ _ => s.power = .idle
  | .created => ∀ p, s.pdos[s.pdos.length - 1]? = some p → p.ejectRequested → s.power = .idle
  | .pdo i op => ∀ p, s.pdos[i]? = some p → (op.run p).2 → s.power = .idle
  | .suspendAll => ∀ p ∈ s.pdos, p.missing = false ∧ p.devicePnpState ≠ .deleted
  | .resumeAll granted => ∀ i p, s.pdos[i]? = some p → p.isDefault || granted i
  | .wake _ | .sleep | .acquireMutex | .releaseMutex => True

/-! ## 2. The steps -/

section Steps

variable {s : FdoSys} {l : FdoLabel} {p : Pdo} {i : Nat} {op : PdoOp} {granted : Bool}

/-- Nothing that comes to a PDO counts references. -/
theorem run_abiRefs (op : PdoOp) (p : Pdo) : (op.run p).1.abiRefs = p.abiRefs := by
  cases op <;> simp only [PdoOp.run, Pdo.setDevicePnpState, Pdo.restoreDevicePnpState] <;>
    split_ifs <;>
    rfl

theorem pdoResume_granted (h : p.isDefault || granted) :
    pdoResume p granted = (.success, { p with abiRefs := p.abiRefs + 1 }) := if_pos h

namespace FdoSys

/-- A step that is none of a transition's keeps what it is to keep. -/
theorem Follows.same {s' : FdoSys} (h : s.Follows) (hd : s'.devicePowerState = s.devicePowerState)
    (hw : s'.power = s.power) (hp : ∀ p ∈ s'.pdos, p.abiRefs = s.outstanding)
    (hr : ∀ r ∈ s'.destroyed, r = 0) : s'.Follows where
  power := by
    rw [hd, hw]
    exact h.power
  pdos := by simpa only [outstanding, hd, hw] using hp
  destroyed := hr

/-- Between two transitions a PDO leaves with nothing outstanding. -/
theorem Follows.destroy (h : s.Follows) (hidle : s.power = .idle) (hp : p.abiRefs = s.outstanding) :
    (s.destroy i p).Follows := by
  refine h.same rfl rfl (fun q hq => h.pdos q (List.mem_of_mem_eraseIdx hq)) fun r hr => ?_
  simp only [FdoSys.destroy, removePhysicalDeviceObject, List.mem_append, List.mem_singleton] at hr
  rcases hr with hr | rfl
  · exact h.destroyed r hr
  · cases hstate : s.devicePowerState with
    | d3 => simp [hp, outstanding, hstate]
    | d0 => simp [hp, pdoSuspend, outstanding, hstate, hidle]

/-- One that joins holds what is to be held. -/
theorem Follows.append (h : s.Follows) (hp : p.abiRefs = s.outstanding) :
    ({ s with
      pdos := s.pdos ++ [p], references := s.references + 1, mutex := .creating }).Follows := by
  refine h.same rfl rfl (fun q hq => ?_) h.destroyed
  rcases List.mem_append.mp hq with hq | hq
  · exact h.pdos q hq
  · rw [List.mem_singleton.mp hq]
    exact hp

/-- `PdoCreate` acquires by the power state it finds, which is the right one between two
    transitions. -/
theorem Follows.pdoCreate (h : s.Follows) (hidle : s.power = .idle) (name : String)
    (granted : Bool) :
    (s.pdoCreate name granted).Follows := by
  have fresh : (Pdo.new (some name)).isDefault = false := rfl
  cases hstate : s.devicePowerState with
  | d3 =>
    have hout : s.outstanding = 0 := by simp [outstanding, hstate]
    have hcreate : s.pdoCreate name granted = { s with
        pdos := s.pdos ++ [.new (some name)], references := s.references + 1,
        mutex := .creating } := by
      simp [FdoSys.pdoCreate, addPhysicalDeviceObject, hstate, NtStatus.ntSuccess]
    rw [hcreate]
    exact h.append hout.symm
  | d0 =>
    have hout : s.outstanding = 1 := by simp [outstanding, hstate, hidle]
    cases granted with
    | false =>
      have hcreate : s.pdoCreate name false = { s with destroyed := s.destroyed ++ [0] } := by
        simp [FdoSys.pdoCreate, addPhysicalDeviceObject, pdoResume, hstate, fresh,
          NtStatus.ntSuccess]
      rw [hcreate]
      refine h.same rfl rfl h.pdos fun r hr => ?_
      rcases List.mem_append.mp hr with hr | hr
      · exact h.destroyed r hr
      · exact List.mem_singleton.mp hr
    | true =>
      have hcreate : s.pdoCreate name true = { s with
          pdos := s.pdos ++ [{ Pdo.new (some name) with abiRefs := 1 }]
          references := s.references + 1
          mutex := .creating } := by
        simp [FdoSys.pdoCreate, addPhysicalDeviceObject, pdoResume, hstate, NtStatus.ntSuccess,
          Pdo.new]
      rw [hcreate]
      exact h.append hout.symm

theorem Follows.pdoCreated (h : s.Follows)
    (hidle : ∀ p, s.pdos[s.pdos.length - 1]? = some p → p.ejectRequested → s.power = .idle) :
    s.pdoCreated.Follows := by
  have hheld : ({ s with mutex := .held } : FdoSys).Follows := h.same rfl rfl h.pdos h.destroyed
  unfold FdoSys.pdoCreated
  simp only
  cases hlast : s.pdos[s.pdos.length - 1]? with
  | none => exact hheld
  | some p =>
    have hp : p.abiRefs = s.outstanding := h.pdos p (List.mem_of_getElem? hlast)
    simp only
    split
    · exact hheld.destroy (hidle p hlast ‹_›) hp
    · exact hheld

theorem Follows.pdoStep (h : s.Follows)
    (hidle : ∀ p, s.pdos[i]? = some p → (op.run p).2 → s.power = .idle) :
    (s.pdoStep i op).Follows := by
  unfold FdoSys.pdoStep
  cases hi : s.pdos[i]? with
  | none => exact h
  | some p =>
    have hp : (op.run p).1.abiRefs = s.outstanding :=
      (run_abiRefs op p).trans (h.pdos p (List.mem_of_getElem? hi))
    simp only
    split
    · exact h.destroy (hidle p hi ‹_›) hp
    · refine h.same rfl rfl (fun q hq => ?_) h.destroyed
      rcases List.mem_or_eq_of_mem_set hq with hq | rfl
      · exact h.pdos q hq
      · exact hp

/-- The walk of `FdoD3ToD0`: where everybody held nothing, everybody holds one. -/
theorem Follows.resumeAll (h : s.Follows) (hw : s.power = .resuming) {granted : Nat → Bool}
    (hg : ∀ i p, s.pdos[i]? = some p → p.isDefault || granted i) :
    (s.resumeAll granted).Follows where
  power no := absurd rfl no
  destroyed := h.destroyed
  pdos := by
    intro q hq
    obtain ⟨i, hi, rfl⟩ := List.mem_mapIdx.mp hq
    have hp : (s.pdos[i]).abiRefs = s.outstanding := h.pdos _ (List.getElem_mem hi)
    have hd : s.devicePowerState = .d0 := h.power (by simp [hw])
    rw [pdoResume_granted (hg i _ (List.getElem?_eq_getElem hi))]
    simp [hp, outstanding, FdoSys.resumeAll, hw, hd]

/-- The walk of `FdoD0ToD3`: where everybody held one and nobody is passed over, nobody holds
    any. -/
theorem Follows.suspendAll (h : s.Follows) (hw : s.power = .idle) (hd : s.devicePowerState = .d0)
    (hall : ∀ p ∈ s.pdos, p.missing = false ∧ p.devicePnpState ≠ .deleted) :
    s.suspendAll.Follows where
  power _ := hd
  destroyed := h.destroyed
  pdos := by
    intro q hq
    obtain ⟨p, hp, rfl⟩ := List.mem_map.mp hq
    rw [if_neg (by simp [hall p hp])]
    simp [pdoSuspend, h.pdos p hp, outstanding, FdoSys.suspendAll, hw, hd]

end FdoSys

/-- **A step in step** keeps the references where the power state is. -/
theorem follows_next (h : s.Follows) (he : fdoEnabled s l) (hs : InStep s l) :
    (fdoNext s l).Follows := by
  cases l with
  | wake success =>
    cases success with
    | false => exact h
    | true =>
      -- D0 is set, and nobody holds anything yet
      refine ⟨fun _ => rfl, fun p hp => ?_, h.destroyed⟩
      simpa [outstanding, fdoNext, he.2] using h.pdos p hp
  | resumeAll granted => exact h.resumeAll he.1 hs
  | suspendAll => exact h.suspendAll he.1 he.2.1 hs
  | sleep =>
    refine ⟨fun no => absurd rfl no, fun p hp => ?_, h.destroyed⟩
    have : s.power = .suspending := he
    simpa [outstanding, fdoNext, this] using h.pdos p hp
  | acquireMutex | releaseMutex => exact h.same rfl rfl h.pdos h.destroyed
  | create name granted => exact h.pdoCreate hs name granted
  | created => exact h.pdoCreated hs
  | pdo i op => exact h.pdoStep hs

end Steps

theorem follows_init : FdoSys.init.Follows := ⟨fun no => absurd rfl no, by decide, nofun⟩

/-! ## 3. Runs -/

/-- **References follow the power state**, in every run in which PDOs are added and removed between
    the transitions only, nobody is missing or deleted when the bus goes to D3, and every `Acquire`
    succeeds when it comes back. -/
theorem references_follow_power {s : FdoSys} (h : Reach fdoSystem InStep .init s) : s.Balanced := by
  have hf : s.Follows := h.invariant follows_init fun _ _ hf he hs => follows_next hf he hs
  refine ⟨fun hidle p hp => ?_, hf.destroyed⟩
  have := hf.pdos p hp
  simpa only [outstanding, hidle, true_and] using this

/-- The bus wakes up, a console appears, it goes to sleep and wakes up again, and the console is
    ejected. -/
def wakeAndEject : List FdoLabel :=
  [.wake true, .resumeAll fun _ => true, .acquireMutex, .create "1" true, .created, .releaseMutex,
    .suspendAll, .sleep, .wake true, .resumeAll fun _ => true, .acquireMutex, .pdo 1 .eject,
    .pdo 1 .collectDeleted]

theorem references_follow_power_wakeAndEject :
    (runs fdoSystem .init wakeAndEject).Balanced ∧
      (runs fdoSystem .init wakeAndEject).destroyed = [0] := by
  have all (p : Pdo) : p.isDefault || true := Bool.or_true _
  have nobody : ∀ p ∈ (runs fdoSystem .init (wakeAndEject.take 6)).pdos,
      p.missing = false ∧ p.devicePnpState ≠ .deleted := by decide
  have hreach : Reach fdoSystem InStep .init (runs fdoSystem .init wakeAndEject) :=
    .of_admits _ .start ⟨⟨rfl, rfl⟩, trivial, ⟨rfl, rfl⟩, fun _ p _ => all p, rfl, trivial, rfl, rfl,
      rfl, fun _ _ _ => rfl, rfl, trivial, ⟨rfl, rfl, rfl⟩, nobody, rfl, trivial, ⟨rfl, rfl⟩, trivial,
      ⟨rfl, rfl⟩, fun _ p _ => all p, rfl, trivial, ⟨by decide, fun _ => rfl⟩, fun _ _ _ => rfl,
      ⟨by decide, fun _ => rfl⟩, fun _ _ _ => rfl, trivial⟩
  exact ⟨references_follow_power hreach, rfl⟩

/-- A console is ejected, and before it is destroyed the bus goes to D3: the walk passes over it,
    and it is destroyed with its reference. -/
theorem ejected_keeps_reference :
    ¬∀ s : FdoSys, Reach fdoSystem (fun _ _ => True) .init s → s.Balanced := by
  intro hall
  have hreach : Reach fdoSystem (fun _ _ => True) .init (runs fdoSystem .init
      [.wake true, .resumeAll fun _ => true, .acquireMutex, .create "1" true, .created, .pdo 1 .eject,
        .releaseMutex, .suspendAll, .sleep, .acquireMutex, .pdo 1 .collectDeleted]) :=
    .of_admits _ .start ⟨⟨rfl, rfl⟩, trivial, ⟨rfl, rfl⟩, trivial, rfl, trivial, rfl, trivial, rfl,
      trivial, ⟨by decide, fun _ => rfl⟩, trivial, rfl, trivial, ⟨rfl, rfl, rfl⟩, trivial, rfl, trivial,
      rfl, trivial, ⟨by decide, fun _ => rfl⟩, trivial, trivial⟩
  have leaked : (1 : Int) ∈ (runs fdoSystem .init
      [.wake true, .resumeAll fun _ => true, .acquireMutex, .create "1" true, .created,
        .pdo 1 .eject, .releaseMutex, .suspendAll, .sleep, .acquireMutex,
        .pdo 1 .collectDeleted]).destroyed := by decide
  exact absurd ((hall _ hreach).2 1 leaked) (by decide)

/-! ## 4. What is counted -/

/-- The references of a PDO are those its frontend counts, in a `LONG`. -/
def Counts (p : Pdo) (f : Frontend) : Prop := f.references = BitVec.ofInt 32 p.abiRefs

section Counting

variable {p : Pdo} {f : Frontend} {fuel : Nat} {tape : Nat → Answer} {n : Nat}

/-- `PdoResume` of a PV console succeeds where `FrontendAbiAcquire` does, and both count it. -/
theorem counts_pdoResume (h : Counts p f) (hp : p.isDefault = false) (hl : f.lock = false)
    (safe : LockSafe tape n f .acquire) :
    (frontendAbiAcquire fuel tape n f).Ensures fun r =>
      (pdoResume p r.1.ntSuccess).1.ntSuccess = r.1.ntSuccess ∧
        Counts (pdoResume p r.1.ntSuccess).2 r.2.2 := by
  refine (frontendAbiAcquire_spec hl safe).mono fun r hr => ?_
  have hrefs := hr.2
  cases hs : r.1.ntSuccess with
  | false =>
    rw [hs] at hrefs
    simp only [pdoResume, hp]
    exact ⟨rfl, hrefs.trans h⟩
  | true =>
    rw [hs] at hrefs
    simp only [pdoResume, Bool.or_true, if_true]
    refine ⟨rfl, ?_⟩
    rw [Counts, BitVec.ofInt_add, ← h]
    exact hrefs

/-- `PdoSuspend` is `FrontendAbiRelease`, and both count it. -/
theorem counts_pdoSuspend (h : Counts p f) (hl : f.lock = false)
    (safe : LockSafe tape n f .release) :
    (frontendAbiRelease fuel tape n f).Ensures fun r => Counts (pdoSuspend p) r.2.2 := by
  refine (frontendAbiRelease_spec hl safe).mono fun r hr => ?_
  rw [Counts, pdoSuspend, Int.sub_eq_add_neg, BitVec.ofInt_add, ← h]
  exact hr.2.trans (BitVec.sub_eq_add_neg _ _)

end Counting

end Xencons
