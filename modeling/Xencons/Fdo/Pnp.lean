import Xencons.Fdo.Machine
import Xencons.Fdo.Directory
import Xencons.Lib.Walk
import Mathlib.Logic.Function.Basic

/-!
# PnP requests and scans, one after the other (fdo.c, pdo.c, driver.c)

Every operation here runs to completion: the IRPs to the FDO and to its PDOs, which `Dispatch` keeps
from a device object in Deleted, and the scans of `device/console`. Any of them may come next.

* `FdoDx` -- what the FDO knows of itself; `PnpSys` -- with its PDOs, and what has been reported and
  destroyed so far;
* `onPdo`, `walk` -- something comes to one PDO, or to each of the list in turn; `walk_next`: what
  each visit keeps, the walk keeps;
* `fdoDispatchPnp`, `pdoDispatchPnp`, `fdoScan` -- the operations;
* `pnpSystem` -- the steps, `PnpSys.init` -- the bus as `FdoCreate` leaves it.

Whether an `IoInvalidateDeviceRelations` or `IoRequestDeviceEject` has been sent is not looked at,
and neither are the references to the console ABIs, which are counted in `FdoSys`.
-/

namespace Xencons

open Lib Function

/-! ## 1. The FDO by itself -/

/-- `DEVICE_PNP_STATE`, as far as the FDO has it. -/
inductive FdoPnpState where
  | invalid
  | added
  | started
  | stopPending
  | stopped
  | removePending
  | surpriseRemovePending
  | deleted
deriving DecidableEq

/-- `XENCONS_FDO` and its `XENCONS_DX`. -/
structure FdoDx where
  devicePnpState : FdoPnpState
  previousDevicePnpState : FdoPnpState
  devicePowerState : DevicePowerState
  /-- `Fdo->ScanThread`, `Fdo->ScanWatch` and `Fdo->SuspendCallbackLate` are there -/
  scanThread : Bool
  scanWatch : Bool
  suspendCallbackLate : Bool
deriving DecidableEq

/-- How a `FdoD3ToD0` comes out. -/
inductive WakeOutcome where
  | success
  /-- an `Acquire` or the `WatchAdd` fails -/
  | failed
  /-- the `Register` fails, with the watch added -/
  | registerFailed
deriving DecidableEq

namespace FdoDx

/-- `__FdoSetDevicePnpState` -/
def setDevicePnpState (f : FdoDx) (state : FdoPnpState) : FdoDx :=
  { f with previousDevicePnpState := f.devicePnpState, devicePnpState := state }

/-- `__FdoRestoreDevicePnpState` -/
def restoreDevicePnpState (f : FdoDx) (state : FdoPnpState) : FdoDx :=
  if f.devicePnpState = state then { f with devicePnpState := f.previousDevicePnpState } else f

/-- `FdoD3ToD0` -/
def d3ToD0 (f : FdoDx) : WakeOutcome → Bool × FdoDx
  | .success =>
    (true, { f with devicePowerState := .d0, scanWatch := true, suspendCallbackLate := true })
  | .failed => (false, f)
  | .registerFailed => (false, { f with scanWatch := false })

/-- `FdoD0ToD3` -/
def d0ToD3 (f : FdoDx) : FdoDx :=
  { f with devicePowerState := .d3, scanWatch := false, suspendCallbackLate := false }

/-- `FdoStartDevice` -/
def startDevice (f : FdoDx) (forwarded threadCreated : Bool) (wake : WakeOutcome) : FdoDx :=
  if forwarded && threadCreated then
    let (up, f) := { f with scanThread := true }.d3ToD0 wake
    if up then f.setDevicePnpState .started else { f with scanThread := false }
  else f

/-- What `FdoStopDevice` and `FdoRemoveDevice` have in common. -/
def powerDown (f : FdoDx) : FdoDx :=
  let f := if f.devicePowerState = .d0 then f.d0ToD3 else f
  { f with scanThread := false }

end FdoDx

/-! ## 2. The bus -/

/-- What a `PdoDestroy` finds. -/
structure DestroyedPdo where
  id : Nat
  devicePnpState : DevicePnpState
  missing : Bool
  /-- it is in `Dx->ListEntry` -/
  listed : Bool

/-- The bus. -/
structure PnpSys where
  fdo : FdoDx
  /-- `Dx->ListEntry` -/
  list : List Nat
  pdo : Nat → Pdo
  /-- the PDOs there have been -/
  created : Nat
  /-- `Fdo->References` -/
  references : Nat
  /-- the calls of `FdoDestroy` -/
  fdoDestroyed : Nat
  /-- the PDOs in the relations of each `FdoQueryDeviceRelations` -/
  reports : List (List Pdo)
  destroyed : List DestroyedPdo

/-- The IRPs that reach a handler of the FDO. -/
inductive FdoIrp where
  | startDevice (forwarded threadCreated : Bool) (wake : WakeOutcome)
  | queryStopDevice
  | cancelStopDevice
  | stopDevice
  | queryRemoveDevice
  | cancelRemoveDevice
  | surpriseRemoval
  | removeDevice
  /-- for `BusRelations` -/
  | queryDeviceRelations (allocated forwarded : Bool)
deriving DecidableEq

/-- What comes to a PDO as an IRP. -/
def PdoOp.isIrp : PdoOp → Bool
  | .removeDevice | .eject | .startDevice | .queryStopDevice | .cancelStopDevice | .stopDevice
  | .queryRemoveDevice | .cancelRemoveDevice | .surpriseRemoval => true
  | _ => false

/-- What a scan finds. -/
structure ScanInput where
  /-- the keys of `device/console`, unless `Directory` fails -/
  keys : Option (List (List Char))
  /-- the allocations for the device list succeed -/
  allocated : Bool
  /-- the registry values `UnsupportedDevices` and `Enumerate` -/
  unsupportedDevices : List (List Char)
  enumerate : Bool
  /-- the `PdoCreate` for the device with this index succeeds -/
  granted : Nat → Bool

/-- The device list that `FdoScan` hands to `__FdoEnumerate`. -/
def ScanInput.devices (c : ScanInput) : Option (List AnsiString) :=
  (c.keys.bind fun keys => fdoMultiSzToUpcaseAnsi (multiSz keys) c.allocated).map
    (dropUnsupported c.unsupportedDevices)

/-- What happens next. -/
inductive PnpLabel where
  | fdo (irp : FdoIrp)
  | pdo (i : Nat) (op : PdoOp)
  | scan (c : ScanInput)
  | requestEject (i : Nat)

namespace PnpSys

/-- The bus as `FdoCreate` leaves it. -/
def init : PnpSys where
  fdo := ⟨.added, .invalid, .d3, false, false, false⟩
  list := [0]
  pdo _ := .new none
  created := 1
  references := 2
  fdoDestroyed := 0
  reports := []
  destroyed := []

/-- `PdoDestroy`, with `FdoRemovePhysicalDeviceObject`. -/
def pdoDestroy (s : PnpSys) (i : Nat) (p : Pdo) : PnpSys :=
  { s with
    list := s.list.erase i
    pdo := update s.pdo i { p with missing := false, ejectRequested := false, isDefault := false }
    references := s.references - 1
    destroyed := s.destroyed ++ [⟨i, p.devicePnpState, p.missing, decide (i ∈ s.list)⟩] }

/-- `PdoCreate`, with `FdoAddPhysicalDeviceObject`. -/
def pdoCreate (s : PnpSys) (d : AnsiString) : PnpSys :=
  { s with
    list := s.list ++ [s.created]
    pdo := update s.pdo s.created (.new (some (pdoSetName (some d))))
    created := s.created + 1
    references := s.references + 1 }

/-- Something comes to a PDO, which may destroy it. -/
def onPdo (s : PnpSys) (i : Nat) (op : PdoOp) : PnpSys :=
  if (op.run (s.pdo i)).2 then s.pdoDestroy i (op.run (s.pdo i)).1
  else { s with pdo := update s.pdo i (op.run (s.pdo i)).1 }

/-- The test of `FdoReleaseMutex`, and of `FdoRemoveDevice`. -/
def testReferences (s : PnpSys) : PnpSys :=
  if s.references = 0 then { s with fdoDestroyed := s.fdoDestroyed + 1 } else s

/-! ## 3. Walks -/

section Walks

variable {β : Type}

/-- A loop over the list comes to a PDO: what it does with it, and what it carries along. -/
def visit (f : β → Pdo → Option PdoOp × β) (acc : PnpSys × β) (i : Nat) : PnpSys × β :=
  match f acc.2 (acc.1.pdo i) with
  | (some op, b) => (acc.1.onPdo i op, b)
  | (none, b) => (acc.1, b)

/-- A loop over the list. -/
def walk (f : β → Pdo → Option PdoOp × β) (s : PnpSys) (b : β) : PnpSys × β :=
  s.list.foldl (visit f) (s, b)

end Walks

/-- The same comes to every PDO. -/
def always (op : PdoOp) (_ : Unit) (_ : Pdo) : Option PdoOp × Unit := (some op, ())

/-- The loop of `__FdoEnumerate`, which carries the device list. -/
def enumerateVisit (devices : List AnsiString) (p : Pdo) : Option PdoOp × List AnsiString :=
  if p.isDefault || p.devicePnpState = .deleted then (none, devices)
  else (some (.enumerate (consume p.name.toList devices).1), (consume p.name.toList devices).2)

/-- The loop of `FdoQueryDeviceRelations` that fills the relations. -/
def relationsVisit (relations : List Pdo) (p : Pdo) : Option PdoOp × List Pdo :=
  if p.missing then (none, relations)
  else (some .queryDeviceRelations, relations ++ [(PdoOp.queryDeviceRelations.run p).1])

/-! ## 4. The operations -/

/-- The second loop of `__FdoEnumerate` comes to a device. -/
def createVisit (granted : Nat → Bool) (s : PnpSys) (d : AnsiString × Nat) : PnpSys :=
  if d.1.length ≠ 0 ∧ granted d.2 then s.pdoCreate d.1 else s

/-- `__FdoEnumerate` -/
def fdoEnumerate (s : PnpSys) (devices : List AnsiString) (granted : Nat → Bool) : PnpSys :=
  let (s, devices) := s.walk enumerateVisit devices
  devices.zipIdx.foldl (createVisit granted) s

/-- One round of `FdoScan`. -/
def fdoScan (s : PnpSys) (c : ScanInput) : PnpSys :=
  if s.fdo.devicePnpState = .started then
    match c.devices with
    | some devices => if c.enumerate then s.fdoEnumerate devices c.granted else s
    | none => s
  else s

/-- `FdoSurpriseRemoval` -/
def fdoSurpriseRemoval (s : PnpSys) : PnpSys :=
  let s := { s with fdo := s.fdo.setDevicePnpState .surpriseRemovePending }
  (s.walk (always .fdoSurpriseRemoval) ()).1

/-- `FdoRemoveDevice` -/
def fdoRemoveDevice (s : PnpSys) : PnpSys :=
  let s :=
    if s.fdo.previousDevicePnpState = .started then
      let s := (s.walk (always .fdoRemoveDevice) ()).1
      { s with fdo := s.fdo.powerDown }
    else s
  let s := { s with fdo := s.fdo.setDevicePnpState .deleted }
  { s with references := s.references - 1 }.testReferences

/-- `FdoQueryDeviceRelations` -/
def fdoQueryDeviceRelations (s : PnpSys) (allocated forwarded : Bool) : PnpSys :=
  if allocated then
    let (s, relations) := s.walk relationsVisit []
    let s := { s with reports := s.reports ++ [relations] }
    if forwarded then (s.walk (always .collectDeleted) ()).1 else s
  else s

/-- `FdoDispatchPnp`, behind `Dispatch`. -/
def fdoDispatchPnp (s : PnpSys) (irp : FdoIrp) : PnpSys :=
  if s.fdo.devicePnpState = .deleted then s
  else
    match irp with
    | .startDevice forwarded threadCreated wake =>
      { s with fdo := s.fdo.startDevice forwarded threadCreated wake }
    | .queryStopDevice => { s with fdo := s.fdo.setDevicePnpState .stopPending }
    | .cancelStopDevice => { s with fdo := s.fdo.restoreDevicePnpState .stopPending }
    | .stopDevice => { s with fdo := s.fdo.powerDown.setDevicePnpState .stopped }
    | .queryRemoveDevice => { s with fdo := s.fdo.setDevicePnpState .removePending }
    | .cancelRemoveDevice => { s with fdo := s.fdo.restoreDevicePnpState .removePending }
    | .surpriseRemoval => s.fdoSurpriseRemoval
    | .removeDevice => s.fdoRemoveDevice
    | .queryDeviceRelations allocated forwarded => s.fdoQueryDeviceRelations allocated forwarded

/-- `PdoDispatchPnp`, behind `Dispatch`; two of the handlers end with `FdoReleaseMutex`. -/
def pdoDispatchPnp (s : PnpSys) (i : Nat) (op : PdoOp) : PnpSys :=
  if (s.pdo i).devicePnpState = .deleted then s
  else if op = .removeDevice ∨ op = .eject then (s.onPdo i op).testReferences
  else s.onPdo i op

/-- The handlers that dereference `Fdo->ScanThread` where they get that far. -/
def needsScanThread (s : PnpSys) : FdoIrp → Bool
  | .stopDevice | .queryDeviceRelations _ _ => true
  | .removeDevice => s.fdo.previousDevicePnpState = .started
  | _ => false

end PnpSys

open PnpSys

def pnpEnabled (s : PnpSys) : PnpLabel → Prop
  | .fdo irp => s.fdo.devicePnpState ≠ .deleted → s.needsScanThread irp → s.fdo.scanThread
  | .pdo i op => i < s.created ∧ op.isIrp
  | .scan _ => s.fdo.scanThread
  | .requestEject i => i ∈ s.list

instance (s : PnpSys) : (l : PnpLabel) → Decidable (pnpEnabled s l)
  | .fdo _ => inferInstanceAs (Decidable (_ → _ → _))
  | .pdo _ _ => inferInstanceAs (Decidable (_ ∧ _))
  | .scan _ => inferInstanceAs (Decidable (_ = true))
  | .requestEject _ => inferInstanceAs (Decidable (_ ∈ _))

def pnpNext (s : PnpSys) : PnpLabel → PnpSys
  | .fdo irp => s.fdoDispatchPnp irp
  | .pdo i op => s.pdoDispatchPnp i op
  | .scan c => s.fdoScan c
  | .requestEject i => s.onPdo i .requestEject

/-- **The PnP machine.** -/
def pnpSystem : System PnpSys PnpLabel where
  enabled := pnpEnabled
  next := pnpNext

/-! ## 5. What a walk keeps -/

/-- Nothing but the PDOs, their list and their count differs. -/
structure SameFdo (s s' : PnpSys) : Prop where
  fdo : s'.fdo = s.fdo
  created : s'.created = s.created
  fdoDestroyed : s'.fdoDestroyed = s.fdoDestroyed
  reports : s'.reports = s.reports

namespace PnpSys

variable {s : PnpSys} {i j : Nat} {op : PdoOp}

theorem sameFdo_onPdo (s : PnpSys) (i : Nat) (op : PdoOp) : SameFdo s (s.onPdo i op) := by
  unfold onPdo
  split <;> exact ⟨rfl, rfl, rfl, rfl⟩

theorem onPdo_pdo_of_ne (h : j ≠ i) : (s.onPdo i op).pdo j = s.pdo j := by
  unfold onPdo
  split <;> exact update_of_ne h _ _

/-- A PDO that something has come to is listed as before, or is the one destroyed. -/
theorem mem_onPdo (hj : j ∈ s.list) (hne : j ≠ i) : j ∈ (s.onPdo i op).list := by
  unfold onPdo
  split
  · exact (List.mem_erase_of_ne hne).mpr hj
  · exact hj

/-- Nothing gets into the list that way. -/
theorem mem_of_mem_onPdo (hj : j ∈ (s.onPdo i op).list) : j ∈ s.list := by
  unfold onPdo at hj
  split at hj
  · exact List.mem_of_mem_erase hj
  · exact hj

/-- What is in the list behind it has not been destroyed. -/
theorem self_mem_onPdo (hnd : s.list.Nodup) (hi : i ∈ (s.onPdo i op).list) :
    (op.run (s.pdo i)).2 = false ∧ (s.onPdo i op).pdo i = (op.run (s.pdo i)).1 := by
  unfold onPdo at hi ⊢
  split at hi
  · exact absurd rfl (hnd.mem_erase_iff.mp hi).1
  · rename_i hd
    rw [if_neg hd]
    exact ⟨Bool.not_eq_true _ ▸ hd, Function.update_self ..⟩

theorem testReferences_pdos :
    s.testReferences.list = s.list ∧ s.testReferences.pdo = s.pdo := by
  unfold testReferences
  split <;> exact ⟨rfl, rfl⟩

section Walks

variable {β : Type} {f : β → Pdo → Option PdoOp × β} {b : β} {acc : PnpSys × β}

/-- What a loop does to the PDO it comes to. -/
theorem visit_cases (f : β → Pdo → Option PdoOp × β) (acc : PnpSys × β) (i : Nat) :
    (f acc.2 (acc.1.pdo i)).1 = none ∧ visit f acc i = (acc.1, (f acc.2 (acc.1.pdo i)).2) ∨
    ∃ op, (f acc.2 (acc.1.pdo i)).1 = some op ∧
      visit f acc i = (acc.1.onPdo i op, (f acc.2 (acc.1.pdo i)).2) := by
  unfold visit
  cases f acc.2 (acc.1.pdo i) with
  | mk op b =>
      cases op with
      | none => exact .inl ⟨rfl, rfl⟩
      | some op => exact .inr ⟨op, rfl, rfl⟩

theorem mem_visit (hj : j ∈ acc.1.list) (hne : j ≠ i) : j ∈ (visit f acc i).1.list := by
  rcases visit_cases f acc i with ⟨-, e⟩ | ⟨op, -, e⟩
  · rw [e]
    exact hj
  · rw [e]
    exact mem_onPdo hj hne

theorem visit_pdo_of_ne (h : j ≠ i) : (visit f acc i).1.pdo j = acc.1.pdo j := by
  rcases visit_cases f acc i with ⟨-, e⟩ | ⟨op, -, e⟩
  · rw [e]
  · rw [e]
    exact onPdo_pdo_of_ne h

/-- **What each visit keeps, of the PDOs visited so far, the walk keeps.** -/
theorem walk_keeps {I : List Nat → PnpSys × β → Prop} (hnd : s.list.Nodup) (h0 : I [] (s, b))
    (hI : ∀ done i rest acc, s.list = done ++ i :: rest → i ∈ acc.1.list → I done acc →
      I (done ++ [i]) (visit f acc i)) : I s.list (s.walk f b) :=
  walk_rule (fun acc : PnpSys × β => acc.1.list) (fun _ _ _ => mem_visit) hnd hI (fun _ h => h) h0

/-- Nothing gets into the list that way. -/
theorem walk_subset (hj : j ∈ (s.walk f b).1.list) : j ∈ s.list := by
  revert hj
  refine List.foldlRecOn (motive := fun acc : PnpSys × β => j ∈ acc.1.list → j ∈ s.list) _ _ id ?_
  intro acc h i _ hj
  rcases visit_cases f acc i with ⟨-, e⟩ | ⟨op, -, e⟩
  · rw [e] at hj
    exact h hj
  · rw [e] at hj
    exact h (mem_of_mem_onPdo hj)

theorem sameFdo_walk : SameFdo s (s.walk f b).1 := by
  refine List.foldlRecOn (motive := fun acc : PnpSys × β => SameFdo s acc.1) _ _
    ⟨rfl, rfl, rfl, rfl⟩ ?_
  rintro acc ⟨h₁, h₂, h₃, h₄⟩ i -
  rcases visit_cases f acc i with ⟨-, e⟩ | ⟨op, -, e⟩
  · rw [e]
    exact ⟨h₁, h₂, h₃, h₄⟩
  · rw [e]
    obtain ⟨h₁', h₂', h₃', h₄'⟩ := sameFdo_onPdo acc.1 i op
    exact ⟨h₁'.trans h₁, h₂'.trans h₂, h₃'.trans h₃, h₄'.trans h₄⟩

end Walks

/-- The test changes nothing but whether the FDO has been destroyed. -/
theorem testReferences_frame :
    s.testReferences.fdo = s.fdo ∧ s.testReferences.reports = s.reports := by
  unfold testReferences
  split <;> exact ⟨rfl, rfl⟩

/-- A scan is no concern of the FDO's, and reports nothing. -/
theorem fdoScan_frame (c : ScanInput) :
    (s.fdoScan c).fdo = s.fdo ∧ (s.fdoScan c).reports = s.reports := by
  have hcreate : ∀ (granted : Nat → Bool) (devices : List (AnsiString × Nat)) (s' : PnpSys),
      (devices.foldl (createVisit granted) s').fdo = s'.fdo ∧
        (devices.foldl (createVisit granted) s').reports = s'.reports := by
    intro granted devices s'
    refine List.foldlRecOn (motive := fun s'' : PnpSys => s''.fdo = s'.fdo ∧
      s''.reports = s'.reports) _ _ ⟨rfl, rfl⟩ ?_
    intro s'' h d _
    unfold createVisit
    split <;> exact h
  unfold fdoScan
  split
  · split
    · split
      · exact ⟨(hcreate _ _ _).1.trans sameFdo_walk.fdo,
          (hcreate _ _ _).2.trans sameFdo_walk.reports⟩
      · exact ⟨rfl, rfl⟩
    · exact ⟨rfl, rfl⟩
  · exact ⟨rfl, rfl⟩

end PnpSys

end Xencons
