import Xencons.Lib.Transition
import Xencons.Nt

/-!
# The bus, its PDOs and its power state (fdo.c, pdo.c)

`Fdo->Mutex` guards the list of PDOs, and not `Dx->DevicePowerState`: a power transition changes the
one in a section of its own and the other outside of it, and whoever adds or removes a PDO meanwhile
looks at both. The machine takes a power transition apart where the mutex does not hold it together.

* `Pdo`, `PdoOp`, `PdoOp.run` -- a PDO, and everything that marks, ejects, enumerates or removes it;
* `pdoResume`, `pdoSuspend` -- the console ABI's `Acquire` and `Release`, which are counted;
* `FdoSys` -- the list, the power state, where the power transition is and who holds the mutex;
* `fdoSystem` -- the steps, `FdoSys.init` -- the bus as `FdoCreate` leaves it.
-/

namespace Xencons

open Lib

/-! ## 1. A PDO -/

/-- `DEVICE_PNP_STATE`, as far as a PDO has it. -/
inductive DevicePnpState where
  | invalid
  | present
  | enumerated
  | started
  | stopPending
  | stopped
  | removePending
  | surpriseRemovePending
  | deleted
deriving DecidableEq

/-- `DEVICE_POWER_STATE` -/
inductive DevicePowerState where
  | d0
  | d3
deriving DecidableEq

/-- `XENCONS_PDO` -/
structure Pdo where
  name : String
  isDefault : Bool
  devicePnpState : DevicePnpState
  previousDevicePnpState : DevicePnpState
  missing : Bool
  /-- bit 0 of `Eject` -/
  ejectRequested : Bool
  /-- the `Acquire`s of its console ABI that have succeeded, less the `Release`s -/
  abiRefs : Int
deriving DecidableEq

namespace Pdo

/-- A PDO as `PdoCreate` has it before `FdoAddPhysicalDeviceObject`; without a name, the default. -/
def new (name : Option String) : Pdo where
  name := name.getD "0"
  isDefault := name.isNone
  devicePnpState := .present
  previousDevicePnpState := .invalid
  missing := false
  ejectRequested := false
  abiRefs := 0

/-- `__PdoSetDevicePnpState` -/
def setDevicePnpState (p : Pdo) (state : DevicePnpState) : Pdo :=
  { p with previousDevicePnpState := p.devicePnpState, devicePnpState := state }

/-- `__PdoRestoreDevicePnpState` -/
def restoreDevicePnpState (p : Pdo) (state : DevicePnpState) : Pdo :=
  if p.devicePnpState = state then { p with devicePnpState := p.previousDevicePnpState } else p

end Pdo

/-- `PdoResume`: the `Acquire` of a default console cannot fail. -/
def pdoResume (p : Pdo) (granted : Bool) : NtStatus × Pdo :=
  if p.isDefault || granted then (.success, { p with abiRefs := p.abiRefs + 1 })
  else (.unsuccessful, p)

/-- `PdoSuspend` -/
def pdoSuspend (p : Pdo) : Pdo := { p with abiRefs := p.abiRefs - 1 }

/-- What comes to a PDO of the list. -/
inductive PdoOp where
  /-- the walk of `__FdoEnumerate`, with whether its name is in the device list -/
  | enumerate (listed : Bool)
  /-- `FdoSurpriseRemoval` -/
  | fdoSurpriseRemoval
  /-- the walk of `FdoRemoveDevice` -/
  | fdoRemoveDevice
  /-- the first walk of `FdoQueryDeviceRelations` that changes it, and the last -/
  | queryDeviceRelations
  | collectDeleted
  /-- `PdoRemoveDevice`, `PdoEject` -/
  | removeDevice
  | eject
  /-- `PdoStartDevice`, `PdoQueryStopDevice`, `PdoCancelStopDevice`, ... -/
  | startDevice
  | queryStopDevice
  | cancelStopDevice
  | stopDevice
  | queryRemoveDevice
  | cancelRemoveDevice
  | surpriseRemoval
  /-- `PdoRequestEject` -/
  | requestEject
deriving DecidableEq

/-- The ones that run under the mutex. -/
def PdoOp.underMutex : PdoOp → Bool
  | .enumerate _ | .fdoSurpriseRemoval | .fdoRemoveDevice | .queryDeviceRelations | .collectDeleted
  | .removeDevice | .eject => true
  | _ => false

/-- What it makes of the PDO, and whether it calls `PdoDestroy`. -/
def PdoOp.run (p : Pdo) : PdoOp → Pdo × Bool
  | .enumerate listed =>
    -- a PDO with a pending eject request is left to the PnP manager
    if p.isDefault || p.devicePnpState = .deleted || p.missing || p.ejectRequested || listed then
      (p, false)
    else
      let p := { p with missing := true }
      if p.devicePnpState = .present then (p.setDevicePnpState .deleted, true) else (p, false)
  | .fdoSurpriseRemoval => ({ p with missing := true }, false)
  | .fdoRemoveDevice =>
    let p := { p with missing := true }
    let p := if p.devicePnpState ≠ .surpriseRemovePending then p.setDevicePnpState .deleted else p
    (p, p.devicePnpState = .deleted)
  | .queryDeviceRelations =>
    if !p.missing && p.devicePnpState = .present then (p.setDevicePnpState .enumerated, false)
    else (p, false)
  | .collectDeleted => (p, p.devicePnpState = .deleted && p.missing)
  | .removeDevice =>
    if p.missing then (p.setDevicePnpState .deleted, p.devicePnpState = .surpriseRemovePending)
    else (p.setDevicePnpState .enumerated, false)
  | .eject => ({ p.setDevicePnpState .deleted with missing := true }, false)
  | .startDevice => (p.setDevicePnpState .started, false)
  | .queryStopDevice => (p.setDevicePnpState .stopPending, false)
  | .cancelStopDevice => (p.restoreDevicePnpState .stopPending, false)
  | .stopDevice => (p.setDevicePnpState .stopped, false)
  | .queryRemoveDevice => (p.setDevicePnpState .removePending, false)
  | .cancelRemoveDevice =>
    ({ p with ejectRequested := false }.restoreDevicePnpState .removePending, false)
  | .surpriseRemoval => (p.setDevicePnpState .surpriseRemovePending, false)
  | .requestEject => ({ p with ejectRequested := true }, false)

/-! ## 2. The bus -/

/-- Where a power transition is. -/
inductive PowerPc where
  | idle
  /-- `FdoD3ToD0` has set D0, and has not been through the list -/
  | resuming
  /-- `FdoD0ToD3` has been through the list, and has not set D3 -/
  | suspending
deriving DecidableEq

/-- `Fdo->Mutex`, as far as others than the power transitions take it. -/
inductive MutexPc where
  | free
  | held
  /-- held in `PdoCreate`, behind `FdoAddPhysicalDeviceObject` of the last PDO of the list -/
  | creating
deriving DecidableEq

/-- The bus. -/
structure FdoSys where
  /-- `Dx->DevicePowerState` -/
  devicePowerState : DevicePowerState
  /-- `Dx->ListEntry` -/
  pdos : List Pdo
  /-- `Fdo->References` -/
  references : Nat
  power : PowerPc
  mutex : MutexPc
  /-- what was outstanding of a PDO when `ConsoleDestroy` or `FrontendDestroy` was called for it -/
  destroyed : List Int

/-- What happens next. -/
inductive FdoLabel where
  /-- `FdoD3ToD0` up to `__FdoSetDevicePowerState`, or unwound before it -/
  | wake (success : Bool)
  /-- its walk through the list, with the `Acquire`s that succeed -/
  | resumeAll (granted : Nat → Bool)
  /-- the walk of `FdoD0ToD3`, and `__FdoSetDevicePowerState` behind it -/
  | suspendAll
  | sleep
  /-- any other section under the mutex begins or ends -/
  | acquireMutex
  | releaseMutex
  /-- `PdoCreate` up to the end of `FdoAddPhysicalDeviceObject`, and the rest of it -/
  | create (name : String) (granted : Bool)
  | created
  | pdo (i : Nat) (op : PdoOp)

namespace FdoSys

/-- `FdoAddPhysicalDeviceObject` -/
def addPhysicalDeviceObject (s : FdoSys) (p : Pdo) (granted : Bool) : NtStatus × FdoSys :=
  let (status, p) := if s.devicePowerState = .d3 then (.success, p) else pdoResume p granted
  if status.ntSuccess then
    (status, { s with pdos := s.pdos ++ [p], references := s.references + 1 })
  else (status, s)

/-- `FdoRemovePhysicalDeviceObject`; also what is outstanding of the PDO then. -/
def removePhysicalDeviceObject (s : FdoSys) (i : Nat) (p : Pdo) : FdoSys × Int :=
  let p := if s.devicePowerState = .d3 then p else pdoSuspend p
  ({ s with pdos := s.pdos.eraseIdx i, references := s.references - 1 }, p.abiRefs)

/-- `PdoDestroy`, and what `PdoCreate` does at `fail7`. -/
def destroy (s : FdoSys) (i : Nat) (p : Pdo) : FdoSys :=
  let (s, outstanding) := s.removePhysicalDeviceObject i p
  { s with destroyed := s.destroyed ++ [outstanding] }

/-- `PdoCreate` up to `fail6`. -/
def pdoCreate (s : FdoSys) (name : String) (granted : Bool) : FdoSys :=
  let (status, s) := s.addPhysicalDeviceObject (.new (some name)) granted
  if status.ntSuccess then { s with mutex := .creating }
  else { s with destroyed := s.destroyed ++ [0] }

/-- The rest of `PdoCreate`: it is `fail7` where an eject has been requested meanwhile. -/
def pdoCreated (s : FdoSys) : FdoSys :=
  let s := { s with mutex := .held }
  match s.pdos[s.pdos.length - 1]? with
  | some p => if p.ejectRequested then s.destroy (s.pdos.length - 1) p else s
  | none => s

/-- Something comes to the PDO at `i`. -/
def pdoStep (s : FdoSys) (i : Nat) (op : PdoOp) : FdoSys :=
  match s.pdos[i]? with
  | some p =>
    if (op.run p).2 then s.destroy i (op.run p).1
    else { s with pdos := s.pdos.set i (op.run p).1 }
  | none => s

/-- The walk of `FdoD3ToD0`; that an `Acquire` succeeds is asserted, and not looked at. -/
def resumeAll (s : FdoSys) (granted : Nat → Bool) : FdoSys :=
  { s with pdos := s.pdos.mapIdx fun i p => (pdoResume p (granted i)).2, power := .idle }

/-- The walk of `FdoD0ToD3`. -/
def suspendAll (s : FdoSys) : FdoSys :=
  { s with
    pdos := s.pdos.map fun p =>
      if p.devicePnpState = .deleted || p.missing then p else pdoSuspend p
    power := .suspending }

end FdoSys

open FdoSys

def fdoEnabled (s : FdoSys) : FdoLabel → Prop
  | .wake _ => s.power = .idle ∧ s.devicePowerState = .d3
  | .resumeAll _ => s.power = .resuming ∧ s.mutex = .free
  | .suspendAll => s.power = .idle ∧ s.devicePowerState = .d0 ∧ s.mutex = .free
  | .sleep => s.power = .suspending
  | .acquireMutex => s.mutex = .free
  | .releaseMutex => s.mutex = .held
  | .create _ _ => s.mutex = .held
  | .created => s.mutex = .creating
  | .pdo i op => i < s.pdos.length ∧ (op.underMutex → s.mutex = .held)

def fdoNext (s : FdoSys) : FdoLabel → FdoSys
  | .wake success => if success then { s with devicePowerState := .d0, power := .resuming } else s
  | .resumeAll granted => s.resumeAll granted
  | .suspendAll => s.suspendAll
  | .sleep => { s with devicePowerState := .d3, power := .idle }
  | .acquireMutex => { s with mutex := .held }
  | .releaseMutex => { s with mutex := .free }
  | .create name granted => s.pdoCreate name granted
  | .created => s.pdoCreated
  | .pdo i op => s.pdoStep i op

/-- **The bus machine.** -/
def fdoSystem : System FdoSys FdoLabel where
  enabled := fdoEnabled
  next := fdoNext

/-- The bus as `FdoCreate` leaves it: in D3, with the default console. -/
def FdoSys.init : FdoSys where
  devicePowerState := .d3
  pdos := [.new none]
  references := 2
  power := .idle
  mutex := .free
  destroyed := []

end Xencons
