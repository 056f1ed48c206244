import Xencons.Fdo.Pnp
import Xencons.Lib.Proc

/-!
# Devices between D0 and D3 (fdo.c, pdo.c)

A device that goes to D0 acquires the suspend interface, the FDO the store as well, adds its watch
and registers a callback for the end of a suspend; one that goes to D3 gives all of it back. The
transitions are come to from PnP and from power IRPs, and in the callback the device goes to D3 and
back again.

* `PdoDevice`, `FdoDevice`, `PowerBus` -- the devices, with what they hold;
* `PowerAnswer` -- what is asked of the interfaces, and where the domain may be suspended;
* `PdoDevice.d3ToD0`, `d0ToD3`, `startDevice`, `setDevicePower`, ... -- the functions of a PDO;
* `PowerBus.fdoD3ToD0`, `fdoD0ToD3`, `fdoStartDevice`, ... -- those of the FDO;
* `deviceSystem` -- the operations in any order; `AsAsserted` -- `FdoD3ToD0` finds the FDO in D3.
-/

namespace Xencons

open Lib Proc

/-! ## 1. The devices -/

/-- One answer of an interface. -/
structure PowerAnswer where
  status : NtStatus
  /-- the domain is suspended, and resumed, just ahead of the call -/
  suspended : Bool
  /-- what the late suspend callback then has of its `WatchAdd`, which it asserts to succeed -/
  readded : NtStatus
  asserted : readded.ntSuccess = true

/-- A PDO. -/
structure PdoDevice where
  pnp : Pdo
  /-- `Dx->DevicePowerState` -/
  devicePowerState : DevicePowerState
  /-- the references on `SuspendInterface`, and the callbacks registered with it -/
  suspendRefs : Int
  lateCallbacks : Int
  /-- `SuspendCallbackLate` is there -/
  suspendCallbackLate : Bool
  /-- `Dx->Link.Length` is not zero -/
  link : Bool
deriving DecidableEq

/-- The FDO. -/
structure FdoDevice where
  dx : FdoDx
  /-- the references on `SuspendInterface` and `StoreInterface`, and what is registered with them -/
  suspendRefs : Int
  storeRefs : Int
  lateCallbacks : Int
  watches : Int
deriving DecidableEq

/-- The FDO, and the PDOs of its list. -/
structure PowerBus where
  fdo : FdoDevice
  pdos : List PdoDevice
deriving DecidableEq

/-- `DEVICE_POWER_STATE`, as an IRP has it. -/
inductive RequestedPowerState where
  | unspecified
  | d0
  | d1
  | d2
  | d3
  | maximum
deriving DecidableEq

def RequestedPowerState.ordinal : RequestedPowerState → Nat
  | .unspecified => 0
  | .d0 => 1
  | .d1 => 2
  | .d2 => 3
  | .d3 => 4
  | .maximum => 5

def DevicePowerState.ordinal : DevicePowerState → Nat
  | .d0 => 1
  | .d3 => 4

/-! ## 2. A PDO -/

/-- A program on a PDO. -/
abbrev OnPdo (α : Type) := Proc PowerAnswer PdoDevice α

namespace PdoDevice

/-- A PDO as `PdoCreate` leaves it. -/
def create (name : Option String) : PdoDevice := ⟨.new name, .d3, 0, 0, false, false⟩

/-- `__PdoD3ToD0` -/
def wake : OnPdo NtStatus := do
  modify fun p => { p with devicePowerState := .d0 }
  return .success

/-- `__PdoD0ToD3` -/
def sleep : OnPdo Unit := modify fun p => { p with devicePowerState := .d3 }

/-- `PdoSuspendCallbackLate`; that it succeeds is asserted, and not looked at. -/
def suspendCallback : OnPdo Unit := do
  sleep
  let _ ← wake

/-- At `PASSIVE_LEVEL` the domain may be suspended: whoever is registered is called back. -/
def ifSuspended (a : PowerAnswer) : OnPdo Unit := do
  let p ← get
  if a.suspended && decide (0 < p.lateCallbacks) then suspendCallback

/-- `fail2` of `PdoD3ToD0`, and the labels that fall into it. -/
def fail2 (status : NtStatus) : OnPdo NtStatus := do
  modify fun p => { p with suspendRefs := p.suspendRefs - 1 }
  return status

def fail3 (status : NtStatus) : OnPdo NtStatus := do
  sleep
  fail2 status

def fail4 (status : NtStatus) : OnPdo NtStatus := do
  modify fun p => { p with lateCallbacks := p.lateCallbacks - 1, suspendCallbackLate := false }
  fail3 status

/-- `PdoD3ToD0` -/
def d3ToD0 : OnPdo NtStatus := do
  let p ← get
  if p.devicePowerState = .d0 then return .success
  -- XENBUS_SUSPEND(Acquire)
  let a ← ask
  if !a.status.ntSuccess then return a.status
  modify fun p => { p with suspendRefs := p.suspendRefs + 1 }
  let status ← wake
  if !status.ntSuccess then return ← fail2 status
  -- XENBUS_SUSPEND(Register)
  let a ← ask
  if !a.status.ntSuccess then return ← fail3 a.status
  modify fun p => { p with lateCallbacks := p.lateCallbacks + 1, suspendCallbackLate := true }
  -- XENCONS_CONSOLE_ABI(D3ToD0), at PASSIVE_LEVEL
  let a ← ask
  ifSuspended a
  if !a.status.ntSuccess then return ← fail4 a.status
  return .success

/-- `PdoD0ToD3` -/
def d0ToD3 : OnPdo Unit := do
  let p ← get
  if p.devicePowerState = .d3 then return ()
  -- XENCONS_CONSOLE_ABI(D0ToD3), at PASSIVE_LEVEL
  let a ← ask
  ifSuspended a
  modify fun p => { p with lateCallbacks := p.lateCallbacks - 1, suspendCallbackLate := false }
  sleep
  modify fun p => { p with suspendRefs := p.suspendRefs - 1 }

/-- The `IoRegisterDeviceInterface` of `PdoStartDevice`. -/
def registerInterface : OnPdo NtStatus := do
  let p ← get
  if p.link then return .success
  let a ← ask
  if !a.status.ntSuccess then return a.status
  modify fun p => { p with link := true }
  return .success

/-- What else comes to a PDO changes its PnP state; says whether it is destroyed. -/
def pnpOp (op : PdoOp) : OnPdo Bool := do
  let p ← get
  modify fun p => { p with pnp := (op.run p.pnp).1 }
  return (op.run p.pnp).2

/-- `PdoStartDevice` -/
def startDevice : OnPdo NtStatus := do
  let status ← registerInterface
  if !status.ntSuccess then return status
  let status ← d3ToD0
  if !status.ntSuccess then return status
  let _ ← pnpOp .startDevice
  return .success

/-- `PdoD0ToD3`, unless it is not in D0. -/
def powerDown : OnPdo Unit := do
  let p ← get
  if p.devicePowerState = .d0 then d0ToD3

/-- `PdoStopDevice`, and `PdoRemoveDevice` up to `FdoReleaseMutex`. -/
def stopDevice : OnPdo Bool := do
  powerDown
  pnpOp .stopDevice

def removeDevice : OnPdo Bool := do
  powerDown
  pnpOp .removeDevice

/-- `__PdoSetDevicePower`; that it is D0 or D3, and that it succeeds, is asserted. -/
def setDevicePower (state : RequestedPowerState) : OnPdo Unit := do
  let p ← get
  if state.ordinal < p.devicePowerState.ordinal then
    let _ ← d3ToD0
  else if p.devicePowerState.ordinal < state.ordinal then
    d0ToD3

end PdoDevice

/-! ## 3. The FDO -/

/-- A program on the bus. -/
abbrev OnBus (α : Type) := Proc PowerAnswer PowerBus α

namespace PowerBus

/-- Something happens to the FDO by itself. -/
def onFdo (g : FdoDevice → FdoDevice) : OnBus Unit := modify fun s => { s with fdo := g s.fdo }

/-- And to what it knows of itself. -/
def onDx (g : FdoDx → FdoDx) : OnBus Unit := onFdo fun f => { f with dx := g f.dx }

/-- `__FdoD3ToD0`, with what its `WatchAdd` returns. -/
def fdoWake (status : NtStatus) : OnBus NtStatus := do
  if !status.ntSuccess then return status
  onFdo fun f => { f with watches := f.watches + 1, dx := { f.dx with scanWatch := true } }
  return .success

/-- `__FdoD0ToD3` -/
def fdoSleep : OnBus Unit :=
  onFdo fun f => { f with watches := f.watches - 1, dx := { f.dx with scanWatch := false } }

/-- `FdoSuspendCallbackLate` -/
def fdoSuspendCallback (readded : NtStatus) : OnBus Unit := do
  fdoSleep
  let _ ← fdoWake readded

def ifSuspended (a : PowerAnswer) : OnBus Unit := do
  let s ← get
  if a.suspended && decide (0 < s.fdo.lateCallbacks) then fdoSuspendCallback a.readded

/-- `fail2` of `FdoD3ToD0`, and the labels that fall into it. -/
def fdoFail2 (status : NtStatus) : OnBus NtStatus := do
  onFdo fun f => { f with suspendRefs := f.suspendRefs - 1 }
  return status

def fdoFail3 (status : NtStatus) : OnBus NtStatus := do
  onFdo fun f => { f with storeRefs := f.storeRefs - 1 }
  fdoFail2 status

def fdoFail4 (status : NtStatus) : OnBus NtStatus := do
  fdoSleep
  fdoFail3 status

/-- The walk of `FdoD3ToD0`; that each `PdoResume` succeeds is asserted, and not looked at. -/
def resumeAll : List PdoDevice → OnBus (List PdoDevice)
  | [] => return []
  | p :: pdos => do
    let a ← ask
    ifSuspended a
    let pdos ← resumeAll pdos
    return { p with pnp := (pdoResume p.pnp a.status.ntSuccess).2 } :: pdos

/-- `FdoD3ToD0` -/
def fdoD3ToD0 : OnBus NtStatus := do
  -- XENBUS_SUSPEND(Acquire)
  let a ← ask
  if !a.status.ntSuccess then return a.status
  onFdo fun f => { f with suspendRefs := f.suspendRefs + 1 }
  -- XENBUS_STORE(Acquire)
  let a ← ask
  if !a.status.ntSuccess then return ← fdoFail2 a.status
  onFdo fun f => { f with storeRefs := f.storeRefs + 1 }
  let a ← ask
  let status ← fdoWake a.status
  if !status.ntSuccess then return ← fdoFail3 status
  -- XENBUS_SUSPEND(Register)
  let a ← ask
  if !a.status.ntSuccess then return ← fdoFail4 a.status
  onFdo fun f => { f with lateCallbacks := f.lateCallbacks + 1,
                          dx := { f.dx with suspendCallbackLate := true } }
  onDx fun f => { f with devicePowerState := .d0 }
  let s ← get
  let pdos ← resumeAll s.pdos
  modify fun s => { s with pdos := pdos }
  return .success

/-- The walk of `FdoD0ToD3`. -/
def suspendAll (s : PowerBus) : PowerBus :=
  { s with pdos := s.pdos.map fun p =>
      if p.pnp.devicePnpState = .deleted || p.pnp.missing then p
      else { p with pnp := pdoSuspend p.pnp } }

/-- `FdoD0ToD3` -/
def fdoD0ToD3 : OnBus Unit := do
  modify suspendAll
  -- PoSetPowerState, at PASSIVE_LEVEL, as all is up to the `Deregister`
  let a ← ask
  ifSuspended a
  onDx fun f => { f with devicePowerState := .d3 }
  let a ← ask
  ifSuspended a
  onFdo fun f => { f with lateCallbacks := f.lateCallbacks - 1,
                          dx := { f.dx with suspendCallbackLate := false } }
  fdoSleep
  onFdo fun f => { f with storeRefs := f.storeRefs - 1 }
  onFdo fun f => { f with suspendRefs := f.suspendRefs - 1 }

/-- `FdoStartDevice` -/
def fdoStartDevice : OnBus NtStatus := do
  -- FdoForwardIrpSynchronously
  let a ← ask
  if !a.status.ntSuccess then return a.status
  -- ThreadCreate
  let a ← ask
  if !a.status.ntSuccess then return a.status
  onDx fun f => { f with scanThread := true }
  let status ← fdoD3ToD0
  if !status.ntSuccess then
    onDx fun f => { f with scanThread := false }
    return status
  onDx (·.setDevicePnpState .started)
  return .success

/-- `FdoD0ToD3` where the FDO is in D0, and the end of the scan thread. -/
def fdoPowerDown : OnBus Unit := do
  let s ← get
  if s.fdo.dx.devicePowerState = .d0 then fdoD0ToD3

def fdoEndScan : OnBus Unit := onDx fun f => { f with scanThread := false }

/-- `FdoStopDevice` -/
def fdoStopDevice : OnBus Unit := do
  fdoPowerDown
  fdoEndScan
  onDx (·.setDevicePnpState .stopped)

/-- The walk of `FdoRemoveDevice`: the PDOs it leaves in the list. -/
def removeAll (pdos : List PdoDevice) : List PdoDevice :=
  (pdos.filter fun p => !(PdoOp.fdoRemoveDevice.run p.pnp).2).map fun p =>
    { p with pnp := (PdoOp.fdoRemoveDevice.run p.pnp).1 }

/-- `FdoRemoveDevice` where the FDO has been started. -/
def fdoRemoveStarted : OnBus Unit := do
  modify fun s => { s with pdos := removeAll s.pdos }
  fdoPowerDown
  fdoEndScan

/-- `FdoRemoveDevice` -/
def fdoRemoveDevice : OnBus Unit := do
  let s ← get
  if s.fdo.dx.previousDevicePnpState = .started then fdoRemoveStarted
  onDx (·.setDevicePnpState .deleted)

/-- `__FdoSetDevicePowerUp`; that it is D0, and that it succeeds, is asserted. -/
def fdoSetDevicePowerUp : OnBus NtStatus := do
  -- FdoForwardIrpSynchronously
  let a ← ask
  if !a.status.ntSuccess then return a.status
  fdoD3ToD0

/-- `__FdoSetDevicePower`; on the way down it is `__FdoSetDevicePowerDown`. -/
def fdoSetDevicePower (state : RequestedPowerState) : OnBus Unit := do
  let s ← get
  if state.ordinal = s.fdo.dx.devicePowerState.ordinal then return ()
  if state.ordinal < s.fdo.dx.devicePowerState.ordinal then
    let _ ← fdoSetDevicePowerUp
  else
    fdoPowerDown

end PowerBus

/-! ## 4. The operations in any order -/

/-- What comes to a PDO. -/
inductive PdoPowerOp where
  | startDevice
  | stopDevice
  | removeDevice
  | setDevicePower (state : RequestedPowerState)
  /-- the domain may be suspended -/
  | suspend
  /-- what does not look at its power state -/
  | other (op : PdoOp)
deriving DecidableEq

/-- What it does, and whether it destroys the PDO. -/
def PdoPowerOp.run : PdoPowerOp → OnPdo Bool
  | .startDevice => do
    let _ ← PdoDevice.startDevice
    return false
  | .stopDevice => PdoDevice.stopDevice
  | .removeDevice => PdoDevice.removeDevice
  | .setDevicePower state => do
    PdoDevice.setDevicePower state
    return false
  | .suspend => do
    let a ← ask
    PdoDevice.ifSuspended a
    return false
  | .other op => PdoDevice.pnpOp op

/-- What comes to the FDO. -/
inductive FdoPowerOp where
  | startDevice
  | stopDevice
  | removeDevice
  | setDevicePower (state : RequestedPowerState)
  /-- the domain may be suspended -/
  | suspend
  | queryStopDevice
  | cancelStopDevice
  | queryRemoveDevice
  | cancelRemoveDevice
  | surpriseRemoval
deriving DecidableEq

open PowerBus in
def FdoPowerOp.run : FdoPowerOp → OnBus Unit
  | .startDevice => do
    let _ ← fdoStartDevice
  | .stopDevice => fdoStopDevice
  | .removeDevice => fdoRemoveDevice
  | .setDevicePower state => fdoSetDevicePower state
  | .suspend => do
    let a ← ask
    ifSuspended a
  | .queryStopDevice => onDx (·.setDevicePnpState .stopPending)
  | .cancelStopDevice => onDx (·.restoreDevicePnpState .stopPending)
  | .queryRemoveDevice => onDx (·.setDevicePnpState .removePending)
  | .cancelRemoveDevice => onDx (·.restoreDevicePnpState .removePending)
  | .surpriseRemoval => do
    onDx (·.setDevicePnpState .surpriseRemovePending)
    modify fun s => { s with pdos := s.pdos.map fun p =>
      { p with pnp := (PdoOp.fdoSurpriseRemoval.run p.pnp).1 } }

/-- What happens next, and how everything turns out that is called. -/
inductive DeviceLabel where
  | pdo (i : Nat) (op : PdoPowerOp) (tape : Nat → PowerAnswer)
  | fdo (op : FdoPowerOp) (tape : Nat → PowerAnswer)
  /-- `PdoCreate` -/
  | create (name : Option String)

/-- The bus as `FdoCreate` leaves it. -/
def PowerBus.init : PowerBus where
  fdo :=
    { dx := ⟨.added, .invalid, .d3, false, false, false⟩
      suspendRefs := 0, storeRefs := 0, lateCallbacks := 0, watches := 0 }
  pdos := [.create none]

/-- A PDO behind an operation: `none` where it has been destroyed. -/
def PdoDevice.behind (p : PdoDevice) (op : PdoPowerOp) (tape : Nat → PowerAnswer) :
    Option PdoDevice :=
  match op.run tape 0 p with
  | .returns (destroyed, _, p') => if destroyed then none else some p'
  | _ => some p

def PowerBus.behind (s : PowerBus) (op : FdoPowerOp) (tape : Nat → PowerAnswer) : PowerBus :=
  match op.run tape 0 s with
  | .returns (_, _, s') => s'
  | _ => s

/-- What has become of the PDO at `i`. -/
def PowerBus.put (s : PowerBus) (i : Nat) : Option PdoDevice → PowerBus
  | some p => { s with pdos := s.pdos.set i p }
  | none => { s with pdos := s.pdos.eraseIdx i }

def deviceNext (s : PowerBus) : DeviceLabel → PowerBus
  | .pdo i op tape =>
    match s.pdos[i]? with
    | some p => s.put i (p.behind op tape)
    | none => s
  | .fdo op tape => s.behind op tape
  | .create name => { s with pdos := s.pdos ++ [.create name] }

/-- **The machine of the power transitions.** -/
def deviceSystem : System PowerBus DeviceLabel where
  enabled _ _ := True
  next := deviceNext

/-- `FdoD3ToD0` finds the FDO in D3 where it is called, as it asserts. -/
def AsAsserted (s : PowerBus) : DeviceLabel → Prop
  | .fdo .startDevice tape =>
    (tape 0).status.ntSuccess = true → (tape 1).status.ntSuccess = true →
      s.fdo.dx.devicePowerState = .d3
  | .fdo (.setDevicePower state) tape =>
    state.ordinal < s.fdo.dx.devicePowerState.ordinal → (tape 0).status.ntSuccess = true →
      s.fdo.dx.devicePowerState = .d3
  | _ => True

end Xencons
