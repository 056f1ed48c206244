import Xencons.Fdo.SystemPower
import Xencons.Fdo.Create
import Xencons.Lib.Entrusted

/-!
# Every IRP that comes to the driver (driver.c, fdo.c, pdo.c)

`Dispatch` hands an IRP to the FDO or to a PDO, and some forty functions may see it from there. One
of them completes it, leaves it to the lower driver, or puts it where a thread or a console finds
it; from then on it is not theirs.

* `Irp`, `Disposal`, `IrpAnswer` -- an IRP, what becomes of it, and what is answered meanwhile;
* `fdoDispatch`, `pdoDispatch`, `dispatch` -- the code, with every function below them;
* `fdoSetDevicePower`, `fdoQueryDevicePower`, `pdoSetDevicePower` -- what the threads do with the
  IRPs that are left to them;
* `FdoRight`, `PdoRight` -- what may become of an IRP, and what is to be answered for it;
* **`dispatch_settles`** -- every IRP goes where it is to go, once.

What a request does to its device is in Pnp.lean, DevicePower.lean, Usage.lean and SystemPower.lean.
Here it is one answer, and all that counts is whether it succeeds.
-/

namespace Xencons.Dispatch

open Lib Proc Entrusted

/-! ## 1. IRPs -/

def STATUS_NO_SUCH_DEVICE : NTSTATUS := 0xC000000E#32

/-- `PNP_DEVICE_NOT_DISABLEABLE` -/
def PNP_DEVICE_NOT_DISABLEABLE : BitVec 64 := 0x20#64

/-- `DEVICE_RELATION_TYPE` -/
inductive DeviceRelationType where
  | busRelations
  | ejectionRelations
  | powerRelations
  | removalRelations
  | targetDeviceRelation
  | singleBusRelations
  | transportRelations
deriving DecidableEq

/-- `DEVICE_TEXT_TYPE` -/
inductive DeviceTextType where
  | deviceTextDescription
  | deviceTextLocationInformation
  /-- any other value -/
  | unknown
deriving DecidableEq

/-- `BUS_QUERY_ID_TYPE` -/
inductive BusQueryIdType where
  | busQueryDeviceID
  | busQueryHardwareIDs
  | busQueryCompatibleIDs
  | busQueryInstanceID
  /-- any other value -/
  | unknown
deriving DecidableEq

/-- The minor functions of `IRP_MJ_PNP`, with the parameters that are looked at. -/
inductive PnpMinorFunction where
  | startDevice
  | queryStopDevice
  | cancelStopDevice
  | stopDevice
  | queryRemoveDevice
  | cancelRemoveDevice
  | surpriseRemoval
  | removeDevice
  | queryDeviceRelations (type : DeviceRelationType)
  | queryCapabilities
  | queryDeviceText (type : DeviceTextType)
  | readConfig
  | writeConfig
  | queryId (type : BusQueryIdType)
  | queryBusInformation
  | deviceUsageNotification
  | queryPnpDeviceState
  | eject
  /-- any other value -/
  | unknown
deriving DecidableEq

/-- The major functions. -/
inductive IrpFunction where
  | pnp (minor : PnpMinorFunction)
  | power (irp : PowerIrp)
  | create
  | cleanup
  | close
  | read
  | write
  | deviceControl
  /-- any other value -/
  | unknown
deriving DecidableEq

/-- `DEVICE_CAPABILITIES` -/
structure DeviceCapabilities where
  version : BitVec 16
  deviceD1 : Bool
  deviceD2 : Bool
  lockSupported : Bool
  ejectSupported : Bool
  removable : Bool
  dockDevice : Bool
  uniqueID : Bool
  silentInstall : Bool
  rawDeviceOK : Bool
  surpriseRemovalOK : Bool
  hardwareDisabled : Bool
  noDisplayInUI : Bool
  address : ULONG
  uiNumber : ULONG
  deviceState : SystemPowerState → RequestedPowerState
  systemWake : SystemPowerState
  deviceWake : RequestedPowerState
  d1Latency : ULONG
  d2Latency : ULONG
  d3Latency : ULONG

/-- An IRP: what is asked for, and what the driver may write. -/
structure Irp where
  function : IrpFunction
  /-- `IoStatus` -/
  status : NTSTATUS
  information : BitVec 64
  /-- `Parameters.DeviceCapabilities.Capabilities` -/
  capabilities : DeviceCapabilities
  /-- `IoMarkIrpPending` -/
  marked : Bool

/-- What becomes of an IRP. -/
inductive Disposal where
  /-- `IoCompleteRequest`, with the IRP as it is then -/
  | completed (irp : Irp)
  /-- `IoSkipCurrentIrpStackLocation` and `IoCallDriver`, with what that returns -/
  | passed (irp : Irp) (returned : NTSTATUS)
  /-- a thread of the device finds it -/
  | slot (k : PowerSlot) (irp : Irp)
  /-- the console has it -/
  | queued (irp : Irp)

/-- What a function is answered. -/
structure IrpAnswer where
  /-- by a part of the driver, and by the lower driver at the end -/
  status : NTSTATUS
  /-- the lower driver has not finished when `IoCallDriver` returns -/
  pending : Bool
  /-- what the lower driver leaves in the IRP -/
  information : BitVec 64
  capabilities : DeviceCapabilities
  /-- `__AllocatePoolWithTag` -/
  pool : Option (BitVec 64)

/-- What a function has of its own: the IRP as the lower driver has had it, each time that it has
    given it back, and what has come from the pool. -/
structure Hands where
  forwarded : List Irp
  taken : List (BitVec 64)

abbrev OnIrp (α : Type) := Proc IrpAnswer (Entrusted Irp Disposal Hands) α

/-- A device object, as far as the way of an IRP depends on it. -/
structure DeviceObject where
  /-- `Dx->DevicePnpState` is Deleted -/
  deleted : Bool
  devicePowerState : DevicePowerState
  /-- `Fdo->NotDisableable` -/
  notDisableable : Bool
  /-- `Dx->Link.Length` is not 0 -/
  linked : Bool

/-! ## 2. What is done with an IRP -/

def setStatus (status : NTSTATUS) : OnIrp Unit := change fun irp => { irp with status := status }

def setInformation (information : BitVec 64) : OnIrp Unit :=
  change fun irp => { irp with information := information }

/-- `IoCompleteRequest`, behind a look at the status. -/
def complete : OnIrp NTSTATUS := do
  let irp ← look
  give (.completed irp)
  return irp.status

/-- `Irp->IoStatus.Status = status`, and `IoCompleteRequest`. -/
def completeWith (status : NTSTATUS) : OnIrp NTSTATUS := do
  setStatus status
  let irp ← look
  give (.completed irp)
  return status

/-- `IoSkipCurrentIrpStackLocation`, and `IoCallDriver`. -/
def passDown : OnIrp NTSTATUS := do
  let irp ← look
  let a ← ask
  let returned := if a.pending then STATUS_PENDING else a.status
  give (.passed irp returned)
  return returned

/-- The same behind `Irp->IoStatus.Status = STATUS_SUCCESS`. -/
def passDownSuccess : OnIrp NTSTATUS := do
  setStatus STATUS_SUCCESS
  passDown

/-- `FdoForwardIrpSynchronously`: what `IoCallDriver` returns, and is waited for, is what the lower
    driver has left in the IRP. -/
def fdoForwardIrpSynchronously : OnIrp NTSTATUS := do
  let irp ← look
  keep fun own => { own with forwarded := own.forwarded ++ [irp] }
  let a ← ask
  change fun irp => { irp with
    status := a.status, information := a.information, capabilities := a.capabilities }
  return a.status

/-- A part of the driver is called. -/
def work : OnIrp NTSTATUS := do
  let a ← ask
  return a.status

/-- `__AllocatePoolWithTag` -/
def allocate : OnIrp (Option (BitVec 64)) := do
  let a ← ask
  keep fun own => { own with taken := own.taken ++ a.pool.toList }
  return a.pool

/-- `IoMarkIrpPending`, and the IRP is left to a thread. -/
def store (k : PowerSlot) : OnIrp NTSTATUS := do
  change fun irp => { irp with marked := true }
  let irp ← look
  give (.slot k irp)
  return STATUS_PENDING

/-! ## 3. The FDO -/

/-- `FdoStartDevice`: `ThreadCreate` and `FdoD3ToD0` may fail. -/
def fdoStartDevice : OnIrp NTSTATUS := do
  let status ← fdoForwardIrpSynchronously
  if !NTSTATUS.ntSuccess status then return ← completeWith status
  let _ ← look
  let status ← work
  if !NTSTATUS.ntSuccess status then return ← completeWith status
  let status ← work
  if !NTSTATUS.ntSuccess status then return ← completeWith status
  complete

/-- `FdoQueryStopDevice` -/
def fdoQueryStopDevice : OnIrp NTSTATUS := passDownSuccess

/-- `FdoCancelStopDevice` -/
def fdoCancelStopDevice : OnIrp NTSTATUS := passDownSuccess

/-- `FdoStopDevice` -/
def fdoStopDevice : OnIrp NTSTATUS := passDownSuccess

/-- `FdoQueryRemoveDevice` -/
def fdoQueryRemoveDevice : OnIrp NTSTATUS := passDownSuccess

/-- `FdoCancelRemoveDevice` -/
def fdoCancelRemoveDevice : OnIrp NTSTATUS := passDownSuccess

/-- `FdoSurpriseRemoval` -/
def fdoSurpriseRemoval : OnIrp NTSTATUS := passDownSuccess

/-- `FdoRemoveDevice`; the FDO may be destroyed behind it. -/
def fdoRemoveDevice : OnIrp NTSTATUS := passDownSuccess

/-- `FdoQueryDeviceRelations` -/
def fdoQueryDeviceRelations (type : DeviceRelationType) : OnIrp NTSTATUS := do
  let _ ← look
  if type ≠ .busRelations then return ← passDown
  match ← allocate with
  | none => completeWith STATUS_NO_MEMORY
  | some relations =>
    setInformation relations
    setStatus STATUS_SUCCESS
    let status ← fdoForwardIrpSynchronously
    if !NTSTATUS.ntSuccess status then return ← completeWith status
    let irp ← look
    give (.completed irp)
    return status

/-- `FdoQueryCapabilities` -/
def fdoQueryCapabilities : OnIrp NTSTATUS := do
  let status ← fdoForwardIrpSynchronously
  if !NTSTATUS.ntSuccess status then return ← completeWith status
  let _ ← look
  complete

/-- `FdoDeviceUsageNotification`: it is completed as the lower driver has left it. -/
def fdoDeviceUsageNotification : OnIrp NTSTATUS := do
  let _ ← look
  let status ← fdoForwardIrpSynchronously
  let irp ← look
  give (.completed irp)
  return status

/-- `FdoQueryPnpDeviceState` -/
def fdoQueryPnpDeviceState (d : DeviceObject) : OnIrp NTSTATUS := do
  let irp ← look
  if irp.status = STATUS_SUCCESS ∨ irp.status = STATUS_NOT_SUPPORTED then
    let state := if irp.status = STATUS_SUCCESS then irp.information else 0
    setInformation (if d.notDisableable then state ||| PNP_DEVICE_NOT_DISABLEABLE else state)
    setStatus STATUS_SUCCESS
  passDown

/-- `FdoDispatchPnp` -/
def fdoDispatchPnp (d : DeviceObject) : PnpMinorFunction → OnIrp NTSTATUS
  | .startDevice => fdoStartDevice
  | .queryStopDevice => fdoQueryStopDevice
  | .cancelStopDevice => fdoCancelStopDevice
  | .stopDevice => fdoStopDevice
  | .queryRemoveDevice => fdoQueryRemoveDevice
  | .surpriseRemoval => fdoSurpriseRemoval
  | .removeDevice => fdoRemoveDevice
  | .cancelRemoveDevice => fdoCancelRemoveDevice
  | .queryDeviceRelations type => fdoQueryDeviceRelations type
  | .queryCapabilities => fdoQueryCapabilities
  | .deviceUsageNotification => fdoDeviceUsageNotification
  | .queryPnpDeviceState => fdoQueryPnpDeviceState d
  | _ => passDown

/-- `FdoDispatchPower` -/
def fdoDispatchPower (irp : PowerIrp) : OnIrp NTSTATUS :=
  match Xencons.fdoDispatchPower irp with
  | none => passDown
  | some k => store k

/-- `FdoDispatchDefault` -/
def fdoDispatchDefault : OnIrp NTSTATUS := passDown

/-- `FdoDispatch` -/
def fdoDispatch (d : DeviceObject) : IrpFunction → OnIrp NTSTATUS
  | .pnp minor => fdoDispatchPnp d minor
  | .power irp => fdoDispatchPower irp
  | _ => fdoDispatchDefault

/-! ## 4. A PDO -/

/-- `PdoStartDevice`: the interface is registered once, and `PdoD3ToD0` may fail. -/
def pdoStartDevice (d : DeviceObject) : OnIrp NTSTATUS := do
  if !d.linked then
    let status ← work
    if !NTSTATUS.ntSuccess status then return ← completeWith status
  let status ← work
  if !NTSTATUS.ntSuccess status then return ← completeWith status
  completeWith STATUS_SUCCESS

/-- `PdoQueryStopDevice` -/
def pdoQueryStopDevice : OnIrp NTSTATUS := completeWith STATUS_SUCCESS

/-- `PdoCancelStopDevice` -/
def pdoCancelStopDevice : OnIrp NTSTATUS := completeWith STATUS_SUCCESS

/-- `PdoStopDevice` -/
def pdoStopDevice : OnIrp NTSTATUS := completeWith STATUS_SUCCESS

/-- `PdoQueryRemoveDevice` -/
def pdoQueryRemoveDevice : OnIrp NTSTATUS := completeWith STATUS_SUCCESS

/-- `PdoCancelRemoveDevice` -/
def pdoCancelRemoveDevice : OnIrp NTSTATUS := completeWith STATUS_SUCCESS

/-- `PdoSurpriseRemoval` -/
def pdoSurpriseRemoval : OnIrp NTSTATUS := completeWith STATUS_SUCCESS

/-- `PdoRemoveDevice`; the PDO may be destroyed before. -/
def pdoRemoveDevice : OnIrp NTSTATUS := completeWith STATUS_SUCCESS

/-- `PdoEject` -/
def pdoEject : OnIrp NTSTATUS := completeWith STATUS_SUCCESS

/-- What the functions have in common that answer with a buffer. -/
def answerWithBuffer : OnIrp NTSTATUS := do
  match ← allocate with
  | none => completeWith STATUS_NO_MEMORY
  | some buffer =>
    setInformation buffer
    completeWith STATUS_SUCCESS

/-- `PdoQueryDeviceRelations` -/
def pdoQueryDeviceRelations (type : DeviceRelationType) : OnIrp NTSTATUS := do
  let irp ← look
  if type ≠ .targetDeviceRelation then return ← completeWith irp.status
  answerWithBuffer

/-- `PdoQueryCapabilities`: what it writes. -/
def DeviceCapabilities.pdo (c : DeviceCapabilities) : DeviceCapabilities where
  version := c.version
  deviceD1 := false
  deviceD2 := false
  lockSupported := false
  ejectSupported := true
  removable := true
  dockDevice := false
  uniqueID := true
  silentInstall := true
  rawDeviceOK := true
  surpriseRemovalOK := true
  hardwareDisabled := false
  noDisplayInUI := false
  address := 0xffffffff
  uiNumber := 0xffffffff
  deviceState := fun state =>
    match state with
    | .unspecified | .sleeping1 | .sleeping2 => c.deviceState state
    | .working => .d0
    | .sleeping3 | .hibernate | .shutdown => .d3
  systemWake := .unspecified
  deviceWake := .unspecified
  d1Latency := 0
  d2Latency := 0
  d3Latency := 0

/-- What it reports and what the threads of a PDO go by agree, wherever it reports anything. -/
theorem DeviceCapabilities.pdo_deviceState (c : DeviceCapabilities) (state : SystemPowerState) :
    c.pdo.deviceState state = devicePowerStateMap state ∨
      c.pdo.deviceState state = c.deviceState state := by
  cases state with
  | working | sleeping3 | hibernate | shutdown => exact .inl rfl
  | unspecified | sleeping1 | sleeping2 => exact .inr rfl

/-- `PdoQueryCapabilities` -/
def pdoQueryCapabilities : OnIrp NTSTATUS := do
  let irp ← look
  if irp.capabilities.version ≠ 1 then return ← completeWith STATUS_INVALID_PARAMETER
  change fun irp => { irp with capabilities := irp.capabilities.pdo }
  completeWith STATUS_SUCCESS

/-- `PdoQueryDeviceText` -/
def pdoQueryDeviceText : DeviceTextType → OnIrp NTSTATUS
  | .deviceTextDescription | .deviceTextLocationInformation => answerWithBuffer
  | .unknown => do
    setInformation 0
    completeWith STATUS_NOT_SUPPORTED

/-- `PdoReadConfig` -/
def pdoReadConfig : OnIrp NTSTATUS := completeWith STATUS_NOT_SUPPORTED

/-- `PdoWriteConfig` -/
def pdoWriteConfig : OnIrp NTSTATUS := completeWith STATUS_NOT_SUPPORTED

/-- `PdoQueryId` -/
def pdoQueryId : BusQueryIdType → OnIrp NTSTATUS
  | .busQueryInstanceID | .busQueryDeviceID | .busQueryHardwareIDs | .busQueryCompatibleIDs =>
    answerWithBuffer
  | .unknown => do
    setInformation 0
    completeWith STATUS_NOT_SUPPORTED

/-- `PdoQueryBusInformation` -/
def pdoQueryBusInformation : OnIrp NTSTATUS := answerWithBuffer

/-- `PdoDelegateIrp`, which is `FdoDelegateIrp`: the stack of the FDO gets an IRP of its own, with
    the status of this one. -/
def pdoDelegateIrp : OnIrp NTSTATUS := do
  let _ ← look
  let a ← ask
  if a.pool.isNone then return STATUS_NO_MEMORY
  let _ ← look
  work

/-- `PdoDeviceUsageNotification` -/
def pdoDeviceUsageNotification : OnIrp NTSTATUS := do
  let status ← pdoDelegateIrp
  completeWith status

/-- `PdoDispatchPnp` -/
def pdoDispatchPnp (d : DeviceObject) : PnpMinorFunction → OnIrp NTSTATUS
  | .startDevice => pdoStartDevice d
  | .queryStopDevice => pdoQueryStopDevice
  | .cancelStopDevice => pdoCancelStopDevice
  | .stopDevice => pdoStopDevice
  | .queryRemoveDevice => pdoQueryRemoveDevice
  | .cancelRemoveDevice => pdoCancelRemoveDevice
  | .surpriseRemoval => pdoSurpriseRemoval
  | .removeDevice => pdoRemoveDevice
  | .queryDeviceRelations type => pdoQueryDeviceRelations type
  | .queryCapabilities => pdoQueryCapabilities
  | .queryDeviceText type => pdoQueryDeviceText type
  | .readConfig => pdoReadConfig
  | .writeConfig => pdoWriteConfig
  | .queryId type => pdoQueryId type
  | .queryBusInformation => pdoQueryBusInformation
  | .deviceUsageNotification => pdoDeviceUsageNotification
  | .eject => pdoEject
  | .queryPnpDeviceState | .unknown => complete

/-- `PdoSetPower` -/
def pdoSetPower (irp : PowerIrp) : OnIrp NTSTATUS :=
  if irp.shutdownType.atLeastShutdown then do
    setStatus STATUS_SUCCESS
    complete
  else
    match powerSlotOf irp.powerType with
    | none => complete
    | some k => store k

/-- `PdoQueryPower` -/
def pdoQueryPower : OnIrp NTSTATUS := do
  setStatus STATUS_SUCCESS
  complete

/-- `PdoDispatchPower` -/
def pdoDispatchPower (irp : PowerIrp) : OnIrp NTSTATUS :=
  match irp.minorFunction with
  | .setPower => pdoSetPower irp
  | .queryPower => pdoQueryPower
  | .waitWake | .powerSequence => complete

/-- `PdoDispatchCreate` -/
def pdoDispatchCreate : OnIrp NTSTATUS := do
  let _ ← look
  let status ← work
  completeWith status

/-- `PdoDispatchCleanup` -/
def pdoDispatchCleanup : OnIrp NTSTATUS := do
  let _ ← look
  let status ← work
  completeWith status

/-- `PdoDispatchClose` -/
def pdoDispatchClose : OnIrp NTSTATUS := completeWith STATUS_SUCCESS

/-- `PutQueue` of a console: it has the IRP where it returns `STATUS_PENDING`, and marks it. -/
def putQueue : OnIrp NTSTATUS := do
  let irp ← look
  let status ← work
  if status = STATUS_PENDING then give (.queued { irp with marked := true })
  return status

/-- `PdoDispatchReadWriteControl` -/
def pdoDispatchReadWriteControl : OnIrp NTSTATUS := do
  let status ← putQueue
  if status ≠ STATUS_PENDING then return ← completeWith status
  return status

/-- `PdoDispatchDefault` -/
def pdoDispatchDefault : OnIrp NTSTATUS := complete

/-- `PdoDispatch` -/
def pdoDispatch (d : DeviceObject) : IrpFunction → OnIrp NTSTATUS
  | .pnp minor => pdoDispatchPnp d minor
  | .power irp => pdoDispatchPower irp
  | .create => pdoDispatchCreate
  | .cleanup => pdoDispatchCleanup
  | .close => pdoDispatchClose
  | .read | .write | .deviceControl => pdoDispatchReadWriteControl
  | .unknown => pdoDispatchDefault

/-! ## 5. The driver, and the threads -/

/-- What is answered for a device object that is only waiting to be deleted. -/
def deletedStatus : IrpFunction → NTSTATUS
  | .pnp .surpriseRemoval | .pnp .removeDevice => STATUS_SUCCESS
  | _ => STATUS_NO_SUCH_DEVICE

/-- `Dispatch` -/
def dispatch (o : PowerTarget) (d : DeviceObject) : OnIrp NTSTATUS := do
  let irp ← look
  if d.deleted then return ← completeWith (deletedStatus irp.function)
  match o with
  | .fdo => fdoDispatch d irp.function
  | .pdo _ => pdoDispatch d irp.function

/-- `__FdoSetDevicePowerUp` -/
def fdoSetDevicePowerUp : OnIrp NTSTATUS := do
  let status ← fdoForwardIrpSynchronously
  if !NTSTATUS.ntSuccess status then return ← completeWith status
  let status ← work
  completeWith status

/-- `__FdoSetDevicePowerDown` -/
def fdoSetDevicePowerDown : OnIrp NTSTATUS := passDown

/-- `__FdoSetDevicePower` -/
def fdoSetDevicePower (d : DeviceObject) (state : RequestedPowerState) : OnIrp NTSTATUS := do
  let _ ← look
  if state.ordinal = d.devicePowerState.ordinal then return ← passDown
  if state.ordinal < d.devicePowerState.ordinal then fdoSetDevicePowerUp
  else fdoSetDevicePowerDown

/-- `__FdoQueryDevicePowerUp` -/
def fdoQueryDevicePowerUp : OnIrp NTSTATUS := do
  let status ← fdoForwardIrpSynchronously
  completeWith status

/-- `__FdoQueryDevicePowerDown` -/
def fdoQueryDevicePowerDown : OnIrp NTSTATUS := passDown

/-- `__FdoQueryDevicePower` -/
def fdoQueryDevicePower (d : DeviceObject) (state : RequestedPowerState) : OnIrp NTSTATUS := do
  let _ ← look
  if state.ordinal = d.devicePowerState.ordinal then return ← passDown
  if state.ordinal < d.devicePowerState.ordinal then fdoQueryDevicePowerUp
  else fdoQueryDevicePowerDown

/-- `__PdoSetDevicePower` -/
def pdoSetDevicePower (d : DeviceObject) (state : RequestedPowerState) : OnIrp NTSTATUS := do
  let _ ← look
  if state.ordinal < d.devicePowerState.ordinal then
    let _ ← work
  completeWith STATUS_SUCCESS

/-- What `FdoDevicePower` and `PdoDevicePower` do with an IRP; `none` is `ASSERT(FALSE)`. -/
def devicePower (d : DeviceObject) (state : RequestedPowerState) :
    PowerTarget → PowerMinorFunction → Option (OnIrp NTSTATUS)
  | .fdo, .setPower => some (fdoSetDevicePower d state)
  | .fdo, .queryPower => some (fdoQueryDevicePower d state)
  | .fdo, .waitWake | .fdo, .powerSequence => none
  | .pdo _, _ => some (pdoSetDevicePower d state)

/-! ## 6. What may become of an IRP -/

/-- The functions that the FDO knows what to do with. -/
def IrpFunction.fdoHandles : IrpFunction → Bool
  | .pnp .startDevice | .pnp .queryStopDevice | .pnp .cancelStopDevice | .pnp .stopDevice
  | .pnp .queryRemoveDevice | .pnp .cancelRemoveDevice | .pnp .surpriseRemoval
  | .pnp .removeDevice | .pnp (.queryDeviceRelations .busRelations) | .pnp .queryCapabilities
  | .pnp .deviceUsageNotification | .pnp .queryPnpDeviceState => true
  | .power irp => (Xencons.fdoDispatchPower irp).isSome
  | _ => false

/-- The functions that a PDO knows what to do with. -/
def IrpFunction.pdoHandles : IrpFunction → Bool
  | .pnp .queryPnpDeviceState | .pnp .unknown | .unknown => false
  | .pnp (.queryDeviceRelations type) => decide (type = .targetDeviceRelation)
  | .power irp =>
    match irp.minorFunction with
    | .setPower => irp.shutdownType.atLeastShutdown || (powerSlotOf irp.powerType).isSome
    | .queryPower => true
    | .waitWake | .powerSequence => false
  | _ => true

/-- What the lower driver may see of an IRP: as it came, or with success in it, and with what has
    been taken from the pool for it. -/
def Seen (irp f : Irp) (own : Hands) : Prop :=
  f.function = irp.function ∧ (f = irp ∨ f.status = STATUS_SUCCESS) ∧
    (own.taken = [] ∨ own.taken = [f.information])

/-- **An IRP of the FDO**: the lower driver sees it just once, unless it is failed for want of
    memory or left to a thread; and what the FDO has nothing to do with is passed as it came. -/
def FdoRight (irp : Irp) (d : Disposal) (returned : NTSTATUS) (own : Hands) : Prop :=
  (irp.function.fdoHandles = false → d = .passed irp returned) ∧
  match d with
  | .completed irp' => returned = irp'.status ∧
    (own = ⟨[], []⟩ ∧ returned = STATUS_NO_MEMORY ∨ ∃ f, own.forwarded = [f] ∧ Seen irp f own)
  | .passed f r => returned = r ∧ own.forwarded = [] ∧ Seen irp f own
  | .slot k f => returned = STATUS_PENDING ∧ own = ⟨[], []⟩ ∧ f = { irp with marked := true } ∧
    ∃ p, irp.function = .power p ∧ Xencons.fdoDispatchPower p = some k
  | .queued _ => False

/-- **An IRP of a PDO**: the lower driver never sees it; what has been taken from the pool goes with
    success, and what the PDO has nothing to do with is completed as it came. -/
def PdoRight (irp : Irp) (d : Disposal) (returned : NTSTATUS) (own : Hands) : Prop :=
  own.forwarded = [] ∧
  (irp.function.pdoHandles = false → d = .completed irp) ∧
  match d with
  | .completed irp' => returned = irp'.status ∧
    (own.taken = [] ∨ own.taken = [irp'.information] ∧ returned = STATUS_SUCCESS)
  | .passed _ _ => False
  | .slot k f => returned = STATUS_PENDING ∧ own.taken = [] ∧ f = { irp with marked := true } ∧
    ∃ p, irp.function = .power p ∧ Xencons.pdoDispatchPower p = some k
  | .queued f => returned = STATUS_PENDING ∧ own.taken = [] ∧ f = { irp with marked := true } ∧
    irp.function ∈ [.read, .write, .deviceControl]

/-- **An IRP of a device object that is waiting to be deleted.** -/
def DeletedRight (irp : Irp) (d : Disposal) (returned : NTSTATUS) (own : Hands) : Prop :=
  own = ⟨[], []⟩ ∧ returned = deletedStatus irp.function ∧
    d = .completed { irp with status := returned }

/-- **An IRP that a thread has**: it goes on from there. -/
def ThreadRight (irp : Irp) (d : Disposal) (returned : NTSTATUS) (own : Hands) : Prop :=
  own.taken = [] ∧
  match d with
  | .completed irp' => returned = irp'.status ∧ (own.forwarded = [] ∨ own.forwarded = [irp])
  | .passed f r => returned = r ∧ own.forwarded = [] ∧ f = irp
  | .slot _ _ | .queued _ => False

section Rules

variable {s : Entrusted Irp Disposal Hands} {D : Disposal → NTSTATUS → Hands → Prop}

/-- An IRP as it comes. -/
def arrived (irp : Irp) : Entrusted Irp Disposal Hands := .of irp ⟨[], []⟩

theorem complete_yields (h : s.Mine) (hD : D (.completed s.thing) s.thing.status s.own) :
    complete.Yields (Disposed D) s :=
  .bind (look_yields h (give_disposed h hD))

theorem completeWith_yields {status : NTSTATUS} (h : s.Mine)
    (hD : D (.completed { s.thing with status := status }) status s.own) :
    (completeWith status).Yields (Disposed D) s := by
  refine .bind (change_yields h fun h' => ?_)
  exact .bind (look_yields h' (give_disposed h' hD))

theorem passDown_yields (h : s.Mine) (hD : ∀ r, D (.passed s.thing r) r s.own) :
    passDown.Yields (Disposed D) s := by
  refine .bind (look_yields h ?_)
  refine .ask_bind fun _ => ?_
  exact give_disposed h (hD _)

theorem passDownSuccess_yields (h : s.Mine)
    (hD : ∀ r, D (.passed { s.thing with status := STATUS_SUCCESS } r) r s.own) :
    passDownSuccess.Yields (Disposed D) s :=
  .bind (change_yields h fun h' => passDown_yields h' hD)

theorem store_yields {k : PowerSlot} (h : s.Mine)
    (hD : D (.slot k { s.thing with marked := true }) STATUS_PENDING s.own) :
    (store k).Yields (Disposed D) s := by
  refine .bind (change_yields h fun h' => ?_)
  exact .bind (look_yields h' (give_disposed h' hD))

/-- The IRP behind a forward. -/
def IrpAnswer.behind (a : IrpAnswer) (s : Entrusted Irp Disposal Hands) :
    Entrusted Irp Disposal Hands :=
  { s with
    thing := { s.thing with
      status := a.status, information := a.information, capabilities := a.capabilities }
    own := { s.own with forwarded := s.own.forwarded ++ [s.thing] } }

theorem forward_yields {Q : NTSTATUS → Entrusted Irp Disposal Hands → Prop} (h : s.Mine)
    (hQ : ∀ a : IrpAnswer, (a.behind s).Mine → Q a.status (a.behind s)) :
    fdoForwardIrpSynchronously.Yields Q s := by
  refine .bind (look_yields h ?_)
  refine .bind (keep_yields h fun h' => ?_)
  refine .ask_bind fun a => ?_
  refine .bind (change_yields h' fun h'' => ?_)
  exact .pure (hQ a h'')

theorem work_yields {Q : NTSTATUS → Entrusted Irp Disposal Hands → Prop}
    (hQ : ∀ status, Q status s) : work.Yields Q s := .bind (.ask fun a => .pure (hQ a.status))

theorem allocate_yields {Q : Option (BitVec 64) → Entrusted Irp Disposal Hands → Prop} (h : s.Mine)
    (hnone : s.Mine → Q none s)
    (hsome : ∀ b, { s with own := { s.own with taken := s.own.taken ++ [b] } }.Mine →
      Q (some b) { s with own := { s.own with taken := s.own.taken ++ [b] } }) :
    allocate.Yields Q s := by
  refine .ask_bind fun a => ?_
  refine .bind (keep_yields h fun h' => ?_)
  refine .pure ?_
  cases ha : a.pool with
  | none =>
      rw [ha] at h'
      simpa [ha] using hnone h
  | some b =>
      rw [ha] at h'
      exact hsome b h'

end Rules

/-! ## 7. The FDO -/

section Fdo

variable {irp : Irp} {s : Entrusted Irp Disposal Hands}

theorem arrived_mine : (arrived irp).Mine := mine_of _ _

/-- The lower driver has had the IRP, once. -/
structure Forwarded (irp : Irp) (s : Entrusted Irp Disposal Hands) : Prop where
  mine : s.Mine
  handles : irp.function.fdoHandles = true
  once : ∃ f, s.own.forwarded = [f] ∧ Seen irp f s.own

/-- It is completed then, whatever has become of it. -/
theorem FdoRight.forwarded {irp' : Irp} (h : Forwarded irp s) :
    FdoRight irp (.completed irp') irp'.status s.own :=
  ⟨fun hno => absurd h.handles (by simp [hno]), rfl, .inr h.once⟩

theorem Forwarded.complete (h : Forwarded irp s) :
    complete.Yields (Disposed (FdoRight irp)) s := complete_yields h.mine (.forwarded h)

theorem Forwarded.completeWith (h : Forwarded irp s) (status : NTSTATUS) :
    (completeWith status).Yields (Disposed (FdoRight irp)) s :=
  completeWith_yields h.mine (@FdoRight.forwarded _ _ { s.thing with status := status } h)

/-- **A forward**, of the IRP as it came or with success in it. -/
theorem forward_forwarded {Q : NTSTATUS → Entrusted Irp Disposal Hands → Prop} (hm : s.Mine)
    (hh : irp.function.fdoHandles = true) (hs : s.own.forwarded = []) (hseen : Seen irp s.thing s.own)
    (hQ : ∀ a : IrpAnswer, Forwarded irp (a.behind s) → Q a.status (a.behind s)) :
    fdoForwardIrpSynchronously.Yields Q s :=
  forward_yields hm fun a h' => hQ a ⟨h', hh, s.thing, by simp [IrpAnswer.behind, hs], hseen⟩

theorem forward_arrived {Q : NTSTATUS → Entrusted Irp Disposal Hands → Prop}
    (hh : irp.function.fdoHandles = true)
    (hQ : ∀ a : IrpAnswer, Forwarded irp (a.behind (arrived irp)) →
      Q a.status (a.behind (arrived irp))) :
    fdoForwardIrpSynchronously.Yields Q (arrived irp) :=
  forward_forwarded arrived_mine hh rfl ⟨rfl, .inl rfl, .inl rfl⟩ hQ

theorem passDown_right : passDown.Yields (Disposed (FdoRight irp)) (arrived irp) :=
  passDown_yields arrived_mine fun _ => ⟨fun _ => rfl, rfl, rfl, rfl, .inl rfl, .inl rfl⟩

theorem passDownSuccess_right (hh : irp.function.fdoHandles = true) :
    passDownSuccess.Yields (Disposed (FdoRight irp)) (arrived irp) :=
  passDownSuccess_yields arrived_mine fun _ =>
    ⟨fun hno => absurd hh (by simp [hno]), rfl, rfl, rfl, .inr rfl, .inl rfl⟩

theorem fdoStartDevice_right (hh : irp.function.fdoHandles = true) :
    fdoStartDevice.Yields (Disposed (FdoRight irp)) (arrived irp) := by
  refine .bind (forward_arrived hh fun a h => .ite (fun _ => h.completeWith _) fun _ => ?_)
  refine .bind (look_yields h.mine ?_)
  refine .bind (work_yields fun status => ?_)
  refine .ite (fun _ => h.completeWith _) fun _ => ?_
  refine .bind (work_yields fun status => ?_)
  exact .ite (fun _ => h.completeWith _) fun _ => h.complete

theorem fdoQueryDeviceRelations_right {type : DeviceRelationType}
    (hf : irp.function = .pnp (.queryDeviceRelations type)) :
    (fdoQueryDeviceRelations type).Yields (Disposed (FdoRight irp)) (arrived irp) := by
  refine .bind (look_yields arrived_mine (.ite (fun _ => passDown_right) fun htype => ?_))
  have hh : irp.function.fdoHandles = true := by
    obtain rfl : type = .busRelations := Decidable.not_not.mp htype
    rw [hf]
    rfl
  refine .bind (allocate_yields arrived_mine (fun h => ?_) fun b h => ?_)
  · exact completeWith_yields h ⟨fun hno => absurd hh (by simp [hno]), rfl, .inl ⟨rfl, rfl⟩⟩
  · refine .bind (change_yields h fun h => ?_)
    refine .bind (change_yields h fun h => ?_)
    refine .bind (forward_forwarded h hh rfl ⟨rfl, .inr rfl, .inr rfl⟩ fun a h => ?_)
    refine .ite (fun _ => h.completeWith _) fun _ => ?_
    exact .bind (look_yields h.mine (give_disposed h.mine (.forwarded h)))

theorem fdoQueryCapabilities_right (hh : irp.function.fdoHandles = true) :
    fdoQueryCapabilities.Yields (Disposed (FdoRight irp)) (arrived irp) := by
  refine .bind (forward_arrived hh fun a h => .ite (fun _ => h.completeWith _) fun _ => ?_)
  exact .bind (look_yields h.mine h.complete)

theorem fdoDeviceUsageNotification_right (hh : irp.function.fdoHandles = true) :
    fdoDeviceUsageNotification.Yields (Disposed (FdoRight irp)) (arrived irp) := by
  refine .bind (look_yields arrived_mine ?_)
  refine .bind (forward_arrived hh fun a h => ?_)
  exact .bind (look_yields h.mine (give_disposed h.mine (.forwarded h)))

theorem fdoQueryPnpDeviceState_right (d : DeviceObject) (hh : irp.function.fdoHandles = true) :
    (fdoQueryPnpDeviceState d).Yields (Disposed (FdoRight irp)) (arrived irp) := by
  refine .bind (look_yields arrived_mine (.ite (fun _ => ?_) fun _ => passDown_right))
  refine .bind (change_yields arrived_mine fun h => ?_)
  refine .bind (change_yields h fun h => ?_)
  exact passDown_yields h fun _ =>
    ⟨fun hno => absurd hh (by simp [hno]), rfl, rfl, rfl, .inr rfl, .inl rfl⟩

theorem fdoDispatchPnp_right (d : DeviceObject) {minor : PnpMinorFunction}
    (hf : irp.function = .pnp minor) :
    (fdoDispatchPnp d minor).Yields (Disposed (FdoRight irp)) (arrived irp) := by
  cases minor with
  | startDevice => exact fdoStartDevice_right (by rw [hf]; rfl)
  | queryStopDevice | cancelStopDevice | stopDevice | queryRemoveDevice | surpriseRemoval
  | removeDevice | cancelRemoveDevice => exact passDownSuccess_right (by rw [hf]; rfl)
  | queryDeviceRelations type => exact fdoQueryDeviceRelations_right hf
  | queryCapabilities => exact fdoQueryCapabilities_right (by rw [hf]; rfl)
  | deviceUsageNotification => exact fdoDeviceUsageNotification_right (by rw [hf]; rfl)
  | queryPnpDeviceState => exact fdoQueryPnpDeviceState_right d (by rw [hf]; rfl)
  | queryDeviceText | readConfig | writeConfig | queryId | queryBusInformation | eject | unknown =>
      exact passDown_right

theorem fdoDispatchPower_right {p : PowerIrp} (hf : irp.function = .power p) :
    (fdoDispatchPower p).Yields (Disposed (FdoRight irp)) (arrived irp) := by
  unfold fdoDispatchPower
  cases hk : Xencons.fdoDispatchPower p with
  | none => exact passDown_right
  | some k =>
      have hh : irp.function.fdoHandles = true := by
        rw [hf]
        simp [IrpFunction.fdoHandles, hk]
      exact store_yields arrived_mine
        ⟨fun hno => absurd hh (by simp [hno]), rfl, rfl, rfl, p, hf, hk⟩

theorem fdoDispatch_right (d : DeviceObject) :
    (fdoDispatch d irp.function).Yields (Disposed (FdoRight irp)) (arrived irp) := by
  cases hf : irp.function with
  | pnp minor => exact fdoDispatchPnp_right d hf
  | power p => exact fdoDispatchPower_right hf
  | create | cleanup | close | read | write | deviceControl | unknown => exact passDown_right

end Fdo

/-! ## 8. A PDO -/

section Pdo

variable {irp : Irp} {s : Entrusted Irp Disposal Hands}

/-- Nothing has been taken from the pool. -/
theorem pdoCompleteWith_right (hm : s.Mine) (hs : s.own = ⟨[], []⟩)
    (hh : irp.function.pdoHandles = true) (status : NTSTATUS) :
    (completeWith status).Yields (Disposed (PdoRight irp)) s := by
  refine completeWith_yields hm ⟨?_, fun hno => absurd hh (by simp [hno]), rfl, .inl ?_⟩
  · rw [hs]
  · rw [hs]

theorem complete_right : complete.Yields (Disposed (PdoRight irp)) (arrived irp) :=
  complete_yields arrived_mine ⟨rfl, fun _ => rfl, rfl, .inl rfl⟩

theorem pdoStartDevice_right (d : DeviceObject) (hh : irp.function.pdoHandles = true) :
    (pdoStartDevice d).Yields (Disposed (PdoRight irp)) (arrived irp) := by
  have hend (status : NTSTATUS) : (completeWith status).Yields (Disposed (PdoRight irp))
      (arrived irp) := pdoCompleteWith_right arrived_mine rfl hh status
  have hwake : (work >>= fun status => if !NTSTATUS.ntSuccess status then completeWith status
      else completeWith STATUS_SUCCESS).Yields (Disposed (PdoRight irp)) (arrived irp) :=
    .bind (work_yields fun _ => .ite (fun _ => hend _) fun _ => hend _)
  refine .ite (fun _ => ?_) fun _ => hwake
  exact .bind (work_yields fun _ => .ite (fun _ => hend _) fun _ => hwake)

/-- **With a buffer, or without memory.** -/
theorem answerWithBuffer_right (hh : irp.function.pdoHandles = true) :
    answerWithBuffer.Yields (Disposed (PdoRight irp)) (arrived irp) := by
  refine .bind (allocate_yields arrived_mine (fun h => pdoCompleteWith_right h rfl hh _) fun b h => ?_)
  refine .bind (change_yields h fun h => completeWith_yields h ?_)
  exact ⟨rfl, fun hno => absurd hh (by simp [hno]), rfl, .inr ⟨rfl, rfl⟩⟩

theorem pdoQueryDeviceRelations_right {type : DeviceRelationType}
    (hf : irp.function = .pnp (.queryDeviceRelations type)) :
    (pdoQueryDeviceRelations type).Yields (Disposed (PdoRight irp)) (arrived irp) := by
  refine .bind (look_yields arrived_mine (.ite (fun _ => ?_) fun htype => ?_))
  · exact completeWith_yields arrived_mine ⟨rfl, fun _ => rfl, rfl, .inl rfl⟩
  · refine answerWithBuffer_right ?_
    rw [hf]
    simpa [IrpFunction.pdoHandles] using htype

theorem pdoQueryCapabilities_right (hh : irp.function.pdoHandles = true) :
    pdoQueryCapabilities.Yields (Disposed (PdoRight irp)) (arrived irp) := by
  refine .bind (look_yields arrived_mine (.ite (fun _ => ?_) fun _ => ?_))
  · exact pdoCompleteWith_right arrived_mine rfl hh _
  · exact .bind (change_yields arrived_mine fun h => pdoCompleteWith_right h rfl hh _)

/-- A type that is not known. -/
theorem unknownType_right (hh : irp.function.pdoHandles = true) :
    (do setInformation 0; completeWith STATUS_NOT_SUPPORTED : OnIrp NTSTATUS).Yields
      (Disposed (PdoRight irp)) (arrived irp) :=
  .bind (change_yields arrived_mine fun h => pdoCompleteWith_right h rfl hh _)

theorem pdoQueryDeviceText_right (type : DeviceTextType) (hh : irp.function.pdoHandles = true) :
    (pdoQueryDeviceText type).Yields (Disposed (PdoRight irp)) (arrived irp) := by
  cases type with
  | deviceTextDescription | deviceTextLocationInformation => exact answerWithBuffer_right hh
  | unknown => exact unknownType_right hh

theorem pdoQueryId_right (type : BusQueryIdType) (hh : irp.function.pdoHandles = true) :
    (pdoQueryId type).Yields (Disposed (PdoRight irp)) (arrived irp) := by
  cases type with
  | busQueryDeviceID | busQueryHardwareIDs | busQueryCompatibleIDs | busQueryInstanceID =>
      exact answerWithBuffer_right hh
  | unknown => exact unknownType_right hh

theorem pdoDeviceUsageNotification_right (hh : irp.function.pdoHandles = true) :
    pdoDeviceUsageNotification.Yields (Disposed (PdoRight irp)) (arrived irp) := by
  have hend (status : NTSTATUS) : (completeWith status).Yields (Disposed (PdoRight irp))
      (arrived irp) := pdoCompleteWith_right arrived_mine rfl hh status
  refine .bind ?_
  refine .bind (look_yields arrived_mine ?_)
  refine .ask_bind fun a => .ite (fun _ => ?_) fun _ => ?_
  · exact .pure (hend _)
  · exact .bind (look_yields arrived_mine (work_yields hend))

theorem pdoDispatchPnp_right (d : DeviceObject) {minor : PnpMinorFunction}
    (hf : irp.function = .pnp minor) :
    (pdoDispatchPnp d minor).Yields (Disposed (PdoRight irp)) (arrived irp) := by
  cases minor with
  | startDevice => exact pdoStartDevice_right d (by rw [hf]; rfl)
  | queryStopDevice | cancelStopDevice | stopDevice | queryRemoveDevice | cancelRemoveDevice
  | surpriseRemoval | removeDevice | readConfig | writeConfig | eject =>
      exact pdoCompleteWith_right arrived_mine rfl (by rw [hf]; rfl) _
  | queryDeviceRelations type => exact pdoQueryDeviceRelations_right hf
  | queryCapabilities => exact pdoQueryCapabilities_right (by rw [hf]; rfl)
  | queryDeviceText type => exact pdoQueryDeviceText_right type (by rw [hf]; rfl)
  | queryId type => exact pdoQueryId_right type (by rw [hf]; rfl)
  | queryBusInformation => exact answerWithBuffer_right (by rw [hf]; rfl)
  | deviceUsageNotification => exact pdoDeviceUsageNotification_right (by rw [hf]; rfl)
  | queryPnpDeviceState | unknown => exact complete_right

theorem pdoSetPower_right {p : PowerIrp} (hf : irp.function = .power p)
    (hminor : p.minorFunction = .setPower) :
    (pdoSetPower p).Yields (Disposed (PdoRight irp)) (arrived irp) := by
  have hhandles : irp.function.pdoHandles =
      (p.shutdownType.atLeastShutdown || (powerSlotOf p.powerType).isSome) := by
    rw [hf]
    simp [IrpFunction.pdoHandles, hminor]
  refine .ite (fun hshutdown => ?_) fun hshutdown => ?_
  · have hh : irp.function.pdoHandles = true := by simp [hhandles, hshutdown]
    exact .bind (change_yields arrived_mine fun h =>
      complete_yields h ⟨rfl, fun hno => absurd hh (by simp [hno]), rfl, .inl rfl⟩)
  · cases hk : powerSlotOf p.powerType with
    | none => exact complete_right
    | some k =>
        have hh : irp.function.pdoHandles = true := by simp [hhandles, hk]
        refine store_yields arrived_mine
          ⟨rfl, fun hno => absurd hh (by simp [hno]), rfl, rfl, rfl, p, hf, ?_⟩
        simp [Xencons.pdoDispatchPower, hminor, Xencons.pdoSetPower, hshutdown, hk]

theorem pdoDispatchPower_right {p : PowerIrp} (hf : irp.function = .power p) :
    (pdoDispatchPower p).Yields (Disposed (PdoRight irp)) (arrived irp) := by
  unfold pdoDispatchPower
  cases hminor : p.minorFunction with
  | setPower => exact pdoSetPower_right hf hminor
  | queryPower =>
      have hh : irp.function.pdoHandles = true := by
        rw [hf]
        simp [IrpFunction.pdoHandles, hminor]
      exact .bind (change_yields arrived_mine fun h =>
        complete_yields h ⟨rfl, fun hno => absurd hh (by simp [hno]), rfl, .inl rfl⟩)
  | waitWake | powerSequence => exact complete_right

/-- The console's status, whatever it is. -/
theorem pdoDispatchCreate_right (hh : irp.function.pdoHandles = true) :
    pdoDispatchCreate.Yields (Disposed (PdoRight irp)) (arrived irp) := by
  refine .bind (look_yields arrived_mine ?_)
  exact .bind (work_yields fun _ => pdoCompleteWith_right arrived_mine rfl hh _)

theorem pdoDispatchReadWriteControl_right
    (hf : irp.function ∈ [IrpFunction.read, .write, .deviceControl]) :
    pdoDispatchReadWriteControl.Yields (Disposed (PdoRight irp)) (arrived irp) := by
  have hh : irp.function.pdoHandles = true := by
    simp only [List.mem_cons, List.not_mem_nil, or_false] at hf
    rcases hf with hf | hf | hf <;> rw [hf] <;> rfl
  refine .bind ?_
  refine .bind (look_yields arrived_mine ?_)
  refine .bind (work_yields fun status => ?_)
  refine .ite (fun hpending => ?_) fun hpending => ?_
  · -- the console has the IRP, and nothing is done with it
    refine .bind (give_yields arrived_mine ?_)
    refine .pure (.ite (fun hno => absurd hpending hno) fun _ => ?_)
    exact .pure ⟨rfl, _, rfl, rfl, fun hno => absurd hh (by simp [hno]), hpending, rfl, rfl, hf⟩
  · refine .pure (.ite (fun _ => ?_) fun hno => absurd hpending hno)
    exact pdoCompleteWith_right arrived_mine rfl hh _

theorem pdoDispatch_right (d : DeviceObject) :
    (pdoDispatch d irp.function).Yields (Disposed (PdoRight irp)) (arrived irp) := by
  cases hf : irp.function with
  | pnp minor => exact pdoDispatchPnp_right d hf
  | power p => exact pdoDispatchPower_right hf
  | create | cleanup => exact pdoDispatchCreate_right (by rw [hf]; rfl)
  | close => exact pdoCompleteWith_right arrived_mine rfl (by rw [hf]; rfl) _
  | read | write | deviceControl => exact pdoDispatchReadWriteControl_right (by simp [hf])
  | unknown => exact complete_right

end Pdo

/-! ## 9. Every IRP -/

section Threads

variable {irp : Irp} (d : DeviceObject) (state : RequestedPowerState)

theorem passDown_threadRight : passDown.Yields (Disposed (ThreadRight irp)) (arrived irp) :=
  passDown_yields arrived_mine fun _ => ⟨rfl, rfl, rfl, rfl⟩

theorem forwarded_threadRight (a : IrpAnswer) (status : NTSTATUS)
    (h : (a.behind (arrived irp)).Mine) :
    (completeWith status).Yields (Disposed (ThreadRight irp)) (a.behind (arrived irp)) :=
  completeWith_yields h ⟨rfl, rfl, .inr rfl⟩

theorem fdoSetDevicePower_right :
    (fdoSetDevicePower d state).Yields (Disposed (ThreadRight irp)) (arrived irp) := by
  refine .bind (look_yields arrived_mine (.ite (fun _ => passDown_threadRight) fun _ => ?_))
  refine .ite (fun _ => ?_) fun _ => passDown_threadRight
  refine .bind (forward_yields arrived_mine fun a h => ?_)
  refine .ite (fun _ => forwarded_threadRight a _ h) fun _ => ?_
  exact .bind (work_yields fun status => forwarded_threadRight a status h)

theorem fdoQueryDevicePower_right :
    (fdoQueryDevicePower d state).Yields (Disposed (ThreadRight irp)) (arrived irp) := by
  refine .bind (look_yields arrived_mine (.ite (fun _ => passDown_threadRight) fun _ => ?_))
  refine .ite (fun _ => ?_) fun _ => passDown_threadRight
  exact .bind (forward_yields arrived_mine fun a h => forwarded_threadRight a _ h)

theorem pdoSetDevicePower_right :
    (pdoSetDevicePower d state).Yields (Disposed (ThreadRight irp)) (arrived irp) := by
  have hend : (completeWith STATUS_SUCCESS).Yields (Disposed (ThreadRight irp)) (arrived irp) :=
    completeWith_yields arrived_mine ⟨rfl, rfl, .inl rfl⟩
  refine .bind (look_yields arrived_mine (.ite (fun _ => ?_) fun _ => hend))
  exact .bind (work_yields fun _ => hend)

/-- **What is left to the thread, it knows what to do with.** -/
theorem devicePower_right {o : PowerTarget} {p : PowerIrp}
    (h : dispatchPower o p = some .devicePowerIrp) :
    ∃ program, devicePower d state o p.minorFunction = some program ∧
      program.Yields (Disposed (ThreadRight irp)) (arrived irp) := by
  cases o with
  | pdo i => exact ⟨_, rfl, pdoSetDevicePower_right d state⟩
  | fdo =>
      have hhandler := powerHandler_isSome h
      cases hm : p.minorFunction with
      | setPower => exact ⟨_, rfl, fdoSetDevicePower_right d state⟩
      | queryPower => exact ⟨_, rfl, fdoQueryDevicePower_right d state⟩
      | waitWake | powerSequence =>
          rw [hm] at hhandler
          cases hhandler

end Threads

/-- What is to become of an IRP for a device object. -/
def Right (o : PowerTarget) (d : DeviceObject) (irp : Irp) : Disposal → NTSTATUS → Hands → Prop :=
  if d.deleted then DeletedRight irp
  else
    match o with
    | .fdo => FdoRight irp
    | .pdo _ => PdoRight irp

theorem dispatch_right (o : PowerTarget) (d : DeviceObject) (irp : Irp) :
    (dispatch o d).Yields (Disposed (Right o d irp)) (arrived irp) := by
  refine .bind (look_yields arrived_mine (.ite (fun hdeleted => ?_) fun hdeleted => ?_))
  · refine completeWith_yields arrived_mine ?_
    simp only [Right, hdeleted, if_true]
    exact ⟨rfl, rfl, rfl⟩
  · cases o with
    | fdo =>
        simp only [Right, hdeleted]
        exact fdoDispatch_right d
    | pdo i =>
        simp only [Right, hdeleted]
        exact pdoDispatch_right d

/-- Whoever is left an IRP in a slot was to have it. -/
theorem Right.slot {o : PowerTarget} {d : DeviceObject} {irp f : Irp} {k : PowerSlot}
    {returned : NTSTATUS} {own : Hands} (h : Right o d irp (.slot k f) returned own) :
    ∃ p, irp.function = .power p ∧ dispatchPower o p = some k := by
  unfold Right at h
  split at h
  · exact absurd h.2.2 nofun
  · cases o with
    | fdo => exact h.2.2.2.2
    | pdo i => exact h.2.2.2.2.2

/-- **Every IRP goes somewhere, once.** Whatever comes to a device object, in whatever state and
    whatever is answered, `Dispatch` returns; the IRP has been completed, passed to the lower driver
    or left to a thread or a console, as is right for the device object, and has not been touched
    since. Where it has been left to the thread for device power IRPs, that one knows what to do with
    it, and completes it or passes it on. -/
theorem dispatch_settles (o : PowerTarget) (d : DeviceObject) (irp : Irp) (tape : Nat → IrpAnswer) :
    ∃ returned n s, dispatch o d tape 0 (arrived irp) = .returns (returned, n, s) ∧ s.faults = 0 ∧
      ∃ disposal, s.gone = some disposal ∧ Right o d irp disposal returned s.own ∧
        ∀ f, disposal = .slot .devicePowerIrp f → ∃ p, irp.function = .power p ∧
          ∀ d' state, ∃ program, devicePower d' state o p.minorFunction = some program ∧
            ∀ tape', ∃ returned' n' s', program tape' 0 (arrived f) = .returns (returned', n', s') ∧
              s'.faults = 0 ∧ ∃ disposal', s'.gone = some disposal' ∧
                ThreadRight f disposal' returned' s'.own := by
  obtain ⟨returned, n, s, hrun, hfaults, disposal, hgone, hright⟩ := dispatch_right o d irp tape 0
  refine ⟨returned, n, s, hrun, hfaults, disposal, hgone, hright, fun f hf => ?_⟩
  subst hf
  obtain ⟨p, hp, hslot⟩ := hright.slot
  refine ⟨p, hp, fun d' state => ?_⟩
  obtain ⟨program, hprogram, hyields⟩ := @devicePower_right f d' state _ _ hslot
  exact ⟨program, hprogram, fun tape' => hyields tape' 0⟩

end Xencons.Dispatch
