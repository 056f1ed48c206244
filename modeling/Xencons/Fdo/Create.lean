import Xencons.Fdo.PdoCreate

/-!
# Making the FDO (fdo.c, driver.c)

`AddDevice` has `FdoCreate` make a device object, attach it, make two threads, get the bus interface
and six more of the lower driver, and make the PDO of the default console. Every step has a label of
its own, and all labels return the one `status`.

* `NTSTATUS` -- all of its codes;
* `fdoAcquireLowerBusInterface`, `fdoQueryInterface`, `fdoCreate`, `addDevice` -- the code;
* `FdoOutcome.failsAt` -- the step at which the creation fails;
* `pdoCreate_default_spec` -- what `PdoCreate` does for the default console of an FDO in D3;
* `fdoCreate_spec` -- what each step leaves where it fails;
* `FdoCreateRight` -- what the creation is to come to;
* **`fdoCreate_right_iff`** -- at which steps it comes to that.
-/

namespace Xencons

open Lib

/-! ## 1. Status codes -/

/-- `NTSTATUS`: 32 bits, the first of them the sign. -/
abbrev NTSTATUS := BitVec 32

/-- `NT_SUCCESS` -/
def NTSTATUS.ntSuccess (status : NTSTATUS) : Bool := decide (0 ≤ status.toInt)

def STATUS_SUCCESS : NTSTATUS := 0x00000000#32
def STATUS_PENDING : NTSTATUS := 0x00000103#32
def STATUS_UNSUCCESSFUL : NTSTATUS := 0xC0000001#32
def STATUS_INVALID_PARAMETER : NTSTATUS := 0xC000000D#32
def STATUS_NO_MEMORY : NTSTATUS := 0xC0000017#32
def STATUS_NOT_SUPPORTED : NTSTATUS := 0xC00000BB#32
def STATUS_CANCELLED : NTSTATUS := 0xC0000120#32
def STATUS_RETRY : NTSTATUS := 0xC000022D#32

/-- The codes that the driver names. -/
def NtStatus.code : NtStatus → NTSTATUS
  | .success => STATUS_SUCCESS
  | .pending => STATUS_PENDING
  | .cancelled => STATUS_CANCELLED
  | .unsuccessful => STATUS_UNSUCCESSFUL
  | .noMemory => STATUS_NO_MEMORY
  | .notSupported => STATUS_NOT_SUPPORTED
  | .retry => STATUS_RETRY

@[simp] theorem ntSuccess_code (status : NtStatus) :
    NTSTATUS.ntSuccess status.code = status.ntSuccess := by
  cases status <;> decide

theorem STATUS_SUCCESS_ok : NTSTATUS.ntSuccess STATUS_SUCCESS = true := by decide

theorem STATUS_UNSUCCESSFUL_error : NTSTATUS.ntSuccess STATUS_UNSUCCESSFUL = false := by decide

theorem STATUS_NO_MEMORY_error : NTSTATUS.ntSuccess STATUS_NO_MEMORY = false := by decide

theorem STATUS_INVALID_PARAMETER_error :
    NTSTATUS.ntSuccess STATUS_INVALID_PARAMETER = false := by decide

/-! ## 2. The structure, and what the creation meets -/

/-- `Fdo->LowerBusInterface`: where it is, and the reference that came with it. -/
structure BusInterface where
  block : Nat
  reference : Nat
deriving DecidableEq

/-- The fields of a `XENCONS_FDO` that a creation sets, but for `References`. -/
structure FdoFields where
  dx : Option Nat
  physicalDeviceObject : Bool
  /-- by the attachment that goes with it -/
  lowerDeviceObject : Option Nat
  systemPowerThread : Option XenconsThread
  devicePowerThread : Option XenconsThread
  lowerBusInterface : Option BusInterface
  vendorName : Bool
  debugInterface : Bool
  suspendInterface : Bool
  storeInterface : Bool
  consoleInterface : Bool
  evtchnInterface : Bool
  gnttabInterface : Bool
  mutex : Bool
deriving DecidableEq

def FdoFields.zero : FdoFields :=
  ⟨none, false, none, none, none, none, false, false, false, false, false, false, false, false⟩

/-- What becomes of a request to the lower driver that is waited for. -/
structure LowerAnswer where
  /-- `IoBuildSynchronousFsdRequest` -/
  irp : Bool
  /-- `IoCallDriver` -/
  called : NTSTATUS
  /-- `StatusBlock.Status`, where that is `STATUS_PENDING` -/
  completed : NTSTATUS

def LowerAnswer.status (a : LowerAnswer) : NTSTATUS :=
  if a.called = STATUS_PENDING then a.completed else a.called

/-- What `__FdoAcquireLowerBusInterface` meets. -/
structure BusOutcome where
  /-- `__FdoAllocate` -/
  allocated : Bool
  answer : LowerAnswer
  /-- `BusInterface->Version`, as the lower driver has it -/
  version : BitVec 16

/-- What `FdoCreate` meets. -/
structure FdoOutcome where
  /-- `IoCreateDevice` -/
  device : NTSTATUS
  /-- `__FdoAllocate` -/
  allocated : Bool
  /-- `IoAttachDeviceToDeviceStack` -/
  attached : Bool
  systemPower : ThreadOutcome
  devicePower : ThreadOutcome
  bus : BusOutcome
  /-- `GetBusData`: how many bytes it has read -/
  busData : ULONG
  debug : LowerAnswer
  suspend : LowerAnswer
  store : LowerAnswer
  console : LowerAnswer
  evtchn : LowerAnswer
  gnttab : LowerAnswer
  pdo : PdoOutcome

/-! ## 3. The code -/

/-- `__FdoAcquireLowerBusInterface`: the status, what it sets `LowerBusInterface` to, and what is
    live. A lower driver that agrees has taken a reference on the interface, whatever its version
    is. -/
def fdoAcquireLowerBusInterface (o : BusOutcome) (h : Heap Object) :
    NTSTATUS × Option BusInterface × Heap Object :=
  if !o.allocated then (STATUS_NO_MEMORY, none, h)
  else
    let block := h.next
    let h := h.take .pool
    if !o.answer.irp then (STATUS_UNSUCCESSFUL, none, h.give .pool (.object block))
    else if !NTSTATUS.ntSuccess o.answer.status then
      (o.answer.status, none, h.give .pool (.object block))
    else
      let reference := h.next
      let h := h.take .busInterface
      if o.version ≠ 1 then (STATUS_INVALID_PARAMETER, none, h.give .pool (.object block))
      else (STATUS_SUCCESS, some ⟨block, reference⟩, h)

/-- `__FdoReleaseLowerBusInterface` -/
def fdoReleaseLowerBusInterface (bus : Option BusInterface) (h : Heap Object) : Heap Object :=
  match bus with
  | none => h
  | some b => (h.give .busInterface (.object b.reference)).give .pool (.object b.block)

/-- `FdoQueryInterface` -/
def fdoQueryInterface (a : LowerAnswer) (isOptional : Bool) : NTSTATUS :=
  if !a.irp then STATUS_UNSUCCESSFUL
  else if !NTSTATUS.ntSuccess a.status then
    if a.status = STATUS_NOT_SUPPORTED ∧ isOptional then STATUS_SUCCESS else a.status
  else STATUS_SUCCESS

/-- What `FdoCreate` returns, the FDO, unless it is freed, and its list, its references and what is
    live. -/
abbrev FdoResult := NTSTATUS × Option FdoFields × FdoBus

/-- `fail3` of `FdoCreate`. -/
def fdoCreateFail3 (device : Nat) (status : NTSTATUS) (s : FdoBus) : FdoResult :=
  (status, none, s.give .device device)

def fdoCreateFail4 (device block : Nat) (fdo : FdoFields) (status : NTSTATUS) (s : FdoBus) :
    FdoResult :=
  let fdo := { fdo with physicalDeviceObject := false, lowerDeviceObject := none, dx := none }
  let zero := decide (fdo = .zero) && decide (s.references = 0)
  fdoCreateFail3 device status ((s.assertZero .fdo zero).give .pool block)

def fdoCreateFail5 (device block : Nat) (fdo : FdoFields) (status : NTSTATUS) (s : FdoBus) :
    FdoResult :=
  match fdo.lowerDeviceObject with
  | some attachment => fdoCreateFail4 device block fdo status (s.give .attachment attachment)
  | none => fdoCreateFail4 device block fdo status s

def fdoCreateFail6 (device block : Nat) (fdo : FdoFields) (status : NTSTATUS) (s : FdoBus) :
    FdoResult :=
  let s := s.joinThread fdo.systemPowerThread
  fdoCreateFail5 device block { fdo with systemPowerThread := none } status s

def fdoCreateFail7 (device block : Nat) (fdo : FdoFields) (status : NTSTATUS) (s : FdoBus) :
    FdoResult :=
  let s := s.joinThread fdo.devicePowerThread
  fdoCreateFail6 device block { fdo with devicePowerThread := none } status s

def fdoCreateFail8 (device block : Nat) (fdo : FdoFields) (status : NTSTATUS) (s : FdoBus) :
    FdoResult :=
  let s := { s with heap := fdoReleaseLowerBusInterface fdo.lowerBusInterface s.heap }
  fdoCreateFail7 device block { fdo with lowerBusInterface := none } status s

def fdoCreateFail9 (device block : Nat) (fdo : FdoFields) (status : NTSTATUS) (s : FdoBus) :
    FdoResult := fdoCreateFail8 device block { fdo with vendorName := false } status s

def fdoCreateFail10 (device block : Nat) (fdo : FdoFields) (status : NTSTATUS) (s : FdoBus) :
    FdoResult := fdoCreateFail9 device block { fdo with debugInterface := false } status s

def fdoCreateFail11 (device block : Nat) (fdo : FdoFields) (status : NTSTATUS) (s : FdoBus) :
    FdoResult := fdoCreateFail10 device block { fdo with suspendInterface := false } status s

def fdoCreateFail12 (device block : Nat) (fdo : FdoFields) (status : NTSTATUS) (s : FdoBus) :
    FdoResult := fdoCreateFail11 device block { fdo with storeInterface := false } status s

def fdoCreateFail13 (device block : Nat) (fdo : FdoFields) (status : NTSTATUS) (s : FdoBus) :
    FdoResult := fdoCreateFail12 device block { fdo with consoleInterface := false } status s

def fdoCreateFail14 (device block : Nat) (fdo : FdoFields) (status : NTSTATUS) (s : FdoBus) :
    FdoResult := fdoCreateFail13 device block { fdo with evtchnInterface := false } status s

def fdoCreateFail15 (device block : Nat) (fdo : FdoFields) (status : NTSTATUS) (s : FdoBus) :
    FdoResult :=
  fdoCreateFail14 device block { fdo with mutex := false, gnttabInterface := false } status
    { s with list := [], references := 0 }

/-- `FdoCreate` from `PdoCreate` on; the PDO of a console asks nothing of a suspend interface. -/
def fdoCreatePdo (o : FdoOutcome) (device block : Nat) (fdo : FdoFields) (s : FdoBus) :
    Call FdoResult :=
  let fdo := { fdo with mutex := true }
  let s := { s with list := [], references := 1 }
  (pdoCreate 0 willing o.pdo true s).bind fun (status, s) =>
    if !status.ntSuccess then .returns (fdoCreateFail15 device block fdo status.code s)
    else .returns (STATUS_SUCCESS, some fdo, s)

/-- `FdoCreate` from the first query on. -/
def fdoCreateQueries (o : FdoOutcome) (device block : Nat) (fdo : FdoFields) (s : FdoBus) :
    Call FdoResult :=
  let status := fdoQueryInterface o.debug false
  if !NTSTATUS.ntSuccess status then .returns (fdoCreateFail9 device block fdo status s)
  else
  let fdo := { fdo with debugInterface := true }
  let status := fdoQueryInterface o.suspend false
  if !NTSTATUS.ntSuccess status then .returns (fdoCreateFail10 device block fdo status s)
  else
  let fdo := { fdo with suspendInterface := true }
  let status := fdoQueryInterface o.store false
  if !NTSTATUS.ntSuccess status then .returns (fdoCreateFail11 device block fdo status s)
  else
  let fdo := { fdo with storeInterface := true }
  let status := fdoQueryInterface o.console false
  if !NTSTATUS.ntSuccess status then .returns (fdoCreateFail12 device block fdo status s)
  else
  let fdo := { fdo with consoleInterface := true }
  let status := fdoQueryInterface o.evtchn false
  if !NTSTATUS.ntSuccess status then .returns (fdoCreateFail13 device block fdo status s)
  else
  let fdo := { fdo with evtchnInterface := true }
  let status := fdoQueryInterface o.gnttab false
  if !NTSTATUS.ntSuccess status then .returns (fdoCreateFail14 device block fdo status s)
  else fdoCreatePdo o device block { fdo with gnttabInterface := true } s

/-- `FdoCreate` from `__FdoAcquireLowerBusInterface` on. -/
def fdoCreateBus (o : FdoOutcome) (device block : Nat) (fdo : FdoFields) (s : FdoBus) :
    Call FdoResult :=
  let (status, bus, heap) := fdoAcquireLowerBusInterface o.bus s.heap
  let s := { s with heap := heap }
  if !NTSTATUS.ntSuccess status then .returns (fdoCreateFail7 device block fdo status s)
  else
    let fdo := { fdo with lowerBusInterface := bus }
    -- no status is set here
    if o.busData = 0 then .returns (fdoCreateFail8 device block fdo status s)
    else fdoCreateQueries o device block { fdo with vendorName := true } s

/-- `FdoCreate` from its threads on. -/
def fdoCreateThreads (o : FdoOutcome) (device block : Nat) (fdo : FdoFields) (s : FdoBus) :
    Call FdoResult :=
  let (status, systemPowerThread, heap) := threadCreate o.systemPower s.heap
  let s := { s with heap := heap }
  let fdo := { fdo with systemPowerThread := systemPowerThread }
  if !status.ntSuccess then .returns (fdoCreateFail5 device block fdo status.code s)
  else
    let (status, devicePowerThread, heap) := threadCreate o.devicePower s.heap
    let s := { s with heap := heap }
    let fdo := { fdo with devicePowerThread := devicePowerThread }
    if !status.ntSuccess then .returns (fdoCreateFail6 device block fdo status.code s)
    else fdoCreateBus o device block fdo s

/-- No FDO is there yet. -/
def FdoBus.absent (h : Heap Object) : FdoBus := ⟨h, [], 0, false, []⟩

/-- `FdoCreate` -/
def fdoCreate (o : FdoOutcome) (h : Heap Object) : Call FdoResult :=
  let s := FdoBus.absent h
  if !NTSTATUS.ntSuccess o.device then .returns (o.device, none, s)
  else
    let device := s.heap.next
    let s := { s with heap := s.heap.take .device }
    if !o.allocated then .returns (fdoCreateFail3 device STATUS_NO_MEMORY s)
    else
      let block := s.heap.next
      let s := { s with heap := s.heap.take .pool }
      let fdo := { FdoFields.zero with dx := some device, physicalDeviceObject := true }
      -- the status is still that of the allocation
      if !o.attached then .returns (fdoCreateFail4 device block fdo STATUS_NO_MEMORY s)
      else
        let attachment := s.heap.next
        fdoCreateThreads o device block { fdo with lowerDeviceObject := some attachment }
          { s with heap := s.heap.take .attachment }

/-- `AddDevice` -/
def addDevice (o : FdoOutcome) (h : Heap Object) : Call FdoResult :=
  (fdoCreate o h).bind fun (status, fdo, s) =>
    if !NTSTATUS.ntSuccess status then .returns (status, fdo, s)
    else .returns (STATUS_SUCCESS, fdo, s)

/-! ## 4. Where it fails -/

/-- The steps of a creation that can fail. -/
inductive FdoStep where
  | device
  | fdo
  | attach
  | systemPower
  | devicePower
  | bus
  | busData
  /-- any of the six queries -/
  | query
  | pdo
deriving DecidableEq

def LowerAnswer.succeeds (a : LowerAnswer) : Bool := a.irp && NTSTATUS.ntSuccess a.status

def BusOutcome.succeeds (o : BusOutcome) : Bool :=
  o.allocated && o.answer.succeeds && decide (o.version = 1)

def FdoOutcome.queries (o : FdoOutcome) : List LowerAnswer :=
  [o.debug, o.suspend, o.store, o.console, o.evtchn, o.gnttab]

/-- The step at which the PDO of the console fails. -/
def FdoOutcome.pdoFailsAt (o : FdoOutcome) : Option PdoStep := o.pdo.failsAt true false willing

/-- The step at which `FdoCreate` fails, or is to fail. -/
def FdoOutcome.failsAt (o : FdoOutcome) : Option FdoStep :=
  if !NTSTATUS.ntSuccess o.device then some .device
  else if !o.allocated then some .fdo
  else if !o.attached then some .attach
  else if !o.systemPower.succeeds then some .systemPower
  else if !o.devicePower.succeeds then some .devicePower
  else if !o.bus.succeeds then some .bus
  else if o.busData = 0 then some .busData
  else if !o.queries.all LowerAnswer.succeeds then some .query
  else if o.pdoFailsAt.isSome then some .pdo
  else none

/-- The lower driver has handed out an interface of another version. -/
def BusOutcome.anotherVersion (o : BusOutcome) : Bool := o.allocated && o.answer.succeeds

/-- What is left where a step fails. -/
def FdoOutcome.traceAt (o : FdoOutcome) : FdoStep → Trace
  | .device | .fdo | .attach | .systemPower => .nothing
  | .devicePower | .query => .threadObjects
  | .bus => if o.bus.anotherVersion then .more else .threadObjects
  | .busData => .more
  | .pdo => if o.pdo.traceOf true false o.pdoFailsAt = .more then .more else .threadObjects

def FdoOutcome.trace (o : FdoOutcome) : Trace :=
  match o.failsAt with
  | some step => o.traceAt step
  | none => .nothing

/-! ## 5. The PDO of the console -/

section Pdo

variable {o : PdoOutcome} {s : FdoBus} {device block : Nat} {pdo : PdoFields}
  {context : PdoContext} {status : NtStatus} {fuel : Nat} {tape : Nat → Answer}

/-- One more PDO is in the list, and its device object is there. -/
structure PdoAdded (s s' : FdoBus) : Prop where
  added : ∃ device kept, s'.list = s.list ++ [device] ∧ (.device, device) ∈ kept ∧
    s.heap.Has kept s'.heap
  references : s'.references = s.references + 1
  failed : s'.failed = s.failed

/-- The creation comes to a PDO, if it is to, and else to an error. -/
def PdoComes (succeeds : Bool) (s : FdoBus) (c : Call (NtStatus × FdoBus)) : Prop :=
  ∃ r, c = .returns r ∧ if succeeds then r.1.ntSuccess = true ∧ PdoAdded s r.2
    else r.1.ntSuccess = false

/-- In D3 nothing is resumed. -/
theorem pdoCreateAdd_d3 (hp : s.powered = false) :
    pdoCreateAdd fuel tape o device block pdo context s =
      .returns (if o.eject then
        pdoCreateFail6 device block { pdo with context := some context, abi := true, eject := true }
          context .unsuccessful s
        else (.success, s.insert device)) := by
  cases he : o.eject with
  | false => simp [pdoCreateAdd, fdoAddPhysicalDeviceObject, hp, he]
  | true =>
      simp [pdoCreateAdd, fdoAddPhysicalDeviceObject, fdoRemovePhysicalDeviceObject, hp, he]

/-- From the console on. -/
theorem pdoCreateContext_comes {s₀ : FdoBus} {kept : List (Object × Nat)} (hp : s.powered = false)
    (hd : (.device, device) ∈ kept) (h : s₀.Has kept s) :
    PdoComes (o.console && !o.eject) s₀
      (pdoCreateContext fuel tape o true device block pdo s) := by
  cases hc : o.console with
  | false =>
      have hrun : pdoCreateContext fuel tape o true device block pdo s =
          .returns (pdoCreateFail5 device block
            { pdo with suspendInterface := true, isDefault := true } .noMemory s) := by
        simp [pdoCreateContext, consoleCreate, hc]
      exact ⟨_, hrun, rfl⟩
  | true =>
      have hrun : pdoCreateContext fuel tape o true device block pdo s =
          pdoCreateAdd fuel tape o device block
            { pdo with suspendInterface := true, isDefault := true } (.console s.heap.next 0)
            { s with heap := s.heap.take .pool } := by
        simp [pdoCreateContext, consoleCreate, hc]
      rw [hrun, pdoCreateAdd_d3 (s := { s with heap := s.heap.take .pool }) hp]
      refine ⟨_, rfl, ?_⟩
      have htaken := h.take .pool
      cases o.eject with
      | true => exact rfl
      | false =>
          refine ⟨rfl, ⟨device, _, ?_, List.mem_cons_of_mem _ hd, htaken.heap⟩, ?_, h.failed⟩
          · exact congrArg (· ++ [device]) h.list
          · exact congrArg (· + 1) h.references

/-- From the threads on. -/
theorem pdoCreateThreads_comes {s₀ : FdoBus} (hp : s.powered = false)
    (h : s₀.Has (pdoBase device block) s) :
    PdoComes (o.systemPower.succeeds && o.devicePower.succeeds && (o.console && !o.eject)) s₀
      (pdoCreateThreads fuel tape o true device block s) := by
  rcases pdoCreateThreads_cases fuel tape o true h with
    ⟨hs₁, status, heap, hrun, hst, -⟩ | ⟨hs₁, hs₂, status, t₁, o₁, heap, hrun, hst, -⟩ |
    ⟨hs₁, hs₂, t₁, t₂, o₁, o₂, heap, hrun, htwo⟩
  · rw [hs₁]
    exact ⟨_, hrun, hst⟩
  · rw [hs₁, hs₂]
    exact ⟨_, hrun, hst⟩
  · rw [hs₁, hs₂, hrun]
    exact pdoCreateContext_comes (s := { s with heap := heap }) hp (by simp [pdoMade, pdoBase]) htwo

/-- **`PdoCreate` for the default console of an FDO in D3** returns, with a PDO in the list just
    where no step fails. -/
theorem pdoCreate_default_spec (fuel : Nat) (tape : Nat → Answer) (o : PdoOutcome)
    (hp : s.powered = false) :
    PdoComes (o.failsAt true false tape).isNone s (pdoCreate fuel tape o true s) := by
  have hsteps : (o.failsAt true false tape).isNone = (o.device.ntSuccess && (o.allocated &&
      (o.systemPower.succeeds && o.devicePower.succeeds && (o.console && !o.eject)))) := by
    unfold PdoOutcome.failsAt PdoOutcome.contextFailsAt PdoOutcome.addFailsAt
    cases o.device.ntSuccess <;> cases o.allocated <;> cases o.systemPower.succeeds <;>
      cases o.devicePower.succeeds <;> cases o.console <;> cases o.eject <;> rfl
  rw [hsteps]
  cases hd : o.device.ntSuccess with
  | false =>
      have hrun : pdoCreate fuel tape o true s = .returns (o.device, s) := by
        simp [pdoCreate, hd]
      exact ⟨_, hrun, hd⟩
  | true =>
      cases ha : o.allocated with
      | false =>
          have hrun : pdoCreate fuel tape o true s = .returns
              (pdoCreateFail2 s.heap.next .noMemory { s with heap := s.heap.take .device }) := by
            simp [pdoCreate, hd, ha]
          exact ⟨_, hrun, rfl⟩
      | true =>
          have hrun : pdoCreate fuel tape o true s = pdoCreateThreads fuel tape o true
              s.heap.next (s.heap.take .device).next
              { s with heap := (s.heap.take .device).take .pool } := by
            simp [pdoCreate, hd, ha]
          rw [hrun]
          exact pdoCreateThreads_comes (s := { s with heap := (s.heap.take .device).take .pool }) hp
            (((FdoBus.Has.refl s).take .device).take .pool)

theorem pdoCreate_default_leaves (fuel : Nat) (tape : Nat → Answer) (o : PdoOutcome)
    (hp : s.powered = false) :
    LeavesTrace s (pdoCreate fuel tape o true s)
      (o.traceOf true false (o.failsAt true false tape)) := by
  have hleaves := pdoCreate_spec fuel tape o true s
  rwa [hp] at hleaves

end Pdo

/-! ## 6. The requests to the lower driver -/

theorem fdoQueryInterface_success (a : LowerAnswer) :
    NTSTATUS.ntSuccess (fdoQueryInterface a false) = a.succeeds := by
  unfold fdoQueryInterface LowerAnswer.succeeds
  cases a.irp with
  | false => exact STATUS_UNSUCCESSFUL_error
  | true =>
      cases ha : NTSTATUS.ntSuccess a.status with
      | false => simpa using ha
      | true => exact STATUS_SUCCESS_ok

/-- `BusInterface`, with its buffer. -/
def BusInterface.holds (b : BusInterface) : List (Object × Nat) :=
  [(.busInterface, b.reference), (.pool, b.block)]

/-- The bus interface is there, or there is nothing of it, or but for its buffer all of it. -/
def BusAcquired (o : BusOutcome) (h : Heap Object)
    (r : NTSTATUS × Option BusInterface × Heap Object) : Prop :=
  if o.succeeds then
    NTSTATUS.ntSuccess r.1 = true ∧ ∃ b, r.2.1 = some b ∧ h.Has b.holds r.2.2
  else NTSTATUS.ntSuccess r.1 = false ∧ r.2.1 = none ∧
    if o.anotherVersion then ∃ reference, h.Has [(.busInterface, reference)] r.2.2
    else h.Same r.2.2

/-- **`__FdoAcquireLowerBusInterface`** keeps the reference on an interface of another version. -/
theorem fdoAcquireLowerBusInterface_spec (o : BusOutcome) (h : Heap Object) :
    BusAcquired o h (fdoAcquireLowerBusInterface o h) := by
  have hblock := (Heap.Has.refl h).take .pool
  unfold BusAcquired BusOutcome.succeeds BusOutcome.anotherVersion LowerAnswer.succeeds
    fdoAcquireLowerBusInterface
  cases o.allocated with
  | false => exact ⟨STATUS_NO_MEMORY_error, rfl, .refl h⟩
  | true =>
      cases o.answer.irp with
      | false => exact ⟨STATUS_UNSUCCESSFUL_error, rfl, hblock.giveHead⟩
      | true =>
          cases ha : NTSTATUS.ntSuccess o.answer.status with
          | false => exact ⟨ha, rfl, hblock.giveHead⟩
          | true =>
              have hreference := hblock.take .busInterface
              by_cases hv : o.version = 1
              · simp only [hv, decide_true, Bool.and_self, Bool.not_true, Bool.false_eq_true,
                  if_false, if_true, ne_eq, not_true_eq_false]
                exact ⟨STATUS_SUCCESS_ok, ⟨h.next, _⟩, rfl, hreference⟩
              · have hgone : h.Has [(.busInterface, (h.take .pool).next)]
                    (((h.take .pool).take .busInterface).give .pool (.object h.next)) := by
                  simpa using hreference.give (k := .pool) (n := h.next) (by simp)
                simp only [hv, decide_false, Bool.and_false, Bool.and_self, Bool.not_true,
                  Bool.false_eq_true, if_false, if_true, ne_eq, not_false_eq_true, true_and]
                exact ⟨STATUS_INVALID_PARAMETER_error, _, hgone⟩

/-! ## 7. The labels -/

section Labels

variable {s₀ s : FdoBus} {device block a : Nat} {fdo : FdoFields} {status : NTSTATUS}
  {f : List (Object × Nat)} {t₁ t₂ : XenconsThread} {o₁ o₂ : Nat} {b : BusInterface}

/-- What every label from `fail5` on is to give back. -/
def fdoBase (device block a : Nat) : List (Object × Nat) :=
  [(.attachment, a), (.pool, block), (.device, device)]

/-- The structure, with its threads and the bus interface. -/
def FdoFields.withBus (device a : Nat) (t₁ t₂ : XenconsThread) (b : BusInterface) : FdoFields :=
  ⟨some device, true, some a, some t₁, some t₂, some b, false, false, false, false, false, false,
    false, false⟩

/-- Only references on thread objects are left, and the status is an error. -/
structure FdoGone (s₀ : FdoBus) (status : NTSTATUS) (kept : List (Object × Nat)) (r : FdoResult) :
    Prop where
  status : r.1 = status
  fdo : r.2.1 = none
  left : s₀.Has kept r.2.2

theorem fdoCreateFail3_gone (hf : ThreadObjects f)
    (h : s₀.Has (f ++ [(.device, device)]) s) :
    FdoGone s₀ status f (fdoCreateFail3 device status s) := by
  have hgone := h.giveBehind (hf.notMem (k := .device) nofun device)
  rw [List.append_nil] at hgone
  exact ⟨rfl, rfl, hgone⟩

theorem fdoCreateFail4_gone (hf : ThreadObjects f)
    (hz : { fdo with physicalDeviceObject := false, lowerDeviceObject := none, dx := none } =
      FdoFields.zero) (hr : s₀.references = 0)
    (h : s₀.Has (f ++ [(.pool, block), (.device, device)]) s) :
    FdoGone s₀ status f (fdoCreateFail4 device block fdo status s) := by
  have hgone := h.giveBehind (hf.notMem (k := .pool) nofun block)
  unfold fdoCreateFail4
  rw [hz, h.references, hr]
  exact fdoCreateFail3_gone hf hgone

theorem fdoCreateFail5_gone (hf : ThreadObjects f)
    (hz : fdo = { FdoFields.zero with
      dx := some device, physicalDeviceObject := true, lowerDeviceObject := some a })
    (hr : s₀.references = 0) (h : s₀.Has (f ++ fdoBase device block a) s) :
    FdoGone s₀ status f (fdoCreateFail5 device block fdo status s) := by
  have hgone := h.giveBehind (hf.notMem (k := .attachment) nofun a)
  subst hz
  exact fdoCreateFail4_gone hf rfl hr hgone

theorem fdoCreateFail6_gone (hf : ThreadObjects f)
    (hz : fdo = { FdoFields.zero with
      dx := some device, physicalDeviceObject := true, lowerDeviceObject := some a,
      systemPowerThread := some t₁ })
    (hr : s₀.references = 0) (h : s₀.Has (f ++ (t₁.holds o₁ ++ fdoBase device block a)) s) :
    FdoGone s₀ status (f ++ [(.threadObject, o₁)])
      (fdoCreateFail6 device block fdo status s) := by
  have hjoined := h.join hf
  rw [List.append_cons] at hjoined
  subst hz
  exact fdoCreateFail5_gone (hf.snoc o₁) rfl hr hjoined

theorem fdoCreateFail7_gone (hf : ThreadObjects f)
    (hz : fdo = { FdoFields.withBus device a t₁ t₂ b with lowerBusInterface := none })
    (hr : s₀.references = 0)
    (h : s₀.Has (f ++ (t₂.holds o₂ ++ (t₁.holds o₁ ++ fdoBase device block a))) s) :
    FdoGone s₀ status (f ++ [(.threadObject, o₂)] ++ [(.threadObject, o₁)])
      (fdoCreateFail7 device block fdo status s) := by
  have hjoined := h.join hf
  rw [List.append_cons] at hjoined
  subst hz
  exact fdoCreateFail6_gone (hf.snoc o₂) rfl hr hjoined

/-- All that the creation has taken when it has the bus interface. -/
def fdoHolds (device block a : Nat) (t₁ t₂ : XenconsThread) (o₁ o₂ : Nat) (b : BusInterface) :
    List (Object × Nat) :=
  b.holds ++ (t₂.holds o₂ ++ (t₁.holds o₁ ++ fdoBase device block a))

theorem fdoCreateFail8_gone (hf : ThreadObjects f) (hr : s₀.references = 0)
    (h : s₀.Has (f ++ fdoHolds device block a t₁ t₂ o₁ o₂ b) s) :
    FdoGone s₀ status (f ++ [(.threadObject, o₂)] ++ [(.threadObject, o₁)])
      (fdoCreateFail8 device block (.withBus device a t₁ t₂ b) status s) := by
  have hreference := h.giveBehind (hf.notMem (k := .busInterface) nofun b.reference)
  have hbuffer := hreference.giveBehind (hf.notMem (k := .pool) nofun b.block)
  exact fdoCreateFail7_gone hf rfl hr hbuffer

/-- None of the labels behind `fail8` gives back a reference on a bus interface. -/
theorem fdoCreateFail7_keeps {n : Nat} (ha : fdo.lowerDeviceObject = some a)
    (ht₁ : fdo.systemPowerThread = some t₁) (ht₂ : fdo.devicePowerThread = some t₂)
    (hm : (Object.busInterface, n) ∈ s.heap.live) :
    (Object.busInterface, n) ∈ (fdoCreateFail7 device block fdo status s).2.2.heap.live := by
  have hgive : ∀ (h : Heap Object) (k : Object) (p : Pointer), Object.busInterface ≠ k →
      (Object.busInterface, n) ∈ h.live → (Object.busInterface, n) ∈ (h.give k p).live :=
    fun _ _ p hne => Heap.mem_give p hne
  have hthread : ∀ (t : XenconsThread) (h : Heap Object), (Object.busInterface, n) ∈ h.live →
      (Object.busInterface, n) ∈ (threadAlertAndJoin t h).live := fun t h hm =>
    hgive _ .pool _ nofun (hgive _ .thread _ nofun hm)
  simp only [fdoCreateFail7, fdoCreateFail6, fdoCreateFail5, ha, ht₁, ht₂]
  have hjoined := hthread t₁ _ (hthread t₂ _ hm)
  have hfreed := hgive _ .pool (.object block) nofun
    (hgive _ .attachment (.object a) nofun hjoined)
  refine hgive _ .device (.object device) nofun ?_
  unfold FdoBus.give FdoBus.assertZero
  split
  · exact hfreed
  · exact hfreed

/-- Behind the labels an assertion that has failed has failed. -/
theorem fdoCreateFail8_failed (s : FdoBus) :
    s.failed.length ≤
      (fdoCreateFail8 device block (.withBus device a t₁ t₂ b) status s).2.2.failed.length := by
  refine Nat.le_trans (Nat.le_of_eq ?_) (FdoBus.failed_le_assertZero _ .fdo _)
  simp only [FdoBus.give, FdoBus.failed_joinThread]

end Labels

/-! ## 8. What each step leaves -/

/-- The FDO is there, attached, with a reference of its own and one for its PDO. -/
structure FdoReady (fdo : FdoFields) (s : FdoBus) : Prop where
  device : ∃ device, fdo.dx = some device ∧ (.device, device) ∈ s.heap.live
  attached : ∃ a, fdo.lowerDeviceObject = some a ∧ (.attachment, a) ∈ s.heap.live
  console : ∃ pdo, s.list = [pdo] ∧ (.device, pdo) ∈ s.heap.live
  references : s.references = 1 + s.list.length

/-- `FdoCreate` succeeds. -/
def FdoSucceeds (c : Call FdoResult) : Prop :=
  ∃ fdo s, c = .returns (STATUS_SUCCESS, some fdo, s) ∧ FdoReady fdo s

/-- There is more left of a creation than references on thread objects, an assertion has failed, or
    the creation is taken for a success. -/
structure LeftMore (s₀ : FdoBus) (r : FdoResult) : Prop where
  fdo : r.2.1 = none
  more : NTSTATUS.ntSuccess r.1 = true ∨ s₀.failed.length < r.2.2.failed.length ∨
    ∃ k n, k ≠ Object.threadObject ∧ (k, n) ∈ r.2.2.heap.live ∧ (k, n) ∉ s₀.heap.live

/-- What a failing `FdoCreate` leaves. -/
def FdoLeaves (s₀ : FdoBus) (c : Call FdoResult) : Trace → Prop
  | .nothing => ∃ r status, c = .returns r ∧ NTSTATUS.ntSuccess status = false ∧
      FdoGone s₀ status [] r
  | .threadObjects => ∃ r status kept, c = .returns r ∧ NTSTATUS.ntSuccess status = false ∧
      FdoGone s₀ status kept r ∧ ThreadObjects kept ∧ kept ≠ []
  | .more => ∃ r, c = .returns r ∧ LeftMore s₀ r

/-- What `FdoCreate` comes to. -/
def FdoComes (o : FdoOutcome) (s₀ : FdoBus) (c : Call FdoResult) : Option FdoStep → Prop
  | none => FdoSucceeds c
  | some step => FdoLeaves s₀ c (o.traceAt step)

section Steps

variable {o : FdoOutcome} {s₀ s : FdoBus} {device block a : Nat} {t₁ t₂ : XenconsThread}
  {o₁ o₂ : Nat} {b : BusInterface}

/-- Where nothing is left but the thread objects of the two threads and what is in front of them. -/
theorem FdoLeaves.threads {front : List (Object × Nat)} {status : NTSTATUS}
    (hf : ThreadObjects front) (hr : s₀.references = 0) (hst : NTSTATUS.ntSuccess status = false)
    (h : s₀.Has (front ++ fdoHolds device block a t₁ t₂ o₁ o₂ b) s) :
    FdoLeaves s₀ (.returns (fdoCreateFail8 device block (.withBus device a t₁ t₂ b) status s))
      .threadObjects :=
  ⟨_, status, _, rfl, hst, fdoCreateFail8_gone hf hr h, (hf.snoc o₂).snoc o₁, by simp⟩

/-- The structure when `PdoCreate` is called. -/
def FdoFields.ready (device a : Nat) (t₁ t₂ : XenconsThread) (b : BusInterface) : FdoFields :=
  ⟨some device, true, some a, some t₁, some t₂, some b, true, true, true, true, true, true, true,
    false⟩

/-- From `PdoCreate` on. -/
theorem fdoCreatePdo_comes (hr : s₀.references = 0) (hl : s₀.list = []) (hp : s₀.powered = false)
    (h : s₀.Has (fdoHolds device block a t₁ t₂ o₁ o₂ b) s) :
    FdoComes o s₀ (fdoCreatePdo o device block (.ready device a t₁ t₂ b) s)
      (if o.pdoFailsAt.isSome then some .pdo else none) := by
  have hp' : s.powered = false := h.powered.trans hp
  have hleaves := pdoCreate_default_leaves 0 willing o.pdo
    (s := { s with list := [], references := 1 }) hp'
  obtain ⟨⟨status, s'⟩, hc, hcomes⟩ := pdoCreate_default_spec 0 willing o.pdo
    (s := { s with list := [], references := 1 }) hp'
  rw [hc] at hleaves
  cases hfails : o.pdo.failsAt true false willing with
  | none =>
      rw [hfails] at hcomes
      obtain ⟨hst : status.ntSuccess = true, ⟨pdo, kept, hlist, hpdo, hheap⟩, href, -⟩ := hcomes
      have hrun : fdoCreatePdo o device block (.ready device a t₁ t₂ b) s =
          .returns (STATUS_SUCCESS, some { FdoFields.ready device a t₁ t₂ b with mutex := true },
            s') := by
        simp [fdoCreatePdo, hc, hst]
      have hlive := h.heap.trans hheap
      rw [FdoOutcome.pdoFailsAt, hfails, hrun]
      refine ⟨_, s', rfl, ⟨device, rfl, ?_⟩, ⟨a, rfl, ?_⟩, ⟨pdo, hlist, ?_⟩, ?_⟩
      · exact hlive.mem_live (by simp [fdoHolds, fdoBase])
      · exact hlive.mem_live (by simp [fdoHolds, fdoBase])
      · exact hheap.mem_live hpdo
      · rw [href, hlist]
        rfl
  | some step =>
      rw [hfails] at hcomes
      replace hcomes : status.ntSuccess = false := hcomes
      have hrun : fdoCreatePdo o device block (.ready device a t₁ t₂ b) s =
          .returns (fdoCreateFail8 device block (.withBus device a t₁ t₂ b) status.code
            { s' with list := [], references := 0 }) := by
        simp [fdoCreatePdo, hc, hcomes]
        rfl
      have hcode : NTSTATUS.ntSuccess status.code = false := by rw [ntSuccess_code, hcomes]
      -- where only references on thread objects are left of the PDO
      have hthreads : ∀ kept, ThreadObjects kept →
          FdoBus.Has { s with list := [], references := 1 } kept s' →
          FdoLeaves s₀ (fdoCreatePdo o device block (.ready device a t₁ t₂ b) s)
            .threadObjects := by
        intro kept hk hheap
        rw [hrun]
        exact FdoLeaves.threads hk hr hcode ⟨h.heap.trans hheap.heap, hl.symm, hr.symm,
          hheap.powered.trans h.powered, hheap.failed.trans h.failed⟩
      rw [FdoOutcome.pdoFailsAt, hfails]
      show FdoLeaves s₀ _ (if o.pdo.traceOf true false o.pdoFailsAt = .more then _ else _)
      rw [FdoOutcome.pdoFailsAt]
      cases htrace : o.pdo.traceOf true false (o.pdo.failsAt true false willing) with
      | nothing =>
          rw [htrace] at hleaves
          obtain ⟨r, hreturns, hno⟩ := hleaves
          cases hreturns
          exact hthreads [] .nil (hno hcomes)
      | threadObjects =>
          rw [htrace] at hleaves
          obtain ⟨r, kept, hreturns, -, hheap, hk, -⟩ := hleaves
          cases hreturns
          exact hthreads kept hk hheap
      | more =>
          rw [htrace] at hleaves
          obtain ⟨-, hfailed⟩ := hleaves _ rfl
          rw [hrun]
          refine ⟨_, rfl, rfl, .inr (.inl ?_)⟩
          rw [← h.failed]
          exact Nat.lt_of_lt_of_le hfailed
            (fdoCreateFail8_failed { s' with list := [], references := 0 })

/-- From the first query on: whichever fails, what has been set is unset. -/
theorem fdoCreateQueries_comes (hr : s₀.references = 0) (hl : s₀.list = [])
    (hp : s₀.powered = false) (h : s₀.Has (fdoHolds device block a t₁ t₂ o₁ o₂ b) s) :
    FdoComes o s₀
      (fdoCreateQueries o device block
        { FdoFields.withBus device a t₁ t₂ b with vendorName := true } s)
      (if !o.queries.all LowerAnswer.succeeds then some .query
      else if o.pdoFailsAt.isSome then some .pdo else none) := by
  have hleft : ∀ q : LowerAnswer, q.succeeds = false →
      FdoLeaves s₀ (.returns (fdoCreateFail8 device block (.withBus device a t₁ t₂ b)
        (fdoQueryInterface q false) s)) .threadObjects := fun q hq =>
    FdoLeaves.threads .nil hr (by rw [fdoQueryInterface_success, hq]) h
  have hall : o.queries.all LowerAnswer.succeeds = (o.debug.succeeds && (o.suspend.succeeds &&
      (o.store.succeeds && (o.console.succeeds && (o.evtchn.succeeds &&
        (o.gnttab.succeeds && true)))))) := rfl
  unfold fdoCreateQueries
  dsimp only
  rw [hall, fdoQueryInterface_success, fdoQueryInterface_success, fdoQueryInterface_success,
    fdoQueryInterface_success, fdoQueryInterface_success, fdoQueryInterface_success]
  cases h₁ : o.debug.succeeds with
  | false => exact hleft _ h₁
  | true =>
  cases h₂ : o.suspend.succeeds with
  | false => exact hleft _ h₂
  | true =>
  cases h₃ : o.store.succeeds with
  | false => exact hleft _ h₃
  | true =>
  cases h₄ : o.console.succeeds with
  | false => exact hleft _ h₄
  | true =>
  cases h₅ : o.evtchn.succeeds with
  | false => exact hleft _ h₅
  | true =>
  cases h₆ : o.gnttab.succeeds with
  | false => exact hleft _ h₆
  | true => exact fdoCreatePdo_comes hr hl hp h

/-- From the bus interface on. -/
theorem fdoCreateBus_comes (hr : s₀.references = 0) (hl : s₀.list = []) (hp : s₀.powered = false)
    (h : s₀.Has (t₂.holds o₂ ++ (t₁.holds o₁ ++ fdoBase device block a)) s) :
    FdoComes o s₀
      (fdoCreateBus o device block { FdoFields.zero with
        dx := some device, physicalDeviceObject := true, lowerDeviceObject := some a,
        systemPowerThread := some t₁, devicePowerThread := some t₂ } s)
      (if !o.bus.succeeds then some .bus
      else if o.busData = 0 then some .busData
      else if !o.queries.all LowerAnswer.succeeds then some .query
      else if o.pdoFailsAt.isSome then some .pdo else none) := by
  have hbus := fdoAcquireLowerBusInterface_spec o.bus s.heap
  rcases hc : fdoAcquireLowerBusInterface o.bus s.heap with ⟨status, bus, heap⟩
  rw [hc, BusAcquired] at hbus
  cases hs : o.bus.succeeds with
  | false =>
      rw [hs] at hbus
      obtain ⟨hst : NTSTATUS.ntSuccess status = false, rfl, hheap⟩ := hbus
      have hrun : fdoCreateBus o device block { FdoFields.zero with
          dx := some device, physicalDeviceObject := true, lowerDeviceObject := some a,
          systemPowerThread := some t₁, devicePowerThread := some t₂ } s =
          .returns (fdoCreateFail7 device block
            { FdoFields.withBus device a t₁ t₂ ⟨0, 0⟩ with lowerBusInterface := none } status
            { s with heap := heap }) := by
        simp [fdoCreateBus, hc, hst, FdoFields.withBus, FdoFields.zero]
      rw [hrun]
      show FdoLeaves s₀ _ (if o.bus.anotherVersion then _ else _)
      cases hv : o.bus.anotherVersion with
      | false =>
          rw [hv] at hheap
          exact ⟨_, status, _, rfl, hst, fdoCreateFail7_gone (f := []) .nil rfl hr
            (h.thread hheap), (ThreadObjects.nil.snoc o₂).snoc o₁, by simp⟩
      | true =>
          rw [hv] at hheap
          obtain ⟨reference, hheap : s.heap.Has _ heap⟩ := hheap
          refine ⟨_, rfl, rfl, .inr (.inr ⟨.busInterface, reference, nofun, ?_, ?_⟩)⟩
          · exact fdoCreateFail7_keeps rfl rfl rfl (hheap.mem_live List.mem_cons_self)
          · exact (h.heap.trans hheap).notMem_live (by simp)
  | true =>
      rw [hs] at hbus
      obtain ⟨hst : NTSTATUS.ntSuccess status = true, b, rfl, hheap⟩ := hbus
      have hbusHas : s₀.Has (fdoHolds device block a t₁ t₂ o₁ o₂ b) { s with heap := heap } :=
        h.thread hheap
      by_cases hd : o.busData = 0
      · have hrun : fdoCreateBus o device block { FdoFields.zero with
            dx := some device, physicalDeviceObject := true, lowerDeviceObject := some a,
            systemPowerThread := some t₁, devicePowerThread := some t₂ } s =
            .returns (fdoCreateFail8 device block (.withBus device a t₁ t₂ b) status
              { s with heap := heap }) := by
          simp [fdoCreateBus, hc, hst, hd, FdoFields.withBus, FdoFields.zero]
        have hgone : FdoGone s₀ status _ (fdoCreateFail8 device block
            (.withBus device a t₁ t₂ b) status { s with heap := heap }) :=
          fdoCreateFail8_gone (f := []) .nil hr hbusHas
        simp only [hd, if_true, Bool.not_true, Bool.false_eq_true, if_false]
        rw [hrun]
        exact ⟨_, rfl, hgone.fdo, .inl (by rw [hgone.status, hst])⟩
      · have hrun : fdoCreateBus o device block { FdoFields.zero with
            dx := some device, physicalDeviceObject := true, lowerDeviceObject := some a,
            systemPowerThread := some t₁, devicePowerThread := some t₂ } s =
            fdoCreateQueries o device block
              { FdoFields.withBus device a t₁ t₂ b with vendorName := true }
              { s with heap := heap } := by
          simp [fdoCreateBus, hc, hst, FdoFields.withBus, FdoFields.zero]
          exact fun hz => absurd hz hd
        simp only [hd, Bool.not_true, Bool.false_eq_true, if_false]
        rw [hrun]
        exact fdoCreateQueries_comes hr hl hp hbusHas

/-- From the threads on. -/
theorem fdoCreateThreads_comes (hr : s₀.references = 0) (hl : s₀.list = [])
    (hp : s₀.powered = false) (h : s₀.Has (fdoBase device block a) s) :
    FdoComes o s₀
      (fdoCreateThreads o device block { FdoFields.zero with
        dx := some device, physicalDeviceObject := true, lowerDeviceObject := some a } s)
      (if !o.systemPower.succeeds then some .systemPower
      else if !o.devicePower.succeeds then some .devicePower
      else if !o.bus.succeeds then some .bus
      else if o.busData = 0 then some .busData
      else if !o.queries.all LowerAnswer.succeeds then some .query
      else if o.pdoFailsAt.isSome then some .pdo else none) := by
  cases hs₁ : o.systemPower.succeeds with
  | false =>
      obtain ⟨status₁, heap₁, hc₁, hst, hheap⟩ := threadCreate_fails s.heap hs₁
      have hrun : fdoCreateThreads o device block { FdoFields.zero with
          dx := some device, physicalDeviceObject := true, lowerDeviceObject := some a } s =
          .returns (fdoCreateFail5 device block { FdoFields.zero with
            dx := some device, physicalDeviceObject := true, lowerDeviceObject := some a }
            status₁.code { s with heap := heap₁ }) := by
        simp [fdoCreateThreads, hc₁, hst, FdoFields.zero]
      rw [hrun]
      exact ⟨_, status₁.code, rfl, by rw [ntSuccess_code, hst],
        fdoCreateFail5_gone .nil rfl hr (h.thread hheap)⟩
  | true =>
      obtain ⟨status₁, t₁, o₁, heap₁, hc₁, hst, hheap⟩ := threadCreate_succeeds s.heap hs₁
      have hone := h.thread hheap
      cases hs₂ : o.devicePower.succeeds with
      | false =>
          obtain ⟨status₂, heap₂, hc₂, hst₂, hheap₂⟩ := threadCreate_fails heap₁ hs₂
          have hrun : fdoCreateThreads o device block { FdoFields.zero with
              dx := some device, physicalDeviceObject := true, lowerDeviceObject := some a } s =
              .returns (fdoCreateFail6 device block { FdoFields.zero with
                dx := some device, physicalDeviceObject := true, lowerDeviceObject := some a,
                systemPowerThread := some t₁ } status₂.code { s with heap := heap₂ }) := by
            simp [fdoCreateThreads, hc₁, hc₂, hst, hst₂, FdoFields.zero]
          rw [hrun]
          exact ⟨_, status₂.code, _, rfl, by rw [ntSuccess_code, hst₂],
            fdoCreateFail6_gone (f := []) .nil rfl hr (hone.thread hheap₂),
            ThreadObjects.nil.snoc o₁, by simp⟩
      | true =>
          obtain ⟨status₂, t₂, o₂, heap₂, hc₂, hst₂, hheap₂⟩ := threadCreate_succeeds heap₁ hs₂
          have hrun : fdoCreateThreads o device block { FdoFields.zero with
              dx := some device, physicalDeviceObject := true, lowerDeviceObject := some a } s =
              fdoCreateBus o device block { FdoFields.zero with
                dx := some device, physicalDeviceObject := true, lowerDeviceObject := some a,
                systemPowerThread := some t₁, devicePowerThread := some t₂ }
                { s with heap := heap₂ } := by
            simp [fdoCreateThreads, hc₁, hc₂, hst, hst₂, FdoFields.zero]
          rw [hrun]
          exact fdoCreateBus_comes hr hl hp (hone.thread hheap₂)

/-- **What `FdoCreate` comes to**, step by step. -/
theorem fdoCreate_spec (o : FdoOutcome) (h : Heap Object) :
    FdoComes o (.absent h) (fdoCreate o h) o.failsAt := by
  have hdevice := (FdoBus.Has.refl (.absent h)).take .device
  have hblock := hdevice.take .pool
  unfold FdoOutcome.failsAt
  cases hd : NTSTATUS.ntSuccess o.device with
  | false =>
      have hrun : fdoCreate o h = .returns (o.device, none, .absent h) := by
        simp [fdoCreate, hd]
      exact ⟨_, o.device, hrun, hd, rfl, rfl, .refl _⟩
  | true =>
      cases ha : o.allocated with
      | false =>
          have hrun : fdoCreate o h = .returns (fdoCreateFail3 h.next STATUS_NO_MEMORY
              { FdoBus.absent h with heap := h.take .device }) := by
            simp [fdoCreate, hd, ha, FdoBus.absent]
          exact ⟨_, STATUS_NO_MEMORY, hrun, STATUS_NO_MEMORY_error,
            fdoCreateFail3_gone (f := []) .nil hdevice⟩
      | true =>
          cases hat : o.attached with
          | false =>
              have hrun : fdoCreate o h = .returns (fdoCreateFail4 h.next (h.take .device).next
                  { FdoFields.zero with dx := some h.next, physicalDeviceObject := true }
                  STATUS_NO_MEMORY
                  { FdoBus.absent h with heap := (h.take .device).take .pool }) := by
                simp [fdoCreate, hd, ha, hat, FdoBus.absent]
              exact ⟨_, STATUS_NO_MEMORY, hrun, STATUS_NO_MEMORY_error,
                fdoCreateFail4_gone (f := []) .nil rfl rfl hblock⟩
          | true =>
              have hrun : fdoCreate o h = fdoCreateThreads o h.next (h.take .device).next
                  { FdoFields.zero with
                    dx := some h.next, physicalDeviceObject := true,
                    lowerDeviceObject := some ((h.take .device).take .pool).next }
                  { FdoBus.absent h with
                    heap := ((h.take .device).take .pool).take .attachment } := by
                simp [fdoCreate, hd, ha, hat, FdoBus.absent]
              rw [hrun]
              exact fdoCreateThreads_comes rfl rfl rfl (hblock.take .attachment)

end Steps

/-! ## 9. What the creation is to come to -/

/-- `FdoCreate` returns a success just where every step succeeds and the FDO is there; else an
    error, with all that it has taken given back, but for things that are `excused`; and `AddDevice`
    reports success only for an FDO that is there. -/
structure FdoCreateRight (excused : Object → Prop) (o : FdoOutcome) (h : Heap Object)
    (r : FdoResult) : Prop where
  returns : fdoCreate o h = .returns r
  succeeds : NTSTATUS.ntSuccess r.1 = true ↔
    o.failsAt = none ∧ ∃ fdo, r.2.1 = some fdo ∧ FdoReady fdo r.2.2
  fails : NTSTATUS.ntSuccess r.1 = false → r.2.1 = none ∧ NoTrace excused (.absent h) r.2.2
  reported : ∀ r', addDevice o h = .returns r' → NTSTATUS.ntSuccess r'.1 = true → r'.2.1.isSome

variable {o : FdoOutcome} {h : Heap Object} {r : FdoResult} {excused : Object → Prop}

/-- `AddDevice` reports the status that `FdoCreate` returns. -/
theorem addDevice_reports (hr : fdoCreate o h = .returns r) :
    ∃ status, addDevice o h = .returns (status, r.2) ∧
      NTSTATUS.ntSuccess status = NTSTATUS.ntSuccess r.1 := by
  cases hst : NTSTATUS.ntSuccess r.1 with
  | false => exact ⟨r.1, by simp [addDevice, hr, hst], hst⟩
  | true => exact ⟨STATUS_SUCCESS, by simp [addDevice, hr, hst], STATUS_SUCCESS_ok⟩

/-- A failure that is returned as one, with nothing left that is not excused. -/
theorem FdoGone.right {status : NTSTATUS} {kept : List (Object × Nat)}
    (hr : fdoCreate o h = .returns r) (hst : NTSTATUS.ntSuccess status = false)
    (hfails : o.failsAt ≠ none) (hg : FdoGone (.absent h) status kept r)
    (hk : ∀ x ∈ kept, excused x.1) : FdoCreateRight excused o h r where
  returns := hr
  succeeds := by
    rw [hg.status, hst]
    exact iff_of_false Bool.false_ne_true fun hs => hfails hs.1
  fails _ := ⟨hg.fdo, hg.left.noTrace hk⟩
  reported r' hr' hs := by
    obtain ⟨status', hadd, he⟩ := addDevice_reports hr
    cases hadd.symm.trans hr'
    rw [he, hg.status, hst] at hs
    exact absurd hs Bool.false_ne_true

/-- With more left than excused, it is not right. -/
theorem LeftMore.not_right (hr : fdoCreate o h = .returns r) (hl : LeftMore (.absent h) r)
    (hexcused : ∀ k, excused k → k = .threadObject) (r' : FdoResult) :
    ¬FdoCreateRight excused o h r' := by
  intro hright
  obtain rfl : r = r' := Call.returns.inj (hr.symm.trans hright.returns)
  have hnone : ∀ fdo, r.2.1 ≠ some fdo := fun fdo he => by
    rw [hl.fdo] at he
    cases he
  have herror : NTSTATUS.ntSuccess r.1 = false := by
    rw [← Bool.not_eq_true]
    exact fun hs => (hright.succeeds.mp hs).2.elim fun fdo hfdo => hnone fdo hfdo.1
  obtain ⟨kept, hkept, hall⟩ := (hright.fails herror).2.heap
  rcases hl.more with hs | hlt | ⟨k, n, hk, hin, hout⟩
  · rw [herror] at hs
    exact Bool.false_ne_true hs
  · rw [(hright.fails herror).2.asserts] at hlt
    exact Nat.lt_irrefl _ hlt
  · rw [hkept.live] at hin
    rcases List.mem_append.mp hin with hin | hin
    · exact hk (hexcused k (hall _ hin))
    · exact hout hin

/-- **`FdoCreate` comes to what it is to come to just where nothing fails, or the device object, the
    structure, the attachment or the first thread does**: later failures leave references on thread
    objects. But for these it does so just where the bus data can be read, no interface of another
    version is handed out, and the PDO leaves no more either. -/
theorem fdoCreate_right_iff (o : FdoOutcome) (h : Heap Object) :
    ((∃ r, FdoCreateRight (fun _ => False) o h r) ↔ o.trace = .nothing) ∧
    ((∃ r, FdoCreateRight (· = .threadObject) o h r) ↔ o.trace ≠ .more) := by
  have hspec := fdoCreate_spec o h
  unfold FdoOutcome.trace
  cases hfails : o.failsAt with
  | none =>
      rw [hfails] at hspec
      obtain ⟨fdo, s, hr, hready⟩ := hspec
      have hright : ∀ excused, FdoCreateRight excused o h (STATUS_SUCCESS, some fdo, s) :=
        fun excused => ⟨hr, iff_of_true STATUS_SUCCESS_ok ⟨hfails, fdo, rfl, hready⟩,
          fun hst => absurd (STATUS_SUCCESS_ok.symm.trans hst) nofun, fun r' hr' _ => by
            obtain ⟨status, hadd, -⟩ := addDevice_reports hr
            cases hadd.symm.trans hr'
            rfl⟩
      exact ⟨iff_of_true ⟨_, hright _⟩ rfl, iff_of_true ⟨_, hright _⟩ nofun⟩
  | some step =>
      have hne : o.failsAt ≠ none := by
        rw [hfails]
        exact nofun
      rw [hfails] at hspec
      revert hspec
      show FdoLeaves (.absent h) (fdoCreate o h) (o.traceAt step) →
        (_ ↔ o.traceAt step = .nothing) ∧ (_ ↔ o.traceAt step ≠ .more)
      cases o.traceAt step with
      | nothing =>
          rintro ⟨r, status, hr, hst, hg⟩
          exact ⟨iff_of_true ⟨r, hg.right hr hst hne nofun⟩ rfl,
            iff_of_true ⟨r, hg.right hr hst hne nofun⟩ nofun⟩
      | threadObjects =>
          rintro ⟨r, status, kept, hr, hst, hg, hobjects, hkept⟩
          refine ⟨iff_of_false ?_ nofun, iff_of_true ⟨r, hg.right hr hst hne hobjects⟩ nofun⟩
          rintro ⟨r', hright⟩
          obtain rfl : r = r' := Call.returns.inj (hr.symm.trans hright.returns)
          have herror : NTSTATUS.ntSuccess r.1 = false := by rw [hg.status, hst]
          obtain ⟨kept', hk', hexcused⟩ := (hright.fails herror).2.heap
          obtain rfl : kept' = [] := List.eq_nil_iff_forall_not_mem.mpr hexcused
          have hlive : kept ++ h.live = [] ++ h.live := hg.left.heap.live.symm.trans hk'.live
          exact hkept (List.append_cancel_right hlive)
      | more =>
          rintro ⟨r, hr, hl⟩
          exact ⟨iff_of_false (fun ⟨r', hright⟩ => hl.not_right hr (fun _ hk => hk.elim) r' hright)
              nofun,
            iff_of_false (fun ⟨r', hright⟩ => hl.not_right hr (fun _ hk => hk) r' hright)
              fun hn => hn rfl⟩

/-- The lower driver's answer to a request that succeeds. -/
def LowerAnswer.agrees : LowerAnswer := ⟨true, STATUS_SUCCESS, STATUS_SUCCESS⟩

/-- Everything succeeds, but that no byte of the device ID can be read. -/
def noBusData : FdoOutcome where
  device := STATUS_SUCCESS
  allocated := true
  attached := true
  systemPower := ⟨true, .success, .success, false⟩
  devicePower := ⟨true, .success, .success, false⟩
  bus := ⟨true, .agrees, 1⟩
  busData := 0
  debug := .agrees
  suspend := .agrees
  store := .agrees
  console := .agrees
  evtchn := .agrees
  gnttab := .agrees
  pdo := { noConsole with console := true }

/-- `AddDevice` reports success for an FDO that has been deleted. -/
theorem fdoCreate_noBusData :
    (∃ r, addDevice noBusData .empty = .returns r ∧ NTSTATUS.ntSuccess r.1 = true ∧ r.2.1 = none) ∧
      ¬∃ r, FdoCreateRight (· = .threadObject) noBusData .empty r := by
  obtain ⟨r, hr, hl⟩ : FdoLeaves (.absent .empty) (fdoCreate noBusData .empty) .more :=
    fdoCreate_spec noBusData .empty
  exact ⟨⟨_, rfl, by decide, rfl⟩,
    fun ⟨r', hright⟩ => hl.not_right hr (fun _ hk => hk) r' hright⟩

end Xencons
