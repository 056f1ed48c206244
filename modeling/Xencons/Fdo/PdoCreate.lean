import Xencons.Frontend.Abi
import Xencons.Thread.Create

/-!
# Making a PDO, and where it fails (pdo.c, frontend.c, ring.c, console.c, fdo.c)

`PdoCreate` makes a device object, a `XENCONS_PDO`, two threads and a console or a frontend with its
ring and its thread, and puts the PDO into the list of the FDO. Each of these constructors unwinds
through a chain of labels, and asserts that a structure it frees is zero.

* `RingFields`, `FrontendMemory`, `PdoFields` -- the structures, by the fields that are not zero;
* `ringCreate`, `frontendCreate`, `fdoAddPhysicalDeviceObject`, `pdoCreate` -- the code;
* `PdoOutcome.failsAt` -- the step at which the creation fails;
* `ringCreate_spec`, `frontendCreate_spec`, `fail3_spec`, ... -- what each constructor and each label
  leaves;
* `NoTrace` -- what a failure is to leave;
* **`pdoCreate_no_trace_iff`** -- at which steps it leaves that.
-/

namespace Xencons

open Lib

/-! ## 1. The structures -/

/-- An `ASSERT(IsZeroMemory(...))` that fails. -/
inductive ZeroAssertion where
  | ring
  | console
  | frontend
  | pdo
  | fdo
deriving DecidableEq

/-- The fields of a `XENCONS_RING` that are not zero. Spin locks are zero when they are free. -/
structure RingFields where
  frontend : Bool
  debugInterface : Bool
  evtchnInterface : Bool
  gnttabInterface : Bool
  storeInterface : Bool
  dpc : Bool
  readList : Bool
  readCsq : Bool
  writeList : Bool
  writeCsq : Bool
deriving DecidableEq

def RingFields.zero : RingFields :=
  ⟨false, false, false, false, false, false, false, false, false, false⟩

/-- A `PXENCONS_RING`. -/
structure RingAt where
  block : Nat
  fields : RingFields
deriving DecidableEq

/-- A `XENCONS_FRONTEND`: what `FrontendCreate` sets, and what the frontend holds later on. -/
structure FrontendMemory where
  pdo : Bool
  path : Option Nat
  backendDomain : Bool
  debugInterface : Bool
  suspendInterface : Bool
  storeInterface : Bool
  ring : Option RingAt
  ejectEvent : Bool
  ejectThread : Option XenconsThread
  held : Frontend
deriving DecidableEq

/-- What the frontend holds later on is held in fields that are zero when nothing is. -/
def heldIsZero (f : Frontend) : Bool :=
  f.references = 0 && f.state = .unknown && !f.lock && !f.online && f.backendPath.isNone &&
    f.name.isNone && f.protocol.isNone && !f.suspendCallback && !f.debugCallback && !f.watch

def FrontendMemory.isZero (m : FrontendMemory) : Bool :=
  !m.pdo && m.path.isNone && !m.backendDomain && !m.debugInterface && !m.suspendInterface &&
    !m.storeInterface && m.ring.isNone && !m.ejectEvent && m.ejectThread.isNone && heldIsZero m.held

/-- `Pdo->Context`: a `XENCONS_CONSOLE`, with its `References`, or a `XENCONS_FRONTEND`. -/
inductive PdoContext where
  | console (block : Nat) (references : Nat)
  | frontend (block : Nat) (memory : FrontendMemory)
deriving DecidableEq

/-- The fields of a `XENCONS_PDO` that a creation sets. -/
structure PdoFields where
  dx : Option Nat
  fdo : Bool
  systemPowerThread : Option XenconsThread
  devicePowerThread : Option XenconsThread
  suspendInterface : Bool
  isDefault : Bool
  context : Option PdoContext
  abi : Bool
  eject : Bool
deriving DecidableEq

def PdoFields.zero : PdoFields := ⟨none, false, none, none, false, false, none, false, false⟩

/-- The FDO as its PDOs see it, what is live, and the assertions that have failed. -/
structure FdoBus where
  heap : Heap Object
  /-- `Dx->ListEntry` -/
  list : List Nat
  /-- `Fdo->References` -/
  references : Nat
  /-- the FDO is not in D3 -/
  powered : Bool
  failed : List ZeroAssertion

namespace FdoBus

def give (s : FdoBus) (k : Object) (n : Nat) : FdoBus :=
  { s with heap := s.heap.give k (.object n) }

/-- `ASSERT(IsZeroMemory(...))` -/
def assertZero (s : FdoBus) (which : ZeroAssertion) (zero : Bool) : FdoBus :=
  if zero then s else { s with failed := which :: s.failed }

/-- `ThreadAlert` and `ThreadJoin`. -/
def joinThread (s : FdoBus) : Option XenconsThread → FdoBus
  | some t => { s with heap := threadAlertAndJoin t s.heap }
  | none => s

end FdoBus

/-! ## 2. The ring -/

/-- What `RingCreate` meets. -/
structure RingOutcome where
  /-- `__RingAllocate` -/
  allocated : Bool
  /-- `IoCsqInitializeEx`, for the read queue and for the write queue -/
  readCsq : NtStatus
  writeCsq : NtStatus

/-- The ring with its interfaces, its DPC and the list of its read queue. -/
def RingFields.begun : RingFields :=
  ⟨true, true, true, true, true, true, true, false, false, false⟩

/-- `fail2` of `RingCreate`: neither are the other fields cleared nor is the ring freed, and `*Ring`
    is left as it is. -/
def RingFields.fail2 (r : RingFields) : RingFields := { r with readList := false }

def RingFields.fail3 (r : RingFields) : RingFields :=
  { r with writeList := false, readCsq := false }.fail2

/-- `RingCreate`: the status, `*Ring`, and the FDO. -/
def ringCreate (o : RingOutcome) (s : FdoBus) : NtStatus × Option RingAt × FdoBus :=
  if !o.allocated then (.noMemory, none, s)
  else
    let block := s.heap.next
    let s := { s with heap := s.heap.take .pool }
    let r := RingFields.begun
    if !o.readCsq.ntSuccess then (o.readCsq, some ⟨block, r.fail2⟩, s)
    else
      let r := { r with readCsq := true, writeList := true }
      if !o.writeCsq.ntSuccess then (o.writeCsq, some ⟨block, r.fail3⟩, s)
      else (.success, some ⟨block, { r with writeCsq := true }⟩, s)

/-- `RingDestroy`, with nothing in the queues. -/
def ringDestroy (r : RingAt) (s : FdoBus) : FdoBus :=
  let fields := { r.fields with
    writeCsq := false, writeList := false, readCsq := false, readList := false, dpc := false,
    storeInterface := false, gnttabInterface := false, evtchnInterface := false,
    debugInterface := false, frontend := false }
  (s.assertZero .ring (fields = .zero)).give .pool r.block

/-! ## 3. The frontend -/

/-- What `FrontendCreate` meets. -/
structure FrontendOutcome where
  /-- `__FrontendAllocate`, for `Path` -/
  path : Bool
  /-- `RtlStringCbPrintfA` -/
  printed : NtStatus
  /-- `__FrontendAllocate`, for `Frontend` -/
  allocated : Bool
  ring : RingOutcome
  thread : ThreadOutcome
  /-- where `ThreadCreate` has told the thread to end: the thread comes to the last `KeSetEvent` of
      `FrontendEject` when `EjectEvent` has been zeroed and the frontend not asserted to be zero -/
  lateEvent : Bool

/-- A thread that has been created, told to end and not waited for sets the event behind the back of
    `FrontendCreate`. -/
def FrontendOutcome.setsLateEvent (o : FrontendOutcome) : Bool :=
  o.thread.allocated && o.thread.created.ntSuccess && !o.thread.endsFirst && o.lateEvent

/-- The frontend as `FrontendCreate` has it when it comes back from `RingCreate`. -/
def FrontendMemory.withRing (path : Nat) (ring : Option RingAt) : FrontendMemory :=
  ⟨true, some path, true, true, true, true, ring, false, none, .created⟩

/-- `fail2` of `FrontendCreate`, and `fail3`. -/
def frontendCreateFail2 (path : Nat) (status : NtStatus) (s : FdoBus) :
    NtStatus × Option PdoContext × FdoBus := (status, none, s.give .pool path)

/-- What `FrontendCreate` zeroes from `fail4` on, and `FrontendDestroy` at its end. -/
def FrontendMemory.unset (m : FrontendMemory) : FrontendMemory :=
  { m with
    storeInterface := false, suspendInterface := false, debugInterface := false,
    held := { m.held with online := false, lock := false }, backendDomain := false, path := none,
    pdo := false }

/-- `fail4` of `FrontendCreate`. -/
def frontendCreateFail4 (block path : Nat) (m : FrontendMemory) (status : NtStatus) (s : FdoBus) :
    NtStatus × Option PdoContext × FdoBus :=
  frontendCreateFail2 path status ((s.assertZero .frontend m.unset.isZero).give .pool block)

/-- `FrontendCreate` from its thread on. -/
def frontendCreateThread (o : FrontendOutcome) (block path : Nat) (m : FrontendMemory)
    (ring : RingAt) (s : FdoBus) : NtStatus × Option PdoContext × FdoBus :=
  let (status, ejectThread, heap) := threadCreate o.thread s.heap
  let s := { s with heap := heap }
  let m := { m with ejectEvent := true, ejectThread := ejectThread }
  if !status.ntSuccess then
    -- fail5: the thread, where there is one, has been told to end and is not waited for
    let m := { m with ejectEvent := o.setsLateEvent, ring := none }
    frontendCreateFail4 block path m status (ringDestroy ring s)
  else (.success, some (.frontend block m), s)

/-- `FrontendCreate` from its ring on. -/
def frontendCreateRing (o : FrontendOutcome) (block path : Nat) (s : FdoBus) :
    NtStatus × Option PdoContext × FdoBus :=
  match ringCreate o.ring s with
  | (.success, some ring, s) =>
    frontendCreateThread o block path (.withRing path (some ring)) ring s
  | (status, ring, s) => frontendCreateFail4 block path (.withRing path ring) status s

/-- `FrontendCreate` -/
def frontendCreate (o : FrontendOutcome) (s : FdoBus) : NtStatus × Option PdoContext × FdoBus :=
  if !o.path then (.noMemory, none, s)
  else
    let path := s.heap.next
    let s := { s with heap := s.heap.take .pool }
    if !o.printed.ntSuccess then frontendCreateFail2 path o.printed s
    else if !o.allocated then frontendCreateFail2 path .noMemory s
    else frontendCreateRing o s.heap.next path { s with heap := s.heap.take .pool }

/-- `FrontendDestroy` -/
def frontendDestroy (block : Nat) (m : FrontendMemory) (s : FdoBus) : FdoBus :=
  let s := s.joinThread m.ejectThread
  let s := match m.ring with
    | some r => ringDestroy r s
    | none => s
  let s := match m.path with
    | some path => s.give .pool path
    | none => s
  let m := { m with ejectThread := none, ejectEvent := false, ring := none }.unset
  (s.assertZero .frontend m.isZero).give .pool block

/-! ## 4. The console, and either of them -/

/-- `ConsoleCreate` -/
def consoleCreate (allocated : Bool) (s : FdoBus) : NtStatus × Option PdoContext × FdoBus :=
  if !allocated then (.noMemory, none, s)
  else (.success, some (.console s.heap.next 0), { s with heap := s.heap.take .pool })

/-- `ConsoleDestroy`, or `FrontendDestroy`. -/
def PdoContext.destroy (s : FdoBus) : PdoContext → FdoBus
  | .console block references =>
    (s.assertZero .console (decide (references = 0))).give .pool block
  | .frontend block memory => frontendDestroy block memory s

/-- `PdoResume`: the `Acquire` of the console ABI. -/
def PdoContext.pdoResume (fuel : Nat) (tape : Nat → Answer) (n : Nat) :
    PdoContext → Call (NtStatus × Nat × PdoContext)
  | .console block references => .returns (.success, n, .console block (references + 1))
  | .frontend block m => do
    let (status, n, f) ← frontendAbiAcquire fuel tape n m.held
    .returns (status, n, .frontend block { m with held := f })

/-- `PdoSuspend`: the `Release`. -/
def PdoContext.pdoSuspend (fuel : Nat) (tape : Nat → Answer) (n : Nat) : PdoContext → Call PdoContext
  | .console block references => .returns (.console block (references - 1))
  | .frontend block m => do
    let (_, _, f) ← frontendAbiRelease fuel tape n m.held
    .returns (.frontend block { m with held := f })

/-! ## 5. PdoCreate -/

/-- What `PdoCreate` meets. -/
structure PdoOutcome where
  /-- `IoCreateDeviceSecure` -/
  device : NtStatus
  /-- `__PdoAllocate` -/
  allocated : Bool
  systemPower : ThreadOutcome
  devicePower : ThreadOutcome
  /-- `ConsoleCreate`, of the default console -/
  console : Bool
  /-- `FrontendCreate`, of any other -/
  frontend : FrontendOutcome
  /-- an eject of the PDO has been requested by the time it is in the list -/
  eject : Bool

/-- `fail2` of `PdoCreate`. -/
def pdoCreateFail2 (device : Nat) (status : NtStatus) (s : FdoBus) : NtStatus × FdoBus :=
  (status, s.give .device device)

def pdoCreateFail3 (device block : Nat) (pdo : PdoFields) (status : NtStatus) (s : FdoBus) :
    NtStatus × FdoBus :=
  let pdo := { pdo with fdo := false, dx := none }
  pdoCreateFail2 device status ((s.assertZero .pdo (pdo = .zero)).give .pool block)

def pdoCreateFail4 (device block : Nat) (pdo : PdoFields) (status : NtStatus) (s : FdoBus) :
    NtStatus × FdoBus :=
  let s := s.joinThread pdo.systemPowerThread
  pdoCreateFail3 device block { pdo with systemPowerThread := none } status s

def pdoCreateFail5 (device block : Nat) (pdo : PdoFields) (status : NtStatus) (s : FdoBus) :
    NtStatus × FdoBus :=
  let s := s.joinThread pdo.devicePowerThread
  let pdo := { pdo with suspendInterface := false, devicePowerThread := none }
  pdoCreateFail4 device block pdo status s

def pdoCreateFail6 (device block : Nat) (pdo : PdoFields) (context : PdoContext)
    (status : NtStatus) (s : FdoBus) : NtStatus × FdoBus :=
  let s := context.destroy s
  let pdo := { pdo with eject := false, abi := false, context := none, isDefault := false }
  pdoCreateFail5 device block pdo status s

/-- `InsertTailList`, and the reference. -/
def FdoBus.insert (s : FdoBus) (device : Nat) : FdoBus :=
  { s with list := s.list ++ [device], references := s.references + 1 }

/-- `RemoveEntryList`, and the reference. The entry is looked for from the tail, where it was
    inserted; no entry is in a list twice. -/
def FdoBus.remove (s : FdoBus) (device : Nat) : FdoBus :=
  { s with list := (s.list.reverse.erase device).reverse, references := s.references - 1 }

/-- `FdoAddPhysicalDeviceObject`; the answers are those of the suspend interface of a frontend. -/
def fdoAddPhysicalDeviceObject (fuel : Nat) (tape : Nat → Answer) (device : Nat)
    (context : PdoContext) (s : FdoBus) : Call (NtStatus × Nat × PdoContext × FdoBus) :=
  if !s.powered then .returns (.success, 0, context, s.insert device)
  else
    (PdoContext.pdoResume fuel tape 0 context).bind fun (status, n, context) =>
      if !status.ntSuccess then .returns (status, n, context, s)
      else .returns (.success, n, context, s.insert device)

/-- `FdoRemovePhysicalDeviceObject` -/
def fdoRemovePhysicalDeviceObject (fuel : Nat) (tape : Nat → Answer) (n device : Nat)
    (context : PdoContext) (s : FdoBus) : Call (PdoContext × FdoBus) :=
  if !s.powered then .returns (context, s.remove device)
  else
    (PdoContext.pdoSuspend fuel tape n context).bind fun context =>
      .returns (context, s.remove device)

/-- `PdoCreate` from `FdoAddPhysicalDeviceObject` on. -/
def pdoCreateAdd (fuel : Nat) (tape : Nat → Answer) (o : PdoOutcome) (device block : Nat)
    (pdo : PdoFields) (context : PdoContext) (s : FdoBus) : Call (NtStatus × FdoBus) :=
  let pdo := { pdo with context := some context, abi := true, eject := o.eject }
  (fdoAddPhysicalDeviceObject fuel tape device context s).bind fun (status, n, context, s) =>
    if !status.ntSuccess then .returns (pdoCreateFail6 device block pdo context status s)
    else if o.eject then
      -- fail7
      (fdoRemovePhysicalDeviceObject fuel tape n device context s).bind fun (context, s) =>
        .returns (pdoCreateFail6 device block pdo context .unsuccessful s)
    else .returns (.success, s)

/-- `PdoCreate` from `__PdoSetName` on. -/
def pdoCreateContext (fuel : Nat) (tape : Nat → Answer) (o : PdoOutcome) (isDefault : Bool)
    (device block : Nat) (pdo : PdoFields) (s : FdoBus) : Call (NtStatus × FdoBus) :=
  let pdo := { pdo with suspendInterface := true, isDefault := isDefault }
  match if isDefault then consoleCreate o.console s else frontendCreate o.frontend s with
  | (_, some context, s) => pdoCreateAdd fuel tape o device block pdo context s
  | (status, none, s) => .returns (pdoCreateFail5 device block pdo status s)

/-- `PdoCreate` from its threads on. -/
def pdoCreateThreads (fuel : Nat) (tape : Nat → Answer) (o : PdoOutcome) (isDefault : Bool)
    (device block : Nat) (s : FdoBus) : Call (NtStatus × FdoBus) :=
  let pdo := { PdoFields.zero with dx := some device, fdo := true }
  let (status, systemPowerThread, heap) := threadCreate o.systemPower s.heap
  let s := { s with heap := heap }
  let pdo := { pdo with systemPowerThread := systemPowerThread }
  if !status.ntSuccess then .returns (pdoCreateFail3 device block pdo status s)
  else
    let (status, devicePowerThread, heap) := threadCreate o.devicePower s.heap
    let s := { s with heap := heap }
    let pdo := { pdo with devicePowerThread := devicePowerThread }
    if !status.ntSuccess then .returns (pdoCreateFail4 device block pdo status s)
    else pdoCreateContext fuel tape o isDefault device block pdo s

/-- `PdoCreate` -/
def pdoCreate (fuel : Nat) (tape : Nat → Answer) (o : PdoOutcome) (isDefault : Bool) (s : FdoBus) :
    Call (NtStatus × FdoBus) :=
  if !o.device.ntSuccess then .returns (o.device, s)
  else
    let device := s.heap.next
    let s := { s with heap := s.heap.take .device }
    if !o.allocated then .returns (pdoCreateFail2 device .noMemory s)
    else
      let block := s.heap.next
      pdoCreateThreads fuel tape o isDefault device block { s with heap := s.heap.take .pool }

/-! ## 6. Where it fails -/

/-- The steps of a creation that can fail. -/
inductive PdoStep where
  | device
  | pdo
  | systemPower
  | devicePower
  | console
  | path
  | printed
  | frontend
  | ring
  | readCsq
  | writeCsq
  | ejectThread
  /-- the `Acquire` of the suspend interface, and the `Register` -/
  | acquire
  | register
  | eject
deriving DecidableEq

/-- The step at which `RingCreate` fails. -/
def RingOutcome.failsAt (o : RingOutcome) : Option PdoStep :=
  if !o.allocated then some .ring
  else if !o.readCsq.ntSuccess then some .readCsq
  else if !o.writeCsq.ntSuccess then some .writeCsq
  else none

/-- The step at which `FrontendCreate` fails. -/
def FrontendOutcome.failsAt (o : FrontendOutcome) : Option PdoStep :=
  if !o.path then some .path
  else if !o.printed.ntSuccess then some .printed
  else if !o.allocated then some .frontend
  else match o.ring.failsAt with
    | some step => some step
    | none => if !o.thread.succeeds then some .ejectThread else none

/-- The step at which a console or a frontend cannot be made. -/
def PdoOutcome.contextFailsAt (o : PdoOutcome) (isDefault : Bool) : Option PdoStep :=
  if isDefault then if !o.console then some .console else none else o.frontend.failsAt

/-- The step at which the PDO, made, does not get into the list or does not stay there. -/
def PdoOutcome.addFailsAt (o : PdoOutcome) (isDefault powered : Bool) (tape : Nat → Answer) :
    Option PdoStep :=
  if powered && !isDefault && !(tape 0).status.ntSuccess then some .acquire
  else if powered && !isDefault && !(tape 1).status.ntSuccess then some .register
  else if o.eject then some .eject
  else none

/-- The step at which `PdoCreate` fails. -/
def PdoOutcome.failsAt (o : PdoOutcome) (isDefault powered : Bool) (tape : Nat → Answer) :
    Option PdoStep :=
  if !o.device.ntSuccess then some .device
  else if !o.allocated then some .pdo
  else if !o.systemPower.succeeds then some .systemPower
  else if !o.devicePower.succeeds then some .devicePower
  else match o.contextFailsAt isDefault with
    | some step => some step
    | none => o.addFailsAt isDefault powered tape

/-- **What a failure is to leave**: the list and the count as they were, every assertion met, and
    nothing live that was not, but for things that are `excused`. -/
structure NoTrace (excused : Object → Prop) (s s' : FdoBus) : Prop where
  heap : ∃ kept, s.heap.Has kept s'.heap ∧ ∀ x ∈ kept, excused x.1
  list : s'.list = s.list
  references : s'.references = s.references
  asserts : s'.failed = s.failed

/-! ## 7. What each constructor and each label leaves -/

/-- `s'` has so much more live than `s`, and is as `s` in everything else. -/
structure FdoBus.Has (s : FdoBus) (kept : List (Object × Nat)) (s' : FdoBus) : Prop where
  heap : s.heap.Has kept s'.heap
  list : s'.list = s.list
  references : s'.references = s.references
  powered : s'.powered = s.powered
  failed : s'.failed = s.failed

namespace FdoBus

variable {s s' s'' : FdoBus} {kept kept' front : List (Object × Nat)} {k : Object} {n : Nat}

theorem Has.refl (s : FdoBus) : s.Has [] s := ⟨.refl _, rfl, rfl, rfl, rfl⟩

theorem Has.trans (h : s.Has kept s') (h' : s'.Has kept' s'') : s.Has (kept' ++ kept) s'' :=
  ⟨h.heap.trans h'.heap, h'.list.trans h.list, h'.references.trans h.references,
    h'.powered.trans h.powered, h'.failed.trans h.failed⟩

theorem Has.take (h : s.Has kept s') (k : Object) :
    s.Has ((k, s'.heap.next) :: kept) { s' with heap := s'.heap.take k } :=
  ⟨h.heap.take k, h.list, h.references, h.powered, h.failed⟩

theorem Has.giveHead (h : s.Has ((k, n) :: kept) s') : s.Has kept (s'.give k n) :=
  ⟨h.heap.giveHead, h.list, h.references, h.powered, h.failed⟩

theorem Has.giveBehind (h : s.Has (front ++ (k, n) :: kept) s') (hf : (k, n) ∉ front) :
    s.Has (front ++ kept) (s'.give k n) :=
  ⟨h.heap.giveBehind hf, h.list, h.references, h.powered, h.failed⟩

theorem Has.thread {heap : Heap Object} (h : s.Has kept s') (ht : s'.heap.Has kept' heap) :
    s.Has (kept' ++ kept) { s' with heap := heap } :=
  ⟨h.heap.trans ht, h.list, h.references, h.powered, h.failed⟩

theorem Has.join {t : XenconsThread} {object : Nat} (hf : ThreadObjects front)
    (h : s.Has (front ++ (t.holds object ++ kept)) s') :
    s.Has (front ++ (.threadObject, object) :: kept) (s'.joinThread (some t)) :=
  ⟨threadAlertAndJoin_has hf h.heap, h.list, h.references, h.powered, h.failed⟩

/-- No label takes back what an assertion has said. -/
theorem failed_le_assertZero (s : FdoBus) (which : ZeroAssertion) (zero : Bool) :
    s.failed.length ≤ (s.assertZero which zero).failed.length := by
  cases zero with
  | true => exact Nat.le_refl _
  | false => exact Nat.le_succ _

@[simp] theorem failed_joinThread (s : FdoBus) (t : Option XenconsThread) :
    (s.joinThread t).failed = s.failed := by
  cases t <;> rfl

end FdoBus

theorem ringDestroy_eq (r : RingAt) (s : FdoBus) : ringDestroy r s = s.give .pool r.block := rfl

theorem failsAt_cases {o : RingOutcome} {step : PdoStep} (h : o.failsAt = some step) :
    step = .ring ∨ step = .readCsq ∨ step = .writeCsq := by
  unfold RingOutcome.failsAt at h
  split at h
  · exact .inl (Option.some.inj h).symm
  · split at h
    · exact .inr (.inl (Option.some.inj h).symm)
    · split at h
      · exact .inr (.inr (Option.some.inj h).symm)
      · cases h

/-- **`RingCreate`** leaves a ring, also where it fails: only where there is no memory is there
    none. -/
theorem ringCreate_spec (o : RingOutcome) (s : FdoBus) :
    match o.failsAt with
    | none => ∃ r, r.block = s.heap.next ∧
        ringCreate o s = (.success, some r, { s with heap := s.heap.take .pool })
    | some .ring => ringCreate o s = (.noMemory, none, s)
    | some _ => ∃ status r, status.ntSuccess = false ∧
        ringCreate o s = (status, some r, { s with heap := s.heap.take .pool }) := by
  unfold ringCreate RingOutcome.failsAt
  cases o.allocated with
  | false => rfl
  | true =>
      cases hr : o.readCsq.ntSuccess with
      | false => exact ⟨_, _, hr, rfl⟩
      | true =>
          cases hw : o.writeCsq.ntSuccess with
          | false => exact ⟨_, _, hw, rfl⟩
          | true => exact ⟨_, rfl, rfl⟩

/-- The step leaves more than it found, and an assertion says so. -/
def FrontendOutcome.leavesMore (o : FrontendOutcome) : PdoStep → Bool
  | .readCsq | .writeCsq => true
  | .ejectThread => o.setsLateEvent
  | _ => false

/-- What a frontend that has been made comes to. -/
structure FrontendMade (s : FdoBus) (block : Nat) (m : FrontendMemory) (s' : FdoBus) : Prop where
  made : ∃ path ring t object, path ≠ block ∧
    m = ⟨true, some path, true, true, true, true, some ring, true, some t, .created⟩ ∧
      s.Has (t.holds object ++ [(.pool, ring.block), (.pool, block), (.pool, path)]) s'

section Frontend

variable {s₀ s : FdoBus} {block path : Nat} {status : NtStatus} {kept : List (Object × Nat)}

/-- The labels of `FrontendCreate` with everything that is set put down again: they give back what
    they are for. -/
theorem frontendCreateFail4_has (h : s₀.Has ((.pool, block) :: (.pool, path) :: kept) s) :
    s₀.Has kept (frontendCreateFail4 block path (.withRing path none) status s).2.2 :=
  h.giveHead.giveHead

/-- With a ring, or an event, the frontend is not zero. -/
theorem frontendCreateFail4_failed {m : FrontendMemory}
    (hm : m.ring.isSome = true ∨ m.ejectEvent = true) :
    s.failed.length < (frontendCreateFail4 block path m status s).2.2.failed.length := by
  have hzero : m.unset.isZero = false := by
    rcases hm with hm | hm
    · obtain ⟨r, hr⟩ := Option.isSome_iff_exists.mp hm
      simp [FrontendMemory.isZero, FrontendMemory.unset, hr]
    · simp [FrontendMemory.isZero, FrontendMemory.unset, hm]
  unfold frontendCreateFail4
  rw [hzero]
  exact Nat.lt_succ_self _

/-- What is left of a frontend that cannot be made. -/
def FrontendFails (o : FrontendOutcome) (s₀ : FdoBus) (step : PdoStep)
    (r : NtStatus × Option PdoContext × FdoBus) : Prop :=
  r.1.ntSuccess = false ∧ r.2.1 = none ∧
    if o.leavesMore step then s₀.failed.length < r.2.2.failed.length else s₀.Has [] r.2.2

/-- What is left of one that can. -/
def FrontendSucceeds (s₀ : FdoBus) (r : NtStatus × Option PdoContext × FdoBus) : Prop :=
  r.1.ntSuccess = true ∧ ∃ block m, r.2.1 = some (.frontend block m) ∧ FrontendMade s₀ block m r.2.2

theorem frontendCreateThread_spec (o : FrontendOutcome) {ring : RingAt} (hne : path ≠ block)
    (h : s₀.Has [(.pool, ring.block), (.pool, block), (.pool, path)] s) :
    if o.thread.succeeds then
      FrontendSucceeds s₀ (frontendCreateThread o block path (.withRing path (some ring)) ring s)
    else FrontendFails o s₀ .ejectThread
      (frontendCreateThread o block path (.withRing path (some ring)) ring s) := by
  cases ht : o.thread.succeeds with
  | true =>
      obtain ⟨status, t, object, heap, hc, hst, hheap⟩ := threadCreate_succeeds s.heap ht
      have hr : frontendCreateThread o block path (.withRing path (some ring)) ring s =
          (.success, some (.frontend block ⟨true, some path, true, true, true, true, some ring, true,
            some t, .created⟩), { s with heap := heap }) := by
        simp [frontendCreateThread, FrontendMemory.withRing, hc, hst]
      rw [if_pos rfl, hr]
      exact ⟨rfl, block, _, rfl, ⟨path, ring, t, object, hne, rfl, h.thread hheap⟩⟩
  | false =>
      obtain ⟨status, heap, hc, hst, hheap⟩ := threadCreate_fails s.heap ht
      have hr : frontendCreateThread o block path (.withRing path (some ring)) ring s =
          frontendCreateFail4 block path { FrontendMemory.withRing path none with
            ejectEvent := o.setsLateEvent } status (({ s with heap := heap }).give .pool ring.block)
          := by
        simp [frontendCreateThread, FrontendMemory.withRing, hc, hst, ringDestroy_eq]
      rw [if_neg Bool.false_ne_true, hr]
      refine ⟨hst, rfl, ?_⟩
      have hgone : s₀.Has [(.pool, block), (.pool, path)]
          (({ s with heap := heap }).give .pool ring.block) := (h.thread hheap).giveHead
      have hmore : o.leavesMore .ejectThread = o.setsLateEvent := rfl
      rw [hmore]
      cases o.setsLateEvent with
      | true =>
          rw [if_pos rfl, ← hgone.failed]
          exact frontendCreateFail4_failed (.inr rfl)
      | false =>
          rw [if_neg Bool.false_ne_true]
          exact frontendCreateFail4_has hgone

/-- A `RingCreate` that fails and leaves a ring behind. -/
theorem frontendCreateRing_more {o : FrontendOutcome} {step : PdoStep} {r : RingAt}
    (hl : o.leavesMore step = true) (hst : status.ntSuccess = false)
    (h : s₀.Has [(.pool, block), (.pool, path)] s)
    (hc : ringCreate o.ring s = (status, some r, { s with heap := s.heap.take .pool })) :
    FrontendFails o s₀ step (frontendCreateRing o block path s) := by
  have hrun : frontendCreateRing o block path s = frontendCreateFail4 block path
      (.withRing path (some r)) status { s with heap := s.heap.take .pool } := by
    rw [frontendCreateRing, hc]
    cases status <;> first | rfl | cases hst
  rw [hrun]
  refine ⟨hst, rfl, ?_⟩
  rw [if_pos hl, ← h.failed]
  exact frontendCreateFail4_failed (s := { s with heap := s.heap.take .pool }) (.inl rfl)

theorem frontendCreateRing_spec (o : FrontendOutcome) (hne : path ≠ block)
    (h : s₀.Has [(.pool, block), (.pool, path)] s) :
    match o.ring.failsAt with
    | some step => FrontendFails o s₀ step (frontendCreateRing o block path s)
    | none => if o.thread.succeeds then FrontendSucceeds s₀ (frontendCreateRing o block path s)
        else FrontendFails o s₀ .ejectThread (frontendCreateRing o block path s) := by
  have hring := ringCreate_spec o.ring s
  cases hr : o.ring.failsAt with
  | some step =>
      rw [hr] at hring
      rcases failsAt_cases hr with rfl | rfl | rfl
      · have hrun : frontendCreateRing o block path s =
            frontendCreateFail4 block path (.withRing path none) .noMemory s := by
          rw [frontendCreateRing, hring]
        rw [hrun]
        exact ⟨rfl, rfl, frontendCreateFail4_has h⟩
      · obtain ⟨status, r, hst, hc⟩ := hring
        exact frontendCreateRing_more rfl hst h hc
      · obtain ⟨status, r, hst, hc⟩ := hring
        exact frontendCreateRing_more rfl hst h hc
  | none =>
      rw [hr] at hring
      obtain ⟨r, hrb, hc⟩ := hring
      have hrun : frontendCreateRing o block path s = frontendCreateThread o block path
          (.withRing path (some r)) r { s with heap := s.heap.take .pool } := by
        rw [frontendCreateRing, hc]
      have htaken := h.take .pool
      rw [← hrb] at htaken
      rw [hrun]
      exact frontendCreateThread_spec o hne htaken

/-- **`FrontendCreate`** leaves a frontend with its ring and its thread, or what it found; or more
    than that, where a queue of the ring or the thread fails it. -/
theorem frontendCreate_spec (o : FrontendOutcome) (s : FdoBus) :
    match o.failsAt with
    | none => FrontendSucceeds s (frontendCreate o s)
    | some step => FrontendFails o s step (frontendCreate o s) := by
  have hpath := (FdoBus.Has.refl s).take .pool
  unfold frontendCreate FrontendOutcome.failsAt
  cases o.path with
  | false => exact ⟨rfl, rfl, .refl s⟩
  | true =>
      cases hp : o.printed.ntSuccess with
      | false => exact ⟨hp, rfl, hpath.giveHead⟩
      | true =>
          cases o.allocated with
          | false => exact ⟨rfl, rfl, hpath.giveHead⟩
          | true =>
              have hring := frontendCreateRing_spec o (Nat.ne_of_lt (Nat.lt_succ_self _))
                (hpath.take .pool)
              simp only [Bool.not_true, Bool.false_eq_true, if_false]
              cases hr : o.ring.failsAt with
              | some step =>
                  rw [hr] at hring
                  exact hring
              | none =>
                  rw [hr] at hring
                  cases ht : o.thread.succeeds with
                  | true =>
                      rw [ht] at hring
                      exact hring
                  | false =>
                      rw [ht] at hring
                      exact hring

end Frontend

/-! ## 8. The labels of PdoCreate -/

section Labels

variable {s₀ s : FdoBus} {device block : Nat} {pdo : PdoFields} {status : NtStatus}
  {front : List (Object × Nat)} {t₁ t₂ : XenconsThread} {o₁ o₂ : Nat}

/-- The structures that every label from `fail3` on is to give back. -/
def pdoBase (device block : Nat) : List (Object × Nat) := [(.pool, block), (.device, device)]

theorem pdoCreateFail2_has (hf : ThreadObjects front)
    (h : s₀.Has (front ++ [(.device, device)]) s) :
    s₀.Has front (pdoCreateFail2 device status s).2 := by
  have hgone := h.giveBehind (hf.notMem (k := .device) nofun device)
  rwa [List.append_nil] at hgone

theorem pdoCreateFail3_has (hf : ThreadObjects front)
    (hz : { pdo with fdo := false, dx := none } = PdoFields.zero)
    (h : s₀.Has (front ++ pdoBase device block) s) :
    s₀.Has front (pdoCreateFail3 device block pdo status s).2 := by
  have hgone := h.giveBehind (hf.notMem (k := .pool) nofun block)
  unfold pdoCreateFail3
  rw [hz]
  exact pdoCreateFail2_has hf hgone

theorem ThreadObjects.snoc (hf : ThreadObjects front) (n : Nat) :
    ThreadObjects (front ++ [(.threadObject, n)]) := by
  intro x hx
  rcases List.mem_append.mp hx with hx | hx
  · exact hf x hx
  · rw [List.mem_singleton.mp hx]

theorem pdoCreateFail4_has (hf : ThreadObjects front) (ht : pdo.systemPowerThread = some t₁)
    (hz : { pdo with systemPowerThread := none, fdo := false, dx := none } = PdoFields.zero)
    (h : s₀.Has (front ++ (t₁.holds o₁ ++ pdoBase device block)) s) :
    s₀.Has (front ++ [(.threadObject, o₁)]) (pdoCreateFail4 device block pdo status s).2 := by
  have hjoined := h.join hf
  rw [List.append_cons] at hjoined
  unfold pdoCreateFail4
  rw [ht]
  exact pdoCreateFail3_has (hf.snoc o₁) hz hjoined

theorem pdoCreateFail5_has (hf : ThreadObjects front) (ht₂ : pdo.devicePowerThread = some t₂)
    (ht₁ : pdo.systemPowerThread = some t₁)
    (hz : { pdo with suspendInterface := false, devicePowerThread := none, systemPowerThread := none,
                     fdo := false, dx := none } = PdoFields.zero)
    (h : s₀.Has (front ++ (t₂.holds o₂ ++ (t₁.holds o₁ ++ pdoBase device block))) s) :
    s₀.Has (front ++ [(.threadObject, o₂)] ++ [(.threadObject, o₁)])
      (pdoCreateFail5 device block pdo status s).2 := by
  have hjoined := h.join hf
  rw [List.append_cons] at hjoined
  unfold pdoCreateFail5
  rw [ht₂]
  exact pdoCreateFail4_has (hf.snoc o₂) ht₁ hz hjoined

/-- Behind `fail3` an assertion that has failed has failed. -/
theorem pdoCreateFail3_failed (s : FdoBus) :
    s.failed.length ≤ (pdoCreateFail3 device block pdo status s).2.failed.length :=
  s.failed_le_assertZero _ _

theorem pdoCreateFail5_failed (s : FdoBus) :
    s.failed.length ≤ (pdoCreateFail5 device block pdo status s).2.failed.length := by
  unfold pdoCreateFail5 pdoCreateFail4
  refine Nat.le_trans (Nat.le_of_eq ?_) (pdoCreateFail3_failed _)
  rw [FdoBus.failed_joinThread, FdoBus.failed_joinThread]

/-- `ConsoleCreate` has failed: `IsDefault` is still set when the PDO is asserted to be zero. -/
theorem pdoCreateFail5_isDefault (hd : pdo.isDefault = true) (s : FdoBus) :
    s.failed.length < (pdoCreateFail5 device block pdo status s).2.failed.length := by
  obtain ⟨dx, fdo, systemPower, devicePower, suspend, isDefault, context, abi, eject⟩ := pdo
  subst hd
  have hthen : (pdoCreateFail5 device block
      ⟨dx, fdo, systemPower, devicePower, suspend, true, context, abi, eject⟩ status s).2.failed =
      .pdo :: ((s.joinThread devicePower).joinThread systemPower).failed := rfl
  rw [hthen, FdoBus.failed_joinThread, FdoBus.failed_joinThread]
  exact Nat.lt_succ_self _

end Labels

/-! ## 9. The list of the FDO -/

section Add

variable {fuel : Nat} {tape : Nat → Answer} {n : Nat}

/-- The suspend interface does not let the frontend in: nothing is held. -/
theorem frontendAbiAcquire_refused (h : (tape 0).status.ntSuccess = false) :
    frontendAbiAcquire fuel tape 0 .created = .returns ((tape 0).status, 1, .created) := by
  simp [frontendAbiAcquire, run_acquireLock, Frontend.created, abiAcquireFail1, releaseLock, h]

/-- It does: the frontend is held once, and still in UNKNOWN, so that its thread asks for no
    eject. -/
theorem frontendAbiAcquire_acquired (fuel : Nat) (h : (tape 0).status.ntSuccess = true)
    (h' : (tape 1).status.ntSuccess = true) :
    ∃ n f, frontendAbiAcquire fuel tape 0 .created = .returns (.success, n, f) ∧
      f.lock = false ∧ f.references = 1 := by
  simp [frontendAbiAcquire, run_acquireLock, Frontend.created, abiDone, frontendEjectWake,
    releaseLock, h, h']

@[simp] theorem remove_insert (s : FdoBus) (device : Nat) :
    (s.insert device).remove device = s := by
  simp [FdoBus.insert, FdoBus.remove]

@[simp] theorem insert_powered (s : FdoBus) (device : Nat) :
    (s.insert device).powered = s.powered := rfl

/-- What is live when a creation is over, beside what was. -/
inductive Trace where
  | nothing
  /-- references on the objects of threads that have ended -/
  | threadObjects
  /-- or the assertions that failed, or the lock that is never free again -/
  | more
deriving DecidableEq

/-- What a creation leaves where it fails. -/
def LeavesTrace (s₀ : FdoBus) (c : Call (NtStatus × FdoBus)) : Trace → Prop
  | .nothing => ∃ r, c = .returns r ∧ (r.1.ntSuccess = false → s₀.Has [] r.2)
  | .threadObjects => ∃ r kept, c = .returns r ∧ r.1.ntSuccess = false ∧ s₀.Has kept r.2 ∧
      ThreadObjects kept ∧ kept ≠ []
  | .more => ∀ r, c = .returns r → r.1.ntSuccess = false ∧ s₀.failed.length < r.2.failed.length

variable {s₀ s s' : FdoBus} {device block : Nat} {t₁ t₂ : XenconsThread} {o₁ o₂ : Nat}
  {isDefault : Bool} {status : NtStatus} {front : List (Object × Nat)} {o : PdoOutcome}

/-- The PDO with its threads, before it has a console or a frontend. -/
def PdoFields.made (device : Nat) (t₁ t₂ : XenconsThread) (isDefault : Bool) : PdoFields :=
  ⟨some device, true, some t₁, some t₂, true, isDefault, none, false, false⟩

/-- What a PDO with its threads comes to. -/
def pdoMade (device block : Nat) (t₁ t₂ : XenconsThread) (o₁ o₂ : Nat) : List (Object × Nat) :=
  t₂.holds o₂ ++ (t₁.holds o₁ ++ pdoBase device block)

/-- From `fail6` on everything but the references on the thread objects is given back. -/
theorem pdoCreateFail6_leaves {context context' : PdoContext} (hf : ThreadObjects front)
    (hst : status.ntSuccess = false)
    (h : s₀.Has (front ++ pdoMade device block t₁ t₂ o₁ o₂) (context'.destroy s)) :
    LeavesTrace s₀ (.returns (pdoCreateFail6 device block
      { PdoFields.made device t₁ t₂ isDefault with
        context := some context, abi := true, eject := o.eject } context' status s))
      .threadObjects := by
  refine ⟨_, front ++ [(.threadObject, o₂)] ++ [(.threadObject, o₁)], rfl, hst, ?_,
    (hf.snoc o₂).snoc o₁, by simp⟩
  unfold pdoCreateFail6
  exact pdoCreateFail5_has hf rfl rfl rfl h

/-- The PDO gets into the list, and out of it where an eject is pending. -/
theorem pdoCreateAdd_listed {context context' context'' : PdoContext}
    (hadd : fdoAddPhysicalDeviceObject fuel tape device context s =
      .returns (.success, n, context', s.insert device))
    (hremove : fdoRemovePhysicalDeviceObject fuel tape n device context' (s.insert device) =
      .returns (context'', s)) (hf : ThreadObjects front)
    (h : s₀.Has (front ++ pdoMade device block t₁ t₂ o₁ o₂) (context''.destroy s)) :
    LeavesTrace s₀ (pdoCreateAdd fuel tape o device block (.made device t₁ t₂ isDefault) context s)
      (if o.eject then .threadObjects else .nothing) := by
  cases he : o.eject with
  | false =>
      have hrun : pdoCreateAdd fuel tape o device block (.made device t₁ t₂ isDefault) context s =
          .returns (.success, s.insert device) := by
        simp [pdoCreateAdd, hadd, he]
      exact ⟨_, hrun, nofun⟩
  | true =>
      have hrun : pdoCreateAdd fuel tape o device block (.made device t₁ t₂ isDefault) context s =
          .returns (pdoCreateFail6 device block { PdoFields.made device t₁ t₂ isDefault with
            context := some context, abi := true, eject := o.eject } context'' .unsuccessful s) := by
        simp [pdoCreateAdd, hadd, hremove, he]
      rw [hrun]
      exact pdoCreateFail6_leaves hf rfl h

/-- With the FDO in D3 nobody is asked. -/
theorem pdoCreateAdd_unpowered {context : PdoContext} (hp : s.powered = false)
    (hf : ThreadObjects front)
    (h : s₀.Has (front ++ pdoMade device block t₁ t₂ o₁ o₂) (context.destroy s)) :
    LeavesTrace s₀ (pdoCreateAdd fuel tape o device block (.made device t₁ t₂ isDefault) context s)
      (if o.eject then .threadObjects else .nothing) :=
  have hadd : fdoAddPhysicalDeviceObject fuel tape device context s =
      .returns (.success, 0, context, s.insert device) := by
    simp [fdoAddPhysicalDeviceObject, hp]
  have hremove : fdoRemovePhysicalDeviceObject fuel tape 0 device context (s.insert device) =
      .returns (context, s) := by
    simp [fdoRemovePhysicalDeviceObject, hp]
  pdoCreateAdd_listed hadd hremove hf h

/-- The default console can always be acquired. -/
theorem pdoCreateAdd_console {cb : Nat}
    (h : s₀.Has ((.pool, cb) :: pdoMade device block t₁ t₂ o₁ o₂) s) :
    LeavesTrace s₀ (pdoCreateAdd fuel tape o device block (.made device t₁ t₂ isDefault)
      (.console cb 0) s) (if o.eject then .threadObjects else .nothing) := by
  have hdestroy : s₀.Has ([] ++ pdoMade device block t₁ t₂ o₁ o₂)
      (PdoContext.destroy s (.console cb 0)) := h.giveHead
  cases hp : s.powered with
  | false => exact pdoCreateAdd_unpowered hp .nil hdestroy
  | true =>
      have hadd : fdoAddPhysicalDeviceObject fuel tape device (.console cb 0) s =
          .returns (.success, 0, .console cb 1, s.insert device) := by
        simp [fdoAddPhysicalDeviceObject, PdoContext.pdoResume, hp]
      have hremove : fdoRemovePhysicalDeviceObject fuel tape 0 device (.console cb 1)
          (s.insert device) = .returns (.console cb 0, s) := by
        simp [fdoRemovePhysicalDeviceObject, PdoContext.pdoSuspend, hp]
      exact pdoCreateAdd_listed hadd hremove .nil hdestroy

/-- A frontend that has been made, destroyed with nothing held. -/
theorem frontendDestroy_has {fb : Nat} {m : FrontendMemory} {kept : List (Object × Nat)}
    (h : s₀.Has kept s) (hm : FrontendMade s fb m s') :
    ∃ o₃, s₀.Has ([(.threadObject, o₃)] ++ kept) (frontendDestroy fb m s') := by
  obtain ⟨path, ring, t, object, hne, rfl, hs⟩ := hm
  have hall := h.trans hs
  rw [List.append_assoc] at hall
  have hjoined : s₀.Has ([(.threadObject, object)] ++ ((.pool, ring.block) :: (.pool, fb) ::
      (.pool, path) :: kept)) (s'.joinThread (some t)) := hall.join .nil
  have hring : s₀.Has ([(.threadObject, object), (.pool, fb)] ++ (.pool, path) :: kept)
      ((s'.joinThread (some t)).give .pool ring.block) := hjoined.giveBehind (by simp)
  have hpath : s₀.Has ([(.threadObject, object)] ++ (.pool, fb) :: kept)
      (((s'.joinThread (some t)).give .pool ring.block).give .pool path) :=
    hring.giveBehind (by simp [hne])
  exact ⟨object, hpath.giveBehind (by simp)⟩

/-- What is left where a PDO with a frontend does not get into the list or not stay there. -/
def frontendTrace (powered eject : Bool) (tape : Nat → Answer) : Trace :=
  if !powered then if eject then .threadObjects else .nothing
  else if !(tape 0).status.ntSuccess then .threadObjects
  else if !(tape 1).status.ntSuccess then .more
  else if eject then .more
  else .nothing

section Powered

variable {fb : Nat} {m : FrontendMemory} (hp : s.powered = true) (hheld : m.held = .created)

include hp hheld

theorem fdoAdd_refused (h0 : (tape 0).status.ntSuccess = false) :
    fdoAddPhysicalDeviceObject fuel tape device (.frontend fb m) s =
      .returns ((tape 0).status, 1, .frontend fb m, s) := by
  have hself : { m with held := .created } = m := by rw [← hheld]
  rw [fdoAddPhysicalDeviceObject, hp, PdoContext.pdoResume, hheld, frontendAbiAcquire_refused h0]
  simp [bind, hself, h0]

theorem fdoAdd_deadlocks (h0 : (tape 0).status.ntSuccess = true)
    (h1 : (tape 1).status.ntSuccess = false) :
    fdoAddPhysicalDeviceObject fuel tape device (.frontend fb m) s = .deadlocks := by
  have hunsafe : ¬LockSafe tape 0 .created .acquire := fun h =>
    absurd ((h rfl h0).symm.trans h1) Bool.true_eq_false.mp
  rw [fdoAddPhysicalDeviceObject, hp, PdoContext.pdoResume, hheld,
    frontendAbiAcquire_deadlocks rfl hunsafe]
  rfl

/-- Acquired, it is in the list, and no `Release` of it returns. -/
theorem fdoAdd_acquired (fuel device fb : Nat) (h0 : (tape 0).status.ntSuccess = true)
    (h1 : (tape 1).status.ntSuccess = true) :
    ∃ n context, fdoAddPhysicalDeviceObject fuel tape device (.frontend fb m) s =
        .returns (.success, n, context, s.insert device) ∧
      fdoRemovePhysicalDeviceObject fuel tape n device context (s.insert device) = .deadlocks := by
  obtain ⟨n, f, hrun, hl, hr⟩ := frontendAbiAcquire_acquired fuel h0 h1
  refine ⟨n, .frontend fb { m with held := f }, ?_, ?_⟩
  · rw [fdoAddPhysicalDeviceObject, hp, PdoContext.pdoResume, hheld, hrun]
    rfl
  · rw [fdoRemovePhysicalDeviceObject, insert_powered, hp, PdoContext.pdoSuspend,
      frontendAbiRelease_deadlocks hl fun h => h hr]
    rfl

end Powered

/-- **A frontend is acquired where the FDO is up**: it cannot be let go again. -/
theorem pdoCreateAdd_frontend {fb : Nat} {m : FrontendMemory}
    (h : s₀.Has (pdoMade device block t₁ t₂ o₁ o₂) s) (hm : FrontendMade s fb m s') :
    LeavesTrace s₀ (pdoCreateAdd fuel tape o device block (.made device t₁ t₂ isDefault)
      (.frontend fb m) s') (frontendTrace s'.powered o.eject tape) := by
  obtain ⟨o₃, hdestroy⟩ := frontendDestroy_has h hm
  have hf : ThreadObjects [(.threadObject, o₃)] := ThreadObjects.nil.snoc o₃
  have hheld : m.held = .created := by
    obtain ⟨path, ring, t, object, -, rfl, -⟩ := hm
    rfl
  unfold frontendTrace
  cases hp : s'.powered with
  | false => exact pdoCreateAdd_unpowered hp hf hdestroy
  | true =>
      cases h0 : (tape 0).status.ntSuccess with
      | false =>
          have hrun : pdoCreateAdd fuel tape o device block (.made device t₁ t₂ isDefault)
              (.frontend fb m) s' = .returns (pdoCreateFail6 device block
                { PdoFields.made device t₁ t₂ isDefault with
                  context := some (.frontend fb m), abi := true, eject := o.eject }
                (.frontend fb m) (tape 0).status s') := by
            simp [pdoCreateAdd, fdoAdd_refused hp hheld h0, h0]
          rw [hrun]
          exact pdoCreateFail6_leaves hf h0 hdestroy
      | true =>
          cases h1 : (tape 1).status.ntSuccess with
          | false =>
              have hrun : pdoCreateAdd fuel tape o device block (.made device t₁ t₂ isDefault)
                  (.frontend fb m) s' = .deadlocks := by
                simp [pdoCreateAdd, fdoAdd_deadlocks hp hheld h0 h1]
              rw [hrun]
              exact nofun
          | true =>
              obtain ⟨n, context, hadd, hremove⟩ :=
                fdoAdd_acquired hp hheld fuel device fb h0 h1
              cases he : o.eject with
              | true =>
                  have hrun : pdoCreateAdd fuel tape o device block (.made device t₁ t₂ isDefault)
                      (.frontend fb m) s' = .deadlocks := by
                    simp [pdoCreateAdd, hadd, hremove, he]
                  rw [hrun]
                  exact nofun
              | false =>
                  have hrun : pdoCreateAdd fuel tape o device block (.made device t₁ t₂ isDefault)
                      (.frontend fb m) s' = .returns (.success, s'.insert device) := by
                    simp [pdoCreateAdd, hadd, he]
                  exact ⟨_, hrun, nofun⟩

/-! ## 10. The whole of it -/

/-- What is left where a step fails. -/
def PdoOutcome.traceAt (o : PdoOutcome) (isDefault powered : Bool) : PdoStep → Trace
  | .device | .pdo | .systemPower => .nothing
  | .devicePower | .path | .printed | .frontend | .ring | .acquire => .threadObjects
  | .console | .readCsq | .writeCsq | .register => .more
  | .ejectThread => if o.frontend.setsLateEvent then .more else .threadObjects
  | .eject => if powered && !isDefault then .more else .threadObjects

/-- What is left where a step fails, or none does. -/
def PdoOutcome.traceOf (o : PdoOutcome) (isDefault powered : Bool) : Option PdoStep → Trace
  | some step => o.traceAt isDefault powered step
  | none => .nothing

theorem frontendTrace_eq (o : PdoOutcome) (powered : Bool) (tape : Nat → Answer) :
    frontendTrace powered o.eject tape =
      o.traceOf false powered (o.addFailsAt false powered tape) := by
  unfold frontendTrace PdoOutcome.addFailsAt
  cases powered with
  | false => cases o.eject <;> rfl
  | true =>
      cases (tape 0).status.ntSuccess with
      | false => rfl
      | true =>
          cases (tape 1).status.ntSuccess with
          | false => rfl
          | true => cases o.eject <;> rfl

theorem consoleTrace_eq (o : PdoOutcome) (powered : Bool) (tape : Nat → Answer) :
    (if o.eject then Trace.threadObjects else .nothing) =
      o.traceOf true powered (o.addFailsAt true powered tape) := by
  unfold PdoOutcome.addFailsAt
  cases powered <;> cases o.eject <;> rfl

/-- Where a frontend cannot be made, what is left is what `FrontendCreate` leaves. -/
theorem traceAt_frontend {step : PdoStep} {powered : Bool} (h : o.frontend.failsAt = some step) :
    o.traceAt false powered step =
      if o.frontend.leavesMore step then .more else .threadObjects := by
  unfold FrontendOutcome.failsAt at h
  split at h
  · cases h
    rfl
  split at h
  · cases h
    rfl
  split at h
  · cases h
    rfl
  split at h
  · rename_i step' hring
    cases h
    rcases failsAt_cases hring with rfl | rfl | rfl <;> rfl
  · split at h
    · cases h
      rfl
    · cases h

/-- From the console or the frontend on. -/
theorem pdoCreateContext_spec (h : s₀.Has (pdoMade device block t₁ t₂ o₁ o₂) s) :
    LeavesTrace s₀ (pdoCreateContext fuel tape o isDefault device block
        ⟨some device, true, some t₁, some t₂, false, false, none, false, false⟩ s)
      (o.traceOf isDefault s₀.powered (match o.contextFailsAt isDefault with
        | some step => some step
        | none => o.addFailsAt isDefault s₀.powered tape)) := by
  cases isDefault with
  | true =>
      cases hc : o.console with
      | false =>
          have hrun : pdoCreateContext fuel tape o true device block
              ⟨some device, true, some t₁, some t₂, false, false, none, false, false⟩ s =
              .returns (pdoCreateFail5 device block (.made device t₁ t₂ true) .noMemory s) := by
            simp [pdoCreateContext, consoleCreate, hc, PdoFields.made]
          have hfails : o.contextFailsAt true = some .console := by
            simp [PdoOutcome.contextFailsAt, hc]
          rw [hrun, hfails]
          rintro r ⟨rfl⟩
          refine ⟨rfl, ?_⟩
          rw [← h.failed]
          exact pdoCreateFail5_isDefault rfl s
      | true =>
          have hrun : pdoCreateContext fuel tape o true device block
              ⟨some device, true, some t₁, some t₂, false, false, none, false, false⟩ s =
              pdoCreateAdd fuel tape o device block (.made device t₁ t₂ true)
                (.console s.heap.next 0) { s with heap := s.heap.take .pool } := by
            simp [pdoCreateContext, consoleCreate, hc, PdoFields.made]
          have hfails : o.contextFailsAt true = none := by
            simp [PdoOutcome.contextFailsAt, hc]
          rw [hrun, hfails, ← consoleTrace_eq]
          exact pdoCreateAdd_console (h.take .pool)
  | false =>
      have hspec := frontendCreate_spec o.frontend s
      have hfails : o.contextFailsAt false = o.frontend.failsAt := rfl
      rcases hc : frontendCreate o.frontend s with ⟨status, context, s'⟩
      rw [hc] at hspec
      rw [hfails]
      cases hf : o.frontend.failsAt with
      | some step =>
          rw [hf] at hspec
          obtain ⟨hst : status.ntSuccess = false, rfl, hleft⟩ := hspec
          have hrun : pdoCreateContext fuel tape o false device block
              ⟨some device, true, some t₁, some t₂, false, false, none, false, false⟩ s =
              .returns (pdoCreateFail5 device block (.made device t₁ t₂ false) status s') := by
            simp [pdoCreateContext, hc, PdoFields.made]
          have htrace : o.traceOf false s₀.powered (some step) =
              if o.frontend.leavesMore step then .more else .threadObjects := traceAt_frontend hf
          rw [hrun, htrace]
          cases hmore : o.frontend.leavesMore step with
          | true =>
              rw [hmore, if_pos rfl, h.failed] at hleft
              rintro r ⟨rfl⟩
              exact ⟨hst, Nat.lt_of_lt_of_le hleft (pdoCreateFail5_failed s')⟩
          | false =>
              rw [hmore, if_neg Bool.false_ne_true] at hleft
              refine ⟨_, [(.threadObject, o₂)] ++ [(.threadObject, o₁)], rfl, hst, ?_,
                (ThreadObjects.nil.snoc o₂).snoc o₁, by simp⟩
              exact pdoCreateFail5_has .nil rfl rfl rfl (h.trans hleft)
      | none =>
          rw [hf] at hspec
          obtain ⟨-, fb, m, rfl, hm⟩ := hspec
          have hrun : pdoCreateContext fuel tape o false device block
              ⟨some device, true, some t₁, some t₂, false, false, none, false, false⟩ s =
              pdoCreateAdd fuel tape o device block (.made device t₁ t₂ false) (.frontend fb m)
                s' := by
            simp [pdoCreateContext, hc, PdoFields.made]
          have hpow : s'.powered = s₀.powered := by
            obtain ⟨path, ring, t, object, -, -, hs⟩ := hm
            exact hs.powered.trans h.powered
          rw [hrun, ← hpow, ← frontendTrace_eq]
          exact pdoCreateAdd_frontend h hm

/-- What `PdoCreate` comes to with its threads: the first cannot be created, or the second, or
    both can. -/
theorem pdoCreateThreads_cases (fuel : Nat) (tape : Nat → Answer) (o : PdoOutcome)
    (isDefault : Bool) (h : s₀.Has (pdoBase device block) s) :
    (o.systemPower.succeeds = false ∧ ∃ status heap,
      pdoCreateThreads fuel tape o isDefault device block s =
        .returns (pdoCreateFail3 device block
          { PdoFields.zero with dx := some device, fdo := true } status { s with heap := heap }) ∧
      status.ntSuccess = false ∧ s₀.Has (pdoBase device block) { s with heap := heap }) ∨
    (o.systemPower.succeeds = true ∧ o.devicePower.succeeds = false ∧ ∃ status t₁ o₁ heap,
      pdoCreateThreads fuel tape o isDefault device block s =
        .returns (pdoCreateFail4 device block
          { PdoFields.zero with dx := some device, fdo := true, systemPowerThread := some t₁ }
          status { s with heap := heap }) ∧
      status.ntSuccess = false ∧
      s₀.Has (t₁.holds o₁ ++ pdoBase device block) { s with heap := heap }) ∨
    (o.systemPower.succeeds = true ∧ o.devicePower.succeeds = true ∧ ∃ t₁ t₂ o₁ o₂ heap,
      pdoCreateThreads fuel tape o isDefault device block s =
        pdoCreateContext fuel tape o isDefault device block
          ⟨some device, true, some t₁, some t₂, false, false, none, false, false⟩
          { s with heap := heap } ∧
      s₀.Has (pdoMade device block t₁ t₂ o₁ o₂) { s with heap := heap }) := by
  cases hs₁ : o.systemPower.succeeds with
  | false =>
      obtain ⟨status, heap, hc, hst, hheap⟩ := threadCreate_fails s.heap hs₁
      refine .inl ⟨rfl, status, heap, ?_, hst, h.thread hheap⟩
      simp [pdoCreateThreads, hc, hst, PdoFields.zero]
  | true =>
      obtain ⟨status₁, t₁, o₁, heap₁, hc₁, hst₁, hheap₁⟩ := threadCreate_succeeds s.heap hs₁
      have hone := h.thread hheap₁
      cases hs₂ : o.devicePower.succeeds with
      | false =>
          obtain ⟨status, heap, hc₂, hst, hheap⟩ := threadCreate_fails heap₁ hs₂
          refine .inr (.inl ⟨rfl, rfl, status, t₁, o₁, heap, ?_, hst, hone.thread hheap⟩)
          simp [pdoCreateThreads, hc₁, hc₂, hst₁, hst, PdoFields.zero]
      | true =>
          obtain ⟨status₂, t₂, o₂, heap, hc₂, hst₂, hheap⟩ := threadCreate_succeeds heap₁ hs₂
          refine .inr (.inr ⟨rfl, rfl, t₁, t₂, o₁, o₂, heap, ?_, hone.thread hheap⟩)
          simp [pdoCreateThreads, hc₁, hc₂, hst₁, hst₂, PdoFields.zero]

/-- From the threads on. -/
theorem pdoCreateThreads_spec (h : s₀.Has (pdoBase device block) s) :
    LeavesTrace s₀ (pdoCreateThreads fuel tape o isDefault device block s)
      (o.traceOf isDefault s₀.powered
        (if !o.systemPower.succeeds then some .systemPower
        else if !o.devicePower.succeeds then some .devicePower
        else match o.contextFailsAt isDefault with
          | some step => some step
          | none => o.addFailsAt isDefault s₀.powered tape)) := by
  rcases pdoCreateThreads_cases fuel tape o isDefault h with
    ⟨hs₁, status, heap, hrun, hst, hbase⟩ | ⟨hs₁, hs₂, status, t₁, o₁, heap, hrun, hst, hone⟩ |
    ⟨hs₁, hs₂, t₁, t₂, o₁, o₂, heap, hrun, htwo⟩
  · rw [hs₁, hrun]
    exact ⟨_, rfl, fun _ => pdoCreateFail3_has .nil rfl hbase⟩
  · rw [hs₁, hs₂, hrun]
    refine ⟨_, [] ++ [(.threadObject, o₁)], rfl, hst, ?_, ThreadObjects.nil.snoc o₁, by simp⟩
    exact pdoCreateFail4_has .nil rfl rfl hone
  · rw [hs₁, hs₂, hrun]
    exact pdoCreateContext_spec htwo

/-- **What `PdoCreate` leaves where it fails**, step by step. -/
theorem pdoCreate_spec (fuel : Nat) (tape : Nat → Answer) (o : PdoOutcome) (isDefault : Bool)
    (s : FdoBus) :
    LeavesTrace s (pdoCreate fuel tape o isDefault s)
      (o.traceOf isDefault s.powered (o.failsAt isDefault s.powered tape)) := by
  have hdevice := (FdoBus.Has.refl s).take .device
  unfold PdoOutcome.failsAt
  cases hd : o.device.ntSuccess with
  | false =>
      have hrun : pdoCreate fuel tape o isDefault s = .returns (o.device, s) := by
        simp [pdoCreate, hd]
      exact ⟨_, hrun, fun _ => .refl s⟩
  | true =>
      cases ha : o.allocated with
      | false =>
          have hrun : pdoCreate fuel tape o isDefault s = .returns
              (pdoCreateFail2 s.heap.next .noMemory { s with heap := s.heap.take .device }) := by
            simp [pdoCreate, hd, ha]
          exact ⟨_, hrun, fun _ => hdevice.giveHead⟩
      | true =>
          have hrun : pdoCreate fuel tape o isDefault s = pdoCreateThreads fuel tape o isDefault
              s.heap.next (s.heap.take .device).next
              { s with heap := (s.heap.take .device).take .pool } := by
            simp [pdoCreate, hd, ha]
          rw [hrun]
          exact pdoCreateThreads_spec (hdevice.take .pool)

/-- The creation succeeds, or it returns and leaves no trace. -/
def Traceless (excused : Object → Prop) (s : FdoBus) (c : Call (NtStatus × FdoBus)) : Prop :=
  ∃ r, c = .returns r ∧ (r.1.ntSuccess = false → NoTrace excused s r.2)

theorem FdoBus.Has.noTrace {kept : List (Object × Nat)} {excused : Object → Prop}
    (h : s.Has kept s') (hk : ∀ x ∈ kept, excused x.1) : NoTrace excused s s' :=
  ⟨⟨kept, h.heap, hk⟩, h.list, h.references, h.failed⟩

/-- With an assertion failed, or without a return, it does not. -/
theorem LeavesTrace.not_traceless {c : Call (NtStatus × FdoBus)} {excused : Object → Prop}
    (h : LeavesTrace s c .more) : ¬Traceless excused s c := by
  rintro ⟨r, hr, hno⟩
  obtain ⟨hst, hlt⟩ := h r hr
  rw [(hno hst).asserts] at hlt
  exact Nat.lt_irrefl _ hlt

/-- **A failing `PdoCreate` leaves no trace just where it fails before its first thread is there**:
    from then on the references that `ThreadCreate` takes on thread objects stay. But for these it
    leaves none just where no console is missing, no queue of the ring, no event set late, and no
    frontend has to be let go. -/
theorem pdoCreate_no_trace_iff (fuel : Nat) (tape : Nat → Answer) (o : PdoOutcome) (isDefault : Bool)
    (s : FdoBus) :
    (Traceless (fun _ => False) s (pdoCreate fuel tape o isDefault s) ↔
      o.traceOf isDefault s.powered (o.failsAt isDefault s.powered tape) = .nothing) ∧
    (Traceless (· = .threadObject) s (pdoCreate fuel tape o isDefault s) ↔
      o.traceOf isDefault s.powered (o.failsAt isDefault s.powered tape) ≠ .more) := by
  have hspec := pdoCreate_spec fuel tape o isDefault s
  revert hspec
  cases o.traceOf isDefault s.powered (o.failsAt isDefault s.powered tape) with
  | nothing =>
      rintro ⟨r, hr, hno⟩
      refine ⟨iff_of_true ⟨r, hr, fun hst => (hno hst).noTrace nofun⟩ rfl,
        iff_of_true ⟨r, hr, fun hst => (hno hst).noTrace nofun⟩ nofun⟩
  | threadObjects =>
      rintro ⟨r, kept, hr, hst, hk, hobjects, hne⟩
      refine ⟨iff_of_false ?_ nofun,
        iff_of_true ⟨r, hr, fun _ => hk.noTrace hobjects⟩ nofun⟩
      rintro ⟨r', hr', hno⟩
      obtain rfl : r = r' := Call.returns.inj (hr.symm.trans hr')
      obtain ⟨kept', hk', hexcused⟩ := (hno hst).heap
      obtain rfl : kept' = [] := List.eq_nil_iff_forall_not_mem.mpr hexcused
      have hlive : kept ++ s.heap.live = [] ++ s.heap.live := hk.heap.live.symm.trans hk'.live
      exact hne (List.append_cancel_right hlive)
  | more =>
      intro h
      exact ⟨iff_of_false h.not_traceless nofun, iff_of_false h.not_traceless fun hn => hn rfl⟩

/-- Everything succeeds, but that there is no memory for the console. -/
def noConsole : PdoOutcome where
  device := .success
  allocated := true
  systemPower := ⟨true, .success, .success, false⟩
  devicePower := ⟨true, .success, .success, false⟩
  console := false
  frontend := ⟨true, .success, true, ⟨true, .success, .success⟩, ⟨true, .success, .success, false⟩,
    false⟩
  eject := false

/-- The FDO as `FdoCreate` has it. -/
def FdoBus.created : FdoBus := ⟨.empty, [], 1, false, []⟩

/-- The PDO is freed with `IsDefault` set. -/
theorem pdoCreate_noConsole :
    ¬Traceless (· = .threadObject) .created (pdoCreate 0 willing noConsole true .created) :=
  (pdoCreate_spec 0 willing noConsole true .created).not_traceless

end Add

end Xencons
