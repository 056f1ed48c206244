import Xencons.Ring.Machine

/-!
# RingDpc, the event channel, and the calls that connect and tear down the ring (ring.c)

The ring machine with what drives `RingPoll`: the KDPC, which Windows takes off its queue before it
runs `RingDpc`, so that it can be queued again meanwhile; the event channel with its mask; and the
control thread, which under `Frontend->Lock` runs `RingConnect`, `RingEnable`, `RingDisable` and
`RingDisconnect` in the order `FrontendSetState` calls them.

* `ChannelState` -- the event channel as evtchn_interface.h documents it: opened with `Mask`, masked
  before the callback runs; an `Unmask` that is not forced leaves it as it is where an event is
  pending;
* `RingOp`, `RingAction.ops` -- what each control call does to the ring, step by step, with the
  unwinding of a `RingConnect` that fails;
* `ringDpcStep` -- `RingDpc`; `dpcSystem` -- all of it as a transition system.

The interfaces' reference counts, the grant and the debug callback are not touched by `RingDpc` and
are left to the model of the frontend.
-/

namespace Xencons

open Lib Function RingSys

/-! ## 1. The event channel -/

/-- The channel behind `Ring->Channel`. -/
structure ChannelState where
  isOpen : Bool
  masked : Bool
  pending : Bool
deriving DecidableEq

/-- `XENBUS_EVTCHN(Open, ..., TRUE)`: masked until the first unmask. -/
def ChannelState.opened : ChannelState := ⟨true, true, false⟩

/-- `XENBUS_EVTCHN(Unmask, ...)`: the result, and the channel afterwards. -/
def ChannelState.unmask (c : ChannelState) (force : Bool) : Bool × ChannelState :=
  if c.isOpen && (force || !c.pending) then (false, { c with masked := false }) else (c.pending, c)

@[simp] theorem ChannelState.unmask_isOpen (c : ChannelState) (force : Bool) :
    (c.unmask force).2.isOpen = c.isOpen := by
  unfold ChannelState.unmask
  split <;> rfl

/-- What is recorded of the driver's dealings with the backend since the ring was connected. -/
inductive ChannelCall where
  /-- `RingPoll` advanced `in_cons` or `out_prod` by `n` -/
  | advanced (d : MajorFunction) (n : ULONG)
  /-- `XENBUS_EVTCHN(Unmask, ...)` -/
  | unmasked (force : Bool)
  /-- `XENBUS_EVTCHN(Send, ...)` -/
  | sent
deriving DecidableEq

/-! ## 2. The state -/

/-- Where an activation of `RingDpc` stands. -/
inductive DpcPc where
  | idle
  /-- at the top of the loop, before it reads `Enabled` -/
  | top
  /-- in `RingPoll` -/
  | polling
  /-- behind the loop, before the `Unmask` -/
  | unmask
deriving DecidableEq

/-- How far `FrontendSetState` has brought the ring. -/
inductive RingStage where
  | disconnected
  | connected
  | enabled
deriving DecidableEq

/-- The steps of the control calls that `RingDpc` can tell apart. -/
inductive RingOp where
  /-- `Ring->Mdl = __AllocatePage()`, `Ring->Shared = Ring->Mdl->MappedSystemVa` -/
  | mapShared
  /-- `Ring->Channel = XENBUS_EVTCHN(Open, ..., TRUE)`, with or without success -/
  | openChannel (success : Bool)
  /-- `XENBUS_EVTCHN(Unmask, Ring->Channel, FALSE, TRUE)` -/
  | forceUnmask
  | setConnected (connected : Bool)
  /-- `Ring->Events = 0` -/
  | resetEvents
  /-- `Dpcs`, `BytesRead`, `BytesWritten` -/
  | resetCounters
  | closeChannel
  /-- `Ring->Channel = NULL` -/
  | clearChannel
  /-- `RtlZeroMemory(Ring->Shared, PAGE_SIZE)` -/
  | zeroShared
  /-- `Ring->Shared = NULL`, `__FreePage(Ring->Mdl)` -/
  | freeShared
  | setEnabled (enabled : Bool)
  /-- `KeInsertQueueDpc(&Ring->Dpc, NULL, NULL)` -/
  | insertDpc
deriving DecidableEq

/-- How a call of `RingConnect` ends. -/
inductive ConnectOutcome where
  | success
  /-- up to `fail7`: no page yet -/
  | failBefore
  /-- `fail8`: `PermitForeignAccess` -/
  | failPermit
  /-- `fail9`: `Open` returned no channel -/
  | failOpen
  /-- `fail10`: the debug callback could not be registered -/
  | failRegister
deriving DecidableEq

/-- The control calls. -/
inductive RingAction where
  | connect (outcome : ConnectOutcome)
  | enable
  | disable
  | disconnect
deriving DecidableEq

/-- `RingConnect`: its steps, and the unwinding from the label it fails to. -/
def ringConnectOps : ConnectOutcome → List RingOp
  | .success => [.mapShared, .openChannel true, .forceUnmask, .setConnected true]
  | .failBefore => []
  | .failPermit => [.mapShared, .zeroShared, .freeShared]
  | .failOpen => [.mapShared, .openChannel false, .zeroShared, .freeShared]
  | .failRegister => [.mapShared, .openChannel true, .forceUnmask, .resetEvents, .closeChannel,
      .clearChannel, .zeroShared, .freeShared]

def ringEnableOps : List RingOp := [.setEnabled true, .insertDpc]

def ringDisableOps : List RingOp := [.setEnabled false]

def ringDisconnectOps : List RingOp :=
  [.setConnected false, .resetCounters, .resetEvents, .closeChannel, .clearChannel, .zeroShared,
    .freeShared]

def RingAction.ops : RingAction → List RingOp
  | .connect outcome => ringConnectOps outcome
  | .enable => ringEnableOps
  | .disable => ringDisableOps
  | .disconnect => ringDisconnectOps

/-- Where `FrontendSetState` goes from a stage with that call, if it makes it there. A connected
    ring is also disconnected where the rest of `FrontendConnect` fails. -/
def RingAction.next : RingStage → RingAction → Option RingStage
  | .disconnected, .connect .success => some .connected
  | .disconnected, .connect _ => some .disconnected
  | .connected, .enable => some .enabled
  | .connected, .disconnect => some .disconnected
  | .enabled, .disable => some .connected
  | _, _ => none

/-- The ring with its DPC, its channel and the control thread. -/
structure DpcSys where
  /-- the page, the queues, and the activations inside `RingPoll` -/
  ring : RingSys Nat
  /-- `Ring->Enabled`, `Ring->Connected` -/
  enabled : Bool
  connected : Bool
  /-- `Ring->Shared` and `Ring->Channel`: which page and which channel, or `NULL` -/
  shared : Option Nat
  channel : Option Nat
  /-- the calls of `RingConnect` so far; the last one allocates page and channel of that number -/
  generation : Nat
  /-- the page of the last `RingConnect` is allocated -/
  pageMapped : Bool
  /-- the channel of the last `RingConnect` -/
  evtchn : ChannelState
  /-- the KDPC is queued -/
  dpcQueued : Bool
  /-- `Ring->Events`, `Ring->Dpcs` -/
  events : ULONG
  dpcs : ULONG
  activation : Nat → DpcPc
  /-- the stage the control call in progress leads to, and its steps still to come -/
  stage : RingStage
  ops : List RingOp
  calls : List ChannelCall

/-- What happens next. -/
inductive DpcLabel where
  /-- the rest of the ring machine -/
  | ring (l : RingLabel Nat)
  /-- `KeInsertQueueDpc` in `RingPutQueue`, and its return -/
  | putQueued (t : Nat)
  /-- the backend sends an event -/
  | event
  /-- `RingEvtchnCallback` -/
  | callback
  | start (action : RingAction)
  /-- the next step of the control call -/
  | control
  /-- a processor takes the KDPC off its queue -/
  | dispatch (a : Nat)
  /-- a step of `RingDpc` -/
  | dpc (a : Nat)

/-! ## 3. The steps -/

namespace DpcSys

/-- `KeInsertQueueDpc`: FALSE where the KDPC is queued already. -/
def keInsertQueueDpc (s : DpcSys) : Bool × DpcSys :=
  (!s.dpcQueued, { s with dpcQueued := true })

/-- The rest of `RingPutQueue` behind its insertion. -/
def ringPutQueued (s : DpcSys) (t : Nat) : DpcSys :=
  let s' := { s with ring := s.ring.dispatchReturn t }
  match s.ring.dispatch t with
  | .inserted _ .pending => s'.keInsertQueueDpc.2
  | _ => s'

/-- `RingEvtchnCallback`, for which the channel has been masked and its event taken. -/
def ringEvtchnCallback (s : DpcSys) : DpcSys :=
  let s := { s with evtchn := ⟨true, true, false⟩, events := s.events + 1 }
  let (inserted, s) := s.keInsertQueueDpc
  if inserted then { s with dpcs := s.dpcs + 1 } else s

/-- One step of a control call. -/
def controlStep (s : DpcSys) : RingOp → DpcSys
  | .mapShared =>
    { s with
      shared := some s.generation, pageMapped := true, ring := { s.ring with shared := .zero } }
  | .openChannel true => { s with channel := some s.generation, evtchn := .opened }
  | .openChannel false => { s with channel := none }
  | .forceUnmask =>
    { s with evtchn := (s.evtchn.unmask true).2, calls := s.calls ++ [.unmasked true] }
  | .setConnected connected => { s with connected := connected }
  | .resetEvents => { s with events := 0 }
  | .resetCounters => { s with dpcs := 0, ring := { s.ring with bytes := fun _ => 0 } }
  | .closeChannel => { s with evtchn := { s.evtchn with isOpen := false } }
  | .clearChannel => { s with channel := none }
  | .zeroShared => { s with ring := { s.ring with shared := .zero } }
  | .freeShared => { s with shared := none, pageMapped := false }
  | .setEnabled enabled => { s with enabled := enabled }
  | .insertDpc => s.keInsertQueueDpc.2

/-- The step of `RingPoll` activation `a` takes advances an index of the page by that much. -/
def advance (s : DpcSys) (a : Nat) : List ChannelCall :=
  match s.ring.poll a with
  | .copy d irp =>
    if (ringCopy d s.ring.shared irp).2.2 = 0 then []
    else [.advanced d (ringCopy d s.ring.shared irp).2.2]
  | _ => []

@[simps] def setActivation (s : DpcSys) (a : Nat) (pc : DpcPc) : DpcSys :=
  { s with activation := update s.activation a pc }

/-- One step of `RingDpc`. `RingPoll` returns FALSE, so the loop is not run again. -/
def ringDpcStep (s : DpcSys) (a : Nat) : DpcSys :=
  match s.activation a with
  | .idle => s
  | .top =>
    let s' := { s with ring := s.ring.setPoll a (.dequeue .read) }
    if s.enabled then s'.setActivation a .polling else s.setActivation a .unmask
  | .polling =>
    let s' := { s with ring := s.ring.ringPollStep a, calls := s.calls ++ s.advance a }
    if s'.ring.poll a = .idle then s'.setActivation a .unmask else s'
  | .unmask =>
    -- the result, TRUE where an event is still pending, is thrown away
    let evtchn := if s.channel = some s.generation then (s.evtchn.unmask false).2 else s.evtchn
    let s' : DpcSys := { s with evtchn := evtchn, calls := s.calls ++ [.unmasked false] }
    s'.setActivation a .idle

/-- A control call starts; `RingConnect` will allocate a new page and a new channel. -/
def startAction (s : DpcSys) (action : RingAction) (stage : RingStage) : DpcSys :=
  match action with
  | .connect _ =>
    { s with generation := s.generation + 1, stage := stage, ops := action.ops, calls := [] }
  | _ => { s with stage := stage, ops := action.ops }

end DpcSys

/-! ## 4. The system -/

open DpcSys

/-- The steps of the ring machine that are neither `RingDpc`'s nor the end of `RingPutQueue`. -/
def RingLabel.Other : RingLabel Nat → Prop
  | .dispatched _ | .pollStart _ | .pollStep _ | .destroyStart _ => False
  | _ => True

def dpcEnabled (s : DpcSys) : DpcLabel → Prop
  | .ring l => l.Other ∧ ringEnabled s.ring l
  | .putQueued t => s.ring.dispatch t ≠ .idle
  | .event => s.evtchn.isOpen = true
  | .callback => s.evtchn.isOpen = true ∧ s.evtchn.masked = false ∧ s.evtchn.pending = true
  | .start action => s.ops = [] ∧ (action.next s.stage).isSome
  | .control => s.ops ≠ []
  | .dispatch a => s.dpcQueued = true ∧ s.activation a = .idle
  | .dpc a => s.activation a ≠ .idle

def dpcNext (s : DpcSys) : DpcLabel → DpcSys
  | .ring l => { s with ring := ringNext s.ring l }
  | .putQueued t => s.ringPutQueued t
  | .event => { s with evtchn := { s.evtchn with pending := true } }
  | .callback => s.ringEvtchnCallback
  | .start action => s.startAction action ((action.next s.stage).getD s.stage)
  | .control => match s.ops with
    | [] => s
    | op :: ops => { s with ops := ops }.controlStep op
  | .dispatch a => { s with dpcQueued := false }.setActivation a .top
  | .dpc a => s.ringDpcStep a

/-- **The DPC machine.** -/
def dpcSystem : System DpcSys DpcLabel where
  enabled := dpcEnabled
  next := dpcNext

/-- A ring as `RingCreate` leaves it: never connected. -/
def DpcSys.init : DpcSys where
  ring := RingSys.init Nat .zero
  enabled := false
  connected := false
  shared := none
  channel := none
  generation := 0
  pageMapped := false
  evtchn := ⟨false, false, false⟩
  dpcQueued := false
  events := 0
  dpcs := 0
  activation _ := .idle
  stage := .disconnected
  ops := []
  calls := []

end Xencons
