import Xencons.Lib.Transition
import Xencons.Ring.Csq
import Mathlib.Logic.Function.Basic
import Mathlib.Tactic.Simps.Basic

/-!
# The ring as a machine: requests, queues and the parties that move them (ring.c)

The parties are the dispatcher (`PdoDispatchReadWriteControl` into `RingPutQueue`), `IoCancelIrp`,
`RingClose` and `RingDestroy` (both `__RingCancelRequests`), any number of activations inside
`RingPoll` (indexed by `ι`: one slot for polls that never overlap, `Nat` for any number), and the
other domain. One step is one `IoCsq` operation, one whole ring copy, or one completion; between
two steps of a party any other party may act.

* `RingSys` -- the ring, where each party stands, and the history (requests in queueing order,
  transfers in the order of the copies, completions, the backend's bytes);
* `ringPollStep`, `ringCancelStep` -- the loops of `RingPoll` and `__RingCancelRequests`, a step at
  a time;
* `ringSystem` -- all of it as a transition system.

The shared page is whatever the other domain makes of it (`scribble`); `produce` and `consume` are
the steps of a backend that keeps the protocol.
-/

namespace Xencons

open Lib Function

/-! ## 1. The state -/

/-- Where an activation stands in `RingPoll`. -/
inductive PollPc where
  /-- not in `RingPoll` -/
  | idle
  /-- at the top of the loop over a queue -/
  | dequeue (d : MajorFunction)
  /-- holds the request it took off, before the ring copy -/
  | copy (d : MajorFunction) (irp : Irp)
  /-- the copy returned `n` -/
  | copied (d : MajorFunction) (irp : Irp) (n : ULONG)
deriving DecidableEq

/-- Where a call of `__RingCancelRequests` stands; `ctx` is its `FileObject`. -/
inductive CancelPc where
  | idle
  /-- at the top of the loop over a queue -/
  | remove (d : MajorFunction) (ctx : Option FileObject)
  /-- holds the request it took off, before `RingCsqCompleteCanceledIrp` -/
  | complete (d : MajorFunction) (ctx : Option FileObject) (irp : Irp)
  | done (ctx : Option FileObject)
deriving DecidableEq

/-- Where a dispatcher stands in `RingPutQueue`. -/
inductive DispatchPc where
  | idle
  /-- `IoCsqInsertIrpEx` returned `status` -/
  | inserted (irp : Irp) (status : NtStatus)
deriving DecidableEq

/-- A ring copy that moved `n` bytes; for a read, `irp` has them in its buffer. -/
structure Transfer where
  irp : Irp
  n : ULONG
deriving DecidableEq

/-- The bytes a transfer moved. -/
def Transfer.bytes (t : Transfer) : List UInt8 := t.irp.systemBuffer.take t.n.toNat

/-- A call of `IoCompleteRequest`, with the `IoStatus` it was made with. -/
structure Completion where
  irp : Irp
  status : NtStatus
  information : ULONG
deriving DecidableEq

/-- The ring and its parties. -/
structure RingSys (ι : Type) where
  shared : XenconsInterface
  /-- `Ring->Read.List`, `Ring->Write.List` -/
  queue : MajorFunction → List Irp
  /-- `Ring->BytesRead`, `Ring->BytesWritten` -/
  bytes : MajorFunction → ULONG
  /-- `Irp->Cancel` -/
  cancel : Nat → Bool
  poll : ι → PollPc
  dispatch : Nat → DispatchPc
  canceler : Nat → CancelPc
  /-- `RingDestroy` has been called -/
  destroying : Bool
  /-- the requests put on the ring, in queueing order -/
  queued : List Irp
  /-- the copies that moved bytes, in their order -/
  transfers : MajorFunction → List Transfer
  completed : List Completion
  /-- what the backend has put into `in`, and what it has taken from `out` -/
  produced : List UInt8
  consumed : List UInt8

/-- What the machine does next. -/
inductive RingLabel (ι : Type) where
  /-- `IoCsqInsertIrpEx` for a dispatched request, whose `Cancel` may be set already -/
  | insert (t : Nat) (irp : Irp) (cancelled : Bool)
  /-- the rest of `RingPutQueue` and of `PdoDispatchReadWriteControl` -/
  | dispatched (t : Nat)
  | ioCancelIrp (irp : Irp)
  | closeStart (c : Nat) (file : FileObject)
  | destroyStart (c : Nat)
  | cancelStep (c : Nat)
  | pollStart (a : ι)
  | pollStep (a : ι)
  | produce (b : UInt8)
  | consume
  | scribble (shared : XenconsInterface)

variable {ι : Type}

namespace RingSys

/-! ## 2. Operations on the ring -/

/-- `IoCompleteRequest` after `IoStatus` has been set. -/
@[simps] def ioCompleteRequest (s : RingSys ι) (irp : Irp) (status : NtStatus)
    (information : ULONG) :
    RingSys ι :=
  { s with completed := s.completed ++ [⟨irp, status, information⟩] }

/-- `RingCsqCompleteCanceledIrp` -/
def ringCsqCompleteCanceledIrp (s : RingSys ι) (irp : Irp) : RingSys ι :=
  s.ioCompleteRequest irp .cancelled 0

@[simps] def setQueue (s : RingSys ι) (d : MajorFunction) (list : List Irp) : RingSys ι :=
  { s with queue := update s.queue d list }

@[simps] def setCancel (s : RingSys ι) (seq : Nat) (cancelled : Bool) : RingSys ι :=
  { s with cancel := update s.cancel seq cancelled }

@[simps] def addBytes (s : RingSys ι) (d : MajorFunction) (n : ULONG) : RingSys ι :=
  { s with bytes := update s.bytes d (s.bytes d + n) }

@[simp] theorem ringCsqCompleteCanceledIrp_eq (s : RingSys ι) (irp : Irp) :
    s.ringCsqCompleteCanceledIrp irp = s.ioCompleteRequest irp .cancelled 0 := rfl

/-- `IoCsqInsertIrpEx` on the queue `d`. Where `Irp->Cancel` is set already, the request does not
    stay on the queue: it is taken out again under the lock and completed as cancelled. -/
def ioCsqInsertIrpEx (s : RingSys ι) (d : MajorFunction) (irp : Irp) (reInsert : Bool) :
    NtStatus × RingSys ι :=
  let (status, list) := ringCsqInsertIrpEx (s.queue d) irp reInsert
  if s.cancel irp.seq then (status, s.ringCsqCompleteCanceledIrp irp)
  else (status, s.setQueue d list)

/-- `RingPutQueue` up to its insertion: the switch on the major function picks the queue. -/
def ringPutQueue (s : RingSys ι) (irp : Irp) : NtStatus × RingSys ι :=
  s.ioCsqInsertIrpEx irp.major irp false

/-- `IoCancelIrp`: the flag, and a request that is on a queue is removed and completed. -/
def ioCancelIrp (s : RingSys ι) (irp : Irp) : RingSys ι :=
  let flagged := s.setCancel irp.seq true
  if irp ∈ s.queue irp.major then
    (flagged.setQueue irp.major
      (ringCsqRemoveIrp (s.queue irp.major) irp)).ringCsqCompleteCanceledIrp irp
  else flagged

/-! ## 3. RingPoll -/

section Poll

variable [DecidableEq ι]

@[simps] def setPoll (s : RingSys ι) (a : ι) (pc : PollPc) : RingSys ι :=
  { s with poll := update s.poll a pc }

/-- The loop over the read queue is followed by the loop over the write queue, and that by
    `return FALSE`. -/
def pollNext : MajorFunction → PollPc
  | .read => .dequeue .write
  | .write => .idle

/-- The copy of the loop over queue `d`: the page, the request with its buffer, the count. -/
def ringCopy (d : MajorFunction) (shared : XenconsInterface) (irp : Irp) :
    XenconsInterface × Irp × ULONG :=
  match d with
  | .read =>
    let r := ringCopyFromRead shared irp.systemBuffer irp.length
    (r.1, irp.setBuffer r.2.1 (length_ringCopyFromRead shared irp.size), r.2.2)
  | .write =>
    let r := ringCopyToWrite shared irp.systemBuffer irp.length
    (r.1, irp, r.2)

/-- One step of an activation in `RingPoll`. -/
def ringPollStep (s : RingSys ι) (a : ι) : RingSys ι :=
  match s.poll a with
  | .idle => s
  | .dequeue d =>
    match ioCsqRemoveNextIrp (s.queue d) none with
    | none => s.setPoll a (pollNext d)
    | some (irp, list) => (s.setQueue d list).setPoll a (.copy d irp)
  | .copy d irp =>
    let r := ringCopy d s.shared irp
    { s with
      shared := r.1
      transfers := if r.2.2 = 0 then s.transfers
        else update s.transfers d (s.transfers d ++ [⟨r.2.1, r.2.2⟩])
      poll := update s.poll a (.copied d r.2.1 r.2.2) }
  | .copied d irp n =>
    if n = 0 then (s.ioCsqInsertIrpEx d irp true).2.setPoll a (pollNext d)
    else
      ((s.addBytes d n).ioCompleteRequest irp .success n).setPoll a (.dequeue d)

end Poll

/-! ## 4. __RingCancelRequests -/

@[simps] def setCanceler (s : RingSys ι) (c : Nat) (pc : CancelPc) : RingSys ι :=
  { s with canceler := update s.canceler c pc }

def cancelNext (ctx : Option FileObject) : MajorFunction → CancelPc
  | .read => .remove .write ctx
  | .write => .done ctx

/-- One step of a call of `__RingCancelRequests`. -/
def ringCancelStep (s : RingSys ι) (c : Nat) : RingSys ι :=
  match s.canceler c with
  | .idle | .done _ => s
  | .remove d ctx =>
    match ioCsqRemoveNextIrp (s.queue d) ctx with
    | none => s.setCanceler c (cancelNext ctx d)
    | some (irp, list) => (s.setQueue d list).setCanceler c (.complete d ctx irp)
  | .complete d ctx irp => (s.ringCsqCompleteCanceledIrp irp).setCanceler c (.remove d ctx)

/-- The rest of `RingPutQueue` and its caller: complete the request unless it is pending. -/
def dispatchReturn (s : RingSys ι) (t : Nat) : RingSys ι :=
  match s.dispatch t with
  | .idle => s
  | .inserted irp status =>
    let s := { s with dispatch := update s.dispatch t .idle }
    if status = .pending then s else s.ioCompleteRequest irp status 0

end RingSys

/-! ## 5. The system -/

open RingSys

section System

variable [DecidableEq ι]

/-- When a step can be taken. -/
def ringEnabled (s : RingSys ι) : RingLabel ι → Prop
  | .insert t irp _ =>
    s.dispatch t = .idle ∧ irp.seq = s.queued.length ∧ s.destroying = false
  | .dispatched t => s.dispatch t ≠ .idle
  | .ioCancelIrp irp => irp ∈ s.queued
  | .closeStart c _ => s.canceler c = .idle ∧ s.destroying = false
  -- RingDestroy comes after everything else: FrontendDestroy, with the device's handles closed
  | .destroyStart c => s.canceler c = .idle ∧ s.destroying = false ∧ (∀ a, s.poll a = .idle) ∧
      (∀ t, s.dispatch t = .idle) ∧ ∀ c', s.canceler c' = .idle ∨ ∃ ctx, s.canceler c' = .done ctx
  | .cancelStep c => s.canceler c ≠ .idle ∧ ∀ ctx, s.canceler c ≠ .done ctx
  | .pollStart a => s.poll a = .idle ∧ s.destroying = false
  | .pollStep a => s.poll a ≠ .idle
  | .produce _ => s.shared.inAvail < 1024
  | .consume => s.shared.outCons ≠ s.shared.outProd
  | .scribble _ => True

/-- What a step leaves. -/
def ringNext (s : RingSys ι) : RingLabel ι → RingSys ι
  | .insert t irp cancelled =>
    let s := { s with queued := s.queued ++ [irp] }.setCancel irp.seq cancelled
    let r := s.ringPutQueue irp
    { r.2 with dispatch := update r.2.dispatch t (.inserted irp r.1) }
  | .dispatched t => s.dispatchReturn t
  | .ioCancelIrp irp => s.ioCancelIrp irp
  | .closeStart c file => s.setCanceler c (.remove .read (some file))
  | .destroyStart c => { s with destroying := true }.setCanceler c (.remove .read none)
  | .cancelStep c => s.ringCancelStep c
  | .pollStart a => s.setPoll a (.dequeue .read)
  | .pollStep a => s.ringPollStep a
  | .produce b =>
    { s with shared := s.shared.produce b, produced := s.produced ++ [b] }
  | .consume =>
    { s with shared := s.shared.consume, consumed := s.consumed ++ [s.shared.outHead] }
  | .scribble shared => { s with shared := shared }

/-- **The ring machine.** -/
def ringSystem (ι : Type) [DecidableEq ι] : System (RingSys ι) (RingLabel ι) where
  enabled := ringEnabled
  next := ringNext

end System

/-- A ring nobody has used yet, over a shared page. -/
def RingSys.init (ι : Type) (shared : XenconsInterface) : RingSys ι where
  shared := shared
  queue _ := []
  bytes _ := 0
  cancel _ := false
  poll _ := .idle
  dispatch _ := .idle
  canceler _ := .idle
  destroying := false
  queued := []
  transfers _ := []
  completed := []
  produced := []
  consumed := []

end Xencons
