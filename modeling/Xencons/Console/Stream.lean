import Xencons.Lib.Transition
import Xencons.Ring.Machine

/-!
# The stream of the default console (stream.c)

A stream is one queue for reads and writes, and a thread that asks the console interface whether the
head can be served. The parties are the dispatchers (`__ConsoleReadWrite`), `IoCancelIrp`, the
thread, `StreamDestroy`, and the console, whose activity on its rings signals the thread's event as
soon as that is registered. One step is one `IoCsq` operation, one call of the interface, one access
to the event, or one completion.

* `StreamSys` -- the stream, where each party stands, and the history (requests in the order they
  were put, `Read` and `Write` calls, completions);
* `streamWorkerStep`, `streamDestroyStep` -- `StreamWorker` and `StreamDestroy`, a step at a time;
* `streamSystem` -- all of it as a transition system;
* `StreamMove` -- what a step can do, guards included.

What the interface writes into the buffer of a read is not modelled, only the count it returns.
-/

namespace Xencons

open Lib Function

/-! ## 1. The state -/

/-- Where `StreamWorker` stands. -/
inductive StreamPc where
  /-- `XENBUS_CONSOLE(Acquire, ...)` -/
  | acquire
  | wakeupAdd
  /-- `KeWaitForSingleObject(Event, ...)` -/
  | wait
  /-- `KeClearEvent(Event)` -/
  | clear
  /-- `ThreadIsAlerted(Self)` -/
  | alerted
  /-- `IoCsqRemoveNextIrp` -/
  | dequeue
  /-- `CanRead` or `CanWrite` -/
  | test (irp : Irp)
  /-- `IoCsqInsertIrpEx`, `(PVOID)TRUE` -/
  | putBack (irp : Irp)
  /-- `Read` or `Write` -/
  | transfer (irp : Irp)
  /-- `IoCompleteRequest`, with what the call returned -/
  | complete (irp : Irp) (n : ULONG)
  | wakeupRemove
  /-- `XENBUS_CONSOLE(Release, ...)`, also at `fail2:` -/
  | release
  | ended
deriving DecidableEq

/-- Where `StreamDestroy` stands. -/
inductive StreamDestroyPc where
  | idle
  /-- `Thread->Alerted = TRUE` -/
  | alert
  /-- `KeSetEvent(&Thread->Event, ...)` -/
  | wake
  /-- `ThreadJoin`, `Stream->Thread = NULL` -/
  | join
  /-- `IoCsqRemoveNextIrp` -/
  | drain
  /-- `StreamCsqCompleteCanceledIrp` -/
  | complete (irp : Irp)
  | returned
deriving DecidableEq

/-- A call of `Read` or `Write`, and the count it returned. -/
structure ConsoleCall where
  irp : Irp
  n : ULONG
deriving DecidableEq

/-- The stream and its parties. -/
structure StreamSys where
  /-- the input available and the output space free, as the console interface has them -/
  room : MajorFunction → Nat
  /-- `Stream->List` -/
  list : List Irp
  /-- `Irp->Cancel` -/
  cancel : Nat → Bool
  /-- `Thread->Event` -/
  event : Bool
  /-- `Thread->Alerted` -/
  alerted : Bool
  /-- the event is registered with the console -/
  wakeup : Bool
  worker : StreamPc
  destroyer : StreamDestroyPc
  dispatch : Nat → DispatchPc
  /-- the requests put on the stream, in their order -/
  put : List Irp
  /-- the calls of `Read` and `Write`, in their order -/
  calls : List ConsoleCall
  completed : List Completion

/-- What the machine does next. -/
inductive StreamLabel where
  /-- `IoCsqInsertIrpEx` for a dispatched request, whose `Cancel` may be set already -/
  | putQueue (t : Nat) (irp : Irp) (cancelled : Bool)
  /-- the rest of `__ConsoleReadWrite` and of `PdoDispatchReadWriteControl` -/
  | dispatched (t : Nat)
  | ioCancelIrp (irp : Irp)
  /-- activity on the console's rings -/
  | activity (room : MajorFunction → Nat)
  /-- another client of the console uses it up -/
  | use (room : MajorFunction → Nat)
  /-- `ok` is what `Acquire` and `WakeupAdd` answer, `n` what `Read` and `Write` return -/
  | worker (ok : Bool) (n : ULONG)
  | destroyStart
  | destroyStep

/-- A stream nobody has used yet, with its thread about to begin. -/
def StreamSys.init : StreamSys where
  room _ := 0
  list := []
  cancel _ := false
  event := false
  alerted := false
  wakeup := false
  worker := .acquire
  destroyer := .idle
  dispatch _ := .idle
  put := []
  calls := []
  completed := []

/-! ## 2. Operations on the stream -/

/-- `StreamCsqPeekNextIrp`: the request behind `irp`, or the head. -/
def streamCsqPeekNextIrp (list : List Irp) : Option Irp → Option Irp
  | none => list.head?
  | some irp => ((list.dropWhile (· ≠ irp)).drop 1).head?

/-- `StreamCsqRemoveIrp` -/
def streamCsqRemoveIrp (list : List Irp) (irp : Irp) : List Irp := list.erase irp

/-- `IoCsqRemoveNextIrp`: peek from the head and remove, one step under the stream's lock. -/
def streamRemoveNextIrp (list : List Irp) : Option (Irp × List Irp) :=
  (streamCsqPeekNextIrp list none).map fun irp => (irp, streamCsqRemoveIrp list irp)

@[simp] theorem streamRemoveNextIrp_eq (list : List Irp) :
    streamRemoveNextIrp list = match list with
      | [] => none
      | irp :: rest => some (irp, rest) := by
  cases list with
  | nil => rfl
  | cons irp rest => simp [streamRemoveNextIrp, streamCsqPeekNextIrp, streamCsqRemoveIrp]

namespace StreamSys

/-- `IoCompleteRequest` after `IoStatus` has been set. -/
def ioCompleteRequest (s : StreamSys) (irp : Irp) (status : NtStatus) (information : ULONG) :
    StreamSys :=
  { s with completed := s.completed ++ [⟨irp, status, information⟩] }

/-- `StreamCsqCompleteCanceledIrp` -/
def streamCsqCompleteCanceledIrp (s : StreamSys) (irp : Irp) : StreamSys :=
  s.ioCompleteRequest irp .cancelled 0

/-- `StreamCsqInsertIrpEx` -/
def streamCsqInsertIrpEx (s : StreamSys) (irp : Irp) (reInsert : Bool) : NtStatus × StreamSys :=
  -- re-insertion: the thread took the IRP off the queue and found the console blocked
  if reInsert then (.success, { s with list := irp :: s.list })
  else (.success, { s with list := s.list ++ [irp], event := true })

/-- `IoCsqInsertIrpEx`. Where `Irp->Cancel` is set already, the request does not stay on the queue:
    it is taken out again under the lock and completed as cancelled. -/
def ioCsqInsertIrpEx (s : StreamSys) (irp : Irp) (reInsert : Bool) : NtStatus × StreamSys :=
  let r := s.streamCsqInsertIrpEx irp reInsert
  if s.cancel irp.seq then
    (r.1, { r.2 with list := s.list }.streamCsqCompleteCanceledIrp irp)
  else r

/-- `StreamPutQueue` -/
def streamPutQueue (s : StreamSys) (irp : Irp) : NtStatus × StreamSys :=
  s.ioCsqInsertIrpEx irp false

/-- `__ConsoleReadWrite`, for a handle that has been found. -/
def consoleReadWrite (s : StreamSys) (irp : Irp) : NtStatus × StreamSys :=
  let r := s.streamPutQueue irp
  (if r.1.ntSuccess then .pending else r.1, r.2)

/-- The rest of `PdoDispatchReadWriteControl`: complete the request unless it is pending. -/
def dispatchReturn (s : StreamSys) (t : Nat) : StreamSys :=
  match s.dispatch t with
  | .idle => s
  | .inserted irp status =>
    let s := { s with dispatch := update s.dispatch t .idle }
    if status = .pending then s else s.ioCompleteRequest irp status 0

/-- `IoCancelIrp`: the flag, and a request that is on the queue is removed and completed. -/
def ioCancelIrp (s : StreamSys) (irp : Irp) : StreamSys :=
  let s := { s with cancel := update s.cancel irp.seq true }
  if irp ∈ s.list then
    { s with list := streamCsqRemoveIrp s.list irp }.streamCsqCompleteCanceledIrp irp
  else s

/-- `!XENBUS_CONSOLE(CanRead, ...)` or `!XENBUS_CONSOLE(CanWrite, ...)` -/
def Blocked (s : StreamSys) (irp : Irp) : Prop := s.room irp.major = 0

instance (s : StreamSys) (irp : Irp) : Decidable (s.Blocked irp) :=
  inferInstanceAs (Decidable (_ = _))

/-! ## 3. StreamWorker and StreamDestroy -/

/-- One step of `StreamWorker`. -/
def streamWorkerStep (s : StreamSys) (ok : Bool) (n : ULONG) : StreamSys :=
  match s.worker with
  | .acquire => { s with worker := if ok then .wakeupAdd else .ended }
  | .wakeupAdd =>
    if ok then { s with wakeup := true, worker := .wait } else { s with worker := .release }
  | .wait => { s with worker := .clear }
  | .clear => { s with event := false, worker := .alerted }
  | .alerted => { s with worker := if s.alerted then .wakeupRemove else .dequeue }
  | .dequeue =>
    match streamRemoveNextIrp s.list with
    | none => { s with worker := .wait }
    | some (irp, list) => { s with list := list, worker := .test irp }
  | .test irp => { s with worker := if s.Blocked irp then .putBack irp else .transfer irp }
  | .putBack irp => { (s.ioCsqInsertIrpEx irp true).2 with worker := .wait }
  | .transfer irp => { s with calls := s.calls ++ [⟨irp, n⟩], worker := .complete irp n }
  | .complete irp n => { s.ioCompleteRequest irp .success n with worker := .dequeue }
  | .wakeupRemove => { s with wakeup := false, worker := .release }
  | .release => { s with worker := .ended }
  | .ended => s

/-- One step of `StreamDestroy`. -/
def streamDestroyStep (s : StreamSys) : StreamSys :=
  match s.destroyer with
  | .idle | .returned => s
  | .alert => { s with alerted := true, destroyer := .wake }
  | .wake => { s with event := true, destroyer := .join }
  | .join => { s with destroyer := .drain }
  | .drain =>
    match streamRemoveNextIrp s.list with
    | none => { s with destroyer := .returned }
    | some (irp, list) => { s with list := list, destroyer := .complete irp }
  | .complete irp => { s.streamCsqCompleteCanceledIrp irp with destroyer := .drain }

end StreamSys

/-! ## 4. The system -/

open StreamSys

/-- `Stream->Thread` is set, so `StreamPutQueue` may be called. -/
def StreamDestroyPc.live : StreamDestroyPc → Prop
  | .idle | .alert | .wake | .join => True
  | _ => False

/-- When a step can be taken. -/
def streamEnabled (s : StreamSys) : StreamLabel → Prop
  | .putQueue t irp _ =>
    s.dispatch t = .idle ∧ irp.seq = s.put.length ∧ s.destroyer.live
  | .dispatched t => s.dispatch t ≠ .idle
  | .ioCancelIrp irp => irp ∈ s.put
  | .activity _ => True
  | .use room => ∀ d, room d ≤ s.room d
  | .worker _ _ => s.worker ≠ .ended ∧ (s.worker = .wait → s.event = true)
  | .destroyStart => s.destroyer = .idle
  | .destroyStep => s.destroyer ≠ .idle ∧ s.destroyer ≠ .returned ∧
      (s.destroyer = .join → s.worker = .ended)

/-- What a step leaves. -/
def streamNext (s : StreamSys) : StreamLabel → StreamSys
  | .putQueue t irp cancelled =>
    let s := { s with put := s.put ++ [irp], cancel := update s.cancel irp.seq cancelled }
    let r := s.consoleReadWrite irp
    { r.2 with dispatch := update r.2.dispatch t (.inserted irp r.1) }
  | .dispatched t => s.dispatchReturn t
  | .ioCancelIrp irp => s.ioCancelIrp irp
  | .activity room => { s with room := room, event := s.event || s.wakeup }
  | .use room => { s with room := room }
  | .worker ok n => s.streamWorkerStep ok n
  | .destroyStart => { s with destroyer := .alert }
  | .destroyStep => s.streamDestroyStep

/-- **The stream machine.** -/
def streamSystem : System StreamSys StreamLabel where
  enabled := streamEnabled
  next := streamNext

instance : ∀ pc : StreamDestroyPc, Decidable pc.live
  | .idle | .alert | .wake | .join => .isTrue trivial
  | .drain | .complete _ | .returned => .isFalse id

instance (s : StreamSys) : ∀ l, Decidable (streamSystem.enabled s l)
  | .putQueue .. => inferInstanceAs (Decidable (_ ∧ _ ∧ _))
  | .dispatched _ => inferInstanceAs (Decidable (_ ≠ _))
  | .ioCancelIrp irp => inferInstanceAs (Decidable (irp ∈ s.put))
  | .activity _ => .isTrue trivial
  | .use room => decidable_of_iff (room .read ≤ s.room .read ∧ room .write ≤ s.room .write)
      ⟨fun h d => d.casesOn h.1 h.2, fun h => ⟨h .read, h .write⟩⟩
  | .worker .. => inferInstanceAs (Decidable (_ ∧ (_ → _)))
  | .destroyStart => inferInstanceAs (Decidable (_ = _))
  | .destroyStep => inferInstanceAs (Decidable (_ ∧ _ ∧ (_ → _)))

/-! ## 5. What a step can do -/

/-- The bookkeeping of an insertion: the request is on record, its dispatcher has the answer. -/
def StreamSys.arrive (s : StreamSys) (t : Nat) (irp : Irp) (cancelled : Bool) : StreamSys :=
  { s with
    put := s.put ++ [irp]
    cancel := update s.cancel irp.seq cancelled
    event := true
    dispatch := update s.dispatch t (.inserted irp .pending) }

/-- **What a step can do**, with everything it has checked. -/
inductive StreamMove (s : StreamSys) : StreamLabel → StreamSys → Prop where
  | putQueue (t : Nat) (irp : Irp) (hseq : irp.seq = s.put.length) (hlive : s.destroyer.live) :
      StreamMove s (.putQueue t irp false) { s.arrive t irp false with list := s.list ++ [irp] }
  | putCancelled (t : Nat) (irp : Irp) (hseq : irp.seq = s.put.length) (hlive : s.destroyer.live) :
      StreamMove s (.putQueue t irp true) ((s.arrive t irp true).streamCsqCompleteCanceledIrp irp)
  | dispatched (t : Nat) :
      StreamMove s (.dispatched t) { s with dispatch := update s.dispatch t .idle }
  | cancelQueued (irp : Irp) (hq : irp ∈ s.list) :
      StreamMove s (.ioCancelIrp irp)
        ({ s with
          cancel := update s.cancel irp.seq true
          list := streamCsqRemoveIrp s.list irp }.streamCsqCompleteCanceledIrp irp)
  | cancelFlag (irp : Irp) (hq : irp ∉ s.list) :
      StreamMove s (.ioCancelIrp irp) { s with cancel := update s.cancel irp.seq true }
  | activity (room : MajorFunction → Nat) :
      StreamMove s (.activity room) { s with room := room, event := s.event || s.wakeup }
  | use (room : MajorFunction → Nat) (hle : ∀ d, room d ≤ s.room d) :
      StreamMove s (.use room) { s with room := room }
  | acquired (ok : Bool) (n : ULONG) (hpc : s.worker = .acquire) :
      StreamMove s (.worker ok n) { s with worker := if ok then .wakeupAdd else .ended }
  | wakeupAdded (n : ULONG) (hpc : s.worker = .wakeupAdd) :
      StreamMove s (.worker true n) { s with wakeup := true, worker := .wait }
  | wakeupFailed (n : ULONG) (hpc : s.worker = .wakeupAdd) :
      StreamMove s (.worker false n) { s with worker := .release }
  | waited (ok : Bool) (n : ULONG) (hpc : s.worker = .wait) (hevent : s.event = true) :
      StreamMove s (.worker ok n) { s with worker := .clear }
  | cleared (ok : Bool) (n : ULONG) (hpc : s.worker = .clear) :
      StreamMove s (.worker ok n) { s with event := false, worker := .alerted }
  | alerted (ok : Bool) (n : ULONG) (hpc : s.worker = .alerted) (ha : s.alerted = true) :
      StreamMove s (.worker ok n) { s with worker := .wakeupRemove }
  | notAlerted (ok : Bool) (n : ULONG) (hpc : s.worker = .alerted) (ha : s.alerted = false) :
      StreamMove s (.worker ok n) { s with worker := .dequeue }
  | nothing (ok : Bool) (n : ULONG) (hpc : s.worker = .dequeue) (hq : s.list = []) :
      StreamMove s (.worker ok n) { s with worker := .wait }
  | take (ok : Bool) (n : ULONG) (irp : Irp) (rest : List Irp) (hpc : s.worker = .dequeue)
      (hq : s.list = irp :: rest) :
      StreamMove s (.worker ok n) { s with list := rest, worker := .test irp }
  | blocked (ok : Bool) (n : ULONG) (irp : Irp) (hpc : s.worker = .test irp)
      (hb : s.Blocked irp) : StreamMove s (.worker ok n) { s with worker := .putBack irp }
  | ready (ok : Bool) (n : ULONG) (irp : Irp) (hpc : s.worker = .test irp)
      (hb : ¬s.Blocked irp) : StreamMove s (.worker ok n) { s with worker := .transfer irp }
  | putBack (ok : Bool) (n : ULONG) (irp : Irp) (hpc : s.worker = .putBack irp)
      (hc : s.cancel irp.seq = false) :
      StreamMove s (.worker ok n) { s with list := irp :: s.list, worker := .wait }
  | putBackCancelled (ok : Bool) (n : ULONG) (irp : Irp) (hpc : s.worker = .putBack irp)
      (hc : s.cancel irp.seq = true) :
      StreamMove s (.worker ok n) { s.streamCsqCompleteCanceledIrp irp with worker := .wait }
  | transfer (ok : Bool) (n : ULONG) (irp : Irp) (hpc : s.worker = .transfer irp) :
      StreamMove s (.worker ok n)
        { s with calls := s.calls ++ [⟨irp, n⟩], worker := .complete irp n }
  | complete (ok : Bool) (n : ULONG) (irp : Irp) (m : ULONG) (hpc : s.worker = .complete irp m) :
      StreamMove s (.worker ok n) { s.ioCompleteRequest irp .success m with worker := .dequeue }
  | wakeupRemove (ok : Bool) (n : ULONG) (hpc : s.worker = .wakeupRemove) :
      StreamMove s (.worker ok n) { s with wakeup := false, worker := .release }
  | release (ok : Bool) (n : ULONG) (hpc : s.worker = .release) :
      StreamMove s (.worker ok n) { s with worker := .ended }
  | destroyStart (hpc : s.destroyer = .idle) :
      StreamMove s .destroyStart { s with destroyer := .alert }
  | destroyAlert (hpc : s.destroyer = .alert) :
      StreamMove s .destroyStep { s with alerted := true, destroyer := .wake }
  | destroyWake (hpc : s.destroyer = .wake) :
      StreamMove s .destroyStep { s with event := true, destroyer := .join }
  | destroyJoin (hpc : s.destroyer = .join) (hended : s.worker = .ended) :
      StreamMove s .destroyStep { s with destroyer := .drain }
  | drained (hpc : s.destroyer = .drain) (hq : s.list = []) :
      StreamMove s .destroyStep { s with destroyer := .returned }
  | drainTake (irp : Irp) (rest : List Irp) (hpc : s.destroyer = .drain)
      (hq : s.list = irp :: rest) :
      StreamMove s .destroyStep { s with list := rest, destroyer := .complete irp }
  | drainComplete (irp : Irp) (hpc : s.destroyer = .complete irp) :
      StreamMove s .destroyStep { s.streamCsqCompleteCanceledIrp irp with destroyer := .drain }

variable {s : StreamSys}

theorem streamMove_putQueue {t : Nat} {irp : Irp} {cancelled : Bool}
    (h : streamEnabled s (.putQueue t irp cancelled)) :
    StreamMove s (.putQueue t irp cancelled) (streamNext s (.putQueue t irp cancelled)) := by
  obtain ⟨-, hseq, hlive⟩ := h
  cases cancelled with
  | false =>
      convert StreamMove.putQueue (s := s) t irp hseq hlive using 1
      simp [streamNext, consoleReadWrite, streamPutQueue, StreamSys.ioCsqInsertIrpEx,
        streamCsqInsertIrpEx, arrive, NtStatus.ntSuccess]
  | true =>
      convert StreamMove.putCancelled (s := s) t irp hseq hlive using 1
      simp [streamNext, consoleReadWrite, streamPutQueue, StreamSys.ioCsqInsertIrpEx,
        streamCsqInsertIrpEx, arrive, NtStatus.ntSuccess, streamCsqCompleteCanceledIrp,
        StreamSys.ioCompleteRequest]

theorem streamMove_ioCancelIrp (irp : Irp) :
    StreamMove s (.ioCancelIrp irp) (s.ioCancelIrp irp) := by
  unfold StreamSys.ioCancelIrp
  by_cases hq : irp ∈ s.list
  · simpa only [hq, if_true] using StreamMove.cancelQueued (s := s) irp hq
  · simpa only [hq, if_false] using StreamMove.cancelFlag (s := s) irp hq

theorem streamMove_worker {ok : Bool} {n : ULONG} (h : streamEnabled s (.worker ok n)) :
    StreamMove s (.worker ok n) (s.streamWorkerStep ok n) := by
  unfold streamWorkerStep
  cases hpc : s.worker with
  | acquire => exact .acquired ok n hpc
  | wakeupAdd =>
      cases ok with
      | true => exact .wakeupAdded n hpc
      | false => exact .wakeupFailed n hpc
  | wait => exact .waited ok n hpc (h.2 hpc)
  | clear => exact .cleared ok n hpc
  | alerted =>
      by_cases ha : s.alerted = true
      · simpa only [if_pos ha] using StreamMove.alerted ok n hpc ha
      · simpa only [if_neg ha] using StreamMove.notAlerted ok n hpc (Bool.not_eq_true _ ▸ ha)
  | dequeue =>
      cases hq : s.list with
      | nil =>
          simp only [streamRemoveNextIrp_eq]
          exact hq ▸ .nothing ok n hpc hq
      | cons irp rest =>
          simp only [streamRemoveNextIrp_eq]
          exact .take ok n irp rest hpc hq
  | test irp =>
      by_cases hb : s.Blocked irp
      · simpa only [hb, if_true] using StreamMove.blocked ok n irp hpc hb
      · simpa only [hb, if_false] using StreamMove.ready ok n irp hpc hb
  | putBack irp =>
      simp only [StreamSys.ioCsqInsertIrpEx, streamCsqInsertIrpEx, if_true]
      cases hc : s.cancel irp.seq with
      | false => exact .putBack ok n irp hpc hc
      | true => exact .putBackCancelled ok n irp hpc hc
  | transfer irp => exact .transfer ok n irp hpc
  | complete irp m => exact .complete ok n irp m hpc
  | wakeupRemove => exact .wakeupRemove ok n hpc
  | release => exact .release ok n hpc
  | ended => exact absurd hpc h.1

theorem streamMove_destroy (h : streamEnabled s .destroyStep) :
    StreamMove s .destroyStep s.streamDestroyStep := by
  unfold streamDestroyStep
  cases hpc : s.destroyer with
  | idle => exact absurd hpc h.1
  | alert => exact .destroyAlert hpc
  | wake => exact .destroyWake hpc
  | join => exact .destroyJoin hpc (h.2.2 hpc)
  | drain =>
      cases hq : s.list with
      | nil =>
          simp only [streamRemoveNextIrp_eq]
          exact hq ▸ .drained hpc hq
      | cons irp rest =>
          simp only [streamRemoveNextIrp_eq]
          exact .drainTake irp rest hpc hq
  | complete irp => exact .drainComplete irp hpc
  | returned => exact absurd hpc h.2.1

/-- `__ConsoleReadWrite` never answers anything but `STATUS_PENDING` here. -/
def StreamSys.AllPending (s : StreamSys) : Prop :=
  ∀ t irp status, s.dispatch t = .inserted irp status → status = .pending

/-- **A step that can be taken is one of the cases.** -/
theorem streamMove_of_enabled {l : StreamLabel} (hp : s.AllPending) (h : streamEnabled s l) :
    StreamMove s l (streamNext s l) := by
  cases l with
  | putQueue t irp cancelled => exact streamMove_putQueue h
  | dispatched t =>
      simp only [streamNext, StreamSys.dispatchReturn]
      cases hd : s.dispatch t with
      | idle => exact absurd hd h
      | inserted irp status =>
          obtain rfl := hp t irp status hd
          exact .dispatched t
  | ioCancelIrp irp => exact streamMove_ioCancelIrp irp
  | activity room => exact .activity room
  | use room => exact .use room h
  | worker ok n => exact streamMove_worker h
  | destroyStart => exact .destroyStart h
  | destroyStep => exact streamMove_destroy h

theorem StreamMove.allPending {l : StreamLabel} {s' : StreamSys} (hp : s.AllPending)
    (h : StreamMove s l s') : s'.AllPending := by
  cases h with
  | putQueue t irp hseq hlive | putCancelled t irp hseq hlive =>
      intro t' irp' status h'
      by_cases ht : t' = t
      · subst ht
        simp [streamCsqCompleteCanceledIrp, StreamSys.ioCompleteRequest, arrive] at h'
        exact h'.2.symm
      · simp [streamCsqCompleteCanceledIrp, StreamSys.ioCompleteRequest, arrive, ht] at h'
        exact hp t' irp' status h'
  | dispatched t =>
      intro t' irp' status h'
      by_cases ht : t' = t
      · subst ht
        simp at h'
      · simp [ht] at h'
        exact hp t' irp' status h'
  | _ => exact hp

/-- From the end of `ThreadJoin` on, the thread has ended. -/
def StreamSys.Joined (s : StreamSys) : Prop := s.destroyer.live ∨ s.worker = .ended

theorem StreamMove.joined {l : StreamLabel} {s' : StreamSys} (hj : s.Joined)
    (h : StreamMove s l s') : s'.Joined := by
  -- a thread that takes a step has not ended
  have hlive : s.worker ≠ .ended → s.destroyer.live := hj.resolve_right
  cases h with
  | putQueue | putCancelled | dispatched | cancelQueued | cancelFlag | activity | use => exact hj
  | destroyStart hpc | destroyAlert hpc | destroyWake hpc => exact .inl trivial
  | destroyJoin hpc hended => exact .inr hended
  | drained hpc hq | drainTake irp rest hpc hq | drainComplete irp hpc =>
      exact .inr (hj.resolve_left (by simp [hpc, StreamDestroyPc.live]))
  | acquired ok n hpc | wakeupAdded n hpc | wakeupFailed n hpc | waited ok n hpc | cleared ok n hpc
  | alerted ok n hpc | notAlerted ok n hpc | nothing ok n hpc | take ok n irp rest hpc
  | blocked ok n irp hpc | ready ok n irp hpc | putBack ok n irp hpc
  | putBackCancelled ok n irp hpc | transfer ok n irp hpc | complete ok n irp m hpc
  | wakeupRemove ok n hpc | release ok n hpc => exact .inl (hlive (by simp [hpc]))

/-- **The invariant rule over the cases.** -/
theorem Lib.Reach.streamInvariant {P : StreamSys → StreamLabel → Prop} {I : StreamSys → Prop}
    (h0 : I .init) (hs : ∀ s l s', s.Joined → I s → P s l → StreamMove s l s' → I s')
    (h : Reach streamSystem P .init s) : s.Joined ∧ I s := by
  have hall : s.AllPending ∧ s.Joined ∧ I s := by
    refine h.invariant (I := fun s => s.AllPending ∧ s.Joined ∧ I s) ⟨nofun, .inl trivial, h0⟩
      fun s l hi he hl => ?_
    have hmove : StreamMove s l (streamNext s l) := streamMove_of_enabled hi.1 he
    exact ⟨hmove.allPending hi.1, hmove.joined hi.2.1, hs s l _ hi.2.1 hi.2.2 hl hmove⟩
  exact hall.2

end Xencons
