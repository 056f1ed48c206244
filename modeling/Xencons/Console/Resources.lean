import Xencons.Console.Stream
import Xencons.Lib.Ledger

/-!
# What an open file of the default console holds (console.c, stream.c, thread.c)

An open allocates a handle, a stream and the structure of a thread, creates the thread and takes a
reference on its object; the thread acquires the console interface and registers its event. A close
gives these back, partly from the closing thread and partly from the stream's own. Here every
allocation and every call of the interface succeeds, so that what is left over is left over by
design of the code and not by a failure.

* `FileSys` -- one file: where its opener or closer stands, its stream, its `XENCONS_THREAD`;
* `resourceSystem` -- any number of files, opened, used and closed in any
  interleaving, with a ledger of what has been taken and given back;
* `FileSys.holds`, `Books` -- the ledger is what the files hold; `books_next`, `reach_books`;
* `given_back_iff` -- what is left when every file is closed. `ThreadCreate` takes a reference on
  the thread object that nothing drops.
-/

namespace Xencons

open Lib Function

/-! ## 1. One file -/

/-- What is counted. -/
inductive Resource where
  /-- pool allocations -/
  | pool
  /-- `XENCONS_THREAD` structures among them -/
  | thread
  /-- references on thread objects, by `ObReferenceObjectByHandle` -/
  | threadObject
  /-- thread handles, by `PsCreateSystemThread` -/
  | threadHandle
  /-- references on the console interface -/
  | interface
  /-- events registered with it -/
  | wakeup
deriving DecidableEq

/-- Where `ConsoleOpen` or `ConsoleClose` of a file stands; the names are those of the next call. -/
inductive FilePc where
  /-- not opened yet -/
  | absent
  /-- `__ConsoleAllocate` -/
  | allocateHandle
  /-- `__StreamAllocate` -/
  | allocateStream
  /-- `__ThreadAllocate` -/
  | allocateThread
  /-- `PsCreateSystemThread` -/
  | createThread
  /-- `ObReferenceObjectByHandle` -/
  | referenceThread
  /-- `ZwClose` -/
  | closeHandle
  /-- `InsertTailList` -/
  | insert
  | opened
  /-- `ConsoleClose` has found the handle: `RemoveEntryList` -/
  | unlink
  /-- inside `StreamDestroy`, up to `__StreamFree` -/
  | destroyStream
  /-- `__ConsoleFree` -/
  | freeHandle
  | closed
deriving DecidableEq

/-- A file, with its stream and the `XENCONS_THREAD` of that. -/
structure FileSys where
  pc : FilePc
  stream : StreamSys
  /-- `LONG References` -/
  references : Int
  /-- `ThreadFunction` has dropped its reference and the thread has ended -/
  exited : Bool
  /-- the `XENCONS_THREAD` has been freed -/
  freed : Bool

namespace FileSys

def absent : FileSys where
  pc := .absent
  stream := StreamSys.init
  references := 0
  exited := false
  freed := false

/-- A step of a file: what it leaves, takes and gives back. -/
structure Change where
  file : FileSys
  takes : List Resource
  gives : List Resource

/-- `ConsoleOpen` or `ConsoleClose` goes on. -/
def step (x : FileSys) : Change :=
  match x.pc with
  | .allocateHandle => ⟨{ x with pc := .allocateStream }, [.pool], []⟩
  | .allocateStream => ⟨{ x with pc := .allocateThread }, [.pool], []⟩
  | .allocateThread => ⟨{ x with pc := .createThread, references := 2 }, [.pool, .thread], []⟩
  | .createThread => ⟨{ x with pc := .referenceThread }, [.threadHandle], []⟩
  | .referenceThread => ⟨{ x with pc := .closeHandle }, [.threadObject], []⟩
  | .closeHandle => ⟨{ x with pc := .insert }, [], [.threadHandle]⟩
  | .insert => ⟨{ x with pc := .opened }, [], []⟩
  | .unlink =>
    ⟨{ x with pc := .destroyStream, stream := streamNext x.stream .destroyStart }, [], []⟩
  | .destroyStream =>
    let x' := { x with stream := streamNext x.stream .destroyStep }
    match x.stream.destroyer with
    | .returned => ⟨{ x with pc := .freeHandle }, [], [.pool]⟩
    -- ThreadJoin: the thread has ended, and the structure is freed whatever References says
    | .join => ⟨{ x' with references := x.references - 1, freed := true }, [], [.pool, .thread]⟩
    | _ => ⟨x', [], []⟩
  | .freeHandle => ⟨{ x with pc := .closed }, [], [.pool]⟩
  | _ => ⟨x, [], []⟩

/-- `StreamWorker` goes on; `n` is what `Read` or `Write` returns. -/
def work (x : FileSys) (n : ULONG) : Change :=
  let x' := { x with stream := streamNext x.stream (.worker true n) }
  match x.stream.worker with
  | .acquire => ⟨x', [.interface], []⟩
  | .wakeupAdd => ⟨x', [.wakeup], []⟩
  | .wakeupRemove => ⟨x', [], [.wakeup]⟩
  | .release => ⟨x', [], [.interface]⟩
  | _ => ⟨x', [], []⟩

/-- The rest of `ThreadFunction`, behind `StreamWorker`. -/
def threadFunction (x : FileSys) : Change :=
  let references := x.references - 1
  let x' := { x with references := references, exited := true }
  if references = 0 then ⟨{ x' with freed := true }, [], [.pool, .thread]⟩ else ⟨x', [], []⟩

end FileSys

/-- `PsCreateSystemThread` has been called. -/
def FilePc.started : FilePc → Bool
  | .absent | .allocateHandle | .allocateStream | .allocateThread | .createThread => false
  | _ => true

/-- The handle may be found by the read and write paths. -/
def FilePc.usable : FilePc → Bool
  | .opened | .unlink | .destroyStream => true
  | _ => false

/-- The stream has been allocated and not been freed. -/
def FilePc.hasStream : FilePc → Bool
  | .absent | .allocateHandle | .allocateStream | .freeHandle | .closed => false
  | _ => true

/-- An opener or closer is inside. -/
def FilePc.busy : FilePc → Bool
  | .absent | .opened | .closed => false
  | _ => true

/-! ## 2. The machine -/

structure ResourceSys where
  file : Nat → FileSys
  /-- the files opened, in their order -/
  files : List Nat
  /-- `Console->List` -/
  list : List Nat
  /-- how many of each resource are held -/
  held : Resource → Int

inductive ResourceLabel where
  | consoleOpen (f : Nat)
  | consoleClose (f : Nat)
  /-- the opener or closer of a file goes on -/
  | step (f : Nat)
  /-- the thread of its stream goes on -/
  | work (f : Nat) (n : ULONG)
  /-- and ends -/
  | threadFunction (f : Nat)
  /-- requests, cancellations and the console's activity -/
  | stream (f : Nat) (l : StreamLabel)

/-- Neither the thread's step nor `StreamDestroy`'s. -/
def StreamLabel.outside : StreamLabel → Bool
  | .worker _ _ | .destroyStart | .destroyStep => false
  | _ => true

/-- Puts a request on the stream. -/
def StreamLabel.puts : StreamLabel → Bool
  | .putQueue .. => true
  | _ => false

namespace ResourceSys

/-- Nothing has been opened yet, and so much is held by others. -/
def init (held : Resource → Int) : ResourceSys where
  file _ := .absent
  files := []
  list := []
  held := held

/-- A file takes a step. -/
def change (s : ResourceSys) (f : Nat) (c : FileSys.Change) : ResourceSys :=
  { s with
    file := update s.file f c.file
    held := fun r => s.held r + (c.takes.count r : Int) - (c.gives.count r : Int) }

end ResourceSys

def resourceEnabled (s : ResourceSys) : ResourceLabel → Prop
  | .consoleOpen f => (s.file f).pc = .absent
  | .consoleClose f => (s.file f).pc = .opened
  | .step f => (s.file f).pc.busy = true ∧ ((s.file f).pc = .destroyStream →
      (s.file f).stream.destroyer = .join → (s.file f).exited = true)
  | .work f n => (s.file f).pc.started = true ∧ streamEnabled (s.file f).stream (.worker true n)
  | .threadFunction f => (s.file f).pc.started = true ∧ (s.file f).stream.worker = .ended ∧
      (s.file f).exited = false
  | .stream f l => l.outside = true ∧ (s.file f).pc.hasStream = true ∧
      (l.puts = true → (s.file f).pc.usable = true) ∧ streamEnabled (s.file f).stream l

def resourceNext (s : ResourceSys) : ResourceLabel → ResourceSys
  | .consoleOpen f =>
    { s.change f ⟨{ s.file f with pc := .allocateHandle }, [], []⟩ with files := s.files ++ [f] }
  | .consoleClose f =>
    -- __ConsoleFindHandle, by the file object
    if f ∈ s.list then s.change f ⟨{ s.file f with pc := .unlink }, [], []⟩
    else s.change f ⟨{ s.file f with pc := .closed }, [], []⟩
  | .step f =>
    let s' := s.change f (s.file f).step
    match (s.file f).pc with
    | .insert => { s' with list := s.list ++ [f] }
    | .unlink => { s' with list := s.list.erase f }
    | _ => s'
  | .work f n => s.change f ((s.file f).work n)
  | .threadFunction f => s.change f (s.file f).threadFunction
  | .stream f l => s.change f ⟨{ s.file f with stream := streamNext (s.file f).stream l }, [], []⟩

/-- **The files of the default console, and what they hold.** -/
def resourceSystem : System ResourceSys ResourceLabel where
  enabled := resourceEnabled
  next := resourceNext

/-! ## 3. What a file holds -/

def StreamPc.hasInterface : StreamPc → Bool
  | .acquire | .ended => false
  | _ => true

def StreamPc.hasWakeup : StreamPc → Bool
  | .acquire | .wakeupAdd | .release | .ended => false
  | _ => true

namespace FilePc

def hasHandle : FilePc → Bool
  | .absent | .allocateHandle | .closed => false
  | _ => true

/-- The `XENCONS_THREAD` has been allocated. -/
def hasThread : FilePc → Bool
  | .absent | .allocateHandle | .allocateStream | .allocateThread => false
  | _ => true

def hasThreadHandle : FilePc → Bool
  | .referenceThread | .closeHandle => true
  | _ => false

/-- `ObReferenceObjectByHandle` has been called. -/
def referenced : FilePc → Bool
  | .closeHandle | .insert | .opened | .unlink | .destroyStream | .freeHandle | .closed => true
  | _ => false

/-- `StreamDestroy` has been called. -/
def destroying : FilePc → Bool
  | .destroyStream | .freeHandle | .closed => true
  | _ => false

/-- The handle is on `Console->List`. -/
def linked : FilePc → Bool
  | .opened | .unlink => true
  | _ => false

end FilePc

namespace FileSys

def hasThread (x : FileSys) : Bool := x.pc.hasThread && !x.freed

/-- What a file holds of each resource. -/
def holds (x : FileSys) : Resource → Int
  | .pool => x.pc.hasHandle.toNat + x.pc.hasStream.toNat + x.hasThread.toNat
  | .thread => x.hasThread.toNat
  | .threadObject => x.pc.referenced.toNat
  | .threadHandle => x.pc.hasThreadHandle.toNat
  | .interface => x.stream.worker.hasInterface.toNat
  | .wakeup => x.stream.worker.hasWakeup.toNat

/-- The step changes what the file holds by what it takes and gives back. -/
def Change.Balanced (x : FileSys) (c : Change) : Prop :=
  ∀ r, c.file.holds r = x.holds r + (c.takes.count r : Int) - (c.gives.count r : Int)

/-- The two owners of the `XENCONS_THREAD`, and who frees it: the thread ends first, because the
    closer waits for it. -/
structure Tidy (x : FileSys) : Prop where
  before : x.pc.started = false → x.stream.worker = .acquire ∧ x.exited = false
  destroying : x.pc.destroying = false → x.stream.destroyer = .idle
  returned : x.pc = .freeHandle ∨ x.pc = .closed → x.stream.destroyer = .returned
  references : x.pc.hasThread = true →
    x.references = ((!x.exited).toNat : Int) + if x.stream.destroyer.live then 1 else 0
  freed : x.freed = true ↔ ¬x.stream.destroyer.live
  ended : x.exited = true → x.stream.worker = .ended
  joined : ¬x.stream.destroyer.live → x.exited = true

end FileSys

section Stream

variable {s : StreamSys} {l : StreamLabel}

/-- Neither thread moves where the others do. -/
theorem streamNext_outside (hl : l.outside = true) :
    (streamNext s l).worker = s.worker ∧ (streamNext s l).destroyer = s.destroyer := by
  cases l with
  | putQueue t irp cancelled =>
      cases cancelled <;>
        simp [streamNext, StreamSys.consoleReadWrite, StreamSys.streamPutQueue,
          StreamSys.ioCsqInsertIrpEx, StreamSys.streamCsqInsertIrpEx,
          StreamSys.streamCsqCompleteCanceledIrp, StreamSys.ioCompleteRequest]
  | dispatched t =>
      show (s.dispatchReturn t).worker = s.worker ∧ (s.dispatchReturn t).destroyer = s.destroyer
      unfold StreamSys.dispatchReturn
      cases hd : s.dispatch t with
      | idle => exact ⟨rfl, rfl⟩
      | inserted irp status =>
          by_cases hp : status = .pending <;> simp [hp, StreamSys.ioCompleteRequest]
  | ioCancelIrp irp =>
      show (s.ioCancelIrp irp).worker = s.worker ∧ (s.ioCancelIrp irp).destroyer = s.destroyer
      unfold StreamSys.ioCancelIrp
      by_cases hq : irp ∈ s.list <;>
        simp [hq, StreamSys.streamCsqCompleteCanceledIrp, StreamSys.ioCompleteRequest]
  | activity room | use room => exact ⟨rfl, rfl⟩
  | worker ok n | destroyStart | destroyStep => cases hl

/-- Where the thread goes when everything succeeds. -/
theorem streamNext_worker (n : ULONG) :
    let s' := streamNext s (.worker true n)
    s'.destroyer = s.destroyer ∧
      s'.worker.hasInterface =
        (s.worker.hasInterface && s.worker ≠ .release || s.worker = .acquire) ∧
      s'.worker.hasWakeup =
        (s.worker.hasWakeup && s.worker ≠ .wakeupRemove || s.worker = .wakeupAdd) := by
  cases hpc : s.worker with
  | dequeue =>
      cases hl : s.list <;>
        simp [streamNext, StreamSys.streamWorkerStep, hpc, hl, StreamPc.hasInterface,
          StreamPc.hasWakeup]
  | test irp =>
      by_cases hb : s.Blocked irp <;>
        simp [streamNext, StreamSys.streamWorkerStep, hpc, hb, StreamPc.hasInterface,
          StreamPc.hasWakeup]
  | putBack irp =>
      by_cases hc : s.cancel irp.seq = true <;>
        simp [streamNext, StreamSys.streamWorkerStep, hpc, hc, StreamPc.hasInterface,
          StreamPc.hasWakeup, StreamSys.ioCsqInsertIrpEx, StreamSys.streamCsqInsertIrpEx,
          StreamSys.streamCsqCompleteCanceledIrp, StreamSys.ioCompleteRequest]
  | alerted =>
      by_cases ha : s.alerted = true <;>
        simp [streamNext, StreamSys.streamWorkerStep, hpc, ha, StreamPc.hasInterface,
          StreamPc.hasWakeup]
  | _ =>
      simp [streamNext, StreamSys.streamWorkerStep, hpc, StreamPc.hasInterface, StreamPc.hasWakeup,
        StreamSys.ioCompleteRequest]

/-- `StreamDestroy` leaves the thread alone, and goes from `ThreadJoin` on past it. -/
theorem streamNext_destroyStep :
    (streamNext s .destroyStep).worker = s.worker ∧
      ((streamNext s .destroyStep).destroyer.live ↔
        s.destroyer.live ∧ s.destroyer ≠ .join) := by
  show s.streamDestroyStep.worker = s.worker ∧ (s.streamDestroyStep.destroyer.live ↔ _)
  unfold StreamSys.streamDestroyStep
  cases hpc : s.destroyer with
  | drain =>
      cases s.list <;> simp [StreamDestroyPc.live]
  | _ =>
      simp [hpc, StreamDestroyPc.live, StreamSys.streamCsqCompleteCanceledIrp,
        StreamSys.ioCompleteRequest]

end Stream

/-! ## 4. A step of one file -/

namespace FileSys

variable {x : FileSys}

theorem tidy_absent : absent.Tidy where
  before _ := ⟨rfl, rfl⟩
  destroying _ := rfl
  returned h := by rcases h with h | h <;> cases h
  references h := by cases h
  freed := by simp [absent, StreamSys.init, StreamDestroyPc.live]
  ended h := by cases h
  joined h := absurd trivial h

/-- Before `StreamDestroy` the structure is there. -/
theorem Tidy.not_freed (h : x.Tidy) (hpc : x.pc.destroying = false) : x.freed = false := by
  by_contra hf
  refine h.freed.mp (by simpa using hf) ?_
  rw [h.destroying hpc]
  trivial

/-- A step of the opener that leaves stream and structure alone. -/
theorem Tidy.opens (h : x.Tidy) {pc : FilePc} (hs : x.pc.started = true → pc.started = true)
    (hd : pc.destroying = false) (hd' : x.pc.destroying = false)
    (ht : pc.hasThread = true → x.pc.hasThread = true) : Tidy { x with pc := pc } where
  before hp := by
    refine h.before ?_
    by_contra hp'
    rw [hs (by simpa using hp')] at hp
    cases hp
  destroying _ := h.destroying hd'
  returned hp := by rcases hp with rfl | rfl <;> cases hd
  references hp := h.references (ht hp)
  freed := h.freed
  ended := h.ended
  joined := h.joined

/-- A step of the closer that leaves stream and structure alone. -/
theorem Tidy.closes (h : x.Tidy) {pc : FilePc} (hr : x.stream.destroyer = .returned)
    (hs : x.pc.hasThread = true) (hd : pc.destroying = true) : Tidy { x with pc := pc } where
  before hp := by cases pc <;> cases hd <;> cases hp
  destroying hp := by rw [hd] at hp; cases hp
  returned _ := hr
  references _ := h.references hs
  freed := h.freed
  ended := h.ended
  joined := h.joined

/-- **The opener or closer keeps it.** -/
theorem Tidy.step (h : x.Tidy)
    (hj : x.pc = .destroyStream → x.stream.destroyer = .join → x.exited = true) :
    x.step.file.Tidy := by
  have hgoes := @Tidy.opens x h
  unfold FileSys.step
  cases hpc : x.pc with
  | absent | opened | closed => exact h
  | allocateHandle | allocateStream | createThread | referenceThread | closeHandle | insert =>
      rw [hpc] at hgoes
      exact hgoes (by decide) rfl rfl (by decide)
  | allocateThread =>
      obtain ⟨hworker, hexited⟩ := h.before (by rw [hpc]; rfl)
      have hidle := h.destroying (by rw [hpc]; rfl)
      refine ⟨fun _ => ⟨hworker, hexited⟩, fun _ => hidle,
        (fun hn => by rcases hn with hn | hn <;> cases hn), fun _ => ?_, h.freed, h.ended, h.joined⟩
      simp [hexited, hidle, StreamDestroyPc.live]
  | unlink =>
      have hidle := h.destroying (by rw [hpc]; rfl)
      have hlive : x.stream.destroyer.live := by rw [hidle]; trivial
      have href := h.references (by rw [hpc]; rfl)
      refine ⟨(fun hn => by cases hn), (fun hn => by cases hn),
        (fun hn => by rcases hn with hn | hn <;> cases hn), fun _ => ?_, ?_, h.ended,
        fun hn => absurd trivial hn⟩
      · rw [if_pos hlive] at href
        exact href
      · refine ⟨fun hf => absurd hlive (h.freed.mp hf), fun hn => absurd trivial hn⟩
  | freeHandle =>
      exact h.closes (h.returned (.inl hpc)) (by rw [hpc]; rfl) rfl
  | destroyStream =>
      have href := h.references (by rw [hpc]; rfl)
      obtain ⟨hworker, hlive⟩ := streamNext_destroyStep (s := x.stream)
      by_cases hret : x.stream.destroyer = .returned
      · simp only [hret]
        exact h.closes hret (by rw [hpc]; rfl) rfl
      by_cases hjoin : x.stream.destroyer = .join
      · -- the thread has dropped its reference, so this is the last one
        have hexited := hj hpc hjoin
        have hgone : ¬(streamNext x.stream .destroyStep).destroyer.live := fun hl =>
          (hlive.mp hl).2 hjoin
        simp only [hjoin]
        refine ⟨(fun hn => by cases hn), (fun hn => by cases hn),
          (fun hn => by rcases hn with hn | hn <;> cases hn), fun _ => ?_,
          ⟨fun _ => hgone, fun _ => rfl⟩, fun _ => ?_, fun _ => hexited⟩
        · rw [if_neg hgone, href, hexited, hjoin]
          rfl
        · exact hworker.trans (h.ended hexited)
      · have hsame : (streamNext x.stream .destroyStep).destroyer.live ↔ x.stream.destroyer.live :=
          hlive.trans ⟨And.left, fun hl => ⟨hl, hjoin⟩⟩
        have hkeep : Tidy { x with stream := streamNext x.stream .destroyStep } := by
          refine ⟨fun hp => ?_, fun hp => ?_, fun hp => ?_, fun _ => ?_, ?_, fun he => ?_,
            fun hn => ?_⟩
          · rw [hpc] at hp; cases hp
          · rw [hpc] at hp; cases hp
          · rw [hpc] at hp; rcases hp with hp | hp <;> cases hp
          · simp only [hsame]; exact href
          · rw [hsame]; exact h.freed
          · exact hworker.trans (h.ended he)
          · exact h.joined (hsame.not.mp hn)
        cases hd : x.stream.destroyer <;>
          first | exact absurd hd hret | exact absurd hd hjoin | skip
        all_goals rw [hpc] at hkeep; exact hkeep

attribute [local simp] FileSys.hasThread FilePc.hasHandle FilePc.hasStream FilePc.hasThread
  FilePc.hasThreadHandle FilePc.referenced in
/-- **And the ledger of its step is right.** -/
theorem Tidy.step_balanced (h : x.Tidy) : x.step.Balanced x := by
  intro r
  have hnf := h.not_freed
  unfold FileSys.step
  cases hpc : x.pc with
  | absent | opened | closed => simp [holds]
  | allocateThread =>
      have hf := hnf (by rw [hpc]; rfl)
      cases r <;> simp [holds, hpc, hf]
  | destroyStream =>
      by_cases hret : x.stream.destroyer = .returned
      · have hf : x.freed = true := h.freed.mpr (by rw [hret]; exact id)
        cases r <;> simp [holds, hpc, hret, hf]
      by_cases hjoin : x.stream.destroyer = .join
      · have hf : x.freed = false := by
          by_contra hf
          refine h.freed.mp (by simpa using hf) ?_
          rw [hjoin]
          trivial
        cases r <;> simp [holds, hpc, hjoin, hf, streamNext_destroyStep.1]
      · have hkeep : holds { x with stream := streamNext x.stream .destroyStep } r = x.holds r := by
          cases r <;> simp [holds, streamNext_destroyStep.1]
        cases hd : x.stream.destroyer <;>
          first | exact absurd hd hret | exact absurd hd hjoin | skip
        all_goals rw [hpc] at hkeep; simpa using hkeep
  | _ =>
      cases r <;> simp [holds, hpc, streamNext]

/-- **The stream's thread keeps it**, ... -/
theorem Tidy.work (h : x.Tidy) {n : ULONG} (hs : x.pc.started = true)
    (hw : x.stream.worker ≠ .ended) : (x.work n).file.Tidy := by
  have hfile : (x.work n).file = { x with stream := streamNext x.stream (.worker true n) } := by
    unfold FileSys.work
    cases x.stream.worker <;> rfl
  obtain ⟨hd, -, -⟩ := streamNext_worker (s := x.stream) n
  have hnot : x.exited = false := by
    by_contra he
    exact hw (h.ended (by simpa using he))
  rw [hfile]
  refine ⟨fun hp => ?_, fun hp => ?_, fun hp => ?_, fun hp => ?_, ?_, fun he => ?_, fun hn => ?_⟩
  · rw [hs] at hp; cases hp
  · exact hd.trans (h.destroying hp)
  · exact hd.trans (h.returned hp)
  · simp only [hd]; exact h.references hp
  · simp only [hd]; exact h.freed
  · rw [hnot] at he; cases he
  · simp only [hd] at hn; exact h.joined hn

theorem work_balanced (x : FileSys) (n : ULONG) : (x.work n).Balanced x := by
  intro r
  obtain ⟨-, hacq, hreg⟩ := streamNext_worker (s := x.stream) n
  unfold FileSys.work
  cases hpc : x.stream.worker <;> cases r <;>
    simp only [holds, FileSys.hasThread, hacq, hreg, hpc] <;> rfl

/-- ... and so does its end, ... -/
theorem Tidy.threadFunction (h : x.Tidy) (hs : x.pc.started = true)
    (hw : x.stream.worker = .ended) (he : x.exited = false) :
    x.threadFunction.file.Tidy ∧ x.threadFunction.Balanced x := by
  have hlive : x.stream.destroyer.live := by
    by_contra hn
    rw [h.joined hn] at he
    cases he
  have hthread : x.pc.hasThread = true := by
    cases hpc : x.pc <;> rw [hpc] at hs <;> first | rfl | cases hs
  -- the closer still has its own reference
  have href : x.references = 2 := by simpa [he, hlive] using h.references hthread
  have hmore : x.references - 1 ≠ 0 := by omega
  unfold FileSys.threadFunction
  simp only [if_neg hmore]
  refine ⟨⟨fun hp => ?_, h.destroying, h.returned, fun _ => ?_, h.freed, fun _ => hw, fun _ => rfl⟩,
    fun r => ?_⟩
  · rw [hs] at hp; cases hp
  · simp [href, hlive]
  · cases r <;> simp [holds, FileSys.hasThread]

/-- ... and everybody else. -/
theorem Tidy.outside (h : x.Tidy) {l : StreamLabel} (hl : l.outside = true) :
    Tidy { x with stream := streamNext x.stream l } ∧
      Change.Balanced x ⟨{ x with stream := streamNext x.stream l }, [], []⟩ := by
  obtain ⟨hw, hd⟩ := streamNext_outside (s := x.stream) hl
  refine ⟨⟨fun hp => ?_, fun hp => ?_, fun hp => ?_, fun hp => ?_, ?_, fun he => ?_, fun hn => ?_⟩,
    fun r => ?_⟩
  · exact ⟨hw.trans (h.before hp).1, (h.before hp).2⟩
  · exact hd.trans (h.destroying hp)
  · exact hd.trans (h.returned hp)
  · simp only [hd]; exact h.references hp
  · simp only [hd]; exact h.freed
  · exact hw.trans (h.ended he)
  · simp only [hd] at hn; exact h.joined hn
  · cases r <;> simp [holds, FileSys.hasThread, hw]

end FileSys

/-! ## 5. All of them -/

/-- **The ledger is right**: what is held is what was held before, and what the files hold. -/
structure Books (held₀ : Resource → Int) (s : ResourceSys) : Prop where
  nodup : s.files.Nodup
  mem : ∀ f, f ∈ s.files ↔ (s.file f).pc ≠ .absent
  tidy : ∀ f, (s.file f).Tidy
  nodupList : s.list.Nodup
  listed : ∀ f, f ∈ s.list ↔ (s.file f).pc.linked = true
  held : ∀ r, s.held r = held₀ r + total (fun f => (s.file f).holds r) s.files

section Steps

variable {held₀ : Resource → Int} {s : ResourceSys} {f : Nat} {c : FileSys.Change}

theorem books_init (held₀ : Resource → Int) : Books held₀ (.init held₀) where
  nodup := List.nodup_nil
  mem f := by simp [ResourceSys.init, FileSys.absent]
  tidy _ := FileSys.tidy_absent
  nodupList := List.nodup_nil
  listed f := by simp [ResourceSys.init, FileSys.absent, FilePc.linked]
  held r := by simp [ResourceSys.init]

/-- A file that has been opened takes a step, and the list is then `list`. -/
theorem Books.change (h : Books held₀ s) (hf : (s.file f).pc ≠ .absent) (htidy : c.file.Tidy)
    (hbal : c.Balanced (s.file f)) (hpc : c.file.pc ≠ .absent) {list : List Nat}
    (hnl : list.Nodup)
    (hl : ∀ g, g ∈ list ↔ (if g = f then c.file else s.file g).pc.linked = true) :
    Books held₀ { s.change f c with list := list } where
  nodup := h.nodup
  mem g := by
    by_cases hg : g = f
    · subst hg
      simpa [ResourceSys.change, hpc] using (h.mem g).mpr hf
    · simpa [ResourceSys.change, hg] using h.mem g
  tidy g := by
    by_cases hg : g = f
    · subst hg
      simpa [ResourceSys.change] using htidy
    · simpa [ResourceSys.change, hg] using h.tidy g
  nodupList := hnl
  listed g := by
    rw [hl g]
    by_cases hg : g = f <;> simp [ResourceSys.change, hg]
  held r := by
    have hfile : (fun g => (update s.file f c.file g).holds r) =
        update (fun g => (s.file g).holds r) f (c.file.holds r) := by
      funext g
      by_cases hg : g = f <;> simp [hg]
    show s.held r + (c.takes.count r : Int) - (c.gives.count r : Int) =
      held₀ r + total (fun g => (update s.file f c.file g).holds r) s.files
    rw [hfile, total_update h.nodup ((h.mem f).mpr hf), h.held r, hbal r]
    ring

/-- The same with the list as it was. -/
theorem Books.changeOnly (h : Books held₀ s) (hf : (s.file f).pc ≠ .absent) (htidy : c.file.Tidy)
    (hbal : c.Balanced (s.file f)) (hpc : c.file.pc ≠ .absent)
    (hl : c.file.pc.linked = (s.file f).pc.linked) : Books held₀ (s.change f c) := by
  refine h.change hf htidy hbal hpc h.nodupList fun g => ?_
  by_cases hg : g = f
  · subst hg
    rw [if_pos rfl, hl]
    exact h.listed g
  · rw [if_neg hg]
    exact h.listed g

/-- What a file holds that is about to be opened: nothing. -/
theorem holds_opening {x : FileSys} (h : x.Tidy) (hpc : x.pc = .absent) (r : Resource) :
    FileSys.holds { x with pc := .allocateHandle } r = 0 := by
  obtain ⟨hw, -⟩ := h.before (by rw [hpc]; rfl)
  cases r <;> simp [FileSys.holds, FileSys.hasThread, hw, FilePc.hasHandle, FilePc.hasStream,
    FilePc.hasThread, FilePc.hasThreadHandle, FilePc.referenced, StreamPc.hasInterface,
    StreamPc.hasWakeup]

theorem Books.consoleOpen (h : Books held₀ s) (hpc : (s.file f).pc = .absent) :
    Books held₀ (resourceNext s (.consoleOpen f)) := by
  have hf : f ∉ s.files := fun hmem => (h.mem f).mp hmem hpc
  have htidy : FileSys.Tidy { s.file f with pc := .allocateHandle } :=
    (h.tidy f).opens (by rw [hpc]; decide) rfl (by rw [hpc]; rfl) (by rw [hpc]; decide)
  refine ⟨List.nodup_append.mpr ⟨h.nodup, List.nodup_singleton f, ?_⟩, fun g => ?_, fun g => ?_,
    h.nodupList, fun g => ?_, fun r => ?_⟩
  · intro g hg f' hf' e
    exact hf ((List.mem_singleton.mp hf') ▸ e ▸ hg)
  · by_cases hg : g = f
    · simp [resourceNext, ResourceSys.change, hg]
    · simpa [resourceNext, ResourceSys.change, hg] using h.mem g
  · by_cases hg : g = f
    · subst hg
      simpa [resourceNext, ResourceSys.change] using htidy
    · simpa [resourceNext, ResourceSys.change, hg] using h.tidy g
  · by_cases hg : g = f
    · subst hg
      simpa [resourceNext, ResourceSys.change, hpc, FilePc.linked] using h.listed g
    · simpa [resourceNext, ResourceSys.change, hg] using h.listed g
  · have hfile : (fun g => (update s.file f { s.file f with pc := .allocateHandle } g).holds r) =
        update (fun g => (s.file g).holds r) f 0 := by
      funext g
      by_cases hg : g = f <;> simp [hg, holds_opening (h.tidy f) hpc]
    show s.held r + ((0 : Nat) : Int) - ((0 : Nat) : Int) = held₀ r +
      total (fun g => (update s.file f { s.file f with pc := .allocateHandle } g).holds r)
        (s.files ++ [f])
    rw [hfile, total_snoc, total_update_of_not_mem hf, update_self, h.held r]
    simp

theorem Books.consoleClose (h : Books held₀ s) (hpc : (s.file f).pc = .opened) :
    Books held₀ (resourceNext s (.consoleClose f)) := by
  -- the handle is found
  have hmem : f ∈ s.list := (h.listed f).mpr (by rw [hpc]; rfl)
  have hnext : resourceNext s (.consoleClose f) =
      s.change f ⟨{ s.file f with pc := .unlink }, [], []⟩ := if_pos hmem
  rw [hnext]
  refine h.changeOnly (by rw [hpc]; nofun) ?_ (fun r => ?_) nofun (by rw [hpc]; rfl)
  · exact (h.tidy f).opens (fun _ => rfl) rfl (by rw [hpc]; rfl) (by rw [hpc]; decide)
  · cases r <;> simp [FileSys.holds, FileSys.hasThread, hpc, FilePc.hasHandle, FilePc.hasStream,
      FilePc.hasThread, FilePc.hasThreadHandle, FilePc.referenced]

theorem Books.step (h : Books held₀ s) (hb : (s.file f).pc.busy = true)
    (hj : (s.file f).pc = .destroyStream → (s.file f).stream.destroyer = .join →
      (s.file f).exited = true) : Books held₀ (resourceNext s (.step f)) := by
  have htidy := (h.tidy f).step hj
  have hbal := (h.tidy f).step_balanced
  have habs : (s.file f).pc ≠ .absent := fun e => by rw [e] at hb; cases hb
  cases hpc : (s.file f).pc with
  | absent | opened | closed => rw [hpc] at hb; cases hb
  | insert =>
      have hnext : resourceNext s (.step f) =
          { s.change f (s.file f).step with list := s.list ++ [f] } := by
        simp only [resourceNext, hpc]
      have hnot : f ∉ s.list := fun hm => by
        have hl := (h.listed f).mp hm
        rw [hpc] at hl
        cases hl
      have hfile : (s.file f).step.file.pc = .opened := by simp [FileSys.step, hpc]
      rw [hnext]
      refine h.change habs htidy hbal (by rw [hfile]; nofun) ?_ fun g => ?_
      · refine List.nodup_append.mpr ⟨h.nodupList, List.nodup_singleton f, fun g hg f' hf' e => ?_⟩
        exact hnot ((List.mem_singleton.mp hf') ▸ e ▸ hg)
      · by_cases hg : g = f
        · simp [hg, hfile, FilePc.linked]
        · simp [hg, h.listed g]
  | unlink =>
      have hnext : resourceNext s (.step f) =
          { s.change f (s.file f).step with list := s.list.erase f } := by
        simp only [resourceNext, hpc]
      have hfile : (s.file f).step.file.pc = .destroyStream := by simp [FileSys.step, hpc]
      rw [hnext]
      refine h.change habs htidy hbal (by rw [hfile]; nofun) (h.nodupList.erase f) fun g => ?_
      rw [h.nodupList.mem_erase_iff]
      by_cases hg : g = f
      · simp [hg, hfile, FilePc.linked]
      · simp [hg, h.listed g]
  | destroyStream =>
      have hnext : resourceNext s (.step f) = s.change f (s.file f).step := by
        simp only [resourceNext, hpc]
      rw [hnext]
      refine h.changeOnly habs htidy hbal ?_ ?_ <;>
        cases hd : (s.file f).stream.destroyer <;> simp [FileSys.step, hpc, hd, FilePc.linked]
  | _ =>
      have hnext : resourceNext s (.step f) = s.change f (s.file f).step := by
        simp only [resourceNext, hpc]
      rw [hnext]
      refine h.changeOnly habs htidy hbal ?_ ?_ <;> simp [FileSys.step, hpc, FilePc.linked]

/-- **Every step keeps the books.** -/
theorem books_next {l : ResourceLabel} (h : Books held₀ s) (he : resourceEnabled s l) :
    Books held₀ (resourceNext s l) := by
  cases l with
  | consoleOpen f => exact h.consoleOpen he
  | consoleClose f => exact h.consoleClose he
  | step f => exact h.step he.1 he.2
  | work f n =>
      have hpc : ((s.file f).work n).file.pc = (s.file f).pc := by
        unfold FileSys.work
        cases (s.file f).stream.worker <;> rfl
      have habs : (s.file f).pc ≠ .absent := fun e => by have := he.1; rw [e] at this; cases this
      exact h.changeOnly habs ((h.tidy f).work he.1 he.2.1) (FileSys.work_balanced _ n)
        (by rw [hpc]; exact habs) (by rw [hpc])
  | threadFunction f =>
      obtain ⟨hs, hw, hx⟩ := he
      obtain ⟨htidy, hbal⟩ := (h.tidy f).threadFunction hs hw hx
      have hpc : (s.file f).threadFunction.file.pc = (s.file f).pc := by
        unfold FileSys.threadFunction
        dsimp only
        split <;> rfl
      have habs : (s.file f).pc ≠ .absent := fun e => by rw [e] at hs; cases hs
      exact h.changeOnly habs htidy hbal (by rw [hpc]; exact habs) (by rw [hpc])
  | stream f l =>
      obtain ⟨hl, hs, -⟩ := he
      obtain ⟨htidy, hbal⟩ := (h.tidy f).outside hl
      have habs : (s.file f).pc ≠ .absent := fun e => by rw [e] at hs; cases hs
      exact h.changeOnly habs htidy hbal habs rfl

theorem reach_books {P : ResourceSys → ResourceLabel → Prop}
    (h : Reach resourceSystem P (.init held₀) s) : Books held₀ s :=
  h.invariant (books_init held₀) fun _ _ hb he _ => books_next hb he

end Steps

/-! ## 6. The result -/

/-- What a closed file holds on to. -/
theorem holds_closed {x : FileSys} (h : x.Tidy) (hpc : x.pc = .closed) (r : Resource) :
    x.holds r = if r = .threadObject then 1 else 0 := by
  have hgone : ¬x.stream.destroyer.live := by
    rw [h.returned (.inr hpc)]
    exact id
  have hworker := h.ended (h.joined hgone)
  have hfreed := h.freed.mpr hgone
  cases r <;> simp [FileSys.holds, FileSys.hasThread, hpc, hworker, hfreed, FilePc.hasHandle,
    FilePc.hasStream, FilePc.hasThread, FilePc.hasThreadHandle, FilePc.referenced,
    StreamPc.hasInterface, StreamPc.hasWakeup]

/-- **When every file that was opened has been closed, everything is back to its number before but
    the references on thread objects**: of these there is one more for each open. So what is held
    afterwards is what was held before if and only if no file was opened. -/
theorem given_back_iff {held₀ : Resource → Int} {s : ResourceSys}
    (h : Reach resourceSystem (fun _ _ => True) (.init held₀) s)
    (hclosed : ∀ f, (s.file f).pc = .absent ∨ (s.file f).pc = .closed) :
    (∀ r, s.held r = held₀ r + if r = .threadObject then (s.files.length : Int) else 0) ∧
      (s.held = held₀ ↔ s.files = []) := by
  have hb := reach_books h
  have hheld (r : Resource) :
      s.held r = held₀ r + if r = .threadObject then (s.files.length : Int) else 0 := by
    have hall (f : Nat) (hf : f ∈ s.files) :
        (s.file f).holds r = if r = .threadObject then 1 else 0 :=
      holds_closed (hb.tidy f) ((hclosed f).resolve_left ((hb.mem f).mp hf)) r
    rw [hb.held r, total_const hall]
    by_cases hr : r = .threadObject <;> simp [hr]
  refine ⟨hheld, fun he => ?_, fun hnil => ?_⟩
  · have ht := hheld .threadObject
    rw [he, if_pos rfl] at ht
    exact List.length_eq_zero_iff.mp (by omega)
  · funext r
    rw [hheld r, hnil]
    simp

section Runs

instance (s : ResourceSys) : ∀ l, Decidable (resourceSystem.enabled s l)
  | .consoleOpen _ | .consoleClose _ => inferInstanceAs (Decidable (_ = _))
  | .step _ => inferInstanceAs (Decidable (_ ∧ (_ → _ → _)))
  | .work f n =>
    inferInstanceAs (Decidable (_ ∧ streamSystem.enabled (s.file f).stream (.worker true n)))
  | .threadFunction _ => inferInstanceAs (Decidable (_ ∧ _ ∧ _))
  | .stream f l =>
    inferInstanceAs (Decidable (_ ∧ _ ∧ (_ → _) ∧ streamSystem.enabled (s.file f).stream l))

/-- One file, opened and closed; its thread ends while the closer waits for it. -/
def openedAndClosed : List ResourceLabel :=
  .consoleOpen 0 :: List.replicate 7 (.step 0) ++ List.replicate 2 (.work 0 0) ++
    .consoleClose 0 :: List.replicate 3 (.step 0) ++ List.replicate 5 (.work 0 0) ++
    .threadFunction 0 :: List.replicate 4 (.step 0)

theorem openedAndClosed_reach : Reach resourceSystem (fun _ _ => True) (.init fun _ => 0)
    (runs resourceSystem (.init fun _ => 0) openedAndClosed) :=
  Reach.of_admits _ .start (by decide)

theorem openedAndClosed_closed (f : Nat) :
    ((runs resourceSystem (.init fun _ => 0) openedAndClosed).file f).pc = .absent ∨
      ((runs resourceSystem (.init fun _ => 0) openedAndClosed).file f).pc = .closed := by
  have hfiles : (runs resourceSystem (.init fun _ => 0) openedAndClosed).files = [0] := by decide
  have hmem := (reach_books openedAndClosed_reach).mem f
  rw [hfiles, List.mem_singleton] at hmem
  by_cases hf : f = 0
  · subst hf
    exact .inr (by decide)
  · exact .inl (not_not.mp fun hn => hf (hmem.mpr hn))

/-- It leaves a reference on its thread object behind. -/
theorem openedAndClosed_held :
    (runs resourceSystem (.init fun _ => 0) openedAndClosed).held ≠ fun _ => 0 := by
  have hrun := given_back_iff openedAndClosed_reach openedAndClosed_closed
  exact fun he => absurd (hrun.2.mp he) (by decide)

/-- So it is not true that the files leave nothing behind. -/
theorem thread_object_leaks : ¬ ∀ (held₀ : Resource → Int) (s : ResourceSys),
    Reach resourceSystem (fun _ _ => True) (.init held₀) s →
    (∀ f, (s.file f).pc = .absent ∨ (s.file f).pc = .closed) → s.held = held₀ := by
  intro h
  have hheld := congrFun (h _ _ openedAndClosed_reach openedAndClosed_closed) .threadObject
  exact absurd hheld (by decide)

end Runs

end Xencons
