import Xencons.Lib.Handshake

/-!
# Waiting for the scan thread and for the eject thread (fdo.c, frontend.c)

`FdoQueryDeviceRelations` and `FdoRemoveDevice` clear `ScanEvent`, wake the scan thread and wait;
`FrontendResume`, `FrontendSuspend`, `FrontendAbiAcquire` and `FrontendAbiRelease` do the same with
`EjectEvent` and the eject thread. Watches, `FdoStartDevice` and `FdoRemovePhysicalDeviceObject`
wake a thread without waiting for it.

* `fdoScan`, `frontendEject` -- the two loops, branch by branch, as long as the thread has not been
  alerted;
* `prompt_fdoScan`, `prompt_frontendEject` -- every branch ends at the `KeSetEvent`;
* `wake_and_wait` -- so nobody waits in vain.
-/

namespace Xencons

open Lib

/-! ## 1. FdoScan -/

/-- Where `FdoScan` stands. -/
inductive ScanPc where
  /-- `KeWaitForSingleObject(Event, ...)` -/
  | wait
  /-- `KeClearEvent(Event)` -/
  | clear
  /-- `ThreadIsAlerted(Self)`, which is FALSE -/
  | alerted
  /-- `__FdoGetDevicePnpState(Fdo) != Started` -/
  | pnpState
  /-- `KeSetEvent(&Fdo->ScanEvent, ...)`, and `continue` -/
  | notStarted
  /-- `XENBUS_STORE(Directory, ...)`, `__FdoMultiSzToUpcaseAnsi` -/
  | directory
  /-- the `UnsupportedDevices` -/
  | unsupported
  /-- `__FdoEnumerate`, `IoInvalidateDeviceRelations` -/
  | enumerate
  /-- `loop:`, `KeSetEvent(&Fdo->ScanEvent, ...)` -/
  | loop
deriving DecidableEq

/-- What `FdoScan` finds: the state of the FDO, and whether there is a list of devices. -/
structure ScanAnswer where
  started : Bool
  devices : Bool

/-- The loop of `FdoScan`. -/
def fdoScan : ScanPc → ScanAnswer → WorkerStep ScanPc
  | .wait, _ => .wait .clear
  | .clear, _ => .clearRequest .alerted
  | .alerted, _ => .go .pnpState
  | .pnpState, answer => if answer.started then .go .directory else .go .notStarted
  | .notStarted, _ => .setDone .wait
  | .directory, answer => if answer.devices then .go .unsupported else .go .loop
  | .unsupported, _ => .go .enumerate
  | .enumerate, _ => .go .loop
  | .loop, _ => .setDone .wait

/-- Past its clear, `FdoScan` is on its way to `ScanEvent`. -/
theorem prompt_fdoScan : Prompt fdoScan fun p => p ≠ .wait ∧ p ≠ .clear where
  clearRequest p c q h := by
    cases p <;> grind [fdoScan]
  go p c q _ h := by
    cases p <;> grind [fdoScan]
  wait p c q h := by
    cases p <;> grind [fdoScan]

/-! ## 2. FrontendEject -/

/-- Where `FrontendEject` stands. -/
inductive EjectPc where
  /-- `KeWaitForSingleObject(Event, ...)` -/
  | wait
  /-- `KeClearEvent(Event)` -/
  | clear
  /-- `ThreadIsAlerted(Self)`, which is FALSE -/
  | alerted
  /-- `KeAcquireSpinLock(&Frontend->Lock, ...)` -/
  | lock
  /-- `Frontend->State == FRONTEND_UNKNOWN || Frontend->State == FRONTEND_CLOSED` -/
  | state
  /-- `FrontendIsOnline` -/
  | online
  /-- `FrontendIsBackendOnline` -/
  | backendOnline
  /-- `PdoRequestEject` -/
  | requestEject
  /-- `loop:`, `KeReleaseSpinLock(&Frontend->Lock, ...)` -/
  | loop
  /-- `KeSetEvent(&Frontend->EjectEvent, ...)` -/
  | set
deriving DecidableEq

/-- What `FrontendEject` finds. -/
structure EjectAnswer where
  /-- the state is UNKNOWN or CLOSED -/
  closed : Bool
  online : Bool
  backendOnline : Bool

/-- The loop of `FrontendEject`. -/
def frontendEject : EjectPc → EjectAnswer → WorkerStep EjectPc
  | .wait, _ => .wait .clear
  | .clear, _ => .clearRequest .alerted
  | .alerted, _ => .go .lock
  | .lock, _ => .go .state
  | .state, answer => if answer.closed then .go .loop else .go .online
  | .online, answer => if answer.online then .go .backendOnline else .go .loop
  | .backendOnline, answer => if answer.backendOnline then .go .loop else .go .requestEject
  | .requestEject, _ => .go .loop
  | .loop, _ => .go .set
  | .set, _ => .setDone .wait

/-- Past its clear, `FrontendEject` is on its way to `EjectEvent`. -/
theorem prompt_frontendEject : Prompt frontendEject fun p => p ≠ .wait ∧ p ≠ .clear where
  clearRequest p c q h := by
    cases p <;> grind [frontendEject]
  go p c q _ h := by
    cases p <;> grind [frontendEject]
  wait p c q h := by
    cases p <;> grind [frontendEject]

/-! ## 3. Runs -/

/-- The thread as `ThreadCreate` leaves it, with both events clear and nobody waiting. -/
def created {π : Type} (p : π) : HandshakeSys π := ⟨false, false, fun _ => .away, p⟩

/-- **Nobody waits in vain** for the scan thread or for the eject thread: whatever the interleaving
    of any number of callers, the thread and the watches, no caller waits on a clear event while the
    thread is blocked on a clear event and no caller is between its clear and its wake. -/
theorem wake_and_wait :
    (∀ s, Reach (handshakeSystem fdoScan) (fun _ _ => True) (created .wait) s →
      ¬s.Deadlock fdoScan) ∧
    (∀ s, Reach (handshakeSystem frontendEject) (fun _ _ => True) (created .wait) s →
      ¬s.Deadlock frontendEject) :=
  ⟨fun _ h => h.no_deadlock prompt_fdoScan (by simp [created]),
    fun _ h => h.no_deadlock prompt_frontendEject (by simp [created])⟩

/-- One caller has woken the scan thread, which has answered; before the caller looks, another one
    clears its answer and wakes the thread again. -/
def secondCaller : List (HandshakeLabel ScanAnswer) :=
  [.clearDone 0, .wake 0, .worker ⟨false, false⟩, .worker ⟨false, false⟩, .worker ⟨false, false⟩,
    .worker ⟨false, false⟩, .worker ⟨false, false⟩, .clearDone 1, .wake 1]

theorem wake_and_wait_secondCaller :
    (runs (handshakeSystem fdoScan) (created .wait) secondCaller).requester 0 = .waiting ∧
    (runs (handshakeSystem fdoScan) (created .wait) secondCaller).done = false ∧
    ¬(runs (handshakeSystem fdoScan) (created .wait) secondCaller).Deadlock fdoScan :=
  ⟨rfl, rfl, wake_and_wait.1 _ (.of_admits _ .start ⟨rfl, trivial, rfl, trivial, fun _ _ => rfl,
    trivial, nofun, trivial, nofun, trivial, nofun, trivial, nofun, trivial, rfl, trivial, rfl,
    trivial, trivial⟩)⟩

end Xencons
