import Mathlib.Data.List.Nodup
import Mathlib.Logic.Function.Basic
import Xencons.Lib.Transition

/-!
# A console of the monitor service, and its threads (monitor.c)

`ConsoleCreate` starts three threads: `ServerThread` creates the instances of a named pipe and
starts a `ConnectionThread` for each client, `DeviceThread` sends what the device says to every
client, and `ExecutableThread` keeps a program running. `ConsoleDestroy` ends them and frees the
`MONITOR_CONSOLE`. A connection and its pipe instance have the same number.

* `MonitorConsole` -- the events, the list and its critical section, the instances with what is at
  their other end, and where each thread stands;
* `consoleSystem` -- a step of a thread is a call of its function or what it does up to the next
  one; clients open, read, stop reading, read on and close as they like;
* `Numbered`, `Listed` -- what the numbers and the list say in every state reached:
  `numbered_next`, `listed_next`, `reach_numbered`, `reach_listed`.

Left out are the data (only the lengths `DeviceThread` passes on are kept), `GetErrorMessage` and
`Log`, and the events the threads wait on for their own reads.
-/

namespace Xencons.Monitor

open Lib Function

/-! ## 1. What the threads share -/

def MAXIMUM_BUFFER_SIZE : Nat := 1024

/-- What `WaitForMultipleObjects` takes at most. -/
def MAXIMUM_WAIT_OBJECTS : Nat := 64

/-- A manual-reset event, with its handle. -/
inductive Event where
  | clear
  | set
  | closed
deriving DecidableEq

/-- What is at the other end of a pipe instance. -/
inductive Client where
  /-- nobody has opened it yet -/
  | none
  /-- a client that reads what it is sent -/
  | reading
  /-- a client that has stopped reading -/
  | stopped
  /-- a client that has closed it -/
  | closed
deriving DecidableEq

/-- A pipe instance. -/
structure Pipe where
  /-- the server's end is open -/
  opened : Bool
  client : Client
  /-- `ConnectNamedPipe` is pending -/
  pending : Bool
  /-- the bytes written that the client has not read -/
  unread : Nat

namespace Pipe

/-- Not created yet. -/
def absent : Pipe where
  opened := false
  client := .none
  pending := false
  unread := 0

/-- By `CreateNamedPipe`. -/
def created : Pipe where
  opened := true
  client := .none
  pending := false
  unread := 0

/-- A client has it open, at the other end. -/
def connected (p : Pipe) : Bool :=
  p.opened && (p.client = .reading || p.client = .stopped)

end Pipe

/-! ## 2. Where the threads stand; the names are those of the next call -/

inductive ServerPc where
  /-- `CreateEvent`, `StringCchPrintfA`, `Convert...SecurityDescriptorA` -/
  | start
  | createNamedPipe
  | connectNamedPipe (i : Nat)
  /-- `WaitForMultipleObjects` on `ServerEvent` and the overlapped event -/
  | wait (i : Nat)
  | resetEvent (i : Nat)
  | malloc (i : Nat)
  | createThread (i : Nat)
  /-- `CreateThread` has returned: `Connection->Thread = ...` -/
  | assign (i : Nat)
  /-- `CloseHandle(Pipe)`, when it gives up -/
  | closeHandle (i : Nat)
  | leave
  | ended
deriving DecidableEq

inductive ConnectionPc where
  | absent
  | createEvent
  /-- `EnterCriticalSection`, `__InsertTailList`, `LeaveCriticalSection` -/
  | insertTailList
  | readFile
  /-- `WaitForMultipleObjects` on `ServerEvent` and its read, `GetOverlappedResult` -/
  | wait
  /-- `PutString` to the device -/
  | putString
  /-- `EnterCriticalSection`, `__RemoveEntryList`, `LeaveCriticalSection` -/
  | removeEntryList
  | flushFileBuffers
  /-- `DisconnectNamedPipe`, `CloseHandle(Connection->Pipe)` -/
  | disconnectNamedPipe
  /-- `CloseHandle(Connection->Thread)` -/
  | closeThread
  /-- `free(Connection)`, `Log` of the device name -/
  | free
  | ended
deriving DecidableEq

structure Connection where
  pc : ConnectionPc
  /-- `Connection->Thread` has been assigned -/
  assigned : Bool
  /-- the handle of its thread is open -/
  handle : Bool

inductive DevicePc where
  /-- `CreateEvent`, `CreateFileW` -/
  | start
  | readFile
  /-- `WaitForMultipleObjects` on `DeviceEvent` and its read, `GetOverlappedResult` -/
  | wait
  /-- `EnterCriticalSection`, with `length` bytes read -/
  | enter (length : Nat)
  /-- in the loop over the list, with the connections it has still to come to -/
  | broadcast (length : Nat) (rest : List Nat)
  /-- in `WriteFile` to the pipe of `c` -/
  | writeFile (length : Nat) (c : Nat) (rest : List Nat)
  /-- `CloseHandle` -/
  | leave
  | ended
deriving DecidableEq

inductive ExecutablePc where
  /-- `GetExecutable` -/
  | start
  | createProcess
  /-- `WaitForMultipleObjects` on `ExecutableEvent` and the process -/
  | wait
  | ended
deriving DecidableEq

/-- The handle of a connection, as copied: it had been assigned, or was what `malloc` leaves. -/
structure ThreadHandle where
  connection : Nat
  assigned : Bool
deriving DecidableEq

/-- What `ConsoleWaitForPipes` has copied; the last of the `count` handles is that of
    `ServerThread`. -/
structure Handles where
  count : Nat
  threads : List ThreadHandle
deriving DecidableEq

def Handles.connections (handles : Handles) : List Nat :=
  handles.threads.map (·.connection)

inductive DestroyPc where
  /-- `ConsoleDestroy` has not been called -/
  | idle
  | setExecutableEvent
  /-- `WaitForSingleObject(Console->ExecutableThread, INFINITE)` -/
  | joinExecutable
  | closeExecutableEvent
  /-- `ConsoleWaitForPipes`, between `EnterCriticalSection` and `LeaveCriticalSection` -/
  | copy
  /-- `SetEvent(Console->ServerEvent)`; without handles when there was no memory for them -/
  | setServerEvent (handles : Option Handles)
  /-- the call of `WaitForMultipleObjects` -/
  | waitForPipes (handles : Handles)
  /-- waiting for these connections, and for `ServerThread` -/
  | joinPipes (threads : List Nat)
  | closeServerEvent
  | setDeviceEvent
  /-- `WaitForSingleObject(Console->DeviceThread, INFINITE)` -/
  | joinDevice
  | closeDeviceEvent
  /-- from `UnregisterDeviceNotification` to `free(Console)` -/
  | free
  | freed
deriving DecidableEq

/-- The console and everything that runs on it. -/
structure MonitorConsole where
  destroy : DestroyPc
  server : ServerPc
  device : DevicePc
  executable : ExecutablePc
  connection : Nat → Connection
  pipe : Nat → Pipe
  /-- how many instances have been created -/
  instances : Nat
  serverEvent : Event
  deviceEvent : Event
  executableEvent : Event
  /-- `Overlapped.hEvent` of `ServerThread` is signalled -/
  overlapped : Bool
  /-- `Console->ListHead` -/
  list : List Nat
  /-- `Console->ListCount` -/
  listCount : Nat

inductive ConsoleLabel where
  /-- `ok` is whether the call succeeds; behind a wait, whether the loop goes on -/
  | serverThread (ok : Bool)
  | connectionThread (c : Nat) (ok : Bool)
  /-- `length` is what `ReadFile` has read -/
  | deviceThread (ok : Bool) (length : Nat)
  | executableThread (ok : Bool)
  | consoleDestroy (ok : Bool)
  | clientOpen (i : Nat)
  | clientRead (i : Nat) (n : Nat)
  | clientStop (i : Nat)
  | clientResume (i : Nat)
  | clientClose (i : Nat)
deriving DecidableEq

/-- Who takes a step. -/
inductive Party where
  | server
  | connection (c : Nat)
  | device
  | executable
  | destroy
  | client (i : Nat)
deriving DecidableEq

def ConsoleLabel.party : ConsoleLabel → Party
  | .serverThread _ => .server
  | .connectionThread c _ => .connection c
  | .deviceThread .. => .device
  | .executableThread _ => .executable
  | .consoleDestroy _ => .destroy
  | .clientOpen i | .clientRead i _ | .clientStop i | .clientResume i | .clientClose i => .client i

namespace MonitorConsole

/-- `ConsoleCreate` has created the threads. -/
def init : MonitorConsole where
  destroy := .idle
  server := .start
  device := .start
  executable := .start
  connection _ := ⟨.absent, false, false⟩
  pipe _ := .absent
  instances := 0
  serverEvent := .clear
  deviceEvent := .clear
  executableEvent := .clear
  overlapped := false
  list := []
  listCount := 0

def setConnection (s : MonitorConsole) (c : Nat) (x : Connection) : MonitorConsole :=
  { s with connection := update s.connection c x }

def setPc (s : MonitorConsole) (c : Nat) (pc : ConnectionPc) : MonitorConsole :=
  s.setConnection c { s.connection c with pc := pc }

def setPipe (s : MonitorConsole) (i : Nat) (p : Pipe) : MonitorConsole :=
  { s with pipe := update s.pipe i p }

/-! ## 3. The threads -/

/-- `ServerThread` -/
def serverThread (s : MonitorConsole) (ok : Bool) : MonitorConsole :=
  match s.server with
  | .start => { s with server := if ok then .createNamedPipe else .leave }
  | .createNamedPipe =>
    if ok then
      { s.setPipe s.instances .created with
        server := .connectNamedPipe s.instances, instances := s.instances + 1 }
    else { s with server := .leave }
  | .connectNamedPipe i =>
    -- what it returns is discarded: a client that is there already leaves the event as it is
    if (s.pipe i).client = .none then
      { s.setPipe i { s.pipe i with pending := true } with
        server := .wait i, overlapped := false }
    else { s with server := .wait i }
  | .wait i => { s with server := if ok then .resetEvent i else .closeHandle i }
  | .resetEvent i => { s with server := .malloc i, overlapped := false }
  | .malloc i => { s with server := if ok then .createThread i else .closeHandle i }
  | .createThread i =>
    if ok then { s.setConnection i ⟨.createEvent, false, true⟩ with server := .assign i }
    else { s with server := .closeHandle i }
  | .assign i =>
    { s.setConnection i { s.connection i with assigned := true } with server := .createNamedPipe }
  | .closeHandle i => { s.setPipe i { s.pipe i with opened := false } with server := .leave }
  | .leave => { s with server := .ended }
  | .ended => s

/-- `ConnectionThread` -/
def connectionThread (s : MonitorConsole) (c : Nat) (ok : Bool) : MonitorConsole :=
  match (s.connection c).pc with
  | .createEvent => s.setPc c (if ok then .insertTailList else .ended)
  | .insertTailList =>
    { s.setPc c .readFile with list := s.list ++ [c], listCount := s.listCount + 1 }
  | .readFile => s.setPc c .wait
  | .wait => s.setPc c (if ok then .putString else .removeEntryList)
  | .putString => s.setPc c .readFile
  | .removeEntryList =>
    { s.setPc c .flushFileBuffers with list := s.list.erase c, listCount := s.listCount - 1 }
  | .flushFileBuffers => s.setPc c .disconnectNamedPipe
  | .disconnectNamedPipe =>
    (s.setPipe c { s.pipe c with opened := false }).setPc c .closeThread
  | .closeThread =>
    let x := s.connection c
    s.setConnection c { x with pc := .free, handle := x.handle && !x.assigned }
  | .free => s.setPc c .ended
  | .absent | .ended => s

/-- `DeviceThread`. A pipe takes a message whole, so `PutString` calls `WriteFile` once, and not at
    all for no bytes. -/
def deviceThread (s : MonitorConsole) (ok : Bool) (length : Nat) : MonitorConsole :=
  match s.device with
  | .start => { s with device := if ok then .readFile else .ended }
  | .readFile => { s with device := .wait }
  | .wait => { s with device := if ok then .enter length else .leave }
  | .enter n => { s with device := .broadcast n s.list }
  | .broadcast n (c :: rest) =>
    { s with device := if n = 0 then .broadcast n rest else .writeFile n c rest }
  -- LeaveCriticalSection
  | .broadcast _ [] => { s with device := .readFile }
  | .writeFile n c rest =>
    let s' := { s with device := .broadcast n rest }
    if ok then s'.setPipe c { s.pipe c with unread := (s.pipe c).unread + n } else s'
  | .leave => { s with device := .ended }
  | .ended => s

/-- `ExecutableThread` -/
def executableThread (s : MonitorConsole) (ok : Bool) : MonitorConsole :=
  match s.executable with
  | .start => { s with executable := if ok then .createProcess else .ended }
  | .createProcess => { s with executable := if ok then .wait else .ended }
  | .wait =>
    if ok then { s with executable := .createProcess }
    else { s with executable := .ended, executableEvent := .clear }
  | .ended => s

/-- `Events[Index] = Connection->Thread` -/
def threadOf (s : MonitorConsole) (c : Nat) : ThreadHandle where
  connection := c
  assigned := (s.connection c).assigned

/-- A handle that `WaitForMultipleObjects` accepts. -/
def validHandle (s : MonitorConsole) (h : ThreadHandle) : Bool :=
  h.assigned && (s.connection h.connection).handle

/-- `WaitForMultipleObjects` does not fail at once. -/
def waitable (s : MonitorConsole) (handles : Handles) : Bool :=
  handles.count ≤ MAXIMUM_WAIT_OBJECTS && handles.threads.all s.validHandle

/-- `ConsoleDestroy`, with `ConsoleWaitForPipes` -/
def consoleDestroy (s : MonitorConsole) (ok : Bool) : MonitorConsole :=
  match s.destroy with
  | .idle => { s with destroy := .setExecutableEvent }
  | .setExecutableEvent => { s with destroy := .joinExecutable, executableEvent := .set }
  | .joinExecutable => { s with destroy := .closeExecutableEvent }
  | .closeExecutableEvent => { s with destroy := .copy, executableEvent := .closed }
  | .copy =>
    let handles := ⟨s.listCount + 1, s.list.map s.threadOf⟩
    { s with destroy := .setServerEvent (if ok then some handles else none) }
  | .setServerEvent (some handles) =>
    { s with destroy := .waitForPipes handles, serverEvent := .set }
  | .setServerEvent none => { s with destroy := .joinPipes [], serverEvent := .set }
  | .waitForPipes handles =>
    -- what it returns is not looked at
    { s with destroy :=
        if s.waitable handles then .joinPipes handles.connections
        else .closeServerEvent }
  | .joinPipes _ => { s with destroy := .closeServerEvent }
  | .closeServerEvent => { s with destroy := .setDeviceEvent, serverEvent := .closed }
  | .setDeviceEvent => { s with destroy := .joinDevice, deviceEvent := .set }
  | .joinDevice => { s with destroy := .closeDeviceEvent }
  | .closeDeviceEvent => { s with destroy := .free, deviceEvent := .closed }
  | .free => { s with destroy := .freed }
  | .freed => s

/-! ## 4. The clients -/

/-- A client opens the instance; an operation that waits for it is completed. -/
def clientOpen (s : MonitorConsole) (i : Nat) : MonitorConsole :=
  { s.setPipe i { s.pipe i with client := .reading, pending := false } with
    overlapped := s.overlapped || (s.pipe i).pending }

def clientRead (s : MonitorConsole) (i n : Nat) : MonitorConsole :=
  s.setPipe i { s.pipe i with unread := (s.pipe i).unread - n }

def setClient (s : MonitorConsole) (i : Nat) (client : Client) : MonitorConsole :=
  s.setPipe i { s.pipe i with client := client }

end MonitorConsole

/-! ## 5. The system -/

/-- The thread is running. -/
def ConnectionPc.running : ConnectionPc → Bool
  | .absent | .ended => false
  | _ => true

/-- `DeviceThread` is inside the critical section. No other thread is found there: what the others
    do in it is one step. -/
def DevicePc.locked : DevicePc → Bool
  | .broadcast .. | .writeFile .. => true
  | _ => false

open MonitorConsole

/-- Both loops go on when their read or connect is done, and end with the event; a closed event was
    set before, and a wait that begins after that fails. -/
def serverEnabled (s : MonitorConsole) (ok : Bool) : ServerPc → Bool
  | .wait _ =>
    if ok then s.serverEvent = .clear && s.overlapped || s.serverEvent = .closed
    else s.serverEvent ≠ .clear
  | .ended => false
  | _ => true

def connectionEnabled (s : MonitorConsole) (c : Nat) (ok : Bool) : ConnectionPc → Bool
  | .absent | .ended => false
  | .insertTailList | .removeEntryList => !s.device.locked
  | .wait => !ok || s.serverEvent ≠ .set
  -- until the client has read everything, or closed the pipe
  | .flushFileBuffers => (s.pipe c).unread = 0 || !(s.pipe c).connected
  | _ => true

def deviceEnabled (s : MonitorConsole) (ok : Bool) (length : Nat) : DevicePc → Bool
  | .wait => !ok || s.deviceEvent ≠ .set && length ≤ MAXIMUM_BUFFER_SIZE
  | .writeFile n c _ =>
    if ok then (s.pipe c).connected && (s.pipe c).unread + n ≤ MAXIMUM_BUFFER_SIZE
    else !(s.pipe c).connected
  | .ended => false
  | _ => true

def executableEnabled (s : MonitorConsole) (ok : Bool) : ExecutablePc → Bool
  | .wait => ok = (s.executableEvent ≠ .set : Bool)
  | .ended => false
  | _ => true

def destroyEnabled (s : MonitorConsole) : DestroyPc → Bool
  | .joinExecutable => s.executable = .ended
  | .copy => !s.device.locked
  | .joinPipes threads =>
    s.server = .ended && threads.all fun c => (s.connection c).pc = .ended
  | .joinDevice => s.device = .ended
  | .freed => false
  | _ => true

def consoleEnabled (s : MonitorConsole) : ConsoleLabel → Bool
  | .serverThread ok => serverEnabled s ok s.server
  | .connectionThread c ok => connectionEnabled s c ok (s.connection c).pc
  | .deviceThread ok length => deviceEnabled s ok length s.device
  | .executableThread ok => executableEnabled s ok s.executable
  | .consoleDestroy _ => destroyEnabled s s.destroy
  | .clientOpen i => (s.pipe i).opened && (s.pipe i).client = .none
  | .clientRead i n => (s.pipe i).client = .reading && n ≤ (s.pipe i).unread
  | .clientStop i => (s.pipe i).client = .reading
  | .clientResume i => (s.pipe i).client = .stopped
  | .clientClose i => (s.pipe i).client = .reading || (s.pipe i).client = .stopped

def consoleNext (s : MonitorConsole) : ConsoleLabel → MonitorConsole
  | .serverThread ok => s.serverThread ok
  | .connectionThread c ok => s.connectionThread c ok
  | .deviceThread ok length => s.deviceThread ok length
  | .executableThread ok => s.executableThread ok
  | .consoleDestroy ok => s.consoleDestroy ok
  | .clientOpen i => s.clientOpen i
  | .clientRead i n => s.clientRead i n
  | .clientStop i => s.setClient i .stopped
  | .clientResume i => s.setClient i .reading
  | .clientClose i => s.setClient i .closed

/-- **The console and its threads, with any clients.** -/
def consoleSystem : System MonitorConsole ConsoleLabel where
  enabled s l := consoleEnabled s l = true
  next := consoleNext

instance (s : MonitorConsole) (l : ConsoleLabel) : Decidable (consoleSystem.enabled s l) :=
  inferInstanceAs (Decidable (_ = _))

/-! ## 6. What a thread leaves alone -/

section Frames

variable {s : MonitorConsole} {l : ConsoleLabel} {c d : Nat}

theorem serverThread_frame (ok : Bool) :
    (s.serverThread ok).device = s.device ∧ (s.serverThread ok).executable = s.executable ∧
      (s.serverThread ok).destroy = s.destroy := by
  unfold MonitorConsole.serverThread
  cases s.server with
  | connectNamedPipe i => dsimp only; split <;> exact ⟨rfl, rfl, rfl⟩
  | createNamedPipe | createThread i => cases ok <;> exact ⟨rfl, rfl, rfl⟩
  | _ => exact ⟨rfl, rfl, rfl⟩

/-- `ServerThread` creates connections, and moves none. -/
theorem serverThread_pc (c : Nat) (ok : Bool) :
    ((s.serverThread ok).connection c).pc = (s.connection c).pc ∨
      s.server = .createThread c ∧ ok = true ∧
        ((s.serverThread ok).connection c).pc = .createEvent := by
  unfold MonitorConsole.serverThread
  cases hpc : s.server with
  | createThread i =>
      cases ok with
      | false => exact .inl rfl
      | true =>
          by_cases hc : c = i
          · subst hc
            exact .inr ⟨rfl, rfl, by simp [MonitorConsole.setConnection]⟩
          · exact .inl (by simp [MonitorConsole.setConnection, hc])
  | assign i =>
      left
      by_cases hc : c = i
      · subst hc
        simp [MonitorConsole.setConnection]
      · simp [MonitorConsole.setConnection, hc]
  | connectNamedPipe i => dsimp only; split <;> exact .inl rfl
  | createNamedPipe => cases ok <;> exact .inl rfl
  | _ => exact .inl rfl

theorem connectionThread_frame (c : Nat) (ok : Bool) :
    (s.connectionThread c ok).server = s.server ∧ (s.connectionThread c ok).device = s.device ∧
      (s.connectionThread c ok).executable = s.executable ∧
      (s.connectionThread c ok).destroy = s.destroy := by
  unfold MonitorConsole.connectionThread
  cases (s.connection c).pc <;> exact ⟨rfl, rfl, rfl, rfl⟩

/-- The other connections and their pipes. -/
theorem connectionThread_of_ne (hd : d ≠ c) (ok : Bool) :
    (s.connectionThread c ok).connection d = s.connection d ∧
      (s.connectionThread c ok).pipe d = s.pipe d := by
  unfold MonitorConsole.connectionThread
  cases (s.connection c).pc <;>
    simp [MonitorConsole.setPc, MonitorConsole.setConnection, MonitorConsole.setPipe, hd]

theorem deviceThread_frame (ok : Bool) (n : Nat) :
    (s.deviceThread ok n).server = s.server ∧ (s.deviceThread ok n).executable = s.executable ∧
      (s.deviceThread ok n).destroy = s.destroy ∧
      (s.deviceThread ok n).connection = s.connection := by
  unfold MonitorConsole.deviceThread
  cases s.device with
  | broadcast n rest => cases rest <;> exact ⟨rfl, rfl, rfl, rfl⟩
  | writeFile n c rest => cases ok <;> exact ⟨rfl, rfl, rfl, rfl⟩
  | _ => exact ⟨rfl, rfl, rfl, rfl⟩

theorem executableThread_frame (ok : Bool) :
    (s.executableThread ok).server = s.server ∧ (s.executableThread ok).device = s.device ∧
      (s.executableThread ok).destroy = s.destroy ∧
      (s.executableThread ok).connection = s.connection ∧
      (s.executableThread ok).pipe = s.pipe := by
  unfold MonitorConsole.executableThread
  cases s.executable <;> cases ok <;> exact ⟨rfl, rfl, rfl, rfl, rfl⟩

theorem consoleDestroy_frame (ok : Bool) :
    (s.consoleDestroy ok).server = s.server ∧ (s.consoleDestroy ok).device = s.device ∧
      (s.consoleDestroy ok).executable = s.executable ∧
      (s.consoleDestroy ok).connection = s.connection ∧ (s.consoleDestroy ok).pipe = s.pipe := by
  unfold MonitorConsole.consoleDestroy
  cases s.destroy with
  | setServerEvent handles => cases handles <;> exact ⟨rfl, rfl, rfl, rfl, rfl⟩
  | _ => exact ⟨rfl, rfl, rfl, rfl, rfl⟩

theorem server_of_other (hl : l.party ≠ .server) : (consoleNext s l).server = s.server := by
  cases l with
  | serverThread ok => exact absurd rfl hl
  | connectionThread c ok => exact (connectionThread_frame c ok).1
  | deviceThread ok n => exact (deviceThread_frame ok n).1
  | executableThread ok => exact (executableThread_frame ok).1
  | consoleDestroy ok => exact (consoleDestroy_frame ok).1
  | _ => rfl

theorem device_of_other (hl : l.party ≠ .device) : (consoleNext s l).device = s.device := by
  cases l with
  | serverThread ok => exact (serverThread_frame ok).1
  | connectionThread c ok => exact (connectionThread_frame c ok).2.1
  | deviceThread ok n => exact absurd rfl hl
  | executableThread ok => exact (executableThread_frame ok).2.1
  | consoleDestroy ok => exact (consoleDestroy_frame ok).2.1
  | _ => rfl

theorem executable_of_other (hl : l.party ≠ .executable) :
    (consoleNext s l).executable = s.executable := by
  cases l with
  | serverThread ok => exact (serverThread_frame ok).2.1
  | connectionThread c ok => exact (connectionThread_frame c ok).2.2.1
  | deviceThread ok n => exact (deviceThread_frame ok n).2.1
  | executableThread ok => exact absurd rfl hl
  | consoleDestroy ok => exact (consoleDestroy_frame ok).2.2.1
  | _ => rfl

theorem destroy_of_other (hl : l.party ≠ .destroy) : (consoleNext s l).destroy = s.destroy := by
  cases l with
  | serverThread ok => exact (serverThread_frame ok).2.2
  | connectionThread c ok => exact (connectionThread_frame c ok).2.2.2
  | deviceThread ok n => exact (deviceThread_frame ok n).2.2.1
  | executableThread ok => exact (executableThread_frame ok).2.2.1
  | consoleDestroy ok => exact absurd rfl hl
  | _ => rfl

/-- A connection is its own thread's and `ServerThread`'s. -/
theorem connection_of_other (hs : l.party ≠ .server) (hc : l.party ≠ .connection c) :
    (consoleNext s l).connection c = s.connection c := by
  cases l with
  | serverThread ok => exact absurd rfl hs
  | connectionThread d ok =>
      exact (connectionThread_of_ne (fun e : c = d => hc (by rw [e]; rfl)) ok).1
  | deviceThread ok n => exact congrFun (deviceThread_frame ok n).2.2.2 c
  | executableThread ok => exact congrFun (executableThread_frame ok).2.2.2.1 c
  | consoleDestroy ok => exact congrFun (consoleDestroy_frame ok).2.2.2.1 c
  | _ => rfl

end Frames

/-! ## 7. The list, and the numbers -/

/-- The connection is on the list. -/
def ConnectionPc.linked : ConnectionPc → Bool
  | .readFile | .wait | .putString | .removeEntryList => true
  | _ => false

/-- The instance it has in hand; its `ConnectionThread` has not been created. -/
def ServerPc.accepting : ServerPc → Option Nat
  | .connectNamedPipe i | .wait i | .resetEvent i | .malloc i | .createThread i | .closeHandle i =>
    some i
  | _ => none

/-- The connections the loop has still to come to, the one it is writing to included. -/
def DevicePc.cursor : DevicePc → List Nat
  | .broadcast _ rest => rest
  | .writeFile _ c rest => c :: rest
  | _ => []

/-- The instances not created yet and the one in hand have no `ConnectionThread`, and the one that
    is assigned to has. -/
structure Numbered (s : MonitorConsole) : Prop where
  absent : ∀ i, s.instances ≤ i → s.pipe i = .absent ∧ (s.connection i).pc = .absent
  accepting : ∀ i, s.server.accepting = some i → i < s.instances ∧ (s.connection i).pc = .absent
  assigning : ∀ i, s.server = .assign i → (s.connection i).pc ≠ .absent

/-- The list has the connections that are linked, each of them once, and the loop of `DeviceThread`
    is over it. -/
structure Listed (s : MonitorConsole) : Prop where
  nodup : s.list.Nodup
  mem : ∀ c, c ∈ s.list ↔ (s.connection c).pc.linked = true
  count : s.listCount = s.list.length
  cursor : ∀ c ∈ s.device.cursor, c ∈ s.list

section Numbers

variable {s : MonitorConsole} {c i : Nat}

theorem numbered_init : Numbered .init where
  absent _ _ := ⟨rfl, rfl⟩
  accepting i h := by cases h
  assigning i h := by cases h

/-- The server goes on, with the instance it has or none. -/
theorem Numbered.setServer (h : Numbered s) {pc : ServerPc} (overlapped : Bool)
    (hpc : ∀ i, pc.accepting = some i → s.server.accepting = some i) (ha : ∀ i, pc ≠ .assign i) :
    Numbered { s with server := pc, overlapped := overlapped } where
  absent := h.absent
  accepting i hi := h.accepting i (hpc i hi)
  assigning i hi := absurd hi (ha i)

theorem Numbered.setPipe (h : Numbered s) (hi : i < s.instances) (p : Pipe) :
    Numbered (s.setPipe i p) where
  absent j hj := by
    have hle : s.instances ≤ j := hj
    have hne : j ≠ i := by omega
    simpa [MonitorConsole.setPipe, hne] using h.absent j hj
  accepting := h.accepting
  assigning := h.assigning

/-- A connection that there is, or is there from now on. -/
theorem Numbered.setConnection (h : Numbered s) {x : Connection} (hc : c < s.instances)
    (hs : s.server.accepting ≠ some c) (hpc : x.pc ≠ .absent) :
    Numbered (s.setConnection c x) where
  absent j hj := by
    have hle : s.instances ≤ j := hj
    have hne : j ≠ c := by omega
    simpa [MonitorConsole.setConnection, hne] using h.absent j hj
  accepting j hj := by
    have hne : j ≠ c := fun e => hs (e ▸ hj)
    simpa [MonitorConsole.setConnection, hne] using h.accepting j hj
  assigning j hj := by
    by_cases hne : j = c
    · subst hne
      simpa [MonitorConsole.setConnection] using hpc
    · simpa [MonitorConsole.setConnection, hne] using h.assigning j hj

/-- A connection that runs there is, and it is not the one the server has in hand. -/
theorem Numbered.running (h : Numbered s) (hc : (s.connection c).pc ≠ .absent) :
    c < s.instances ∧ s.server.accepting ≠ some c := by
  refine ⟨?_, fun hi => hc (h.accepting c hi).2⟩
  by_contra hn
  exact hc (h.absent c (by omega)).2

/-- An instance that is not as it was before it was created has been. -/
theorem Numbered.instance_lt (h : Numbered s) (hp : s.pipe i ≠ .absent) : i < s.instances := by
  by_contra hn
  exact hp (h.absent i (by omega)).1

theorem Numbered.serverThread (h : Numbered s) (ok : Bool) : Numbered (s.serverThread ok) := by
  have hacc := h.accepting
  have hgoes := @Numbered.setServer s h
  unfold MonitorConsole.serverThread
  cases hpc : s.server with
  | start | leave => cases ok <;> exact hgoes _ (fun _ => nofun) nofun
  | ended => exact h
  | createNamedPipe =>
      cases ok with
      | false => exact hgoes _ (fun _ => nofun) nofun
      | true =>
          -- the next number is taken
          have hnew := h.absent s.instances (Nat.le_refl _)
          refine ⟨fun j hj => ?_, fun j hj => ?_, nofun⟩
          · have hle : s.instances + 1 ≤ j := hj
            have hne : j ≠ s.instances := by omega
            simpa [MonitorConsole.setPipe, hne] using h.absent j (by omega)
          · cases hj
            exact ⟨Nat.lt_succ_self _, hnew.2⟩
  | connectNamedPipe i =>
      rw [hpc] at hacc hgoes
      obtain ⟨hi, -⟩ := hacc i rfl
      by_cases hc : (s.pipe i).client = .none
      · simp only [if_pos hc]
        have hwait : Numbered { s with server := .wait i, overlapped := false } :=
          hgoes false (fun j hj => hj) nofun
        exact hwait.setPipe hi _
      · simp only [if_neg hc]
        exact hgoes _ (fun j hj => hj) nofun
  | wait i | malloc i =>
      rw [hpc] at hgoes
      cases ok <;> exact hgoes _ (fun j hj => hj) nofun
  | resetEvent i =>
      rw [hpc] at hgoes
      exact hgoes _ (fun j hj => hj) nofun
  | createThread i =>
      rw [hpc] at hacc hgoes
      obtain ⟨hi, -⟩ := hacc i rfl
      cases ok with
      | false => exact hgoes _ (fun j hj => hj) nofun
      | true =>
          -- the thread runs, and its handle is still to be assigned
          have hidle : Numbered { s with server := .leave } :=
            hgoes s.overlapped (fun _ => nofun) nofun
          have hnew := hidle.setConnection (x := ⟨.createEvent, false, true⟩) hi nofun nofun
          refine ⟨hnew.absent, fun _ => nofun, fun j hj => ?_⟩
          cases hj
          simp [MonitorConsole.setConnection]
  | assign i =>
      have hrun := h.assigning i hpc
      obtain ⟨hi, -⟩ := h.running hrun
      have hidle : Numbered { s with server := .createNamedPipe } :=
        hgoes s.overlapped (fun _ => nofun) nofun
      exact hidle.setConnection hi nofun hrun
  | closeHandle i =>
      rw [hpc] at hacc hgoes
      obtain ⟨hi, -⟩ := hacc i rfl
      have hleave : Numbered { s with server := .leave } :=
        hgoes s.overlapped (fun _ => nofun) nofun
      exact hleave.setPipe hi _

theorem Numbered.connectionThread (h : Numbered s) {ok : Bool}
    (hc : (s.connection c).pc ≠ .absent) : Numbered (s.connectionThread c ok) := by
  obtain ⟨hlt, hacc⟩ := h.running hc
  have hgoes := fun x hx => @Numbered.setConnection s c h x hlt hacc hx
  unfold MonitorConsole.connectionThread
  cases hpc : (s.connection c).pc with
  | absent => exact absurd hpc hc
  | ended => exact h
  | createEvent | wait => cases ok <;> exact hgoes _ nofun
  | readFile | putString | flushFileBuffers | free | closeThread => exact hgoes _ nofun
  | disconnectNamedPipe =>
      exact (h.setPipe hlt { s.pipe c with opened := false }).setConnection hlt hacc nofun
  | insertTailList =>
      have hnew := hgoes { s.connection c with pc := .readFile } nofun
      exact ⟨hnew.absent, hnew.accepting, hnew.assigning⟩
  | removeEntryList =>
      have hnew := hgoes { s.connection c with pc := .flushFileBuffers } nofun
      exact ⟨hnew.absent, hnew.accepting, hnew.assigning⟩

theorem Numbered.deviceThread (h : Numbered s) {ok : Bool} {n : Nat}
    (he : deviceEnabled s ok n s.device = true) : Numbered (s.deviceThread ok n) := by
  have hgoes (pc : DevicePc) : Numbered { s with device := pc } :=
    ⟨h.absent, h.accepting, h.assigning⟩
  unfold MonitorConsole.deviceThread
  cases hpc : s.device with
  | broadcast n rest => cases rest <;> exact hgoes _
  | writeFile n c rest =>
      cases ok with
      | false => exact hgoes _
      | true =>
          have hopen : s.pipe c ≠ .absent := fun e => by
            rw [hpc] at he
            simp [deviceEnabled, e, Pipe.connected, Pipe.absent] at he
          exact (hgoes (.broadcast n rest)).setPipe (h.instance_lt hopen) _
  | ended => exact h
  | _ => exact hgoes _

/-- **The numbers are kept**, ... -/
theorem numbered_next {l : ConsoleLabel} (h : Numbered s) (he : consoleEnabled s l = true) :
    Numbered (consoleNext s l) := by
  -- a client is at an instance that has been created
  have hclient (i : Nat) (hi : s.pipe i ≠ .absent) (p : Pipe) : Numbered (s.setPipe i p) :=
    h.setPipe (h.instance_lt hi) p
  cases l with
  | serverThread ok => exact h.serverThread ok
  | connectionThread c ok =>
      refine h.connectionThread fun e => ?_
      simp [consoleEnabled, connectionEnabled, e] at he
  | deviceThread ok n => exact h.deviceThread he
  | executableThread ok =>
      show Numbered (s.executableThread ok)
      unfold MonitorConsole.executableThread
      cases s.executable <;> cases ok <;> exact ⟨h.absent, h.accepting, h.assigning⟩
  | consoleDestroy ok =>
      show Numbered (s.consoleDestroy ok)
      unfold MonitorConsole.consoleDestroy
      cases s.destroy with
      | setServerEvent handles => cases handles <;> exact ⟨h.absent, h.accepting, h.assigning⟩
      | _ => exact ⟨h.absent, h.accepting, h.assigning⟩
  | clientOpen i =>
      have hnew := hclient i (fun e => by simp [consoleEnabled, e, Pipe.absent] at he)
        { s.pipe i with client := .reading, pending := false }
      exact ⟨hnew.absent, hnew.accepting, hnew.assigning⟩
  | clientRead i n | clientStop i | clientResume i | clientClose i =>
      exact hclient i (fun e => by simp [consoleEnabled, e, Pipe.absent] at he) _

/-- A connection that there is goes on by itself. -/
theorem Numbered.pc_of_other {l : ConsoleLabel} (h : Numbered s)
    (hc : (s.connection c).pc ≠ .absent) (hl : l.party ≠ .connection c) :
    ((consoleNext s l).connection c).pc = (s.connection c).pc := by
  by_cases hs : l.party = .server
  · cases l with
    | serverThread ok =>
        refine (serverThread_pc c ok).resolve_right fun ⟨hpc, _, _⟩ => ?_
        exact hc (h.accepting c (by rw [hpc]; rfl)).2
    | _ => cases hs
  · rw [connection_of_other hs hl]

/-- And stays one. -/
theorem Numbered.not_absent_next {l : ConsoleLabel} (h : Numbered s)
    (hc : (s.connection c).pc ≠ .absent) : ((consoleNext s l).connection c).pc ≠ .absent := by
  by_cases hl : l.party = .connection c
  · cases l with
    | connectionThread d ok =>
        cases hl
        show ((s.connectionThread c ok).connection c).pc ≠ .absent
        unfold MonitorConsole.connectionThread
        cases hpc : (s.connection c).pc with
        | absent => exact absurd hpc hc
        | ended => exact hc
        | _ => cases ok <;> simp [MonitorConsole.setPc, MonitorConsole.setConnection]
    | _ => cases hl
  · rwa [h.pc_of_other hc hl]

/-- The pipe of such a connection is its own, `DeviceThread`'s and the client's. -/
theorem Numbered.pipe_of_other {l : ConsoleLabel} (h : Numbered s)
    (hc : (s.connection c).pc ≠ .absent) (hl : l.party ≠ .connection c) (hd : l.party ≠ .device)
    (hi : l.party ≠ .client c) : (consoleNext s l).pipe c = s.pipe c := by
  obtain ⟨hlt, hacc⟩ := h.running hc
  cases l with
  | serverThread ok =>
      show (s.serverThread ok).pipe c = s.pipe c
      unfold MonitorConsole.serverThread
      cases hpc : s.server with
      | createNamedPipe =>
          have hne : c ≠ s.instances := by omega
          cases ok with
          | false => rfl
          | true => exact update_of_ne hne _ _
      | connectNamedPipe i =>
          have hne : c ≠ i := fun e => hacc (by rw [hpc, e]; rfl)
          dsimp only
          split
          · exact update_of_ne hne _ _
          · rfl
      | closeHandle i =>
          have hne : c ≠ i := fun e => hacc (by rw [hpc, e]; rfl)
          exact update_of_ne hne _ _
      | createThread i => cases ok <;> rfl
      | _ => rfl
  | connectionThread d ok =>
      exact (connectionThread_of_ne (fun e : c = d => hl (by rw [e]; rfl)) ok).2
  | deviceThread ok n => exact absurd rfl hd
  | executableThread ok => exact congrFun (executableThread_frame ok).2.2.2.2 c
  | consoleDestroy ok => exact congrFun (consoleDestroy_frame ok).2.2.2.2 c
  | clientOpen i | clientRead i n | clientStop i | clientResume i | clientClose i =>
      exact update_of_ne (fun e : c = i => hi (by rw [e]; rfl)) _ _

end Numbers

section Lists

variable {s : MonitorConsole} {c : Nat}

theorem listed_init : Listed .init where
  nodup := List.nodup_nil
  mem c := by simp [init, ConnectionPc.linked]
  count := rfl
  cursor c h := by cases h

/-- A connection changes, and is linked as before. -/
theorem Listed.setConnection (h : Listed s) {x : Connection}
    (hx : x.pc.linked = (s.connection c).pc.linked) : Listed (s.setConnection c x) where
  nodup := h.nodup
  mem j := by
    by_cases hj : j = c
    · subst hj
      simpa [MonitorConsole.setConnection, hx] using h.mem j
    · simpa [MonitorConsole.setConnection, hj] using h.mem j
  count := h.count
  cursor := h.cursor

/-- `DeviceThread` goes on, over what is left of the list. -/
theorem Listed.setDevice (h : Listed s) {pc : DevicePc} (hpc : ∀ c ∈ pc.cursor, c ∈ s.list) :
    Listed { s with device := pc } :=
  ⟨h.nodup, h.mem, h.count, hpc⟩

theorem Listed.serverThread (h : Listed s) (hn : Numbered s) (ok : Bool) :
    Listed (s.serverThread ok) := by
  have hsame (s' : MonitorConsole) (hs : s'.list = s.list ∧ s'.connection = s.connection ∧
      s'.listCount = s.listCount ∧ s'.device = s.device) : Listed s' := by
    obtain ⟨hl, hc, hcount, hd⟩ := hs
    exact ⟨by rw [hl]; exact h.nodup, by rw [hl, hc]; exact h.mem,
      by rw [hl, hcount]; exact h.count, by rw [hl, hd]; exact h.cursor⟩
  unfold MonitorConsole.serverThread
  cases hpc : s.server with
  | createThread i =>
      have habsent := (hn.accepting i (by rw [hpc]; rfl)).2
      cases ok with
      | false => exact hsame _ ⟨rfl, rfl, rfl, rfl⟩
      | true =>
          have hnew := h.setConnection (c := i) (x := ⟨.createEvent, false, true⟩)
            (by rw [habsent]; rfl)
          exact ⟨hnew.nodup, hnew.mem, hnew.count, hnew.cursor⟩
  | assign i =>
      have hnew := h.setConnection (c := i) (x := { s.connection i with assigned := true }) rfl
      exact ⟨hnew.nodup, hnew.mem, hnew.count, hnew.cursor⟩
  | connectNamedPipe i =>
      by_cases hc : (s.pipe i).client = .none
      · simp only [if_pos hc]
        exact hsame _ ⟨rfl, rfl, rfl, rfl⟩
      · simp only [if_neg hc]
        exact hsame _ ⟨rfl, rfl, rfl, rfl⟩
  | createNamedPipe => cases ok <;> exact hsame _ ⟨rfl, rfl, rfl, rfl⟩
  | _ => exact hsame _ ⟨rfl, rfl, rfl, rfl⟩

theorem Listed.connectionThread (h : Listed s) {ok : Bool}
    (he : connectionEnabled s c ok (s.connection c).pc = true) :
    Listed (s.connectionThread c ok) := by
  unfold MonitorConsole.connectionThread
  have hgoes := fun x hx => @Listed.setConnection s c h x hx
  cases hpc : (s.connection c).pc with
  | absent | ended => exact h
  | createEvent | wait => cases ok <;> exact hgoes _ (by rw [hpc]; rfl)
  | readFile | putString | flushFileBuffers | free | closeThread =>
      exact hgoes _ (by rw [hpc]; rfl)
  | disconnectNamedPipe =>
      have hnew := hgoes { s.connection c with pc := .closeThread } (by rw [hpc]; rfl)
      exact ⟨hnew.nodup, hnew.mem, hnew.count, hnew.cursor⟩
  | insertTailList =>
      have hnot : c ∉ s.list := fun hm => by
        have hl := (h.mem c).mp hm
        rw [hpc] at hl
        cases hl
      refine ⟨?_, fun j => ?_, ?_, fun j hj => List.mem_append_left _ (h.cursor j hj)⟩
      · exact List.nodup_append.mpr ⟨h.nodup, List.nodup_singleton c, fun j hj k hk e =>
          hnot (List.mem_singleton.mp hk ▸ e ▸ hj)⟩
      · by_cases hj : j = c
        · simp [MonitorConsole.setPc, MonitorConsole.setConnection, hj, ConnectionPc.linked]
        · simpa [MonitorConsole.setPc, MonitorConsole.setConnection, hj] using h.mem j
      · simp [h.count]
  | removeEntryList =>
      -- the lock is free, so DeviceThread is not in its loop
      have hmem : c ∈ s.list := (h.mem c).mpr (by rw [hpc]; rfl)
      have hcursor : s.device.cursor = [] := by
        rw [hpc] at he
        cases hd : s.device <;> simp [connectionEnabled, hd, DevicePc.locked] at he <;> rfl
      refine ⟨h.nodup.erase c, fun j => ?_, ?_, fun j hj => ?_⟩
      · show j ∈ s.list.erase c ↔ _
        rw [h.nodup.mem_erase_iff]
        by_cases hj : j = c
        · simp [MonitorConsole.setPc, MonitorConsole.setConnection, hj, ConnectionPc.linked]
        · simpa [MonitorConsole.setPc, MonitorConsole.setConnection, hj] using h.mem j
      · show s.listCount - 1 = (s.list.erase c).length
        rw [List.length_erase_of_mem hmem, h.count]
      · have hj' : j ∈ s.device.cursor := hj
        rw [hcursor] at hj'
        cases hj'

theorem Listed.deviceThread (h : Listed s) (ok : Bool) (n : Nat) :
    Listed (s.deviceThread ok n) := by
  have hcursor := h.cursor
  have hgoes := @Listed.setDevice s h
  unfold MonitorConsole.deviceThread
  cases hpc : s.device with
  | start | wait => cases ok <;> exact hgoes nofun
  | readFile | leave => exact hgoes nofun
  | ended => exact h
  | enter n => exact hgoes fun j hj => hj
  | broadcast n rest =>
      rw [hpc] at hcursor
      cases rest with
      | nil => exact hgoes nofun
      | cons c rest =>
          by_cases hz : n = 0
          · simp only [if_pos hz]
            exact hgoes fun j hj => hcursor j (List.mem_cons_of_mem c hj)
          · simp only [if_neg hz]
            exact hgoes hcursor
  | writeFile n c rest =>
      rw [hpc] at hcursor
      have hnew : Listed { s with device := .broadcast n rest } :=
        hgoes fun j hj => hcursor j (List.mem_cons_of_mem c hj)
      cases ok <;> exact ⟨hnew.nodup, hnew.mem, hnew.count, hnew.cursor⟩

/-- **... and so is the list.** -/
theorem listed_next {l : ConsoleLabel} (h : Listed s) (hn : Numbered s)
    (he : consoleEnabled s l = true) : Listed (consoleNext s l) := by
  cases l with
  | serverThread ok => exact h.serverThread hn ok
  | connectionThread c ok => exact h.connectionThread he
  | deviceThread ok n => exact h.deviceThread ok n
  | executableThread ok =>
      show Listed (s.executableThread ok)
      unfold MonitorConsole.executableThread
      cases s.executable <;> cases ok <;> exact ⟨h.nodup, h.mem, h.count, h.cursor⟩
  | consoleDestroy ok =>
      show Listed (s.consoleDestroy ok)
      unfold MonitorConsole.consoleDestroy
      cases s.destroy with
      | setServerEvent handles => cases handles <;> exact ⟨h.nodup, h.mem, h.count, h.cursor⟩
      | _ => exact ⟨h.nodup, h.mem, h.count, h.cursor⟩
  | _ => exact ⟨h.nodup, h.mem, h.count, h.cursor⟩

end Lists

section Runs

variable {P : MonitorConsole → ConsoleLabel → Prop} {s : MonitorConsole}

theorem reach_numbered (h : Reach consoleSystem P .init s) : Numbered s :=
  h.invariant numbered_init fun _ _ hn he _ => numbered_next hn he

theorem reach_listed (h : Reach consoleSystem P .init s) : Listed s :=
  h.invariant_using (fun _ => reach_numbered) listed_init
    fun _ _ hn hl he _ => listed_next hl hn he

/-- The first client comes: the thread of its connection is created, and the next instance. -/
def accepted : List ConsoleLabel :=
  List.replicate 3 (.serverThread true) ++ .clientOpen 0 :: List.replicate 7 (.serverThread true)

end Runs

end Xencons.Monitor
