import Mathlib.Logic.Function.Basic
import Xencons.Lib.Transition

/-!
# What the consoles of the monitor hold (monitor.c)

`ConsoleCreate` fills a console step by step and unwinds through a chain of labels; `ConsoleDestroy`
takes it down; three threads, and one for each connection, take and give back things of their own.
Nobody frees `DeviceName`, closes the handles of the three threads or frees the array of
`ConsoleWaitForPipes`, and `ServerThread` gives the address of its own variable to `LocalFree`.

* `Field`, `Own`, `Part`, `Resource` -- what is held, named by the step that takes it;
* `Context`, `system` -- the consoles, their threads and what is live, in any interleaving;
* `live_take`, `live_give`, ... -- what a step leaves live.
-/

namespace Xencons.Monitor.Resources

open Lib Function

/-! ## 1. What is held -/

/-- The fields of a `MONITOR_CONSOLE` that hold something, and the console itself. -/
inductive Field where
  | console
  | devicePath
  | deviceHandle
  | deviceName
  | deviceNotification
  | deviceEvent
  | deviceThread
  | serverEvent
  | serverThread
  | executableEvent
  | executableThread
deriving DecidableEq

/-- The variables of `DeviceThread`, `ServerThread`, `ExecutableThread` and
    `ConsoleWaitForPipes`. -/
inductive Own where
  | deviceOverlapped
  | device
  | serverOverlapped
  | securityDescriptor
  | executable
  | process
  | processThread
  | events
deriving DecidableEq

/-- The fields of a `MONITOR_CONNECTION`, the connection itself and the variable of its thread. -/
inductive Part where
  | connection
  | pipe
  | thread
  | overlapped
deriving DecidableEq

/-- Each console and each connection takes each of them once at a time. -/
inductive Resource where
  | field (c : Nat) (f : Field)
  | own (c : Nat) (v : Own)
  | part (i : Nat) (x : Part)
deriving DecidableEq

/-- How something is given back. -/
inductive Release where
  | free
  | closeHandle
  | unregisterDeviceNotification
  | localFree
deriving DecidableEq

def Resource.release : Resource → Release
  | .field _ .console | .field _ .devicePath | .field _ .deviceName => .free
  | .field _ .deviceNotification => .unregisterDeviceNotification
  | .field _ _ => .closeHandle
  | .own _ .securityDescriptor => .localFree
  | .own _ .executable | .own _ .events => .free
  | .own _ _ => .closeHandle
  | .part _ .connection => .free
  | .part _ _ => .closeHandle

/-! ## 2. Where everybody stands -/

/-- `ConsoleCreate` and `ConsoleDestroy`; the names are those of the next call or label. -/
inductive ConsolePc where
  | absent
  | malloc
  | wcsdup
  | createFile
  | deviceIoControl
  | strdup
  | registerDeviceNotification
  | createDeviceEvent
  | createDeviceThread
  | createServerEvent
  | createServerThread
  | createExecutableEvent
  | createExecutableThread
  /-- in the monitor's list -/
  | listed
  | fail12
  /-- `SetEvent(Console->ServerEvent)`, and the wait behind it -/
  | fail11
  | joinServer
  | fail10
  /-- `SetEvent(Console->DeviceEvent)`, and the wait behind it -/
  | fail9
  | joinDevice
  | fail8
  | fail7
  | fail6
  /-- `fail5` does nothing ahead of it -/
  | fail4
  | fail3
  | fail2
  /-- `ConsoleDestroy` -/
  | setExecutableEvent
  | waitExecutable
  | closeExecutableEvent
  /-- `ConsoleWaitForPipes` -/
  | mallocEvents
  | setServerEvent
  | waitPipes
  | closeServerEvent
  | setDeviceEvent
  | waitDevice
  | closeDeviceEvent
  | unregisterDeviceNotification
  | freeDevicePath
  | closeDeviceHandle
  | freeDevicePathAgain
  | freeConsole
  /-- `Console` has been freed, or there has been no memory for it -/
  | gone
deriving DecidableEq

inductive DevicePc where
  | absent
  | createEvent
  | createFile
  | wait
  | closeDevice
  | closeEvent
  | ended
deriving DecidableEq

/-- `ServerThread`, with the number of the connection it makes. -/
inductive ServerPc where
  | absent
  | createEvent
  /-- `StringCchPrintf` and `ConvertStringSecurityDescriptorToSecurityDescriptor` -/
  | convertDescriptor
  | createNamedPipe
  /-- `ConnectNamedPipe` and `WaitForMultipleObjects` -/
  | wait (i : Nat)
  | malloc (i : Nat)
  | createThread (i : Nat)
  /-- `CreateThread` has returned: `Connection->Thread = ` -/
  | assign (i : Nat)
  /-- `fail6` -/
  | freeConnection (i : Nat)
  | closePipe (i : Nat)
  /-- `LocalFree(&SecurityAttributes.lpSecurityDescriptor)` -/
  | localFree
  | closeEvent
  | ended
deriving DecidableEq

/-- `ExecutableThread`; it goes `again` where the process has ended by itself. -/
inductive ExecutablePc where
  | absent
  /-- `GetExecutable`, which gives back the key, and the block where it fails -/
  | getExecutable
  | createProcess
  | wait
  | closeProcess (again : Bool)
  | closeProcessThread (again : Bool)
  | freeExecutable
  | ended
deriving DecidableEq

/-- A connection, from its pipe on. -/
inductive ConnectionPc where
  | absent
  /-- there is a pipe -/
  | listening
  /-- and a `MONITOR_CONNECTION` -/
  | allocated
  /-- `ConnectionThread` -/
  | createEvent
  | wait
  | closeEvent
  | closePipe
  | closeThread
  | freeConnection
  | ended
deriving DecidableEq

structure Console where
  pc : ConsolePc
  /-- the fields that are not `NULL` or `INVALID_HANDLE_VALUE` -/
  fields : Field → Bool
  /-- the events that are set -/
  signalled : Field → Bool
  device : DevicePc
  server : ServerPc
  executable : ExecutablePc

structure Connection where
  pc : ConnectionPc
  /-- `Connection->Thread` has been assigned -/
  assigned : Bool
  /-- `Connection->Console` -/
  console : Nat

/-- `MonitorContext`, the consoles and connections there have been, and what is live. -/
structure Context where
  consoles : Nat
  console : Nat → Console
  connections : Nat
  connection : Nat → Connection
  live : Resource → Bool
  /-- what was given back that was not live, or not to be given back like that -/
  astray : Nat

/-- What comes of a call, or ends a wait. -/
inductive Answer where
  | succeeds
  /-- the wait: the console's event is set -/
  | event
  | fails
deriving DecidableEq

inductive Label where
  /-- `ConsoleCreate` is called -/
  | arrival
  /-- `ConsoleCreate` or `ConsoleDestroy` goes on -/
  | console (c : Nat) (a : Answer)
  /-- `MonitorRemove` or `MonitorRemoveAll` finds the console -/
  | removal (c : Nat)
  | deviceThread (c : Nat) (a : Answer)
  | serverThread (c : Nat) (a : Answer)
  | executableThread (c : Nat) (a : Answer)
  | connectionThread (i : Nat) (a : Answer)
deriving DecidableEq

namespace Context

def init : Context where
  consoles := 0
  console _ := ⟨.absent, fun _ => false, fun _ => false, .absent, .absent, .absent⟩
  connections := 0
  connection _ := ⟨.absent, false, 0⟩
  live _ := false
  astray := 0

/-! ## 3. Taking and giving back -/

/-- What is live already cannot be taken once more. -/
def take (r : Resource) (s : Context) : Context :=
  if s.live r then { s with astray := s.astray + 1 } else { s with live := update s.live r true }

def give (k : Release) (r : Resource) (s : Context) : Context :=
  if s.live r ∧ r.release = k then { s with live := update s.live r false }
  else { s with astray := s.astray + 1 }

/-- A pointer to something else is given back. -/
def giveElse (s : Context) : Context := { s with astray := s.astray + 1 }

def setConsole (c : Nat) (x : Console) (s : Context) : Context :=
  { s with console := update s.console c x }

def setConnection (i : Nat) (x : Connection) (s : Context) : Context :=
  { s with connection := update s.connection i x }

def setPc (c : Nat) (pc : ConsolePc) (s : Context) : Context :=
  s.setConsole c { s.console c with pc := pc }

/-- A call of `ConsoleCreate` that fills a field. -/
def fill (c : Nat) (f : Field) (a : Answer) (next fail : ConsolePc) (s : Context) : Context :=
  if a = .succeeds then
    (s.take (.field c f)).setConsole c
      { s.console c with pc := next, fields := update (s.console c).fields f true }
  else s.setPc c fail

/-- A field is given back and zeroed; `free` has nothing against `NULL`. -/
def empty (c : Nat) (k : Release) (f : Field) (next : ConsolePc) (s : Context) : Context :=
  if (s.console c).fields f then
    (s.give k (.field c f)).setConsole c
      { s.console c with pc := next, fields := update (s.console c).fields f false }
  else if k = .free then s.setPc c next
  else s.giveElse.setPc c next

/-- `SetEvent` -/
def setEvent (c : Nat) (f : Field) (next : ConsolePc) (s : Context) : Context :=
  s.setConsole c
    { s.console c with pc := next, signalled := update (s.console c).signalled f true }

/-- `free(Console)`: what is in its fields cannot be reached any more. -/
def freeConsole (c : Nat) (s : Context) : Context :=
  (s.give .free (.field c .console)).setConsole c
    { s.console c with pc := .gone, fields := fun _ => false }

def startDevice (c : Nat) (s : Context) : Context :=
  s.setConsole c { s.console c with device := .createEvent }

def startServer (c : Nat) (s : Context) : Context :=
  s.setConsole c { s.console c with server := .createEvent }

def startExecutable (c : Nat) (s : Context) : Context :=
  s.setConsole c { s.console c with executable := .getExecutable }

/-! ## 4. The functions -/

/-- `ConsoleCreate` and `ConsoleDestroy` -/
def consoleStep (s : Context) (c : Nat) (a : Answer) : Context :=
  match (s.console c).pc with
  | .malloc => s.fill c .console a .wcsdup .gone
  | .wcsdup => s.fill c .devicePath a .createFile .fail2
  | .createFile => s.fill c .deviceHandle a .deviceIoControl .fail3
  | .deviceIoControl => s.setPc c (if a = .succeeds then .strdup else .fail4)
  | .strdup => s.fill c .deviceName a .registerDeviceNotification .fail4
  | .registerDeviceNotification => s.fill c .deviceNotification a .createDeviceEvent .fail6
  | .createDeviceEvent => s.fill c .deviceEvent a .createDeviceThread .fail7
  | .createDeviceThread =>
    let s' := s.fill c .deviceThread a .createServerEvent .fail8
    if a = .succeeds then s'.startDevice c else s'
  | .createServerEvent => s.fill c .serverEvent a .createServerThread .fail9
  | .createServerThread =>
    let s' := s.fill c .serverThread a .createExecutableEvent .fail10
    if a = .succeeds then s'.startServer c else s'
  | .createExecutableEvent => s.fill c .executableEvent a .createExecutableThread .fail11
  | .createExecutableThread =>
    let s' := s.fill c .executableThread a .listed .fail12
    if a = .succeeds then s'.startExecutable c else s'
  | .fail12 => s.empty c .closeHandle .executableEvent .fail11
  | .fail11 => s.setEvent c .serverEvent .joinServer
  | .joinServer => s.setPc c .fail10
  | .fail10 => s.empty c .closeHandle .serverEvent .fail9
  | .fail9 => s.setEvent c .deviceEvent .joinDevice
  | .joinDevice => s.setPc c .fail8
  | .fail8 => s.empty c .closeHandle .deviceEvent .fail7
  | .fail7 => s.empty c .unregisterDeviceNotification .deviceNotification .fail6
  | .fail6 => s.empty c .free .devicePath .fail4
  | .fail4 => s.empty c .closeHandle .deviceHandle .fail3
  | .fail3 => s.empty c .free .devicePath .fail2
  | .fail2 => s.freeConsole c
  | .setExecutableEvent => s.setEvent c .executableEvent .waitExecutable
  | .waitExecutable => s.setPc c .closeExecutableEvent
  | .closeExecutableEvent => s.empty c .closeHandle .executableEvent .mallocEvents
  | .mallocEvents =>
    if a = .succeeds then (s.take (.own c .events)).setPc c .setServerEvent
    else s.setPc c .setServerEvent
  | .setServerEvent => s.setEvent c .serverEvent .waitPipes
  | .waitPipes => s.setPc c .closeServerEvent
  | .closeServerEvent => s.empty c .closeHandle .serverEvent .setDeviceEvent
  | .setDeviceEvent => s.setEvent c .deviceEvent .waitDevice
  | .waitDevice => s.setPc c .closeDeviceEvent
  | .closeDeviceEvent => s.empty c .closeHandle .deviceEvent .unregisterDeviceNotification
  | .unregisterDeviceNotification =>
    s.empty c .unregisterDeviceNotification .deviceNotification .freeDevicePath
  | .freeDevicePath => s.empty c .free .devicePath .closeDeviceHandle
  | .closeDeviceHandle => s.empty c .closeHandle .deviceHandle .freeDevicePathAgain
  | .freeDevicePathAgain => s.empty c .free .devicePath .freeConsole
  | .freeConsole => s.freeConsole c
  | .absent | .listed | .gone => s

def setDevice (c : Nat) (pc : DevicePc) (s : Context) : Context :=
  s.setConsole c { s.console c with device := pc }

def setServer (c : Nat) (pc : ServerPc) (s : Context) : Context :=
  s.setConsole c { s.console c with server := pc }

def setExecutable (c : Nat) (pc : ExecutablePc) (s : Context) : Context :=
  s.setConsole c { s.console c with executable := pc }

def setConnectionPc (i : Nat) (pc : ConnectionPc) (s : Context) : Context :=
  s.setConnection i { s.connection i with pc := pc }

def deviceStep (s : Context) (c : Nat) (a : Answer) : Context :=
  match (s.console c).device with
  | .createEvent =>
    if a = .succeeds then (s.take (.own c .deviceOverlapped)).setDevice c .createFile
    else s.setDevice c .ended
  | .createFile =>
    if a = .succeeds then (s.take (.own c .device)).setDevice c .wait
    else s.setDevice c .closeEvent
  -- what is read is put out to the connections
  | .wait => if a = .succeeds then s else s.setDevice c .closeDevice
  | .closeDevice => (s.give .closeHandle (.own c .device)).setDevice c .closeEvent
  | .closeEvent => (s.give .closeHandle (.own c .deviceOverlapped)).setDevice c .ended
  | .absent | .ended => s

def serverStep (s : Context) (c : Nat) (a : Answer) : Context :=
  match (s.console c).server with
  | .createEvent =>
    if a = .succeeds then (s.take (.own c .serverOverlapped)).setServer c .convertDescriptor
    else s.setServer c .ended
  | .convertDescriptor =>
    if a = .succeeds then (s.take (.own c .securityDescriptor)).setServer c .createNamedPipe
    else s.setServer c .closeEvent
  | .createNamedPipe =>
    if a = .succeeds then
      let i := s.connections
      { (((s.take (.part i .pipe)).setConnection i ⟨.listening, false, c⟩).setServer c (.wait i))
        with connections := i + 1 }
    else s.setServer c .localFree
  -- a wait that fails goes on like one that has seen a client
  | .wait i => s.setServer c (if a = .event then .closePipe i else .malloc i)
  | .malloc i =>
    if a = .succeeds then
      ((s.take (.part i .connection)).setConnectionPc i .allocated).setServer c (.createThread i)
    else s.setServer c (.closePipe i)
  | .createThread i =>
    if a = .succeeds then
      ((s.take (.part i .thread)).setConnectionPc i .createEvent).setServer c (.assign i)
    else s.setServer c (.freeConnection i)
  | .assign i =>
    (s.setConnection i { s.connection i with assigned := true }).setServer c .createNamedPipe
  | .freeConnection i =>
    ((s.give .free (.part i .connection)).setConnectionPc i .listening).setServer c (.closePipe i)
  | .closePipe i =>
    ((s.give .closeHandle (.part i .pipe)).setConnectionPc i .ended).setServer c .localFree
  | .localFree => s.giveElse.setServer c .closeEvent
  | .closeEvent => (s.give .closeHandle (.own c .serverOverlapped)).setServer c .ended
  | .absent | .ended => s

def executableStep (s : Context) (c : Nat) (a : Answer) : Context :=
  match (s.console c).executable with
  | .getExecutable =>
    if a = .succeeds then (s.take (.own c .executable)).setExecutable c .createProcess
    else s.setExecutable c .ended
  | .createProcess =>
    if a = .succeeds then
      ((s.take (.own c .process)).take (.own c .processThread)).setExecutable c .wait
    else s.setExecutable c .freeExecutable
  | .wait =>
    match a with
    | .event =>
      s.setConsole c
        { s.console c with
          executable := .closeProcess false
          signalled := update (s.console c).signalled .executableEvent false }
    | .succeeds => s.setExecutable c (.closeProcess true)
    -- default:
    | .fails => s.setExecutable c .freeExecutable
  | .closeProcess again =>
    (s.give .closeHandle (.own c .process)).setExecutable c (.closeProcessThread again)
  | .closeProcessThread again =>
    (s.give .closeHandle (.own c .processThread)).setExecutable c
      (if again then .createProcess else .freeExecutable)
  | .freeExecutable => (s.give .free (.own c .executable)).setExecutable c .ended
  | .absent | .ended => s

def connectionStep (s : Context) (i : Nat) (a : Answer) : Context :=
  match (s.connection i).pc with
  | .createEvent =>
    if a = .succeeds then (s.take (.part i .overlapped)).setConnectionPc i .wait
    -- fail1:
    else s.setConnectionPc i .ended
  | .wait => if a = .succeeds then s else s.setConnectionPc i .closeEvent
  | .closeEvent => (s.give .closeHandle (.part i .overlapped)).setConnectionPc i .closePipe
  | .closePipe => (s.give .closeHandle (.part i .pipe)).setConnectionPc i .closeThread
  | .closeThread =>
    if (s.connection i).assigned then
      (s.give .closeHandle (.part i .thread)).setConnectionPc i .freeConnection
    else s.giveElse.setConnectionPc i .freeConnection
  | .freeConnection => (s.give .free (.part i .connection)).setConnectionPc i .ended
  | .absent | .listening | .allocated | .ended => s

/-- `MonitorAdd` or `MonitorEnumerate` calls `ConsoleCreate`. -/
def arrival (s : Context) : Context :=
  { s.setPc s.consoles .malloc with consoles := s.consoles + 1 }

end Context

/-- The threads wait for an event or for what they do, and `ConsoleCreate` and `ConsoleDestroy` for
    the threads; a wait for too many of them fails. -/
def enabled (s : Context) : Label → Bool
  | .arrival => true
  | .console c a =>
    match (s.console c).pc with
    | .absent | .listed | .gone => false
    | .joinServer => (s.console c).server = .ended
    | .joinDevice | .waitDevice => (s.console c).device = .ended
    | .waitExecutable => (s.console c).executable = .ended
    | .waitPipes => (s.console c).server = .ended || a ≠ .succeeds
    | _ => true
  | .removal c => (s.console c).pc = .listed
  | .deviceThread c a =>
    match (s.console c).device with
    | .absent | .ended => false
    | .wait => a ≠ .event || (s.console c).signalled .deviceEvent
    | _ => true
  | .serverThread c a =>
    match (s.console c).server with
    | .absent | .ended => false
    | .wait _ => a ≠ .event || (s.console c).signalled .serverEvent
    | _ => true
  | .executableThread c a =>
    match (s.console c).executable with
    | .absent | .ended => false
    | .wait => a ≠ .event || (s.console c).signalled .executableEvent
    | _ => true
  | .connectionThread i a =>
    match (s.connection i).pc with
    | .absent | .listening | .allocated | .ended => false
    | .wait => a ≠ .event || (s.console (s.connection i).console).signalled .serverEvent
    | _ => true

def next (s : Context) : Label → Context
  | .arrival => s.arrival
  | .console c a => s.consoleStep c a
  | .removal c => s.setPc c .setExecutableEvent
  | .deviceThread c a => s.deviceStep c a
  | .serverThread c a => s.serverStep c a
  | .executableThread c a => s.executableStep c a
  | .connectionThread i a => s.connectionStep i a

/-- **The monitor, its consoles and their threads, in any interleaving.** -/
def system : System Context Label where
  enabled s l := enabled s l = true
  next := next

instance (s : Context) (l : Label) : Decidable (system.enabled s l) :=
  inferInstanceAs (Decidable (_ = _))

/-! ## 5. What a step leaves -/

namespace Context

variable {s : Context} {r r' : Resource} {k : Release} {c : Nat}

@[simp] theorem take_console : (s.take r).console = s.console := by unfold take; split <;> rfl

@[simp] theorem take_consoles : (s.take r).consoles = s.consoles := by unfold take; split <;> rfl

@[simp] theorem take_connection : (s.take r).connection = s.connection := by
  unfold take; split <;> rfl

@[simp] theorem take_connections : (s.take r).connections = s.connections := by
  unfold take; split <;> rfl

@[simp] theorem give_console : (s.give k r).console = s.console := by unfold give; split <;> rfl

@[simp] theorem give_consoles : (s.give k r).consoles = s.consoles := by unfold give; split <;> rfl

@[simp] theorem give_connection : (s.give k r).connection = s.connection := by
  unfold give; split <;> rfl

@[simp] theorem give_connections : (s.give k r).connections = s.connections := by
  unfold give; split <;> rfl

@[simp] theorem setConsole_console {x : Console} : (s.setConsole c x).console c = x :=
  update_self ..

@[simp] theorem setConnection_connection {i : Nat} {y : Connection} :
    (s.setConnection i y).connection i = y :=
  update_self ..

/-- Something that was not there is taken. -/
theorem take_of_not_live (h : s.live r = false) :
    s.take r = { s with live := update s.live r true } := by
  rw [take, if_neg (by rw [h]; exact Bool.false_ne_true)]

/-- Something that is there is given back in its way. -/
theorem give_of_live (h : s.live r = true) (hk : r.release = k) :
    s.give k r = { s with live := update s.live r false } := by
  rw [give, if_pos ⟨h, hk⟩]

/-- What is taken does not end what is live. -/
theorem live_take (h : s.live r' = true) : (s.take r).live r' = true := by
  unfold take
  split
  · exact h
  · show update s.live r true r' = true
    by_cases he : r' = r
    · rw [he, update_self]
    · rw [update_of_ne he, h]

/-- What is given back is no more, everything else stays. -/
theorem live_give (h : s.live r' = true) (hne : r' ≠ r) : (s.give k r).live r' = true := by
  unfold give
  split
  · show update s.live r false r' = true
    rw [update_of_ne hne, h]
  · exact h

/-- Where a call leaves the console that fills a field. -/
theorem fill_pc {f : Field} {next fail : ConsolePc} :
    ((s.fill c f .succeeds next fail).console c).pc = next := by
  simp only [fill, if_true, setConsole, update_self]

/-- No thread goes on when a field is filled. -/
theorem fill_device {f : Field} {a : Answer} {next fail : ConsolePc} :
    ((s.fill c f a next fail).console c).device = (s.console c).device := by
  unfold fill
  split <;> simp only [setConsole, setPc, update_self]

theorem fill_server {f : Field} {a : Answer} {next fail : ConsolePc} :
    ((s.fill c f a next fail).console c).server = (s.console c).server := by
  unfold fill
  split <;> simp only [setConsole, setPc, update_self]

theorem fill_executable {f : Field} {a : Answer} {next fail : ConsolePc} :
    ((s.fill c f a next fail).console c).executable = (s.console c).executable := by
  unfold fill
  split <;> simp only [setConsole, setPc, update_self]

theorem astray_take : s.astray ≤ (s.take r).astray := by
  unfold take
  split
  · exact Nat.le_succ _
  · exact Nat.le_refl _

theorem astray_give : s.astray ≤ (s.give k r).astray := by
  unfold give
  split
  · exact Nat.le_refl _
  · exact Nat.le_succ _

end Context

end Xencons.Monitor.Resources
