import Xencons.Lib.Proc
import Xencons.Nt

/-!
# The PV frontend and its ring: what they hold, and what they are told (frontend.c, ring.c)

The record of a frontend with the resources it acquires, the answers its interfaces give, and the
lock.

* `Answer` -- the environment: every call of an interface that can turn out one way or another takes
  one, so a statement for every tape of them is one for every success or failure of every step and
  every content of the store;
* `Frontend`, `XenconsRing` -- the fields of the source that say what is held;
* `OnFrontend`, `OnRing` -- programs over the one and the other;
* `acquireLock`, `releaseLock` -- `Frontend->Lock`, a spin lock that is not recursive;
* `Frontend.Same` -- what the handshakes with the backend leave as it was.
-/

namespace Xencons

open Lib

/-- `XenbusState`; the store may hold any number. -/
inductive XenbusState where
  | unknown
  | initialising
  | initWait
  | initialised
  | connected
  | closing
  | closed
  | reconfiguring
  | reconfigured
  | other (n : Int)
deriving DecidableEq

/-- `FRONTEND_STATE` -/
inductive FrontendState where
  | unknown
  | closed
  | prepared
  | connected
  | enabled
deriving DecidableEq

/-- One answer of an interface. A call uses the field it asks for. -/
structure Answer where
  status : NtStatus
  /-- an allocation or an `Open` that gives something -/
  granted : Bool
  /-- what a `Read` finds -/
  text : String
  /-- what a `Read` of a `state` node finds -/
  state : XenbusState
  /-- what a `Read` of an `online` node finds -/
  online : Bool
  /-- what a `Read` of a number finds -/
  number : Int
  /-- `KeQuerySystemTime`, in units of 100 ns -/
  now : BitVec 64

/-- `XENCONS_RING`: what a connected ring holds. -/
structure XenconsRing where
  connected : Bool
  enabled : Bool
  /-- references on the DEBUG, EVTCHN, GNTTAB and STORE interfaces -/
  debugRefs : Nat
  evtchnRefs : Nat
  gnttabRefs : Nat
  storeRefs : Nat
  gnttabCache : Bool
  /-- `Mdl` -/
  mdl : Bool
  /-- `Shared` -/
  shared : Bool
  /-- `Entry` -/
  entry : Bool
  /-- `Channel` -/
  channel : Bool
  /-- `DebugCallback` -/
  debugCallback : Bool
  events : ULONG
  dpcs : ULONG
  bytesRead : ULONG
  bytesWritten : ULONG
deriving DecidableEq

/-- `XENCONS_FRONTEND` -/
structure Frontend where
  /-- `LONG References` -/
  references : BitVec 32
  state : FrontendState
  /-- `Lock` is held by the path that is running -/
  lock : Bool
  online : Bool
  backendPath : Option String
  /-- `USHORT BackendDomain` -/
  backendDomain : BitVec 16
  name : Option String
  protocol : Option String
  /-- references on the DEBUG, SUSPEND and STORE interfaces -/
  debugRefs : Nat
  suspendRefs : Nat
  storeRefs : Nat
  suspendCallback : Bool
  debugCallback : Bool
  /-- `Watch`, on the backend's `online` node -/
  watch : Bool
  ring : XenconsRing
  /-- store transactions started and not ended -/
  transactions : Nat
  /-- `PdoRequestEject` has been called -/
  ejectRequested : Bool
  /-- what has been written to the `state` node -/
  published : List XenbusState
deriving DecidableEq

/-- `DOMID_INVALID` -/
def domidInvalid : BitVec 16 := 0x7FFF

/-- A frontend as `FrontendCreate` leaves it, with the ring of `RingCreate`. -/
def Frontend.created : Frontend where
  references := 0
  state := .unknown
  lock := false
  online := false
  backendPath := none
  backendDomain := domidInvalid
  name := none
  protocol := none
  debugRefs := 0
  suspendRefs := 0
  storeRefs := 0
  suspendCallback := false
  debugCallback := false
  watch := false
  ring :=
    { connected := false, enabled := false, debugRefs := 0, evtchnRefs := 0, gnttabRefs := 0,
      storeRefs := 0, gnttabCache := false, mdl := false, shared := false, entry := false,
      channel := false, debugCallback := false, events := 0, dpcs := 0, bytesRead := 0,
      bytesWritten := 0 }
  transactions := 0
  ejectRequested := false
  published := []

/-- A program on a ring. -/
abbrev OnRing (α : Type) := Proc Answer XenconsRing α

/-- A program on a frontend. -/
abbrev OnFrontend (α : Type) := Proc Answer Frontend α

/-- A call into the ring of the frontend. -/
def onRing {α : Type} (p : OnRing α) : OnFrontend α :=
  p.onPart (·.ring) fun f r => { f with ring := r }

theorem onRing_spec {α : Type} {p : OnRing α} {Q : α → Frontend → Prop} {f : Frontend}
    (h : p.Ensures (fun a r => Q a { f with ring := r }) f.ring) : (onRing p).Ensures Q f :=
  .onPart h

theorem keeps_onRing {α ρ : Type} {p : OnRing α} {view : Frontend → ρ}
    (hp : Proc.Keeps (fun _ => ()) p) (h : ∀ f r, view { f with ring := r } = view f) :
    Proc.Keeps view (onRing p) := .onPart hp h

/-- `KeAcquireSpinLock(&Frontend->Lock, &Irql)` -/
def acquireLock : OnFrontend Unit := do
  if (← Proc.get).lock then Proc.stop .deadlocks
  else Proc.modify fun f => { f with lock := true }

/-- `KeReleaseSpinLock(&Frontend->Lock, Irql)` -/
def releaseLock : OnFrontend Unit := Proc.modify fun f => { f with lock := false }

theorem acquireLock_spec {Q : Unit → Frontend → Prop} {f : Frontend} (hl : f.lock = false)
    (h : Q () { f with lock := true }) : acquireLock.Ensures Q f :=
  .bind (.get (.ite (fun held => by rw [hl] at held; cases held) fun _ => .modify h))

theorem run_acquireLock {f : Frontend} (hl : f.lock = false) (tape : Nat → Answer) (n : Nat) :
    acquireLock tape n f = .returns ((), n, { f with lock := true }) := by
  simp [acquireLock, hl]

/-- Acquired by a path that holds it, the lock is never free again. -/
theorem acquireLock_deadlocks {f : Frontend} (hl : f.lock = true) (tape : Nat → Answer) (n : Nat) :
    acquireLock tape n f = .deadlocks := by
  simp [acquireLock, hl, Proc.stop]

namespace Frontend

/-- The frontend but for what the handshakes with the backend change. -/
def settled (f : Frontend) : Frontend :=
  { f with online := false, ejectRequested := false, published := [] }

/-- Nothing but the handshake's own fields differs. -/
def Same (f f' : Frontend) : Prop := f'.settled = f.settled

/-- An update of the other fields, done to both. -/
theorem Same.update {f f' : Frontend} (g : Frontend → Frontend) (h : f.Same f')
    (hg : ∀ f, (g f).settled = (g f.settled).settled := by exact fun _ => rfl) :
    (g f).Same (g f') := by
  rw [Same, hg, hg f, h]

end Frontend

end Xencons
