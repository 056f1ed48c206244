import Xencons.Frontend.State

/-!
# RingConnect and RingDisconnect: what they acquire and release (ring.c)

`RingConnect` acquires ten things one after the other and, where one of them fails, unwinds what it
has through labels that fall into each other. Seen from the frontend it is all or nothing.

* `XenconsRing.connectFail10` and the labels below it -- the unwinding;
* `ringConnect`, `ringDisconnect`, `ringEnable`, `ringDisable`, `ringStoreWrite`;
* `XenconsRing.Holding` -- what a ring holds that is connected, or that is not;
* `ringConnect_spec` and its companions.
-/

namespace Xencons

open Lib Proc

/-! ## 1. The functions -/

namespace XenconsRing

/-- `fail2` of `RingConnect`; behind `fail1` there is nothing to release. -/
def connectFail2 (r : XenconsRing) : XenconsRing := { r with debugRefs := r.debugRefs - 1 }

def connectFail3 (r : XenconsRing) : XenconsRing :=
  { r with evtchnRefs := r.evtchnRefs - 1 }.connectFail2

def connectFail4 (r : XenconsRing) : XenconsRing :=
  { r with gnttabRefs := r.gnttabRefs - 1 }.connectFail3

/-- `fail5`, and `fail6`, which falls into it. -/
def connectFail5 (r : XenconsRing) : XenconsRing :=
  { r with storeRefs := r.storeRefs - 1 }.connectFail4

def connectFail7 (r : XenconsRing) : XenconsRing := { r with gnttabCache := false }.connectFail5

def connectFail8 (r : XenconsRing) : XenconsRing :=
  { r with shared := false, mdl := false }.connectFail7

def connectFail9 (r : XenconsRing) : XenconsRing := { r with entry := false }.connectFail8

def connectFail10 (r : XenconsRing) : XenconsRing :=
  { r with events := 0, channel := false }.connectFail9

end XenconsRing

open XenconsRing

/-- A label of `RingConnect`, and its `return status`. -/
def failsWith (label : XenconsRing → XenconsRing) (status : NtStatus) : OnRing NtStatus := do
  modify label
  return status

/-- `RingConnect` -/
def ringConnect : OnRing NtStatus := do
  -- XENBUS_DEBUG(Acquire)
  let a ← ask
  if !a.status.ntSuccess then return a.status
  modify fun r => { r with debugRefs := r.debugRefs + 1 }
  -- XENBUS_EVTCHN(Acquire)
  let a ← ask
  if !a.status.ntSuccess then return ← failsWith connectFail2 a.status
  modify fun r => { r with evtchnRefs := r.evtchnRefs + 1 }
  -- XENBUS_GNTTAB(Acquire)
  let a ← ask
  if !a.status.ntSuccess then return ← failsWith connectFail3 a.status
  modify fun r => { r with gnttabRefs := r.gnttabRefs + 1 }
  -- XENBUS_STORE(Acquire)
  let a ← ask
  if !a.status.ntSuccess then return ← failsWith connectFail4 a.status
  modify fun r => { r with storeRefs := r.storeRefs + 1 }
  -- the name of the grant cache, and the cache
  let a ← ask
  if !a.status.ntSuccess then return ← failsWith connectFail5 a.status
  let a ← ask
  if !a.status.ntSuccess then return ← failsWith connectFail5 a.status
  modify fun r => { r with gnttabCache := true }
  -- __AllocatePage
  let a ← ask
  if !a.granted then return ← failsWith connectFail7 .noMemory
  modify fun r => { r with mdl := true, shared := true }
  -- XENBUS_GNTTAB(PermitForeignAccess)
  let a ← ask
  if !a.status.ntSuccess then return ← failsWith connectFail8 a.status
  modify fun r => { r with entry := true }
  -- XENBUS_EVTCHN(Open)
  let a ← ask
  if !a.granted then return ← failsWith connectFail9 .unsuccessful
  modify fun r => { r with channel := true }
  -- XENBUS_EVTCHN(Unmask), which nothing here depends on
  -- XENBUS_DEBUG(Register)
  let a ← ask
  if !a.status.ntSuccess then return ← failsWith connectFail10 a.status
  modify fun r => { r with debugCallback := true, connected := true }
  return .success

/-- `RingStoreWrite`: the port, then the grant reference. -/
def ringStoreWrite : OnRing NtStatus := do
  let a ← ask
  if !a.status.ntSuccess then return a.status
  let a ← ask
  if !a.status.ntSuccess then return a.status
  return .success

/-- `RingDisconnect` -/
def ringDisconnect : OnRing Unit := modify fun r =>
  { r with
    connected := false
    debugCallback := false
    dpcs := 0
    events := 0
    bytesRead := 0
    bytesWritten := 0
    channel := false
    entry := false
    shared := false
    mdl := false
    gnttabCache := false
    storeRefs := r.storeRefs - 1
    gnttabRefs := r.gnttabRefs - 1
    evtchnRefs := r.evtchnRefs - 1
    debugRefs := r.debugRefs - 1 }

/-- `RingEnable`; it queues the DPC and cannot fail. -/
def ringEnable : OnRing NtStatus := do
  modify fun r => { r with enabled := true }
  return .success

/-- `RingDisable` -/
def ringDisable : OnRing Unit := modify fun r => { r with enabled := false }

/-! ## 2. What a ring holds -/

namespace XenconsRing

/-- What a ring holds: all of it where it is connected, nothing where it is not. -/
structure Holding (r : XenconsRing) (up on : Bool) : Prop where
  connected : r.connected = up
  enabled : r.enabled = on
  debugRefs : r.debugRefs = up.toNat
  evtchnRefs : r.evtchnRefs = up.toNat
  gnttabRefs : r.gnttabRefs = up.toNat
  storeRefs : r.storeRefs = up.toNat
  gnttabCache : r.gnttabCache = up
  mdl : r.mdl = up
  shared : r.shared = up
  entry : r.entry = up
  channel : r.channel = up
  debugCallback : r.debugCallback = up

end XenconsRing

section

variable {r : XenconsRing}

theorem failsWith_spec {label : XenconsRing → XenconsRing} {status : NtStatus}
    (hs : status.ntSuccess = false) (h : (label r).Holding false false) :
    (failsWith label status).Ensures (fun st r' => r'.Holding st.ntSuccess false) r := by
  refine .modify_bind ?_
  exact .pure (hs ▸ h)

/-- **`RingConnect` is all or nothing.** -/
theorem ringConnect_spec (h : r.Holding false false) :
    ringConnect.Ensures (fun st r' => r'.Holding st.ntSuccess false) r := by
  obtain ⟨connected, enabled, debug, evtchn, gnttab, store, cache, mdl, shared, entry, channel,
    cb⟩ := h
  refine .askOr (fun a no => .pure ?_) fun a _ => .modify_bind ?_
  · rw [no]
    exact ⟨connected, enabled, debug, evtchn, gnttab, store, cache, mdl, shared, entry, channel, cb⟩
  -- what a label gives back is what had been acquired when it is reached, so nothing is held again
  refine .askOr (fun a no => failsWith_spec no ?_) fun a _ => .modify_bind ?_
  · constructor <;> assumption
  refine .askOr (fun a no => failsWith_spec no ?_) fun a _ => .modify_bind ?_
  · constructor <;> assumption
  refine .askOr (fun a no => failsWith_spec no ?_) fun a _ => .modify_bind ?_
  · constructor <;> assumption
  refine .askOr (fun a no => failsWith_spec no ?_) fun a _ => ?_
  · constructor <;> assumption
  refine .askOr (fun a no => failsWith_spec no ?_) fun a _ => .modify_bind ?_
  · constructor <;> assumption
  refine .askOr (fun a no => failsWith_spec rfl ?_) fun a _ => .modify_bind ?_
  · constructor <;> first | assumption | rfl
  refine .askOr (fun a no => failsWith_spec no ?_) fun a _ => .modify_bind ?_
  · constructor <;> first | assumption | rfl
  refine .askOr (fun a no => failsWith_spec rfl ?_) fun a _ => .modify_bind ?_
  · constructor <;> first | assumption | rfl
  refine .askOr (fun a no => failsWith_spec no ?_) fun a _ => .modify_bind (.pure ?_)
  · constructor <;> first | assumption | rfl
  · exact ⟨rfl, enabled, congrArg (· + 1) debug, congrArg (· + 1) evtchn, congrArg (· + 1) gnttab,
      congrArg (· + 1) store, rfl, rfl, rfl, rfl, rfl, rfl⟩

/-- `RingDisconnect` gives everything back. -/
theorem ringDisconnect_spec {on : Bool} (h : r.Holding true on) :
    ringDisconnect.Ensures (fun _ r' => r'.Holding false on) r := by
  refine .modify ?_
  constructor <;> simp [h.enabled, h.debugRefs, h.evtchnRefs, h.gnttabRefs, h.storeRefs]

theorem ringStoreWrite_spec : ringStoreWrite.Ensures (fun _ r' => r' = r) r :=
  .askOr (fun _ _ => .pure rfl) fun _ _ => .askOr (fun _ _ => .pure rfl) fun _ _ => .pure rfl

theorem ringEnable_spec {on : Bool} (h : r.Holding true on) :
    ringEnable.Ensures (fun st r' => st.ntSuccess = true ∧ r'.Holding true true) r := by
  refine .modify_bind ?_
  exact .pure ⟨rfl, { h with enabled := rfl }⟩

theorem ringDisable_spec {up on : Bool} (h : r.Holding up on) :
    ringDisable.Ensures (fun _ r' => r'.Holding up false) r :=
  .modify { h with enabled := rfl }

/-- Whatever the ring holds, `RingConnect` returns. -/
theorem ringConnect_returns : Keeps (fun _ => ()) ringConnect := by
  have fails (label : XenconsRing → XenconsRing) (status : NtStatus) :
      Keeps (fun _ => ()) (failsWith label status) := .bind (.modify fun _ => rfl) fun _ => .pure
  refine .bind .ask fun _ => .ite .pure ?_
  refine .bind (.modify fun _ => rfl) fun _ => ?_
  refine .bind .ask fun _ => .ite (fails _ _) ?_
  refine .bind (.modify fun _ => rfl) fun _ => ?_
  refine .bind .ask fun _ => .ite (fails _ _) ?_
  refine .bind (.modify fun _ => rfl) fun _ => ?_
  refine .bind .ask fun _ => .ite (fails _ _) ?_
  refine .bind (.modify fun _ => rfl) fun _ => ?_
  refine .bind .ask fun _ => .ite (fails _ _) ?_
  refine .bind .ask fun _ => ?_
  refine .ite (fails _ _) ?_
  refine .bind (.modify fun _ => rfl) fun _ => ?_
  refine .bind .ask fun _ => .ite (fails _ _) ?_
  refine .bind (.modify fun _ => rfl) fun _ => ?_
  refine .bind .ask fun _ => .ite (fails _ _) ?_
  refine .bind (.modify fun _ => rfl) fun _ => ?_
  refine .bind .ask fun _ => .ite (fails _ _) ?_
  refine .bind (.modify fun _ => rfl) fun _ => ?_
  refine .bind .ask fun _ => .ite (fails _ _) ?_
  exact .bind (.modify fun _ => rfl) fun _ => .pure

end

end Xencons
