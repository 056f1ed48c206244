import Xencons.Frontend.Ring

/-!
# Prepare, Connect, Close: the handshakes with the backend (frontend.c)

The functions behind the transitions of `FrontendSetState`. Each handshake is a loop over the states
the backend goes through; nothing in the driver bounds how long the backend takes, so these loops
have fuel and wait where it is out.

* `setXenbusState`, `waitForBackendXenbusStateChange` -- one move of ours, one of theirs;
* `frontendPrepare`, `frontendConnect`, `frontendClose`, `frontendDisconnect`, `frontendEnable`,
  `frontendDisable` -- the functions, with the labels they unwind through;
* `Proc.Keeps Frontend.settled` -- a handshake changes what we know of the backend, and nothing we
  hold;
* `frontendPrepare_spec`, `frontendConnect_spec`, `frontendClose_spec`, ... -- what each function
  leaves.
-/

namespace Xencons

open Lib Proc

/-! ## 1. The moves of a handshake -/

/-- `FrontendIsBackendOnline` -/
def frontendIsBackendOnline : OnFrontend Bool := do
  let a ← ask
  return a.status.ntSuccess && a.online

/-- `FrontendSetOnline` -/
def frontendSetOnline : OnFrontend Unit := modify fun f => { f with online := true }

/-- `FrontendSetOffline` -/
def frontendSetOffline : OnFrontend Unit :=
  modify fun f => { f with online := false, ejectRequested := true }

/-- `FrontendSetXenbusState`; whether the `Printf` succeeds is not looked at. -/
def frontendSetXenbusState (state : XenbusState) : OnFrontend Unit := do
  let online ← frontendIsBackendOnline
  modify fun f => { f with published := f.published ++ [state] }
  if state = .closed && !online then frontendSetOffline

/-- One round of the loop below, with the state read and `TimeDelta`. The wait for the watch ends by
    itself after a thousand attempts. -/
def waitRound (old : XenbusState) (start : BitVec 64) (t : XenbusState × Nat) :
    OnFrontend (XenbusState × Nat ⊕ XenbusState) := do
  if !(t.1 = old ∧ t.2 < 120000) then return .inr t.1
  let a ← ask
  let state := if a.status.ntSuccess then a.state else .unknown
  let now ← ask
  return .inl (state, (now.now - start).toNat / 10000)

/-- `FrontendWaitForBackendXenbusStateChange` -/
def frontendWaitForBackendXenbusStateChange (fuel : Nat) (state : XenbusState) :
    OnFrontend XenbusState := do
  let start ← ask
  repeatUntil .waits (waitRound state start.now) fuel (state, 0)

/-- A handshake: until `State` is `goal`, or the frontend is offline, wait for the backend and
    `answer` it. -/
def handshakeRound (fuel : Nat) (goal : XenbusState) (answer : XenbusState → OnFrontend Unit)
    (state : XenbusState) : OnFrontend (XenbusState ⊕ XenbusState) := do
  if state = goal then return .inr state
  let f ← get
  if !f.online then return .inr state
  let state ← frontendWaitForBackendXenbusStateChange fuel state
  answer state
  return .inl state

def handshake (fuel : Nat) (goal : XenbusState) (answer : XenbusState → OnFrontend Unit) :
    OnFrontend XenbusState :=
  repeatUntil .waits (handshakeRound fuel goal answer) fuel .unknown

/-! ## 2. Close -/

/-- `FrontendReleaseBackend` -/
def frontendReleaseBackend : OnFrontend Unit :=
  modify fun f => { f with backendDomain := domidInvalid, backendPath := none }

/-- The `switch` of `FrontendClose`. -/
def closeAnswer : XenbusState → OnFrontend Unit
  | .closing => frontendSetXenbusState .closed
  | .closed => pure ()
  | _ => frontendSetXenbusState .closing

/-- `FrontendClose` -/
def frontendClose (fuel : Nat) : OnFrontend Unit := do
  modify fun f => { f with watch := false }
  let _ ← handshake fuel .closed closeAnswer
  frontendReleaseBackend
  modify fun f => { f with storeRefs := f.storeRefs - 1 }

/-! ## 3. Prepare -/

/-- `FrontendAcquireBackend` -/
def frontendAcquireBackend : OnFrontend NtStatus := do
  let a ← ask
  if !a.status.ntSuccess then return a.status
  modify fun f => { f with backendPath := some a.text }
  let b ← ask
  modify fun f =>
    { f with backendDomain := if b.status.ntSuccess then BitVec.ofInt 16 b.number else 0 }
  return .success

/-- The `switch` of `FrontendPrepare`. -/
def prepareAnswer : XenbusState → OnFrontend Unit
  | .initWait => pure ()
  | .closed => do
    frontendSetXenbusState .closed
    -- the backend does not survive a transition out of Closed
    frontendSetOffline
  | _ => frontendSetXenbusState .initialising

/-- `fail2` of `FrontendPrepare`. -/
def prepareFail2 (status : NtStatus) : OnFrontend NtStatus := do
  frontendSetOffline
  modify fun f => { f with storeRefs := f.storeRefs - 1 }
  return status

/-- `fail3`, and `fail4`, which falls into it. -/
def prepareFail3 (status : NtStatus) : OnFrontend NtStatus := do
  frontendReleaseBackend
  prepareFail2 status

/-- `FrontendPrepare` -/
def frontendPrepare (fuel : Nat) : OnFrontend NtStatus := do
  -- XENBUS_STORE(Acquire)
  let a ← ask
  if !a.status.ntSuccess then return a.status
  modify fun f => { f with storeRefs := f.storeRefs + 1 }
  frontendSetOnline
  let status ← frontendAcquireBackend
  if !status.ntSuccess then return ← prepareFail2 status
  let state ← handshake fuel .initWait prepareAnswer
  if state ≠ .initWait then return ← prepareFail3 .unsuccessful
  -- XENBUS_STORE(WatchAdd) on the backend's online node
  let b ← ask
  if !b.status.ntSuccess then return ← prepareFail3 b.status
  modify fun f => { f with watch := true }
  return .success

/-! ## 4. Connect and Disconnect, Enable and Disable -/

/-- One attempt to publish the ring in a transaction of its own; `.inl` is the `continue`. -/
def publishRound (attempt : Nat) : OnFrontend (Nat ⊕ NtStatus) := do
  let a ← ask
  if !a.status.ntSuccess then return .inr a.status
  modify fun f => { f with transactions := f.transactions + 1 }
  let status ← onRing ringStoreWrite
  -- TransactionEnd, to abort or to commit
  modify fun f => { f with transactions := f.transactions - 1 }
  if !status.ntSuccess then return .inr status
  let b ← ask
  if b.status ≠ .retry ∨ attempt + 1 > 10 then return .inr b.status
  return .inl (attempt + 1)

/-- The `do` loop of `FrontendConnect`. -/
def publish : OnFrontend NtStatus := repeatUntil .loops publishRound 11 0

/-- The `switch` of `FrontendConnect`. -/
def connectAnswer : XenbusState → OnFrontend Unit
  | .initWait => frontendSetXenbusState .connected
  | .connected => pure ()
  | .unknown | .closing | .closed => frontendSetOffline
  | _ => pure ()

/-- `fail2` of `FrontendConnect`. -/
def connectFail2 (status : NtStatus) : OnFrontend NtStatus := do
  modify fun f => { f with debugRefs := f.debugRefs - 1 }
  return status

def connectFail3 (status : NtStatus) : OnFrontend NtStatus := do
  modify fun f => { f with debugCallback := false }
  connectFail2 status

/-- `fail4`, and `fail5`, which falls into it. -/
def connectFail4 (status : NtStatus) : OnFrontend NtStatus := do
  onRing ringDisconnect
  connectFail3 status

/-- A node of the backend copied into memory of our own: `old` where it cannot be read, nothing
    where there is no memory. -/
def readCopy (old : Option String) : OnFrontend (Option String) := do
  let a ← ask
  if !a.status.ntSuccess then return old
  let b ← ask
  return if b.granted then some a.text else none

/-- `FrontendConnect` -/
def frontendConnect (fuel : Nat) : OnFrontend NtStatus := do
  -- XENBUS_DEBUG(Acquire) and XENBUS_DEBUG(Register)
  let a ← ask
  if !a.status.ntSuccess then return a.status
  modify fun f => { f with debugRefs := f.debugRefs + 1 }
  let a ← ask
  if !a.status.ntSuccess then return ← connectFail2 a.status
  modify fun f => { f with debugCallback := true }
  let status ← onRing ringConnect
  if !status.ntSuccess then return ← connectFail3 status
  let status ← publish
  if !status.ntSuccess then return ← connectFail4 status
  let state ← handshake fuel .connected connectAnswer
  if state ≠ .connected then return ← connectFail4 .unsuccessful
  let f ← get
  let name ← readCopy f.name
  modify fun f => { f with name := name }
  let f ← get
  let protocol ← readCopy f.protocol
  modify fun f => { f with protocol := protocol }
  return .success

/-- `FrontendDisconnect` -/
def frontendDisconnect : OnFrontend Unit := do
  modify fun f => { f with protocol := none, name := none }
  onRing ringDisconnect
  modify fun f => { f with debugCallback := false }
  modify fun f => { f with debugRefs := f.debugRefs - 1 }

/-- `FrontendEnable` -/
def frontendEnable : OnFrontend NtStatus := do
  let status ← onRing ringEnable
  if !status.ntSuccess then return status
  return .success

/-- `FrontendDisable` -/
def frontendDisable : OnFrontend Unit := onRing ringDisable

/-! ## 5. The handshakes change nothing that is held -/

section Frames

/-- A fact about a frontend that the moves of a handshake leave alone. -/
structure Settled {ρ : Type} (view : Frontend → ρ) : Prop where
  offline : ∀ f, view { f with online := false, ejectRequested := true } = view f
  published : ∀ f l, view { f with published := l } = view f

theorem settled_settled : Settled Frontend.settled := ⟨fun _ => rfl, fun _ _ => rfl⟩

variable {ρ : Type} {view : Frontend → ρ} (h : Settled view)

include h

theorem keeps_setOffline : Keeps view frontendSetOffline := .modify h.offline

theorem keeps_setXenbusState (state : XenbusState) : Keeps view (frontendSetXenbusState state) := by
  refine .bind (.bind .ask fun _ => .pure) fun _ => ?_
  exact .bind (.modify fun f => h.published f _) fun _ => .ite (keeps_setOffline h) .pure

omit h in
theorem keeps_waitForBackend (fuel : Nat) (state : XenbusState) :
    Keeps view (frontendWaitForBackendXenbusStateChange fuel state) := by
  refine .bind .ask fun _ => ?_
  refine .repeatUntil (fun _ => .ite .pure ?_) fuel _
  refine .bind .ask fun _ => ?_
  exact .bind .ask fun _ => .pure

omit h in
theorem keeps_handshake (fuel : Nat) (goal : XenbusState) {answer : XenbusState → OnFrontend Unit}
    (ha : ∀ state, Keeps view (answer state)) : Keeps view (handshake fuel goal answer) := by
  refine .repeatUntil (fun state => .ite .pure ?_) fuel _
  refine .bind .get fun _ => .ite .pure ?_
  refine .bind (keeps_waitForBackend fuel state) fun state' => ?_
  exact .bind (ha state') fun _ => .pure

theorem keeps_closeAnswer (state : XenbusState) : Keeps view (closeAnswer state) := by
  cases state with
  | closed => exact .pure
  | _ => exact keeps_setXenbusState h _

theorem keeps_prepareAnswer (state : XenbusState) : Keeps view (prepareAnswer state) := by
  cases state with
  | initWait => exact .pure
  | closed => exact .bind (keeps_setXenbusState h _) fun _ => keeps_setOffline h
  | _ => exact keeps_setXenbusState h _

theorem keeps_connectAnswer (state : XenbusState) : Keeps view (connectAnswer state) := by
  cases state with
  | initWait => exact keeps_setXenbusState h _
  | unknown | closing | closed => exact keeps_setOffline h
  | _ => exact .pure

end Frames

/-! ## 6. What each function leaves -/

section Specs

variable {f : Frontend} {fuel : Nat}

/-- The frontend when `FrontendClose` has given back what `FrontendPrepare` took. -/
def Frontend.closed (f : Frontend) : Frontend :=
  { f with watch := false, backendDomain := domidInvalid, backendPath := none,
           storeRefs := f.storeRefs - 1 }

theorem frontendClose_spec : (frontendClose fuel).Ensures (fun _ f' => f.closed.Same f') f := by
  refine .modify_bind ?_
  refine .bind ?_
  refine (keeps_handshake fuel .closed (keeps_closeAnswer settled_settled) _).mono fun _ f' h => ?_
  refine .modify_bind ?_
  refine .modify ?_
  exact Frontend.Same.update (fun f => { f with backendDomain := domidInvalid, backendPath := none,
                                                storeRefs := f.storeRefs - 1 }) h

/-- The frontend with the store and the backend held. -/
def Frontend.withBackend (f : Frontend) (path : String) (domain : BitVec 16) : Frontend :=
  { f with storeRefs := f.storeRefs + 1, backendPath := some path, backendDomain := domain }

/-- What `FrontendPrepare` leaves: all it takes, or nothing of it. -/
def PrepareLeaves (f f' : Frontend) : Bool → Prop
  | true => ∃ path domain, Frontend.Same { f.withBackend path domain with watch := true } f'
  | false => ∃ domain, Frontend.Same { f with backendDomain := domain } f'

variable {f₀ : Frontend} {status : NtStatus}

theorem prepareFail2_spec (hs : status.ntSuccess = false)
    (h : Frontend.Same { f₀ with storeRefs := f₀.storeRefs + 1 } f) :
    (prepareFail2 status).Ensures (fun st f' => PrepareLeaves f₀ f' st.ntSuccess) f := by
  refine .modify_bind ?_
  refine .modify_bind ?_
  refine .pure ?_
  rw [hs]
  exact ⟨f₀.backendDomain, h.update fun f => { f with storeRefs := f.storeRefs - 1 }⟩

theorem prepareFail3_spec (hs : status.ntSuccess = false) {path : String} {domain : BitVec 16}
    (hp : f₀.backendPath = none)
    (h : (f₀.withBackend path domain).Same f) :
    (prepareFail3 status).Ensures (fun st f' => PrepareLeaves f₀ f' st.ntSuccess) f := by
  refine .modify_bind ?_
  refine .modify_bind ?_
  refine .modify_bind ?_
  refine .pure ?_
  rw [hs]
  refine ⟨domidInvalid, ?_⟩
  have hpath : ({ f₀ with backendDomain := domidInvalid } : Frontend)
      = { f₀ with backendDomain := domidInvalid, backendPath := none } := by simp only [hp]
  rw [hpath]
  exact h.update fun f => { f with backendDomain := domidInvalid, backendPath := none,
                                   storeRefs := f.storeRefs - 1 }

theorem frontendAcquireBackend_spec :
    frontendAcquireBackend.Ensures (fun st f' => match st.ntSuccess with
      | true => ∃ path domain, f' = { f with backendPath := some path, backendDomain := domain }
      | false => f' = f) f := by
  refine .askOr (fun a no => .pure ?_) fun a _ => ?_
  · rw [no]
  · refine .modify_bind ?_
    refine .ask_bind fun b => ?_
    refine .modify_bind ?_
    exact .pure ⟨_, _, rfl⟩

/-- **`FrontendPrepare`** holds the store, the backend and the watch, or nothing. -/
theorem frontendPrepare_spec (hp : f.backendPath = none) :
    (frontendPrepare fuel).Ensures (fun st f' => PrepareLeaves f f' st.ntSuccess) f := by
  refine .askOr (fun a no => .pure ?_) fun a _ => ?_
  · rw [no]
    exact ⟨f.backendDomain, rfl⟩
  refine .modify_bind ?_
  refine .modify_bind ?_
  refine .bind (frontendAcquireBackend_spec.mono fun st f₁ h₁ => ?_)
  cases hst : st.ntSuccess with
  | false =>
    rw [hst] at h₁
    exact .ite (fun _ => prepareFail2_spec hst (h₁ ▸ rfl)) fun no => absurd rfl no
  | true =>
    rw [hst] at h₁
    obtain ⟨path, domain, rfl⟩ := h₁
    refine .ite (fun no => by cases no) fun _ => .bind ?_
    refine (keeps_handshake fuel .initWait (keeps_prepareAnswer settled_settled) _).mono
      fun state f₂ h₂ => ?_
    refine .ite (fun _ => prepareFail3_spec rfl hp h₂) fun _ => ?_
    refine .askOr (fun b no => prepareFail3_spec no hp h₂) fun b _ => ?_
    refine .modify_bind ?_
    refine .pure ?_
    exact ⟨path, domain, Frontend.Same.update (fun f => { f with watch := true }) h₂⟩

/-- A store write leaves the ring of the frontend, and the frontend, as they are. -/
theorem onRing_storeWrite_spec : (onRing ringStoreWrite).Ensures (fun _ f' => f' = f) f :=
  onRing_spec (ringStoreWrite_spec.mono fun _ _ h => h ▸ rfl)

theorem publishRound_spec {attempt : Nat} (ha : attempt ≤ 10) :
    (publishRound attempt).Ensures (fun r f' => f' = f ∧ ∀ next, r = .inl next →
      next ≤ 10 ∧ attempt < next) f := by
  refine .askOr (fun a _ => .pure ⟨rfl, nofun⟩) fun a _ => ?_
  refine .modify_bind ?_
  refine .bind ?_
  refine onRing_storeWrite_spec.mono fun status f₁ h₁ => ?_
  subst h₁
  refine .modify_bind ?_
  refine .ite (fun _ => .pure ⟨rfl, nofun⟩) fun _ => ?_
  refine .ask_bind fun b => ?_
  refine .ite (fun _ => .pure ⟨rfl, nofun⟩) fun goesOn => .pure ⟨rfl, fun next hn => ?_⟩
  cases hn
  exact ⟨by omega, Nat.lt_succ_self _⟩

/-- **Publishing the ring** ends after eleven transactions at most, and leaves none open. -/
theorem publish_spec : publish.Ensures (fun _ f' => f' = f) f := by
  refine .repeatUntil_of_variant (I := fun attempt f' => attempt ≤ 10 ∧ f' = f)
    (v := fun attempt _ => 10 - attempt) (fun attempt f' hI => ?_) 11 0 f ⟨by decide, rfl⟩
    (by decide)
  refine (publishRound_spec hI.1).mono fun r f'' h => ?_
  cases r with
  | inl next =>
    have hn := h.2 next rfl
    exact ⟨⟨hn.1, h.1.trans hI.2⟩, by omega⟩
  | inr status => exact h.1.trans hI.2

/-- The frontend with the debug interface and a ring. -/
def Frontend.withDebug (f : Frontend) (r : XenconsRing) : Frontend :=
  { f with debugRefs := f.debugRefs + 1, debugCallback := true, ring := r }

/-- What `FrontendConnect` leaves: all it takes, or nothing of it. -/
def ConnectLeaves (f f' : Frontend) : Bool → Prop
  | true => ∃ r name protocol, r.Holding true false ∧
      Frontend.Same { f.withDebug r with name := name, protocol := protocol } f'
  | false => ∃ r, r.Holding false false ∧ Frontend.Same { f with ring := r } f'

theorem connectFail3_spec (hs : status.ntSuccess = false) {r : XenconsRing}
    (hr : r.Holding false false) (hcb : f₀.debugCallback = false) (h : (f₀.withDebug r).Same f) :
    (connectFail3 status).Ensures (fun st f' => ConnectLeaves f₀ f' st.ntSuccess) f := by
  refine .modify_bind ?_
  refine .modify_bind ?_
  refine .pure ?_
  rw [hs]
  refine ⟨r, hr, ?_⟩
  have hback : ({ f₀ with ring := r } : Frontend) =
      { f₀ with ring := r, debugCallback := false } := by
    simp only [hcb]
  rw [hback]
  exact h.update fun f => { f with debugCallback := false, debugRefs := f.debugRefs - 1 }

theorem connectFail4_spec (hs : status.ntSuccess = false) {r : XenconsRing}
    (hr : r.Holding true false) (hcb : f₀.debugCallback = false) (h : (f₀.withDebug r).Same f) :
    (connectFail4 status).Ensures (fun st f' => ConnectLeaves f₀ f' st.ntSuccess) f := by
  have hring : f.ring = r := congrArg Frontend.ring h
  refine .bind (onRing_spec ((ringDisconnect_spec (hring ▸ hr)).mono fun _ r' hr' => ?_))
  exact connectFail3_spec hs hr' hcb (h.update fun f => { f with ring := r' })

theorem readCopy_spec {old : Option String} : (readCopy old).Ensures (fun _ f' => f' = f) f :=
  .askOr (fun _ _ => .pure rfl) fun _ _ => .bind (.ask fun _ => .pure rfl)

/-- **`FrontendConnect`** holds the debug interface and a connected ring, or nothing. -/
theorem frontendConnect_spec (hcb : f.debugCallback = false) (hr : f.ring.Holding false false) :
    (frontendConnect fuel).Ensures (fun st f' => ConnectLeaves f f' st.ntSuccess) f := by
  refine .askOr (fun a no => .pure ?_) fun a _ => .modify_bind ?_
  · rw [no]
    exact ⟨f.ring, hr, rfl⟩
  refine .askOr (fun b no => .modify_bind (.pure ?_)) fun b _ => .modify_bind ?_
  · rw [no]
    exact ⟨f.ring, hr, rfl⟩
  refine .bind (onRing_spec ((ringConnect_spec hr).mono fun st r hr' => ?_))
  cases hst : st.ntSuccess with
  | false =>
    rw [hst] at hr'
    exact .ite (fun _ => connectFail3_spec hst hr' hcb rfl) fun no => absurd rfl no
  | true =>
    rw [hst] at hr'
    refine .ite (fun no => by cases no) fun _ => .bind (publish_spec.mono fun st₁ f₁ h₁ => ?_)
    subst h₁
    cases hst₁ : st₁.ntSuccess with
    | false => exact .ite (fun _ => connectFail4_spec hst₁ hr' hcb rfl) fun no => absurd rfl no
    | true =>
      refine .ite (fun no => by cases no) fun _ => .bind ?_
      refine (keeps_handshake fuel .connected (keeps_connectAnswer settled_settled) _).mono
        fun state f₂ (h₂ : (f.withDebug r).Same f₂) => ?_
      refine .ite (fun _ => connectFail4_spec rfl hr' hcb h₂) fun _ => ?_
      refine .get_bind ?_
      refine .bind ?_
      refine readCopy_spec.mono fun name f₃ h₃ => ?_
      subst h₃
      refine .modify_bind ?_
      refine .get_bind ?_
      refine .bind (readCopy_spec.mono fun protocol f₄ h₄ => ?_)
      subst h₄
      refine .modify_bind ?_
      refine .pure ⟨r, name, protocol, hr', ?_⟩
      exact h₂.update fun f => { f with name := name, protocol := protocol }

/-- **`FrontendDisconnect`** gives back what `FrontendConnect` took. -/
theorem frontendDisconnect_spec {on : Bool} (hr : f.ring.Holding true on) :
    frontendDisconnect.Ensures (fun _ f' => ∃ r, r.Holding false on ∧
      f' = { f with ring := r, name := none, protocol := none, debugCallback := false,
                    debugRefs := f.debugRefs - 1 }) f := by
  refine .modify_bind ?_
  refine .bind (onRing_spec ((ringDisconnect_spec hr).mono fun _ r hr' => ?_))
  refine .modify_bind ?_
  exact .modify ⟨r, hr', rfl⟩

theorem frontendEnable_spec {on : Bool} (hr : f.ring.Holding true on) :
    frontendEnable.Ensures (fun st f' => st.ntSuccess = true ∧ ∃ r, r.Holding true true ∧
      f' = { f with ring := r }) f :=
  .bind (onRing_spec ((ringEnable_spec hr).mono fun _ r hr' =>
    .ite (fun _ => .pure ⟨hr'.1, r, hr'.2, rfl⟩) fun _ => .pure ⟨rfl, r, hr'.2, rfl⟩))

theorem frontendDisable_spec {up on : Bool} (hr : f.ring.Holding up on) :
    frontendDisable.Ensures (fun _ f' => ∃ r, r.Holding up false ∧ f' = { f with ring := r }) f :=
  onRing_spec ((ringDisable_spec hr).mono fun _ r hr' => ⟨r, hr', rfl⟩)

end Specs

/-! ## 7. What none of them touches -/

section Guarded

/-- The lock, and what the console ABI counts and acquires. -/
def Frontend.abi (f : Frontend) : Bool × BitVec 32 × Nat × Bool :=
  (f.lock, f.references, f.suspendRefs, f.suspendCallback)

def Frontend.guarded (f : Frontend) : (Bool × BitVec 32 × Nat × Bool) × FrontendState :=
  (f.abi, f.state)

theorem settled_guarded : Settled Frontend.guarded := ⟨fun _ => rfl, fun _ _ => rfl⟩

variable {fuel : Nat}

theorem guarded_frontendClose : Keeps Frontend.guarded (frontendClose fuel) := by
  refine .bind (.modify fun _ => rfl) fun _ => ?_
  refine .bind (keeps_handshake _ _ (keeps_closeAnswer settled_guarded)) fun _ => ?_
  refine .bind (.modify fun _ => rfl) fun _ => ?_
  exact .modify fun _ => rfl

theorem guarded_prepareFail2 (status : NtStatus) : Keeps Frontend.guarded (prepareFail2 status) := by
  refine .bind (.modify fun _ => rfl) fun _ => ?_
  exact .bind (.modify fun _ => rfl) fun _ => .pure

theorem guarded_prepareFail3 (status : NtStatus) : Keeps Frontend.guarded (prepareFail3 status) :=
  .bind (.modify fun _ => rfl) fun _ => guarded_prepareFail2 status

theorem guarded_frontendAcquireBackend : Keeps Frontend.guarded frontendAcquireBackend := by
  refine .bind .ask fun _ => .ite .pure ?_
  refine .bind (.modify fun _ => rfl) fun _ => ?_
  refine .bind .ask fun _ => ?_
  exact .bind (.modify fun _ => rfl) fun _ => .pure

theorem guarded_frontendPrepare : Keeps Frontend.guarded (frontendPrepare fuel) := by
  refine .bind .ask fun _ => .ite .pure ?_
  refine .bind (.modify fun _ => rfl) fun _ => ?_
  refine .bind (.modify fun _ => rfl) fun _ => ?_
  refine .bind guarded_frontendAcquireBackend fun _ => ?_
  refine .ite (guarded_prepareFail2 _) ?_
  refine .bind (keeps_handshake _ _ (keeps_prepareAnswer settled_guarded)) fun _ => ?_
  refine .ite (guarded_prepareFail3 _) ?_
  refine .bind .ask fun _ => .ite (guarded_prepareFail3 _) ?_
  exact .bind (.modify fun _ => rfl) fun _ => .pure

theorem guarded_ringDisconnect : Keeps Frontend.guarded (onRing ringDisconnect) :=
  keeps_onRing (.modify fun _ => rfl) fun _ _ => rfl

theorem guarded_connectFail2 (status : NtStatus) : Keeps Frontend.guarded (connectFail2 status) :=
  .bind (.modify fun _ => rfl) fun _ => .pure

theorem guarded_connectFail3 (status : NtStatus) : Keeps Frontend.guarded (connectFail3 status) :=
  .bind (.modify fun _ => rfl) fun _ => guarded_connectFail2 status

theorem guarded_connectFail4 (status : NtStatus) : Keeps Frontend.guarded (connectFail4 status) :=
  .bind guarded_ringDisconnect fun _ => guarded_connectFail3 status

theorem guarded_frontendConnect : Keeps Frontend.guarded (frontendConnect fuel) := by
  have copies (old : Option String) : Keeps Frontend.guarded (readCopy old) := fun _ =>
    readCopy_spec.mono fun _ _ h => h ▸ rfl
  refine .bind .ask fun _ => .ite .pure ?_
  refine .bind (.modify fun _ => rfl) fun _ => ?_
  refine .bind .ask fun _ => .ite (guarded_connectFail2 _) ?_
  refine .bind (.modify fun _ => rfl) fun _ => ?_
  refine .bind (keeps_onRing ringConnect_returns fun _ _ => rfl) fun _ => ?_
  refine .ite (guarded_connectFail3 _) ?_
  refine .bind (fun _ => publish_spec.mono fun _ _ h => h ▸ rfl) fun _ => ?_
  refine .ite (guarded_connectFail4 _) ?_
  refine .bind (keeps_handshake _ _ (keeps_connectAnswer settled_guarded)) fun _ => ?_
  refine .ite (guarded_connectFail4 _) ?_
  refine .bind .get fun _ => ?_
  refine .bind (copies _) fun _ => ?_
  refine .bind (.modify fun _ => rfl) fun _ => ?_
  refine .bind .get fun _ => ?_
  refine .bind (copies _) fun _ => ?_
  exact .bind (.modify fun _ => rfl) fun _ => .pure

theorem guarded_frontendDisconnect : Keeps Frontend.guarded frontendDisconnect := by
  refine .bind (.modify fun _ => rfl) fun _ => ?_
  refine .bind guarded_ringDisconnect fun _ => ?_
  refine .bind (.modify fun _ => rfl) fun _ => ?_
  exact .modify fun _ => rfl

theorem guarded_frontendEnable : Keeps Frontend.guarded frontendEnable :=
  .bind (keeps_onRing (.bind (.modify fun _ => rfl) fun _ => .pure) fun _ _ => rfl)
    fun _ => .ite .pure .pure

theorem guarded_frontendDisable : Keeps Frontend.guarded frontendDisable :=
  keeps_onRing (.modify fun _ => rfl) fun _ _ => rfl

end Guarded

end Xencons
