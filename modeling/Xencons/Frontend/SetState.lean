import Xencons.Frontend.Handshake

/-!
# FrontendSetState (frontend.c)

The frontend walks through its states one transition at a time until it is where it has been sent,
or a transition fails.

* `transition` -- the `switch` of the loop; `frontendSetState` -- the loop, under the lock;
* `HoldsAs` -- what a frontend holds in a state, `Held` -- that it holds what its own state says;
* `transition_spec` -- a transition moves both, the state and what is held;
* `toGo` -- how many transitions are left, which is what the loop ends by;
* `frontendSetState_spec`, `setStates_spec` -- a call, and any number of calls.
-/

namespace Xencons

open Lib Proc

/-! ## 1. The function -/

/-- `Frontend->State = ...` -/
def toState (state : FrontendState) : OnFrontend Unit := modify fun f => { f with state := state }

/-- Out of UNKNOWN and of CLOSED; says whether it failed, as the transitions below do. -/
def prepareTransition (fuel : Nat) : OnFrontend Bool := do
  let status ← frontendPrepare fuel
  if !status.ntSuccess then return true
  toState .prepared
  return false

def closeTransition (fuel : Nat) : OnFrontend Bool := do
  frontendClose fuel
  toState .closed
  return false

def connectTransition (fuel : Nat) : OnFrontend Bool := do
  let status ← frontendConnect fuel
  if !status.ntSuccess then
    let _ ← closeTransition fuel
    return true
  toState .connected
  return false

def disconnectTransition (fuel : Nat) : OnFrontend Bool := do
  frontendClose fuel
  toState .closed
  frontendDisconnect
  return false

def enableTransition (fuel : Nat) : OnFrontend Bool := do
  let status ← frontendEnable
  if !status.ntSuccess then
    let _ ← disconnectTransition fuel
    return true
  toState .enabled
  return false

def disableTransition : OnFrontend Bool := do
  frontendDisable
  toState .connected
  return false

/-- The `switch` of `FrontendSetState`, from the state the frontend is in to the one it is sent
    to. -/
def transition (fuel : Nat) : FrontendState → FrontendState → OnFrontend Bool
  | .unknown, .closed | .unknown, .prepared | .unknown, .connected | .unknown, .enabled =>
    prepareTransition fuel
  | .closed, .prepared | .closed, .connected | .closed, .enabled => prepareTransition fuel
  | .closed, .unknown => do
    toState .unknown
    return false
  | .prepared, .connected | .prepared, .enabled => connectTransition fuel
  | .prepared, .closed | .prepared, .unknown => closeTransition fuel
  | .connected, .enabled => enableTransition fuel
  | .connected, .prepared | .connected, .closed | .connected, .unknown => disconnectTransition fuel
  | .enabled, .connected | .enabled, .prepared | .enabled, .closed | .enabled, .unknown =>
    disableTransition
  -- ASSERT(FALSE)
  | _, _ => return false

/-- The loop of `FrontendSetState`, with `Failed`. -/
def setStateRound (fuel : Nat) (target : FrontendState) (failed : Bool) :
    OnFrontend (Bool ⊕ Bool) := do
  let f ← get
  if f.state = target ∨ failed then return .inr failed
  let failed ← transition fuel f.state target
  return .inl failed

/-- `FrontendSetState`; four looks at the state are enough for its loop
    (`frontendSetState_spec`). -/
def frontendSetState (fuel : Nat) (target : FrontendState) : OnFrontend NtStatus := do
  acquireLock
  let failed ← repeatUntil .loops (setStateRound fuel target) 4 false
  releaseLock
  return if !failed then .success else .unsuccessful

/-! ## 2. What a state holds -/

namespace FrontendState

/-- PREPARED and above. -/
def isPrepared : FrontendState → Bool
  | .prepared | .connected | .enabled => true
  | .unknown | .closed => false

/-- CONNECTED and above. -/
def isConnected : FrontendState → Bool
  | .connected | .enabled => true
  | .unknown | .closed | .prepared => false

def isEnabled : FrontendState → Bool
  | .enabled => true
  | .unknown | .closed | .prepared | .connected => false

end FrontendState

namespace Frontend

/-- The frontend holds what `state` is about, and nothing else. -/
structure HoldsAs (f : Frontend) (state : FrontendState) : Prop where
  storeRefs : f.storeRefs = state.isPrepared.toNat
  backendPath : f.backendPath.isSome = state.isPrepared
  watch : f.watch = state.isPrepared
  debugRefs : f.debugRefs = state.isConnected.toNat
  debugCallback : f.debugCallback = state.isConnected
  ring : f.ring.Holding state.isConnected state.isEnabled
  transactions : f.transactions = 0
  name : state.isConnected = false → f.name = none ∧ f.protocol = none

/-- It holds what the state it is in is about. -/
def Held (f : Frontend) : Prop := f.HoldsAs f.state

variable {f f' : Frontend} {state : FrontendState}

theorem HoldsAs.same (h : f.HoldsAs state) (hs : f.Same f') : f'.HoldsAs state where
  storeRefs := (congrArg (·.storeRefs) hs).trans h.storeRefs
  backendPath := (congrArg (·.backendPath.isSome) hs).trans h.backendPath
  watch := (congrArg (·.watch) hs).trans h.watch
  debugRefs := (congrArg (·.debugRefs) hs).trans h.debugRefs
  debugCallback := (congrArg (·.debugCallback) hs).trans h.debugCallback
  ring := by
    have hring : f'.ring = f.ring := congrArg (·.ring) hs
    exact hring ▸ h.ring
  transactions := (congrArg (·.transactions) hs).trans h.transactions
  name hc := ⟨(congrArg (·.name) hs).trans (h.name hc).1,
    (congrArg (·.protocol) hs).trans (h.name hc).2⟩

theorem HoldsAs.withLock (h : f.HoldsAs state) (lock : Bool) :
    ({ f with lock := lock }).HoldsAs state :=
  ⟨h.storeRefs, h.backendPath, h.watch, h.debugRefs, h.debugCallback, h.ring, h.transactions,
    h.name⟩

theorem HoldsAs.backendPath_eq_none (h : f.HoldsAs state) (hs : state.isPrepared = false) :
    f.backendPath = none := by
  have := h.backendPath
  rw [hs] at this
  simpa using this

/-- What `FrontendPrepare` takes is what PREPARED is about. -/
theorem HoldsAs.prepared (h : f.HoldsAs state) (hs : state.isPrepared = false) (path : String)
    (domain : BitVec 16) :
    ({ f.withBackend path domain with watch := true }).HoldsAs .prepared := by
  cases state with
  | unknown | closed =>
    exact ⟨congrArg (· + 1) h.storeRefs, rfl, rfl, h.debugRefs, h.debugCallback, h.ring,
      h.transactions, h.name⟩
  | prepared | connected | enabled => cases hs

theorem HoldsAs.closed (h : f.HoldsAs .prepared) : f.closed.HoldsAs .closed :=
  ⟨congrArg (· - 1) h.storeRefs, rfl, rfl, h.debugRefs, h.debugCallback, h.ring, h.transactions,
    h.name⟩

theorem HoldsAs.unknown (h : f.HoldsAs .closed) : f.HoldsAs .unknown :=
  ⟨h.storeRefs, h.backendPath, h.watch, h.debugRefs, h.debugCallback, h.ring, h.transactions,
    h.name⟩

/-- What `FrontendConnect` takes is what CONNECTED adds. -/
theorem HoldsAs.connected (h : f.HoldsAs .prepared) {r : XenconsRing} (hr : r.Holding true false)
    (name protocol : Option String) :
    ({ f.withDebug r with name := name, protocol := protocol }).HoldsAs .connected :=
  ⟨h.storeRefs, h.backendPath, h.watch, congrArg (· + 1) h.debugRefs, rfl, hr, h.transactions,
    nofun⟩

theorem HoldsAs.disconnected (h : f.HoldsAs .connected) {r : XenconsRing}
    (hr : r.Holding false false) :
    ({ f.closed with state := .closed, ring := r, name := none, protocol := none,
                     debugCallback := false, debugRefs := f.debugRefs - 1 }).HoldsAs .closed :=
  ⟨congrArg (· - 1) h.storeRefs, rfl, rfl, congrArg (· - 1) h.debugRefs, rfl, hr, h.transactions,
    fun _ => ⟨rfl, rfl⟩⟩

/-- What a state is about, the ring apart. -/
theorem HoldsAs.ofRing (h : f.HoldsAs state) {state' : FrontendState} {r : XenconsRing}
    (hp : state'.isPrepared = state.isPrepared) (hc : state'.isConnected = state.isConnected)
    (hr : r.Holding state'.isConnected state'.isEnabled) : ({ f with ring := r }).HoldsAs state' :=
  ⟨hp ▸ h.storeRefs, hp ▸ h.backendPath, hp ▸ h.watch, hc ▸ h.debugRefs, hc ▸ h.debugCallback, hr,
    h.transactions, hc ▸ h.name⟩

end Frontend

/-! ## 3. The transitions -/

section Transitions

variable {fuel : Nat} {f : Frontend} {state target : FrontendState}

/-- Whatever the frontend holds, a transition that does not fail leads to `good`, and none touches
    the lock or what the console ABI acquires. -/
def Moves (good : FrontendState) (f : Frontend) (failed : Bool) (f' : Frontend) : Prop :=
  f'.abi = f.abi ∧ (failed = false → f'.state = good)

theorem toState_moves {g : Frontend} (h : g.guarded = f.guarded) :
    (toState state >>= fun _ => pure false).Ensures (Moves state f) g := by
  refine .modify_bind ?_
  exact .pure ⟨congrArg Prod.fst h, fun _ => rfl⟩

theorem prepareTransition_moves : (prepareTransition fuel).Ensures (Moves .prepared f) f := by
  refine .bind ((guarded_frontendPrepare f).mono fun _ _ h => ?_)
  exact .ite (fun _ => .pure ⟨congrArg Prod.fst h, nofun⟩) fun _ => toState_moves h

theorem closeTransition_moves : (closeTransition fuel).Ensures (Moves .closed f) f :=
  .bind ((guarded_frontendClose f).mono fun _ _ h => toState_moves h)

theorem connectTransition_moves : (connectTransition fuel).Ensures (Moves .connected f) f := by
  refine .bind ((guarded_frontendConnect f).mono fun _ _ h => ?_)
  refine .ite (fun _ => ?_) fun _ => toState_moves h
  refine .bind (closeTransition_moves.mono fun _ _ h' => ?_)
  exact .pure ⟨h'.1.trans (congrArg Prod.fst h), nofun⟩

theorem disconnectTransition_moves : (disconnectTransition fuel).Ensures (Moves .closed f) f := by
  refine .bind ((guarded_frontendClose f).mono fun _ f₁ h => ?_)
  refine .modify_bind ?_
  refine .bind ((guarded_frontendDisconnect { f₁ with state := .closed }).mono fun _ _ h' => ?_)
  exact .pure ⟨(congrArg Prod.fst h').trans (congrArg Prod.fst h), fun _ => congrArg Prod.snd h'⟩

theorem enableTransition_moves : (enableTransition fuel).Ensures (Moves .enabled f) f := by
  refine .bind ((guarded_frontendEnable f).mono fun _ _ h => ?_)
  refine .ite (fun _ => ?_) fun _ => toState_moves h
  refine .bind (disconnectTransition_moves.mono fun _ _ h' => ?_)
  exact .pure ⟨h'.1.trans (congrArg Prod.fst h), nofun⟩

theorem disableTransition_moves : disableTransition.Ensures (Moves .connected f) f :=
  .bind ((guarded_frontendDisable f).mono fun _ _ h => toState_moves h)

/-- The frontend still holds what its state is about, and is in `bad` where the transition
    failed. -/
def Leaves (bad : Option FrontendState) (failed : Bool) (f' : Frontend) : Prop :=
  f'.Held ∧ (failed = true → some f'.state = bad)

variable {bad : Option FrontendState}

/-- Reaching a state is holding it and then saying so. -/
theorem toState_leaves (h : f.HoldsAs state) :
    (toState state >>= fun _ => pure false).Ensures (Leaves bad) f := by
  refine .modify_bind ?_
  exact .pure ⟨⟨h.storeRefs, h.backendPath, h.watch, h.debugRefs, h.debugCallback, h.ring,
    h.transactions, h.name⟩, nofun⟩

theorem prepareTransition_leaves (h : f.Held) (hs : f.state.isPrepared = false) :
    (prepareTransition fuel).Ensures (Leaves (some f.state)) f := by
  refine .bind ((frontendPrepare_spec (h.backendPath_eq_none hs)).mono fun st f₁ h₁ => ?_)
  cases hst : st.ntSuccess with
  | false =>
    rw [hst] at h₁
    obtain ⟨domain, h₁⟩ := h₁
    have hf : ({ f with backendDomain := domain }).HoldsAs f.state :=
      ⟨h.storeRefs, h.backendPath, h.watch, h.debugRefs, h.debugCallback, h.ring, h.transactions,
        h.name⟩
    have hstate : f₁.state = f.state := congrArg (·.state) h₁
    have held : f₁.Held := by
      rw [Frontend.Held, hstate]
      exact hf.same h₁
    exact .ite (fun _ => .pure ⟨held, fun _ => congrArg some hstate⟩) fun no => absurd rfl no
  | true =>
    rw [hst] at h₁
    obtain ⟨path, domain, h₁⟩ := h₁
    exact .ite (fun no => by cases no) fun _ => toState_leaves ((h.prepared hs path domain).same h₁)

theorem closeTransition_leaves (h : f.HoldsAs .prepared) :
    (closeTransition fuel).Ensures (Leaves none) f :=
  .bind (frontendClose_spec.mono fun _ _ h₁ => toState_leaves (h.closed.same h₁))

theorem connectTransition_leaves (h : f.HoldsAs .prepared) :
    (connectTransition fuel).Ensures (Leaves (some .closed)) f := by
  refine .bind ((frontendConnect_spec h.debugCallback h.ring).mono fun st f₁ h₁ => ?_)
  cases hst : st.ntSuccess with
  | false =>
    rw [hst] at h₁
    obtain ⟨r, hr, h₁⟩ := h₁
    refine .ite (fun _ => .bind ?_) fun no => absurd rfl no
    have closes : (closeTransition fuel).Ensures (Leaves none) f₁ :=
      closeTransition_leaves ((h.ofRing rfl rfl hr).same h₁)
    refine (closes.and closeTransition_moves).mono fun failed f₂ h₂ => .pure ⟨h₂.1.1, fun _ => ?_⟩
    cases failed with
    | false => exact congrArg some (h₂.2.2 rfl)
    | true => cases h₂.1.2 rfl
  | true =>
    rw [hst] at h₁
    obtain ⟨r, name, protocol, hr, h₁⟩ := h₁
    exact .ite (fun no => by cases no) fun _ =>
      toState_leaves ((h.connected hr name protocol).same h₁)

theorem disconnectTransition_leaves (h : f.HoldsAs .connected) :
    (disconnectTransition fuel).Ensures (Leaves none) f := by
  refine .bind (frontendClose_spec.mono fun _ f₁ h₁ => ?_)
  refine .modify_bind ?_
  have hring : f₁.ring.Holding true false := by
    have : f₁.ring = f.ring := congrArg (·.ring) h₁
    exact this ▸ h.ring
  refine .bind ((frontendDisconnect_spec (f := { f₁ with state := .closed }) hring).mono ?_)
  rintro _ f₂ ⟨r, hr, rfl⟩
  refine .pure ⟨?_, nofun⟩
  exact (h.disconnected hr).same (h₁.update fun f =>
    { f with state := .closed, ring := r, name := none, protocol := none, debugCallback := false,
             debugRefs := f.debugRefs - 1 })

theorem enableTransition_leaves (h : f.HoldsAs .connected) :
    (enableTransition fuel).Ensures (Leaves none) f := by
  refine .bind ((frontendEnable_spec h.ring).mono fun st f₁ ⟨hst, r, hr, h₁⟩ => ?_)
  subst h₁
  have hf : ({ f with ring := r }).HoldsAs .enabled := h.ofRing rfl rfl hr
  exact .ite (fun no => by rw [hst] at no; cases no) fun _ => toState_leaves hf

theorem disableTransition_leaves (h : f.HoldsAs .enabled) :
    disableTransition.Ensures (Leaves none) f := by
  refine .bind ((frontendDisable_spec h.ring).mono fun _ f₁ ⟨r, hr, h₁⟩ => ?_)
  subst h₁
  have hf : ({ f with ring := r }).HoldsAs .connected := h.ofRing rfl rfl hr
  exact toState_leaves hf

/-- The state a transition leads to, and the one it leads to where it fails, if it can. -/
def next : FrontendState → FrontendState → FrontendState × Option FrontendState
  | .unknown, _ => (.prepared, some .unknown)
  | .closed, .unknown => (.unknown, none)
  | .closed, _ => (.prepared, some .closed)
  | .prepared, .connected | .prepared, .enabled => (.connected, some .closed)
  | .prepared, _ => (.closed, none)
  | .connected, .enabled => (.enabled, none)
  | .connected, _ => (.closed, none)
  | .enabled, _ => (.connected, none)

theorem transition_moves (hs : state ≠ target) :
    (transition fuel state target).Ensures (Moves (next state target).1 f) f := by
  cases state with
  | unknown =>
    cases target with
    | unknown => exact absurd rfl hs
    | closed | prepared | connected | enabled => exact prepareTransition_moves
  | closed =>
    cases target with
    | closed => exact absurd rfl hs
    | unknown => exact toState_moves rfl
    | prepared | connected | enabled => exact prepareTransition_moves
  | prepared =>
    cases target with
    | prepared => exact absurd rfl hs
    | connected | enabled => exact connectTransition_moves
    | unknown | closed => exact closeTransition_moves
  | connected =>
    cases target with
    | connected => exact absurd rfl hs
    | enabled => exact enableTransition_moves
    | unknown | closed | prepared => exact disconnectTransition_moves
  | enabled =>
    cases target with
    | enabled => exact absurd rfl hs
    | unknown | closed | prepared | connected => exact disableTransition_moves

theorem transition_leaves (h : f.Held) (hst : f.state = state) (hs : state ≠ target) :
    (transition fuel state target).Ensures (Leaves (next state target).2) f := by
  have hf : f.HoldsAs state := hst ▸ h
  have prepares (hp : state.isPrepared = false) :
      (prepareTransition fuel).Ensures (Leaves (some state)) f := by
    rw [← hst] at hp ⊢
    exact prepareTransition_leaves h hp
  cases state with
  | unknown =>
    cases target with
    | unknown => exact absurd rfl hs
    | closed | prepared | connected | enabled => exact prepares rfl
  | closed =>
    cases target with
    | closed => exact absurd rfl hs
    | unknown => exact toState_leaves hf.unknown
    | prepared | connected | enabled => exact prepares rfl
  | prepared =>
    cases target with
    | prepared => exact absurd rfl hs
    | connected | enabled => exact connectTransition_leaves hf
    | unknown | closed => exact closeTransition_leaves hf
  | connected =>
    cases target with
    | connected => exact absurd rfl hs
    | enabled => exact enableTransition_leaves hf
    | unknown | closed | prepared => exact disconnectTransition_leaves hf
  | enabled =>
    cases target with
    | enabled => exact absurd rfl hs
    | unknown | closed | prepared | connected => exact disableTransition_leaves hf

end Transitions

/-! ## 4. The loop -/

/-- How many transitions lead from a state to another. -/
def toGo : FrontendState → FrontendState → Nat
  | .unknown, .unknown | .closed, .closed | .prepared, .prepared | .connected, .connected
  | .enabled, .enabled => 0
  | .unknown, .prepared | .closed, .prepared | .closed, .unknown | .prepared, .connected
  | .prepared, .closed | .connected, .enabled | .connected, .closed | .enabled, .connected => 1
  | .unknown, .closed | .unknown, .connected | .closed, .connected | .prepared, .enabled
  | .prepared, .unknown | .connected, .prepared | .connected, .unknown | .enabled, .closed => 2
  | .unknown, .enabled | .closed, .enabled | .enabled, .prepared | .enabled, .unknown => 3

theorem toGo_le (state target : FrontendState) : toGo state target ≤ 3 := by
  cases state <;> cases target <;> decide

theorem toGo_next {state target : FrontendState} (h : state ≠ target) :
    toGo (next state target).1 target < toGo state target := by
  cases state <;> cases target <;> first | decide | exact absurd rfl h

/-- A transition that fails leads to UNKNOWN or CLOSED, and not to where the frontend was sent. -/
theorem next_failed {state target : FrontendState} (h : state ≠ target) {bad : FrontendState}
    (hb : some bad = (next state target).2) : bad ≠ target ∧ (bad = .unknown ∨ bad = .closed) := by
  cases state <;> cases target <;> cases hb <;> first | decide | exact absurd rfl h

section Loop

variable {fuel : Nat} {f f₀ : Frontend} {target : FrontendState}

/-- What the loop keeps: on its way it holds what its state is about, and if it has failed it is in
    UNKNOWN or CLOSED. -/
def OnTheWay (target : FrontendState) (failed : Bool) (f : Frontend) : Prop :=
  f.Held ∧ (failed = true → f.state ≠ target ∧ (f.state = .unknown ∨ f.state = .closed))

/-- Rounds left. -/
def roundsLeft (target : FrontendState) (failed : Bool) (f : Frontend) : Nat :=
  if failed then 0 else toGo f.state target

/-- The invariant of the loop, begun in `f₀`. -/
structure LoopAt (target : FrontendState) (f₀ : Frontend) (failed : Bool) (f : Frontend) :
    Prop where
  abi : f.abi = f₀.abi
  onTheWay : f₀.Held → OnTheWay target failed f

theorem setStateRound_spec {failed : Bool} (h : LoopAt target f₀ failed f) :
    (setStateRound fuel target failed).Ensures (fun r f' => r.elim
      (fun failed' => LoopAt target f₀ failed' f' ∧
        roundsLeft target failed' f' < roundsLeft target failed f)
      (fun failed' => LoopAt target f₀ failed' f' ∧ (failed' = false → f'.state = target))) f := by
  refine .get_bind (.ite (fun stops => .pure ⟨h, fun hf => ?_⟩) fun goesOn => .bind ?_)
  · exact stops.resolve_right (by simp [hf])
  have hs : f.state ≠ target := fun e => goesOn (.inl e)
  have hf : failed = false := by
    cases failed with
    | false => rfl
    | true => exact absurd (.inr rfl) goesOn
  subst hf
  have leaves (held : f₀.Held) :
      (transition fuel f.state target).Ensures (Leaves (next f.state target).2) f :=
    transition_leaves (h.onTheWay held).1 rfl hs
  refine (transition_moves hs |>.andIf leaves).mono fun failed' f' h' =>
    .pure ⟨⟨?_, fun held => ?_⟩, ?_⟩
  · exact h'.1.1.trans h.abi
  · exact ⟨(h'.2 held).1, fun hf => next_failed hs ((h'.2 held).2 hf)⟩
  · have lt := toGo_next hs
    cases failed' with
    | false =>
      rw [← h'.1.2 rfl] at lt
      exact lt
    | true => exact Nat.lt_of_le_of_lt (Nat.zero_le _) lt

theorem loop_spec :
    (repeatUntil .loops (setStateRound fuel target) 4 false).Ensures
      (fun failed f' => LoopAt target f failed f' ∧ (failed = false → f'.state = target)) f :=
  .repeatUntil_of_variant (fun _ _ h => setStateRound_spec h) 4 false f ⟨rfl, fun h => ⟨h, nofun⟩⟩
    (Nat.lt_succ_of_le (toGo_le _ _))

/-- What a call of `FrontendSetState` returns with. -/
structure Answered (target : FrontendState) (status : NtStatus) (f : Frontend) : Prop where
  held : f.Held
  success_iff : status = .success ↔ f.state = target
  otherwise : f.state ≠ target → f.state = .unknown ∨ f.state = .closed

/-- **`FrontendSetState`** with the lock free: its loop ends, the lock is free again, and a frontend
    that held what its state is about does so in the state it is in now. -/
theorem frontendSetState_spec (hl : f.lock = false) :
    (frontendSetState fuel target).Ensures
      (fun status f' => f'.abi = f.abi ∧ (f.Held → Answered target status f')) f := by
  refine .bind (acquireLock_spec hl ?_)
  refine .bind (loop_spec.mono fun failed f₁ h₁ => ?_)
  refine .modify_bind ?_
  refine .pure ⟨?_, fun held => ?_⟩
  · have hlock : ({ f₁ with lock := false } : Frontend).abi.1 = f.abi.1 := hl.symm
    exact Prod.ext hlock (congrArg Prod.snd h₁.1.abi :)
  · have onTheWay := h₁.1.onTheWay (held.withLock true)
    cases failed with
    | false =>
      exact ⟨onTheWay.1.withLock false, iff_of_true rfl (h₁.2 rfl), fun no => absurd (h₁.2 rfl) no⟩
    | true =>
      have failed := onTheWay.2 rfl
      exact ⟨onTheWay.1.withLock false, iff_of_false nofun failed.1, fun _ => failed.2⟩

/-- With the lock held it does not get past its first line. -/
theorem frontendSetState_deadlocks (hl : f.lock = true) (tape : Nat → Answer) (n : Nat) :
    frontendSetState fuel target tape n f = .deadlocks := by
  rw [frontendSetState, run_bind, acquireLock_deadlocks hl]
  rfl

end Loop

/-! ## 5. Any number of calls -/

/-- A call of `FrontendSetState` as it returned. -/
structure SetStateReturn where
  target : FrontendState
  status : NtStatus
  frontend : Frontend

/-- One call after the other, and what each returned with. -/
def setStates (fuel : Nat) : List FrontendState → OnFrontend (List SetStateReturn)
  | [] => return []
  | target :: targets => do
    let status ← frontendSetState fuel target
    let f ← get
    let later ← setStates fuel targets
    return ⟨target, status, f⟩ :: later

theorem created_held : Frontend.created.Held :=
  ⟨rfl, rfl, rfl, rfl, rfl, ⟨rfl, rfl, rfl, rfl, rfl, rfl, rfl, rfl, rfl, rfl, rfl, rfl⟩, rfl,
    fun _ => ⟨rfl, rfl⟩⟩

/-- **Every call answers**: in any sequence of calls, whatever the interfaces and the backend
    answer, a call that is not kept waiting by the backend returns with the lock free; it succeeds
    exactly where it ends in the state asked for and else ends in UNKNOWN or CLOSED; and what is
    held is what the state reached is about. -/
theorem setStates_answered {fuel : Nat} {targets : List FrontendState} {f : Frontend}
    (held : f.Held) (free : f.lock = false) :
    (setStates fuel targets).Ensures (fun returns _ => returns.map (·.target) = targets ∧
      ∀ r ∈ returns, Answered r.target r.status r.frontend ∧ r.frontend.lock = false) f := by
  induction targets generalizing f with
  | nil =>
    refine .pure ⟨rfl, fun r hr => ?_⟩
    cases hr
  | cons target targets ih =>
    refine .bind ((frontendSetState_spec free).mono fun status f₁ h₁ => ?_)
    refine .get_bind ?_
    refine .bind ?_
    have free₁ : f₁.lock = false := (congrArg Prod.fst h₁.1).trans free
    have answered := h₁.2 held
    refine (ih answered.held free₁).mono fun later f₂ h₂ => .pure ⟨?_, fun r hr => ?_⟩
    · exact congrArg (target :: ·) h₂.1
    · cases hr with
      | head => exact ⟨answered, free₁⟩
      | tail _ hr => exact h₂.2 r hr

/-- An environment where everything succeeds, with a backend that waits, connects and closes. -/
def willing (n : Nat) : Answer where
  status := .success
  granted := true
  text := "0"
  state := if n < 10 then .initWait else if n < 25 then .connected else .closed
  online := true
  number := 0
  now := 0

theorem setStates_answered_enabled :
    ((fun r => r.1.map fun c => (c.status, c.frontend.state, c.frontend.ring.enabled)) <$>
        setStates 2 [.enabled, .unknown] willing 0 .created) =
      .returns [(.success, .enabled, true), (.success, .unknown, false)] ∧
    (setStates 2 [.enabled, .unknown]).Ensures (fun returns _ =>
      returns.map (·.target) = [.enabled, .unknown] ∧
        ∀ r ∈ returns, Answered r.target r.status r.frontend ∧ r.frontend.lock = false) .created :=
  ⟨by decide +kernel, setStates_answered created_held rfl⟩

end Xencons
