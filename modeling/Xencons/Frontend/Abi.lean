import Xencons.Frontend.SetState

/-!
# The console ABI of a PV frontend, and its lock (frontend.c)

`FrontendAbiAcquire` and `FrontendAbiRelease` count references under `Frontend->Lock`; the suspend
callback and the eject thread take the same lock. The paths that end in `__FrontendSuspend` come to
`FrontendSetState`, which takes it once more.

* `frontendAbiAcquire`, `frontendAbiRelease`, `frontendSuspendCallback`, `frontendEjectWake`,
  `frontendEjectFailed` -- the paths, with the labels they unwind through;
* `LockSafe` -- a call that does not come to `__FrontendSuspend` with the lock held;
* `abiCall_spec`, `abiCall_deadlocks` -- such a call frees the lock again, any other stands still;
* `runAbi_ensures_iff` -- the same for any sequence of calls.
-/

namespace Xencons

open Lib Proc

/-! ## 1. The paths -/

/-- `__FrontendSuspend`; whether it fails is not looked at. `__FrontendResume` does nothing. -/
def frontendSuspend (fuel : Nat) : OnFrontend Unit := do
  let _ ← frontendSetState fuel .unknown

/-- `FrontendSuspendCallback` -/
def frontendSuspendCallback (fuel : Nat) : OnFrontend Unit := frontendSuspend fuel

/-- The body of the loop of `FrontendEject`, between the wait and `KeSetEvent`. -/
def frontendEjectWake : OnFrontend Unit := do
  acquireLock
  let f ← get
  if f.state = .unknown ∨ f.state = .closed then return ← releaseLock
  if !f.online then return ← releaseLock
  let online ← frontendIsBackendOnline
  if online then return ← releaseLock
  -- PdoRequestEject
  modify fun f => { f with ejectRequested := true }
  releaseLock

/-- `FrontendEjectFailed`; both its labels free the lock. -/
def frontendEjectFailed : OnFrontend Unit := do
  acquireLock
  let a ← ask
  if !a.granted then return ← releaseLock
  let b ← ask
  if !b.status.ntSuccess then return ← releaseLock
  releaseLock

/-- `done` of `FrontendAbiAcquire` and `FrontendAbiRelease`. The lock is free when the eject thread
    is woken, and its pass is waited for. -/
def abiDone : OnFrontend Unit := do
  releaseLock
  frontendEjectWake

/-- `fail1` of `FrontendAbiAcquire`. -/
def abiAcquireFail1 (status : NtStatus) : OnFrontend NtStatus := do
  modify fun f => { f with references := f.references - 1 }
  releaseLock
  return status

def abiAcquireFail2 (fuel : Nat) (status : NtStatus) : OnFrontend NtStatus := do
  frontendSuspend fuel
  modify fun f => { f with suspendRefs := f.suspendRefs - 1 }
  abiAcquireFail1 status

/-- `FrontendAbiAcquire` -/
def frontendAbiAcquire (fuel : Nat) : OnFrontend NtStatus := do
  acquireLock
  let f ← get
  modify fun f => { f with references := f.references + 1 }
  if f.references ≠ 0 then
    abiDone
    return .success
  -- XENBUS_SUSPEND(Acquire)
  let a ← ask
  if !a.status.ntSuccess then return ← abiAcquireFail1 a.status
  modify fun f => { f with suspendRefs := f.suspendRefs + 1 }
  -- XENBUS_SUSPEND(Register)
  let b ← ask
  if !b.status.ntSuccess then return ← abiAcquireFail2 fuel b.status
  modify fun f => { f with suspendCallback := true }
  abiDone
  return .success

/-- `FrontendAbiRelease` -/
def frontendAbiRelease (fuel : Nat) : OnFrontend Unit := do
  acquireLock
  let f ← get
  modify fun f => { f with references := f.references - 1 }
  if f.references - 1 ≠ 0 then return ← abiDone
  -- XENBUS_SUSPEND(Deregister)
  modify fun f => { f with suspendCallback := false }
  frontendSuspend fuel
  modify fun f => { f with suspendRefs := f.suspendRefs - 1 }
  abiDone

/-- What calls into a frontend. `FrontendAbiD3ToD0` and `FrontendAbiD0ToD3` do nothing. -/
inductive AbiCall where
  | acquire
  | release
  | d3ToD0
  | d0ToD3
  | suspendCallback
  | ejectWake
  | ejectFailed
deriving DecidableEq

def abiCall (fuel : Nat) : AbiCall → OnFrontend Unit
  | .acquire => do
    let _ ← frontendAbiAcquire fuel
  | .release => frontendAbiRelease fuel
  | .d3ToD0 | .d0ToD3 => pure ()
  | .suspendCallback => frontendSuspendCallback fuel
  | .ejectWake => frontendEjectWake
  | .ejectFailed => frontendEjectFailed

/-- One call after the other. -/
def runAbi (fuel : Nat) : List AbiCall → OnFrontend Unit
  | [] => pure ()
  | call :: calls => do
    abiCall fuel call
    runAbi fuel calls

/-! ## 2. Calls that free the lock again -/

section

variable {fuel : Nat} {f : Frontend}

/-- The lock is free, with so many references. -/
def FreeWith (references : BitVec 32) (f : Frontend) : Prop :=
  f.lock = false ∧ f.references = references

theorem frontendEjectWake_spec (hl : f.lock = false) :
    frontendEjectWake.Ensures (fun _ f' => FreeWith f.references f') f := by
  refine .bind (acquireLock_spec hl ?_)
  refine .get_bind ?_
  refine .ite (fun _ => .modify ⟨rfl, rfl⟩) fun _ => .ite (fun _ => .modify ⟨rfl, rfl⟩) fun _ => ?_
  refine .bind ?_
  refine .ask_bind fun a => ?_
  refine .pure (.ite (fun _ => .modify ⟨rfl, rfl⟩) fun _ => ?_)
  refine .modify_bind ?_
  exact .modify ⟨rfl, rfl⟩

theorem frontendEjectFailed_spec (hl : f.lock = false) :
    frontendEjectFailed.Ensures (fun _ f' => FreeWith f.references f') f := by
  refine .bind (acquireLock_spec hl ?_)
  refine .ask_bind fun _ => .ite (fun _ => .modify ⟨rfl, rfl⟩) fun _ => ?_
  exact .ask_bind fun _ => .ite (fun _ => .modify ⟨rfl, rfl⟩) fun _ => .modify ⟨rfl, rfl⟩

theorem abiDone_spec : abiDone.Ensures (fun _ f' => FreeWith f.references f') f := by
  refine .modify_bind ?_
  exact frontendEjectWake_spec rfl

/-- With the lock free `__FrontendSuspend` leaves it free. -/
theorem frontendSuspend_spec (hl : f.lock = false) :
    (frontendSuspend fuel).Ensures (fun _ f' => FreeWith f.references f') f := by
  refine .bind ((frontendSetState_spec hl).mono fun _ _ h => ?_)
  exact .pure ⟨(congrArg (·.1) h.1).trans hl, congrArg (·.2.1) h.1⟩

/-- With the lock held it stands still. -/
theorem frontendSuspend_deadlocks (hl : f.lock = true) (tape : Nat → Answer) (n : Nat) :
    frontendSuspend fuel tape n f = .deadlocks := by
  rw [frontendSuspend, run_bind, frontendSetState_deadlocks hl]
  rfl

/-! ## 3. The call that must not be made -/

/-- The call does not come to `__FrontendSuspend` with the lock held: it does not drop the last
    reference, and it does not take the first one where suspend callbacks can be acquired and not
    registered. -/
def LockSafe (tape : Nat → Answer) (n : Nat) (f : Frontend) : AbiCall → Prop
  | .acquire => f.references = 0 → (tape n).status.ntSuccess → (tape (n + 1)).status.ntSuccess
  | .release => f.references ≠ 1
  | .d3ToD0 | .d0ToD3 | .suspendCallback | .ejectWake | .ejectFailed => True

variable {tape : Nat → Answer} {n : Nat} {call : AbiCall}

/-- What `FrontendAbiAcquire` leaves: one reference more where it succeeds. -/
def Acquires (f : Frontend) (status : NtStatus) (f' : Frontend) : Prop :=
  FreeWith (if status.ntSuccess then f.references + 1 else f.references) f'

theorem abiDone_acquires {g : Frontend} (h : g.references = f.references + 1) :
    (do abiDone; return .success : OnFrontend NtStatus).Ensures (Acquires f) g := by
  refine .bind (abiDone_spec.mono fun _ _ hg => ?_)
  exact .pure ⟨hg.1, hg.2.trans h⟩

theorem abiAcquireFail1_acquires {status : NtStatus} {g : Frontend} (hs : status.ntSuccess = false)
    (h : g.references = f.references + 1) : (abiAcquireFail1 status).Ensures (Acquires f) g := by
  refine .modify_bind ?_
  refine .modify_bind ?_
  refine .pure ?_
  rw [Acquires, hs]
  have back : g.references - 1 = f.references := by rw [h]; exact BitVec.add_sub_cancel _ _
  exact ⟨rfl, back⟩

theorem frontendAbiAcquire_spec (hl : f.lock = false) (safe : LockSafe tape n f .acquire) :
    (frontendAbiAcquire fuel tape n f).Ensures fun r => Acquires f r.1 r.2.2 := by
  simp only [frontendAbiAcquire, run_bind, run_acquireLock hl, run_get, run_modify, run_ite,
    run_ask,
    Call.returns_bind]
  by_cases first : f.references = 0
  · rw [if_neg (not_not_intro first)]
    cases acquired : (tape n).status.ntSuccess with
    | false => exact abiAcquireFail1_acquires acquired rfl tape (n + 1)
    | true =>
      rw [safe first acquired]
      exact abiDone_acquires rfl tape (n + 2)
  · rw [if_pos first]
    exact abiDone_acquires rfl tape n

theorem frontendAbiAcquire_deadlocks (hl : f.lock = false) (h : ¬LockSafe tape n f .acquire) :
    frontendAbiAcquire fuel tape n f = .deadlocks := by
  simp only [LockSafe, Classical.not_imp] at h
  obtain ⟨first, acquired, unregistered⟩ := h
  simp [frontendAbiAcquire, run_acquireLock hl, first, acquired, unregistered, abiAcquireFail2,
    frontendSuspend_deadlocks]

theorem frontendAbiRelease_spec (hl : f.lock = false) (safe : LockSafe tape n f .release) :
    (frontendAbiRelease fuel tape n f).Ensures fun r => FreeWith (f.references - 1) r.2.2 := by
  simp only [frontendAbiRelease, run_bind, run_acquireLock hl, run_get, run_modify, run_ite,
    Call.returns_bind]
  have others : f.references - 1 ≠ 0 := fun h => safe (by bv_omega)
  rw [if_pos others]
  exact abiDone_spec tape n

theorem frontendAbiRelease_deadlocks (hl : f.lock = false) (h : ¬LockSafe tape n f .release) :
    frontendAbiRelease fuel tape n f = .deadlocks := by
  have last : f.references = 1 := Classical.not_not.mp h
  simp [frontendAbiRelease, run_acquireLock hl, last, frontendSuspend_deadlocks]

/-- **A safe call** frees the lock it takes. -/
theorem abiCall_spec (hl : f.lock = false) (safe : LockSafe tape n f call) :
    (abiCall fuel call tape n f).Ensures fun r => r.2.2.lock = false := by
  cases call with
  | acquire => exact Call.Ensures.bind (frontendAbiAcquire_spec hl safe) fun _ h => h.1
  | release => exact (frontendAbiRelease_spec hl safe).mono fun _ h => h.1
  | d3ToD0 | d0ToD3 => exact hl
  | suspendCallback => exact (frontendSuspend_spec hl tape n).mono fun _ h => h.1
  | ejectWake => exact (frontendEjectWake_spec hl tape n).mono fun _ h => h.1
  | ejectFailed => exact (frontendEjectFailed_spec hl tape n).mono fun _ h => h.1

/-- **Any other call** stands still on the lock it has taken. -/
theorem abiCall_deadlocks (hl : f.lock = false) (h : ¬LockSafe tape n f call) :
    abiCall fuel call tape n f = .deadlocks := by
  cases call with
  | acquire => rw [abiCall, run_bind, frontendAbiAcquire_deadlocks hl h, Call.deadlocks_bind]
  | release => exact frontendAbiRelease_deadlocks hl h
  | d3ToD0 | d0ToD3 | suspendCallback | ejectWake | ejectFailed => exact absurd trivial h

/-! ## 4. Any sequence of calls -/

/-- Every call is safe in the state it is made in. -/
def RunSafe (fuel : Nat) (tape : Nat → Answer) : List AbiCall → Nat → Frontend → Prop
  | [], _, _ => True
  | call :: calls, n, f => LockSafe tape n f call ∧
    ∀ n' f', abiCall fuel call tape n f = .returns ((), n', f') → RunSafe fuel tape calls n' f'

/-- **The lock of a frontend** is free behind a sequence of calls, or the callers still wait for the
    backend, exactly where no call comes to `__FrontendSuspend` with the lock held. -/
theorem runAbi_ensures_iff {calls : List AbiCall} (hl : f.lock = false) :
    (runAbi fuel calls tape n f).Ensures (fun r => r.2.2.lock = false) ↔
      RunSafe fuel tape calls n f := by
  induction calls generalizing n f with
  | nil => exact iff_of_true hl trivial
  | cons call calls ih =>
    constructor
    · intro h
      have safe : LockSafe tape n f call := by
        by_contra hs
        rw [runAbi, run_bind, abiCall_deadlocks hl hs] at h
        exact h
      refine ⟨safe, fun n' f' hc => ?_⟩
      have free : f'.lock = false := (abiCall_spec hl safe).of_returns hc
      rw [runAbi, run_bind, hc] at h
      exact (ih free).mp h
    · rintro ⟨safe, later⟩
      rw [runAbi, run_bind]
      cases hc : abiCall fuel call tape n f with
      | returns r =>
        have free : r.2.2.lock = false := (abiCall_spec hl safe).of_returns hc
        exact (ih free).mpr (later _ _ hc)
      | waits => trivial
      | deadlocks | loops =>
        have spec : (abiCall fuel call tape n f).Ensures fun r => r.2.2.lock = false :=
          abiCall_spec hl safe
        rw [hc] at spec
        exact spec

end

/-- Two references are taken, and one of them is given back. -/
theorem runAbi_ensures_iff_twoHolders :
    (fun r => (r.2.2.lock, r.2.2.references)) <$>
        runAbi 1 [.acquire, .acquire, .ejectWake, .suspendCallback, .release] willing 0 .created =
      .returns (false, 1) ∧
    ((runAbi 1 [.acquire, .acquire, .ejectWake, .suspendCallback, .release]
      willing 0 .created).Ensures
        (fun r => r.2.2.lock = false) ↔
      RunSafe 1 willing [.acquire, .acquire, .ejectWake, .suspendCallback, .release] 0 .created) :=
  ⟨by decide +kernel, runAbi_ensures_iff rfl⟩

/-- A `Release` that drops the last reference never returns. -/
theorem last_release_deadlocks :
    ¬∀ (fuel : Nat) (calls : List AbiCall) (tape : Nat → Answer) (n : Nat) (f : Frontend),
      f.lock = false → (runAbi fuel calls tape n f).Ensures fun r => r.2.2.lock = false := by
  have stuck : runAbi 1 [.acquire, .release] willing 0 .created = .deadlocks := by decide +kernel
  simp only [Classical.not_forall]
  refine ⟨1, [.acquire, .release], willing, 0, .created, rfl, ?_⟩
  rw [stuck]
  exact id

end Xencons
