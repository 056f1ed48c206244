import Xencons.Frontend.Ring
import Xencons.Lib.Transition

/-!
# RingConnect while events arrive (ring.c)

`RingConnect` of the frontend's model with the steps of its unwinding taken one by one: from where
the event channel has been opened to where it is closed again, `RingEvtchnCallback` can run between
any two of them and count in `Events` and `Dpcs`.

* `ConnectStep` -- the ten calls that can fail, what each leaves and what the label behind it
  undoes;
* `connectSystem` -- the call with its callbacks; `ringConnect_reach` -- without callbacks it is
  `ringConnect`;
* `Undone`, `connect_next`, `reach_undone` -- what the ring holds at each step of it;
* `ringConnect_restores_iff` -- what a failing call leaves. Its last label resets `Events` and not
  `Dpcs`.
-/

namespace Xencons

open Lib

/-! ## 1. The calls -/

/-- The calls of `RingConnect` that can fail, in their order. -/
inductive ConnectStep where
  | debugAcquire
  | evtchnAcquire
  | gnttabAcquire
  | storeAcquire
  /-- `RtlStringCbPrintfA` -/
  | name
  | createCache
  | allocatePage
  | permitForeignAccess
  | openChannel
  /-- `XENBUS_DEBUG(Register)`, behind the `Unmask` -/
  | register
deriving DecidableEq

namespace ConnectStep

def next : ConnectStep → Option ConnectStep
  | .debugAcquire => some .evtchnAcquire
  | .evtchnAcquire => some .gnttabAcquire
  | .gnttabAcquire => some .storeAcquire
  | .storeAcquire => some .name
  | .name => some .createCache
  | .createCache => some .allocatePage
  | .allocatePage => some .permitForeignAccess
  | .permitForeignAccess => some .openChannel
  | .openChannel => some .register
  | .register => none

def prev : ConnectStep → Option ConnectStep
  | .debugAcquire => none
  | .evtchnAcquire => some .debugAcquire
  | .gnttabAcquire => some .evtchnAcquire
  | .storeAcquire => some .gnttabAcquire
  | .name => some .storeAcquire
  | .createCache => some .name
  | .allocatePage => some .createCache
  | .permitForeignAccess => some .allocatePage
  | .openChannel => some .permitForeignAccess
  | .register => some .openChannel

/-- How the call fails, if it does. -/
def failure (a : Answer) : ConnectStep → Option NtStatus
  | .allocatePage => if a.granted then none else some .noMemory
  | .openChannel => if a.granted then none else some .unsuccessful
  | _ => if a.status.ntSuccess then none else some a.status

/-- What a call that succeeds leaves in the ring. -/
def acquire : ConnectStep → XenconsRing → XenconsRing
  | .debugAcquire, r => { r with debugRefs := r.debugRefs + 1 }
  | .evtchnAcquire, r => { r with evtchnRefs := r.evtchnRefs + 1 }
  | .gnttabAcquire, r => { r with gnttabRefs := r.gnttabRefs + 1 }
  | .storeAcquire, r => { r with storeRefs := r.storeRefs + 1 }
  | .name, r => r
  | .createCache, r => { r with gnttabCache := true }
  | .allocatePage, r => { r with mdl := true, shared := true }
  | .permitForeignAccess, r => { r with entry := true }
  | .openChannel, r => { r with channel := true }
  | .register, r => { r with debugCallback := true, connected := true }

/-- What the label behind it undoes: `fail2` the first call, and so on to `fail10`. Of the name
    nothing is kept (`fail6`), and behind the last call there is no label. -/
def release : ConnectStep → XenconsRing → XenconsRing
  | .debugAcquire, r => { r with debugRefs := r.debugRefs - 1 }
  | .evtchnAcquire, r => { r with evtchnRefs := r.evtchnRefs - 1 }
  | .gnttabAcquire, r => { r with gnttabRefs := r.gnttabRefs - 1 }
  | .storeAcquire, r => { r with storeRefs := r.storeRefs - 1 }
  | .name, r => r
  | .createCache, r => { r with gnttabCache := false }
  | .allocatePage, r => { r with shared := false, mdl := false }
  | .permitForeignAccess, r => { r with entry := false }
  | .openChannel, r => { r with channel := false }
  | .register, r => r

end ConnectStep

/-! ## 2. The machine -/

/-- Where the call stands. -/
inductive ConnectPc where
  /-- at that call -/
  | call (i : ConnectStep)
  /-- at the label that undoes that call -/
  | undo (i : ConnectStep) (status : NtStatus)
  /-- in `fail10`, behind `Events = 0` and before the channel is closed -/
  | close (status : NtStatus)
  | returned (status : NtStatus)
deriving DecidableEq

def ConnectPc.calls : ConnectPc → Bool
  | .call _ => true
  | _ => false

def ConnectPc.unwinds : ConnectPc → Bool
  | .undo _ _ | .close _ => true
  | _ => false

/-- Between `Open` and `Close` events are delivered. -/
def ConnectPc.isOpen : ConnectPc → Bool
  | .call .register | .undo .openChannel _ | .close _ => true
  | _ => false

structure ConnectSys where
  ring : XenconsRing
  pc : ConnectPc
  /-- the call that has failed -/
  failedAt : Option ConnectStep
  /-- what `KeInsertQueueDpc` answered to each callback so far -/
  callbacks : List Bool
  /-- and to those since `Events = 0` -/
  late : Option (List Bool)
deriving DecidableEq

inductive ConnectLabel where
  /-- the call is made -/
  | answer (a : Answer)
  /-- the next step of the unwinding -/
  | unwind
  /-- `RingEvtchnCallback` -/
  | callback (inserted : Bool)

/-- `RingEvtchnCallback` -/
def XenconsRing.evtchnCallback (r : XenconsRing) (inserted : Bool) : XenconsRing :=
  { r with
    events := r.events + 1
    dpcs := if inserted then r.dpcs + 1 else r.dpcs }

namespace ConnectSys

/-- The label that undoes `i`, or the end where there is none. -/
def goTo (s : ConnectSys) (i : Option ConnectStep) (status : NtStatus) : ConnectSys :=
  match i with
  | some i => { s with pc := .undo i status }
  | none => { s with pc := .returned status }

def answered (s : ConnectSys) (i : ConnectStep) (a : Answer) : ConnectSys :=
  match i.failure a with
  | some status => { s with failedAt := some i }.goTo i.prev status
  | none =>
    let s := { s with ring := i.acquire s.ring }
    match i.next with
    | some j => { s with pc := .call j }
    | none => { s with pc := .returned .success }

def unwound (s : ConnectSys) : ConnectSys :=
  match s.pc with
  | .undo .openChannel status =>
    { s with ring := { s.ring with events := 0 }, pc := .close status, late := some [] }
  | .close status =>
    { s with ring := ConnectStep.openChannel.release s.ring }.goTo ConnectStep.openChannel.prev
      status
  | .undo i status => { s with ring := i.release s.ring }.goTo i.prev status
  | _ => s

end ConnectSys

def connectEnabled (s : ConnectSys) : ConnectLabel → Prop
  | .answer _ => s.pc.calls = true
  | .unwind => s.pc.unwinds = true
  | .callback _ => s.pc.isOpen = true

def connectNext (s : ConnectSys) : ConnectLabel → ConnectSys
  | .answer a => match s.pc with
    | .call i => s.answered i a
    | _ => s
  | .unwind => s.unwound
  | .callback inserted =>
    { s with
      ring := s.ring.evtchnCallback inserted
      callbacks := s.callbacks ++ [inserted]
      late := s.late.map (· ++ [inserted]) }

/-- **`RingConnect` and its callbacks.** -/
def connectSystem : System ConnectSys ConnectLabel where
  enabled := connectEnabled
  next := connectNext

instance (s : ConnectSys) : ∀ l, Decidable (connectSystem.enabled s l)
  | .answer _ => inferInstanceAs (Decidable (s.pc.calls = true))
  | .unwind => inferInstanceAs (Decidable (s.pc.unwinds = true))
  | .callback _ => inferInstanceAs (Decidable (s.pc.isOpen = true))

/-- `RingConnect` has been entered. -/
def ConnectSys.enter (r : XenconsRing) : ConnectSys where
  ring := r
  pc := .call .debugAcquire
  failedAt := none
  callbacks := []
  late := none

/-- No events. -/
def NoCallback (_ : ConnectSys) : ConnectLabel → Prop
  | .callback _ => False
  | _ => True

/-! ## 3. Without callbacks it is RingConnect of the frontend's model -/

section Frontend

open XenconsRing

variable {r x : XenconsRing} {status : NtStatus} {f : Option ConnectStep} {cb : List Bool}
  {l : Option (List Bool)}

/-- The state is reached and has that ring and that place. -/
abbrev Gets (r x : XenconsRing) (pc : ConnectPc) : Prop :=
  ∃ s, Reach connectSystem NoCallback (.enter r) s ∧ s.ring = x ∧ s.pc = pc

/-- One step of the unwinding. -/
theorem Gets.undo {i : ConnectStep} (h : Gets r x (.undo i status)) (hi : i ≠ .openChannel) :
    Gets r (i.release x) (match i.prev with
      | some j => .undo j status
      | none => .returned status) := by
  obtain ⟨s, hs, rfl, hpc⟩ := h
  refine ⟨_, .step ConnectLabel.unwind hs
    (by simp [connectSystem, connectEnabled, hpc, ConnectPc.unwinds]) trivial, ?_, ?_⟩ <;>
    cases i <;>
    simp_all [connectSystem, connectNext, ConnectSys.unwound, ConnectSys.goTo, ConnectStep.prev]

theorem Gets.fail2 (h : Gets r x (.undo .debugAcquire status)) :
    Gets r x.connectFail2 (.returned status) := h.undo nofun

theorem Gets.fail3 (h : Gets r x (.undo .evtchnAcquire status)) :
    Gets r x.connectFail3 (.returned status) := .fail2 (h.undo nofun)

theorem Gets.fail4 (h : Gets r x (.undo .gnttabAcquire status)) :
    Gets r x.connectFail4 (.returned status) := .fail3 (h.undo nofun)

theorem Gets.fail5 (h : Gets r x (.undo .storeAcquire status)) :
    Gets r x.connectFail5 (.returned status) := .fail4 (h.undo nofun)

theorem Gets.fail6 (h : Gets r x (.undo .name status)) :
    Gets r x.connectFail5 (.returned status) := .fail5 (h.undo nofun)

theorem Gets.fail7 (h : Gets r x (.undo .createCache status)) :
    Gets r x.connectFail7 (.returned status) := .fail6 (h.undo nofun)

theorem Gets.fail8 (h : Gets r x (.undo .allocatePage status)) :
    Gets r x.connectFail8 (.returned status) := .fail7 (h.undo nofun)

theorem Gets.fail9 (h : Gets r x (.undo .permitForeignAccess status)) :
    Gets r x.connectFail9 (.returned status) := .fail8 (h.undo nofun)

theorem Gets.fail10 (h : Gets r x (.undo .openChannel status)) :
    Gets r x.connectFail10 (.returned status) := by
  refine .fail9 ?_
  obtain ⟨s, hs, rfl, hpc⟩ := h
  have hclose : Reach connectSystem NoCallback (.enter r) s.unwound :=
    .step ConnectLabel.unwind hs
      (by simp [connectSystem, connectEnabled, hpc, ConnectPc.unwinds]) trivial
  have hu : s.unwound = { s with
      ring := { s.ring with events := 0 }, pc := .close status, late := some [] } := by
    simp [ConnectSys.unwound, hpc]
  rw [hu] at hclose
  exact ⟨_, .step ConnectLabel.unwind hclose rfl trivial, rfl, rfl⟩

/-- A call that succeeds. -/
theorem Gets.call {i j : ConnectStep} {a : Answer} (h : Gets r x (.call i))
    (ha : i.failure a = none) (hj : i.next = some j) : Gets r (i.acquire x) (.call j) := by
  obtain ⟨s, hs, rfl, hpc⟩ := h
  refine ⟨_, .step (ConnectLabel.answer a) hs
    (by simp [connectSystem, connectEnabled, hpc, ConnectPc.calls]) trivial, ?_, ?_⟩ <;>
    simp [connectSystem, connectNext, hpc, ConnectSys.answered, ha, hj]

/-- A call that fails. -/
theorem Gets.failed {i j : ConnectStep} {a : Answer} (h : Gets r x (.call i))
    (ha : i.failure a = some status) (hj : i.prev = some j) : Gets r x (.undo j status) := by
  obtain ⟨s, hs, rfl, hpc⟩ := h
  refine ⟨_, .step (ConnectLabel.answer a) hs
    (by simp [connectSystem, connectEnabled, hpc, ConnectPc.calls]) trivial, ?_, ?_⟩ <;>
    simp [connectSystem, connectNext, hpc, ConnectSys.answered, ha, hj, ConnectSys.goTo]

theorem failsWith_reach {label : XenconsRing → XenconsRing}
    (h : Gets r (label x) (.returned status)) :
    (failsWith label status).Ensures (fun st r' => Gets r r' (.returned st)) x := by
  refine .modify_bind ?_
  exact .pure h

/-- **Without callbacks the machine is `ringConnect`**: whatever the interfaces answer, the ring
    that one leaves and the status it returns are reached by the other. -/
theorem ringConnect_reach (r : XenconsRing) :
    ringConnect.Ensures (fun st r' => Gets r r' (.returned st)) r := by
  have h₁ : Gets r r (.call .debugAcquire) := ⟨.enter r, .start, rfl, rfl⟩
  refine .askOr (fun a no => .pure ?_) fun a yes => .modify_bind ?_
  · refine ⟨_, .step (ConnectLabel.answer a) .start rfl trivial, ?_, ?_⟩ <;>
      simp [connectSystem, connectNext, ConnectSys.enter, ConnectSys.answered, ConnectStep.failure,
        no, ConnectSys.goTo, ConnectStep.prev]
  have h₂ := h₁.call (a := a) (by simp [ConnectStep.failure, yes]) rfl
  refine .askOr (fun a no => failsWith_reach (.fail2 ?_)) fun a yes => .modify_bind ?_
  · exact h₂.failed (a := a) (by simp [ConnectStep.failure, no]) rfl
  have h₃ := h₂.call (a := a) (by simp [ConnectStep.failure, yes]) rfl
  refine .askOr (fun a no => failsWith_reach (.fail3 ?_)) fun a yes => .modify_bind ?_
  · exact h₃.failed (a := a) (by simp [ConnectStep.failure, no]) rfl
  have h₄ := h₃.call (a := a) (by simp [ConnectStep.failure, yes]) rfl
  refine .askOr (fun a no => failsWith_reach (.fail4 ?_)) fun a yes => .modify_bind ?_
  · exact h₄.failed (a := a) (by simp [ConnectStep.failure, no]) rfl
  have h₅ := h₄.call (a := a) (by simp [ConnectStep.failure, yes]) rfl
  refine .askOr (fun a no => failsWith_reach (.fail5 ?_)) fun a yes => ?_
  · exact h₅.failed (a := a) (by simp [ConnectStep.failure, no]) rfl
  have h₆ := h₅.call (a := a) (by simp [ConnectStep.failure, yes]) rfl
  refine .askOr (fun a no => failsWith_reach (.fail6 ?_)) fun a yes => .modify_bind ?_
  · exact h₆.failed (a := a) (by simp [ConnectStep.failure, no]) rfl
  have h₇ := h₆.call (a := a) (by simp [ConnectStep.failure, yes]) rfl
  refine .askOr (fun a no => failsWith_reach (.fail7 ?_)) fun a yes => .modify_bind ?_
  · exact h₇.failed (a := a) (by simp [ConnectStep.failure, no]) rfl
  have h₈ := h₇.call (a := a) (by simp [ConnectStep.failure, yes]) rfl
  refine .askOr (fun a no => failsWith_reach (.fail8 ?_)) fun a yes => .modify_bind ?_
  · exact h₈.failed (a := a) (by simp [ConnectStep.failure, no]) rfl
  have h₉ := h₈.call (a := a) (by simp [ConnectStep.failure, yes]) rfl
  refine .askOr (fun a no => failsWith_reach (.fail9 ?_)) fun a yes => .modify_bind ?_
  · exact h₉.failed (a := a) (by simp [ConnectStep.failure, no]) rfl
  have h₁₀ := h₉.call (a := a) (by simp [ConnectStep.failure, yes]) rfl
  refine .askOr (fun a no => failsWith_reach (.fail10 ?_)) fun a yes => .modify_bind (.pure ?_)
  · exact h₁₀.failed (a := a) (by simp [ConnectStep.failure, no]) rfl
  obtain ⟨s, hs, hring, hpc⟩ := h₁₀
  refine ⟨_, .step (ConnectLabel.answer a) hs
    (by simp [connectSystem, connectEnabled, hpc, ConnectPc.calls]) trivial,
    ?_, ?_⟩ <;>
    simp [connectSystem, connectNext, hpc, ConnectSys.answered, ConnectStep.failure, yes,
      ConnectStep.next, hring, ConnectStep.acquire]

end Frontend

/-! ## 4. What the ring holds on the way -/

/-- The ring but for the counters of its callback. -/
def XenconsRing.uncounted (r : XenconsRing) : XenconsRing := { r with events := 0, dpcs := 0 }

/-- A ring that is not connected: it has none of what `RingConnect` sets. -/
structure XenconsRing.Disconnected (r : XenconsRing) : Prop where
  connected : r.connected = false
  gnttabCache : r.gnttabCache = false
  mdl : r.mdl = false
  shared : r.shared = false
  entry : r.entry = false
  channel : r.channel = false
  debugCallback : r.debugCallback = false

/-- The calls, in their order. -/
def connectSteps : List ConnectStep :=
  [.debugAcquire, .evtchnAcquire, .gnttabAcquire, .storeAcquire, .name, .createCache, .allocatePage,
    .permitForeignAccess, .openChannel, .register]

/-- What the ring holds in front of a call: what the calls ahead of it have left. -/
def ConnectStep.held (r : XenconsRing) (i : ConnectStep) : XenconsRing :=
  (connectSteps.takeWhile (· ≠ i)).foldl (fun r j => j.acquire r) r

namespace ConnectStep

variable {r x : XenconsRing} {i j : ConnectStep}

theorem held_next (r : XenconsRing) (h : i.next = some j) : held r j = i.acquire (held r i) := by
  cases i <;> cases h <;> rfl

theorem next_of_prev (h : i.prev = some j) : j.next = some i := by
  cases i <;> cases h <;> rfl

theorem uncounted_acquire (i : ConnectStep) (x : XenconsRing) :
    (i.acquire x).uncounted = i.acquire x.uncounted := by
  cases i <;> rfl

theorem uncounted_release (i : ConnectStep) (x : XenconsRing) :
    (i.release x).uncounted = i.release x.uncounted := by
  cases i <;> rfl

/-- **Each label undoes its call**, on a ring that was not connected before. -/
theorem release_acquire (hr : r.Disconnected) (hi : i ≠ .register) :
    i.release (i.acquire (held r i)) = held r i := by
  obtain ⟨connected, cache, mdl, shared, entry, channel, cb⟩ := hr
  cases r
  cases i <;>
    simp_all [held, connectSteps, acquire, release]

end ConnectStep

open ConnectStep

/-- What the ring holds where the call stands. -/
def ConnectSys.holding (s : ConnectSys) (r : XenconsRing) : XenconsRing :=
  match s.pc with
  | .call i => held r i
  | .undo i _ => i.acquire (held r i)
  | .close _ => openChannel.acquire (held r .openChannel)
  | .returned _ => if s.failedAt = none then register.acquire (held r .register) else r

/-- Behind `Close`, or where the channel has never been open. -/
structure ConnectSys.Behind (s : ConnectSys) : Prop where
  failed : s.failedAt ≠ none
  late : s.failedAt = some .register → s.late.isSome = true
  none : s.failedAt ≠ some .register → s.callbacks = [] ∧ s.late = Option.none

/-- Which events there can have been. -/
def ConnectSys.Told (s : ConnectSys) : Prop :=
  match s.pc with
  | .call i => s.failedAt = none ∧ s.late = none ∧ (i ≠ .register → s.callbacks = [])
  | .undo .openChannel _ => s.failedAt = some .register ∧ s.late = none
  | .undo .register _ => False
  | .undo _ _ => s.Behind
  | .close _ => s.failedAt = some .register ∧ s.late.isSome = true
  | .returned status => if s.failedAt = none then status = .success else s.Behind

/-- **The ring on the way**: what is held is what the calls ahead have left, and the counters are
    what the callbacks have counted. -/
structure Undone (r : XenconsRing) (s : ConnectSys) : Prop where
  holds : s.ring.uncounted = (s.holding r).uncounted
  dpcs : s.ring.dpcs = r.dpcs + BitVec.ofNat 32 (s.callbacks.count true)
  events : s.ring.events = match s.late with
    | none => r.events + BitVec.ofNat 32 s.callbacks.length
    | some late => BitVec.ofNat 32 late.length
  told : s.Told

section Steps

variable {r : XenconsRing} {s : ConnectSys} {i : ConnectStep} {status : NtStatus}

theorem undone_enter (r : XenconsRing) : Undone r (.enter r) where
  holds := rfl
  dpcs := by simp [ConnectSys.enter]
  events := by simp [ConnectSys.enter]
  told := ⟨rfl, rfl, fun _ => rfl⟩

/-- The unwinding goes on below call `i`, with what the calls ahead of it have left. -/
theorem Undone.goTo (hi : i ≠ .register) (hx : s.ring.uncounted = (held r i).uncounted)
    (hd : s.ring.dpcs = r.dpcs + BitVec.ofNat 32 (s.callbacks.count true))
    (he : s.ring.events = match s.late with
      | none => r.events + BitVec.ofNat 32 s.callbacks.length
      | some late => BitVec.ofNat 32 late.length)
    (hb : s.Behind) (status : NtStatus) : Undone r (s.goTo i.prev status) := by
  cases hp : i.prev with
  | none =>
      have hr : held r i = r := by cases i <;> cases hp; rfl
      refine ⟨?_, hd, he, ?_⟩
      · rw [hr] at hx
        simpa [ConnectSys.goTo, ConnectSys.holding, hb.failed] using hx
      · show if s.failedAt = none then status = .success else _
        rw [if_neg hb.failed]
        exact ⟨hb.failed, hb.late, hb.none⟩
  | some j =>
      refine ⟨?_, hd, he, ?_⟩
      · show s.ring.uncounted = (j.acquire (held r j)).uncounted
        rw [← held_next r (next_of_prev hp)]
        exact hx
      · have hb' : ConnectSys.Behind { s with pc := .undo j status } :=
          ⟨hb.failed, hb.late, hb.none⟩
        cases i <;> cases hp <;> first | exact hb' | exact absurd rfl hi

/-- A call is made. -/
theorem Undone.answered (h : Undone r s) (hpc : s.pc = .call i) (a : Answer) :
    Undone r (s.answered i a) := by
  have hx : s.ring.uncounted = (held r i).uncounted := by
    simpa [ConnectSys.holding, hpc] using h.holds
  obtain ⟨hnone, hlate, hcb⟩ :
      s.failedAt = none ∧ s.late = none ∧ (i ≠ .register → s.callbacks = []) :=
    by simpa [ConnectSys.Told, hpc] using h.told
  unfold ConnectSys.answered
  cases hf : i.failure a with
  | some status =>
      by_cases hi : i = .register
      · subst hi
        exact ⟨hx, h.dpcs, h.events, rfl, hlate⟩
      · refine Undone.goTo (s := { s with failedAt := some i }) hi hx h.dpcs h.events
          ⟨nofun, fun he => ?_, fun _ => ⟨hcb hi, hlate⟩⟩ status
        exact absurd (Option.some.inj he) hi
  | none =>
      have hacq : (i.acquire s.ring).uncounted = (i.acquire (held r i)).uncounted := by
        rw [uncounted_acquire, hx, ← uncounted_acquire]
      have hcount : (i.acquire s.ring).dpcs = s.ring.dpcs ∧
          (i.acquire s.ring).events = s.ring.events := by cases i <;> exact ⟨rfl, rfl⟩
      cases hn : i.next with
      | some j =>
          have hi : i ≠ .register := by rintro rfl; cases hn
          refine ⟨?_, hcount.1.trans h.dpcs, hcount.2.trans h.events, hnone, hlate, fun _ => hcb hi⟩
          show _ = (held r j).uncounted
          rw [held_next r hn]
          exact hacq
      | none =>
          have hi : i = .register := by cases i <;> cases hn; rfl
          subst hi
          refine ⟨?_, hcount.1.trans h.dpcs, hcount.2.trans h.events, ?_⟩
          · simpa [ConnectSys.holding, hnone] using hacq
          · simp [ConnectSys.Told, hnone]

/-- A step of the unwinding. -/
theorem Undone.unwound (hr : r.Disconnected) (h : Undone r s) : Undone r s.unwound := by
  -- a label below `fail10`, with what its call has left
  have hrelease (i : ConnectStep) (hi : i ≠ .register)
      (hx : s.ring.uncounted = (i.acquire (held r i)).uncounted) (hb : s.Behind)
      (status : NtStatus) :
      Undone r (ConnectSys.goTo { s with ring := i.release s.ring } i.prev status) := by
    have hcount : (i.release s.ring).dpcs = s.ring.dpcs ∧
        (i.release s.ring).events = s.ring.events := by cases i <;> exact ⟨rfl, rfl⟩
    refine Undone.goTo (s := { s with ring := i.release s.ring }) hi ?_ (hcount.1.trans h.dpcs)
      (hcount.2.trans h.events) ⟨hb.failed, hb.late, hb.none⟩ status
    show (i.release s.ring).uncounted = _
    rw [uncounted_release, hx, ← uncounted_release, release_acquire hr hi]
  have hx := h.holds
  have ht := h.told
  unfold ConnectSys.unwound
  unfold ConnectSys.holding at hx
  unfold ConnectSys.Told at ht
  cases hpc : s.pc with
  | call i | returned status => exact h
  | close status =>
      rw [hpc] at hx ht
      refine hrelease .openChannel nofun hx ⟨?_, fun _ => ht.2, fun hne => absurd ht.1 hne⟩ status
      simp [ht.1]
  | undo i status =>
      rw [hpc] at hx ht
      cases i with
      | openChannel => exact ⟨hx, h.dpcs, rfl, ht.1, rfl⟩
      | register => exact ht.elim
      | debugAcquire => exact hrelease .debugAcquire nofun hx ht status
      | evtchnAcquire => exact hrelease .evtchnAcquire nofun hx ht status
      | gnttabAcquire => exact hrelease .gnttabAcquire nofun hx ht status
      | storeAcquire => exact hrelease .storeAcquire nofun hx ht status
      | name => exact hrelease .name nofun hx ht status
      | createCache => exact hrelease .createCache nofun hx ht status
      | allocatePage => exact hrelease .allocatePage nofun hx ht status
      | permitForeignAccess => exact hrelease .permitForeignAccess nofun hx ht status

/-- A callback counts itself, and no more. -/
theorem Undone.callback (h : Undone r s) (ho : s.pc.isOpen = true) (inserted : Bool) :
    Undone r (connectNext s (.callback inserted)) where
  holds := h.holds
  dpcs := by
    show (if inserted then s.ring.dpcs + 1 else s.ring.dpcs) = _
    cases inserted <;> simp [connectNext, h.dpcs, BitVec.ofNat_add, BitVec.add_assoc]
  events := by
    show s.ring.events + 1 = _
    have he := h.events
    cases hl : s.late with
    | none =>
        rw [hl] at he
        simp [connectNext, he, hl, BitVec.ofNat_add, BitVec.add_assoc]
    | some late =>
        rw [hl] at he
        simp [connectNext, he, hl, BitVec.ofNat_add]
  told := by
    have ht := h.told
    unfold ConnectSys.Told at ht ⊢
    simp only [connectNext]
    cases hpc : s.pc with
    | call i =>
        rw [hpc] at ht ho
        cases i <;> cases ho
        exact ⟨ht.1, by simp [ht.2.1], fun hne => absurd rfl hne⟩
    | undo i status =>
        rw [hpc] at ht ho
        cases i <;> cases ho
        exact ⟨ht.1, by simp [ht.2]⟩
    | close status =>
        rw [hpc] at ht
        exact ⟨ht.1, by simpa using ht.2⟩
    | returned status =>
        rw [hpc] at ho
        cases ho

/-- **Every step keeps it.** -/
theorem connect_next (hr : r.Disconnected) {l : ConnectLabel} (h : Undone r s)
    (he : connectEnabled s l) : Undone r (connectNext s l) := by
  cases l with
  | answer a =>
      unfold connectNext
      cases hpc : s.pc with
      | call i => exact h.answered hpc a
      | _ => exact h
  | unwind => exact h.unwound hr
  | callback inserted => exact h.callback he inserted

theorem reach_undone (hr : r.Disconnected) {P : ConnectSys → ConnectLabel → Prop}
    (h : Reach connectSystem P (.enter r) s) : Undone r s :=
  h.invariant (undone_enter r) fun _ _ hs he _ => connect_next hr hs he

end Steps

/-! ## 5. The results -/

/-- **What a `RingConnect` that fails leaves**: of everything but the two counters, the interface
    references included, exactly what it found; and of the counters too, if and only if it failed
    ahead of `XENBUS_DEBUG(Register)`, or no callback queued the DPC and as many came behind
    `Events = 0` as `Events` had been before (as far as 32 bits tell). -/
theorem ringConnect_restores_iff {r : XenconsRing} (hr : r.Disconnected) {s : ConnectSys}
    (h : Reach connectSystem (fun _ _ => True) (.enter r) s) {status : NtStatus}
    (hpc : s.pc = .returned status) (hfail : status.ntSuccess = false) :
    s.ring.uncounted = r.uncounted ∧
      (s.ring = r ↔ s.failedAt ≠ some .register ∨ ∃ late, s.late = some late ∧
        BitVec.ofNat 32 late.length = r.events ∧
        BitVec.ofNat 32 (s.callbacks.count true) = 0) := by
  obtain ⟨holds, dpcs, events, told⟩ := reach_undone hr h
  have hbehind : s.Behind := by
    simp only [ConnectSys.Told, hpc] at told
    by_cases hn : s.failedAt = none
    · rw [if_pos hn] at told
      rw [told] at hfail
      cases hfail
    · rwa [if_neg hn] at told
  have hrest : s.ring.uncounted = r.uncounted := by
    simpa [ConnectSys.holding, hpc, hbehind.failed] using holds
  have hsame : s.ring = r ↔ s.ring.events = r.events ∧ s.ring.dpcs = r.dpcs := by
    refine ⟨fun e => by rw [e]; exact ⟨rfl, rfl⟩, fun ⟨he, hd⟩ => ?_⟩
    calc s.ring = { s.ring.uncounted with events := s.ring.events, dpcs := s.ring.dpcs } := rfl
      _ = { r.uncounted with events := r.events, dpcs := r.dpcs } := by rw [hrest, he, hd]
      _ = r := rfl
  refine ⟨hrest, ?_⟩
  rw [hsame, dpcs, events]
  by_cases hreg : s.failedAt = some .register
  · obtain ⟨late, hl⟩ := Option.isSome_iff_exists.mp (hbehind.late hreg)
    simp [hreg, hl]
  · obtain ⟨hcb, hl⟩ := hbehind.none hreg
    simp [hreg, hl, hcb]

/-- An answer that lets a call succeed, and one that does not. -/
def Answer.ok : Answer := ⟨.success, true, "", .unknown, false, 0, 0⟩

def Answer.refused : Answer := ⟨.unsuccessful, false, "", .unknown, false, 0, 0⟩

/-- The ring of `RingCreate` is disconnected. -/
theorem disconnected_created : Frontend.created.ring.Disconnected :=
  ⟨rfl, rfl, rfl, rfl, rfl, rfl, rfl⟩

/-- Everything succeeds but the `Register`, with those events ahead of it. -/
def registerRefused (events : List ConnectLabel) : List ConnectLabel :=
  List.replicate 9 (.answer .ok) ++ events ++ .answer .refused :: List.replicate 10 .unwind

/-- With no event the ring is as it was. -/
theorem ringConnect_restores_quiet :
    (runs connectSystem (.enter Frontend.created.ring) (registerRefused [])).ring =
      Frontend.created.ring :=
  (ringConnect_restores_iff disconnected_created
    (.of_admits (registerRefused []) .start (by decide))
    (rfl : _ = ConnectPc.returned .unsuccessful) rfl).2.mpr (.inr ⟨[], rfl, rfl, rfl⟩)

/-- With one that queues the DPC, `Dpcs` stays 1. -/
theorem dpcs_left_behind : ¬∀ s : ConnectSys,
    Reach connectSystem (fun _ _ => True) (.enter Frontend.created.ring) s → ∀ status,
      s.pc = .returned status → status.ntSuccess = false → s.ring = Frontend.created.ring := by
  intro hall
  have h := hall _ (.of_admits (registerRefused [.callback true]) .start (by decide)) .unsuccessful
    rfl rfl
  have hd : (runs connectSystem (.enter Frontend.created.ring)
      (registerRefused [.callback true])).ring.dpcs = 1 := by decide
  rw [h] at hd
  exact absurd hd (by decide)

end Xencons
