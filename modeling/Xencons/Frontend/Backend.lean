import Mathlib.Data.Nat.Find
import Xencons.Frontend.Buffers
import Xencons.Frontend.Publish
import Xencons.Lib.Fuel

/-!
# Handshakes with any backend (frontend.c)

Each wait for the backend is over after 120 seconds, but the loops around the waits go on until the
backend is in the state they are about or the frontend is offline. What ends them is what the store
answers.

* `Environment` -- the answers, with a clock that goes on;
* `Environment.reply` -- what one wait comes to: `wait_run`; `Environment.replies` -- the waits of a
  loop, were it to go on for ever;
* `Handshake` -- the three loops; `Handshake.EndsAt` -- the replies that end them:
  `handshake_course`;
* `prepareAcquire`, `prepareWatch`, `connectFinish`, `closeFinish` -- the functions around the
  loops, which always return;
* `SetStateMeets` -- a condition on all the handshakes that `FrontendSetState` comes to:
  `setState_course`;
* `Environment.still` -- a backend that never changes its state: `handshakes_hang`;
* **`handshakes_end_iff`** -- which loops end, and which calls of `FrontendSetState` return.
-/

namespace Xencons

open Lib Proc

/-! ## 1. One wait -/

/-- What a read of the backend's `state` node says. -/
def Answer.polled (a : Answer) : XenbusState := if a.status.ntSuccess then a.state else .unknown

/-- `TimeDelta`, between a call of `KeQuerySystemTime` and a later one. -/
def Answer.since (a start : Answer) : Nat := (a.now - start.now).toNat / 10000

/-- Any answers, but that time passes: a loop that asks for the state and the time over and over
    again finds 120 seconds gone. -/
structure Environment where
  tape : Nat → Answer
  timePasses : ∀ n, ∃ i, 120000 ≤ (tape (n + 2 + 2 * i)).since (tape n)

namespace Environment

variable (e : Environment)

/-- The wait that is begun at `n` with `old` is over with its `i`-th read. -/
def WaitEnds (n : Nat) (old : XenbusState) (i : Nat) : Prop :=
  (e.tape (n + 1 + 2 * i)).polled ≠ old ∨ 120000 ≤ (e.tape (n + 2 + 2 * i)).since (e.tape n)

instance (n : Nat) (old : XenbusState) : DecidablePred (e.WaitEnds n old) := fun _ =>
  inferInstanceAs (Decidable (_ ∨ _))

theorem waitEnds (n : Nat) (old : XenbusState) : ∃ i, e.WaitEnds n old i :=
  (e.timePasses n).imp fun _ => .inr

/-- The number of reads but one. -/
def reads (n : Nat) (old : XenbusState) : Nat := Nat.find (e.waitEnds n old)

/-- The state that a wait comes to, and where the tape then stands. -/
def reply (n : Nat) (old : XenbusState) : XenbusState × Nat :=
  ((e.tape (n + 1 + 2 * e.reads n old)).polled, n + 1 + 2 * (e.reads n old + 1))

end Environment

section Wait

variable {e : Environment} {f : Frontend} {n : Nat} {old : XenbusState}

/-- A round of the wait that reads once more. -/
theorem waitRound_reads {tape : Nat → Answer} {m : Nat} {state : XenbusState} {delta : Nat}
    (h : state = old ∧ delta < 120000) :
    waitRound old (e.tape n).now (state, delta) tape m f =
      .returns (.inl ((tape m).polled, (tape (m + 1)).since (e.tape n)), m + 2, f) := by
  have hgoes : (!decide (state = old ∧ delta < 120000)) = false := by simp [h.1, h.2]
  unfold waitRound
  dsimp only
  rw [hgoes]
  rfl

/-- The last round. -/
theorem waitRound_over {tape : Nat → Answer} {m : Nat} {state : XenbusState} {delta : Nat}
    (h : state ≠ old ∨ 120000 ≤ delta) :
    waitRound old (e.tape n).now (state, delta) tape m f = .returns (.inr state, m, f) := by
  have hover : (!decide (state = old ∧ delta < 120000)) = true := by
    rcases h with hne | hle
    · simp [hne]
    · simp [Nat.not_lt.mpr hle]
  unfold waitRound
  dsimp only
  rw [hover]
  rfl

/-- The loop of the wait, `i` reads ahead of its end. -/
theorem waitRounds_run (fuel i k : Nat) (state : XenbusState) (delta : Nat)
    (hgoes : state = old ∧ delta < 120000) (hno : ∀ j, j < i → ¬e.WaitEnds n old (k + j))
    (hends : e.WaitEnds n old (k + i)) :
    repeatUntil .waits (waitRound old (e.tape n).now) fuel (state, delta) e.tape (n + 1 + 2 * k) f =
      if i + 2 ≤ fuel then
        .returns ((e.tape (n + 1 + 2 * (k + i))).polled, n + 1 + 2 * (k + i + 1), f)
      else .waits := by
  induction fuel generalizing i k state delta with
  | zero => rfl
  | succ fuel ih =>
      show (waitRound old (e.tape n).now (state, delta) e.tape (n + 1 + 2 * k) f).bind _ = _
      rw [waitRound_reads hgoes]
      show repeatUntil .waits (waitRound old (e.tape n).now) fuel
        ((e.tape (n + 1 + 2 * k)).polled, (e.tape (n + 1 + 2 * k + 1)).since (e.tape n)) e.tape
        (n + 1 + 2 * k + 2) f = _
      have hclock : n + 1 + 2 * k + 1 = n + 2 + 2 * k := by omega
      have hnext : n + 1 + 2 * k + 2 = n + 1 + 2 * (k + 1) := by omega
      rw [hclock, hnext]
      cases i with
      | zero =>
          -- the read that ends the wait; the loop looks at it in one more round
          cases fuel with
          | zero => rfl
          | succ fuel =>
              show (waitRound old (e.tape n).now _ e.tape (n + 1 + 2 * (k + 1)) f).bind _ = _
              rw [Nat.add_zero] at hends ⊢
              rw [waitRound_over hends, if_pos (by omega)]
              rfl
      | succ i =>
          have hgoes' : ¬e.WaitEnds n old k := hno 0 (Nat.succ_pos i)
          have hk : k + (i + 1) = k + 1 + i := by omega
          rw [Environment.WaitEnds, not_or, not_not, Nat.not_le] at hgoes'
          rw [hk] at hends ⊢
          rw [ih i (k + 1) _ _ hgoes' (fun j hj => ?_) hends]
          · have hle : i + 2 ≤ fuel ↔ i + 1 + 2 ≤ fuel + 1 := by omega
            simp only [hle]
          · have hj' := hno (j + 1) (Nat.succ_lt_succ hj)
            rwa [show k + (j + 1) = k + 1 + j by omega] at hj'

/-- **One wait**, with its fuel. -/
theorem wait_run (fuel : Nat) :
    frontendWaitForBackendXenbusStateChange fuel old e.tape n f =
      if e.reads n old + 2 ≤ fuel then .returns ((e.reply n old).1, (e.reply n old).2, f)
      else .waits := by
  have hrun := @waitRounds_run e f n old fuel (e.reads n old) 0 old 0
    ⟨rfl, by decide⟩ (fun j hj => by rw [Nat.zero_add]; exact Nat.find_min _ hj)
    (by rw [Nat.zero_add]; exact Nat.find_spec (e.waitEnds n old))
  rw [Nat.zero_add] at hrun
  exact hrun

end Wait

/-! ## 2. The three loops -/

/-- The loops of `FrontendPrepare`, `FrontendConnect` and `FrontendClose`. -/
inductive Handshake where
  | prepare
  | connect
  | close
deriving DecidableEq

namespace Handshake

/-- The state of the backend that the loop is about. -/
def goal : Handshake → XenbusState
  | .prepare => .initWait
  | .connect => .connected
  | .close => .closed

/-- The `switch`. -/
def answer : Handshake → XenbusState → OnFrontend Unit
  | .prepare => prepareAnswer
  | .connect => connectAnswer
  | .close => closeAnswer

def run (h : Handshake) (fuel : Nat) : OnFrontend XenbusState :=
  Xencons.handshake fuel h.goal h.answer

/-- How many answers the `switch` takes. -/
def asks : Handshake → XenbusState → Nat
  | .prepare, .initWait => 0
  | .prepare, _ => 1
  | .connect, .initWait => 1
  | .connect, _ => 0
  | .close, .closed => 0
  | .close, _ => 1

/-- In this state of the backend, with this answer to a read of its `online` node, the `switch` sets
    the frontend offline. -/
def setsOffline : Handshake → XenbusState → Answer → Bool
  | .prepare, .closed, _ => true
  | .connect, .unknown, _ | .connect, .closing, _ | .connect, .closed, _ => true
  | .close, .closing, a => !(a.status.ntSuccess && a.online)
  | _, _, _ => false

/-- A wait with this reply is the last of the loop. -/
def Stops (h : Handshake) (e : Environment) (r : XenbusState × Nat) : Prop :=
  r.1 = h.goal ∨ h.setsOffline r.1 (e.tape r.2) = true

end Handshake

/-- The replies to the waits that begin at `n` with `old`, were they to go on for ever. -/
def Environment.replies (e : Environment) (h : Handshake) :
    Nat → Nat → XenbusState → XenbusState × Nat
  | 0, n, old => e.reply n old
  | k + 1, n, old =>
    let (state, n) := e.reply n old
    e.replies h k (n + h.asks state) state

/-- **What ends the loop**: the frontend is offline, or a wait comes to a state that ends it. -/
def Handshake.EndsAt (h : Handshake) (e : Environment) (n : Nat) (f : Frontend) : Prop :=
  f.online = false ∨ ∃ k, h.Stops e (e.replies h k n .unknown)

section Loop

variable {e : Environment} {h : Handshake} {f : Frontend} {n : Nat} {old state : XenbusState}

/-- A state other than Closed is written down. -/
theorem setXenbusState_run (tape : Nat → Answer) (hs : state ≠ .closed) :
    ∃ f', frontendSetXenbusState state tape n f = .returns ((), n + 1, f') ∧
      f'.online = f.online :=
  ⟨{ f with published := f.published ++ [state] }, by
    simp [frontendSetXenbusState, frontendIsBackendOnline, hs], rfl⟩

/-- So is Closed, and without the backend online that is all. -/
theorem setXenbusState_closed_run (tape : Nat → Answer) :
    ∃ f', frontendSetXenbusState .closed tape n f = .returns ((), n + 1, f') ∧
      f'.online = (f.online && ((tape n).status.ntSuccess && (tape n).online)) := by
  cases ho : (tape n).status.ntSuccess && (tape n).online with
  | false =>
      refine ⟨{ f with online := false, ejectRequested := true,
                       published := f.published ++ [.closed] }, ?_, by simp⟩
      simp [frontendSetXenbusState, frontendIsBackendOnline, frontendSetOffline, ho]
  | true =>
      refine ⟨{ f with published := f.published ++ [.closed] }, ?_, by simp⟩
      simp [frontendSetXenbusState, frontendIsBackendOnline, ho]

/-- **The `switch`** takes so many answers, and sets the frontend offline or not. -/
theorem answer_run (h : Handshake) (state : XenbusState) (tape : Nat → Answer) (n : Nat)
    (f : Frontend) :
    ∃ f', h.answer state tape n f = .returns ((), n + h.asks state, f') ∧
      f'.online = (f.online && !h.setsOffline state (tape n)) := by
  have writes (other : XenbusState) (ho : other ≠ .closed) :
      ∃ f', frontendSetXenbusState other tape n f = .returns ((), n + 1, f') ∧
        f'.online = (f.online && !false) := by
    rw [Bool.not_false, Bool.and_true]
    exact setXenbusState_run tape ho
  have nothing : ∃ f', (pure () : OnFrontend Unit) tape n f = .returns ((), n + 0, f') ∧
      f'.online = (f.online && !false) := ⟨f, rfl, (Bool.and_true _).symm⟩
  have offline : ∃ f', frontendSetOffline tape n f = .returns ((), n + 0, f') ∧
      f'.online = (f.online && !true) := ⟨_, rfl, (Bool.and_false _).symm⟩
  cases h with
  | prepare =>
      cases state with
      | initWait => exact nothing
      | closed =>
          obtain ⟨f', hrun, -⟩ := setXenbusState_closed_run (n := n) (f := f) tape
          refine ⟨{ f' with online := false, ejectRequested := true }, ?_,
            (Bool.and_false _).symm⟩
          show (frontendSetXenbusState .closed tape n f).bind _ = _
          rw [hrun]
          rfl
      | unknown | initialising | initialised | connected | closing | reconfiguring | reconfigured
      | other k => exact writes .initialising nofun
  | connect =>
      cases state with
      | initWait => exact writes .connected nofun
      | unknown | closing | closed => exact offline
      | initialising | initialised | connected | reconfiguring | reconfigured | other k =>
          exact nothing
  | close =>
      cases state with
      | closing =>
          obtain ⟨f', hrun, honline⟩ := setXenbusState_closed_run (n := n) (f := f) tape
          refine ⟨f', hrun, ?_⟩
          rw [honline, Handshake.setsOffline, Bool.not_not]
      | closed => exact nothing
      | unknown | initialising | initWait | initialised | connected | reconfiguring | reconfigured
      | other k => exact writes .closing nofun

/-- The loop is over. -/
theorem handshakeRound_over (fuel : Nat) (hover : state = h.goal ∨ f.online = false) :
    handshakeRound fuel h.goal h.answer state e.tape n f = .returns (.inr state, n, f) := by
  unfold handshakeRound
  rcases hover with rfl | ho
  · rw [if_pos rfl]
    rfl
  · by_cases hs : state = h.goal
    · rw [if_pos hs]
      rfl
    · rw [if_neg hs]
      simp [ho]

/-- The loop waits once more. -/
theorem handshakeRound_run (hs : old ≠ h.goal) (ho : f.online = true) :
    ∃ f', f'.online = (!h.setsOffline (e.reply n old).1 (e.tape (e.reply n old).2)) ∧
      ∀ fuel, handshakeRound fuel h.goal h.answer old e.tape n f =
        if e.reads n old + 2 ≤ fuel then
          .returns (.inl (e.reply n old).1, (e.reply n old).2 + h.asks (e.reply n old).1, f')
        else .waits := by
  obtain ⟨f', hrun, honline⟩ := answer_run h (e.reply n old).1 e.tape (e.reply n old).2 f
  refine ⟨f', by rw [honline, ho, Bool.true_and], fun fuel => ?_⟩
  have hwait := @wait_run e f n old fuel
  unfold handshakeRound
  rw [if_neg hs]
  by_cases hf : e.reads n old + 2 ≤ fuel
  · rw [if_pos hf] at hwait ⊢
    simp [ho, hwait, hrun]
  · rw [if_neg hf] at hwait ⊢
    simp [ho, hwait]

/-- A wait that does not stop the loop leaves the frontend online. -/
theorem Handshake.Stops.of_not {f' : Frontend} {r : XenbusState × Nat} (hno : ¬h.Stops e r)
    (ho : f'.online = (!h.setsOffline r.1 (e.tape r.2))) : r.1 ≠ h.goal ∧ f'.online = true := by
  rw [Handshake.Stops, not_or, Bool.not_eq_true] at hno
  exact ⟨hno.1, by rw [ho, hno.2, Bool.not_false]⟩

/-- What a round comes to, with enough fuel. -/
theorem handshakeRound_settles (hs : old ≠ h.goal) (ho : f.online = true) :
    ∃ f', f'.online = (!h.setsOffline (e.reply n old).1 (e.tape (e.reply n old).2)) ∧
      Settles (fun fuel => handshakeRound fuel h.goal h.answer old) e.tape n f
        (.inl (e.reply n old).1, (e.reply n old).2 + h.asks (e.reply n old).1, f') := by
  obtain ⟨f', honline, hrun⟩ := handshakeRound_run (e := e) (n := n) hs ho
  exact ⟨f', honline, e.reads n old + 2, fun fuel hf => (hrun fuel).trans (if_pos hf)⟩

/-- With a reply that stops it the loop ends. -/
theorem handshake_settles (k : Nat) (hs : old ≠ h.goal) (ho : f.online = true)
    (hstops : h.Stops e (e.replies h k n old)) :
    ∃ r, Turns (fun fuel => handshakeRound fuel h.goal h.answer) e.tape old n f r := by
  have stops (n : Nat) {state : XenbusState} {f : Frontend}
      (hover : state = h.goal ∨ f.online = false) :
      Turns (fun fuel => handshakeRound fuel h.goal h.answer) e.tape state n f (state, n, f) :=
    .done ⟨0, fun fuel _ => handshakeRound_over fuel hover⟩
  induction k generalizing old n f with
  | zero =>
      obtain ⟨f', honline, hround⟩ := handshakeRound_settles (e := e) (n := n) hs ho
      refine ⟨_, .turn hround (stops _ ?_)⟩
      rcases hstops with hgoal | hoff
      · exact .inl hgoal
      · exact .inr (honline.trans (congrArg (!·) hoff))
  | succ k ih =>
      obtain ⟨f', honline, hround⟩ := handshakeRound_settles (e := e) (n := n) hs ho
      by_cases hnow : (e.reply n old).1 = h.goal ∨ f'.online = false
      · exact ⟨_, .turn hround (stops _ hnow)⟩
      · rw [not_or, Bool.not_eq_false] at hnow
        obtain ⟨r, hr⟩ := ih hnow.1 hnow.2 hstops
        exact ⟨r, .turn hround hr⟩

/-- **A handshake ends just with a reply that ends it.** -/
theorem handshake_course (h : Handshake) (e : Environment) (n : Nat) (f : Frontend) :
    Course h.run e.tape n f (h.EndsAt e n f) where
  settles hends := by
    by_cases ho : f.online = true
    · have hstops : ∃ k, h.Stops e (e.replies h k n .unknown) := by
        simpa only [Handshake.EndsAt, ho, Bool.true_eq_false, false_or] using hends
      obtain ⟨k, hk⟩ := hstops
      have hbegun : XenbusState.unknown ≠ h.goal := by cases h <;> nofun
      obtain ⟨r, hr⟩ := handshake_settles k hbegun ho hk
      exact ⟨r, hr.settles⟩
    · rw [Bool.not_eq_true] at ho
      exact ⟨_, (Turns.done ⟨0, fun fuel _ => handshakeRound_over fuel (.inr ho)⟩).settles⟩
  hangs hends := by
    rw [Handshake.EndsAt, not_or, Bool.not_eq_false, not_exists] at hends
    -- the backend stays out of every state that ends the loop
    refine hangs_of_invariant
      (I := fun old n f => old ≠ h.goal ∧ f.online = true ∧
        ∀ k, ¬h.Stops e (e.replies h k n old)) ?_ ⟨by cases h <;> nofun, hends.1, hends.2⟩
    rintro fuel old n f r ⟨hs, ho, hno⟩ hr
    obtain ⟨f', honline, hrun⟩ := handshakeRound_run (e := e) (n := n) hs ho
    rw [hrun fuel] at hr
    by_cases hf : e.reads n old + 2 ≤ fuel
    · rw [if_pos hf] at hr
      obtain rfl := Call.returns.inj hr
      obtain ⟨hs', ho'⟩ := Handshake.Stops.of_not (hno 0) honline
      exact ⟨_, rfl, hs', ho', fun k => hno (k + 1)⟩
    · rw [if_neg hf] at hr
      cases hr

end Loop

/-! ## 3. The functions around the loops -/

/-- `FrontendPrepare` up to the handshake: `.inr` where it returns. -/
def prepareAcquire : OnFrontend (Unit ⊕ NtStatus) := do
  let a ← ask
  if !a.status.ntSuccess then return .inr a.status
  modify fun f => { f with storeRefs := f.storeRefs + 1 }
  frontendSetOnline
  let status ← frontendAcquireBackend
  if !status.ntSuccess then return .inr (← prepareFail2 status)
  return .inl ()

/-- `FrontendPrepare` behind the handshake. -/
def prepareWatch (state : XenbusState) : OnFrontend NtStatus := do
  if state ≠ .initWait then return ← prepareFail3 .unsuccessful
  let b ← ask
  if !b.status.ntSuccess then return ← prepareFail3 b.status
  modify fun f => { f with watch := true }
  return .success

theorem frontendPrepare_eq (fuel : Nat) :
    frontendPrepare fuel =
      prepareAcquire >>= Sum.elim (fun _ => Handshake.prepare.run fuel >>= prepareWatch) pure := by
  have hrun : Handshake.prepare.run fuel >>= prepareWatch =
      handshake fuel .initWait prepareAnswer >>= fun state => prepareWatch state := rfl
  simp only [frontendPrepare, prepareAcquire, hrun, prepareWatch, bind_bind, pure_then, then_pure,
    ite_bind, Sum.elim_inl, Sum.elim_inr]

/-- `FrontendConnect` behind the handshake. -/
def connectFinish (state : XenbusState) : OnFrontend NtStatus := do
  if state ≠ .connected then return ← connectFail4 .unsuccessful
  connectCopies

theorem connectHandshake_eq (fuel : Nat) :
    connectHandshake fuel = Handshake.connect.run fuel >>= connectFinish := rfl

/-- `FrontendClose` behind the handshake. -/
def closeFinish (_ : XenbusState) : OnFrontend Unit := do
  frontendReleaseBackend
  modify fun f => { f with storeRefs := f.storeRefs - 1 }

theorem frontendClose_eq (fuel : Nat) :
    frontendClose fuel = (Proc.modify fun f => { f with watch := false }) >>= fun _ =>
      Handshake.close.run fuel >>= closeFinish := rfl

/-! All but the handshakes always returns. -/

theorem total_prepareFail2 (status : NtStatus) : Total (prepareFail2 status) := by
  refine .bind .modify fun _ => ?_
  exact .bind .modify fun _ => .pure

theorem total_prepareFail3 (status : NtStatus) : Total (prepareFail3 status) :=
  .bind .modify fun _ => total_prepareFail2 status

theorem total_prepareAcquire : Total prepareAcquire := by
  have acquire : Total frontendAcquireBackend := by
    refine .bind .ask fun _ => .ite .pure ?_
    refine .bind .modify fun _ => ?_
    refine .bind .ask fun _ => ?_
    exact .bind .modify fun _ => .pure
  refine .bind .ask fun _ => .ite .pure ?_
  refine .bind .modify fun _ => ?_
  refine .bind .modify fun _ => ?_
  refine .bind acquire fun _ => .ite ?_ .pure
  exact .bind (total_prepareFail2 _) fun _ => .pure

theorem total_prepareWatch (state : XenbusState) : Total (prepareWatch state) := by
  have fail3 (status : NtStatus) :
      Total (prepareFail3 status >>= pure : OnFrontend NtStatus) :=
    .bind (total_prepareFail3 status) fun _ => .pure
  refine .ite (fail3 _) ?_
  refine .bind .ask fun _ => .ite (fail3 _) ?_
  exact .bind .modify fun _ => .pure

theorem total_connectFail3 (status : NtStatus) : Total (connectFail3 status) := by
  refine .bind .modify fun _ => ?_
  exact .bind .modify fun _ => .pure

theorem total_connectFail4 (status : NtStatus) : Total (connectFail4 status) :=
  .bind (.onPart .modify) fun _ => total_connectFail3 status

theorem prompt_publishRound (attempt : Nat) : Prompt (publishRound attempt) := by
  refine .bind .ask fun _ => .ite .pure ?_
  refine .bind .modify fun _ => ?_
  refine .bind ?_ fun _ => ?_
  · exact .onPart (.bind .ask fun _ => .ite .pure (.bind .ask fun _ => .ite .pure .pure))
  · refine .bind .modify fun _ => .ite .pure ?_
    exact .bind .ask fun _ => .ite .pure .pure

theorem total_publish : Total publish := by
  have hkeeps : Keeps id publish := fun _ => publish_spec
  exact Prompt.total (.repeatUntil prompt_publishRound 11 0) hkeeps

theorem total_connectPublish : Total connectPublish := by
  refine .bind .ask fun _ => .ite .pure ?_
  refine .bind .modify fun _ => ?_
  refine .bind .ask fun _ => ?_
  refine .ite (.bind (.bind .modify fun _ => .pure) fun _ => .pure) ?_
  refine .bind .modify fun _ => ?_
  refine .bind (.onPart (prompt_ringConnect.total ringConnect_returns)) fun _ => ?_
  refine .ite (.bind (total_connectFail3 _) fun _ => .pure) ?_
  refine .bind total_publish fun _ => ?_
  refine .ite ?_ .pure
  exact .bind (total_connectFail4 _) fun _ => .pure

theorem total_connectFinish (state : XenbusState) : Total (connectFinish state) := by
  have copy (old : Option String) : Total (readCopy old) := by
    refine .bind .ask fun _ => .ite .pure ?_
    exact .bind .ask fun _ => .pure
  refine .ite (total_connectFail4 _) ?_
  refine .bind .get fun _ => ?_
  refine .bind (copy _) fun _ => ?_
  refine .bind .modify fun _ => ?_
  refine .bind .get fun _ => ?_
  refine .bind (copy _) fun _ => ?_
  exact .bind .modify fun _ => .pure

theorem total_closeFinish (state : XenbusState) : Total (closeFinish state) :=
  .bind .modify fun _ => .modify

theorem total_toState (state : FrontendState) (failed : Bool) :
    Total (toState state >>= fun _ => pure failed) := .bind .modify fun _ => .pure

theorem total_frontendDisconnect : Total frontendDisconnect := by
  refine .bind .modify fun _ => ?_
  refine .bind (.onPart .modify) fun _ => ?_
  exact .bind .modify fun _ => .modify

theorem total_frontendEnable : Total frontendEnable :=
  .bind (.onPart (.bind .modify fun _ => .pure)) fun _ => .ite .pure .pure

theorem total_disableTransition : Total disableTransition := by
  have disable : Total frontendDisable := by
    unfold frontendDisable onRing
    exact .onPart .modify
  exact .bind disable fun _ => total_toState _ _

/-! ## 4. The handshakes that are come to -/

/-- A condition on a handshake, where it is begun. -/
abbrev OnHandshakes := Handshake → Nat → Frontend → Prop

section Meets

variable (c : OnHandshakes) (tape : Nat → Answer)

/-- The handshake `FrontendPrepare` comes to, if it comes to it, meets `c`. -/
def PrepareMeets (n : Nat) (f : Frontend) : Prop :=
  ∀ n' f', prepareAcquire tape n f = .returns (.inl (), n', f') → c .prepare n' f'

/-- Of `FrontendConnect`. -/
def ConnectMeets (n : Nat) (f : Frontend) : Prop :=
  ∀ n' f', connectPublish tape n f = .returns (.inl (), n', f') → c .connect n' f'

/-- Of `FrontendClose`. -/
def CloseMeets (n : Nat) (f : Frontend) : Prop := c .close n { f with watch := false }

/-- A transition falls back to `FrontendClose` where its own function fails. -/
def FallbackMeets (call : Nat → OnFrontend NtStatus) (n : Nat) (f : Frontend) : Prop :=
  ∀ r, Settles call tape n f r → r.1.ntSuccess = false → CloseMeets c r.2.1 r.2.2

/-- The handshakes of a transition meet `c`. -/
def TransitionMeets (n : Nat) (f : Frontend) : FrontendState → FrontendState → Prop
  | .unknown, .closed | .unknown, .prepared | .unknown, .connected | .unknown, .enabled =>
    PrepareMeets c tape n f
  | .closed, .prepared | .closed, .connected | .closed, .enabled => PrepareMeets c tape n f
  | .prepared, .connected | .prepared, .enabled =>
    ConnectMeets c tape n f ∧ FallbackMeets c tape frontendConnect n f
  | .prepared, .closed | .prepared, .unknown => CloseMeets c n f
  | .connected, .enabled => FallbackMeets c tape (fun _ => frontendEnable) n f
  | .connected, .prepared | .connected, .closed | .connected, .unknown => CloseMeets c n f
  | _, _ => True

/-- So do those of the rounds that the loop has left. -/
def RoundsMeet (target : FrontendState) : Nat → Bool → Nat → Frontend → Prop
  | 0, _, _, _ => True
  | turns + 1, failed, n, f =>
    f.state = target ∨ failed ∨
      TransitionMeets c tape n f f.state target ∧
        ∀ r, Settles (transition · f.state target) tape n f r →
          RoundsMeet target turns r.1 r.2.1 r.2.2

/-- **Every handshake that `FrontendSetState` comes to** meets `c`. -/
def SetStateMeets (target : FrontendState) (n : Nat) (f : Frontend) : Prop :=
  RoundsMeet c tape target 4 false n { f with lock := true }

end Meets

section Courses

variable {e : Environment} {n : Nat} {f : Frontend} {target : FrontendState}

/-- The handshake at hand is ended by the replies it gets. -/
def Environment.Ends (e : Environment) : OnHandshakes := fun h n f => h.EndsAt e n f

theorem prepare_course :
    Course frontendPrepare e.tape n f (PrepareMeets e.Ends e.tape n f) := by
  have hrun : frontendPrepare = _ := funext frontendPrepare_eq
  rw [hrun]
  exact .first total_prepareAcquire fun n' f' =>
    (handshake_course .prepare e n' f').andThen total_prepareWatch

theorem connectHandshake_course :
    Course connectHandshake e.tape n f (e.Ends .connect n f) := by
  have hrun : connectHandshake = _ := funext connectHandshake_eq
  rw [hrun]
  exact (handshake_course .connect e n f).andThen total_connectFinish

theorem connect_course :
    Course frontendConnect e.tape n f (ConnectMeets e.Ends e.tape n f) := by
  have hrun : frontendConnect = fun fuel =>
      connectPublish >>= Sum.elim (fun _ => connectHandshake fuel) pure := by
    funext fuel
    rw [frontendConnect_eq]
    congr 1
    funext r
    cases r <;> rfl
  rw [hrun]
  exact .first total_connectPublish fun n' f' => connectHandshake_course

theorem close_course : Course frontendClose e.tape n f (CloseMeets e.Ends n f) := by
  have hrun : frontendClose = _ := funext frontendClose_eq
  rw [hrun]
  exact .after rfl ((handshake_course .close e n _).andThen total_closeFinish)

theorem prepareTransition_course :
    Course prepareTransition e.tape n f (PrepareMeets e.Ends e.tape n f) :=
  prepare_course.andThen fun _ => .ite .pure (total_toState _ _)

theorem closeTransition_course :
    Course closeTransition e.tape n f (CloseMeets e.Ends n f) :=
  close_course.andThen fun _ => total_toState _ _

theorem disconnectTransition_course :
    Course disconnectTransition e.tape n f (CloseMeets e.Ends n f) :=
  close_course.andThen fun _ => .bind .modify fun _ =>
    .bind total_frontendDisconnect fun _ => .pure

/-- A function of the frontend, with a transition to fall back to. -/
theorem fallback_course {call : Nat → OnFrontend NtStatus} {back : Nat → OnFrontend Bool}
    {goOn : OnFrontend Bool} {c : Prop} (h : Course call e.tape n f c)
    (hback : ∀ n f, Course back e.tape n f (CloseMeets e.Ends n f)) (hgo : Total goOn) :
    Course (fun fuel => call fuel >>= fun status =>
      if !status.ntSuccess then back fuel >>= fun _ => pure true else goOn) e.tape n f
      (c ∧ FallbackMeets e.Ends e.tape call n f) := by
  refine h.bind fun r _ => ?_
  cases hs : r.1.ntSuccess with
  | false => exact (((hback _ _).andThen fun _ => .pure)).congr ⟨fun h _ => h, fun h => h rfl⟩
  | true => exact (Course.total hgo).congr (iff_of_true trivial nofun)

theorem connectTransition_course :
    Course connectTransition e.tape n f
      (ConnectMeets e.Ends e.tape n f ∧ FallbackMeets e.Ends e.tape frontendConnect n f) :=
  fallback_course connect_course (fun _ _ => closeTransition_course) (total_toState _ _)

theorem enableTransition_course :
    Course enableTransition e.tape n f
      (FallbackMeets e.Ends e.tape (fun _ => frontendEnable) n f) :=
  (fallback_course (.total total_frontendEnable) (fun _ _ => disconnectTransition_course)
    (total_toState _ _)).congr (and_iff_right trivial)

theorem transition_course (state target : FrontendState) :
    Course (transition · state target) e.tape n f
      (TransitionMeets e.Ends e.tape n f state target) := by
  cases state with
  | unknown =>
    cases target with
    | unknown => exact .total .pure
    | closed | prepared | connected | enabled => exact prepareTransition_course
  | closed =>
    cases target with
    | closed => exact .total .pure
    | unknown => exact .total (total_toState _ _)
    | prepared | connected | enabled => exact prepareTransition_course
  | prepared =>
    cases target with
    | prepared => exact .total .pure
    | connected | enabled => exact connectTransition_course
    | unknown | closed => exact closeTransition_course
  | connected =>
    cases target with
    | connected => exact .total .pure
    | enabled => exact enableTransition_course
    | unknown | closed | prepared => exact disconnectTransition_course
  | enabled =>
    cases target with
    | enabled => exact .total .pure
    | unknown | closed | prepared | connected => exact .total total_disableTransition

/-- The loop, with rounds enough for the transitions that are left. -/
theorem rounds_course (turns : Nat) (failed : Bool) (hleft : roundsLeft target failed f < turns) :
    Course (fun fuel => repeatUntil .loops (setStateRound fuel target) turns failed) e.tape n f
      (RoundsMeet e.Ends e.tape target turns failed n f) := by
  induction turns generalizing failed n f with
  | zero => exact absurd hleft (Nat.not_lt_zero _)
  | succ turns ih =>
      by_cases hstops : f.state = target ∨ failed
      · have hround (fuel : Nat) :
            repeatUntil .loops (setStateRound fuel target) (turns + 1) failed e.tape n f =
              (pure failed : OnFrontend Bool) e.tape n f := by
          show (setStateRound fuel target failed e.tape n f).bind _ = _
          simp [setStateRound, hstops]
        have hmeets : RoundsMeet e.Ends e.tape target (turns + 1) failed n f :=
          hstops.imp_right .inl
        exact ((Course.total .pure).of_run_eq hround).congr (iff_of_true trivial hmeets)
      · have hround (fuel : Nat) :
            repeatUntil .loops (setStateRound fuel target) (turns + 1) failed e.tape n f =
              (transition fuel f.state target >>=
                repeatUntil .loops (setStateRound fuel target) turns) e.tape n f := by
          show (setStateRound fuel target failed e.tape n f).bind _ =
            (transition fuel f.state target e.tape n f).bind _
          simp only [setStateRound, run_bind, run_get, Call.returns_bind, run_ite, hstops, if_false]
          cases transition fuel f.state target e.tape n f <;> rfl
        obtain ⟨hstate, hfailed⟩ := not_or.mp hstops
        rw [Bool.not_eq_true] at hfailed
        subst hfailed
        have hgoes : roundsLeft target false f = toGo f.state target := rfl
        refine (((transition_course f.state target).bind fun r hr => ?_).of_run_eq hround).congr
          ⟨fun h => .inr (.inr h), fun h => (h.resolve_left hstate).resolve_left nofun⟩
        -- each transition leaves fewer to go
        have hnext := toGo_next hstate
        have hmoves := hr.ensures fun fuel => transition_moves hstate
        refine ih r.1 ?_
        cases hf : r.1 with
        | true =>
            show 0 < turns
            omega
        | false =>
            show toGo r.2.2.state target < turns
            rw [hmoves.2 hf]
            omega

/-- **`FrontendSetState`** returns just where the handshakes it comes to end. -/
theorem setState_course (hl : f.lock = false) :
    Course (frontendSetState · target) e.tape n f (SetStateMeets e.Ends e.tape target n f) := by
  refine .after (run_acquireLock hl e.tape n) ?_
  refine (rounds_course 4 false (Nat.lt_succ_of_le (toGo_le _ _))).andThen fun failed => ?_
  exact .bind .modify fun _ => .pure

end Courses

/-! ## 5. A backend that never changes its state -/

/-- The same answer all the time, but for the clock: two minutes go by from one to the next. -/
def Environment.still (a : Answer) : Environment where
  tape n := { a with now := BitVec.ofNat 64 (1200000000 * n) }
  timePasses n := by
    refine ⟨0, ?_⟩
    have hdelta :
        BitVec.ofNat 64 (1200000000 * (n + 2 + 2 * 0)) - BitVec.ofNat 64 (1200000000 * n) =
          2400000000#64 := by
      have hsum : 1200000000 * (n + 2 + 2 * 0) = 1200000000 * n + 2400000000 := by omega
      rw [hsum, BitVec.ofNat_add, BitVec.add_comm, BitVec.add_sub_cancel]
    rw [Answer.since, hdelta]
    decide

section Still

variable {a : Answer} {h : Handshake} {f : Frontend}

theorem replies_still (k n : Nat) (old : XenbusState) :
    ((Environment.still a).replies h k n old).1 = a.polled := by
  induction k generalizing n old with
  | zero => rfl
  | succ k ih => exact ih _ _

theorem setsOffline_still (state : XenbusState) (n : Nat) :
    h.setsOffline state ((Environment.still a).tape n) = h.setsOffline state a := by
  cases h <;> cases state <;> rfl

/-- Against it a loop of an online frontend ends with the first reply or never. -/
theorem endsAt_still (n : Nat) (ho : f.online = true) :
    h.EndsAt (.still a) n f ↔ a.polled = h.goal ∨ h.setsOffline a.polled a = true := by
  simp only [Handshake.EndsAt, Handshake.Stops, replies_still, setsOffline_still, ho,
    Bool.true_eq_false, false_or, exists_const]

end Still

/-- A frontend that is PREPARED. -/
def Frontend.prepared : Frontend :=
  { Frontend.created with state := .prepared, online := true, storeRefs := 1, watch := true,
                          backendPath := some "backend" }

theorem prepared_held : Frontend.prepared.Held :=
  ⟨rfl, rfl, rfl, rfl, rfl, created_held.ring, rfl, fun _ => ⟨rfl, rfl⟩⟩

/-- The backend can be read no more. -/
def vanished : Answer where
  status := .unsuccessful
  granted := true
  text := ""
  state := .unknown
  online := false
  number := 0
  now := 0

/-- The backend has come to Initialised, and goes no further. -/
def stuck : Answer := { vanished with status := .success, state := .initialised, online := true }

/-- **No loop ends against a backend that stays in Initialised**, those of Prepare and Close not
    against one that has vanished either; and with the latter a `FrontendSetState` to CLOSED does
    not return, and does not let go of the lock. -/
theorem handshakes_hang :
    Frontend.prepared.Held ∧
    (∀ h : Handshake, ¬∃ r, Settles h.run (Environment.still stuck).tape 0 .prepared r) ∧
    (∀ h : Handshake, h ≠ .connect →
      ¬∃ r, Settles h.run (Environment.still vanished).tape 0 .prepared r) ∧
    ¬∃ r, Settles (frontendSetState · .closed) (Environment.still vanished).tape 0 .prepared r := by
  have hangs (a : Answer) (h : Handshake)
      (hno : (decide (a.polled = h.goal) || h.setsOffline a.polled a) = false) (f : Frontend)
      (ho : f.online = true) : ¬h.EndsAt (.still a) 0 f := by
    rw [Bool.or_eq_false_iff, decide_eq_false_iff_not] at hno
    rw [endsAt_still 0 ho, hno.2]
    exact not_or.mpr ⟨hno.1, Bool.false_ne_true⟩
  refine ⟨prepared_held, fun h => ?_, fun h hc => ?_, ?_⟩
  · rw [(handshake_course h _ 0 _).ends_iff]
    exact hangs stuck h (by cases h <;> rfl) _ rfl
  · rw [(handshake_course h _ 0 _).ends_iff]
    refine hangs vanished h ?_ _ rfl
    cases h with
    | connect => exact absurd rfl hc
    | prepare | close => rfl
  · rw [(setState_course rfl).ends_iff]
    intro hmeets
    have hclose : CloseMeets (Environment.still vanished).Ends 0
        { Frontend.prepared with lock := true } := by
      rcases hmeets with h | h | h
      · cases h
      · cases h
      · exact h.1
    exact hangs vanished .close rfl _ rfl hclose

/-! ## 6. Which handshakes end -/

/-- **The handshakes end just with a reply of the backend that ends them.** Prepare's loop: a wait
    that comes to InitWait or Closed; Connect's: to Connected, Unknown, Closing or Closed; Close's:
    to Closed, or to Closing with the backend's `online` node not read as 1 after it; a loop that
    finds the frontend offline is over at once. `FrontendSetState` returns, with the lock free, just where
    all the handshakes it comes to do. -/
theorem handshakes_end_iff (e : Environment) :
    (∀ (h : Handshake) n f, (∃ r, Settles h.run e.tape n f r) ↔ h.EndsAt e n f) ∧
    ∀ target n (f : Frontend), f.lock = false →
      ((∃ r, Settles (frontendSetState · target) e.tape n f r ∧ r.2.2.lock = false) ↔
        SetStateMeets (fun h n f => h.EndsAt e n f) e.tape target n f) := by
  refine ⟨fun h n f => (handshake_course h e n f).ends_iff, fun target n f hl => ?_⟩
  refine Iff.trans ⟨fun ⟨r, hr, _⟩ => ⟨r, hr⟩, fun ⟨r, hr⟩ => ⟨r, hr, ?_⟩⟩
    (setState_course hl).ends_iff
  have habi := (hr.ensures fun fuel => frontendSetState_spec hl).1
  exact (congrArg Prod.fst habi).trans hl

/-- With the vanished backend and a frontend that is not online. -/
theorem handshakes_end_iff_offline :
    (∃ r, Settles (frontendSetState · .closed) (Environment.still vanished).tape 0
        { Frontend.prepared with online := false } r ∧ r.2.2.lock = false) ↔
      SetStateMeets (fun h n f => h.EndsAt (.still vanished) n f) (Environment.still vanished).tape
        .closed 0 { Frontend.prepared with online := false } :=
  (handshakes_end_iff (.still vanished)).2 .closed 0 _ rfl

end Xencons
