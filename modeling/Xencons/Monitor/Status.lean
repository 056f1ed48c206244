import Xencons.Lib.Transition

/-!
# The states the service reports (monitor.c)

`ReportStatus` fills `Context->Status`, which all its callers share, and gives it to
`SetServiceStatus`. `MonitorMain` reports the start and the end; `MonitorCtrlHandlerEx`, in a thread
of its own, reports that a stop is pending, and that the service is running for any other control
but a device event, whatever state it is in.

* `ServiceState`, `ServiceState.rank` -- the states, in the order of a service's life;
* `ServiceContext`, `serviceSystem` -- the service main function and the handler, with
  `SetServiceStatus` a step of its own;
* `Orderly` -- the steps that begin a report in its place: `Advancing`, what they keep;
* **`reports_advance`**; `running_after_stop`.
-/

namespace Xencons.Monitor

open Lib

/-! ## 1. The machine -/

inductive ServiceState where
  /-- `Context->Status` has not been filled -/
  | unset
  | startPending
  | running
  | stopPending
  | stopped
deriving DecidableEq

def ServiceState.rank : ServiceState → Nat
  | .unset => 0
  | .startPending => 1
  | .running => 2
  | .stopPending => 3
  | .stopped => 4

/-- `SERVICE_STATUS`, as far as it changes -/
structure ServiceStatus where
  currentState : ServiceState
  win32ExitCode : Nat
  waitHint : Nat
  /-- stop, shutdown and session changes, or nothing -/
  controlsAccepted : Bool
  checkPoint : Nat
deriving DecidableEq

/-- The codes that `MonitorCtrlHandlerEx` is given. -/
inductive Control where
  | stop
  | shutdown
  | interrogate
  | deviceEvent
  | other
deriving DecidableEq

/-- Where `MonitorMain` stands; the names are those of the next call. -/
inductive ServicePc where
  | regOpenKey
  | registerServiceCtrlHandler
  | registerEventSource
  | reportStartPending
  | setStartPending
  | createEvent
  | registerDeviceNotification
  | reportRunning
  | setRunning
  /-- `MonitorEnumerate` and the wait for `StopEvent` -/
  | waitForSingleObject
  /-- `MonitorRemoveAll` and what follows it -/
  | closeHandle
  | reportStopped (exitCode : Nat)
  | setStopped
  | returned
deriving DecidableEq

/-- Where `MonitorCtrlHandlerEx` stands. -/
inductive ControlPc where
  | idle
  /-- in `ReportStatus`, with `SetEvent` behind it or not -/
  | setServiceStatus (stop : Bool)
  | setEvent
deriving DecidableEq

structure ServiceContext where
  main : ServicePc
  handler : ControlPc
  /-- `RegisterServiceCtrlHandlerEx` has returned -/
  registered : Bool
  /-- `StopEvent`: whether it is set, where there is one -/
  stopEvent : Option Bool
  status : ServiceStatus
  /-- the static of `ReportStatus` -/
  checkPoint : Nat
  /-- what has been given to `SetServiceStatus` -/
  reported : List ServiceState
  /-- how much of it ahead of the first stop or shutdown -/
  accepted : Option Nat
deriving DecidableEq

inductive ServiceLabel where
  /-- `MonitorMain` goes on; `ok` is whether its call succeeds, and `lastError` what `GetLastError`
      says if not -/
  | monitorMain (ok : Bool) (lastError : Nat)
  | control (c : Control)
  /-- `MonitorCtrlHandlerEx` goes on -/
  | monitorCtrlHandlerEx
deriving DecidableEq

namespace ServiceContext

def init : ServiceContext where
  main := .regOpenKey
  handler := .idle
  registered := false
  stopEvent := none
  status := ⟨.unset, 0, 0, false, 0⟩
  checkPoint := 1
  reported := []
  accepted := none

/-- `ReportStatus` up to `SetServiceStatus`. -/
def reportStatus (s : ServiceContext) (currentState : ServiceState) (win32ExitCode waitHint : Nat) :
    ServiceContext :=
  let counts := currentState ≠ .running ∧ currentState ≠ .stopped
  { s with
    status :=
      { currentState := currentState
        win32ExitCode := win32ExitCode
        waitHint := waitHint
        controlsAccepted := currentState ≠ .startPending
        checkPoint := if counts then s.checkPoint else 0 }
    checkPoint := if counts then s.checkPoint + 1 else s.checkPoint }

/-- It reads `Context->Status` as it is then. -/
def setServiceStatus (s : ServiceContext) : ServiceContext :=
  { s with reported := s.reported ++ [s.status.currentState] }

def monitorMain (s : ServiceContext) (ok : Bool) (lastError : Nat) : ServiceContext :=
  match s.main with
  | .regOpenKey => { s with main := if ok then .registerServiceCtrlHandler else .returned }
  | .registerServiceCtrlHandler =>
    if ok then { s with main := .registerEventSource, registered := true }
    else { s with main := .returned }
  | .registerEventSource => { s with main := if ok then .reportStartPending else .returned }
  | .reportStartPending => { s.reportStatus .startPending 0 3000 with main := .setStartPending }
  | .setStartPending => { s.setServiceStatus with main := .createEvent }
  | .createEvent =>
    if ok then { s with main := .registerDeviceNotification, stopEvent := some false }
    else { s with main := .reportStopped lastError }
  | .registerDeviceNotification =>
    if ok then { s with main := .reportRunning }
    -- fail5:
    else { s with main := .reportStopped lastError, stopEvent := none }
  | .reportRunning => { s.reportStatus .running 0 0 with main := .setRunning }
  | .setRunning => { s.setServiceStatus with main := .waitForSingleObject }
  | .waitForSingleObject => { s with main := .closeHandle }
  | .closeHandle => { s with main := .reportStopped 0, stopEvent := none }
  | .reportStopped exitCode => { s.reportStatus .stopped exitCode 0 with main := .setStopped }
  | .setStopped => { s.setServiceStatus with main := .returned }
  | .returned => s

/-- `MonitorCtrlHandlerEx` is called, and fills the status that it reports. -/
def control (s : ServiceContext) : Control → ServiceContext
  | .stop | .shutdown =>
    { s.reportStatus .stopPending 0 0 with
      handler := .setServiceStatus true
      accepted := s.accepted.or (some s.reported.length) }
  -- MonitorAdd, MonitorRemove
  | .deviceEvent => s
  | .interrogate | .other =>
    { s.reportStatus .running 0 0 with handler := .setServiceStatus false }

def monitorCtrlHandlerEx (s : ServiceContext) : ServiceContext :=
  match s.handler with
  | .idle => s
  | .setServiceStatus stop =>
    { s.setServiceStatus with handler := if stop then .setEvent else .idle }
  | .setEvent => { s with handler := .idle, stopEvent := s.stopEvent.map fun _ => true }

end ServiceContext

def serviceEnabled (s : ServiceContext) : ServiceLabel → Bool
  | .monitorMain _ _ =>
    s.main ≠ .returned && (s.main ≠ .waitForSingleObject || s.stopEvent = some true)
  | .control _ => s.registered && s.handler = .idle
  | .monitorCtrlHandlerEx => s.handler ≠ .idle

def serviceNext (s : ServiceContext) : ServiceLabel → ServiceContext
  | .monitorMain ok lastError => s.monitorMain ok lastError
  | .control c => s.control c
  | .monitorCtrlHandlerEx => s.monitorCtrlHandlerEx

def serviceSystem : System ServiceContext ServiceLabel where
  enabled s l := serviceEnabled s l = true
  next := serviceNext

instance (s : ServiceContext) (l : ServiceLabel) : Decidable (serviceSystem.enabled s l) :=
  inferInstanceAs (Decidable (_ = _))

/-! ## 2. Reports in their place -/

/-- `MonitorMain` begins to report the start before anything has been reported, and that the service
    runs before a stop is accepted; the handler does so before a stop is accepted and before the end
    has been reported, and begins to report a stop before that. -/
def Orderly (s : ServiceContext) : ServiceLabel → Prop
  | .monitorMain _ _ =>
    (s.main = .reportStartPending → s.reported = []) ∧
      (s.main = .reportRunning → s.accepted = none)
  | .control .interrogate | .control .other =>
    s.accepted = none ∧ ServiceState.stopped ∉ s.reported
  | .control .stop | .control .shutdown => ServiceState.stopped ∉ s.reported
  | .control .deviceEvent | .monitorCtrlHandlerEx => True

instance (s : ServiceContext) : ∀ l, Decidable (Orderly s l)
  | .monitorMain _ _ => inferInstanceAs (Decidable (_ ∧ _))
  | .control .interrogate | .control .other => inferInstanceAs (Decidable (_ ∧ _))
  | .control .stop | .control .shutdown => inferInstanceAs (Decidable (¬_))
  | .control .deviceEvent | .monitorCtrlHandlerEx => .isTrue trivial

/-- `MonitorMain` has not come to its last report. -/
def ServicePc.early : ServicePc → Bool
  | .setStopped | .returned => false
  | _ => true

/-- **What is reported goes on from what has been.** -/
structure Advancing (s : ServiceContext) : Prop where
  sorted : s.reported.Pairwise fun a b => a.rank ≤ b.rank
  below : ∀ a ∈ s.reported, a.rank ≤ s.status.currentState.rank
  fresh : s.accepted = none →
    s.status.currentState ≠ .stopPending ∧ ServiceState.stopPending ∉ s.reported
  early : s.main.early = true →
    s.status.currentState ≠ .stopped ∧ ServiceState.stopped ∉ s.reported
  silent : ∀ k, s.accepted = some k →
    s.status.currentState ≠ .running ∧ ServiceState.running ∉ s.reported.drop k

section Steps

variable {s : ServiceContext} {l : ServiceLabel}

theorem advancing_init : Advancing .init where
  sorted := .nil
  below := nofun
  fresh _ := ⟨nofun, nofun⟩
  early _ := ⟨nofun, nofun⟩
  silent _ h := by cases h

/-- A step that neither fills the status nor reports it. -/
theorem Advancing.of_same {s' : ServiceContext} (h : Advancing s) (hs : s'.status = s.status)
    (hr : s'.reported = s.reported) (ha : s'.accepted = s.accepted)
    (hm : s'.main.early = true → s.main.early = true) : Advancing s' where
  sorted := hr ▸ h.sorted
  below := by rw [hr, hs]; exact h.below
  fresh := by rw [hr, hs, ha]; exact h.fresh
  early he := by rw [hr, hs]; exact h.early (hm he)
  silent := by rw [hr, hs, ha]; exact h.silent

/-- The status is filled with a state that is not behind. -/
theorem Advancing.reportStatus {s' : ServiceContext} {state : ServiceState}
    (h : Advancing s) (hs : s'.status.currentState = state) (hr : s'.reported = s.reported)
    (hbelow : ∀ a ∈ s.reported, a.rank ≤ state.rank)
    (hfresh : s'.accepted = none → state ≠ .stopPending ∧ s.accepted = none)
    (hearly : s'.main.early = true → state ≠ .stopped ∧ s.main.early = true)
    (hsilent : ∀ k, s'.accepted = some k →
      state ≠ .running ∧ ServiceState.running ∉ s.reported.drop k) : Advancing s' where
  sorted := hr ▸ h.sorted
  below := by rw [hr, hs]; exact hbelow
  fresh ha := by rw [hr, hs]; exact ⟨(hfresh ha).1, (h.fresh (hfresh ha).2).2⟩
  early he := by rw [hr, hs]; exact ⟨(hearly he).1, (h.early (hearly he).2).2⟩
  silent := by rw [hr, hs]; exact hsilent

/-- **`SetServiceStatus`** reports what is there. -/
theorem Advancing.setServiceStatus {s' : ServiceContext} (h : Advancing s)
    (hs : s'.status = s.status) (hr : s'.reported = s.reported ++ [s.status.currentState])
    (ha : s'.accepted = s.accepted) (hm : s'.main.early = true → s.main.early = true) :
    Advancing s' where
  sorted := by
    rw [hr]
    refine List.pairwise_append.mpr ⟨h.sorted, List.pairwise_singleton _ _, fun a hm b hb => ?_⟩
    rw [List.mem_singleton.mp hb]
    exact h.below a hm
  below := by
    rw [hr, hs]
    exact List.forall_mem_append.mpr ⟨h.below, List.forall_mem_singleton.mpr (Nat.le_refl _)⟩
  fresh := by
    rw [hr, hs, ha]
    intro hnone
    obtain ⟨hstatus, hnot⟩ := h.fresh hnone
    refine ⟨hstatus, fun hm => ?_⟩
    rcases List.mem_append.mp hm with hm | hm
    · exact hnot hm
    · exact hstatus (List.mem_singleton.mp hm).symm
  early he := by
    rw [hr, hs]
    obtain ⟨hstatus, hnot⟩ := h.early (hm he)
    refine ⟨hstatus, fun hm => ?_⟩
    rcases List.mem_append.mp hm with hm | hm
    · exact hnot hm
    · exact hstatus (List.mem_singleton.mp hm).symm
  silent := by
    rw [hr, hs, ha]
    intro k hk
    obtain ⟨hstatus, hnot⟩ := h.silent k hk
    refine ⟨hstatus, fun hm => ?_⟩
    rw [List.drop_append] at hm
    rcases List.mem_append.mp hm with hm | hm
    · exact hnot hm
    · exact hstatus (List.mem_singleton.mp (List.mem_of_mem_drop hm)).symm

theorem rank_le_running {a : ServiceState} (hp : a ≠ .stopPending) (hs : a ≠ .stopped) :
    a.rank ≤ ServiceState.running.rank := by
  cases a with
  | stopPending => exact absurd rfl hp
  | stopped => exact absurd rfl hs
  | _ => decide

theorem rank_le_stopPending {a : ServiceState} (hs : a ≠ .stopped) :
    a.rank ≤ ServiceState.stopPending.rank := by
  cases a with
  | stopped => exact absurd rfl hs
  | _ => decide

theorem rank_le_stopped (a : ServiceState) : a.rank ≤ ServiceState.stopped.rank := by
  cases a <;> decide

/-- Nothing that has been reported is ahead of the running service. -/
theorem Advancing.le_running (h : Advancing s) (ha : s.accepted = none)
    (hs : ServiceState.stopped ∉ s.reported) :
    ∀ a ∈ s.reported, a.rank ≤ ServiceState.running.rank := fun _ hm =>
  rank_le_running (ne_of_mem_of_not_mem hm (h.fresh ha).2) (ne_of_mem_of_not_mem hm hs)

theorem Advancing.monitorMain (h : Advancing s) {ok : Bool} {lastError : Nat}
    (ho : Orderly s (.monitorMain ok lastError)) : Advancing (s.monitorMain ok lastError) := by
  unfold ServiceContext.monitorMain
  cases hpc : s.main with
  | reportStartPending =>
      have hnone := ho.1 hpc
      refine h.reportStatus rfl rfl ?_ (fun ha => ⟨nofun, ha⟩)
        (fun _ => ⟨nofun, by rw [hpc]; rfl⟩) fun k _ => ⟨nofun, ?_⟩
      · rw [hnone]
        exact nofun
      · rw [hnone, List.drop_nil]
        exact List.not_mem_nil
  | reportRunning =>
      have ha := ho.2 hpc
      have hearly : s.main.early = true := by rw [hpc]; rfl
      refine h.reportStatus rfl rfl (h.le_running ha (h.early hearly).2) (fun _ => ⟨nofun, ha⟩)
        (fun _ => ⟨nofun, hearly⟩) fun k hk => ?_
      cases hk.symm.trans ha
  | reportStopped exitCode =>
      refine h.reportStatus rfl rfl (fun a _ => rank_le_stopped a) (fun ha => ⟨nofun, ha⟩)
        (fun he => by cases he) fun k hk => ⟨nofun, (h.silent k hk).2⟩
  | setStartPending | setRunning =>
      exact h.setServiceStatus rfl rfl rfl fun _ => by rw [hpc]; rfl
  | setStopped => exact h.setServiceStatus rfl rfl rfl fun he => by cases he
  | regOpenKey | registerServiceCtrlHandler | registerEventSource | createEvent
  | registerDeviceNotification =>
      cases ok <;> exact h.of_same rfl rfl rfl fun _ => by rw [hpc]; rfl
  | waitForSingleObject | closeHandle => exact h.of_same rfl rfl rfl fun _ => by rw [hpc]; rfl
  | returned => exact h

theorem Advancing.control (h : Advancing s) {c : Control} (ho : Orderly s (.control c)) :
    Advancing (s.control c) := by
  have hstop (hs : ServiceState.stopped ∉ s.reported) : Advancing (s.control .stop) := by
    refine h.reportStatus rfl rfl (fun a hm => rank_le_stopPending (ne_of_mem_of_not_mem hm hs))
      (fun ha => ?_) (fun he => ⟨nofun, he⟩) fun k hk => ⟨nofun, ?_⟩
    · cases (Option.or_eq_none_iff.mp ha).2
    · rcases Option.or_eq_some_iff.mp hk with hk | ⟨-, hk⟩
      · exact (h.silent k hk).2
      · -- nothing has been reported since
        rw [← Option.some.inj hk, List.drop_length]
        exact List.not_mem_nil
  have hrunning (ha : s.accepted = none) (hs : ServiceState.stopped ∉ s.reported) :
      Advancing (s.control .interrogate) := by
    refine h.reportStatus rfl rfl (h.le_running ha hs) (fun _ => ⟨nofun, ha⟩)
      (fun he => ⟨nofun, he⟩) fun k hk => ?_
    cases hk.symm.trans ha
  cases c with
  | stop => exact hstop ho
  | shutdown => exact hstop ho
  | interrogate => exact hrunning ho.1 ho.2
  | other => exact hrunning ho.1 ho.2
  | deviceEvent => exact h

/-- **Kept by every orderly step.** -/
theorem advancing_next (h : Advancing s) (ho : Orderly s l) : Advancing (serviceNext s l) := by
  cases l with
  | monitorMain ok lastError => exact h.monitorMain ho
  | control c => exact h.control ho
  | monitorCtrlHandlerEx =>
      show Advancing s.monitorCtrlHandlerEx
      unfold ServiceContext.monitorCtrlHandlerEx
      cases s.handler with
      | idle => exact h
      | setServiceStatus stop => exact h.setServiceStatus rfl rfl rfl id
      | setEvent => exact h.of_same rfl rfl rfl id

end Steps

/-! ## 3. The reports -/

/-- **The reports never go back**, and once a stop or shutdown has been accepted the service is not
    reported running, where each report is begun in its place. -/
theorem reports_advance {s : ServiceContext} (h : Reach serviceSystem Orderly .init s) :
    (s.reported.Pairwise fun a b => a.rank ≤ b.rank) ∧
      ∀ k, s.accepted = some k → ServiceState.running ∉ s.reported.drop k := by
  have hadv : Advancing s := h.invariant advancing_init fun _ _ h _ ho => advancing_next h ho
  exact ⟨hadv.sorted, fun k hk => (hadv.silent k hk).2⟩

/-- The start, up to where the service waits. -/
def serviceStart : List ServiceLabel :=
  List.replicate 9 (.monitorMain true 0)

/-- A stop. -/
def serviceStop : List ServiceLabel :=
  [.control .stop, .monitorCtrlHandlerEx, .monitorCtrlHandlerEx]

/-- The service is started, asked for its state, and stopped. -/
def serviceRun : List ServiceLabel :=
  serviceStart ++ [.control .interrogate, .monitorCtrlHandlerEx] ++ serviceStop ++
    List.replicate 4 (.monitorMain true 0)

theorem reports_advance_stopped :
    ((runs serviceSystem .init serviceRun).reported.Pairwise fun a b => a.rank ≤ b.rank) ∧
      ∀ k, (runs serviceSystem .init serviceRun).accepted = some k →
        ServiceState.running ∉ (runs serviceSystem .init serviceRun).reported.drop k :=
  reports_advance (.of_admits serviceRun .start (by decide +kernel))

/-- **Asked for its state while it stops, the service says that it runs.** -/
theorem running_after_stop : ∃ s, Reach serviceSystem (fun _ _ => True) .init s ∧
    s.reported = [.startPending, .running, .stopPending, .running] ∧ s.accepted = some 2 ∧
    ¬((s.reported.Pairwise fun a b => a.rank ≤ b.rank) ∧
      ∀ k, s.accepted = some k → ServiceState.running ∉ s.reported.drop k) := by
  have hadmits : Admits serviceSystem (fun _ _ => True) .init
      (serviceStart ++ serviceStop ++ [.control .interrogate, .monitorCtrlHandlerEx]) := by
    decide +kernel
  have hreported : (runs serviceSystem .init
      (serviceStart ++ serviceStop ++ [.control .interrogate, .monitorCtrlHandlerEx])).reported =
        [.startPending, .running, .stopPending, .running] := by decide +kernel
  have haccepted : (runs serviceSystem .init (serviceStart ++ serviceStop ++
      [.control .interrogate, .monitorCtrlHandlerEx])).accepted = some 2 := by
    decide +kernel
  refine ⟨_, .of_admits _ .start hadmits, hreported, haccepted, fun h => ?_⟩
  have hnot := h.2 2 haccepted
  rw [hreported] at hnot
  exact hnot (by decide)

end Xencons.Monitor
