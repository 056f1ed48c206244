import Mathlib.Data.List.Nodup
import Mathlib.Data.List.Count
import Xencons.Lib.Transition

/-!
# The devices the monitor attaches while it starts (monitor.c)

`MonitorMain` registers for arrivals first, initialises the list and its critical section next, and
enumerates the devices that are present last. `MonitorCtrlHandlerEx` runs in a thread of its own
and adds a console for each arrival it is told of. Neither looks for a console that is there
already.

* `MonitorContext` -- the list, where `MonitorMain` and the handler stand, the devices present and
  the arrivals the handler has still to be told of; `startupSystem`;
* `AttachedOnce` -- every device has one console for which a `ConsoleCreate` succeeded, and no more;
* `OutsideWindow` -- no device arrives between the registration and the enumeration: `once_next`,
  and `twice_of_not`, what any other arrival can lead to;
* `devices_attached_once` -- the result.

A device is known by its number, and a console by the device it is for.
-/

namespace Xencons.Monitor

open Lib

/-! ## 1. The machine -/

/-- Where `MonitorMain` stands; the names are those of the next call. -/
inductive MainPc where
  /-- from `RegOpenKeyExA` to `CreateEvent` -/
  | start
  | registerDeviceNotification
  | initializeListHead
  | initializeCriticalSection
  /-- `SetupDiGetClassDevs` -/
  | getClassDevs
  /-- at the head of the loop of `MonitorEnumerate`, with the devices still to come -/
  | enumerate (rest : List Nat)
  /-- `ConsoleCreate` has made the console of `d`: `__InsertTailList` -/
  | insertTailList (d : Nat) (rest : List Nat)
  /-- start-up is over: `WaitForSingleObject(Context->StopEvent, INFINITE)` -/
  | waiting
  | failed
deriving DecidableEq

/-- Where `MonitorCtrlHandlerEx` stands. -/
inductive HandlerPc where
  | idle
  /-- `MonitorAdd`, in `ConsoleCreate` -/
  | consoleCreate (d : Nat)
  /-- `MonitorAdd`, at `EnterCriticalSection`, `__InsertTailList`, `LeaveCriticalSection` -/
  | insertTailList (d : Nat)
deriving DecidableEq

structure MonitorContext where
  main : MainPc
  handler : HandlerPc
  /-- the `DBT_DEVICEARRIVAL` notifications not yet delivered -/
  arrivals : List Nat
  /-- the devices present, with `GUID_XENCONS_DEVICE` -/
  present : List Nat
  /-- `RegisterDeviceNotification` has returned -/
  registered : Bool
  /-- `Context->ListHead` -/
  list : List Nat
  /-- `Context->ListCount` -/
  listCount : Nat
  /-- the devices for which a `ConsoleCreate` succeeded, each time it did -/
  created : List Nat
  /-- the handler has used the list or its critical section before it was initialised -/
  faulted : Bool

inductive StartupLabel where
  /-- `MonitorMain` goes on; `ok` is whether its call succeeds -/
  | monitorMain (ok : Bool)
  /-- `MonitorCtrlHandlerEx` goes on -/
  | monitorCtrlHandler (ok : Bool)
  | arrival (d : Nat)
deriving DecidableEq

/-- The list and the critical section can be used. -/
def MainPc.initialized : MainPc → Bool
  | .getClassDevs | .enumerate _ | .insertTailList .. | .waiting => true
  | _ => false

/-- The devices present have been listed. -/
def MainPc.listed : MainPc → Bool
  | .enumerate _ | .insertTailList .. | .waiting => true
  | _ => false

namespace MonitorContext

/-- The service starts, with these devices present. -/
def init (devices : List Nat) : MonitorContext where
  main := .start
  handler := .idle
  arrivals := []
  present := devices
  registered := false
  list := []
  listCount := 0
  created := []
  faulted := false

/-- `__InsertTailList`, `++Context->ListCount` -/
def insertTailList (s : MonitorContext) (d : Nat) : MonitorContext :=
  { s with list := s.list ++ [d], listCount := s.listCount + 1 }

/-- `MonitorMain`, with `MonitorEnumerate` -/
def monitorMain (s : MonitorContext) (ok : Bool) : MonitorContext :=
  match s.main with
  | .start => { s with main := if ok then .registerDeviceNotification else .failed }
  | .registerDeviceNotification =>
    if ok then { s with main := .initializeListHead, registered := true }
    else { s with main := .failed }
  | .initializeListHead => { s with main := .initializeCriticalSection, list := [] }
  | .initializeCriticalSection => { s with main := .getClassDevs }
  -- whether MonitorEnumerate succeeds is not looked at
  | .getClassDevs => { s with main := if ok then .enumerate s.present else .waiting }
  | .enumerate [] => { s with main := .waiting }
  | .enumerate (d :: rest) =>
    if ok then { s with main := .insertTailList d rest, created := s.created ++ [d] }
    -- fail2: to fail5:
    else { s with main := .enumerate rest }
  | .insertTailList d rest => { s.insertTailList d with main := .enumerate rest }
  | .waiting | .failed => s

/-- `MonitorCtrlHandlerEx`, with `MonitorAdd` -/
def monitorCtrlHandler (s : MonitorContext) (ok : Bool) : MonitorContext :=
  match s.handler with
  | .idle =>
    match s.arrivals with
    | [] => s
    | d :: arrivals => { s with handler := .consoleCreate d, arrivals := arrivals }
  | .consoleCreate d =>
    if ok then { s with handler := .insertTailList d, created := s.created ++ [d] }
    else { s with handler := .idle }
  | .insertTailList d =>
    if s.main.initialized then { s.insertTailList d with handler := .idle }
    else { s with faulted := true }

/-- A device arrives; whoever has registered is told. -/
def arrival (s : MonitorContext) (d : Nat) : MonitorContext :=
  { s with
    present := s.present ++ [d]
    arrivals := if s.registered then s.arrivals ++ [d] else s.arrivals }

end MonitorContext

def startupEnabled (s : MonitorContext) (l : StartupLabel) : Bool :=
  !s.faulted && match l with
    | .monitorMain _ => s.main ≠ .waiting && s.main ≠ .failed
    | .monitorCtrlHandler _ => s.handler ≠ .idle || s.arrivals ≠ []
    | .arrival d => d ∉ s.present

def startupNext (s : MonitorContext) : StartupLabel → MonitorContext
  | .monitorMain ok => s.monitorMain ok
  | .monitorCtrlHandler ok => s.monitorCtrlHandler ok
  | .arrival d => s.arrival d

/-- **The start of the service, with devices arriving.** -/
def startupSystem : System MonitorContext StartupLabel where
  enabled s l := startupEnabled s l = true
  next := startupNext

instance (s : MonitorContext) (l : StartupLabel) : Decidable (startupSystem.enabled s l) :=
  inferInstanceAs (Decidable (_ = _))

/-! ## 2. One console for each device -/

/-- The console that has been made and not been inserted. -/
def MainPc.inHand : MainPc → List Nat
  | .insertTailList d _ => [d]
  | _ => []

/-- The devices the loop has still to come to. -/
def MainPc.rest : MainPc → List Nat
  | .enumerate rest | .insertTailList _ rest => rest
  | _ => []

def HandlerPc.inHand : HandlerPc → List Nat
  | .insertTailList d => [d]
  | _ => []

def HandlerPc.rest : HandlerPc → List Nat
  | .consoleCreate d => [d]
  | _ => []

namespace MonitorContext

/-- The consoles on the list, and those on the way to it. -/
def consoles (s : MonitorContext) : List Nat :=
  s.list ++ s.main.inHand ++ s.handler.inHand

/-- The devices that somebody will create a console for. -/
def expected (s : MonitorContext) : List Nat :=
  s.main.rest ++ s.handler.rest ++ s.arrivals

theorem count_consoles (s : MonitorContext) (d : Nat) : s.consoles.count d =
    s.list.count d + s.main.inHand.count d + s.handler.inHand.count d := by
  rw [consoles, List.count_append, List.count_append]

theorem count_expected (s : MonitorContext) (d : Nat) : s.expected.count d =
    s.main.rest.count d + s.handler.rest.count d + s.arrivals.count d := by
  rw [expected, List.count_append, List.count_append]

/-- **There is one console for each device for which `ConsoleCreate` succeeded, and no other.** -/
def AttachedOnce (s : MonitorContext) : Prop :=
  s.faulted = false ∧ ∀ d, s.consoles.count d = if d ∈ s.created then 1 else 0

end MonitorContext

/-- No device arrives after `MonitorMain` has registered and before it has listed those present. -/
def OutsideWindow (s : MonitorContext) : StartupLabel → Prop
  | .arrival _ => s.registered = true → s.main.listed = true
  | _ => True

instance (s : MonitorContext) : ∀ l, Decidable (OutsideWindow s l)
  | .arrival _ => inferInstanceAs (Decidable (_ → _))
  | .monitorMain _ | .monitorCtrlHandler _ => .isTrue trivial

/-- Nobody has been told of anything, and no console made. -/
def MonitorContext.Untouched (s : MonitorContext) : Prop :=
  s.arrivals = [] ∧ s.handler = .idle ∧ s.list = [] ∧ s.created = []

/-- `MonitorMain` has come past the registration. -/
def MainPc.pastRegistration : MainPc → Bool
  | .start | .registerDeviceNotification | .failed => false
  | _ => true

/-- It is so before the devices are listed, and from then on each of them is expected or has its
    console, and not both. -/
structure Once (s : MonitorContext) : Prop where
  faulted : s.faulted = false
  nodup : s.present.Nodup
  early : s.main.listed = false → s.Untouched
  registered : s.registered = true → s.main.pastRegistration = true
  created : ∀ d, s.created.count d = s.consoles.count d
  once : ∀ d, s.consoles.count d + s.expected.count d ≤ s.present.count d

section Steps

open MonitorContext (count_consoles count_expected)

variable {s s' : MonitorContext} {l : StartupLabel} {devices : List Nat}

/-- In hand is nothing then, either. -/
theorem MonitorContext.Untouched.empty (h : s.Untouched) (hl : s.main.listed = false) :
    s.consoles = [] ∧ s.expected = [] := by
  obtain ⟨ha, hh, hlist, -⟩ := h
  unfold MonitorContext.consoles MonitorContext.expected
  rw [ha, hh, hlist]
  cases hpc : s.main with
  | enumerate rest | insertTailList d rest | waiting => rw [hpc] at hl; cases hl
  | _ => exact ⟨rfl, rfl⟩

theorem once_of_untouched (hf : s.faulted = false) (hn : s.present.Nodup) (h : s.Untouched)
    (hl : s.main.listed = false)
    (hr : s.registered = true → s.main.pastRegistration = true) : Once s where
  faulted := hf
  nodup := hn
  early _ := h
  registered := hr
  created d := by rw [(h.empty hl).1, h.2.2.2]
  once d := by
    rw [(h.empty hl).1, (h.empty hl).2]
    exact Nat.zero_le _

theorem once_init (hd : devices.Nodup) : Once (.init devices) :=
  once_of_untouched rfl hd ⟨rfl, rfl, rfl, rfl⟩ rfl nofun

theorem Once.attachedOnce (h : Once s) : s.AttachedOnce := by
  refine ⟨h.faulted, fun d => ?_⟩
  have hle := h.once d
  have hone := List.nodup_iff_count_le_one.mp h.nodup d
  rw [← h.created d] at hle ⊢
  by_cases hd : d ∈ s.created
  · have hpos := List.count_pos_iff.mpr hd
    rw [if_pos hd]
    omega
  · rw [if_neg hd]
    exact List.count_eq_zero.mpr hd

/-- The devices have been listed: consoles are moved on, or made for devices that are expected. -/
theorem Once.of_listed (h : Once s) (hf : s'.faulted = false) (hp : s'.present = s.present)
    (hl : s'.main.listed = true)
    (hc : ∀ d, s'.created.count d + s.consoles.count d = s'.consoles.count d + s.created.count d)
    (ho : ∀ d, s'.consoles.count d + s'.expected.count d ≤
      s.consoles.count d + s.expected.count d) : Once s' where
  faulted := hf
  nodup := by rw [hp]; exact h.nodup
  early hn := by rw [hl] at hn; cases hn
  registered _ := by
    cases hpc : s'.main <;> rw [hpc] at hl <;> first | rfl | cases hl
  created d := by
    have hbefore := h.created d
    have hnow := hc d
    omega
  once d := by
    have hbefore := h.once d
    have hnow := ho d
    rw [hp]
    omega

theorem Once.monitorMain (h : Once s) (ok : Bool) : Once (s.monitorMain ok) := by
  have hearly := h.early
  have hreg := h.registered
  unfold MonitorContext.monitorMain
  cases hpc : s.main with
  | waiting | failed => exact h
  | start =>
      rw [hpc] at hearly hreg
      cases ok <;>
        exact once_of_untouched h.faulted h.nodup (hearly rfl) rfl fun e => nomatch hreg e
  | registerDeviceNotification =>
      rw [hpc] at hearly hreg
      cases ok with
      | false => exact once_of_untouched h.faulted h.nodup (hearly rfl) rfl fun e => nomatch hreg e
      | true => exact once_of_untouched h.faulted h.nodup (hearly rfl) rfl fun _ => rfl
  | initializeListHead =>
      rw [hpc] at hearly
      obtain ⟨ha, hh, -, hcreated⟩ := hearly rfl
      exact once_of_untouched h.faulted h.nodup ⟨ha, hh, rfl, hcreated⟩ rfl
        fun _ => rfl
  | initializeCriticalSection =>
      rw [hpc] at hearly
      exact once_of_untouched h.faulted h.nodup (hearly rfl) rfl fun _ => rfl
  | getClassDevs =>
      rw [hpc] at hearly
      obtain ⟨ha, hh, hlist, hcreated⟩ := hearly rfl
      cases ok <;>
        exact ⟨h.faulted, h.nodup, nofun, fun _ => rfl, by simp [MonitorContext.consoles, hh,
            hlist, hcreated, MainPc.inHand, HandlerPc.inHand],
          by simp [count_consoles, count_expected, ha, hh, hlist, MainPc.inHand,
            MainPc.rest, HandlerPc.inHand, HandlerPc.rest]⟩
  | enumerate rest =>
      cases rest with
      | nil =>
          refine h.of_listed h.faulted rfl rfl (fun d => ?_) fun d => ?_ <;>
            simp [count_consoles, count_expected, hpc, MainPc.inHand, MainPc.rest]
          omega
      | cons d' rest =>
          cases ok <;> refine h.of_listed h.faulted rfl rfl (fun d => ?_) fun d => ?_ <;>
            simp [count_consoles, count_expected, hpc, MainPc.inHand, MainPc.rest,
              List.count_cons] <;> omega
  | insertTailList d' rest =>
      refine h.of_listed h.faulted rfl rfl (fun d => ?_) fun d => ?_ <;>
        simp [count_consoles, count_expected, hpc, MainPc.inHand, MainPc.rest,
          MonitorContext.insertTailList, List.count_cons]
      omega

theorem Once.monitorCtrlHandler (h : Once s) (ok : Bool)
    (he : s.handler ≠ .idle ∨ s.arrivals ≠ []) : Once (s.monitorCtrlHandler ok) := by
  -- somebody has been told, so the devices have been listed
  have hl : s.main.listed = true := by
    by_contra hn
    obtain ⟨ha, hh, -, -⟩ := h.early (by simpa using hn)
    exact he.elim (fun hne => hne hh) fun hne => hne ha
  have hinit : s.main.initialized = true := by
    cases hpc : s.main <;> rw [hpc] at hl <;> first | rfl | cases hl
  unfold MonitorContext.monitorCtrlHandler
  cases hpc : s.handler with
  | idle =>
      cases ha : s.arrivals with
      | nil => exact h
      | cons d' arrivals =>
          refine h.of_listed h.faulted rfl hl (fun d => ?_) fun d => ?_ <;>
            simp [count_consoles, count_expected, hpc, ha, HandlerPc.inHand,
              HandlerPc.rest, List.count_cons] <;> omega
  | consoleCreate d' =>
      cases ok <;> refine h.of_listed h.faulted rfl hl (fun d => ?_) fun d => ?_ <;>
        simp [count_consoles, count_expected, hpc, HandlerPc.inHand,
          HandlerPc.rest, List.count_cons] <;> omega
  | insertTailList d' =>
      simp only [if_pos hinit]
      refine h.of_listed h.faulted rfl hl (fun d => ?_) fun d => ?_ <;>
        simp [count_consoles, count_expected, hpc, HandlerPc.inHand,
          HandlerPc.rest, MonitorContext.insertTailList, List.count_cons] <;> omega

theorem Once.arrival (h : Once s) {d : Nat} (hd : d ∉ s.present)
    (hw : s.registered = true → s.main.listed = true) : Once (s.arrival d) where
  faulted := h.faulted
  nodup := List.nodup_append.mpr ⟨h.nodup, List.nodup_singleton d, fun j hj k hk e =>
    hd (List.mem_singleton.mp hk ▸ e ▸ hj)⟩
  early hl := by
    have hbefore : s.main.listed = false := hl
    have hreg : s.registered = false := by
      by_contra hr
      rw [hw (by simpa using hr)] at hbefore
      cases hbefore
    obtain ⟨ha, hrest⟩ := h.early hl
    exact ⟨by simp [MonitorContext.arrival, hreg, ha], hrest⟩
  registered := h.registered
  created := h.created
  once d' := by
    have hle := h.once d'
    have harrivals : (s.arrival d).arrivals.count d' ≤ s.arrivals.count d' + [d].count d' := by
      by_cases hr : s.registered = true <;> simp [MonitorContext.arrival, hr, List.count_append]
    have hpresent : (s.arrival d).present.count d' = s.present.count d' + [d].count d' :=
      List.count_append
    rw [s.count_expected] at hle
    rw [hpresent, count_expected]
    show s.consoles.count d' + (s.main.rest.count d' + s.handler.rest.count d' +
      (s.arrival d).arrivals.count d') ≤ s.present.count d' + [d].count d'
    omega

/-- **Kept by every step outside the window.** -/
theorem once_next (h : Once s) (he : startupEnabled s l = true) (hw : OutsideWindow s l) :
    Once (startupNext s l) := by
  cases l with
  | monitorMain ok => exact h.monitorMain ok
  | monitorCtrlHandler ok =>
      refine h.monitorCtrlHandler ok ?_
      simp only [startupEnabled, Bool.and_eq_true, Bool.or_eq_true, decide_eq_true_eq] at he
      exact he.2
  | arrival d =>
      refine h.arrival ?_ hw
      simp only [startupEnabled, Bool.and_eq_true, decide_eq_true_eq] at he
      exact he.2

end Steps

/-! ## 3. An arrival in the window -/

section Window

variable {s t : MonitorContext} {l : StartupLabel}

/-- What may happen next. -/
theorem can (he : startupEnabled s l = true) :
    Reach startupSystem (fun _ _ => True) s (startupNext s l) :=
  .step (S := startupSystem) l .start he trivial

theorem can_run (s : MonitorContext) (ls : List StartupLabel)
    (h : Admits startupSystem (fun _ _ => True) s ls) :
    Reach startupSystem (fun _ _ => True) s (runs startupSystem s ls) :=
  .of_admits ls .start h

/-- `ConsoleCreate` can fail for all the devices up to the next one. -/
theorem can_skip (hf : s.faulted = false) (skipped rest : List Nat)
    (hpc : s.main = .enumerate (skipped ++ rest)) :
    Reach startupSystem (fun _ _ => True) s { s with main := .enumerate rest } := by
  induction skipped generalizing s with
  | nil =>
      have hsame : ({ s with main := .enumerate rest } : MonitorContext) = s := by
        rw [show MainPc.enumerate rest = s.main from hpc.symm]
      rw [hsame]
      exact .start
  | cons d skipped ih =>
      have hone := can (s := s) (l := .monitorMain false) (by simp [startupEnabled, hf, hpc])
      have hnext : startupNext s (.monitorMain false) =
          { s with main := .enumerate (skipped ++ rest) } := by
        simp [startupNext, MonitorContext.monitorMain, hpc]
      rw [hnext] at hone
      exact hone.trans (ih (s := { s with main := .enumerate (skipped ++ rest) }) hf rfl)

/-- A device that is present when the devices are listed, and that the handler has been told of. -/
theorem can_attach_twice {d : Nat} {skipped : List Nat} (hpc : s.main = .getClassDevs)
    (hf : s.faulted = false) (hp : s.present = skipped ++ [d]) (ha : s.arrivals = [d])
    (hh : s.handler = .idle) : ∃ s', Reach startupSystem (fun _ _ => True) s s' ∧
      s'.main = .waiting ∧ 2 ≤ s'.list.count d := by
  -- MonitorMain lists it, and the handler attaches it
  let handled : MonitorContext :=
    { s with
      main := .enumerate (skipped ++ [d]), arrivals := [], list := s.list ++ [d],
      listCount := s.listCount + 1, created := s.created ++ [d] }
  have hhandled : Reach startupSystem (fun _ _ => True) s handled := by
    have hrun := can_run s (.monitorMain true :: List.replicate 3 (.monitorCtrlHandler true))
      (by simp [Admits, startupSystem, startupEnabled, startupNext, MonitorContext.monitorMain,
        MonitorContext.monitorCtrlHandler, hpc, hf, ha, hh])
    simpa [runs, startupSystem, startupNext, MonitorContext.monitorMain, handled,
      MonitorContext.monitorCtrlHandler, MonitorContext.insertTailList, MainPc.initialized, hpc, ha,
      hh, hp] using hrun
  -- MonitorMain comes to it, and attaches it again
  have hskip := can_skip (s := handled) hf skipped [d] rfl
  have hlast := can_run { handled with main := .enumerate [d] }
    (List.replicate 3 (.monitorMain true))
    (by simp [Admits, startupSystem, startupEnabled, startupNext, MonitorContext.monitorMain,
      MonitorContext.insertTailList, handled, hf])
  refine ⟨_, (hhandled.trans hskip).trans hlast, ?_, ?_⟩
  · simp [runs, startupSystem, startupNext, MonitorContext.monitorMain]
  · simp [runs, startupSystem, startupNext, MonitorContext.monitorMain,
      MonitorContext.insertTailList, handled]

/-- Once registered, `MonitorMain` comes to `SetupDiGetClassDevs` whatever its calls return. -/
theorem can_list (hf : s.faulted = false) (hpast : s.main.pastRegistration = true)
    (hl : s.main.listed = false) : ∃ list, Reach startupSystem (fun _ _ => True) s
      { s with main := .getClassDevs, list := list } := by
  cases hpc : s.main with
  | start | registerDeviceNotification | failed => rw [hpc] at hpast; cases hpast
  | enumerate rest | insertTailList d rest | waiting => rw [hpc] at hl; cases hl
  | getClassDevs =>
      refine ⟨s.list, ?_⟩
      rw [← hpc]
      exact .start
  | initializeCriticalSection =>
      have hone := can (s := s) (l := .monitorMain true) (by simp [startupEnabled, hf, hpc])
      simp only [startupNext, MonitorContext.monitorMain, hpc] at hone
      exact ⟨s.list, hone⟩
  | initializeListHead =>
      have hone := can (s := s) (l := .monitorMain true) (by simp [startupEnabled, hf, hpc])
      simp only [startupNext, MonitorContext.monitorMain, hpc] at hone
      have htwo := hone.step (.monitorMain true) (by simp [startupSystem, startupEnabled, hf])
        trivial
      exact ⟨[], htwo⟩

/-- **Any arrival in the window can lead there.** -/
theorem twice_of_not (h : Once s) (he : startupEnabled s l = true) (hw : ¬OutsideWindow s l) :
    ∃ s', Reach startupSystem (fun _ _ => True) (startupNext s l) s' ∧ s'.main = .waiting ∧
      ∃ d, 2 ≤ s'.list.count d := by
  cases l with
  | arrival d =>
      obtain ⟨hreg, hl⟩ := Classical.not_imp.mp hw
      have hl : s.main.listed = false := by simpa using hl
      obtain ⟨ha, hh, -, -⟩ := h.early hl
      have hf : (s.arrival d).faulted = false := h.faulted
      have ha' : (s.arrival d).arrivals = [d] := by simp [MonitorContext.arrival, hreg, ha]
      -- the listing is still to come
      obtain ⟨list, hlist⟩ := can_list (s := s.arrival d) hf (h.registered hreg) hl
      obtain ⟨s', hr, hwaiting, htwice⟩ := can_attach_twice
        (s := { s.arrival d with main := .getClassDevs, list := list }) rfl hf rfl ha' hh
      exact ⟨s', hlist.trans hr, hwaiting, d, htwice⟩
  | _ => exact absurd trivial hw

end Window

/-! ## 4. Every device attached once -/

/-- On the list, once start-up is over and the handler has inserted what it made. -/
theorem MonitorContext.AttachedOnce.list {s : MonitorContext} (h : s.AttachedOnce)
    (hm : s.main = .waiting) (hh : s.handler = .idle) (d : Nat) :
    s.list.count d = if d ∈ s.created then 1 else 0 := by
  have hcount := h.2 d
  simpa [MonitorContext.consoles, hm, hh, MainPc.inHand, HandlerPc.inHand] using hcount

/-- **Every device is attached once, as long as none arrives between the registration and the
    listing; and any arrival there can end with a device that is attached twice.** -/
theorem devices_attached_once {devices : List Nat} {s : MonitorContext} (hd : devices.Nodup)
    (h : Reach startupSystem OutsideWindow (.init devices) s) :
    (s.AttachedOnce ∧ (s.main = .waiting → s.handler = .idle →
      ∀ d, s.list.count d = if d ∈ s.created then 1 else 0)) ∧
    ∀ l, startupEnabled s l = true → ¬OutsideWindow s l →
      ∃ s', Reach startupSystem (fun _ _ => True) (startupNext s l) s' ∧ s'.main = .waiting ∧
        ∃ d, 2 ≤ s'.list.count d := by
  have hI : Once s := h.invariant (once_init hd) fun _ _ => once_next
  exact ⟨⟨hI.attachedOnce, hI.attachedOnce.list⟩, fun l => twice_of_not hI⟩

/-- One device is there, and another arrives when start-up is over. -/
def arrivesLater : List StartupLabel :=
  List.replicate 8 (.monitorMain true) ++ [.arrival 2] ++
    List.replicate 3 (.monitorCtrlHandler true)

theorem devices_attached_once_later :
    (runs startupSystem (.init [1]) arrivesLater).list.count 2 = 1 :=
  ((devices_attached_once (by decide)
    (Reach.of_admits arrivesLater .start (by decide))).1.2 (by decide) (by decide) 2).trans
      (by decide)

/-- A device arrives when `MonitorMain` has registered, and both attach it. -/
theorem device_attached_twice : ∃ s, Reach startupSystem (fun _ _ => True) (.init []) s ∧
    s.main = .waiting ∧ s.handler = .idle ∧ s.list = [1, 1] ∧ ¬s.AttachedOnce := by
  refine ⟨_, Reach.of_admits
    (List.replicate 2 (.monitorMain true) ++ [.arrival 1] ++ List.replicate 3 (.monitorMain true) ++
      List.replicate 3 (.monitorCtrlHandler true) ++ List.replicate 3 (.monitorMain true))
    .start (by decide), by decide, by decide, by decide, fun h => ?_⟩
  have hcount := h.2 1
  revert hcount
  decide

/-- A device arrives there, and the handler comes to the list before it is initialised. -/
example : ∃ s, Reach startupSystem (fun _ _ => True) (.init []) s ∧
    s.faulted = true :=
  ⟨_, Reach.of_admits
    (List.replicate 2 (.monitorMain true) ++ [.arrival 1] ++
      List.replicate 3 (.monitorCtrlHandler true)) .start (by decide), by decide⟩

end Xencons.Monitor
