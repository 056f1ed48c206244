import Xencons.Lib.Waiting
import Xencons.Monitor.Machine

/-!
# A client that does not read, and `ConsoleDestroy` (monitor.c)

`DeviceThread` writes to the pipes inside the critical section, and its `WriteFile` returns when the
client has read enough. `ConsoleDestroy` needs that critical section, and so does a connection that
ends, for which it waits; it waits for the `FlushFileBuffers` of such a connection and for
`DeviceThread` as well. The events that end these threads are looked at in their reads only.

* `WaitsFor`, `BlockedOn` -- who waits for whom, and who is blocked on a client;
* `waiting` -- only the blocked thread and its client can end that, so what is stuck stays so:
  `Deadlocked.stays`;
* `Flows` -- the steps that leave no thread blocked that `ConsoleDestroy` depends on:
  `flowing_next`, and `not_flowing_of_not`, `hangs_of_not_flowing`, what any other step leads to;
* `shutdown_proceeds` -- the result.
-/

namespace Xencons.Monitor

open Lib Function MonitorConsole

/-! ## 1. Who waits for whom -/

/-- A write of `n` bytes does not return: there is no room, and the client does not read. -/
def Pipe.Stalled (p : Pipe) (n : Nat) : Prop :=
  p.opened = true ∧ p.client = .stopped ∧ MAXIMUM_BUFFER_SIZE < p.unread + n

/-- A flush does not return: there is something to be read, and the client does not read. -/
def Pipe.Unflushed (p : Pipe) : Prop :=
  p.opened = true ∧ p.client = .stopped ∧ p.unread ≠ 0

/-- A thread is blocked on client `i`. -/
def BlockedOn (s : MonitorConsole) (i : Nat) : Party → Prop
  | .device => ∃ n rest, s.device = .writeFile n i rest ∧ (s.pipe i).Stalled n
  | .connection c => c = i ∧ (s.connection i).pc = .flushFileBuffers ∧ (s.pipe i).Unflushed
  | _ => False

/-- `ConsoleDestroy` waits for the connection. -/
def DestroyPc.joins (c : Nat) : DestroyPc → Bool
  | .joinPipes threads => c ∈ threads
  | _ => false

/-- It waits for the lock that another one holds, or for a thread that has not ended. -/
def WaitsFor (s : MonitorConsole) : Party → Party → Prop
  | .destroy, .executable => s.destroy = .joinExecutable ∧ s.executable ≠ .ended
  | .destroy, .server => (∃ threads, s.destroy = .joinPipes threads) ∧ s.server ≠ .ended
  | .destroy, .connection c => s.destroy.joins c = true ∧ (s.connection c).pc.running = true
  | .destroy, .device => s.destroy = .copy ∧ s.device.locked = true ∨
      s.destroy = .joinDevice ∧ s.device ≠ .ended
  | .connection c, .device => s.device.locked = true ∧
      ((s.connection c).pc = .insertTailList ∨ (s.connection c).pc = .removeEntryList)
  | _, _ => False

/-- **`ConsoleDestroy` waits, over whatever chain of others, for a thread that is blocked on
    client `i`.** -/
def MonitorConsole.Deadlocked (s : MonitorConsole) (i : Nat) : Prop :=
  Stuck (WaitsFor s) (BlockedOn s i) .destroy

section Waits

variable {s : MonitorConsole} {l : ConsoleLabel} {p q : Party} {c i : Nat}

/-- Who waits does not move. -/
theorem waitsFor_idle (h : WaitsFor s p q) (he : consoleEnabled s l = true) : l.party ≠ p := by
  rintro rfl
  cases l with
  | connectionThread c ok =>
      cases q with
      | device =>
          obtain ⟨hlocked, hpc | hpc⟩ := h <;>
            simp [consoleEnabled, connectionEnabled, hpc, hlocked] at he
      | _ => exact h
  | consoleDestroy ok =>
      cases q with
      | executable =>
          obtain ⟨hpc, hne⟩ := h
          simp [consoleEnabled, destroyEnabled, hpc, hne] at he
      | server =>
          obtain ⟨⟨threads, hpc⟩, hne⟩ := h
          simp [consoleEnabled, destroyEnabled, hpc, hne] at he
      | device =>
          rcases h with ⟨hpc, hlocked⟩ | ⟨hpc, hne⟩
          · simp [consoleEnabled, destroyEnabled, hpc, hlocked] at he
          · simp [consoleEnabled, destroyEnabled, hpc, hne] at he
      | connection c =>
          obtain ⟨hjoins, hrun⟩ := h
          cases hpc : s.destroy with
          | joinPipes threads =>
              have hmem : c ∈ threads := by simpa [hpc, DestroyPc.joins] using hjoins
              simp only [consoleEnabled, destroyEnabled, hpc, Bool.and_eq_true, List.all_eq_true,
                decide_eq_true_eq] at he
              rw [he.2 c hmem] at hrun
              cases hrun
          | _ => simp [hpc, DestroyPc.joins] at hjoins
      | _ => exact h
  | _ => cases q <;> exact h

/-- And waits on until the one it waits for moves. -/
theorem waitsFor_next (hn : Numbered s) (h : WaitsFor s p q) (hp : l.party ≠ p)
    (hq : l.party ≠ q) : WaitsFor (consoleNext s l) p q := by
  cases p with
  | destroy =>
      have hd := destroy_of_other (s := s) hp
      cases q with
      | executable => exact ⟨hd ▸ h.1, (executable_of_other hq).symm ▸ h.2⟩
      | server => exact ⟨hd ▸ h.1, (server_of_other hq).symm ▸ h.2⟩
      | device =>
          unfold WaitsFor
          rw [hd, device_of_other hq]
          exact h
      | connection c =>
          refine ⟨hd ▸ h.1, ?_⟩
          rw [hn.pc_of_other (fun e => by have hr := h.2; rw [e] at hr; cases hr) hq]
          exact h.2
      | _ => exact h
  | connection c =>
      cases q with
      | device =>
          obtain ⟨hlocked, hpc⟩ := h
          refine ⟨by rw [device_of_other hq]; exact hlocked, ?_⟩
          have hthere : (s.connection c).pc ≠ .absent := by
            rcases hpc with hpc | hpc <;> rw [hpc] <;> nofun
          rwa [hn.pc_of_other hthere hp]
      | _ => exact h
  | _ => cases q <;> exact h

/-- Who is blocked does not move. -/
theorem blockedOn_idle (h : BlockedOn s i p) (he : consoleEnabled s l = true) : l.party ≠ p := by
  rintro rfl
  cases l with
  | deviceThread ok n =>
      obtain ⟨n', rest, hpc, hopened, hstopped, hfull⟩ := h
      have hnot : ¬(s.pipe i).unread + n' ≤ MAXIMUM_BUFFER_SIZE := by omega
      cases ok <;>
        simp [consoleEnabled, deviceEnabled, hpc, Pipe.connected, hopened, hstopped, hnot] at he
  | connectionThread c ok =>
      obtain ⟨rfl, hpc, hopened, hstopped, hunread⟩ := h
      simp [consoleEnabled, connectionEnabled, hpc, Pipe.connected, hopened, hstopped,
        hunread] at he
  | _ => exact h

/-- `DeviceThread` only adds to what is unread. -/
theorem deviceThread_pipe (ok : Bool) (n : Nat) :
    (s.deviceThread ok n).pipe c = s.pipe c ∨ ∃ n' rest, s.device = .writeFile n' c rest ∧
      (s.deviceThread ok n).pipe c = { s.pipe c with unread := (s.pipe c).unread + n' } := by
  unfold MonitorConsole.deviceThread
  cases hpc : s.device with
  | broadcast n rest => cases rest <;> exact .inl rfl
  | writeFile n' d rest =>
      cases ok with
      | false => exact .inl rfl
      | true =>
          by_cases hc : c = d
          · subst hc
            exact .inr ⟨n', rest, rfl, by simp [MonitorConsole.setPipe]⟩
          · exact .inl (by simp [MonitorConsole.setPipe, hc])
  | _ => exact .inl rfl

/-- A connection on the list has its pipe open. -/
theorem connectionThread_pipe (hc : (s.connection c).pc ≠ .disconnectNamedPipe) (ok : Bool) :
    (s.connectionThread c ok).pipe = s.pipe := by
  unfold MonitorConsole.connectionThread
  cases hpc : (s.connection c).pc with
  | disconnectNamedPipe => exact absurd hpc hc
  | _ => rfl

/-- A connection that `DeviceThread` is writing to. -/
theorem Listed.writing (h : Listed s) {n : Nat} {rest : List Nat}
    (hd : s.device = .writeFile n c rest) : (s.connection c).pc.linked = true :=
  (h.mem c).mp (h.cursor c (by rw [hd]; exact List.mem_cons_self))

theorem ConnectionPc.ne_of_linked {pc pc' : ConnectionPc} (h : pc.linked = true)
    (h' : pc'.linked = false) : pc ≠ pc' := fun e => by rw [e, h'] at h; cases h

/-- Only the client ends that. -/
theorem blockedOn_next (hn : Numbered s) (hl : Listed s) (h : BlockedOn s i p)
    (hp : l.party ≠ p) (hi : l.party ≠ .client i) : BlockedOn (consoleNext s l) i p := by
  cases p with
  | device =>
      obtain ⟨n, rest, hpc, hstalled⟩ := h
      have hlinked := hl.writing hpc
      refine ⟨n, rest, (device_of_other hp).trans hpc, ?_⟩
      by_cases hc : l.party = .connection i
      · cases l with
        | connectionThread c ok =>
            cases hc
            show ((s.connectionThread i ok).pipe i).Stalled n
            rwa [connectionThread_pipe (ConnectionPc.ne_of_linked hlinked rfl)]
        | _ => cases hc
      · rwa [hn.pipe_of_other (ConnectionPc.ne_of_linked hlinked rfl) hc hp hi]
  | connection c =>
      obtain ⟨rfl, hpc, hunflushed⟩ := h
      have hthere : (s.connection c).pc ≠ .absent := by rw [hpc]; nofun
      refine ⟨rfl, (hn.pc_of_other hthere hp).trans hpc, ?_⟩
      by_cases hd : l.party = .device
      · cases l with
        | deviceThread ok n =>
            show ((s.deviceThread ok n).pipe c).Unflushed
            rcases deviceThread_pipe (s := s) (c := c) ok n with hsame | ⟨n', rest, -, hmore⟩
            · rwa [hsame]
            · obtain ⟨hopened, hstopped, hunread⟩ := hunflushed
              rw [hmore]
              exact ⟨hopened, hstopped, fun e => hunread (by simp only at e; omega)⟩
        | _ => cases hd
      · rwa [hn.pipe_of_other hthere hp hd hi]
  | _ => exact h

/-- **Nobody but the blocked thread and its client ends these waits.** -/
theorem waiting (i : Nat) : Waiting consoleSystem (fun _ l => l.party ≠ .client i)
    (fun s => Numbered s ∧ Listed s) ConsoleLabel.party WaitsFor (fun s => BlockedOn s i) where
  waits_idle _ _ _ _ _ h he := waitsFor_idle h he
  waits_next _ _ _ _ hj h _ _ hp hq := waitsFor_next hj.1 h hp hq
  blocked_idle _ _ _ _ h he := blockedOn_idle h he
  blocked_next _ _ _ hj h _ hi hp := blockedOn_next hj.1 hj.2 h hp hi

theorem orderly_next (h : Numbered s ∧ Listed s) (he : consoleEnabled s l = true) :
    Numbered (consoleNext s l) ∧ Listed (consoleNext s l) :=
  ⟨numbered_next h.1 he, listed_next h.2 h.1 he⟩

/-- **A deadlock is for ever**: as long as client `i` does nothing, `ConsoleDestroy` stays where it
    is. -/
theorem MonitorConsole.Deadlocked.stays {s' : MonitorConsole} (h : s.Deadlocked i)
    (hj : Numbered s ∧ Listed s)
    (hr : Reach consoleSystem (fun _ l => l.party ≠ .client i) s s') :
    s'.destroy = s.destroy := by
  exact Stuck.still (waiting i) (fun _ _ => orderly_next) hj h (fun _ _ => destroy_of_other) hr

end Waits

/-! ## 2. The steps that block nobody -/

/-- `DeviceThread` begins a write. -/
def deviceFlows (s : MonitorConsole) : DevicePc → Prop
  | .broadcast n (c :: _) => n ≠ 0 → ¬(s.pipe c).Stalled n
  | _ => True

/-- A connection that `ConsoleDestroy` waits for begins its flush. -/
def connectionFlows (s : MonitorConsole) (c : Nat) : ConnectionPc → Prop
  | .removeEntryList => s.destroy.joins c = true → ¬(s.pipe c).Unflushed
  | _ => True

/-- `ConsoleDestroy` begins to wait for connections. -/
def destroyFlows (s : MonitorConsole) : DestroyPc → Prop
  | .waitForPipes handles => s.waitable handles = true → ∀ c ∈ handles.connections,
      (s.connection c).pc = .flushFileBuffers → ¬(s.pipe c).Unflushed
  | _ => True

/-- A client stops to read while `DeviceThread` writes to it. -/
def stopFlows (s : MonitorConsole) (i : Nat) : DevicePc → Prop
  | .writeFile n c _ => c = i → ¬Pipe.Stalled { s.pipe i with client := .stopped } n
  | _ => True

/-- **The step leaves no thread blocked that `ConsoleDestroy` depends on**: a write by
    `DeviceThread` has room or a client that reads, when it begins and as long as it lasts, and so
    has the flush of a connection that `ConsoleDestroy` waits for. -/
def Flows (s : MonitorConsole) : ConsoleLabel → Prop
  | .deviceThread _ _ => deviceFlows s s.device
  | .connectionThread c _ => connectionFlows s c (s.connection c).pc
  | .consoleDestroy _ => destroyFlows s s.destroy
  | .clientStop i => stopFlows s i s.device ∧
      ((s.connection i).pc = .flushFileBuffers → s.destroy.joins i = true →
        ¬Pipe.Unflushed { s.pipe i with client := .stopped })
  | _ => True

/-- `DeviceThread` is not blocked, and no connection that `ConsoleDestroy` waits for is. -/
structure Flowing (s : MonitorConsole) : Prop where
  device : ∀ i, ¬BlockedOn s i .device
  connection : ∀ c, s.destroy.joins c = true → ¬BlockedOn s c (.connection c)

section Flow

variable {s : MonitorConsole} {l : ConsoleLabel}

theorem flowing_init : Flowing .init where
  device i := by
    rintro ⟨n, rest, hpc, -⟩
    cases hpc
  connection c h := by cases h

/-- Then there is no deadlock: `ConsoleDestroy` waits for connections it has joined, for the other
    threads, and those for `DeviceThread`. -/
theorem Flowing.not_deadlocked (h : Flowing s) (i : Nat) : ¬s.Deadlocked i := by
  let free : Party → Prop := fun p => ∀ c, p = .connection c → s.destroy.joins c = true
  have hfree : free .destroy := fun c e => by cases e
  refine not_stuck hfree (fun p q _ hw c e => ?_) fun p hf hb => ?_
  · subst e
    cases p with
    | destroy => exact hw.1
    | _ => exact hw.elim
  · cases p with
    | device => exact h.device i hb
    | connection c =>
        obtain ⟨rfl, hb⟩ := hb
        exact h.connection c (hf c rfl) ⟨rfl, hb⟩
    | _ => exact hb

/-- `DeviceThread` is in a write that it has begun, or was in it before. -/
theorem deviceThread_writing {ok : Bool} {n n' c : Nat} {rest : List Nat}
    (h : (s.deviceThread ok n).device = .writeFile n' c rest) :
    s.device = .broadcast n' (c :: rest) ∧ n' ≠ 0 ∧ (s.deviceThread ok n).pipe = s.pipe := by
  unfold MonitorConsole.deviceThread at h ⊢
  cases hpc : s.device with
  | broadcast m list =>
      rw [hpc] at h
      cases list with
      | nil => cases h
      | cons d list =>
          by_cases hm : m = 0
          · simp [hm] at h
          · simp only [if_neg hm] at h
            cases h
            exact ⟨rfl, hm, rfl⟩
  | writeFile m d list =>
      rw [hpc] at h
      cases ok <;> cases h
  | ended => rw [hpc] at h; simp [hpc] at h
  | start | wait => rw [hpc] at h; cases ok <;> cases h
  | _ => rw [hpc] at h; cases h

/-- A connection that is in its flush has begun it, or was in it before. -/
theorem connectionThread_flushing {ok : Bool} {c : Nat}
    (h : ((s.connectionThread c ok).connection c).pc = .flushFileBuffers) :
    (s.connection c).pc = .removeEntryList ∧ (s.connectionThread c ok).pipe = s.pipe := by
  unfold MonitorConsole.connectionThread at h ⊢
  cases hpc : (s.connection c).pc <;> rw [hpc] at h <;> cases ok <;>
    simp_all [MonitorConsole.setPc, MonitorConsole.setConnection, MonitorConsole.setPipe]

/-- A connection that `ConsoleDestroy` joins was among the handles of a call that did not fail. -/
theorem consoleDestroy_joins {ok : Bool} {c : Nat}
    (h : (s.consoleDestroy ok).destroy.joins c = true) : ∃ handles,
      s.destroy = .waitForPipes handles ∧ s.waitable handles = true ∧ c ∈ handles.connections := by
  cases hpc : s.destroy with
  | waitForPipes handles =>
      by_cases hw : s.waitable handles = true
      · simp only [MonitorConsole.consoleDestroy, hpc, if_pos hw, DestroyPc.joins,
          decide_eq_true_eq] at h
        exact ⟨handles, rfl, hw, h⟩
      · simp [MonitorConsole.consoleDestroy, hpc, hw, DestroyPc.joins] at h
  | setServerEvent handles =>
      cases handles <;> simp [MonitorConsole.consoleDestroy, hpc, DestroyPc.joins] at h
  | _ => simp [MonitorConsole.consoleDestroy, hpc, DestroyPc.joins] at h

/-- A step of the client of pipe `j`. -/
theorem Flowing.client (h : Flowing s) {j : Nat} {p : Pipe} {s' : MonitorConsole}
    (hd : s'.device = s.device) (hc : s'.connection = s.connection) (hj : s'.destroy = s.destroy)
    (hp : s'.pipe = update s.pipe j p)
    (hdev : ∀ n rest, s.device = .writeFile n j rest → ¬p.Stalled n)
    (hconn : (s.connection j).pc = .flushFileBuffers → s.destroy.joins j = true →
      ¬p.Unflushed) : Flowing s' where
  device i := by
    rintro ⟨n, rest, hpc, hstalled⟩
    rw [hd] at hpc
    rw [hp] at hstalled
    by_cases hi : i = j
    · subst hi
      rw [update_self] at hstalled
      exact hdev n rest hpc hstalled
    · rw [update_of_ne hi] at hstalled
      exact h.device i ⟨n, rest, hpc, hstalled⟩
  connection c := by
    rintro hjoins ⟨-, hpc, hunflushed⟩
    rw [hj] at hjoins
    rw [hc] at hpc
    rw [hp] at hunflushed
    by_cases hi : c = j
    · subst hi
      rw [update_self] at hunflushed
      exact hconn hpc hjoins hunflushed
    · rw [update_of_ne hi] at hunflushed
      exact h.connection c hjoins ⟨rfl, hpc, hunflushed⟩

/-- And of one that reads, or has gone. -/
theorem Flowing.client_reads (h : Flowing s) {j : Nat} {p : Pipe} {s' : MonitorConsole}
    (hd : s'.device = s.device) (hc : s'.connection = s.connection) (hj : s'.destroy = s.destroy)
    (hp : s'.pipe = update s.pipe j p) (hr : p.client ≠ .stopped) : Flowing s' :=
  h.client hd hc hj hp (fun _ _ _ hs => hr hs.2.1) fun _ _ hs => hr hs.2.1

theorem Flowing.deviceThread (h : Flowing s) (hl : Listed s) {ok : Bool} {n : Nat}
    (hf : deviceFlows s s.device) : Flowing (s.deviceThread ok n) where
  device i := by
    rintro ⟨n', rest, hpc, hstalled⟩
    obtain ⟨hbefore, hn', hpipe⟩ := deviceThread_writing hpc
    rw [hbefore] at hf
    rw [hpipe] at hstalled
    exact hf hn' hstalled
  connection c := by
    obtain ⟨-, -, hdestroy, hconn⟩ := deviceThread_frame (s := s) ok n
    rintro hjoins ⟨-, hpc, hunflushed⟩
    rw [hdestroy] at hjoins
    rw [hconn] at hpc
    rcases deviceThread_pipe (s := s) (c := c) ok n with hsame | ⟨n', rest, hwrite, -⟩
    · rw [hsame] at hunflushed
      exact h.connection c hjoins ⟨rfl, hpc, hunflushed⟩
    · -- it writes to connections on the list only
      have hlinked := hl.writing hwrite
      rw [hpc] at hlinked
      cases hlinked

theorem Flowing.connectionThread (h : Flowing s) (hl : Listed s) {d : Nat} {ok : Bool}
    (hf : connectionFlows s d (s.connection d).pc) : Flowing (s.connectionThread d ok) where
  device i := by
    rintro ⟨n, rest, hpc, hstalled⟩
    rw [(connectionThread_frame d ok).2.1] at hpc
    have hlinked := hl.writing hpc
    refine h.device i ⟨n, rest, hpc, ?_⟩
    by_cases hd : i = d
    · subst hd
      rwa [connectionThread_pipe (ConnectionPc.ne_of_linked hlinked rfl)] at hstalled
    · rwa [(connectionThread_of_ne hd ok).2] at hstalled
  connection c := by
    rintro hjoins ⟨-, hpc, hunflushed⟩
    rw [(connectionThread_frame d ok).2.2.2] at hjoins
    by_cases hd : c = d
    · subst hd
      obtain ⟨hbefore, hpipe⟩ := connectionThread_flushing hpc
      rw [hbefore] at hf
      rw [hpipe] at hunflushed
      exact hf hjoins hunflushed
    · rw [(connectionThread_of_ne hd ok).1] at hpc
      rw [(connectionThread_of_ne hd ok).2] at hunflushed
      exact h.connection c hjoins ⟨rfl, hpc, hunflushed⟩

theorem Flowing.serverThread (h : Flowing s) (hn : Numbered s) (hl : Listed s) {ok : Bool} :
    Flowing (s.serverThread ok) where
  device i := by
    rintro ⟨n, rest, hpc, hstalled⟩
    rw [(serverThread_frame ok).1] at hpc
    have hthere : (s.connection i).pc ≠ .absent := ConnectionPc.ne_of_linked (hl.writing hpc) rfl
    have hpipe : (s.serverThread ok).pipe i = s.pipe i :=
      hn.pipe_of_other (l := .serverThread ok) hthere nofun nofun nofun
    rw [hpipe] at hstalled
    exact h.device i ⟨n, rest, hpc, hstalled⟩
  connection c := by
    rintro hjoins ⟨-, hpc, hunflushed⟩
    rw [(serverThread_frame ok).2.2] at hjoins
    rcases serverThread_pc (s := s) c ok with hsame | ⟨-, -, hnew⟩
    · rw [hsame] at hpc
      have hpipe : (s.serverThread ok).pipe c = s.pipe c :=
        hn.pipe_of_other (l := .serverThread ok) (by rw [hpc]; nofun) nofun nofun nofun
      rw [hpipe] at hunflushed
      exact h.connection c hjoins ⟨rfl, hpc, hunflushed⟩
    · rw [hnew] at hpc
      cases hpc

theorem Flowing.consoleDestroy (h : Flowing s) {ok : Bool} (hf : destroyFlows s s.destroy) :
    Flowing (s.consoleDestroy ok) := by
  obtain ⟨-, hdevice, -, hconn, hpipe⟩ := consoleDestroy_frame (s := s) ok
  refine ⟨fun i => ?_, fun c hjoins => ?_⟩
  · rintro ⟨n, rest, hpc, hstalled⟩
    rw [hdevice] at hpc
    rw [hpipe] at hstalled
    exact h.device i ⟨n, rest, hpc, hstalled⟩
  · rintro ⟨-, hpc, hunflushed⟩
    rw [hconn] at hpc
    rw [hpipe] at hunflushed
    obtain ⟨handles, hbefore, hw, hmem⟩ := consoleDestroy_joins hjoins
    rw [hbefore] at hf
    exact hf hw c hmem hpc hunflushed

/-- **Kept by every such step.** -/
theorem flowing_next (h : Flowing s) (hn : Numbered s) (hl : Listed s)
    (he : consoleEnabled s l = true) (hf : Flows s l) : Flowing (consoleNext s l) := by
  cases l with
  | serverThread ok => exact h.serverThread hn hl
  | connectionThread d ok => exact h.connectionThread hl hf
  | deviceThread ok n => exact h.deviceThread hl hf
  | executableThread ok =>
      obtain ⟨-, hdevice, hdestroy, hconn, hpipe⟩ := executableThread_frame (s := s) ok
      refine ⟨fun i => ?_, fun c hjoins => ?_⟩
      · rintro ⟨n, rest, hpc, hstalled⟩
        exact h.device i ⟨n, rest, hdevice ▸ hpc, hpipe ▸ hstalled⟩
      · rintro ⟨-, hpc, hunflushed⟩
        exact h.connection c (hdestroy ▸ hjoins) ⟨rfl, hconn ▸ hpc, hpipe ▸ hunflushed⟩
  | consoleDestroy ok => exact h.consoleDestroy hf
  | clientOpen i | clientResume i | clientClose i => exact h.client_reads rfl rfl rfl rfl nofun
  | clientRead i n =>
      refine h.client_reads rfl rfl rfl rfl fun e => ?_
      simp [consoleEnabled, show (s.pipe i).client = .stopped from e] at he
  | clientStop i =>
      obtain ⟨hdev, hconn⟩ := hf
      refine h.client rfl rfl rfl rfl (fun n rest hpc => ?_) hconn
      rw [hpc] at hdev
      exact hdev rfl

/-- `ConsoleDestroy` is behind its wait for `DeviceThread`. -/
def DestroyPc.late : DestroyPc → Bool
  | .closeDeviceEvent | .free | .freed => true
  | _ => false

/-- Then that has ended. -/
theorem late_next (h : s.destroy.late = true → s.device = .ended)
    (he : consoleEnabled s l = true) :
    (consoleNext s l).destroy.late = true → (consoleNext s l).device = .ended := by
  intro hlate
  by_cases hd : l.party = .destroy
  · cases l with
    | consoleDestroy ok =>
        rw [device_of_other (by nofun)]
        cases hpc : s.destroy with
        | joinDevice => simpa [consoleEnabled, destroyEnabled, hpc] using he
        | closeDeviceEvent | free | freed => exact h (by rw [hpc]; rfl)
        | setServerEvent handles =>
            cases handles <;>
              simp [consoleNext, MonitorConsole.consoleDestroy, hpc, DestroyPc.late] at hlate
        | waitForPipes handles =>
            by_cases hw : s.waitable handles = true <;>
              simp [consoleNext, MonitorConsole.consoleDestroy, hpc, hw, DestroyPc.late] at hlate
        | _ => simp [consoleNext, MonitorConsole.consoleDestroy, hpc, DestroyPc.late] at hlate
    | _ => cases hd
  · rw [destroy_of_other hd] at hlate
    have hended := h hlate
    by_cases hdev : l.party = .device
    · cases l with
      | deviceThread ok n => simp [consoleEnabled, deviceEnabled, hended] at he
      | _ => cases hdev
    · rwa [device_of_other hdev]

/-- `ConsoleDestroy` does not return, as long as client `i` does nothing. -/
def MonitorConsole.Hangs (s : MonitorConsole) (i : Nat) : Prop :=
  ∀ s', Reach consoleSystem (fun _ l => l.party ≠ .client i) s s' → s'.destroy ≠ .freed

/-- It hangs when `DeviceThread` is blocked, ... -/
theorem hangs_of_device {i : Nat} (hj : Numbered s ∧ Listed s)
    (hlate : s.destroy.late = true → s.device = .ended) (hb : BlockedOn s i .device) :
    s.Hangs i := by
  intro s' hr hfreed
  obtain ⟨-, hlate', n, rest, hpc, -⟩ := hr.invariant
    (I := fun t => (Numbered t ∧ Listed t) ∧ (t.destroy.late = true → t.device = .ended) ∧
      BlockedOn t i .device) ⟨hj, hlate, hb⟩
    fun t l ⟨hj, hlate, hb⟩ he hi => ⟨orderly_next hj he, late_next hlate he,
      blockedOn_next hj.1 hj.2 hb (blockedOn_idle hb he) hi⟩
  rw [hlate' (by rw [hfreed]; rfl)] at hpc
  cases hpc

/-- ... or a connection that it waits for. -/
theorem hangs_of_connection {c : Nat} (hj : Numbered s ∧ Listed s)
    (hjoins : s.destroy.joins c = true) (hb : BlockedOn s c (.connection c)) : s.Hangs c := by
  intro s' hr hfreed
  have hrun : (s.connection c).pc.running = true := by rw [hb.2.1]; rfl
  have hdead : s.Deadlocked c := .waits (q := .connection c) ⟨hjoins, hrun⟩ (.blocked hb)
  rw [hdead.stays hj hr] at hfreed
  rw [hfreed] at hjoins
  cases hjoins

/-- It hangs when one of the threads is blocked that it depends on. -/
theorem hangs_of_not_flowing (hj : Numbered s ∧ Listed s)
    (hlate : s.destroy.late = true → s.device = .ended) (h : ¬Flowing s) : ∃ i, s.Hangs i := by
  by_contra hno
  rw [not_exists] at hno
  exact h ⟨fun i hb => hno i (hangs_of_device hj hlate hb),
    fun c hjoins hb => hno c (hangs_of_connection hj hjoins hb)⟩

/-- `DeviceThread` begins a write that blocks. -/
theorem not_flowing_deviceThread {ok : Bool} {n : Nat} (hf : ¬deviceFlows s s.device) :
    ¬Flowing (s.deviceThread ok n) := by
  cases hpc : s.device with
  | broadcast n' list =>
      cases list with
      | nil => rw [hpc] at hf; exact absurd trivial hf
      | cons c rest =>
          rw [hpc] at hf
          obtain ⟨hn', hstalled⟩ := Classical.not_imp.mp hf
          refine fun h => h.device c ⟨n', rest, ?_, ?_⟩
          · simp [MonitorConsole.deviceThread, hpc, hn']
          · simpa [MonitorConsole.deviceThread, hpc] using hstalled
  | _ => rw [hpc] at hf; exact absurd trivial hf

/-- A connection begins a flush that blocks. -/
theorem not_flowing_connectionThread {c : Nat} {ok : Bool}
    (hf : ¬connectionFlows s c (s.connection c).pc) : ¬Flowing (s.connectionThread c ok) := by
  cases hpc : (s.connection c).pc with
  | removeEntryList =>
      rw [hpc] at hf
      obtain ⟨hjoins, hunflushed⟩ := Classical.not_imp.mp hf
      refine fun h => h.connection c ?_ ⟨rfl, ?_, ?_⟩
      · rwa [(connectionThread_frame c ok).2.2.2]
      · simp [MonitorConsole.connectionThread, hpc, MonitorConsole.setPc,
          MonitorConsole.setConnection]
      · rw [connectionThread_pipe (by rw [hpc]; decide)]
        exact not_not.mp hunflushed
  | _ => rw [hpc] at hf; exact absurd trivial hf

/-- `ConsoleDestroy` begins to wait for a connection that is blocked. -/
theorem not_flowing_consoleDestroy {ok : Bool} (hf : ¬destroyFlows s s.destroy) :
    ¬Flowing (s.consoleDestroy ok) := by
  cases hpc : s.destroy with
  | waitForPipes handles =>
      rw [hpc] at hf
      simp only [destroyFlows, not_forall, not_not] at hf
      obtain ⟨hw, c, hmem, hflush, hunflushed⟩ := hf
      obtain ⟨-, -, -, hconn, hpipe⟩ := consoleDestroy_frame (s := s) ok
      refine fun h => h.connection c ?_ ⟨rfl, ?_, ?_⟩
      · simpa [MonitorConsole.consoleDestroy, hpc, hw, DestroyPc.joins] using hmem
      · rwa [hconn]
      · rwa [hpipe]
  | _ => rw [hpc] at hf; exact absurd trivial hf

/-- A client stops to read what is being written or flushed. -/
theorem not_flowing_clientStop {i : Nat} (hf : ¬Flows s (.clientStop i)) :
    ¬Flowing (s.setClient i .stopped) := by
  have hpipe : (s.setClient i .stopped).pipe i = { s.pipe i with client := .stopped } :=
    update_self i _ _
  rcases not_and_or.mp hf with hdev | hconn
  · cases hpc : s.device with
    | writeFile n c rest =>
        rw [hpc] at hdev
        obtain ⟨rfl, hstalled⟩ := Classical.not_imp.mp hdev
        refine fun h => h.device c ⟨n, rest, hpc, ?_⟩
        rw [hpipe]
        exact not_not.mp hstalled
    | _ => rw [hpc] at hdev; exact absurd trivial hdev
  · simp only [not_forall, not_not] at hconn
    obtain ⟨hflush, hjoins, hunflushed⟩ := hconn
    refine fun h => h.connection i hjoins ⟨rfl, hflush, ?_⟩
    rw [hpipe]
    exact hunflushed

/-- **Any other step blocks one.** -/
theorem not_flowing_of_not (hf : ¬Flows s l) : ¬Flowing (consoleNext s l) := by
  cases l with
  | deviceThread ok n => exact not_flowing_deviceThread hf
  | connectionThread c ok => exact not_flowing_connectionThread hf
  | consoleDestroy ok => exact not_flowing_consoleDestroy hf
  | clientStop i => exact not_flowing_clientStop hf
  | _ => exact absurd trivial hf

end Flow

/-! ## 3. The result -/

/-- **`ConsoleDestroy` never waits for a thread that is blocked on a client**, in a run whose steps
    leave none blocked that it depends on. A step that does lets it hang: it does not return before
    that client reads on or closes its end. -/
theorem shutdown_proceeds {s : MonitorConsole} (h : Reach consoleSystem Flows .init s) :
    (∀ i, ¬s.Deadlocked i) ∧
      ∀ l, consoleEnabled s l = true → ¬Flows s l → ∃ i, (consoleNext s l).Hangs i := by
  have hj : Numbered s ∧ Listed s := ⟨reach_numbered h, reach_listed h⟩
  have hlate : s.destroy.late = true → s.device = .ended :=
    h.invariant (I := fun t => t.destroy.late = true → t.device = .ended) (fun e => by cases e)
      fun _ _ hlate he _ => late_next hlate he
  have hflowing : Flowing s :=
    h.invariant_using (J := fun t => Numbered t ∧ Listed t)
      (fun _ hr => ⟨reach_numbered hr, reach_listed hr⟩) flowing_init
      fun _ _ hj hf he hp => flowing_next hf hj.1 hj.2 he hp
  exact ⟨hflowing.not_deadlocked, fun l he hf =>
    hangs_of_not_flowing (orderly_next hj he) (late_next hlate he) (not_flowing_of_not hf)⟩

section Examples

instance (p : Pipe) (n : Nat) : Decidable (p.Stalled n) :=
  inferInstanceAs (Decidable (_ ∧ _ ∧ _))

instance (p : Pipe) : Decidable p.Unflushed :=
  inferInstanceAs (Decidable (_ ∧ _ ∧ _))

instance (s : MonitorConsole) : ∀ pc, Decidable (deviceFlows s pc)
  | .broadcast _ (_ :: _) => inferInstanceAs (Decidable (_ → _))
  | .broadcast _ [] | .start | .readFile | .wait | .enter _ | .writeFile .. | .leave | .ended =>
    .isTrue trivial

instance (s : MonitorConsole) (c : Nat) : ∀ pc, Decidable (connectionFlows s c pc)
  | .removeEntryList => inferInstanceAs (Decidable (_ → _))
  | .absent | .createEvent | .insertTailList | .readFile | .wait | .putString | .flushFileBuffers
  | .disconnectNamedPipe | .closeThread | .free | .ended => .isTrue trivial

instance (s : MonitorConsole) : ∀ pc, Decidable (destroyFlows s pc)
  | .waitForPipes handles => inferInstanceAs (Decidable (_ → ∀ c ∈ handles.connections, _ → _))
  | .idle | .setExecutableEvent | .joinExecutable | .closeExecutableEvent | .copy
  | .setServerEvent _ | .joinPipes _ | .closeServerEvent | .setDeviceEvent | .joinDevice
  | .closeDeviceEvent | .free | .freed => .isTrue trivial

instance (s : MonitorConsole) (i : Nat) : ∀ pc, Decidable (stopFlows s i pc)
  | .writeFile .. => inferInstanceAs (Decidable (_ → _))
  | .broadcast .. | .start | .readFile | .wait | .enter _ | .leave | .ended => .isTrue trivial

instance (s : MonitorConsole) : ∀ l, Decidable (Flows s l)
  | .deviceThread _ _ => inferInstanceAs (Decidable (deviceFlows s s.device))
  | .connectionThread c _ =>
    inferInstanceAs (Decidable (connectionFlows s c (s.connection c).pc))
  | .consoleDestroy _ => inferInstanceAs (Decidable (destroyFlows s s.destroy))
  | .clientStop i => inferInstanceAs (Decidable (stopFlows s i s.device ∧ (_ → _ → _)))
  | .serverThread _ | .executableThread _ | .clientOpen _ | .clientRead .. | .clientResume _
  | .clientClose _ => .isTrue trivial

/-- The device has said as much as the pipe of the first client has room for. -/
def written : List ConsoleLabel :=
  accepted ++ List.replicate 3 (.connectionThread 0 true) ++
    List.replicate 8 (.deviceThread true MAXIMUM_BUFFER_SIZE)

/-- The client reads it, and the console is destroyed. -/
theorem shutdown_proceeds_written :
    ¬(runs consoleSystem .init (written ++ .clientRead 0 MAXIMUM_BUFFER_SIZE ::
      .executableThread false :: List.replicate 7 (.consoleDestroy true))).Deadlocked 0 :=
  (shutdown_proceeds (Reach.of_admits _ .start (by decide))).1 0

/-- The client stops to read it, and the device says one more thing. -/
theorem stopped_client_deadlocks : ∃ s, Reach consoleSystem (fun _ _ => True) .init s ∧
    ∃ i, s.Deadlocked i := by
  let run := written ++ .clientStop 0 :: List.replicate 3 (.deviceThread true 1) ++
    .executableThread false :: List.replicate 4 (.consoleDestroy true)
  -- ConsoleDestroy is at the lock, and DeviceThread in its write
  have hwaits : WaitsFor (runs consoleSystem .init run) .destroy .device :=
    .inl ⟨by decide, by decide⟩
  have hblocked : BlockedOn (runs consoleSystem .init run) 0 .device :=
    ⟨1, [], by decide, by decide⟩
  exact ⟨runs consoleSystem .init run, Reach.of_admits run .start (by decide), 0,
    .waits hwaits (.blocked hblocked)⟩

end Examples

end Xencons.Monitor
