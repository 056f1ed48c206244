import Xencons.Monitor.Links

/-!
# What the monitor can never give back (monitor.c)

The name of a console that unwinds or is removed, the pipe of a connection whose thread has ended,
and the process of an `ExecutableThread` that has gone on to its end: no step gives them back.

* `Stuck`, `Lost` -- what nobody is going to give back;
* **`lasting_next`** -- what is stuck stays stuck and live.
-/

namespace Xencons.Monitor.Resources

open Lib Function

/-- `ConsoleCreate` unwinds, or `ConsoleDestroy` has begun. -/
def ConsolePc.leaving : ConsolePc → Bool
  | .absent | .malloc | .wcsdup | .createFile | .deviceIoControl | .strdup
  | .registerDeviceNotification | .createDeviceEvent | .createDeviceThread | .createServerEvent
  | .createServerThread | .createExecutableEvent | .createExecutableThread | .listed => false
  | _ => true

/-- What nobody is going to give back, if it is live. -/
def Stuck (s : Context) : Resource → Prop
  | .field c .deviceName => (s.console c).pc.leaving = true
  | .part i .pipe => (s.connection i).pc = .ended
  | .own c .process =>
    (s.console c).executable = .freeExecutable ∨ (s.console c).executable = .ended
  | _ => False

/-- **Something has been lost**, or given back that was not to be. -/
def Lost (s : Context) : Prop := s.astray ≠ 0 ∨ ∃ r, Stuck s r ∧ s.live r = true

/-- What is stuck stays stuck and live. -/
structure Lasting (s s' : Context) : Prop where
  astray : s.astray ≤ s'.astray
  stuck : ∀ r, Stuck s r → s.live r = true → Stuck s' r ∧ s'.live r = true

section Lasting

variable {s t : Context} {l : Label} {c i : Nat} {a : Answer}

theorem Lasting.refl (s : Context) : Lasting s s := ⟨Nat.le_refl _, fun _ hr hl => ⟨hr, hl⟩⟩

theorem Lasting.trans {u : Context} (h : Lasting s t) (h' : Lasting t u) : Lasting s u where
  astray := Nat.le_trans h.astray h'.astray
  stuck r hr hl := h'.stuck r (h.stuck r hr hl).1 (h.stuck r hr hl).2

theorem Lasting.lost (h : Lasting s t) (hs : Lost s) : Lost t := by
  rcases hs with ha | ⟨r, hr, hl⟩
  · exact .inl (Nat.ne_of_gt (Nat.lt_of_lt_of_le (Nat.pos_of_ne_zero ha) h.astray))
  · exact .inr ⟨r, h.stuck r hr hl⟩

theorem stuck_congr (hc : t.console = s.console) (hi : t.connection = s.connection)
    (r : Resource) : Stuck t r ↔ Stuck s r := by
  cases r with
  | field c f => cases f <;> simp only [Stuck, hc]
  | own c v => cases v <;> simp only [Stuck, hc]
  | part i x => cases x <;> simp only [Stuck, hi]

theorem Lasting.of_same (hc : t.console = s.console) (hi : t.connection = s.connection)
    (hlive : t.live = s.live) (hastray : t.astray = s.astray) : Lasting s t where
  astray := Nat.le_of_eq hastray.symm
  stuck r hr hl := ⟨(stuck_congr hc hi r).mpr hr, by rwa [hlive]⟩

theorem lasting_take (s : Context) (r : Resource) : Lasting s (s.take r) where
  astray := Context.astray_take
  stuck r' hr hl :=
    ⟨(stuck_congr Context.take_console Context.take_connection r').mpr hr, Context.live_take hl⟩

theorem lasting_give {r : Resource} (hr : ¬ Stuck s r) (k : Release) :
    Lasting s (s.give k r) where
  astray := Context.astray_give
  stuck r' hr' hl := by
    have hne : r' ≠ r := by rintro rfl; exact hr hr'
    exact ⟨(stuck_congr Context.give_console Context.give_connection r').mpr hr',
      Context.live_give hl hne⟩

theorem lasting_giveElse (s : Context) : Lasting s s.giveElse where
  astray := Nat.le_succ _
  stuck r hr hl := ⟨(stuck_congr rfl rfl r).mpr hr, hl⟩

theorem lasting_setConsole {x : Console}
    (hpc : (s.console c).pc.leaving = true → x.pc.leaving = true)
    (hprocess : (s.console c).executable = .freeExecutable ∨ (s.console c).executable = .ended →
      x.executable = .freeExecutable ∨ x.executable = .ended) : Lasting s (s.setConsole c x) where
  astray := Nat.le_refl _
  stuck r hr hl := by
    refine ⟨?_, hl⟩
    cases r with
    | field c' f =>
      cases f <;> try exact hr.elim
      show (update s.console c x c').pc.leaving = true
      by_cases he : c' = c
      · subst he; rw [update_self]; exact hpc hr
      · rw [update_of_ne he]; exact hr
    | own c' v =>
      cases v <;> try exact hr.elim
      show (update s.console c x c').executable = .freeExecutable ∨
        (update s.console c x c').executable = .ended
      by_cases he : c' = c
      · subst he; rw [update_self]; exact hprocess hr
      · rw [update_of_ne he]; exact hr
    | part i x => cases x <;> exact hr

theorem lasting_setConnection {y : Connection}
    (hpc : (s.connection i).pc = .ended → y.pc = .ended) : Lasting s (s.setConnection i y) where
  astray := Nat.le_refl _
  stuck r hr hl := by
    refine ⟨?_, hl⟩
    cases r with
    | field c f => cases f <;> exact hr
    | own c v => cases v <;> exact hr
    | part j x =>
      cases x <;> try exact hr.elim
      show (update s.connection i y j).pc = .ended
      by_cases he : j = i
      · subst he; rw [update_self]; exact hpc hr
      · rw [update_of_ne he]; exact hr

/-- A console goes on; no call leads back to the list. -/
theorem lasting_to (pc : ConsolePc) (hpc : (s.console c).pc.leaving = true → pc.leaving = true)
    (fields signalled : Field → Bool) :
    Lasting s (s.setConsole c
      { s.console c with pc := pc, fields := fields, signalled := signalled }) :=
  lasting_setConsole hpc id

/-- It goes on with something taken or given back. -/
theorem Lasting.to (h : Lasting s t) (ht : t.console = s.console) (pc : ConsolePc)
    (hpc : (s.console c).pc.leaving = true → pc.leaving = true)
    (fields signalled : Field → Bool) :
    Lasting s (t.setConsole c
      { s.console c with pc := pc, fields := fields, signalled := signalled }) := by
  have hlast : Lasting t (t.setConsole c
      { t.console c with pc := pc, fields := fields, signalled := signalled }) :=
    lasting_to pc (by rwa [ht]) fields signalled
  rw [ht] at hlast
  exact h.trans hlast

theorem lasting_fill (hpc : (s.console c).pc.leaving = false) (f : Field) (a : Answer)
    (next fail : ConsolePc) : Lasting s (s.fill c f a next fail) := by
  have hnot {pc : ConsolePc} (h : (s.console c).pc.leaving = true) : pc.leaving = true := by
    rw [hpc] at h; cases h
  unfold Context.fill
  split
  · exact (lasting_take s _).to Context.take_console next hnot _ _
  · exact lasting_to fail hnot _ _

theorem lasting_empty {f : Field} (hf : f ≠ .deviceName) {next : ConsolePc}
    (hnext : next.leaving = true) (k : Release) : Lasting s (s.empty c k f next) := by
  have hstuck : ¬ Stuck s (.field c f) := by cases f <;> first | exact absurd rfl hf | exact id
  unfold Context.empty
  split
  · exact (lasting_give hstuck k).to Context.give_console next (fun _ => hnext) _ _
  · split
    · exact lasting_to next (fun _ => hnext) _ _
    · exact (lasting_giveElse s).to rfl next (fun _ => hnext) _ _

theorem lasting_freeConsole : Lasting s (s.freeConsole c) :=
  (lasting_give (r := .field c .console) id .free).to Context.give_console .gone (fun _ => rfl) _ _

theorem lasting_consoleStep (h : Linked s) (c : Nat) (a : Answer) :
    Lasting s (s.consoleStep c a) := by
  cases hpc : (s.console c).pc <;> simp only [Context.consoleStep, hpc]
  case absent | listed | gone => exact .refl s
  case malloc | wcsdup | createFile | strdup | registerDeviceNotification | createDeviceEvent |
      createServerEvent | createExecutableEvent =>
    exact lasting_fill (by rw [hpc]; rfl) _ _ _ _
  case createDeviceThread =>
    have hfill := lasting_fill (by rw [hpc]; rfl) .deviceThread a .createServerEvent .fail8
    split
    · exact hfill.trans (lasting_setConsole id id)
    · exact hfill
  case createServerThread =>
    have hfill := lasting_fill (by rw [hpc]; rfl) .serverThread a .createExecutableEvent .fail10
    split
    · exact hfill.trans (lasting_setConsole id id)
    · exact hfill
  case createExecutableThread =>
    have hfill := lasting_fill (by rw [hpc]; rfl) .executableThread a .listed .fail12
    have habsent : (s.console c).executable = .absent := h.executable c (by rw [hpc]; rfl)
    split
    · refine hfill.trans (lasting_setConsole id fun hended => ?_)
      -- there has been no thread of it before
      rw [Context.fill_executable, habsent] at hended
      rcases hended with e | e <;> cases e
    · exact hfill
  case deviceIoControl => exact lasting_to _ (fun hl => by rw [hpc] at hl; cases hl) _ _
  case fail12 | fail10 | fail8 | fail7 | fail6 | fail4 | fail3 | closeExecutableEvent |
      closeServerEvent | closeDeviceEvent | unregisterDeviceNotification | freeDevicePath |
      closeDeviceHandle | freeDevicePathAgain =>
    exact lasting_empty (by decide) (by decide) _
  case fail11 | joinServer | fail9 | joinDevice | setExecutableEvent | waitExecutable |
      setServerEvent | waitPipes | setDeviceEvent | waitDevice =>
    exact lasting_to _ (fun _ => rfl) _ _
  case fail2 | freeConsole => exact lasting_freeConsole
  case mallocEvents =>
    split
    · exact (lasting_take s _).trans (lasting_to _ (fun _ => rfl) _ _)
    · exact lasting_to _ (fun _ => rfl) _ _

theorem lasting_setDevice (pc : DevicePc) : Lasting s (s.setDevice c pc) :=
  lasting_setConsole id id

theorem lasting_setServer (pc : ServerPc) : Lasting s (s.setServer c pc) :=
  lasting_setConsole id id

theorem lasting_deviceStep (s : Context) (c : Nat) (a : Answer) : Lasting s (s.deviceStep c a) := by
  cases hpc : (s.console c).device <;> simp only [Context.deviceStep, hpc]
  case absent | ended => exact .refl s
  case createEvent | createFile =>
    split
    · exact (lasting_take s _).trans (lasting_setDevice _)
    · exact lasting_setDevice _
  case wait =>
    split
    · exact .refl s
    · exact lasting_setDevice _
  case closeDevice | closeEvent => exact (lasting_give id _).trans (lasting_setDevice _)

theorem lasting_setExecutable (hpc : (s.console c).executable ≠ .freeExecutable)
    (hpc' : (s.console c).executable ≠ .ended) (pc : ExecutablePc) :
    Lasting s (s.setExecutable c pc) :=
  lasting_setConsole id fun h => absurd h (not_or.mpr ⟨hpc, hpc'⟩)

theorem lasting_executableStep (s : Context) (c : Nat) (a : Answer) :
    Lasting s (s.executableStep c a) := by
  cases hpc : (s.console c).executable <;> simp only [Context.executableStep, hpc]
  case absent | ended => exact .refl s
  case getExecutable =>
    split
    · exact (lasting_take s _).trans (lasting_setExecutable
        (by simp [Context.take_console, hpc]) (by simp [Context.take_console, hpc]) _)
    · exact lasting_setExecutable (by simp [hpc]) (by simp [hpc]) _
  case createProcess =>
    split
    · refine ((lasting_take s _).trans (lasting_take _ _)).trans (lasting_setExecutable ?_ ?_ _)
      all_goals simp [Context.take_console, hpc]
    · exact lasting_setExecutable (by simp [hpc]) (by simp [hpc]) _
  case wait =>
    cases a
    case event =>
      refine lasting_setConsole id fun h => ?_
      rw [hpc] at h
      rcases h with e | e <;> cases e
    case succeeds | fails => exact lasting_setExecutable (by simp [hpc]) (by simp [hpc]) _
  case closeProcess =>
    have hstuck : ¬ Stuck s (.own c .process) := by
      rintro (e | e) <;> rw [hpc] at e <;> cases e
    exact (lasting_give hstuck _).trans (lasting_setExecutable
      (by simp [Context.give_console, hpc]) (by simp [Context.give_console, hpc]) _)
  case closeProcessThread =>
    exact (lasting_give id _).trans (lasting_setExecutable
      (by simp [Context.give_console, hpc]) (by simp [Context.give_console, hpc]) _)
  case freeExecutable => exact (lasting_give id _).trans (lasting_setConsole id fun _ => .inr rfl)

theorem lasting_setConnectionPc (hpc : (s.connection i).pc ≠ .ended) (pc : ConnectionPc) :
    Lasting s (s.setConnectionPc i pc) :=
  lasting_setConnection fun e => absurd e hpc

theorem lasting_connectionStep (s : Context) (i : Nat) (a : Answer) :
    Lasting s (s.connectionStep i a) := by
  cases hpc : (s.connection i).pc <;> simp only [Context.connectionStep, hpc]
  case absent | listening | allocated | ended => exact .refl s
  case createEvent =>
    split
    · exact (lasting_take s _).trans
        (lasting_setConnectionPc (by simp [Context.take_connection, hpc]) _)
    · exact lasting_setConnectionPc (by simp [hpc]) _
  case wait =>
    split
    · exact .refl s
    · exact lasting_setConnectionPc (by simp [hpc]) _
  case closePipe =>
    have hstuck : ¬ Stuck s (.part i .pipe) := by intro e; rw [Stuck, hpc] at e; cases e
    exact (lasting_give hstuck _).trans
      (lasting_setConnectionPc (by simp [Context.give_connection, hpc]) _)
  case closeThread =>
    split
    · exact (lasting_give id _).trans
        (lasting_setConnectionPc (by simp [Context.give_connection, hpc]) _)
    · exact (lasting_giveElse s).trans (lasting_setConnectionPc (s := s.giveElse)
        (show (s.connection i).pc ≠ _ by simp [hpc]) _)
  case closeEvent | freeConnection =>
    exact (lasting_give id _).trans
      (lasting_setConnectionPc (by simp [Context.give_connection, hpc]) _)

theorem lasting_serverStep (h : Linked s) (c : Nat) (a : Answer) :
    Lasting s (s.serverStep c a) := by
  -- what is being made has not ended
  have hmaking {i : Nat} {pc : ConnectionPc} (hm : (s.console c).server.making = some (i, pc)) :
      (s.connection i).pc ≠ .ended := by
    rw [(h.making c i pc hm).1]
    rcases ServerPc.making_stage hm with rfl | rfl <;> nofun
  cases hpc : (s.console c).server <;> simp only [Context.serverStep, hpc]
  case absent | ended => exact .refl s
  case createEvent | convertDescriptor =>
    split
    · exact (lasting_take s _).trans (lasting_setServer _)
    · exact lasting_setServer _
  case createNamedPipe =>
    split
    · have hnew : (s.connection s.connections).pc = .absent := h.unmade _ (Nat.le_refl _)
      have hpipe := (lasting_take s (.part s.connections .pipe)).trans (lasting_setConnection
        (i := s.connections) (y := ⟨.listening, false, c⟩) fun e => by
          rw [Context.take_connection, hnew] at e
          cases e)
      exact (hpipe.trans (lasting_setServer (.wait s.connections))).trans (.of_same rfl rfl rfl rfl)
    · exact lasting_setServer _
  case wait i => exact lasting_setServer _
  case malloc i | createThread i =>
    have hne : (s.connection i).pc ≠ .ended := hmaking (by rw [hpc]; rfl)
    split
    · exact ((lasting_take s _).trans
        (lasting_setConnectionPc (by rwa [Context.take_connection]) _)).trans (lasting_setServer _)
    · exact lasting_setServer _
  case assign i =>
    exact (lasting_setConnection (i := i) (y := { s.connection i with assigned := true }) id).trans
      (lasting_setServer _)
  case freeConnection i =>
    have hne : (s.connection i).pc ≠ .ended := hmaking (by rw [hpc]; rfl)
    exact ((lasting_give id _).trans
      (lasting_setConnectionPc (by rwa [Context.give_connection]) _)).trans (lasting_setServer _)
  case closePipe i =>
    have hne : (s.connection i).pc ≠ .ended := hmaking (by rw [hpc]; rfl)
    exact ((lasting_give (r := .part i .pipe) hne _).trans
      (lasting_setConnectionPc (by rwa [Context.give_connection]) _)).trans (lasting_setServer _)
  case localFree => exact (lasting_giveElse s).trans (lasting_setServer _)
  case closeEvent => exact (lasting_give id _).trans (lasting_setServer _)

/-- **What has been lost stays lost.** -/
theorem lasting_next (h : Linked s) (he : system.enabled s l) : Lasting s (system.next s l) := by
  cases l with
  | arrival =>
    have habsent : (s.console s.consoles).pc = .absent := h.beyond _ (Nat.le_refl _)
    exact (lasting_to (c := s.consoles) .malloc (by rw [habsent]; nofun) _ _).trans
      (.of_same rfl rfl rfl rfl)
  | console c a => exact lasting_consoleStep h c a
  | removal c => exact lasting_to _ (fun _ => rfl) _ _
  | deviceThread c a => exact lasting_deviceStep s c a
  | serverThread c a => exact lasting_serverStep h c a
  | executableThread c a => exact lasting_executableStep s c a
  | connectionThread i a => exact lasting_connectionStep s i a

end Lasting

end Xencons.Monitor.Resources
