import Xencons.Monitor.Resources

/-!
# How the threads of the monitor are linked (monitor.c)

A console that has not come to a `CreateThread` has no such thread, and the connection that
`ServerThread` is making is that of its console: every step keeps it, whatever fails.

* `Linked` -- who has been begun, and who makes what;
* **`linked_next`** -- every step keeps the links.
-/

namespace Xencons.Monitor.Resources

open Lib Function

/-- The connection that `ServerThread` is making, and how far it has come. -/
def ServerPc.making : ServerPc → Option (Nat × ConnectionPc)
  | .wait i | .malloc i | .closePipe i => some (i, .listening)
  | .createThread i | .freeConnection i => some (i, .allocated)
  | _ => none

theorem ServerPc.making_stage {p : ServerPc} {i : Nat} {pc : ConnectionPc}
    (h : p.making = some (i, pc)) : pc = .listening ∨ pc = .allocated := by
  cases p <;> cases h
  case wait | malloc | closePipe => exact .inl rfl
  case createThread | freeConnection => exact .inr rfl

/-- The thread has been created, and the console is not gone. -/
def ConsolePc.device : ConsolePc → Bool
  | .absent | .malloc | .wcsdup | .createFile | .deviceIoControl | .strdup
  | .registerDeviceNotification | .createDeviceEvent | .createDeviceThread => false
  | _ => true

def ConsolePc.server : ConsolePc → Bool
  | .createServerEvent | .createServerThread => false
  | pc => pc.device

def ConsolePc.executable : ConsolePc → Bool
  | .createExecutableEvent | .createExecutableThread => false
  | pc => pc.server

structure Linked (s : Context) : Prop where
  beyond : ∀ c, s.consoles ≤ c → (s.console c).pc = .absent
  unmade : ∀ i, s.connections ≤ i → (s.connection i).pc = .absent
  device : ∀ c, (s.console c).pc.device = false → (s.console c).device = .absent
  server : ∀ c, (s.console c).pc.server = false → (s.console c).server = .absent
  executable : ∀ c, (s.console c).pc.executable = false → (s.console c).executable = .absent
  making : ∀ c i pc, (s.console c).server.making = some (i, pc) →
    (s.connection i).pc = pc ∧ (s.connection i).console = c

section Linked

variable {s : Context} {l : Label} {c i : Nat} {a : Answer}

theorem linked_init : Linked .init where
  beyond _ _ := rfl
  unmade _ _ := rfl
  device _ _ := rfl
  server _ _ := rfl
  executable _ _ := rfl
  making _ _ _ h := by cases h

/-- A console goes on, with the threads it had or with one more. -/
theorem Linked.setConsole (h : Linked s) {x : Console} (hc : c < s.consoles)
    (hdevice : x.pc.device = false → x.device = .absent)
    (hserver : x.pc.server = false → x.server = .absent)
    (hexecutable : x.pc.executable = false → x.executable = .absent)
    (hmaking : ∀ i pc, x.server.making = some (i, pc) →
      (s.connection i).pc = pc ∧ (s.connection i).console = c) : Linked (s.setConsole c x) where
  beyond c' hc' := by
    have hne : c' ≠ c := by rintro rfl; exact absurd hc (Nat.not_lt.mpr hc')
    show (update s.console c x c').pc = .absent
    rw [update_of_ne hne]
    exact h.beyond c' hc'
  unmade := h.unmade
  device c' := by
    show (update s.console c x c').pc.device = false → (update s.console c x c').device = .absent
    by_cases he : c' = c
    · rw [he, update_self]; exact hdevice
    · rw [update_of_ne he]; exact h.device c'
  server c' := by
    show (update s.console c x c').pc.server = false → (update s.console c x c').server = .absent
    by_cases he : c' = c
    · rw [he, update_self]; exact hserver
    · rw [update_of_ne he]; exact h.server c'
  executable c' := by
    show (update s.console c x c').pc.executable = false →
      (update s.console c x c').executable = .absent
    by_cases he : c' = c
    · rw [he, update_self]; exact hexecutable
    · rw [update_of_ne he]; exact h.executable c'
  making c' i pc := by
    show (update s.console c x c').server.making = some (i, pc) → _
    by_cases he : c' = c
    · rw [he, update_self]; exact hmaking i pc
    · rw [update_of_ne he]; exact h.making c' i pc

/-- What is live does not matter to it. -/
theorem Linked.of_same {s' : Context} (h : Linked s) (hc : s'.console = s.console)
    (hcs : s'.consoles = s.consoles) (hi : s'.connection = s.connection)
    (his : s'.connections = s.connections) : Linked s' where
  beyond := by rw [hc, hcs]; exact h.beyond
  unmade := by rw [hi, his]; exact h.unmade
  device := by rw [hc]; exact h.device
  server := by rw [hc]; exact h.server
  executable := by rw [hc]; exact h.executable
  making := by rw [hc, hi]; exact h.making

theorem Linked.take (h : Linked s) (r : Resource) : Linked (s.take r) :=
  h.of_same Context.take_console Context.take_consoles Context.take_connection
    Context.take_connections

theorem Linked.give (h : Linked s) (k : Release) (r : Resource) : Linked (s.give k r) :=
  h.of_same Context.give_console Context.give_consoles Context.give_connection
    Context.give_connections

theorem Linked.giveElse (h : Linked s) : Linked s.giveElse := h.of_same rfl rfl rfl rfl

/-- Who does anything has been begun. -/
theorem Linked.lt (h : Linked s) (hpc : (s.console c).pc ≠ .absent) : c < s.consoles :=
  Nat.lt_of_not_le fun hle => hpc (h.beyond c hle)

theorem Linked.lt_of_device (h : Linked s) (hpc : (s.console c).device ≠ .absent) :
    c < s.consoles :=
  h.lt fun e => hpc (h.device c (by rw [e]; rfl))

theorem Linked.lt_of_server (h : Linked s) (hpc : (s.console c).server ≠ .absent) :
    c < s.consoles :=
  h.lt fun e => hpc (h.server c (by rw [e]; rfl))

theorem Linked.lt_of_executable (h : Linked s) (hpc : (s.console c).executable ≠ .absent) :
    c < s.consoles :=
  h.lt fun e => hpc (h.executable c (by rw [e]; rfl))

/-- `DeviceThread` goes on. -/
theorem Linked.setDevice (h : Linked s) (hpc : (s.console c).device ≠ .absent) (pc : DevicePc) :
    Linked (s.setDevice c pc) :=
  h.setConsole (h.lt_of_device hpc) (fun hd => absurd (h.device c hd) hpc) (h.server c)
    (h.executable c) (h.making c)

/-- `ExecutableThread` goes on. -/
theorem Linked.setExecutable (h : Linked s) (hpc : (s.console c).executable ≠ .absent)
    (pc : ExecutablePc) : Linked (s.setExecutable c pc) :=
  h.setConsole (h.lt_of_executable hpc) (h.device c) (h.server c)
    (fun he => absurd (h.executable c he) hpc) (h.making c)

/-- `ServerThread` goes on. -/
theorem Linked.setServer (h : Linked s) (hpc : (s.console c).server ≠ .absent) {pc : ServerPc}
    (hmaking : ∀ i pc', pc.making = some (i, pc') →
      (s.connection i).pc = pc' ∧ (s.connection i).console = c) : Linked (s.setServer c pc) :=
  h.setConsole (h.lt_of_server hpc) (h.device c) (fun hs => absurd (h.server c hs) hpc)
    (h.executable c) hmaking

/-- `ConsoleCreate` or `ConsoleDestroy` goes on; a thread that there is already stays. -/
theorem Linked.setPc (h : Linked s) (hpc : (s.console c).pc ≠ .absent) {x : Console}
    (hd : x.device = (s.console c).device) (hs : x.server = (s.console c).server)
    (he : x.executable = (s.console c).executable)
    (hdevice : x.pc.device = false → (s.console c).pc.device = false)
    (hserver : x.pc.server = false → (s.console c).pc.server = false)
    (hexecutable : x.pc.executable = false → (s.console c).pc.executable = false) :
    Linked (s.setConsole c x) :=
  h.setConsole (h.lt hpc) (fun hx => hd.trans (h.device c (hdevice hx)))
    (fun hx => hs.trans (h.server c (hserver hx)))
    (fun hx => he.trans (h.executable c (hexecutable hx)))
    fun i pc hm => h.making c i pc (hs ▸ hm)

/-- A connection goes on; who makes it knows how far it is. -/
theorem Linked.setConnection (h : Linked s) {y : Connection}
    (hpc : (s.connection i).pc = .absent → y.pc = .absent)
    (hmaking : ∀ c pc, (s.console c).server.making = some (i, pc) → y.pc = pc ∧ y.console = c) :
    Linked (s.setConnection i y) where
  beyond := h.beyond
  unmade j hj := by
    show (update s.connection i y j).pc = .absent
    by_cases he : j = i
    · subst he
      rw [update_self]
      exact hpc (h.unmade j hj)
    · rw [update_of_ne he]
      exact h.unmade j hj
  device := h.device
  server := h.server
  executable := h.executable
  making c j pc hm := by
    show (update s.connection i y j).pc = pc ∧ (update s.connection i y j).console = c
    by_cases he : j = i
    · subst he
      rw [update_self]
      exact hmaking c pc hm
    · rw [update_of_ne he]
      exact h.making c j pc hm

/-- A connection that has its thread goes on. -/
theorem Linked.setConnectionPc (h : Linked s)
    (hpc : (s.connection i).pc ∉ [ConnectionPc.absent, .listening, .allocated])
    (pc : ConnectionPc) : Linked (s.setConnectionPc i pc) := by
  simp only [List.mem_cons, List.not_mem_nil, or_false, not_or] at hpc
  obtain ⟨habsent, hlistening, hallocated⟩ := hpc
  refine h.setConnection (fun e => absurd e habsent) fun c pc' hm => ?_
  rcases ServerPc.making_stage hm with rfl | rfl
  · exact absurd (h.making c i _ hm).1 hlistening
  · exact absurd (h.making c i _ hm).1 hallocated

/-- `ServerThread` goes on, and the connection it makes with it. -/
theorem Linked.setBoth (h : Linked s) {pc₀ : ConnectionPc} {y : Connection} {pc : ServerPc}
    (hm : (s.console c).server.making = some (i, pc₀)) (hy : y.console = c)
    (hmaking : ∀ j pc', pc.making = some (j, pc') → j = i ∧ y.pc = pc') :
    Linked ((s.setConnection i y).setServer c pc) := by
  obtain ⟨hpc, hconsole⟩ := h.making c i pc₀ hm
  have hserver : (s.console c).server ≠ .absent := by intro e; rw [e] at hm; cases hm
  have hmade : (s.connection i).pc ≠ .absent := by
    rw [hpc]
    rcases ServerPc.making_stage hm with rfl | rfl <;> nofun
  -- in between, nobody makes it
  have hbetween : Linked (s.setServer c .ended) := h.setServer hserver (by nofun)
  have hnobody : ∀ c' pc', ((s.setServer c .ended).console c').server.making ≠ some (i, pc') := by
    intro c' pc'
    show (update s.console c _ c').server.making ≠ some (i, pc')
    by_cases he : c' = c
    · rw [he, update_self]; nofun
    · rw [update_of_ne he]
      intro hm'
      exact he ((h.making c' i pc' hm').2.symm.trans hconsole)
  have hset := hbetween.setConnection (y := y) (fun e => absurd e hmade)
    fun c' pc' hm' => absurd hm' (hnobody c' pc')
  have hended : (((s.setServer c .ended).setConnection i y).console c).server ≠ .absent := by
    show (update s.console c { s.console c with server := .ended } c).server ≠ .absent
    rw [update_self]
    nofun
  have hlast : Linked (((s.setServer c .ended).setConnection i y).setServer c pc) := by
    refine hset.setServer hended fun j pc' hj => ?_
    obtain ⟨rfl, hpc'⟩ := hmaking j pc' hj
    show (update s.connection j y j).pc = pc' ∧ (update s.connection j y j).console = c
    rw [update_self]
    exact ⟨hpc', hy⟩
  refine hlast.of_same ?_ rfl rfl rfl
  show update s.console c { s.console c with server := pc } =
    update (update s.console c { s.console c with server := .ended }) c
      { update s.console c { s.console c with server := .ended } c with server := pc }
  rw [update_idem, update_self]

/-- No thread of a console is forgotten on the way from one call to the other. -/
def ConsolePc.To (pc pc' : ConsolePc) : Prop :=
  (pc'.device = false → pc.device = false) ∧ (pc'.server = false → pc.server = false) ∧
    (pc'.executable = false → pc.executable = false)

instance (pc pc' : ConsolePc) : Decidable (pc.To pc') := inferInstanceAs (Decidable (_ ∧ _))

theorem Linked.to (h : Linked s) (pc : ConsolePc) (hpc : (s.console c).pc ≠ .absent)
    (hto : (s.console c).pc.To pc) (fields signalled : Field → Bool) :
    Linked (s.setConsole c
      { s.console c with pc := pc, fields := fields, signalled := signalled }) :=
  h.setPc hpc rfl rfl rfl hto.1 hto.2.1 hto.2.2

/-- It goes on with something taken or given back. -/
theorem Linked.to_with {t : Context} (h : Linked t) (ht : t.console = s.console) (pc : ConsolePc)
    (hpc : (s.console c).pc ≠ .absent) (hto : (s.console c).pc.To pc)
    (fields signalled : Field → Bool) :
    Linked (t.setConsole c
      { s.console c with pc := pc, fields := fields, signalled := signalled }) := by
  rw [← ht] at hpc hto ⊢
  exact h.to pc hpc hto fields signalled

theorem Linked.fill (h : Linked s) {pc next fail : ConsolePc} (hpc : (s.console c).pc = pc)
    (hne : pc ≠ .absent) (hnext : pc.To next) (hfail : pc.To fail) (f : Field) (a : Answer) :
    Linked (s.fill c f a next fail) := by
  subst hpc
  unfold Context.fill
  split
  · exact (h.take _).to_with Context.take_console next hne hnext _ _
  · exact h.to fail hne hfail _ _

theorem Linked.empty (h : Linked s) {pc next : ConsolePc} (hpc : (s.console c).pc = pc)
    (hne : pc ≠ .absent) (hnext : pc.To next) (k : Release) (f : Field) :
    Linked (s.empty c k f next) := by
  subst hpc
  unfold Context.empty
  split
  · exact (h.give k _).to_with Context.give_console next hne hnext _ _
  · split
    · exact h.to next hne hnext _ _
    · exact h.giveElse.to next hne hnext _ _

theorem Linked.freeConsole (h : Linked s) (hne : (s.console c).pc ≠ .absent)
    (hto : (s.console c).pc.To .gone) : Linked (s.freeConsole c) :=
  (h.give .free _).to_with Context.give_console .gone hne hto _ _

/-- A thread is created for a console that has got its handle. -/
theorem Linked.startDevice (h : Linked s) (hpc : (s.console c).pc.device = true) :
    Linked (s.startDevice c) :=
  h.setConsole (h.lt fun e => by rw [e] at hpc; cases hpc)
    (fun hd => absurd hd (by rw [hpc]; nofun)) (h.server c) (h.executable c) (h.making c)

theorem Linked.startServer (h : Linked s) (hpc : (s.console c).pc.server = true) :
    Linked (s.startServer c) :=
  h.setConsole (h.lt fun e => by rw [e] at hpc; cases hpc) (h.device c)
    (fun hd => absurd hd (by rw [hpc]; nofun)) (h.executable c) (by nofun)

theorem Linked.startExecutable (h : Linked s) (hpc : (s.console c).pc.executable = true) :
    Linked (s.startExecutable c) :=
  h.setConsole (h.lt fun e => by rw [e] at hpc; cases hpc) (h.device c) (h.server c)
    (fun hd => absurd hd (by rw [hpc]; nofun)) (h.making c)

theorem Linked.arrival (h : Linked s) : Linked s.arrival := by
  have hmore : Linked { s with consoles := s.consoles + 1 } :=
    { h with beyond := fun c hc => h.beyond c (Nat.le_of_succ_le hc) }
  have habsent : (s.console s.consoles).pc = .absent := h.beyond _ (Nat.le_refl _)
  refine hmore.setConsole (Nat.lt_succ_self _) (fun _ => h.device _ ?_) (fun _ => h.server _ ?_)
    (fun _ => h.executable _ ?_) (h.making _)
  all_goals rw [habsent]; rfl

theorem linked_consoleStep (h : Linked s) (c : Nat) (a : Answer) : Linked (s.consoleStep c a) := by
  cases hpc : (s.console c).pc <;> simp only [Context.consoleStep, hpc]
  case absent | listed | gone => exact h
  case malloc | wcsdup | createFile | strdup | registerDeviceNotification | createDeviceEvent |
      createServerEvent | createExecutableEvent =>
    exact h.fill hpc nofun (by decide) (by decide) _ _
  case createDeviceThread =>
    have hfill : Linked (s.fill c .deviceThread a .createServerEvent .fail8) :=
      h.fill hpc nofun (by decide) (by decide) _ _
    split
    next hs =>
      refine hfill.startDevice ?_
      rw [hs, Context.fill_pc]; rfl
    next => exact hfill
  case createServerThread =>
    have hfill : Linked (s.fill c .serverThread a .createExecutableEvent .fail10) :=
      h.fill hpc nofun (by decide) (by decide) _ _
    split
    next hs =>
      refine hfill.startServer ?_
      rw [hs, Context.fill_pc]; rfl
    next => exact hfill
  case createExecutableThread =>
    have hfill : Linked (s.fill c .executableThread a .listed .fail12) :=
      h.fill hpc nofun (by decide) (by decide) _ _
    split
    next hs =>
      refine hfill.startExecutable ?_
      rw [hs, Context.fill_pc]; rfl
    next => exact hfill
  case deviceIoControl =>
    refine h.to _ (by rw [hpc]; nofun) ?_ _ _
    rw [hpc]
    split <;> decide
  case fail12 | fail10 | fail8 | fail7 | fail6 | fail4 | fail3 | closeExecutableEvent |
      closeServerEvent | closeDeviceEvent | unregisterDeviceNotification | freeDevicePath |
      closeDeviceHandle | freeDevicePathAgain =>
    exact h.empty hpc nofun (by decide) _ _
  case fail11 | joinServer | fail9 | joinDevice | setExecutableEvent | waitExecutable |
      setServerEvent | waitPipes | setDeviceEvent | waitDevice =>
    exact h.to _ (by rw [hpc]; nofun) (by rw [hpc]; decide) _ _
  case fail2 | freeConsole => exact h.freeConsole (by rw [hpc]; nofun) (by rw [hpc]; decide)
  case mallocEvents =>
    have hto : (s.console c).pc.To .setServerEvent := by rw [hpc]; decide
    split
    · exact (h.take _).to _ (by rw [Context.take_console, hpc]; nofun)
        (by rwa [Context.take_console]) _ _
    · exact h.to _ (by rw [hpc]; nofun) hto _ _

theorem linked_deviceStep (h : Linked s) (c : Nat) (a : Answer) : Linked (s.deviceStep c a) := by
  cases hpc : (s.console c).device <;> simp only [Context.deviceStep, hpc]
  case absent | ended => exact h
  case createEvent | createFile =>
    split
    · exact (h.take _).setDevice (by rw [Context.take_console, hpc]; nofun) _
    · exact h.setDevice (by rw [hpc]; nofun) _
  case wait =>
    split
    · exact h
    · exact h.setDevice (by rw [hpc]; nofun) _
  case closeDevice | closeEvent =>
    exact (h.give _ _).setDevice (by rw [Context.give_console, hpc]; nofun) _

theorem linked_executableStep (h : Linked s) (c : Nat) (a : Answer) :
    Linked (s.executableStep c a) := by
  cases hpc : (s.console c).executable <;> simp only [Context.executableStep, hpc]
  case absent | ended => exact h
  case getExecutable =>
    split
    · exact (h.take _).setExecutable (by rw [Context.take_console, hpc]; nofun) _
    · exact h.setExecutable (by rw [hpc]; nofun) _
  case createProcess =>
    split
    · exact ((h.take _).take _).setExecutable
        (by rw [Context.take_console, Context.take_console, hpc]; nofun) _
    · exact h.setExecutable (by rw [hpc]; nofun) _
  case wait =>
    have hne : (s.console c).executable ≠ .absent := by rw [hpc]; nofun
    cases a
    case event =>
      exact h.setConsole (h.lt_of_executable hne) (h.device c) (h.server c)
        (fun he => absurd (h.executable c he) hne) (h.making c)
    case succeeds | fails => exact h.setExecutable hne _
  case closeProcess | closeProcessThread | freeExecutable =>
    exact (h.give _ _).setExecutable (by rw [Context.give_console, hpc]; nofun) _

theorem linked_connectionStep (h : Linked s) (i : Nat) (a : Answer) :
    Linked (s.connectionStep i a) := by
  cases hpc : (s.connection i).pc <;> simp only [Context.connectionStep, hpc]
  case absent | listening | allocated | ended => exact h
  case createEvent =>
    split
    · exact (h.take _).setConnectionPc (by rw [Context.take_connection, hpc]; decide) _
    · exact h.setConnectionPc (by rw [hpc]; decide) _
  case wait =>
    split
    · exact h
    · exact h.setConnectionPc (by rw [hpc]; decide) _
  case closeThread =>
    split
    · exact (h.give _ _).setConnectionPc (by rw [Context.give_connection, hpc]; decide) _
    · have hpc' : (s.giveElse.connection i).pc = .closeThread := hpc
      exact h.giveElse.setConnectionPc (by rw [hpc']; decide) _
  case closeEvent | closePipe | freeConnection =>
    exact (h.give _ _).setConnectionPc (by rw [Context.give_connection, hpc]; decide) _

/-- A pipe is made for the next connection. -/
theorem Linked.createNamedPipe (h : Linked s) (hpc : (s.console c).server ≠ .absent) :
    Linked { ((s.setConnection s.connections ⟨.listening, false, c⟩).setServer c
      (.wait s.connections)) with connections := s.connections + 1 } := by
  have hnew : Linked { s.setConnection s.connections ⟨.listening, false, c⟩ with
      connections := s.connections + 1 } := by
    refine { h with unmade := fun j hj => ?_, making := fun c' j pc hm => ?_ }
    · show (update s.connection s.connections _ j).pc = .absent
      rw [update_of_ne (Nat.ne_of_gt hj)]
      exact h.unmade j (Nat.le_of_succ_le hj)
    · obtain ⟨hpc', hconsole⟩ := h.making c' j pc hm
      have hne : j ≠ s.connections := by
        rintro rfl
        rw [h.unmade _ (Nat.le_refl _)] at hpc'
        rcases ServerPc.making_stage hm with rfl | rfl <;> cases hpc'
      show (update s.connection s.connections _ j).pc = pc ∧
        (update s.connection s.connections _ j).console = c'
      rw [update_of_ne hne]
      exact ⟨hpc', hconsole⟩
  refine hnew.setServer hpc fun j pc' hj => ?_
  cases hj
  show (update s.connection s.connections _ s.connections).pc = .listening ∧
    (update s.connection s.connections _ s.connections).console = c
  rw [update_self]
  exact ⟨rfl, rfl⟩

theorem linked_serverStep (h : Linked s) (c : Nat) (a : Answer) : Linked (s.serverStep c a) := by
  cases hpc : (s.console c).server <;> simp only [Context.serverStep, hpc]
  case absent | ended => exact h
  case createEvent | convertDescriptor =>
    split
    · exact (h.take _).setServer (by rw [Context.take_console, hpc]; nofun) (by nofun)
    · exact h.setServer (by rw [hpc]; nofun) (by nofun)
  case createNamedPipe =>
    split
    · have ht := (h.take (.part s.connections .pipe)).createNamedPipe (c := c)
        (by rw [Context.take_console, hpc]; nofun)
      rwa [Context.take_connections] at ht
    · exact h.setServer (by rw [hpc]; nofun) (by nofun)
  case wait i =>
    have hm := h.making c i .listening (by rw [hpc]; rfl)
    refine h.setServer (by rw [hpc]; nofun) fun j pc' hj => ?_
    split at hj <;> cases hj <;> exact hm
  case malloc i =>
    have hm := h.making c i .listening (by rw [hpc]; rfl)
    split
    · have hy : ((s.take (.part i .connection)).connection i).console = c := by
        rw [Context.take_connection]; exact hm.2
      exact (h.take _).setBoth (by rw [Context.take_console, hpc]; rfl) hy
        fun j pc' hj => by cases hj; exact ⟨rfl, rfl⟩
    · exact h.setServer (by rw [hpc]; nofun) fun j pc' hj => by cases hj; exact hm
  case createThread i =>
    have hm := h.making c i .allocated (by rw [hpc]; rfl)
    split
    · have hy : ((s.take (.part i .thread)).connection i).console = c := by
        rw [Context.take_connection]; exact hm.2
      exact (h.take _).setBoth (by rw [Context.take_console, hpc]; rfl) hy (by nofun)
    · exact h.setServer (by rw [hpc]; nofun) fun j pc' hj => by cases hj; exact hm
  case assign i =>
    have hassigned := h.setConnection (i := i) (y := { s.connection i with assigned := true }) id
      fun c' pc hm => h.making c' i pc hm
    exact hassigned.setServer (show (s.console c).server ≠ _ by rw [hpc]; nofun) (by nofun)
  case freeConnection i =>
    have hm := h.making c i .allocated (by rw [hpc]; rfl)
    have hy : ((s.give .free (.part i .connection)).connection i).console = c := by
      rw [Context.give_connection]; exact hm.2
    exact (h.give _ _).setBoth (by rw [Context.give_console, hpc]; rfl) hy
      fun j pc' hj => by cases hj; exact ⟨rfl, rfl⟩
  case closePipe i =>
    have hm := h.making c i .listening (by rw [hpc]; rfl)
    have hy : ((s.give .closeHandle (.part i .pipe)).connection i).console = c := by
      rw [Context.give_connection]; exact hm.2
    exact (h.give _ _).setBoth (by rw [Context.give_console, hpc]; rfl) hy (by nofun)
  case localFree =>
    exact h.giveElse.setServer (show (s.console c).server ≠ _ by rw [hpc]; nofun) (by nofun)
  case closeEvent =>
    exact (h.give _ _).setServer (by rw [Context.give_console, hpc]; nofun) (by nofun)

/-- **Every step keeps the links.** -/
theorem linked_next (h : Linked s) (he : system.enabled s l) : Linked (system.next s l) := by
  cases l with
  | arrival => exact h.arrival
  | console c a => exact linked_consoleStep h c a
  | removal c =>
    have hpc : (s.console c).pc = .listed := of_decide_eq_true he
    exact h.to _ (by rw [hpc]; nofun) (by rw [hpc]; decide) _ _
  | deviceThread c a => exact linked_deviceStep h c a
  | serverThread c a => exact linked_serverStep h c a
  | executableThread c a => exact linked_executableStep h c a
  | connectionThread i a => exact linked_connectionStep h i a

end Linked

end Xencons.Monitor.Resources
