import Xencons.Monitor.Lost

/-!
# Which runs leave the monitor balanced (monitor.c)

* `Belongs`, `Settled`, `Balanced` -- what is live is what the listed consoles and their threads
  hold, once nobody else is on the way;
* `Clean` -- the steps that lose nothing: no console is removed, none fails behind its name, and
  none of the threads takes a branch that forgets what it holds;
* `Kept`, `kept_next` -- what clean steps keep;
* `lost_of_not_clean` -- and every other step loses something;
* **`balanced_iff`**; `removal_leaks`.
-/

namespace Xencons.Monitor.Resources

open Lib Function

/-! ## 1. Who holds what -/

/-- The fields that are filled where `ConsoleCreate` goes on or unwinds in order. -/
def ConsolePc.filled : ConsolePc → List Field
  | .fail2 | .wcsdup => [.console]
  | .fail3 | .createFile => [.devicePath, .console]
  | .fail4 | .deviceIoControl | .strdup => [.deviceHandle, .devicePath, .console]
  | .registerDeviceNotification => [.deviceName, .deviceHandle, .devicePath, .console]
  | .createDeviceEvent =>
    [.deviceNotification, .deviceName, .deviceHandle, .devicePath, .console]
  | .createDeviceThread =>
    [.deviceEvent, .deviceNotification, .deviceName, .deviceHandle, .devicePath, .console]
  | .createServerEvent =>
    [.deviceThread, .deviceEvent, .deviceNotification, .deviceName, .deviceHandle, .devicePath,
      .console]
  | .createServerThread =>
    [.serverEvent, .deviceThread, .deviceEvent, .deviceNotification, .deviceName, .deviceHandle,
      .devicePath, .console]
  | .createExecutableEvent =>
    [.serverThread, .serverEvent, .deviceThread, .deviceEvent, .deviceNotification, .deviceName,
      .deviceHandle, .devicePath, .console]
  | .createExecutableThread =>
    [.executableEvent, .serverThread, .serverEvent, .deviceThread, .deviceEvent,
      .deviceNotification, .deviceName, .deviceHandle, .devicePath, .console]
  | .listed =>
    [.executableThread, .executableEvent, .serverThread, .serverEvent, .deviceThread, .deviceEvent,
      .deviceNotification, .deviceName, .deviceHandle, .devicePath, .console]
  | _ => []

/-- The creation goes on, or unwinds. -/
def ConsolePc.orderly : ConsolePc → Bool
  | .absent | .malloc | .wcsdup | .createFile | .deviceIoControl | .strdup
  | .registerDeviceNotification | .createDeviceEvent | .createDeviceThread | .createServerEvent
  | .createServerThread | .createExecutableEvent | .createExecutableThread | .listed | .fail4
  | .fail3 | .fail2 | .gone => true
  | _ => false

/-- The variables that the threads of a console hold something in. -/
def Console.holds (x : Console) : Own → Bool
  | .deviceOverlapped => x.device ∈ [.createFile, .wait, .closeDevice, .closeEvent]
  | .device => x.device ∈ [.wait, .closeDevice]
  | .serverOverlapped => x.server ∉ [.absent, .createEvent, .ended]
  | .securityDescriptor =>
    x.server ∉ [.absent, .createEvent, .convertDescriptor, .closeEvent, .ended]
  | .executable => x.executable ∉ [.absent, .getExecutable, .ended]
  | .process => x.executable ∈ [.wait, .closeProcess true, .closeProcess false]
  | .processThread =>
    x.executable ∈ [.wait, .closeProcess true, .closeProcess false, .closeProcessThread true,
      .closeProcessThread false]
  | .events => false

/-- What there is of a connection. -/
def ConnectionPc.holds (pc : ConnectionPc) : Part → Bool
  | .connection => pc ∉ [.absent, .listening, .ended]
  | .pipe => pc ∉ [.absent, .closeThread, .freeConnection, .ended]
  | .thread => pc ∈ [.createEvent, .wait, .closeEvent, .closePipe, .closeThread]
  | .overlapped => pc ∈ [.wait, .closeEvent]

/-- **What belongs to the consoles in the list.** -/
def Belongs (s : Context) : Resource → Prop
  | .field c _ => (s.console c).pc = .listed
  | .own c v => (s.console c).pc = .listed ∧ (s.console c).holds v = true
  | .part i x =>
    (s.console (s.connection i).console).pc = .listed ∧ (s.connection i).pc.holds x = true

/-- Each console is in the list, or gone with its threads ended. -/
structure Settled (s : Context) : Prop where
  console : ∀ c < s.consoles, (s.console c).pc = .listed ∨
    (s.console c).pc = .gone ∧ (s.console c).device ∈ [.absent, .ended] ∧
      (s.console c).server ∈ [.absent, .ended] ∧ (s.console c).executable ∈ [.absent, .ended]
  connection : ∀ i < s.connections, (s.console (s.connection i).console).pc = .listed ∨
    (s.connection i).pc = .ended

/-- **Everything that was taken is there or has been given back**, and nothing else has been. -/
structure Balanced (s : Context) : Prop where
  astray : s.astray = 0
  live : ∀ r, s.live r = true ↔ Belongs s r

/-! ## 2. The steps that lose nothing -/

/-- A step that is taken in order: no console is removed, and `ConsoleCreate` does not fail behind
    `_strdup`; `ServerThread` does not come to its `LocalFree`; a connection's thread has its event,
    and closes its handle when that has been assigned; the wait of `ExecutableThread` does not
    fail. -/
def Clean (s : Context) : Label → Prop
  | .arrival | .deviceThread .. => True
  | .console c a => (s.console c).pc ∈ [.registerDeviceNotification, .createDeviceEvent,
      .createDeviceThread, .createServerEvent, .createServerThread, .createExecutableEvent,
      .createExecutableThread] → a = .succeeds
  | .removal _ => False
  | .serverThread c _ => (s.console c).server ≠ .localFree
  | .executableThread c a => (s.console c).executable = .wait → a ≠ .fails
  | .connectionThread i a =>
    ((s.connection i).pc = .createEvent → a = .succeeds) ∧
      ((s.connection i).pc = .closeThread → (s.connection i).assigned = true)

instance (s : Context) : ∀ l, Decidable (Clean s l)
  | .arrival | .deviceThread .. => .isTrue trivial
  | .console .. => inferInstanceAs (Decidable (_ → _))
  | .removal _ => .isFalse id
  | .serverThread .. => inferInstanceAs (Decidable (¬_))
  | .executableThread .. => inferInstanceAs (Decidable (_ → _))
  | .connectionThread .. => inferInstanceAs (Decidable (_ ∧ _))

/-! ## 3. What clean steps keep -/

/-- A console whose creation has gone on in order, and what is live of it. -/
structure KeptConsole (live : Resource → Bool) (c : Nat) (x : Console) : Prop where
  orderly : x.pc.orderly = true
  fields : ∀ f, x.fields f = decide (f ∈ x.pc.filled)
  field : ∀ f, live (.field c f) = decide (f ∈ x.pc.filled)
  own : ∀ v, live (.own c v) = x.holds v

/-- **What is live is what somebody holds**, and nothing has gone astray. -/
structure Kept (s : Context) : Prop where
  astray : s.astray = 0
  console : ∀ c, KeptConsole s.live c (s.console c)
  part : ∀ i x, s.live (.part i x) = (s.connection i).pc.holds x

/-- The console or the connection that something is of. -/
def Resource.owner : Resource → Nat ⊕ Nat
  | .field c _ | .own c _ => .inl c
  | .part i _ => .inr i

section Kept

variable {s : Context} {l : Label} {c i : Nat} {a : Answer} {f : Field} {v : Own}

theorem kept_init : Kept .init where
  astray := rfl
  console _ := ⟨rfl, fun _ => rfl, fun _ => rfl, fun v => by cases v <;> rfl⟩
  part _ x := by cases x <;> rfl

theorem KeptConsole.congr {live live' : Resource → Bool} {x : Console}
    (h : KeptConsole live c x) (hlive : ∀ r, r.owner = .inl c → live' r = live r) :
    KeptConsole live' c x where
  orderly := h.orderly
  fields := h.fields
  field f := (hlive _ rfl).trans (h.field f)
  own v := (hlive _ rfl).trans (h.own v)

/-- A step of one console and its threads. -/
theorem Kept.setConsole (h : Kept s) {live : Resource → Bool} {x : Console}
    (hrest : ∀ r, r.owner ≠ .inl c → live r = s.live r) (hx : KeptConsole live c x) :
    Kept { s.setConsole c x with live := live } where
  astray := h.astray
  console c' := by
    show KeptConsole live c' (update s.console c x c')
    by_cases he : c' = c
    · rw [he, update_self]; exact hx
    · rw [update_of_ne he]
      refine (h.console c').congr fun r hr => hrest r ?_
      rw [hr]
      exact fun e => he (Sum.inl.inj e)
  part i y := (hrest _ (by nofun)).trans (h.part i y)

/-- A step of one connection. -/
theorem Kept.setConnection (h : Kept s) {live : Resource → Bool} {y : Connection}
    (hrest : ∀ r, r.owner ≠ .inr i → live r = s.live r)
    (hy : ∀ x, live (.part i x) = y.pc.holds x) :
    Kept { s.setConnection i y with live := live } where
  astray := h.astray
  console c := (h.console c).congr fun r hr => hrest r (by rw [hr]; nofun)
  part j x := by
    show live (.part j x) = (update s.connection i y j).pc.holds x
    by_cases he : j = i
    · rw [he, update_self]; exact hy x
    · rw [update_of_ne he, ← h.part j x]
      exact hrest _ fun e => he (Sum.inr.inj e)

theorem rest_update {live : Resource → Bool} {r r' : Resource} (b : Bool)
    (hr : r'.owner ≠ r.owner) : update live r b r' = live r' :=
  update_of_ne (fun e => hr (congrArg _ e)) _ _

/-- A thread of a console goes on and takes nothing. -/
theorem Kept.setOwn (h : Kept s) {x₀ x : Console} (hx : s.console c = x₀) (hpc : x.pc = x₀.pc)
    (hfields : x.fields = x₀.fields) (hholds : ∀ v, x.holds v = x₀.holds v) :
    Kept (s.setConsole c x) := by
  subst hx
  obtain ⟨horderly, hfs, hfield, hown⟩ := h.console c
  exact h.setConsole (fun _ _ => rfl)
    ⟨by rwa [hpc], by rwa [hpc, hfields], by rwa [hpc], fun v => (hown v).trans (hholds v).symm⟩

/-- What is live of a console, when a thread takes or gives something. -/
theorem KeptConsole.update_own {live : Resource → Bool} {x x' : Console}
    (h : KeptConsole live c x) (b : Bool) (hpc : x'.pc = x.pc) (hfields : x'.fields = x.fields)
    (hholds : ∀ v', x'.holds v' = update x.holds v b v') :
    KeptConsole (update live (.own c v) b) c x' where
  orderly := by rw [hpc]; exact h.orderly
  fields := by rw [hpc, hfields]; exact h.fields
  field f := by rw [hpc, update_of_ne (by nofun)]; exact h.field f
  own v' := by
    rw [hholds]
    by_cases he : v' = v
    · rw [he, update_self, update_self]
    · rw [update_of_ne (fun e => he (by injection e)), update_of_ne he]
      exact h.own v'

theorem Kept.takeOwn (h : Kept s) {x₀ x : Console} (hx : s.console c = x₀) (hpc : x.pc = x₀.pc)
    (hfields : x.fields = x₀.fields) (hnot : x₀.holds v = false)
    (hholds : ∀ v', x.holds v' = update x₀.holds v true v') :
    Kept ((s.take (.own c v)).setConsole c x) := by
  subst hx
  rw [Context.take_of_not_live (((h.console c).own v).trans hnot)]
  exact h.setConsole (fun r hr => rest_update true hr)
    ((h.console c).update_own true hpc hfields hholds)

theorem Kept.giveOwn (h : Kept s) {x₀ x : Console} {k : Release} (hx : s.console c = x₀)
    (hpc : x.pc = x₀.pc) (hfields : x.fields = x₀.fields) (hheld : x₀.holds v = true)
    (hk : (Resource.own c v).release = k)
    (hholds : ∀ v', x.holds v' = update x₀.holds v false v') :
    Kept ((s.give k (.own c v)).setConsole c x) := by
  subst hx
  rw [Context.give_of_live (((h.console c).own v).trans hheld) hk]
  exact h.setConsole (fun r hr => rest_update false hr)
    ((h.console c).update_own false hpc hfields hholds)

theorem Kept.update_part (h : Kept s) (b : Bool) (x x' : Part) :
    update s.live (.part i x) b (.part i x') = update (s.connection i).pc.holds x b x' := by
  by_cases he : x' = x
  · rw [he, update_self, update_self]
  · rw [update_of_ne (fun e => he (by injection e)), update_of_ne he]
    exact h.part i x'

theorem Kept.takePart (h : Kept s) {x : Part} {pc : ConnectionPc} {y : Connection}
    (hpc : (s.connection i).pc = pc) (hnot : pc.holds x = false)
    (hholds : ∀ x', y.pc.holds x' = update pc.holds x true x') :
    Kept ((s.take (.part i x)).setConnection i y) := by
  subst hpc
  rw [Context.take_of_not_live ((h.part i x).trans hnot)]
  exact h.setConnection (fun r hr => rest_update true hr)
    fun x' => (h.update_part true x x').trans (hholds x').symm

theorem Kept.givePart (h : Kept s) {x : Part} {pc : ConnectionPc} {y : Connection} {k : Release}
    (hpc : (s.connection i).pc = pc) (hheld : pc.holds x = true)
    (hk : (Resource.part i x).release = k)
    (hholds : ∀ x', y.pc.holds x' = update pc.holds x false x') :
    Kept ((s.give k (.part i x)).setConnection i y) := by
  subst hpc
  rw [Context.give_of_live ((h.part i x).trans hheld) hk]
  exact h.setConnection (fun r hr => rest_update false hr)
    fun x' => (h.update_part false x x').trans (hholds x').symm

/-- The creation goes on or unwinds, and takes nothing. -/
theorem Kept.to (h : Kept s) {pc : ConsolePc} (horderly : pc.orderly = true)
    (hfilled : pc.filled = (s.console c).pc.filled) : Kept (s.setPc c pc) := by
  obtain ⟨-, hfs, hfield, hown⟩ := h.console c
  refine h.setConsole (fun _ _ => rfl) ⟨horderly, ?_, ?_, hown⟩
  · show ∀ f, (s.console c).fields f = decide (f ∈ pc.filled)
    rwa [hfilled]
  · show ∀ f, s.live (.field c f) = decide (f ∈ pc.filled)
    rwa [hfilled]

/-- What is live of a console, when a field is filled or emptied. -/
theorem KeptConsole.update_field {live : Resource → Bool} {x : Console} (h : KeptConsole live c x)
    (b : Bool) (pc : ConsolePc) (horderly : pc.orderly = true)
    (hfilled : ∀ f', decide (f' ∈ pc.filled) =
      update (fun f' => decide (f' ∈ x.pc.filled)) f b f') :
    KeptConsole (update live (.field c f) b) c
      { x with pc := pc, fields := update x.fields f b } where
  orderly := horderly
  fields f' := by
    show update x.fields f b f' = decide (f' ∈ pc.filled)
    rw [hfilled, funext h.fields]
  field f' := by
    show update live (.field c f) b (.field c f') = decide (f' ∈ pc.filled)
    rw [hfilled]
    by_cases he : f' = f
    · rw [he, update_self, update_self]
    · rw [update_of_ne (fun e => he (by injection e)), update_of_ne he]
      exact h.field f'
  own v := by
    rw [update_of_ne (by nofun)]
    exact h.own v

theorem decide_mem_cons {fs : List Field} (f f' : Field) :
    decide (f' ∈ f :: fs) = update (fun f' => decide (f' ∈ fs)) f true f' := by
  by_cases he : f' = f
  · rw [he, update_self]
    exact decide_eq_true List.mem_cons_self
  · rw [update_of_ne he, decide_eq_decide]
    exact List.mem_cons.trans (or_iff_right he)

theorem Kept.fill (h : Kept s) {pc next fail : ConsolePc} (hpc : (s.console c).pc = pc)
    (hnot : f ∉ pc.filled) (hnext : next.filled = f :: pc.filled) (horderly : next.orderly = true)
    (hfail : a ≠ .succeeds → fail.orderly = true ∧ fail.filled = pc.filled) :
    Kept (s.fill c f a next fail) := by
  subst hpc
  unfold Context.fill
  split
  case isTrue =>
    rw [Context.take_of_not_live (((h.console c).field f).trans (decide_eq_false hnot))]
    refine h.setConsole (fun r hr => rest_update true hr)
      ((h.console c).update_field true _ horderly fun f' => ?_)
    rw [hnext, decide_mem_cons]
  case isFalse hs => exact h.to (hfail hs).1 (hfail hs).2

theorem Kept.empty (h : Kept s) {pc next : ConsolePc} {k : Release} (hpc : (s.console c).pc = pc)
    (hfilled : pc.filled = f :: next.filled) (hnot : f ∉ next.filled)
    (horderly : next.orderly = true) (hk : (Resource.field c f).release = k) :
    Kept (s.empty c k f next) := by
  subst hpc
  have hmem : decide (f ∈ (s.console c).pc.filled) = true := by
    rw [hfilled]; exact decide_eq_true List.mem_cons_self
  rw [Context.empty, if_pos (((h.console c).fields f).trans hmem),
    Context.give_of_live (((h.console c).field f).trans hmem) hk]
  refine h.setConsole (fun r hr => rest_update false hr)
    ((h.console c).update_field false _ horderly fun f' => ?_)
  rw [hfilled, funext (decide_mem_cons f), update_idem]
  by_cases he : f' = f
  · rw [he, update_self]
    exact decide_eq_false hnot
  · rw [update_of_ne he]

/-- `fail2` -/
theorem Kept.freeConsole (h : Kept s) (hpc : (s.console c).pc = .fail2) :
    Kept (s.freeConsole c) := by
  have hlive : s.live (.field c .console) = true := by
    rw [(h.console c).field, hpc]; rfl
  have hgone : ∀ f, decide (f ∈ ConsolePc.gone.filled) =
      update (fun f => decide (f ∈ (s.console c).pc.filled)) .console false f := by
    intro f; rw [hpc]; cases f <;> rfl
  have hfields : update (s.console c).fields .console false = fun _ => false := by
    funext f; rw [funext (h.console c).fields, hpc]; cases f <;> rfl
  have hx := (h.console c).update_field (f := .console) false .gone rfl hgone
  rw [hfields] at hx
  rw [Context.freeConsole, Context.give_of_live (k := .free) hlive rfl]
  exact h.setConsole (fun r hr => rest_update false hr) hx

/-- A console that begins, and the threads that it creates, hold nothing yet. -/
theorem Kept.arrival (h : Kept s) (hl : Linked s) : Kept s.arrival := by
  have hpc : (s.console s.consoles).pc = .absent := hl.beyond _ (Nat.le_refl _)
  have hto : Kept (s.setPc s.consoles .malloc) := h.to rfl (by rw [hpc]; rfl)
  exact ⟨hto.astray, hto.console, hto.part⟩

theorem kept_consoleStep (h : Kept s) (hl : Linked s) (hclean : Clean s (.console c a)) :
    Kept (s.consoleStep c a) := by
  have horderly := (h.console c).orderly
  cases hpc : (s.console c).pc <;> simp only [Context.consoleStep, hpc] <;>
    rw [hpc] at horderly <;> try cases horderly
  case absent | listed | gone => exact h
  case malloc | wcsdup | createFile | strdup =>
    exact h.fill hpc (by decide) rfl rfl fun _ => ⟨rfl, rfl⟩
  case registerDeviceNotification | createDeviceEvent | createServerEvent |
      createExecutableEvent =>
    have hs : a = .succeeds := hclean (by rw [hpc]; decide)
    exact h.fill hpc (by decide) rfl rfl (absurd hs)
  case createDeviceThread =>
    have hs : a = .succeeds := hclean (by rw [hpc]; decide)
    have hfill : Kept (s.fill c .deviceThread a .createServerEvent .fail8) :=
      h.fill hpc (by decide) rfl rfl (absurd hs)
    have habsent : (s.console c).device = .absent := hl.device c (by rw [hpc]; rfl)
    rw [if_pos hs]
    refine hfill.setOwn rfl rfl rfl fun v => ?_
    cases v <;> simp only [Console.holds, Context.fill_device, habsent] <;> rfl
  case createServerThread =>
    have hs : a = .succeeds := hclean (by rw [hpc]; decide)
    have hfill : Kept (s.fill c .serverThread a .createExecutableEvent .fail10) :=
      h.fill hpc (by decide) rfl rfl (absurd hs)
    have habsent : (s.console c).server = .absent := hl.server c (by rw [hpc]; rfl)
    rw [if_pos hs]
    refine hfill.setOwn rfl rfl rfl fun v => ?_
    cases v <;> simp only [Console.holds, Context.fill_server, habsent] <;> rfl
  case createExecutableThread =>
    have hs : a = .succeeds := hclean (by rw [hpc]; decide)
    have hfill : Kept (s.fill c .executableThread a .listed .fail12) :=
      h.fill hpc (by decide) rfl rfl (absurd hs)
    have habsent : (s.console c).executable = .absent := hl.executable c (by rw [hpc]; rfl)
    rw [if_pos hs]
    refine hfill.setOwn rfl rfl rfl fun v => ?_
    cases v <;> simp only [Console.holds, Context.fill_executable, habsent] <;> rfl
  case deviceIoControl =>
    refine h.to ?_ ?_
    · split <;> rfl
    · rw [hpc]; split <;> rfl
  case fail4 | fail3 => exact h.empty hpc rfl (by decide) rfl rfl
  case fail2 => exact h.freeConsole hpc

theorem kept_deviceStep (h : Kept s) (c : Nat) (a : Answer) : Kept (s.deviceStep c a) := by
  have hx {pc : DevicePc} (hpc : (s.console c).device = pc) :
      s.console c = { s.console c with device := pc } := by rw [← hpc]
  cases hpc : (s.console c).device <;>
    simp only [Context.deviceStep, hpc, Context.setDevice, Context.take_console,
      Context.give_console]
  case absent | ended => exact h
  case createEvent | createFile =>
    split
    · exact h.takeOwn (hx hpc) rfl rfl rfl fun v => by cases v <;> rfl
    · exact h.setOwn (hx hpc) rfl rfl fun v => by cases v <;> rfl
  case wait =>
    split
    · exact h
    · exact h.setOwn (hx hpc) rfl rfl fun v => by cases v <;> rfl
  case closeDevice | closeEvent =>
    exact h.giveOwn (hx hpc) rfl rfl rfl rfl fun v => by cases v <;> rfl

/-- `CreateProcess` gives two handles. -/
theorem Kept.takeProcess (h : Kept s) (hpc : (s.console c).executable = .createProcess) :
    Kept (((s.take (.own c .process)).take (.own c .processThread)).setConsole c
      { s.console c with executable := .wait }) := by
  have hown : ∀ v, s.live (.own c v) = (s.console c).holds v := (h.console c).own
  have hprocess : s.live (.own c .process) = false := by
    rw [hown]; simp only [Console.holds, hpc]; rfl
  have hthread : (update s.live (.own c .process) true) (.own c .processThread) = false := by
    rw [update_of_ne (by nofun), hown]; simp only [Console.holds, hpc]; rfl
  obtain ⟨horderly, hfields, hfield, -⟩ := h.console c
  have hkept : KeptConsole (update (update s.live (.own c .process) true) (.own c .processThread)
      true) c { s.console c with executable := .wait } := by
    refine ⟨horderly, hfields, fun f => ?_, fun v => ?_⟩
    · rw [update_of_ne (by nofun), update_of_ne (by nofun)]
      exact hfield f
    · cases v
      case process => rw [update_of_ne (by nofun), update_self]; rfl
      case processThread => rw [update_self]; rfl
      all_goals
        rw [update_of_ne (by nofun), update_of_ne (by nofun), hown]
        simp only [Console.holds, hpc] <;> rfl
  rw [Context.take_of_not_live hprocess, Context.take_of_not_live hthread]
  exact h.setConsole (fun r hr => (rest_update true hr).trans (rest_update true hr)) hkept

theorem kept_executableStep (h : Kept s) (hclean : Clean s (.executableThread c a)) :
    Kept (s.executableStep c a) := by
  have hx {pc : ExecutablePc} (hpc : (s.console c).executable = pc) :
      s.console c = { s.console c with executable := pc } := by rw [← hpc]
  cases hpc : (s.console c).executable <;>
    simp only [Context.executableStep, hpc, Context.setExecutable, Context.take_console,
      Context.give_console]
  case absent | ended => exact h
  case getExecutable =>
    split
    · exact h.takeOwn (hx hpc) rfl rfl rfl fun v => by cases v <;> rfl
    · exact h.setOwn (hx hpc) rfl rfl fun v => by cases v <;> rfl
  case createProcess =>
    split
    · exact h.takeProcess hpc
    · exact h.setOwn (hx hpc) rfl rfl fun v => by cases v <;> rfl
  case wait =>
    cases a
    case event | succeeds => exact h.setOwn (hx hpc) rfl rfl fun v => by cases v <;> rfl
    case fails => exact absurd rfl (hclean hpc)
  case closeProcess again | closeProcessThread again =>
    refine h.giveOwn (hx hpc) rfl rfl ?_ rfl fun v => ?_
    · cases again <;> rfl
    · cases again <;> cases v <;> rfl
  case freeExecutable =>
    exact h.giveOwn (hx hpc) rfl rfl rfl rfl fun v => by cases v <;> rfl

theorem kept_connectionStep (h : Kept s) (hclean : Clean s (.connectionThread i a)) :
    Kept (s.connectionStep i a) := by
  cases hpc : (s.connection i).pc <;>
    simp only [Context.connectionStep, hpc, Context.setConnectionPc, Context.take_connection,
      Context.give_connection]
  case absent | listening | allocated | ended => exact h
  case createEvent =>
    rw [if_pos (hclean.1 hpc)]
    exact h.takePart hpc rfl fun x => by cases x <;> rfl
  case wait =>
    split
    · exact h
    · refine h.setConnection (fun _ _ => rfl) fun x => ?_
      rw [h.part, hpc]; cases x <;> rfl
  case closeThread =>
    rw [if_pos (hclean.2 hpc)]
    exact h.givePart hpc rfl rfl fun x => by cases x <;> rfl
  case closeEvent | closePipe | freeConnection =>
    exact h.givePart hpc rfl rfl fun x => by cases x <;> rfl

/-- `ServerThread` goes on and holds the same. -/
theorem Kept.setServer (h : Kept s) {p : ServerPc} (hpc : (s.console c).server = p)
    (pc : ServerPc) (hholds : ∀ v, { s.console c with server := pc }.holds v =
      { s.console c with server := p }.holds v) : Kept (s.setServer c pc) := by
  subst hpc
  exact h.setOwn rfl rfl rfl hholds

theorem kept_serverStep (h : Kept s) (hl : Linked s) (hclean : Clean s (.serverThread c a)) :
    Kept (s.serverStep c a) := by
  have hx {pc : ServerPc} (hpc : (s.console c).server = pc) :
      s.console c = { s.console c with server := pc } := by rw [← hpc]
  have hmaking {i : Nat} {pc : ConnectionPc} (hm : (s.console c).server.making = some (i, pc)) :
      (s.connection i).pc = pc := (hl.making c i pc hm).1
  -- the thread's own handles are the same when it takes or gives a part of a connection
  have htake (r : Resource) {pc : ServerPc} (hpc : (s.console c).server = pc) :
      ((s.take r).console c).server = pc := by rw [Context.take_console, hpc]
  have hgive (k : Release) (r : Resource) {pc : ServerPc} (hpc : (s.console c).server = pc) :
      ((s.give k r).console c).server = pc := by rw [Context.give_console, hpc]
  cases hpc : (s.console c).server <;>
    simp only [Context.serverStep, hpc, Context.setConnectionPc, Context.take_connection,
      Context.give_connection]
  case absent | ended => exact h
  case createEvent | convertDescriptor =>
    split
    · simp only [Context.setServer, Context.take_console]
      exact h.takeOwn (hx hpc) rfl rfl rfl fun v => by cases v <;> rfl
    · exact h.setServer hpc _ fun v => by cases v <;> rfl
  case createNamedPipe =>
    split
    · have hnew : (s.connection s.connections).pc = .absent := hl.unmade _ (Nat.le_refl _)
      have hpipe : Kept ((s.take (.part s.connections .pipe)).setConnection s.connections
          ⟨.listening, false, c⟩) := h.takePart hnew rfl fun x => by cases x <;> rfl
      have hwait := hpipe.setServer (c := c) (htake _ hpc) (.wait s.connections)
        fun v => by cases v <;> rfl
      exact ⟨hwait.astray, hwait.console, hwait.part⟩
    · exact h.setServer hpc _ fun v => by cases v <;> rfl
  case wait i =>
    refine h.setServer hpc _ fun v => ?_
    split <;> cases v <;> rfl
  case malloc i =>
    have hlistening := hmaking (by rw [hpc]; rfl)
    split
    · have hpart : Kept ((s.take (.part i .connection)).setConnection i
          { s.connection i with pc := .allocated }) :=
        h.takePart hlistening rfl fun x => by cases x <;> rfl
      exact hpart.setServer (htake _ hpc) _ fun v => by cases v <;> rfl
    · exact h.setServer hpc _ fun v => by cases v <;> rfl
  case createThread i =>
    have hallocated := hmaking (by rw [hpc]; rfl)
    split
    · have hpart : Kept ((s.take (.part i .thread)).setConnection i
          { s.connection i with pc := .createEvent }) :=
        h.takePart hallocated rfl fun x => by cases x <;> rfl
      exact hpart.setServer (htake _ hpc) _ fun v => by cases v <;> rfl
    · exact h.setServer hpc _ fun v => by cases v <;> rfl
  case assign i =>
    have hassigned := h.setConnection (i := i) (y := { s.connection i with assigned := true })
      (fun _ _ => rfl) (h.part i)
    exact hassigned.setServer (c := c) hpc _ fun v => by cases v <;> rfl
  case freeConnection i =>
    have hallocated := hmaking (by rw [hpc]; rfl)
    have hpart : Kept ((s.give .free (.part i .connection)).setConnection i
        { s.connection i with pc := .listening }) :=
      h.givePart hallocated rfl rfl fun x => by cases x <;> rfl
    exact hpart.setServer (hgive _ _ hpc) _ fun v => by cases v <;> rfl
  case closePipe i =>
    have hlistening := hmaking (by rw [hpc]; rfl)
    have hpart : Kept ((s.give .closeHandle (.part i .pipe)).setConnection i
        { s.connection i with pc := .ended }) :=
      h.givePart hlistening rfl rfl fun x => by cases x <;> rfl
    exact hpart.setServer (hgive _ _ hpc) _ fun v => by cases v <;> rfl
  case localFree => exact absurd hpc hclean
  case closeEvent =>
    simp only [Context.setServer, Context.give_console]
    exact h.giveOwn (hx hpc) rfl rfl rfl rfl fun v => by cases v <;> rfl

/-- **A clean step keeps the balance.** -/
theorem kept_next (h : Kept s) (hl : Linked s) (hclean : Clean s l) : Kept (system.next s l) := by
  cases l with
  | arrival => exact h.arrival hl
  | console c a => exact kept_consoleStep h hl hclean
  | removal c => exact hclean.elim
  | deviceThread c a => exact kept_deviceStep h c a
  | serverThread c a => exact kept_serverStep h hl hclean
  | executableThread c a => exact kept_executableStep h hclean
  | connectionThread i a => exact kept_connectionStep h hclean

/-- A console whose creation fails behind its name, or that is removed, has a name for ever. -/
theorem Kept.lost_of_name (h : Kept s) (hname : Field.deviceName ∈ (s.console c).pc.filled)
    {t : Context} (hlive : t.live = s.live) (hpc : (t.console c).pc.leaving = true) : Lost t := by
  refine .inr ⟨.field c .deviceName, hpc, ?_⟩
  rw [hlive, (h.console c).field]
  exact decide_eq_true hname

theorem leaving_setPc {pc : ConsolePc} (hpc : pc.leaving = true) :
    ((s.setPc c pc).console c).pc.leaving = true := by
  rw [Context.setPc, Context.setConsole_console]
  exact hpc

/-- A call fails behind `_strdup`. -/
theorem Kept.lost_of_fail (h : Kept s) (ha : a ≠ .succeeds)
    (hpc : (s.console c).pc ∈ [.registerDeviceNotification, .createDeviceEvent,
      .createDeviceThread, .createServerEvent, .createServerThread, .createExecutableEvent,
      .createExecutableThread]) : Lost (s.consoleStep c a) := by
  cases hpc' : (s.console c).pc <;> rw [hpc'] at hpc <;> try exact absurd hpc (by decide)
  all_goals
    have hname : Field.deviceName ∈ (s.console c).pc.filled := by rw [hpc']; decide
    simp only [Context.consoleStep, hpc', Context.fill, if_neg ha]
    exact h.lost_of_name hname rfl (leaving_setPc rfl)

/-- **Any other step loses something.** -/
theorem lost_of_not_clean (h : Kept s) (he : system.enabled s l) (hclean : ¬ Clean s l) :
    Lost (system.next s l) := by
  cases l with
  | arrival | deviceThread => exact absurd trivial hclean
  | console c a =>
    obtain ⟨hpc, ha⟩ := Classical.not_imp.mp hclean
    exact h.lost_of_fail ha hpc
  | removal c =>
    have hpc : (s.console c).pc = .listed := of_decide_eq_true he
    exact h.lost_of_name (by rw [hpc]; decide) rfl (leaving_setPc rfl)
  | serverThread c a =>
    -- the address of a variable is given to `LocalFree`
    have hpc : (s.console c).server = .localFree := Classical.not_not.mp hclean
    show Lost (s.serverStep c a)
    rw [Context.serverStep, hpc]
    exact .inl (Nat.succ_ne_zero _)
  | executableThread c a =>
    obtain ⟨hpc, ha⟩ := Classical.not_imp.mp hclean
    obtain rfl := Classical.not_not.mp ha
    show Lost (s.executableStep c .fails)
    simp only [Context.executableStep, hpc, Context.setExecutable]
    refine .inr ⟨.own c .process, .inl (by rw [Context.setConsole_console]), ?_⟩
    show s.live (.own c .process) = true
    rw [(h.console c).own]
    simp only [Console.holds, hpc]; rfl
  | connectionThread i a =>
    show Lost (s.connectionStep i a)
    by_cases hcreate : (s.connection i).pc = .createEvent → a = .succeeds
    · have hthread := fun hthread => hclean ⟨hcreate, hthread⟩
      obtain ⟨hpc, hassigned⟩ := Classical.not_imp.mp hthread
      rw [Context.connectionStep, hpc]
      show Lost (if (s.connection i).assigned = true then _ else _)
      rw [if_neg hassigned]
      exact .inl (Nat.succ_ne_zero _)
    · obtain ⟨hpc, ha⟩ := Classical.not_imp.mp hcreate
      simp only [Context.connectionStep, hpc, if_neg ha, Context.setConnectionPc]
      refine .inr ⟨.part i .pipe, by rw [Stuck, Context.setConnection_connection], ?_⟩
      show s.live (.part i .pipe) = true
      rw [h.part, hpc]; rfl

end Kept

/-! ## 4. Runs -/

section Runs

variable {s : Context}

/-- What has been lost does not belong to anybody. -/
theorem Lost.not_balanced (h : Lost s) : ¬ Balanced s := by
  intro hb
  rcases h with ha | ⟨r, hr, hl⟩
  · exact ha hb.astray
  · have hbelongs := (hb.live r).mp hl
    cases r with
    | field c f =>
      cases f <;> try exact hr
      have hlisted : (s.console c).pc = .listed := hbelongs
      rw [Stuck, hlisted] at hr
      cases hr
    | own c v =>
      cases v <;> try exact hr
      have hheld : (s.console c).holds .process = true := hbelongs.2
      rcases hr with e | e <;> simp only [Console.holds, e] at hheld <;> cases hheld
    | part i x =>
      cases x <;> try exact hr
      have hheld : (s.connection i).pc.holds .pipe = true := hbelongs.2
      rw [show (s.connection i).pc = .ended from hr] at hheld
      cases hheld

/-- A console whose threads have ended, or never began, holds nothing. -/
theorem holds_of_ended {x : Console} (hd : x.device ∈ [DevicePc.absent, .ended])
    (hs : x.server ∈ [ServerPc.absent, .ended])
    (he : x.executable ∈ [ExecutablePc.absent, .ended]) (v : Own) : x.holds v = false := by
  simp only [List.mem_cons, List.not_mem_nil, or_false] at hd hs he
  rcases hd with hd | hd <;> rcases hs with hs | hs <;> rcases he with he | he <;> cases v <;>
    simp only [Console.holds, hd, hs, he] <;> rfl

theorem mem_filled_listed (f : Field) : f ∈ ConsolePc.listed.filled := by cases f <;> decide

/-- **What everybody holds is what belongs to the list**, once nobody else is on the way. -/
theorem Kept.balanced (h : Kept s) (hl : Linked s) (hs : Settled s) : Balanced s where
  astray := h.astray
  live r := by
    -- a console is in the list, gone or yet to come
    have hconsole (c : Nat) : (s.console c).pc = .listed ∨
        (s.console c).pc.filled = [] ∧ ∀ v, (s.console c).holds v = false := by
      rcases Nat.lt_or_ge c s.consoles with hc | hc
      · rcases hs.console c hc with hpc | ⟨hpc, hd, hsv, he⟩
        · exact .inl hpc
        · exact .inr ⟨by rw [hpc]; rfl, holds_of_ended hd hsv he⟩
      · have hpc := hl.beyond c hc
        refine .inr ⟨by rw [hpc]; rfl, holds_of_ended ?_ ?_ ?_⟩
        · rw [hl.device c (by rw [hpc]; rfl)]; decide
        · rw [hl.server c (by rw [hpc]; rfl)]; decide
        · rw [hl.executable c (by rw [hpc]; rfl)]; decide
    cases r with
    | field c f =>
      rw [(h.console c).field, decide_eq_true_iff]
      rcases hconsole c with hpc | ⟨hfilled, -⟩
      · exact iff_of_true (hpc ▸ mem_filled_listed f) hpc
      · rw [hfilled]
        refine iff_of_false List.not_mem_nil fun hpc : (s.console c).pc = .listed => ?_
        rw [hpc] at hfilled
        cases hfilled
    | own c v =>
      rw [(h.console c).own]
      refine ⟨fun hheld => ⟨?_, hheld⟩, And.right⟩
      rcases hconsole c with hpc | ⟨-, hnone⟩
      · exact hpc
      · rw [hnone v] at hheld; cases hheld
    | part i x =>
      rw [h.part]
      refine ⟨fun hheld => ⟨?_, hheld⟩, And.right⟩
      rcases Nat.lt_or_ge i s.connections with hi | hi
      · rcases hs.connection i hi with hpc | hended
        · exact hpc
        · rw [hended] at hheld; cases x <;> cases hheld
      · rw [hl.unmade i hi] at hheld; cases x <;> cases hheld

/-- What has been lost in a run is lost at its end. -/
theorem Lost.runs (hl : Linked s) (h : Lost s) (ls : List Label)
    (ha : Admits system (fun _ _ => True) s ls) : Lost (Lib.runs system s ls) := by
  induction ls generalizing s with
  | nil => exact h
  | cons l ls ih =>
    obtain ⟨he, -, ha⟩ := ha
    exact ih (linked_next hl he) ((lasting_next hl he).lost h) ha

/-- A run of clean steps keeps the balance, and every other run loses something. -/
theorem kept_or_lost (hl : Linked s) (h : Kept s) (ls : List Label)
    (ha : Admits system (fun _ _ => True) s ls) :
    Admits system Clean s ls ∧ Linked (Lib.runs system s ls) ∧ Kept (Lib.runs system s ls) ∨
      ¬ Admits system Clean s ls ∧ Lost (Lib.runs system s ls) := by
  induction ls generalizing s with
  | nil => exact .inl ⟨trivial, hl, h⟩
  | cons l ls ih =>
    obtain ⟨he, -, ha⟩ := ha
    have hl' : Linked (system.next s l) := linked_next hl he
    by_cases hclean : Clean s l
    · refine (ih hl' (kept_next h hl hclean) ha).imp ?_ ?_
      · exact fun ⟨hadmits, hrest⟩ => ⟨⟨he, hclean, hadmits⟩, hrest⟩
      · exact fun ⟨hadmits, hlost⟩ => ⟨fun hall => hadmits hall.2.2, hlost⟩
    · exact .inr ⟨fun hall => hclean hall.2.1,
        (lost_of_not_clean h he hclean).runs hl' ls ha⟩

end Runs

/-- **The runs that leave the monitor balanced are those whose steps are all clean**: whatever comes
    and goes, with whatever fails, in any interleaving. -/
theorem balanced_iff (ls : List Label) (h : Admits system (fun _ _ => True) .init ls)
    (hs : Settled (runs system .init ls)) :
    Balanced (runs system .init ls) ↔ Admits system Clean .init ls := by
  rcases kept_or_lost linked_init kept_init ls h with ⟨hclean, hl, hkept⟩ | ⟨hclean, hlost⟩
  · exact iff_of_true (hkept.balanced hl hs) hclean
  · exact iff_of_false hlost.not_balanced hclean

/-- `ConsoleCreate` succeeds. -/
def attach (c : Nat) : List Label := .arrival :: List.replicate 12 (.console c .succeeds)

/-- One console cannot be opened; another one comes into the list, a client connects to it, its
    child ends and is started once more. -/
def twoArrivals : List Label :=
  [.arrival, .console 0 .succeeds, .console 0 .succeeds, .console 0 .fails, .console 0 .succeeds,
    .console 0 .succeeds] ++ attach 1 ++
  [.deviceThread 1 .succeeds, .deviceThread 1 .succeeds, .serverThread 1 .succeeds,
    .serverThread 1 .succeeds, .serverThread 1 .succeeds, .serverThread 1 .succeeds,
    .serverThread 1 .succeeds, .serverThread 1 .succeeds, .connectionThread 0 .succeeds,
    .serverThread 1 .succeeds, .connectionThread 0 .fails, .connectionThread 0 .succeeds,
    .connectionThread 0 .succeeds, .connectionThread 0 .succeeds, .connectionThread 0 .succeeds,
    .executableThread 1 .succeeds, .executableThread 1 .succeeds, .executableThread 1 .succeeds,
    .executableThread 1 .succeeds, .executableThread 1 .succeeds, .executableThread 1 .succeeds]

theorem balanced_iff_twoArrivals :
    Balanced (runs system .init twoArrivals) ↔ Admits system Clean .init twoArrivals :=
  balanced_iff twoArrivals (by decide +kernel) ⟨by decide +kernel, by decide +kernel⟩

/-- A console comes into the list and is removed; every call succeeds. -/
def attachDetach : List Label :=
  attach 0 ++
  [.deviceThread 0 .succeeds, .deviceThread 0 .succeeds, .serverThread 0 .succeeds,
    .serverThread 0 .succeeds, .serverThread 0 .succeeds, .executableThread 0 .succeeds,
    .executableThread 0 .succeeds, .removal 0, .console 0 .succeeds, .executableThread 0 .event,
    .executableThread 0 .succeeds, .executableThread 0 .succeeds, .executableThread 0 .succeeds,
    .console 0 .succeeds, .console 0 .succeeds, .console 0 .succeeds, .console 0 .succeeds,
    .serverThread 0 .event, .serverThread 0 .succeeds, .serverThread 0 .succeeds,
    .serverThread 0 .succeeds, .console 0 .succeeds, .console 0 .succeeds, .console 0 .succeeds,
    .deviceThread 0 .event, .deviceThread 0 .succeeds, .deviceThread 0 .succeeds] ++
  List.replicate 7 (.console 0 .succeeds)

/-- The console is gone, and its name, the handles of its threads, the array of
    `ConsoleWaitForPipes` and the security descriptor are still there. -/
theorem removal_leaks :
    ¬ ∀ ls, Admits system (fun _ _ => True) .init ls → Settled (runs system .init ls) →
      Balanced (runs system .init ls) := by
  intro h
  have hadmits : Admits system (fun _ _ => True) .init attachDetach := by decide +kernel
  have hsettled : Settled (runs system .init attachDetach) :=
    ⟨by decide +kernel, by decide +kernel⟩
  have hname : (runs system .init attachDetach).live (.field 0 .deviceName) = true := by
    decide +kernel
  have hgone : ((runs system .init attachDetach).console 0).pc ≠ .listed := by decide +kernel
  exact hgone (((h attachDetach hadmits hsettled).live _).mp hname)

end Xencons.Monitor.Resources
