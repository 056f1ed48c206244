import Xencons.Monitor.Machine

/-!
# The clients that `ServerThread` does not see (monitor.c)

An instance can be opened from `CreateNamedPipe` on. A client that opens it before
`ConnectNamedPipe` makes that fail with `ERROR_PIPE_CONNECTED`, which completes nothing and signals
nothing; `ServerThread` discards the result and waits all the same.

* `Unserved` -- the state it then waits in;
* `InTime` -- no client opens the instance in that window: `attended_next`, what such steps keep,
  and `unserved_of_not`, where any other leads;
* `pipe_clients_served` -- the result.
-/

namespace Xencons.Monitor

open Lib Function MonitorConsole

/-- A client has the instance open, and `ServerThread` waits for it with nothing that would end the
    wait. -/
def MonitorConsole.Unserved (s : MonitorConsole) (i : Nat) : Prop :=
  s.server = .wait i ∧ (s.pipe i).connected = true ∧ s.overlapped = false ∧
    (s.pipe i).pending = false

instance (s : MonitorConsole) (i : Nat) : Decidable (s.Unserved i) :=
  inferInstanceAs (Decidable (_ ∧ _ ∧ _ ∧ _))

/-- No client opens the instance between `CreateNamedPipe` and `ConnectNamedPipe`, unless the event
    is signalled anyway. -/
def InTime (s : MonitorConsole) : ConsoleLabel → Prop
  | .clientOpen i => s.server = .connectNamedPipe i → s.overlapped = true
  | _ => True

instance (s : MonitorConsole) : ∀ l, Decidable (InTime s l)
  | .clientOpen _ => inferInstanceAs (Decidable (_ → _))
  | .serverThread _ | .connectionThread .. | .deviceThread .. | .executableThread _
  | .consoleDestroy _ | .clientRead .. | .clientStop _ | .clientResume _ | .clientClose _ =>
    .isTrue trivial

/-- `ServerThread` will see the client of the instance in hand: nobody has opened it before the
    operation is there, and then either it is pending or the event is signalled. -/
structure Attended (s : MonitorConsole) : Prop where
  created : ∀ i, s.server = .connectNamedPipe i → (s.pipe i).pending = false ∧
    ((s.pipe i).client = .none ∨ s.overlapped = true)
  waiting : ∀ i, s.server = .wait i →
    ((s.pipe i).client = .none ∧ (s.pipe i).pending = true) ∨ s.overlapped = true

section Steps

variable {s s' : MonitorConsole} {l : ConsoleLabel}

theorem attended_init : Attended .init where
  created i h := by cases h
  waiting i h := by cases h

/-- A step of somebody else, that opens no instance. -/
theorem Attended.of_same (h : Attended s) (hs : s'.server = s.server)
    (ho : s'.overlapped = s.overlapped) (hp : ∀ i, (s'.pipe i).pending = (s.pipe i).pending)
    (hc : ∀ i, (s.pipe i).client = .none → (s'.pipe i).client = .none) : Attended s' where
  created i hi := by
    obtain ⟨hpending, hclient⟩ := h.created i (hs ▸ hi)
    rw [hp i, ho]
    exact ⟨hpending, hclient.imp_left (hc i)⟩
  waiting i hi := by
    rw [hp i, ho]
    exact (h.waiting i (hs ▸ hi)).imp_left fun hw => ⟨hc i hw.1, hw.2⟩

/-- The same where one pipe changes. -/
theorem Attended.of_setPipe (h : Attended s) {i : Nat} {p : Pipe} (hs : s'.server = s.server)
    (ho : s'.overlapped = s.overlapped) (hpipe : s'.pipe = update s.pipe i p)
    (hp : p.pending = (s.pipe i).pending)
    (hc : (s.pipe i).client = .none → p.client = .none) : Attended s' := by
  refine h.of_same hs ho (fun j => ?_) fun j hj => ?_
  · by_cases hj : j = i
    · rw [hj, hpipe, update_self, hp]
    · rw [hpipe, update_of_ne hj]
  · by_cases hne : j = i
    · subst hne
      rw [hpipe, update_self]
      exact hc hj
    · rwa [hpipe, update_of_ne hne]

/-- A loop that goes on without an instance in hand. -/
theorem attended_elsewhere (hc : ∀ i, s.server ≠ .connectNamedPipe i)
    (hw : ∀ i, s.server ≠ .wait i) : Attended s where
  created i hi := absurd hi (hc i)
  waiting i hi := absurd hi (hw i)

theorem Attended.serverThread (h : Attended s) (ok : Bool) : Attended (s.serverThread ok) := by
  unfold MonitorConsole.serverThread
  cases hpc : s.server with
  | ended => exact h
  | createNamedPipe =>
      cases ok with
      | false => exact attended_elsewhere (fun _ h => by cases h) fun _ h => by cases h
      | true =>
          refine ⟨fun i hi => ?_, fun _ h => by cases h⟩
          cases hi
          simp [MonitorConsole.setPipe, Pipe.created]
  | connectNamedPipe i =>
      obtain ⟨-, hclient⟩ := h.created i hpc
      by_cases hnone : (s.pipe i).client = .none
      · simp only [if_pos hnone]
        refine ⟨(fun _ h => by cases h), fun j hj => .inl ?_⟩
        cases hj
        simpa [MonitorConsole.setPipe] using hnone
      · simp only [if_neg hnone]
        exact ⟨(fun _ h => by cases h), fun j hj => .inr (hclient.resolve_left hnone)⟩
  | wait i | start | malloc i | createThread i =>
      cases ok <;> exact attended_elsewhere (fun _ h => by cases h) fun _ h => by cases h
  | _ => exact attended_elsewhere (fun _ h => by cases h) fun _ h => by cases h

theorem Attended.clientOpen (h : Attended s) {i : Nat} (hi : InTime s (.clientOpen i)) :
    Attended (s.clientOpen i) where
  created j hj := by
    obtain ⟨hpending, hclient⟩ := h.created j hj
    by_cases hji : j = i
    · subst hji
      simp [MonitorConsole.clientOpen, MonitorConsole.setPipe, hi hj]
    · rcases hclient with hclient | hclient <;>
        simp [MonitorConsole.clientOpen, MonitorConsole.setPipe, hji, hpending, hclient]
  waiting j hj := by
    rcases h.waiting j hj with ⟨hclient, hpending⟩ | ho
    · by_cases hji : j = i
      · -- the operation is completed, and the event with it
        subst hji
        simp [MonitorConsole.clientOpen, MonitorConsole.setPipe, hpending]
      · simp [MonitorConsole.clientOpen, MonitorConsole.setPipe, hji, hpending, hclient]
    · exact .inr (by simp [MonitorConsole.clientOpen, ho])

/-- **Kept by every step in time.** -/
theorem attended_next (h : Attended s) (he : consoleEnabled s l = true) (hi : InTime s l) :
    Attended (consoleNext s l) := by
  cases l with
  | serverThread ok => exact h.serverThread ok
  | connectionThread c ok =>
      show Attended (s.connectionThread c ok)
      unfold MonitorConsole.connectionThread
      cases (s.connection c).pc with
      | disconnectNamedPipe => exact h.of_setPipe rfl rfl rfl rfl id
      | absent | ended => exact h
      | _ => exact h.of_same rfl rfl (fun _ => rfl) fun _ => id
  | deviceThread ok n =>
      show Attended (s.deviceThread ok n)
      unfold MonitorConsole.deviceThread
      cases s.device with
      | ended => exact h
      | broadcast n rest => cases rest <;> exact h.of_same rfl rfl (fun _ => rfl) fun _ => id
      | writeFile n c rest =>
          cases ok with
          | false => exact h.of_same rfl rfl (fun _ => rfl) fun _ => id
          | true => exact h.of_setPipe rfl rfl rfl rfl id
      | _ => exact h.of_same rfl rfl (fun _ => rfl) fun _ => id
  | executableThread ok =>
      show Attended (s.executableThread ok)
      unfold MonitorConsole.executableThread
      cases s.executable <;> cases ok <;> exact h.of_same rfl rfl (fun _ => rfl) fun _ => id
  | consoleDestroy ok =>
      show Attended (s.consoleDestroy ok)
      unfold MonitorConsole.consoleDestroy
      cases s.destroy with
      | setServerEvent handles =>
          cases handles <;> exact h.of_same rfl rfl (fun _ => rfl) fun _ => id
      | _ => exact h.of_same rfl rfl (fun _ => rfl) fun _ => id
  | clientOpen i => exact h.clientOpen hi
  | clientRead i n => exact h.of_setPipe rfl rfl rfl rfl id
  | clientStop i | clientResume i | clientClose i =>
      exact h.of_setPipe rfl rfl rfl rfl fun hn => by simp [consoleEnabled, hn] at he

/-- Who it will see is not left unserved. -/
theorem Attended.not_unserved (h : Attended s) (i : Nat) : ¬s.Unserved i := by
  rintro ⟨hw, hc, ho, -⟩
  rcases h.waiting i hw with ⟨hnone, -⟩ | ho'
  · simp [Pipe.connected, hnone] at hc
  · rw [ho] at ho'
    cases ho'

/-- **Any other step leads there**: as soon as `ServerThread` has called `ConnectNamedPipe`. -/
theorem unserved_of_not (h : Attended s) (he : consoleEnabled s l = true) (hi : ¬InTime s l) :
    consoleEnabled (consoleNext s l) (.serverThread true) = true ∧
      ∃ i, (consoleNext (consoleNext s l) (.serverThread true)).Unserved i := by
  cases l with
  | clientOpen i =>
      obtain ⟨hpc, ho⟩ := Classical.not_imp.mp hi
      have hpending := (h.created i hpc).1
      have hopened : (s.pipe i).opened = true := by
        simp only [consoleEnabled, Bool.and_eq_true] at he
        exact he.1
      refine ⟨by simp [consoleEnabled, consoleNext, clientOpen, setPipe, hpc, serverEnabled], i, ?_⟩
      simp [MonitorConsole.Unserved, MonitorConsole.serverThread, hpc, consoleNext,
        MonitorConsole.clientOpen, MonitorConsole.setPipe, Pipe.connected, hopened, hpending, ho]
  | _ => exact absurd trivial hi

/-- And there it stays: nothing but `ServerEvent` ends that wait. -/
theorem MonitorConsole.Unserved.waits {i : Nat} {ok : Bool} (h : s.Unserved i)
    (he : s.serverEvent = .clear) : consoleEnabled s (.serverThread ok) = false := by
  obtain ⟨hw, -, ho, -⟩ := h
  cases ok <;> simp [consoleEnabled, hw, serverEnabled, ho, he]

end Steps

/-- **`ServerThread` never waits for an instance that a client has already opened**, with its event
    clear and no operation pending, in a run in which no client opens an instance between
    `CreateNamedPipe` and `ConnectNamedPipe`. The first client to do so is left like that. -/
theorem pipe_clients_served {s : MonitorConsole} (h : Reach consoleSystem InTime .init s) :
    (∀ i, ¬s.Unserved i) ∧ ∀ l, consoleEnabled s l = true → ¬InTime s l →
      consoleEnabled (consoleNext s l) (.serverThread true) = true ∧
        ∃ i, (consoleNext (consoleNext s l) (.serverThread true)).Unserved i := by
  have hattended : Attended s :=
    h.invariant attended_init fun _ _ ha he hi => attended_next ha he hi
  exact ⟨hattended.not_unserved, fun l he hi => unserved_of_not hattended he hi⟩

/-- A client comes while `ServerThread` waits, and a second one finds the next instance. -/
def twoClients : List ConsoleLabel :=
  [.serverThread true, .serverThread true, .serverThread true, .clientOpen 0] ++
    List.replicate 5 (.serverThread true) ++
    [.serverThread true, .serverThread true, .clientOpen 1]

/-- Neither is left waiting. -/
theorem pipe_clients_served_twoClients :
    (((runs consoleSystem .init twoClients).pipe 1).connected = true ∧
      (runs consoleSystem .init twoClients).server = .wait 1) ∧
    ¬(runs consoleSystem .init twoClients).Unserved 1 :=
  ⟨by decide, (pipe_clients_served (Reach.of_admits twoClients .start (by decide))).1 1⟩

/-- A client that opens the instance too early is. -/
theorem early_client_unserved :
    ∃ s, Reach consoleSystem (fun _ _ => True) .init s ∧ s.Unserved 0 := by
  let run : List ConsoleLabel :=
    [.serverThread true, .serverThread true, .clientOpen 0, .serverThread true]
  exact ⟨runs consoleSystem .init run, Reach.of_admits run .start (by decide), by decide⟩

end Xencons.Monitor
