import Xencons.Monitor.Machine

/-!
# Who still runs when `ConsoleDestroy` frees the console (monitor.c)

`ConsoleWaitForPipes` copies the handles of the connections on the list, releases the lock, signals
`ServerEvent` and waits for all of them. A connection may not be on the list yet or not any more,
`ServerThread` may create one afterwards, and the wait fails at once when there are too many handles
or one of them is not valid: nobody looks at what it returns.

* `MonitorConsole.UsedAfterFree` -- a `ConnectionThread` runs on a console that has been freed;
* `Gathers` -- the steps that leave no connection out, `DestroyPc.covers` what `ConsoleDestroy` then
  knows of a connection: `covered_next`, `reach_covered`;
* `freed_after_connections` -- the result.
-/

namespace Xencons.Monitor

open Lib Function MonitorConsole

/-- A `ConnectionThread` of the console is running when it has been freed. -/
def MonitorConsole.UsedAfterFree (s : MonitorConsole) : Prop :=
  s.destroy = .freed ∧ ∃ c, (s.connection c).pc.running = true

/-- No `ConnectionThread` runs. -/
def MonitorConsole.Quiet (s : MonitorConsole) : Prop :=
  ∀ c < s.instances, (s.connection c).pc.running = false

/-- `ConsoleWaitForPipes` has taken its copy. -/
def DestroyPc.copied : DestroyPc → Bool
  | .idle | .setExecutableEvent | .joinExecutable | .closeExecutableEvent | .copy => false
  | _ => true

/-- The copy is taken when every connection that runs is on the list, and none runs if there is no
    memory for it; the wait does not fail at once, or none runs any more. -/
def destroyGathers (s : MonitorConsole) (ok : Bool) : DestroyPc → Prop
  | .copy => ∀ c < s.instances, (s.connection c).pc.running = true →
      ok = true ∧ (s.connection c).pc.linked = true
  | .waitForPipes handles => s.waitable handles = true ∨ s.Quiet
  | _ => True

/-- No connection is created behind the copy. -/
def serverGathers (s : MonitorConsole) (ok : Bool) : ServerPc → Prop
  | .createThread _ => ok = true → s.destroy.copied = false
  | _ => True

/-- **The step leaves no connection out.** -/
def Gathers (s : MonitorConsole) : ConsoleLabel → Prop
  | .consoleDestroy ok => destroyGathers s ok s.destroy
  | .serverThread ok => serverGathers s ok s.server
  | _ => True

/-- `ConsoleDestroy` has not left the connection out: it takes its copy later, it has its handle
    among those copied, or it waits for it. -/
def DestroyPc.covers (c : Nat) : DestroyPc → Prop
  | .idle | .setExecutableEvent | .joinExecutable | .closeExecutableEvent | .copy => True
  | .setServerEvent (some handles) | .waitForPipes handles => c ∈ handles.connections
  | .joinPipes threads => c ∈ threads
  | _ => False

/-- Behind the copy every connection that runs is covered, and none that is still to be created. -/
structure Covered (s : MonitorConsole) : Prop where
  running : ∀ c, (s.connection c).pc.running = true → s.destroy.covers c
  created : s.destroy.copied = true → ∀ c, s.destroy.covers c → (s.connection c).pc ≠ .absent

section Steps

variable {s : MonitorConsole} {l : ConsoleLabel}

theorem covered_init : Covered .init where
  running c hc := by cases hc
  created hc := by cases hc

theorem covers_of_not_copied {pc : DestroyPc} (h : pc.copied = false) (c : Nat) : pc.covers c := by
  cases pc with
  | idle | setExecutableEvent | joinExecutable | closeExecutableEvent | copy => trivial
  | _ => cases h

/-- Only `ServerThread` makes a connection run. -/
theorem running_of_connectionThread {c d : Nat} {ok : Bool}
    (h : ((s.connectionThread c ok).connection d).pc.running = true) :
    (s.connection d).pc.running = true := by
  by_cases hd : d = c
  · subst hd
    cases hpc : (s.connection d).pc with
    | absent | ended =>
        simp [MonitorConsole.connectionThread, hpc, ConnectionPc.running] at h
    | _ => rfl
  · rwa [(connectionThread_of_ne hd ok).1] at h

/-- In `CreateThread`. -/
theorem running_of_serverThread {c : Nat} {ok : Bool}
    (h : ((s.serverThread ok).connection c).pc.running = true) :
    (s.connection c).pc.running = true ∨ s.server = .createThread c ∧ ok = true := by
  rcases serverThread_pc (s := s) c ok with hpc | ⟨hpc, hok, -⟩
  · rw [hpc] at h
    exact .inl h
  · exact .inr ⟨hpc, hok⟩

/-- Behind the copy it covers no more than before. -/
theorem covers_of_consoleDestroy {c : Nat} {ok : Bool} (hcopied : s.destroy.copied = true)
    (h : (s.consoleDestroy ok).destroy.covers c) : s.destroy.covers c := by
  cases hpc : s.destroy with
  | idle | setExecutableEvent | joinExecutable | closeExecutableEvent | copy =>
      rw [hpc] at hcopied
      cases hcopied
  | setServerEvent handles =>
      cases handles with
      | none =>
          simp only [MonitorConsole.consoleDestroy, hpc] at h
          cases h
      | some handles =>
          simp only [MonitorConsole.consoleDestroy, hpc] at h
          exact h
  | waitForPipes handles =>
      by_cases hw : s.waitable handles = true
      · simp only [MonitorConsole.consoleDestroy, hpc, if_pos hw] at h
        exact h
      · simp only [MonitorConsole.consoleDestroy, hpc, if_neg hw] at h
        exact False.elim h
  | _ =>
      simp only [MonitorConsole.consoleDestroy, hpc] at h
      exact False.elim h

/-- And it stays behind it. -/
theorem copied_consoleDestroy {ok : Bool} (hcopied : s.destroy.copied = true) :
    (s.consoleDestroy ok).destroy.copied = true := by
  cases hpc : s.destroy with
  | idle | setExecutableEvent | joinExecutable | closeExecutableEvent | copy =>
      rw [hpc] at hcopied
      cases hcopied
  | setServerEvent handles =>
      cases handles <;> simp [MonitorConsole.consoleDestroy, hpc, DestroyPc.copied]
  | waitForPipes handles =>
      by_cases hw : s.waitable handles = true <;>
        simp [MonitorConsole.consoleDestroy, hpc, hw, DestroyPc.copied]
  | _ => simp [MonitorConsole.consoleDestroy, hpc, DestroyPc.copied]

/-- A connection that runs stays covered, ... -/
theorem Covered.running_consoleDestroy (h : Covered s) (hl : Listed s) (hn : Numbered s)
    {ok : Bool} (he : destroyEnabled s s.destroy = true) (hg : destroyGathers s ok s.destroy)
    {c : Nat} (hc : (s.connection c).pc.running = true) :
    (s.consoleDestroy ok).destroy.covers c := by
  have hcov := h.running c hc
  have hlt : c < s.instances := (hn.running fun e => by rw [e] at hc; cases hc).1
  unfold MonitorConsole.consoleDestroy
  cases hpc : s.destroy with
  | idle | setExecutableEvent | joinExecutable | closeExecutableEvent => trivial
  | copy =>
      rw [hpc] at hg
      obtain ⟨rfl, hlinked⟩ := hg c hlt hc
      -- it is on the list, so its handle is copied
      simpa [DestroyPc.covers, Handles.connections, MonitorConsole.threadOf] using
        (hl.mem c).mpr hlinked
  | setServerEvent handles =>
      rw [hpc] at hcov
      cases handles with
      | none => exact hcov.elim
      | some handles => exact hcov
  | waitForPipes handles =>
      rw [hpc] at hg hcov
      rcases hg with hw | hquiet
      · simp only [hw, if_true]
        exact hcov
      · rw [hquiet c hlt] at hc
        cases hc
  | joinPipes threads =>
      rw [hpc] at he hcov
      simp only [destroyEnabled, Bool.and_eq_true, List.all_eq_true, decide_eq_true_eq] at he
      rw [he.2 c hcov] at hc
      cases hc
  | _ =>
      rw [hpc] at hcov
      exact hcov.elim

/-- ... and what the copy covers is on the list. -/
theorem linked_of_copy (hl : Listed s) {ok : Bool} {c : Nat} (hbefore : s.destroy.copied = false)
    (hcopied : (s.consoleDestroy ok).destroy.copied = true)
    (hc : (s.consoleDestroy ok).destroy.covers c) : (s.connection c).pc.linked = true := by
  unfold MonitorConsole.consoleDestroy at hc hcopied
  cases hpc : s.destroy with
  | copy =>
      rw [hpc] at hc
      cases ok with
      | false => exact hc.elim
      | true =>
          have hmem : c ∈ s.list := by
            simpa [DestroyPc.covers, Handles.connections, MonitorConsole.threadOf] using hc
          exact (hl.mem c).mp hmem
  | idle | setExecutableEvent | joinExecutable | closeExecutableEvent =>
      rw [hpc] at hcopied
      cases hcopied
  | _ =>
      rw [hpc] at hbefore
      cases hbefore

/-- **`ConsoleDestroy` keeps it**, ... -/
theorem Covered.consoleDestroy (h : Covered s) (hl : Listed s) (hn : Numbered s) {ok : Bool}
    (he : destroyEnabled s s.destroy = true) (hg : destroyGathers s ok s.destroy) :
    Covered (s.consoleDestroy ok) := by
  have hsame := (consoleDestroy_frame (s := s) ok).2.2.2.1
  refine ⟨fun c hc => ?_, fun hcopied c hc => ?_⟩
  · rw [hsame] at hc
    exact h.running_consoleDestroy hl hn he hg hc
  · rw [hsame]
    cases hbefore : s.destroy.copied with
    | true => exact h.created hbefore c (covers_of_consoleDestroy hbefore hc)
    | false =>
        have hlinked := linked_of_copy hl hbefore hcopied hc
        exact fun e => by rw [e] at hlinked; cases hlinked

/-- ... **and so does everybody else.** -/
theorem covered_next (h : Covered s) (hl : Listed s) (hn : Numbered s)
    (he : consoleEnabled s l = true) (hg : Gathers s l) : Covered (consoleNext s l) := by
  by_cases hd : l.party = .destroy
  · cases l with
    | consoleDestroy ok => exact h.consoleDestroy hl hn he hg
    | _ => cases hd
  have hdestroy : (consoleNext s l).destroy = s.destroy := destroy_of_other hd
  refine ⟨fun c hc => ?_, fun hcopied c hc => ?_⟩
  · rw [hdestroy]
    cases l with
    | serverThread ok =>
        rcases running_of_serverThread hc with hrun | ⟨hpc, hok⟩
        · exact h.running c hrun
        · have hg' : serverGathers s ok s.server := hg
          rw [hpc] at hg'
          exact covers_of_not_copied (hg' hok) c
    | connectionThread d ok => exact h.running c (running_of_connectionThread hc)
    | _ =>
        rw [connection_of_other (by nofun) (by nofun)] at hc
        exact h.running c hc
  · rw [hdestroy] at hcopied hc
    exact hn.not_absent_next (h.created hcopied c hc)

/-- `ConsoleDestroy` leaves a connection out that runs: when it copies, or when its wait fails. -/
theorem left_out_consoleDestroy (hl : Listed s) {ok : Bool}
    (hg : ¬destroyGathers s ok s.destroy) : ∃ c, (s.connection c).pc.running = true ∧
      (s.consoleDestroy ok).destroy.copied = true ∧ ¬(s.consoleDestroy ok).destroy.covers c := by
  cases hpc : s.destroy with
  | copy =>
      rw [hpc] at hg
      simp only [destroyGathers, not_forall] at hg
      obtain ⟨c, -, hrun, hout⟩ := hg
      refine ⟨c, hrun, ?_⟩
      cases ok with
      | false => simp [MonitorConsole.consoleDestroy, hpc, DestroyPc.copied, DestroyPc.covers]
      | true =>
          have hnot : c ∉ s.list := fun hm => hout ⟨rfl, (hl.mem c).mp hm⟩
          simpa [MonitorConsole.consoleDestroy, hpc, DestroyPc.copied, DestroyPc.covers,
            Handles.connections, MonitorConsole.threadOf] using hnot
  | waitForPipes handles =>
      rw [hpc] at hg
      simp only [destroyGathers, MonitorConsole.Quiet, not_or, not_forall] at hg
      obtain ⟨hw, c, -, hrun⟩ := hg
      refine ⟨c, by simpa using hrun, ?_⟩
      simp [MonitorConsole.consoleDestroy, hpc, hw, DestroyPc.copied, DestroyPc.covers]
  | _ =>
      rw [hpc] at hg
      exact absurd trivial hg

/-- `ServerThread` creates one behind the copy. -/
theorem left_out_serverThread (h : Covered s) (hn : Numbered s) {ok : Bool}
    (hg : ¬serverGathers s ok s.server) :
    ∃ c, ((s.serverThread ok).connection c).pc.running = true ∧
      s.destroy.copied = true ∧ ¬s.destroy.covers c := by
  cases hpc : s.server with
  | createThread i =>
      rw [hpc] at hg
      obtain ⟨rfl, hcopied⟩ := Classical.not_imp.mp hg
      rw [Bool.not_eq_false] at hcopied
      have habsent := (hn.accepting i (by rw [hpc]; rfl)).2
      refine ⟨i, ?_, hcopied, fun hc => h.created hcopied i hc habsent⟩
      simp [MonitorConsole.serverThread, hpc, MonitorConsole.setConnection, ConnectionPc.running]
  | _ =>
      rw [hpc] at hg
      exact absurd trivial hg

/-- **Any other step leaves a connection out**, one that runs. -/
theorem left_out_of_not (h : Covered s) (hl : Listed s) (hn : Numbered s) (hg : ¬Gathers s l) :
    ∃ c, ((consoleNext s l).connection c).pc.running = true ∧
      (consoleNext s l).destroy.copied = true ∧ ¬(consoleNext s l).destroy.covers c := by
  cases l with
  | consoleDestroy ok =>
      rw [show (consoleNext s (.consoleDestroy ok)).connection = s.connection from
        (consoleDestroy_frame ok).2.2.2.1]
      exact left_out_consoleDestroy hl hg
  | serverThread ok =>
      rw [destroy_of_other (by nofun)]
      exact left_out_serverThread h hn hg
  | _ => exact absurd trivial hg

/-- And what is left out is not waited for any more. -/
theorem left_out_next {c : Nat} (hc : s.destroy.copied = true ∧ ¬s.destroy.covers c) :
    (consoleNext s l).destroy.copied = true ∧ ¬(consoleNext s l).destroy.covers c := by
  by_cases hd : l.party = .destroy
  · cases l with
    | consoleDestroy ok =>
        exact ⟨copied_consoleDestroy hc.1, fun hcov => hc.2 (covers_of_consoleDestroy hc.1 hcov)⟩
    | _ => cases hd
  · rwa [destroy_of_other hd]

end Steps

theorem reach_covered {s : MonitorConsole} (h : Reach consoleSystem Gathers .init s) : Covered s :=
  h.invariant_using (J := fun s => Listed s ∧ Numbered s)
    (fun _ hr => ⟨reach_listed hr, reach_numbered hr⟩) covered_init
    fun _ _ hj hc he hg => covered_next hc hj.1 hj.2 he hg

/-- **No `ConnectionThread` runs when the console has been freed**, in a run whose steps leave no
    connection out. A step that does leaves one running that `ConsoleDestroy` does not wait for,
    whatever happens then. -/
theorem freed_after_connections {s : MonitorConsole} (h : Reach consoleSystem Gathers .init s) :
    ¬s.UsedAfterFree ∧ ∀ l, consoleEnabled s l = true → ¬Gathers s l →
      ∃ c, ((consoleNext s l).connection c).pc.running = true ∧
        ∀ s', Reach consoleSystem (fun _ _ => True) (consoleNext s l) s' →
          ¬s'.destroy.covers c := by
  have hcov := reach_covered h
  refine ⟨?_, fun l he hg => ?_⟩
  · rintro ⟨hfreed, c, hc⟩
    have hno := hcov.running c hc
    rw [hfreed] at hno
    exact hno
  · obtain ⟨c, hrun, hout⟩ := left_out_of_not hcov (reach_listed h) (reach_numbered h) hg
    refine ⟨c, hrun, fun s' hr => ?_⟩
    exact (hr.invariant (I := fun s => s.destroy.copied = true ∧ ¬s.destroy.covers c) hout
      fun _ _ hc _ _ => left_out_next hc).2

section Examples

instance (s : MonitorConsole) (ok : Bool) : ∀ pc, Decidable (destroyGathers s ok pc)
  | .copy => inferInstanceAs (Decidable (∀ c < s.instances, _))
  | .waitForPipes _ => inferInstanceAs (Decidable (_ ∨ ∀ c < s.instances, _))
  | .idle | .setExecutableEvent | .joinExecutable | .closeExecutableEvent | .setServerEvent _
  | .joinPipes _ | .closeServerEvent | .setDeviceEvent | .joinDevice | .closeDeviceEvent | .free
  | .freed => .isTrue trivial

instance (s : MonitorConsole) (ok : Bool) : ∀ pc, Decidable (serverGathers s ok pc)
  | .createThread _ => inferInstanceAs (Decidable (_ → _))
  | .start | .createNamedPipe | .connectNamedPipe _ | .wait _ | .resetEvent _ | .malloc _
  | .assign _ | .closeHandle _ | .leave | .ended => .isTrue trivial

instance (s : MonitorConsole) : ∀ l, Decidable (Gathers s l)
  | .consoleDestroy ok => inferInstanceAs (Decidable (destroyGathers s ok s.destroy))
  | .serverThread ok => inferInstanceAs (Decidable (serverGathers s ok s.server))
  | .connectionThread .. | .deviceThread .. | .executableThread _ | .clientOpen _ | .clientRead ..
  | .clientStop _ | .clientResume _ | .clientClose _ => .isTrue trivial

/-- The console is destroyed when the connection is on the list, and the threads end. -/
def destroyed : List ConsoleLabel :=
  accepted ++ List.replicate 3 (.connectionThread 0 true) ++ .executableThread false ::
    List.replicate 7 (.consoleDestroy true) ++ List.replicate 6 (.connectionThread 0 false) ++
    List.replicate 3 (.serverThread false) ++ List.replicate 3 (.consoleDestroy true) ++
    .deviceThread false 0 :: List.replicate 3 (.consoleDestroy true)

/-- None runs at the end of that. -/
theorem freed_after_connections_destroyed :
    (runs consoleSystem .init destroyed).destroy = .freed ∧
      ¬(runs consoleSystem .init destroyed).UsedAfterFree :=
  ⟨by decide, (freed_after_connections (Reach.of_admits destroyed .start (by decide))).1⟩

/-- The console is destroyed when the thread has not got to the list yet. -/
def destroyedEarly : List ConsoleLabel :=
  accepted ++ .executableThread false :: List.replicate 7 (.consoleDestroy true) ++
    List.replicate 3 (.serverThread false) ++ List.replicate 3 (.consoleDestroy true) ++
    .deviceThread false 0 :: List.replicate 3 (.consoleDestroy true)

/-- It runs on a console that has been freed. -/
theorem connection_survives_console :
    ∃ s, Reach consoleSystem (fun _ _ => True) .init s ∧ s.UsedAfterFree :=
  ⟨runs consoleSystem .init destroyedEarly, Reach.of_admits destroyedEarly .start (by decide),
    by decide, 0, by decide⟩

end Examples

end Xencons.Monitor
