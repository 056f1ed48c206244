import Xencons.Ring.Lifetime

/-!
# Events in both directions

`RingDpc` ends with an `Unmask` that is not forced and whose result is thrown away: where an event
came in since the callback, the channel stays masked and nobody looks again. In the other direction
nothing is sent at all.

* `LastUnmaskClean` -- the last activation to unmask finds no event pending; `Heard` -- then whoever
  masked the channel still has an activation to come; `no_event_lost` -- so no event is lost, and
  `lost_of_last_unmask` -- without it one is, at once;
* `Notified` -- what a backend that sleeps would need; `never_notified` -- what it gets.
-/

namespace Xencons

open Lib Function DpcSys

/-! ## 1. Events from the backend -/

/-- An activation of `RingDpc` is queued or running. -/
def Busy (s : DpcSys) : Prop := s.dpcQueued = true ∨ ∃ a, s.activation a ≠ .idle

/-- **The last one finds nothing**: where an activation comes to its `Unmask` while no other one is
    running or queued, no event is pending on the masked channel. -/
def LastUnmaskClean (s : DpcSys) : DpcLabel → Prop
  | .dpc a => s.activation a = .unmask → s.dpcQueued = false →
      (∀ b, b ≠ a → s.activation b = .idle) → s.evtchn.masked = true → s.evtchn.pending = false
  | _ => True

/-- A channel that is open and has been unmasked once is masked only while an activation is still to
    unmask it. -/
def Heard (s : DpcSys) : Prop :=
  s.evtchn.isOpen = true → s.wants .fresh = false → s.evtchn.masked = true → Busy s

section Steps

variable {s : DpcSys} {l : DpcLabel}

theorem Heard.control (hw : Wired s) (h : Heard s) {op : RingOp} {ops : List RingOp}
    (hops : s.ops = op :: ops) : Heard ({ s with ops := ops }.controlStep op) := by
  have hset := hw.wants_control hops .fresh
  have hkeep := hw.wants_keep hops .fresh
  cases op with
  | openChannel success =>
      cases success with
      | true => exact fun _ hfresh => nomatch hset.symm.trans hfresh
      | false => exact fun hopen hfresh => h hopen ((hkeep rfl).symm.trans hfresh)
  | forceUnmask =>
      intro hopen _ hm
      rw [controlStep, ChannelState.unmask_isOpen] at hopen
      have hopen' : s.evtchn.isOpen = true := hopen
      simp [controlStep, ChannelState.unmask, hopen'] at hm
  | closeChannel => exact fun hopen => absurd hopen Bool.false_ne_true
  | insertDpc => exact fun _ _ _ => .inl rfl
  | _ => exact fun hopen hfresh => h hopen ((hkeep trivial).symm.trans hfresh)

/-- **A step of `RingDpc`**: up to its `Unmask` the activation is one that is still to come, and the
    last `Unmask` lifts the mask. -/
theorem heard_dpc (hw : Wired s) {a : Nat} (hrun : s.activation a ≠ .idle)
    (hc : LastUnmaskClean s (.dpc a)) : Heard (s.ringDpcStep a) := by
  intro hopen hnot hm
  have hopen' : s.evtchn.isOpen = true := (untouched_ringDpcStep s a).isOpen ▸ hopen
  unfold ringDpcStep at hm ⊢
  cases hpc : s.activation a with
  | idle => exact absurd hpc hrun
  | top => cases he : s.enabled <;> exact .inr ⟨a, by simp [setActivation]⟩
  | polling =>
      simp only
      split
      · exact .inr ⟨a, by simp [setActivation]⟩
      · exact .inr ⟨a, hrun⟩
  | unmask =>
      simp only [hpc] at hm
      by_cases hq : s.dpcQueued = true
      · exact .inl hq
      by_cases hother : ∃ b, b ≠ a ∧ s.activation b ≠ .idle
      · obtain ⟨b, hba, hb⟩ := hother
        exact .inr ⟨b, by simpa [setActivation, hba] using hb⟩
      · -- nobody else: no event is pending, so the unmask succeeds
        have hidle : ∀ b, b ≠ a → s.activation b = .idle := fun b hba => by
          by_contra hb
          exact hother ⟨b, hba, hb⟩
        simp only [setActivation, hw.named hopen', if_true] at hm
        cases hmask : s.evtchn.masked with
        | true =>
            have hp := hc hpc (by simpa using hq) hidle hmask
            simp [ChannelState.unmask, hopen', hp] at hm
        | false =>
            unfold ChannelState.unmask at hm
            split at hm
            · exact absurd hm Bool.false_ne_true
            · exact absurd (hmask.symm.trans hm) Bool.false_ne_true

/-- **Every step keeps `Heard` where the last unmask finds nothing pending.** -/
theorem heard_next (hw : Wired s) (h : Heard s) (he : dpcEnabled s l)
    (hc : LastUnmaskClean s l) : Heard (dpcNext s l) := by
  cases l with
  | start action =>
      have hfresh : s.wants .fresh = false := by
        rw [wants, he.1]
        cases s.stage <;> rfl
      simp only [dpcNext]
      cases action <;> exact fun hopen _ hm => h hopen hfresh hm
  | control =>
      cases hops : s.ops with
      | nil => exact absurd hops he
      | cons op ops =>
          simp only [dpcNext, hops]
          exact h.control hw hops
  | dpc a => exact heard_dpc hw he hc
  | dispatch a => exact fun _ _ _ => .inr ⟨a, by simp [dpcNext, setActivation]⟩
  | callback =>
      simp only [dpcNext, ringEvtchnCallback]
      split <;> exact fun _ _ _ => .inl rfl
  | putQueued t =>
      simp only [dpcNext, ringPutQueued]
      split
      · exact fun _ _ _ => .inl rfl
      · exact h
  | ring l | event => exact h

end Steps

/-- What holds of the channel in every run in which the last unmask finds nothing pending. -/
theorem reach_heard {s : DpcSys} (h : Reach dpcSystem LastUnmaskClean .init s) : Heard s :=
  h.invariant_using (fun _ h' => reach_wired h') (fun hopen => absurd hopen Bool.false_ne_true)
    fun _ _ hw hh he hc => heard_next hw hh he hc

/-- **No event is lost** as long as the last unmask finds nothing pending: on a connected and
    enabled ring with no activation queued or running, the channel is not masked with an event
    pending. -/
theorem no_event_lost {s : DpcSys} (h : Reach dpcSystem LastUnmaskClean .init s)
    (hstage : s.stage = .enabled) (hops : s.ops = []) (hidle : ¬Busy s) :
    ¬(s.evtchn.masked = true ∧ s.evtchn.pending = true) := by
  have hopen : s.evtchn.isOpen = true := by
    rw [(reach_wired h).isOpen, wants, hops, hstage]
    rfl
  have hfresh : s.wants .fresh = false := by
    rw [wants, hops, hstage]
    rfl
  exact fun hm => hidle (reach_heard h hopen hfresh hm.1)

/-- **Where the last unmask finds an event pending, it is lost**: nobody is left, and the channel
    stays masked. -/
theorem lost_of_last_unmask {s : DpcSys} {a : Nat} (hpc : s.activation a = .unmask)
    (hq : s.dpcQueued = false) (hidle : ∀ b, b ≠ a → s.activation b = .idle)
    (hm : s.evtchn.masked = true) (hp : s.evtchn.pending = true) :
    ¬Busy (s.ringDpcStep a) ∧ (s.ringDpcStep a).evtchn.masked = true ∧
      (s.ringDpcStep a).evtchn.pending = true := by
  have hsame : (s.evtchn.unmask false).2 = s.evtchn := by simp [ChannelState.unmask, hp]
  refine ⟨?_, ?_, ?_⟩
  · rintro (h | ⟨b, hb⟩)
    · simp [ringDpcStep, hpc, hq] at h
    · by_cases hba : b = a
      · subst hba
        simp [ringDpcStep, hpc] at hb
      · simp [ringDpcStep, hpc, hba, hidle b hba] at hb
  · simp [ringDpcStep, hpc, hsame, hm]
  · simp [ringDpcStep, hpc, hsame, hp]

/-- A ring that has been connected and enabled, and whose first activation has come and gone. -/
def quietRing : List DpcLabel := enabledPoll ++ [.dpc 0]

theorem no_event_lost_quietRing :
    ¬((runs dpcSystem .init quietRing).evtchn.masked = true ∧
      (runs dpcSystem .init quietRing).evtchn.pending = true) := by
  have hreach : Reach dpcSystem LastUnmaskClean .init (runs dpcSystem .init quietRing) :=
    .of_admits _ .start ⟨⟨rfl, rfl⟩, trivial, nofun, trivial, nofun, trivial, nofun, trivial, nofun,
      trivial, ⟨rfl, rfl⟩, trivial, nofun, trivial, nofun, trivial, ⟨rfl, rfl⟩, trivial, nofun,
      nofun, nofun, nofun, nofun, nofun, nofun, fun _ _ _ _ => rfl, trivial⟩
  refine no_event_lost hreach rfl rfl ?_
  rintro (h | ⟨a, ha⟩)
  · cases h
  · cases a <;> exact ha rfl

/-- A second event arrives behind the last look at the ring and before the `Unmask`. -/
theorem event_behind_last_look : ¬∀ s : DpcSys, Reach dpcSystem (fun _ _ => True) .init s →
    s.stage = .enabled → s.ops = [] → ¬Busy s →
    ¬(s.evtchn.masked = true ∧ s.evtchn.pending = true) := by
  intro hall
  have hreach : Reach dpcSystem (fun _ _ => True) .init (runs dpcSystem .init (quietRing ++
      [.event, .callback, .dispatch 0, .dpc 0, .dpc 0, .dpc 0, .event, .dpc 0])) :=
    .of_admits _ .start ⟨⟨rfl, rfl⟩, trivial, nofun, trivial, nofun, trivial, nofun, trivial, nofun,
      trivial, ⟨rfl, rfl⟩, trivial, nofun, trivial, nofun, trivial, ⟨rfl, rfl⟩, trivial, nofun,
      trivial, nofun, trivial, nofun, trivial, nofun, trivial, rfl, trivial, ⟨rfl, rfl, rfl⟩,
      trivial, ⟨rfl, rfl⟩, trivial, nofun, trivial, nofun, trivial, nofun, trivial, rfl, trivial,
      nofun, trivial, trivial⟩
  refine hall _ hreach rfl rfl ?_ ⟨rfl, rfl⟩
  rintro (h | ⟨a, ha⟩)
  · cases h
  · cases a <;> exact ha rfl

/-! ## 2. Events to the backend -/

/-- **The backend has been told**: behind every advance of an index an event has been sent. -/
def Notified (s : DpcSys) : Prop :=
  ∀ before behind d n, s.calls = before ++ .advanced d n :: behind → .sent ∈ behind

/-- **Nothing is ever sent.** -/
theorem not_sent_next {s : DpcSys} {l : DpcLabel} (h : .sent ∉ s.calls) :
    .sent ∉ (dpcNext s l).calls := by
  cases l with
  | start action =>
      cases action with
      | connect outcome => exact List.not_mem_nil
      | enable | disable | disconnect => exact h
  | control =>
      cases hops : s.ops with
      | nil => simpa only [dpcNext, hops] using h
      | cons op ops =>
          simp only [dpcNext, hops]
          cases op with
          | forceUnmask => simpa [controlStep] using h
          | openChannel success => cases success <;> exact h
          | _ => exact h
  | dpc a =>
      simp only [dpcNext, ringDpcStep]
      cases s.activation a with
      | idle => exact h
      | top => cases s.enabled <;> exact h
      | polling =>
          -- RingPoll advances the indices and does nothing else about them
          have hadv : .sent ∉ s.calls ++ s.advance a := by
            rw [List.mem_append, not_or]
            refine ⟨h, ?_⟩
            unfold advance
            cases s.ring.poll a with
            | copy d irp =>
                simp only
                split <;> simp
            | idle | dequeue d | copied d irp n => exact List.not_mem_nil
          simp only
          split <;> exact hadv
      | unmask => simpa using h
  | putQueued t =>
      simp only [dpcNext, ringPutQueued]
      split <;> exact h
  | callback =>
      simp only [dpcNext, ringEvtchnCallback]
      split <;> exact h
  | ring l | event | dispatch a => exact h

/-- **The backend is told nothing**: in every reachable state no event has been sent on
    `Ring->Channel`, so it has been told about the progress of the ring exactly where there was none
    since the ring was connected. -/
theorem never_notified {s : DpcSys} (h : Reach dpcSystem (fun _ _ => True) .init s) :
    .sent ∉ s.calls ∧ (Notified s ↔ ∀ d n, .advanced d n ∉ s.calls) := by
  have hnot : .sent ∉ s.calls := h.invariant (I := fun s => .sent ∉ s.calls) List.not_mem_nil
    fun _ _ hs _ _ => not_sent_next hs
  refine ⟨hnot, fun hn d n hmem => ?_, fun hno before behind d n he => ?_⟩
  · obtain ⟨before, behind, he⟩ := List.append_of_mem hmem
    exact hnot (he ▸ List.mem_append_right _ (List.mem_cons_of_mem _ (hn before behind d n he)))
  · exact absurd (he ▸ List.mem_append_right _ List.mem_cons_self) (hno d n)

/-- A write that is copied out by its DPC: the backend is not told. -/
def writeServed : List DpcLabel :=
  quietRing ++ [.ring (.insert 0 (.oneByte 0 .write 7 65) false), .putQueued 0, .dispatch 0, .dpc 0,
    .dpc 0, .dpc 0, .dpc 0, .dpc 0, .dpc 0, .dpc 0]

theorem reach_writeServed :
    Reach dpcSystem (fun _ _ => True) .init (runs dpcSystem .init writeServed) :=
  .of_admits _ .start ⟨⟨rfl, rfl⟩, trivial, nofun, trivial, nofun, trivial, nofun, trivial, nofun,
    trivial, ⟨rfl, rfl⟩, trivial, nofun, trivial, nofun, trivial, ⟨rfl, rfl⟩, trivial, nofun,
    trivial, nofun, trivial, nofun, trivial, nofun, trivial, ⟨trivial, rfl, rfl, rfl⟩, trivial,
    nofun, trivial, ⟨rfl, rfl⟩, trivial, nofun, trivial, nofun, trivial, nofun, trivial, nofun,
    trivial, nofun, trivial, nofun, trivial, nofun, trivial, trivial⟩

theorem never_notified_writeServed : .sent ∉ (runs dpcSystem .init writeServed).calls :=
  (never_notified reach_writeServed).1

theorem write_not_notified : ¬∀ s : DpcSys, Reach dpcSystem (fun _ _ => True) .init s →
    s.stage = .enabled → s.ops = [] → ¬Busy s → Notified s := by
  intro hall
  have hsent := hall _ reach_writeServed rfl rfl (by
    rintro (h | ⟨a, ha⟩)
    · cases h
    · cases a <;> exact ha rfl) [.unmasked true, .unmasked false] [.unmasked false] .write 1 rfl
  exact absurd hsent (by decide)

end Xencons
