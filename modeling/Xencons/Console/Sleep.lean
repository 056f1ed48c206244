import Xencons.Console.Stream

/-!
# When the stream's thread sleeps (stream.c)

The thread waits for its event, clears it and works through the queue until it is empty or its head
is blocked. `StreamCsqInsertIrpEx` sets the event for a request at the tail, and the console sets it
when there is activity on its rings; `StreamCsqRemoveIrp` does not, although it may take off the
head and leave another request in front that can be served.

* `Awake` -- what holds whenever the event is clear;
* `KeepsHead` -- the steps that do not uncover a request that could be served behind the thread's
  back; `awake_next` and `oversleeps_of_not` -- these keep it, and any other breaks it at once;
* `sleeps_soundly` -- the result.
-/

namespace Xencons

open Lib Function StreamSys

/-! ## 1. The invariant -/

/-- The thread is blocked on its event, and the event is clear. -/
def StreamSys.Asleep (s : StreamSys) : Prop := s.worker = .wait ∧ s.event = false

/-- The queue is empty, or its head is blocked now. -/
def StreamSys.HeadBlocked (s : StreamSys) (list : List Irp) : Prop :=
  ∀ irp ∈ list.head?, s.Blocked irp

/-- **The thread oversleeps**: it is registered and asleep, and the head of the queue could be
    served. -/
def StreamSys.Oversleeps (s : StreamSys) : Prop :=
  s.wakeup = true ∧ s.Asleep ∧ ¬s.HeadBlocked s.list

/-- Between `WakeupAdd` and `WakeupRemove`. -/
def StreamPc.registered : StreamPc → Prop
  | .acquire | .wakeupAdd | .release | .ended => False
  | _ => True

/-- Before `WakeupAdd`. -/
def StreamPc.starting : StreamPc → Prop
  | .acquire | .wakeupAdd => True
  | _ => False

/-- What holds whenever the event is clear. -/
structure Awake (s : StreamSys) : Prop where
  wakeup : s.worker.registered → s.wakeup = true
  /-- until the thread has registered, nobody clears the event -/
  starting : s.worker.starting → s.event = false → s.list = []
  wait : s.worker = .wait → s.event = false → s.HeadBlocked s.list
  /-- a request that is put back is still blocked -/
  putBack : ∀ irp, s.worker = .putBack irp → s.event = false → s.Blocked irp

/-- While the event is clear, a cancellation does not uncover a request that could be served: the
    head is cancelled while the thread sleeps only if what is behind it is blocked, and likewise for
    a cancelled request the thread puts back. -/
def KeepsHead (s : StreamSys) : StreamLabel → Prop
  | .ioCancelIrp irp => s.Asleep → ∀ rest, s.list = irp :: rest → s.HeadBlocked rest
  | .worker _ _ => s.event = false → ∀ irp, s.worker = .putBack irp → s.cancel irp.seq = true →
      s.HeadBlocked s.list
  | _ => True

/-! ## 2. Steps -/

section Steps

variable {s s' : StreamSys} {l : StreamLabel}

theorem Awake.registered (h : Awake s) {pc : StreamPc} (hpc : s.worker = pc)
    (hreg : pc.registered) : s.wakeup = true :=
  h.wakeup (hpc ▸ hreg)

/-- With less room, what was blocked is blocked. -/
theorem blocked_use {room : MajorFunction → Nat} {irp : Irp} (hle : ∀ d, room d ≤ s.room d)
    (h : s.Blocked irp) : ({ s with room := room } : StreamSys).Blocked irp :=
  Nat.le_zero.mp (h ▸ hle irp.major)

/-- Removing anything but the head leaves the head. -/
theorem headBlocked_erase {irp : Irp} (h : s.HeadBlocked s.list)
    (hhead : ∀ rest, s.list = irp :: rest → s.HeadBlocked rest) :
    s.HeadBlocked (streamCsqRemoveIrp s.list irp) := by
  cases hl : s.list with
  | nil => exact nofun
  | cons head rest =>
      by_cases he : head = irp
      · subst he
        simpa [streamCsqRemoveIrp] using hhead rest hl
      · rw [hl] at h
        simpa [streamCsqRemoveIrp, List.erase_cons_tail, he, HeadBlocked] using h

/-- **A step that keeps the head keeps the thread awake.** -/
theorem awake_next (hj : s.Joined) (h : Awake s) (hk : KeepsHead s l) (hm : StreamMove s l s') :
    Awake s' := by
  cases hm with
  | putQueue t irp hseq hlive => exact ⟨h.wakeup, nofun, nofun, nofun⟩
  | putCancelled t irp hseq hlive => exact ⟨h.wakeup, nofun, nofun, nofun⟩
  | dispatched t => exact ⟨h.wakeup, h.starting, h.wait, h.putBack⟩
  | cancelQueued irp hq =>
      refine ⟨h.wakeup, fun hw he => ?_, fun hw he => ?_, h.putBack⟩
      · exact absurd hq (by rw [h.starting hw he]; exact List.not_mem_nil)
      · exact headBlocked_erase (h.wait hw he) (hk ⟨hw, he⟩)
  | cancelFlag irp hq => exact ⟨h.wakeup, h.starting, h.wait, h.putBack⟩
  | activity room =>
      refine ⟨h.wakeup, fun hw he => ?_, fun hw he => ?_, fun irp hw he => ?_⟩
      · exact h.starting hw (Bool.or_eq_false_iff.mp he).1
      · exact absurd (Bool.or_eq_false_iff.mp he).2 (by simp [h.registered hw trivial])
      · exact absurd (Bool.or_eq_false_iff.mp he).2 (by simp [h.registered hw trivial])
  | use room hle =>
      exact ⟨h.wakeup, h.starting, fun hw he irp hirp => blocked_use hle (h.wait hw he irp hirp),
        fun irp hw he => blocked_use hle (h.putBack irp hw he)⟩
  | acquired ok n hpc =>
      cases ok with
      | true => exact ⟨nofun, fun _ => h.starting (by rw [hpc]; trivial), nofun, nofun⟩
      | false => exact ⟨nofun, nofun, nofun, nofun⟩
  | wakeupAdded n hpc =>
      refine ⟨fun _ => rfl, nofun, fun _ he => ?_, nofun⟩
      rw [HeadBlocked, h.starting (by rw [hpc]; trivial) he]
      exact nofun
  | wakeupFailed n hpc => exact ⟨nofun, nofun, nofun, nofun⟩
  | waited ok n hpc hevent => exact ⟨fun _ => h.registered hpc trivial, nofun, nofun, nofun⟩
  | cleared ok n hpc => exact ⟨fun _ => h.registered hpc trivial, nofun, nofun, nofun⟩
  | alerted ok n hpc ha => exact ⟨fun _ => h.registered hpc trivial, nofun, nofun, nofun⟩
  | notAlerted ok n hpc ha => exact ⟨fun _ => h.registered hpc trivial, nofun, nofun, nofun⟩
  | nothing ok n hpc hq =>
      refine ⟨fun _ => h.registered hpc trivial, nofun, fun _ _ => ?_, nofun⟩
      rw [HeadBlocked, hq]
      exact nofun
  | take ok n irp rest hpc hq =>
      exact ⟨fun _ => h.registered hpc trivial, nofun, nofun, nofun⟩
  | blocked ok n irp hpc hb =>
      refine ⟨fun _ => h.registered hpc trivial, nofun, nofun, fun irp' he _ => ?_⟩
      cases he
      exact hb
  | ready ok n irp hpc hb =>
      exact ⟨fun _ => h.registered hpc trivial, nofun, nofun, nofun⟩
  | putBack ok n irp hpc hc =>
      refine ⟨fun _ => h.registered hpc trivial, nofun, fun _ he irp' hirp' => ?_, nofun⟩
      cases hirp'
      exact h.putBack irp hpc he
  | putBackCancelled ok n irp hpc hc =>
      exact ⟨fun _ => h.registered hpc trivial, nofun, fun _ he => hk he irp hpc hc, nofun⟩
  | transfer ok n irp hpc => exact ⟨fun _ => h.registered hpc trivial, nofun, nofun, nofun⟩
  | complete ok n irp m hpc =>
      exact ⟨fun _ => h.registered hpc trivial, nofun, nofun, nofun⟩
  | wakeupRemove ok n hpc => exact ⟨nofun, nofun, nofun, nofun⟩
  | release ok n hpc => exact ⟨nofun, nofun, nofun, nofun⟩
  | destroyStart hpc => exact ⟨h.wakeup, h.starting, h.wait, h.putBack⟩
  | destroyAlert hpc => exact ⟨h.wakeup, h.starting, h.wait, h.putBack⟩
  | destroyWake hpc => exact ⟨h.wakeup, nofun, nofun, nofun⟩
  | destroyJoin hpc hended => exact ⟨h.wakeup, h.starting, h.wait, h.putBack⟩
  | drained hpc hq => exact ⟨h.wakeup, h.starting, h.wait, h.putBack⟩
  | drainTake irp rest hpc hq =>
      have hended : s.worker = .ended := hj.resolve_left (by simp [hpc, StreamDestroyPc.live])
      refine ⟨h.wakeup, fun hw => ?_, fun hw => ?_, h.putBack⟩
      · exact (show StreamPc.ended.starting from hended ▸ hw).elim
      · cases hended.symm.trans hw
  | drainComplete irp hpc => exact ⟨h.wakeup, h.starting, h.wait, h.putBack⟩

/-- **A step that does not keep the head lets the thread oversleep at once.** -/
theorem oversleeps_of_not (h : Awake s) (he : streamEnabled s l) (hk : ¬KeepsHead s l) :
    (streamNext s l).Oversleeps := by
  cases l with
  | ioCancelIrp irp =>
      simp only [KeepsHead, not_forall] at hk
      obtain ⟨⟨hw, hclear⟩, rest, hl, hb⟩ := hk
      have hmem : irp ∈ s.list := hl ▸ List.mem_cons_self
      have hrest : streamCsqRemoveIrp s.list irp = rest := by simp [streamCsqRemoveIrp, hl]
      simp only [streamNext, StreamSys.ioCancelIrp, if_pos hmem, hrest]
      exact ⟨h.registered hw trivial, ⟨hw, hclear⟩, hb⟩
  | worker ok n =>
      simp only [KeepsHead, not_forall] at hk
      obtain ⟨hclear, irp, hw, hc, hb⟩ := hk
      simp only [streamNext, streamWorkerStep, hw, StreamSys.ioCsqInsertIrpEx,
        streamCsqInsertIrpEx, hc, if_true]
      exact ⟨h.registered hw trivial, ⟨rfl, hclear⟩, hb⟩
  | putQueue | dispatched | activity | use | destroyStart | destroyStep => exact absurd trivial hk

end Steps

/-! ## 3. Runs -/

theorem awake_init : Awake .init := ⟨nofun, fun _ _ => rfl, nofun, nofun⟩

theorem reach_awake {s : StreamSys} (h : Reach streamSystem KeepsHead .init s) : Awake s :=
  (h.streamInvariant awake_init fun _ _ _ hj hi hk hm => awake_next hj hi hk hm).2

/-- **The thread does not oversleep as long as every step keeps the head**, and from any state that
    is reached so, the first step that does not lets it oversleep. -/
theorem sleeps_soundly {s : StreamSys} (h : Reach streamSystem KeepsHead .init s) :
    (s.Asleep → s.HeadBlocked s.list) ∧
    ∀ l, streamEnabled s l → ¬KeepsHead s l → (streamNext s l).Oversleeps :=
  ⟨fun hs => (reach_awake h).wait hs.1 hs.2, fun _ he hk => oversleeps_of_not (reach_awake h) he hk⟩

/-- There is no input and output space for one byte; a read and a write are put, and the thread
    finds the read blocked. -/
def readThenWrite : List StreamLabel :=
  [.activity fun d => match d with | .read => 0 | .write => 1,
    .putQueue 0 (.oneByte 0 .read 0 0) false, .putQueue 1 (.oneByte 1 .write 0 0) false,
    -- down to the wait, the clear, and from there to the request that is put back
    .worker true 0, .worker true 0, .worker true 0, .worker true 0, .worker true 0, .worker true 0,
    .worker true 0, .worker true 0]

theorem reach_readThenWrite :
    Reach streamSystem KeepsHead .init (runs streamSystem .init readThenWrite) :=
  .of_admits _ .start ⟨trivial, trivial, ⟨rfl, rfl, trivial⟩, trivial, ⟨rfl, rfl, trivial⟩, trivial,
    ⟨nofun, nofun⟩, nofun, ⟨nofun, nofun⟩, nofun, ⟨nofun, fun _ => rfl⟩, nofun, ⟨nofun, nofun⟩, nofun,
    ⟨nofun, nofun⟩, nofun, ⟨nofun, nofun⟩, nofun, ⟨nofun, nofun⟩, nofun, ⟨nofun, nofun⟩,
    fun _ _ hw hc => (by cases hw; cases hc), trivial⟩

theorem sleeps_soundly_readThenWrite :
    (runs streamSystem .init readThenWrite).HeadBlocked
      (runs streamSystem .init readThenWrite).list :=
  (sleeps_soundly reach_readThenWrite).1 ⟨rfl, rfl⟩

/-- The read is cancelled, and the thread sleeps although the write could be served. -/
theorem cancelled_read_oversleeps : ∃ s, Reach streamSystem (fun _ _ => True) .init s ∧
    s.Oversleeps := by
  refine ⟨_, .step (S := streamSystem) (.ioCancelIrp (.oneByte 0 .read 0 0))
    (reach_readThenWrite.mono fun _ _ _ => trivial) (.head _) trivial, rfl, ⟨rfl, rfl⟩, fun h => ?_⟩
  cases h (.oneByte 1 .write 0 0) rfl

end Xencons
