import Xencons.Console.Stream
import Xencons.Lib.Inevitable

/-!
# Every request on the stream is completed once, and called in turn (stream.c)

The thread takes requests off one end of the queue and may put the last one back there; a
cancellation takes them out anywhere; what is left, `StreamDestroy` takes when the thread has ended.

* `StreamSys.inFlight`, `StreamSys.line` -- who has a request that is not completed, and the
  requests in the line they are called in: the calls made, then what is still to be called, head
  first;
* `StreamCustody` -- the invariant: completed and in flight is all that was put, and the line is
  sorted; `StreamMove.custody` -- every step keeps it;
* `StreamSys.Woken`, `StreamSys.rank` -- why the thread does not miss the alert, and how far it and
  `StreamDestroy` are from the end; `StreamMove.rank_lt` -- every step of theirs is one nearer;
* `completed_once`, `StreamCustody.turn` -- the results.
-/

namespace Xencons

open Lib Function StreamSys

/-! ## 1. The line -/

/-- The request the thread has. -/
def StreamPc.holds : StreamPc → List Irp
  | .test irp | .putBack irp | .transfer irp | .complete irp _ => [irp]
  | _ => []

/-- The request the thread has and has made no call for. -/
def StreamPc.waits : StreamPc → List Irp
  | .test irp | .putBack irp | .transfer irp => [irp]
  | _ => []

/-- The request `StreamDestroy` has. -/
def StreamDestroyPc.holds : StreamDestroyPc → List Irp
  | .complete irp => [irp]
  | _ => []

/-- The requests that have been put and not completed. -/
def StreamSys.inFlight (s : StreamSys) : List Irp :=
  s.destroyer.holds ++ s.worker.holds ++ s.list

/-- The requests for which no call has been made, in the order they are going to be taken. -/
def StreamSys.waiting (s : StreamSys) : List Irp :=
  s.destroyer.holds ++ s.worker.waits ++ s.list

/-- The line: the calls, and behind them who waits for one. -/
def StreamSys.line (s : StreamSys) : List Irp := s.calls.map (·.irp) ++ s.waiting

/-- A completion is a success with what the call returned, or a cancellation without a call. -/
def Completion.Fits (calls : List ConsoleCall) (c : Completion) : Prop :=
  c.status = .success ∧ ⟨c.irp, c.information⟩ ∈ calls ∨
    c.status = .cancelled ∧ c.information = 0 ∧ ∀ call ∈ calls, call.irp ≠ c.irp

/-- The invariant. -/
structure StreamCustody (s : StreamSys) : Prop where
  /-- a request's identity is its place in the order they were put -/
  seqs : s.put.map Irp.seq = List.range s.put.length
  perm : (s.completed.map (·.irp) ++ s.inFlight).Perm s.put
  sorted : (s.line.map Irp.seq).Pairwise (· < ·)
  completed : ∀ c ∈ s.completed, c.Fits s.calls
  called : ∀ call ∈ s.calls, call.irp ∈ s.put
  complete : ∀ irp n, s.worker = .complete irp n → ⟨irp, n⟩ ∈ s.calls
  returned : s.destroyer = .returned → s.list = []

section Steps

variable {s s' : StreamSys} {l : StreamLabel}

/-- No request is in two places. -/
theorem StreamCustody.nodup (h : StreamCustody s) :
    (s.completed.map (·.irp) ++ s.inFlight).Nodup := by
  refine h.perm.nodup_iff.mpr (List.Nodup.of_map Irp.seq ?_)
  rw [h.seqs]
  exact List.nodup_range

theorem StreamCustody.seq_lt (h : StreamCustody s) {irp : Irp} (hmem : irp ∈ s.put) :
    irp.seq < s.put.length := by
  have hseq : irp.seq ∈ s.put.map Irp.seq := List.mem_map_of_mem hmem
  rwa [h.seqs, List.mem_range] at hseq

theorem mem_holds_of_mem_waits {pc : StreamPc} {irp : Irp} (h : irp ∈ pc.waits) :
    irp ∈ pc.holds := by
  cases pc <;> simp_all [StreamPc.waits, StreamPc.holds]

/-- Whoever waits is in flight. -/
theorem mem_inFlight_of_mem_waiting {irp : Irp} (h : irp ∈ s.waiting) : irp ∈ s.inFlight := by
  simp only [waiting, inFlight, List.mem_append] at h ⊢
  exact h.imp_left (Or.imp_right mem_holds_of_mem_waits)

/-- Whoever is in the line has been put. -/
theorem StreamCustody.line_put (h : StreamCustody s) {irp : Irp} (hl : irp ∈ s.line) :
    irp ∈ s.put := by
  rcases List.mem_append.mp hl with hl | hl
  · obtain ⟨call, hcall, rfl⟩ := List.mem_map.mp hl
    exact h.called call hcall
  · exact h.perm.mem_iff.mp (List.mem_append_right _ (mem_inFlight_of_mem_waiting hl))

/-- What has been called stands in the line before what waits. -/
theorem StreamCustody.called_lt_waiting (h : StreamCustody s) {call : ConsoleCall}
    (hcall : call ∈ s.calls) {irp : Irp} (hw : irp ∈ s.waiting) : call.irp.seq < irp.seq := by
  have hs := h.sorted
  rw [line, List.map_append, List.pairwise_append] at hs
  have hc : call.irp.seq ∈ (s.calls.map (·.irp)).map Irp.seq :=
    List.mem_map_of_mem (List.mem_map_of_mem (f := (·.irp)) hcall)
  exact hs.2.2 _ hc _ (List.mem_map_of_mem hw)

/-- Nobody who waits has been called. -/
theorem StreamCustody.waiting_not_called (h : StreamCustody s) {irp : Irp}
    (hw : irp ∈ s.waiting) : ∀ call ∈ s.calls, call.irp ≠ irp := by
  rintro call hcall rfl
  exact Nat.lt_irrefl _ (h.called_lt_waiting hcall hw)

/-- A step that completes nothing and calls nothing, and leaves the line as it is. -/
theorem StreamCustody.keep (h : StreamCustody s) (hput : s'.put = s.put)
    (hcalls : s'.calls = s.calls) (hcompleted : s'.completed = s.completed)
    (hin : s'.inFlight = s.inFlight) (hwait : s'.waiting = s.waiting)
    (hcomplete : ∀ irp n, s'.worker = .complete irp n → s.worker = .complete irp n)
    (hret : s'.destroyer = .returned → s'.list = []) : StreamCustody s' where
  seqs := by rw [hput]; exact h.seqs
  perm := by rw [hput, hcompleted, hin]; exact h.perm
  sorted := by rw [line, hcalls, hwait]; exact h.sorted
  completed := by rw [hcompleted, hcalls]; exact h.completed
  called := by rw [hcalls, hput]; exact h.called
  complete irp n hw := by rw [hcalls]; exact h.complete irp n (hcomplete irp n hw)
  returned := hret

/-- A request that waits is completed as cancelled. -/
theorem StreamCustody.cancel (h : StreamCustody s) (irp : Irp) (hw : irp ∈ s.waiting)
    (hput : s'.put = s.put) (hcalls : s'.calls = s.calls)
    (hcompleted : s'.completed = s.completed ++ [⟨irp, .cancelled, 0⟩])
    (hin : s.inFlight.Perm (irp :: s'.inFlight)) (hwait : s'.waiting.Sublist s.waiting)
    (hcomplete : ∀ irp n, s'.worker = .complete irp n → s.worker = .complete irp n)
    (hret : s'.destroyer = .returned → s'.list = []) : StreamCustody s' where
  seqs := by rw [hput]; exact h.seqs
  perm := by
    rw [hput, hcompleted, List.map_append, List.append_assoc]
    exact ((hin.symm.append_left _)).trans h.perm
  sorted := by
    have hsub : s'.line.Sublist s.line := by
      rw [line, line, hcalls]
      exact (List.Sublist.refl _).append hwait
    exact h.sorted.sublist (hsub.map _)
  completed c hc := by
    rw [hcompleted] at hc
    rw [hcalls]
    rcases List.mem_append.mp hc with hc | hc
    · exact h.completed c hc
    · rw [List.mem_singleton.mp hc]
      exact .inr ⟨rfl, rfl, h.waiting_not_called hw⟩
  called := by rw [hcalls, hput]; exact h.called
  complete irp n hw := by rw [hcalls]; exact h.complete irp n (hcomplete irp n hw)
  returned := hret

/-- A request is put at the tail. -/
theorem StreamCustody.putQueue {irp : Irp} (h : StreamCustody s) (hseq : irp.seq = s.put.length)
    (hput : s'.put = s.put ++ [irp]) (hcalls : s'.calls = s.calls)
    (hcompleted : s'.completed = s.completed) (hin : s'.inFlight = s.inFlight ++ [irp])
    (hwait : s'.waiting = s.waiting ++ [irp]) (hworker : s'.worker = s.worker)
    (hret : s'.destroyer ≠ .returned) : StreamCustody s' where
  seqs := by simp [hput, List.range_succ, h.seqs, hseq]
  perm := by
    rw [hput, hcompleted, hin, ← List.append_assoc]
    exact h.perm.append_right _
  sorted := by
    rw [line, hcalls, hwait, ← List.append_assoc, List.map_append, List.pairwise_append]
    refine ⟨h.sorted, List.pairwise_singleton _ _, fun a ha b hb => ?_⟩
    obtain rfl : b = irp.seq := by simpa using hb
    obtain ⟨x, hx, rfl⟩ := List.mem_map.mp ha
    rw [hseq]
    exact h.seq_lt (h.line_put hx)
  completed := by rw [hcompleted, hcalls]; exact h.completed
  called call hcall := by
    rw [hput]
    exact List.mem_append_left _ (h.called call (hcalls ▸ hcall))
  complete irp n hw := by rw [hcalls]; exact h.complete irp n (hworker ▸ hw)
  returned hr := absurd hr hret

/-- The thread makes its call: the request goes from the waiting to the calls, in place. -/
theorem StreamCustody.transfer {irp : Irp} {n : ULONG} (h : StreamCustody s)
    (hpc : s.worker = .transfer irp) (hd : s.destroyer.holds = []) :
    StreamCustody { s with calls := s.calls ++ [⟨irp, n⟩], worker := .complete irp n } where
  seqs := h.seqs
  perm := by simpa [inFlight, hpc, StreamPc.holds] using h.perm
  sorted := by
    have hs := h.sorted
    simpa [line, waiting, hpc, hd, StreamPc.waits] using hs
  completed c hc := by
    rcases h.completed c hc with ⟨hst, hcall⟩ | ⟨hst, hi, hnot⟩
    · exact .inl ⟨hst, List.mem_append_left _ hcall⟩
    · refine .inr ⟨hst, hi, fun call hcall => ?_⟩
      rcases List.mem_append.mp hcall with hcall | hcall
      · exact hnot call hcall
      · -- the request of the call is in the thread's hands, so it is not completed
        rw [List.mem_singleton.mp hcall]
        rintro rfl
        have hnd := (List.nodup_append.mp h.nodup).2.2
        refine hnd _ (List.mem_map_of_mem hc) _ ?_ rfl
        simp [inFlight, hpc, StreamPc.holds]
  called call hcall := by
    rcases List.mem_append.mp hcall with hcall | hcall
    · exact h.called call hcall
    · rw [List.mem_singleton.mp hcall]
      refine h.perm.mem_iff.mp (List.mem_append_right _ ?_)
      simp [inFlight, hpc, StreamPc.holds]
  complete irp' m hw := by
    cases hw
    exact List.mem_append_right _ List.mem_cons_self
  returned := h.returned

/-- The thread completes the request it has made the call for. -/
theorem StreamCustody.finish {irp : Irp} {n : ULONG} (h : StreamCustody s)
    (hpc : s.worker = .complete irp n) :
    StreamCustody { s.ioCompleteRequest irp .success n with worker := .dequeue } where
  seqs := h.seqs
  perm := by
    refine List.Perm.trans ?_ h.perm
    simp only [StreamSys.ioCompleteRequest, inFlight, hpc, StreamPc.holds, List.map_append,
      List.map_cons, List.map_nil, List.append_nil, List.append_assoc]
    refine List.Perm.append_left _ ?_
    rw [← List.append_assoc, ← List.append_assoc]
    exact List.perm_append_comm.append_right _
  sorted := by
    simpa [line, waiting, hpc, StreamPc.waits, StreamSys.ioCompleteRequest] using h.sorted
  completed c hc := by
    rcases List.mem_append.mp hc with hc | hc
    · exact h.completed c hc
    · rw [List.mem_singleton.mp hc]
      exact .inl ⟨rfl, h.complete irp n hpc⟩
  called := h.called
  complete := nofun
  returned := h.returned

theorem holds_of_live {pc : StreamDestroyPc} (h : pc.live) : pc.holds = [] := by
  cases pc <;> first | rfl | exact h.elim

/-- While the thread has not ended, `StreamDestroy` has no request. -/
theorem StreamSys.Joined.holds (hj : s.Joined) (hw : s.worker ≠ .ended) : s.destroyer.holds = [] :=
  holds_of_live (hj.resolve_right hw)

theorem ne_returned_of_live {pc : StreamDestroyPc} (h : pc.live) : pc ≠ .returned := by
  rintro rfl
  exact h

/-- **Every step keeps custody.** -/
theorem StreamMove.custody (hj : s.Joined) (h : StreamCustody s) (hm : StreamMove s l s') :
    StreamCustody s' := by
  cases hm with
  | putQueue t irp hseq hlive =>
      exact h.putQueue hseq rfl rfl rfl (by simp [inFlight, arrive]) (by simp [waiting, arrive]) rfl
        (ne_returned_of_live hlive)
  | putCancelled t irp hseq hlive =>
      -- put at the tail, and taken off again before anybody else looks
      have hput : StreamCustody { s.arrive t irp true with list := s.list ++ [irp] } :=
        h.putQueue hseq rfl rfl rfl (by simp [inFlight, arrive]) (by simp [waiting, arrive]) rfl
          (ne_returned_of_live hlive)
      refine hput.cancel irp (by simp [waiting]) rfl rfl rfl ?_ ?_ (fun _ _ => id)
        fun hr => absurd hr (ne_returned_of_live hlive)
      · simp only [inFlight, arrive, streamCsqCompleteCanceledIrp, StreamSys.ioCompleteRequest,
          ← List.append_assoc]
        exact List.perm_append_singleton _ _
      · simp only [waiting, arrive, streamCsqCompleteCanceledIrp, StreamSys.ioCompleteRequest]
        exact (List.sublist_append_left _ _).append_left _
  | dispatched t => exact h.keep rfl rfl rfl rfl rfl (fun _ _ => id) h.returned
  | cancelQueued irp hq =>
      refine h.cancel irp (by simp [waiting, hq]) rfl rfl rfl ?_ ?_ (fun _ _ => id) ?_
      · simp only [inFlight, streamCsqCompleteCanceledIrp, StreamSys.ioCompleteRequest,
          streamCsqRemoveIrp]
        exact ((List.perm_cons_erase hq).append_left _).trans List.perm_middle
      · simp only [waiting, streamCsqCompleteCanceledIrp, StreamSys.ioCompleteRequest,
          streamCsqRemoveIrp]
        exact List.erase_sublist.append_left _
      · intro hr
        simp [h.returned hr] at hq
  | cancelFlag irp hq => exact h.keep rfl rfl rfl rfl rfl (fun _ _ => id) h.returned
  | activity room => exact h.keep rfl rfl rfl rfl rfl (fun _ _ => id) h.returned
  | use room hle => exact h.keep rfl rfl rfl rfl rfl (fun _ _ => id) h.returned
  | acquired ok n hpc =>
      cases ok <;> exact h.keep rfl rfl rfl (by simp [inFlight, hpc, StreamPc.holds])
        (by simp [waiting, hpc, StreamPc.waits]) (fun _ _ => by simp) h.returned
  | wakeupAdded n hpc | wakeupFailed n hpc | waited ok n hpc | cleared ok n hpc
  | alerted ok n hpc | notAlerted ok n hpc | nothing ok n hpc | blocked ok n irp hpc
  | ready ok n irp hpc | wakeupRemove ok n hpc | release ok n hpc =>
      exact h.keep rfl rfl rfl (by simp [inFlight, hpc, StreamPc.holds])
        (by simp [waiting, hpc, StreamPc.waits]) (fun _ _ => by simp) h.returned
  | take ok n irp rest hpc hq =>
      exact h.keep rfl rfl rfl (by simp [inFlight, hpc, hq, StreamPc.holds])
        (by simp [waiting, hpc, hq, StreamPc.waits]) (fun _ _ => by simp)
        fun hr => absurd (h.returned hr) (by simp [hq])
  | putBack ok n irp hpc hc =>
      have hlive := hj.resolve_right (by simp [hpc])
      exact h.keep rfl rfl rfl (by simp [inFlight, hpc, StreamPc.holds])
        (by simp [waiting, hpc, StreamPc.waits]) (fun _ _ => by simp)
        fun hr => absurd hr (ne_returned_of_live hlive)
  | putBackCancelled ok n irp hpc hc =>
      refine h.cancel irp (by simp [waiting, hpc, StreamPc.waits]) rfl rfl rfl ?_ ?_
        (fun _ _ => by simp) h.returned
      · simp only [inFlight, hpc, StreamPc.holds, streamCsqCompleteCanceledIrp,
          StreamSys.ioCompleteRequest, List.append_nil, List.append_assoc]
        exact List.perm_middle
      · simp [waiting, hpc, StreamPc.waits, streamCsqCompleteCanceledIrp,
          StreamSys.ioCompleteRequest]
  | transfer ok n irp hpc => exact h.transfer hpc (hj.holds (by simp [hpc]))
  | complete ok n irp m hpc => exact h.finish hpc
  | destroyStart hpc | destroyAlert hpc | destroyWake hpc =>
      exact h.keep rfl rfl rfl (by simp [inFlight, hpc, StreamDestroyPc.holds])
        (by simp [waiting, hpc, StreamDestroyPc.holds]) (fun _ _ => id) fun hr => by cases hr
  | destroyJoin hpc hended =>
      exact h.keep rfl rfl rfl (by simp [inFlight, hpc, StreamDestroyPc.holds])
        (by simp [waiting, hpc, StreamDestroyPc.holds]) (fun _ _ => id) fun hr => by cases hr
  | drained hpc hq =>
      exact h.keep rfl rfl rfl (by simp [inFlight, hpc, StreamDestroyPc.holds])
        (by simp [waiting, hpc, StreamDestroyPc.holds]) (fun _ _ => id) fun _ => hq
  | drainTake irp rest hpc hq =>
      have hended : s.worker = .ended := hj.resolve_left (by simp [hpc, StreamDestroyPc.live])
      exact h.keep rfl rfl rfl
        (by simp [inFlight, hpc, hq, hended, StreamDestroyPc.holds, StreamPc.holds])
        (by simp [waiting, hpc, hq, hended, StreamDestroyPc.holds, StreamPc.waits])
        (fun _ _ => id) fun hr => by cases hr
  | drainComplete irp hpc =>
      refine h.cancel irp (by simp [waiting, hpc, StreamDestroyPc.holds]) rfl rfl rfl ?_ ?_
        (fun _ _ => id) fun hr => by cases hr
      · simp [inFlight, hpc, StreamDestroyPc.holds, streamCsqCompleteCanceledIrp,
          StreamSys.ioCompleteRequest]
      · simp [waiting, hpc, StreamDestroyPc.holds, streamCsqCompleteCanceledIrp,
          StreamSys.ioCompleteRequest]

/-- **In turn**: whoever was put before a request that has been called has been called as well, or
    has been cancelled. -/
theorem StreamCustody.turn (h : StreamCustody s) {call : ConsoleCall} (hcall : call ∈ s.calls)
    {irp : Irp} (hput : irp ∈ s.put) (hlt : irp.seq < call.irp.seq) :
    (∃ call' ∈ s.calls, call'.irp = irp) ∨ ⟨irp, .cancelled, 0⟩ ∈ s.completed := by
  -- behind a call there are only later requests
  have hbehind : irp ∉ s.waiting := fun hw =>
    Nat.lt_asymm hlt (h.called_lt_waiting hcall hw)
  rcases List.mem_append.mp (h.perm.mem_iff.mpr hput) with hc | hin
  · obtain ⟨c, hmem, rfl⟩ := List.mem_map.mp hc
    rcases h.completed c hmem with ⟨-, hcall'⟩ | ⟨hst, hi, -⟩
    · exact .inl ⟨_, hcall', rfl⟩
    · obtain ⟨irp, status, information⟩ := c
      cases hst
      cases hi
      exact .inr hmem
  · simp only [waiting, inFlight, List.mem_append, not_or] at hbehind hin
    obtain ⟨⟨hd, hw⟩, hl⟩ := hbehind
    rcases hin with (hin | hin) | hin
    · exact absurd hin hd
    · cases hpc : s.worker with
      | complete irp' n =>
          rw [hpc, StreamPc.holds, List.mem_singleton] at hin
          exact .inl ⟨_, h.complete irp' n hpc, hin.symm⟩
      | _ => rw [hpc] at hin hw; exact absurd hin hw
    · exact absurd hin hl

end Steps

/-! ## 3. StreamDestroy returns -/

/-- The steps of `StreamDestroy` and of the thread it waits for. -/
def StreamLabel.OfDestroy : StreamLabel → Prop
  | .worker _ _ | .destroyStep => True
  | _ => False

/-- The thread has cleared the event and is going to look whether it is alerted, or has looked. -/
def StreamPc.Leaving : StreamPc → Prop
  | .alerted | .wakeupRemove | .release | .ended => True
  | _ => False

/-- The thread does not miss the alert: what `StreamDestroy` has set stays set until it is seen. -/
structure StreamSys.Woken (s : StreamSys) : Prop where
  alerted : s.destroyer = .wake ∨ s.destroyer = .join → s.alerted = true
  event : s.destroyer = .join → s.event = true ∨ s.worker.Leaving

/-- How many steps the thread is from its wait or its end, with `n` requests left to serve. -/
def StreamPc.rank (n : Nat) : StreamPc → Nat
  | .ended => 0
  | .release => 1
  | .wakeupRemove => 2
  | .wait => 3
  | .putBack _ => 4
  | .wakeupAdd => 5
  | .acquire => 6
  | .complete _ _ => 5 * n + 4
  | .transfer _ => 5 * n + 5
  | .test _ => 5 * n + 6
  | .dequeue => 5 * n + 7
  | .alerted => 5 * n + 8
  | .clear => 5 * n + 9

/-- How many steps `StreamDestroy` is from its return, with `n` requests left. -/
def StreamDestroyPc.rank (n : Nat) : StreamDestroyPc → Nat
  | .idle | .returned => 0
  | .drain => 2 * n + 1
  | .complete _ => 2 * n + 2
  | .join => 2 * n + 3
  | .wake => 2 * n + 4
  | .alert => 2 * n + 5

/-- The rounds of its loop the thread is still woken for: an event that is set and not about to be
    cleared, and the one that `StreamDestroy` is going to set. -/
def StreamSys.rounds (s : StreamSys) : Nat :=
  (if s.event = true ∧ s.worker ≠ .clear then 1 else 0) +
    if s.destroyer = .alert ∨ s.destroyer = .wake then 1 else 0

/-- The requests somebody has still to serve. -/
def StreamSys.load (s : StreamSys) : Nat := s.worker.holds.length + s.list.length

/-- The rank of the stream while it is destroyed. -/
def StreamSys.rank (s : StreamSys) : Nat :=
  s.rounds * (5 * s.load + 20) + s.worker.rank s.load + s.destroyer.rank s.load

section Ranking

variable {s s' : StreamSys} {l : StreamLabel}

/-- Nobody but the thread clears the event, and it looks at the alert behind that. -/
theorem StreamMove.woken (h : s.Woken) (hm : StreamMove s l s') : s'.Woken := by
  obtain ⟨ha, he⟩ := h
  -- a thread that leaves the loop goes on leaving it
  have hleave : s.worker.Leaving → s.worker ≠ .alerted → s.worker ≠ .wakeupRemove →
      s.worker ≠ .release → s.worker = .ended := by
    intro hl h1 h2 h3
    cases hpc : s.worker <;> simp_all [StreamPc.Leaving]
  have hevent : ¬s.worker.Leaving → s.destroyer = .join → s.event = true :=
    fun hn hj => (he hj).resolve_right hn
  cases hm with
  | putQueue | putCancelled => exact ⟨ha, fun _ => .inl rfl⟩
  | dispatched | cancelQueued | cancelFlag | use => exact ⟨ha, he⟩
  | activity room =>
      refine ⟨ha, fun hj => (he hj).imp_left fun h => ?_⟩
      simp [h]
  | cleared ok n hpc => exact ⟨ha, fun _ => .inr trivial⟩
  | alerted ok n hpc | wakeupRemove ok n hpc | release ok n hpc =>
      exact ⟨ha, fun _ => .inr trivial⟩
  | notAlerted ok n hpc hna =>
      refine ⟨ha, fun hj => ?_⟩
      rw [ha (.inr hj)] at hna
      cases hna
  | acquired ok n hpc | wakeupAdded n hpc | wakeupFailed n hpc | waited ok n hpc | nothing ok n hpc
  | take ok n irp rest hpc | blocked ok n irp hpc | ready ok n irp hpc | putBack ok n irp hpc
  | putBackCancelled ok n irp hpc | transfer ok n irp hpc | complete ok n irp m hpc =>
      refine ⟨ha, fun hj => .inl (hevent ?_ hj)⟩
      simp [hpc, StreamPc.Leaving]
  | destroyStart => exact ⟨nofun, nofun⟩
  | destroyAlert => exact ⟨fun _ => rfl, nofun⟩
  | destroyWake hpc => exact ⟨fun _ => ha (.inl hpc), fun _ => .inl rfl⟩
  | destroyJoin | drained | drainTake | drainComplete => exact ⟨nofun, nofun⟩

/-- A party of the destruction that has not come to its end can take a step. -/
theorem StreamSys.Woken.goes (h : s.Woken) (hstart : s.destroyer ≠ .idle)
    (hd : s.destroyer ≠ .returned) : ∃ l : StreamLabel, l.OfDestroy ∧ streamEnabled s l := by
  by_cases hj : s.destroyer = .join
  · by_cases hended : s.worker = .ended
    · exact ⟨.destroyStep, trivial, hstart, hd, fun _ => hended⟩
    · refine ⟨.worker true 0, trivial, hended, fun hw => ?_⟩
      refine (h.event hj).resolve_right ?_
      rw [hw]
      exact id
  · exact ⟨.destroyStep, trivial, hstart, hd, fun h => absurd h hj⟩

theorem StreamDestroyPc.rank_mono (pc : StreamDestroyPc) {m n : Nat} (h : m ≤ n) :
    pc.rank m ≤ pc.rank n := by
  cases pc <;> simp only [StreamDestroyPc.rank] <;> omega

/-- Within a round. -/
theorem StreamSys.rank_lt (hr : s'.rounds ≤ s.rounds) (hn : s'.load ≤ s.load)
    (hlt : s'.worker.rank s'.load + s'.destroyer.rank s'.load <
      s.worker.rank s.load + s.destroyer.rank s.load) : s'.rank < s.rank := by
  have hmul : s'.rounds * (5 * s'.load + 20) ≤ s.rounds * (5 * s.load + 20) :=
    Nat.mul_le_mul hr (by omega)
  unfold rank
  omega

/-- The beginning of a round. -/
theorem StreamSys.rank_lt_of_round (hr : s'.rounds < s.rounds) (hn : s'.load = s.load)
    (hd : s'.destroyer = s.destroyer)
    (hlt : s'.worker.rank s.load < s.worker.rank s.load + (5 * s.load + 20)) :
    s'.rank < s.rank := by
  have hmul : (s'.rounds + 1) * (5 * s.load + 20) ≤ s.rounds * (5 * s.load + 20) :=
    Nat.mul_le_mul_right _ hr
  rw [Nat.succ_mul] at hmul
  unfold rank
  rw [hn, hd]
  omega

/-- The thread goes on within a round. -/
theorem StreamSys.rank_lt_of_worker (hpc : s'.worker ≠ .clear → s.worker ≠ .clear)
    (he : s'.event = true → s.event = true) (hd : s'.destroyer = s.destroyer)
    (hn : s'.load ≤ s.load) (hlt : s'.worker.rank s'.load < s.worker.rank s.load) :
    s'.rank < s.rank := by
  refine rank_lt ?_ hn ?_
  · unfold rounds
    rw [hd]
    have himp : s'.event = true ∧ s'.worker ≠ .clear → s.event = true ∧ s.worker ≠ .clear :=
      And.imp he hpc
    split_ifs <;> simp_all
  · rw [hd]
    have := s.destroyer.rank_mono hn
    omega

/-- **Every step of `StreamDestroy` and of the thread lowers the rank.** -/
theorem StreamMove.rank_lt (hj : s.Joined) (hl : l.OfDestroy) (hm : StreamMove s l s') :
    s'.rank < s.rank := by
  cases hm with
  | putQueue | putCancelled | dispatched | cancelQueued | cancelFlag | activity | use
  | destroyStart => exact hl.elim
  | waited ok n hpc hevent =>
      refine rank_lt_of_round ?_ ?_ rfl ?_
      · simp [rounds, hpc, hevent]
      · simp [load, hpc, StreamPc.holds]
      · simp only [hpc, StreamPc.rank]
        omega
  | cleared ok n hpc =>
      refine StreamSys.rank_lt ?_ ?_ ?_
      · simp [rounds]
      · simp [load, hpc, StreamPc.holds]
      · simp only [load, hpc, StreamPc.holds, StreamPc.rank]
        omega
  | acquired ok n hpc =>
      refine rank_lt_of_worker (by simp [hpc]) id rfl ?_ ?_
      · cases ok <;> simp [load, hpc, StreamPc.holds]
      · cases ok <;> simp [hpc, StreamPc.rank]
  | wakeupAdded n hpc | wakeupFailed n hpc | alerted ok n hpc | notAlerted ok n hpc
  | nothing ok n hpc | blocked ok n irp hpc | ready ok n irp hpc | transfer ok n irp hpc
  | wakeupRemove ok n hpc | release ok n hpc =>
      refine rank_lt_of_worker (by simp [hpc]) id rfl ?_ ?_
      · simp [load, hpc, StreamPc.holds]
      · simp only [load, hpc, StreamPc.holds, StreamPc.rank, List.length_nil, List.length_cons]
        omega
  | take ok n irp rest hpc hq =>
      refine rank_lt_of_worker (by simp [hpc]) id rfl ?_ ?_
      · simp [load, hpc, hq, StreamPc.holds]
        omega
      · simp only [load, hpc, hq, StreamPc.holds, StreamPc.rank, List.length_nil, List.length_cons]
        omega
  | putBack ok n irp hpc =>
      refine rank_lt_of_worker (by simp [hpc]) id rfl ?_ ?_
      · simp [load, hpc, StreamPc.holds, Nat.add_comm]
      · simp [hpc, StreamPc.rank]
  | putBackCancelled ok n irp hpc =>
      refine rank_lt_of_worker (by simp [hpc]) id rfl ?_ ?_
      · simp [load, hpc, StreamPc.holds, streamCsqCompleteCanceledIrp, StreamSys.ioCompleteRequest]
      · simp [hpc, StreamPc.rank]
  | complete ok n irp m hpc =>
      refine rank_lt_of_worker (by simp [hpc]) id rfl ?_ ?_
      · simp [load, hpc, StreamPc.holds, StreamSys.ioCompleteRequest]
      · simp only [load, hpc, StreamPc.holds, StreamPc.rank, List.length_nil, List.length_cons,
          StreamSys.ioCompleteRequest]
        omega
  | destroyAlert hpc =>
      refine StreamSys.rank_lt ?_ ?_ ?_
      · simp [rounds, hpc]
      · simp [load]
      · simp [load, hpc, StreamDestroyPc.rank]
  | destroyWake hpc =>
      refine StreamSys.rank_lt ?_ ?_ ?_
      · simp only [rounds, hpc]
        split_ifs <;> simp_all
      · simp [load]
      · simp [load, hpc, StreamDestroyPc.rank]
  | destroyJoin hpc hended | drained hpc hq =>
      refine StreamSys.rank_lt ?_ ?_ ?_
      · simp [rounds, hpc]
      · simp [load]
      · simp [load, hpc, StreamDestroyPc.rank]
  | drainTake irp rest hpc hq =>
      -- here the thread has ended, and its rank does not depend on the load
      have hended : s.worker = .ended := hj.resolve_left (by simp [hpc, StreamDestroyPc.live])
      refine StreamSys.rank_lt ?_ ?_ ?_
      · simp [rounds, hpc]
      · simp [load, hq]
      · simp only [load, hpc, hq, hended, StreamPc.holds, StreamPc.rank, StreamDestroyPc.rank,
          List.length_nil, List.length_cons]
        omega
  | drainComplete irp hpc =>
      refine StreamSys.rank_lt ?_ ?_ ?_
      · simp [rounds, hpc, streamCsqCompleteCanceledIrp, StreamSys.ioCompleteRequest]
      · simp [load, streamCsqCompleteCanceledIrp, StreamSys.ioCompleteRequest]
      · simp [load, hpc, StreamDestroyPc.rank, streamCsqCompleteCanceledIrp,
          StreamSys.ioCompleteRequest]

theorem streamMove_of_own (hl : l.OfDestroy) (h : streamEnabled s l) :
    StreamMove s l (streamNext s l) := by
  cases l with
  | worker ok n => exact streamMove_worker h
  | destroyStep => exact streamMove_destroy h
  | _ => exact hl.elim

/-- A destruction that has begun stays begun. -/
theorem StreamMove.begun (hl : l.OfDestroy) (h : s.destroyer ≠ .idle) (hm : StreamMove s l s') :
    s'.destroyer ≠ .idle := by
  cases hm with
  | putQueue | putCancelled | dispatched | cancelQueued | cancelFlag | activity | use
  | destroyStart => exact hl.elim
  | destroyAlert | destroyWake | destroyJoin | drained | drainTake | drainComplete => simp
  | _ => exact h

/-- **`StreamDestroy` returns**, however its steps and those of the thread alternate and whatever
    the console answers. -/
theorem StreamSys.Woken.returns (hj : s.Joined) (h : s.Woken) (hd : s.destroyer ≠ .idle) :
    Inevitable streamSystem StreamLabel.OfDestroy (·.destroyer = .returned) s := by
  refine Inevitable.of_rank (I := fun s => s.Joined ∧ s.Woken ∧ s.destroyer ≠ .idle)
    StreamSys.rank ?_ ?_ ?_ ⟨hj, h, hd⟩
  · intro s hs hnot
    exact hs.2.1.goes hs.2.2 hnot
  · intro s l hs hl he
    have hm := streamMove_of_own hl he
    exact ⟨hm.joined hs.1, hm.woken hs.2.1, hm.begun hl hs.2.2⟩
  · intro s l hs hl he
    exact (streamMove_of_own hl he).rank_lt hs.1 hl

end Ranking

/-! ## 4. Runs -/

theorem streamCustody_init : StreamCustody .init :=
  ⟨rfl, .refl _, .nil, nofun, nofun, nofun, nofun⟩

theorem reach_streamCustody {s : StreamSys} {P : StreamSys → StreamLabel → Prop}
    (h : Reach streamSystem P .init s) : s.Joined ∧ StreamCustody s ∧ s.Woken :=
  h.streamInvariant (I := fun s => StreamCustody s ∧ s.Woken)
    ⟨streamCustody_init, nofun, nofun⟩
    fun _ _ _ hj hi _ hm => ⟨hm.custody hj hi.1, hm.woken hi.2⟩

/-- **Every request put on the stream is completed once, and called in its turn.** At any time it is
    completed or in flight, once; it is completed with what its call returned, or as cancelled
    without a call. `StreamDestroy`, once begun, cannot but return, and when it has returned, all
    are completed. The calls, and behind them those that still wait for one, stand in the order in
    which the requests were put; and nobody is overtaken but whoever is cancelled. -/
theorem completed_once {s : StreamSys} (h : Reach streamSystem (fun _ _ => True) .init s) :
    s.put.map Irp.seq = List.range s.put.length ∧
    (s.completed.map (·.irp) ++ s.inFlight).Perm s.put ∧
    (∀ c ∈ s.completed, c.Fits s.calls) ∧
    (s.destroyer ≠ .idle →
      Inevitable streamSystem StreamLabel.OfDestroy (·.destroyer = .returned) s) ∧
    (s.destroyer = .returned → (s.completed.map (·.irp)).Perm s.put ∧ s.inFlight = []) ∧
    (s.line.map Irp.seq).Pairwise (· < ·) ∧
    ∀ call ∈ s.calls, ∀ irp ∈ s.put, irp.seq < call.irp.seq →
      (∃ call' ∈ s.calls, call'.irp = irp) ∨ ⟨irp, .cancelled, 0⟩ ∈ s.completed := by
  obtain ⟨hj, hc, hw⟩ := reach_streamCustody h
  refine ⟨hc.seqs, hc.perm, hc.completed, fun hd => hw.returns hj hd, fun hr => ?_, hc.sorted,
    fun _ hcall _ hput hlt => hc.turn hcall hput hlt⟩
  have hended : s.worker = .ended := hj.resolve_left (by simp [hr, StreamDestroyPc.live])
  have hnone : s.inFlight = [] := by
    simp [inFlight, hr, hended, hc.returned hr, StreamDestroyPc.holds, StreamPc.holds]
  have hperm := hc.perm
  rw [hnone, List.append_nil] at hperm
  exact ⟨hperm, hnone⟩

/-- A read is served and two more are put, of which the thread finds the first blocked and puts it
    back; a write is cancelled while it is put; and the stream is destroyed. -/
def servedAndBlocked : List StreamLabel :=
  [.activity fun _ => 1, .putQueue 0 (.oneByte 0 .read 0 0) false,
    -- from Acquire to the read's completion, and back to the wait
    .worker true 0, .worker true 0, .worker true 0, .worker true 0, .worker true 0, .worker true 0,
    .worker true 0, .worker true 1, .worker true 0, .worker true 0,
    .use fun _ => 0, .putQueue 1 (.oneByte 1 .read 0 0) false,
    .putQueue 2 (.oneByte 2 .read 0 0) false, .putQueue 3 (.oneByte 3 .write 0 0) true,
    -- the thread takes the second read and puts it back
    .worker true 0, .worker true 0, .worker true 0, .worker true 0, .worker true 0, .worker true 0,
    .destroyStart]

/-- The alert, the end of the thread, and the two reads that `StreamDestroy` takes off the queue. -/
def destroyedBlocked : List StreamLabel :=
  [.destroyStep, .destroyStep, .worker true 0, .worker true 0, .worker true 0, .worker true 0,
    .worker true 0, .destroyStep, .destroyStep, .destroyStep, .destroyStep, .destroyStep,
    .destroyStep]

theorem completed_once_servedAndBlocked :
    (runs streamSystem .init servedAndBlocked).list.map Irp.seq = [1, 2] ∧
    Inevitable streamSystem StreamLabel.OfDestroy (·.destroyer = .returned)
      (runs streamSystem .init servedAndBlocked) ∧
    (runs streamSystem .init (servedAndBlocked ++ destroyedBlocked)).completed.map
        (fun c => (c.irp.seq, c.status, c.information)) =
      [(0, .success, 1), (3, .cancelled, 0), (1, .cancelled, 0), (2, .cancelled, 0)] ∧
    ((runs streamSystem .init (servedAndBlocked ++ destroyedBlocked)).completed.map (·.irp)).Perm
      (runs streamSystem .init (servedAndBlocked ++ destroyedBlocked)).put := by
  refine ⟨by decide, ?_, by decide, ?_⟩
  · exact (completed_once (.of_admits servedAndBlocked .start (by decide))).2.2.2.1 (by decide)
  · exact ((completed_once (.of_admits (servedAndBlocked ++ destroyedBlocked) .start
      (by decide))).2.2.2.2.1 (by decide)).1

end Xencons
