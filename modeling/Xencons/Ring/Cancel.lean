import Xencons.Ring.Custody
import Xencons.Lib.Halting

/-!
# RingClose and RingDestroy on their own (ring.c)

`__RingCancelRequests` with nothing interleaving. After every removal `IoCsqRemoveNextIrp` searches
the queue again from its head, so what is left and what is completed is a statement about all these
searches together.

* `ioCsqRemoveNextIrp_split` -- one search and the removal behind it, by position;
* `cancel_loop` -- a loop over one queue, by induction on how many requests it holds;
* `cancel_halts` -- both loops; `close_filters` -- the results for `RingClose` and `RingDestroy`;
* `reachedQueue` -- the queues of every ring that is reached are such lists, so a call that is left
  alone there does the same: `reached_cancel_halts`.
-/

namespace Xencons

open Lib Function

/-- A queue's list. An IRP has one `Tail.Overlay.ListEntry`, so it stands in it once. -/
structure IrpList where
  list : List Irp
  nodup : (list.map Irp.seq).Nodup

/-! ## 1. One search -/

/-- **What is removed is the first accepted request**, and nothing else is. -/
theorem ioCsqRemoveNextIrp_split {list rest : List Irp} {ctx : Option FileObject} {irp : Irp}
    (hn : (list.map Irp.seq).Nodup) (h : ioCsqRemoveNextIrp list ctx = some (irp, rest)) :
    ∃ ahead behind, list = ahead ++ irp :: behind ∧ rest = ahead ++ behind ∧
      (∀ other ∈ ahead, peekMatches ctx other = false) ∧ peekMatches ctx irp = true := by
  simp only [ioCsqRemoveNextIrp, ringCsqPeekNextIrp, Option.map_eq_some_iff, Prod.mk.injEq] at h
  obtain ⟨found, hfind, rfl, rfl⟩ := h
  obtain ⟨hm, ahead, behind, rfl, hahead⟩ := List.find?_eq_some_iff_append.mp hfind
  refine ⟨ahead, behind, rfl, ?_, fun other ho => by simpa using hahead other ho, hm⟩
  -- nobody ahead of it is the same request
  have hne : ∀ other ∈ ahead, ¬(other.seq == found.seq) = true := by
    intro other ho he
    rw [List.map_append, List.map_cons, List.nodup_append] at hn
    exact hn.2.2 _ (List.mem_map_of_mem ho) _ List.mem_cons_self (eq_of_beq he)
  rw [ringCsqRemoveIrp, List.eraseP_append_right _ hne, List.eraseP_cons_of_pos (by simp)]

/-! ## 2. A loop -/

namespace RingSys

/-- Call `c` of `__RingCancelRequests` goes on. -/
def cancelOn {ι : Type} (c : Nat) (s : RingSys ι) : RingSys ι := s.ringCancelStep c

/-- It has returned. -/
def Returned {ι : Type} (c : Nat) (s : RingSys ι) : Prop := ∃ ctx, s.canceler c = .done ctx

/-- `RingCsqCompleteCanceledIrp` for each of these, in this order. -/
def cancelAll {ι : Type} (s : RingSys ι) (list : List Irp) : RingSys ι :=
  { s with completed := s.completed ++ list.map fun irp => ⟨irp, .cancelled, 0⟩ }

/-- The ring when call `c` has gone through queue `d`. -/
def afterLoop {ι : Type} (s : RingSys ι) (c : Nat) (d : MajorFunction) (ctx : Option FileObject) :
    RingSys ι :=
  ((s.setQueue d ((s.queue d).filter (!peekMatches ctx ·))).cancelAll
    ((s.queue d).filter (peekMatches ctx))).setCanceler c (cancelNext ctx d)

end RingSys

open RingSys

section Loop

variable {ι : Type} {c : Nat} {ctx : Option FileObject} {d : MajorFunction} {s : RingSys ι}

theorem advance_cancelOn {s' : RingSys ι} (h : ¬Returned c s) (e : cancelOn c s = s') :
    Relation.ReflTransGen (Advance (cancelOn c) (Returned c)) s s' := .single ⟨h, e⟩

theorem not_returned_remove (hpc : s.canceler c = .remove d ctx) : ¬Returned c s := by
  rintro ⟨ctx', h⟩
  rw [hpc] at h
  cases h

/-- What is accepted and what is not, with one accepted request taken out. -/
theorem filter_taken {p : Irp → Bool} {ahead : List Irp} {irp : Irp} (behind : List Irp)
    (ha : ∀ other ∈ ahead, p other = false) (hp : p irp = true) :
    (ahead ++ irp :: behind).filter p = irp :: (ahead ++ behind).filter p ∧
      (ahead ++ irp :: behind).filter (!p ·) = (ahead ++ behind).filter (!p ·) := by
  have hnone : ahead.filter p = [] := List.filter_eq_nil_iff.mpr fun other ho => by
    simp [ha other ho]
  constructor
  · simp [hnone, hp]
  · simp [hp]

/-- **A loop takes out what its context accepts**, completes it as cancelled and leaves the rest in
    its order. -/
theorem cancel_loop (c : Nat) (ctx : Option FileObject) (d : MajorFunction) : ∀ (k : Nat)
    (s : RingSys ι), (s.queue d).length = k → s.canceler c = .remove d ctx →
    ((s.queue d).map Irp.seq).Nodup →
    Relation.ReflTransGen (Advance (cancelOn c) (Returned c)) s (s.afterLoop c d ctx) := by
  intro k
  induction k using Nat.strong_induction_on with
  | _ k ih =>
      intro s hk hpc hn
      cases hr : ioCsqRemoveNextIrp (s.queue d) ctx with
      | none =>
          -- nothing is accepted any more
          have hno := ioCsqRemoveNextIrp_eq_none hr
          have htaken : (s.queue d).filter (peekMatches ctx) = [] :=
            List.filter_eq_nil_iff.mpr fun irp h => by simp [hno irp h]
          have hkept : (s.queue d).filter (!peekMatches ctx ·) = s.queue d :=
            List.filter_eq_self.mpr fun irp h => by simp [hno irp h]
          refine advance_cancelOn (not_returned_remove hpc) ?_
          rw [afterLoop, htaken, hkept]
          simp [cancelOn, ringCancelStep, hpc, hr, cancelAll, setQueue, setCanceler]
      | some r =>
          obtain ⟨irp, rest⟩ := r
          obtain ⟨ahead, behind, hlist, rfl, hahead, hm⟩ := ioCsqRemoveNextIrp_split hn hr
          obtain ⟨htaken, hkept⟩ := filter_taken behind hahead hm
          -- the request is taken off and completed, ...
          let s₁ := (s.setQueue d (ahead ++ behind)).setCanceler c (.complete d ctx irp)
          let s₂ := ((s.setQueue d (ahead ++ behind)).ringCsqCompleteCanceledIrp irp).setCanceler c
            (.remove d ctx)
          have htake : cancelOn c s = s₁ := by
            simp [s₁, cancelOn, ringCancelStep, hpc, hr]
          have hcomplete : cancelOn c s₁ = s₂ := by
            simp [s₁, s₂, cancelOn, ringCancelStep, setCanceler, ioCompleteRequest]
          have hpc₁ : ¬Returned c s₁ := by
            rintro ⟨ctx', h⟩
            simp [s₁] at h
          -- ... and the search starts again over one request less
          have hqueue : s₂.queue d = ahead ++ behind := by
            simp [s₂, setQueue, setCanceler, ioCompleteRequest]
          have hlen : (s₂.queue d).length < k := by
            rw [← hk, hqueue, hlist]
            simp
          have hn₂ : ((s₂.queue d).map Irp.seq).Nodup := by
            rw [hlist] at hn
            rw [hqueue]
            exact hn.sublist (((List.sublist_cons_self irp behind).append_left ahead).map _)
          have hrest := ih _ hlen s₂ rfl (by simp [s₂]) hn₂
          have hend : s₂.afterLoop c d ctx = s.afterLoop c d ctx := by
            rw [afterLoop, afterLoop, hqueue, hlist, htaken, hkept]
            simp [s₂, cancelAll, setQueue, setCanceler, ioCompleteRequest]
          rw [hend] at hrest
          exact (advance_cancelOn (not_returned_remove hpc) htake).trans
            ((advance_cancelOn hpc₁ hcomplete).trans hrest)

end Loop

/-! ## 3. A call -/

/-- The ring with these two queues. -/
def RingSys.withQueues {ι : Type} (s : RingSys ι) (reads writes : IrpList) : RingSys ι :=
  { s with queue := fun
      | .read => reads.list
      | .write => writes.list }

section Call

variable {ι : Type} (s : RingSys ι) (reads writes : IrpList) (c : Nat)

/-- The ring when `__RingCancelRequests` has returned: what the context accepts has gone from both
    queues, and has been completed, reads before writes. -/
def RingSys.afterCancel (s : RingSys ι) (c : Nat) (ctx : Option FileObject) : RingSys ι :=
  { s with
    queue := fun d => (s.queue d).filter (!peekMatches ctx ·)
    completed := s.completed ++
      ((s.queue .read).filter (peekMatches ctx) ++ (s.queue .write).filter (peekMatches ctx)).map
        fun irp => ⟨irp, .cancelled, 0⟩
    canceler := update s.canceler c (.done ctx) }

/-- **Both loops**, one after the other. -/
theorem cancel_halts (ctx : Option FileObject) :
    Halts (cancelOn c) (Returned c)
      ((s.withQueues reads writes).setCanceler c (.remove .read ctx))
      ((s.withQueues reads writes).afterCancel c ctx) := by
  let s₀ := (s.withQueues reads writes).setCanceler c (.remove .read ctx)
  let s₁ := s₀.afterLoop c .read ctx
  have hread := cancel_loop c ctx .read _ s₀ rfl (by simp [s₀]) reads.nodup
  have hwrite := cancel_loop c ctx .write _ s₁ rfl
    (by simp [s₁, afterLoop, cancelNext]) writes.nodup
  have hend : s₁.afterLoop c .write ctx = (s.withQueues reads writes).afterCancel c ctx := by
    simp [s₁, s₀, afterLoop, afterCancel, cancelAll, setQueue, setCanceler, cancelNext, withQueues]
    funext d
    cases d <;> rfl
  rw [hend] at hwrite
  exact ⟨hread.trans hwrite, ⟨ctx, by simp [afterCancel]⟩⟩

/-- **`RingClose` leaves each queue without the requests of its file**, in the order it had, and
    completes exactly those, once each, as cancelled; `RingDestroy` does so with all requests. Both
    return, and nothing else of the ring changes. -/
theorem close_filters [DecidableEq ι] :
    (∀ file, Halts (cancelOn c) (Returned c)
      (ringNext (s.withQueues reads writes) (.closeStart c file))
      { s.withQueues reads writes with
        queue := fun d => ((s.withQueues reads writes).queue d).filter (·.fileObject ≠ file)
        completed := s.completed ++ (reads.list.filter (·.fileObject = file) ++
          writes.list.filter (·.fileObject = file)).map fun irp => ⟨irp, .cancelled, 0⟩
        canceler := update s.canceler c (.done (some file)) }) ∧
    Halts (cancelOn c) (Returned c) (ringNext (s.withQueues reads writes) (.destroyStart c))
      { s with
        queue := fun _ => []
        completed := s.completed ++ (reads.list ++ writes.list).map fun irp => ⟨irp, .cancelled, 0⟩
        canceler := update s.canceler c (.done none)
        destroying := true } := by
  constructor
  · intro file
    have hin : peekMatches (some file) = fun irp => decide (irp.fileObject = file) := by
      funext irp
      simp [peekMatches, Bool.beq_eq_decide_eq]
    have h := cancel_halts s reads writes c (some file)
    rw [afterCancel, hin] at h
    simp only [ne_eq, decide_not]
    exact h
  · have h := cancel_halts { s with destroying := true } reads writes c none
    have hend : ({ s with destroying := true }.withQueues reads writes).afterCancel c none =
        { s with
          queue := fun _ => []
          completed := s.completed ++
            (reads.list ++ writes.list).map fun irp => ⟨irp, .cancelled, 0⟩
          canceler := update s.canceler c (.done none)
          destroying := true } := by
      have hall : peekMatches none = fun _ => true := funext peekMatches_none
      simp [afterCancel, withQueues, hall]
    rwa [hend] at h

end Call

/-! ## 4. A call on a ring that has been reached -/

section Reached

variable {ι : Type} [DecidableEq ι] {P : RingSys ι → RingLabel ι → Prop} {shared : XenconsInterface}
  {s : RingSys ι}

/-- **A queue of such a ring.** A request that is in it lies nowhere else, and there once. -/
def reachedQueue (h : Reach (ringSystem ι) P (RingSys.init ι shared) s) (d : MajorFunction) :
    IrpList where
  list := s.queue d
  nodup := (reach_placed h).nodup (.queue d)

theorem withQueues_reachedQueue (h : Reach (ringSystem ι) P (RingSys.init ι shared) s) :
    s.withQueues (reachedQueue h .read) (reachedQueue h .write) = s := by
  have hqueue : (s.withQueues (reachedQueue h .read) (reachedQueue h .write)).queue = s.queue := by
    funext d
    cases d <;> rfl
  cases s
  simpa [withQueues] using hqueue

/-- **Wherever the ring has come to**, a call of `__RingCancelRequests` that is left alone returns,
    and takes out of both queues what its context accepts. -/
theorem reached_cancel_halts (h : Reach (ringSystem ι) P (RingSys.init ι shared) s) (c : Nat)
    (ctx : Option FileObject) :
    Halts (cancelOn c) (Returned c) (s.setCanceler c (.remove .read ctx)) (s.afterCancel c ctx) := by
  have hhalts := cancel_halts s (reachedQueue h .read) (reachedQueue h .write) c ctx
  rwa [withQueues_reachedQueue h] at hhalts

end Reached

/-- Two files have a read each in the queue, and file 7 has a write and another read. -/
def twoFiles : List (RingLabel Unit) :=
  [.insert 0 (.oneByte 0 .read 7 0) false, .insert 1 (.oneByte 1 .read 8 0) false,
    .insert 2 (.oneByte 2 .write 7 65) false, .insert 3 (.oneByte 3 .read 7 0) false]

theorem reach_twoFiles : Reach (ringSystem Unit) (fun _ _ => True) (RingSys.init Unit .zero)
    (runs (ringSystem Unit) (RingSys.init Unit .zero) twoFiles) :=
  .of_admits _ .start ⟨⟨rfl, rfl, rfl⟩, trivial, ⟨rfl, rfl, rfl⟩, trivial, ⟨rfl, rfl, rfl⟩, trivial,
    ⟨rfl, rfl, rfl⟩, trivial, trivial⟩

/-- `RingClose` of file 7 leaves the read of file 8. -/
theorem close_filters_twoFiles : ∃ s : RingSys Unit,
    Halts (cancelOn 0) (Returned 0)
      (ringNext (runs (ringSystem Unit) (RingSys.init Unit .zero) twoFiles) (.closeStart 0 7)) s ∧
    s.queue .read = [.oneByte 1 .read 8 0] ∧ s.queue .write = [] ∧
    s.completed = [⟨.oneByte 0 .read 7 0, .cancelled, 0⟩, ⟨.oneByte 3 .read 7 0, .cancelled, 0⟩,
      ⟨.oneByte 2 .write 7 65, .cancelled, 0⟩] := by
  have hclose := (close_filters (runs (ringSystem Unit) (RingSys.init Unit .zero) twoFiles)
    (reachedQueue reach_twoFiles .read) (reachedQueue reach_twoFiles .write) 0).1 7
  rw [withQueues_reachedQueue reach_twoFiles] at hclose
  exact ⟨_, hclose, rfl, rfl, rfl⟩

end Xencons
