import Xencons.Lib.Custody
import Xencons.Ring.Moves

/-!
# Every request is somewhere, once

A request that was put on the ring is in a queue, or held by an activation in `RingPoll`, or held by
a call of `__RingCancelRequests`, or completed -- whatever the parties do and whatever the other
domain writes into the page.

* `Sound` -- what is known of the request wherever it is: its bytes are untouched until a copy has
  moved some, an activation serves its own queue, a completion says what happened;
* `Place`, `RingSys.contents` -- the places and what lies there; `Move.placed` -- every step moves a
  request from one place to the next, or none;
* `Drain` -- what `RingDestroy` has emptied so far;
* `exactly_one_place`, `destroy_completes` -- the results.
-/

namespace Xencons

open Lib Function RingSys

variable {ι : Type}

/-! ## 1. What is known of a request -/

/-- What an activation holds, against the requests on record. -/
def PollPc.Sound (queued : List Irp) : PollPc → Prop
  | .idle | .dequeue _ => True
  | .copy d irp => irp ∈ queued ∧ irp.major = d
  | .copied d irp n => (∃ irp₀ ∈ queued, irp.SameRequest irp₀ ∧ irp₀.major = d) ∧
      n.toNat ≤ irp.length.toNat ∧ (n = 0 → irp ∈ queued)

/-- What a call of `__RingCancelRequests` holds. -/
def CancelPc.Sound (queued : List Irp) : CancelPc → Prop
  | .idle | .remove _ _ | .done _ => True
  | .complete d ctx irp => irp ∈ queued ∧ irp.major = d ∧ peekMatches ctx irp = true

/-- A completion is a success that moved bytes, or a cancellation of a request nobody touched. -/
def Completion.Sound (queued : List Irp) (c : Completion) : Prop :=
  c.status = .success ∧ 1 ≤ c.information.toNat ∧ c.information.toNat ≤ c.irp.length.toNat ∧
      (∃ irp₀ ∈ queued, c.irp.SameRequest irp₀) ∨
    c.status = .cancelled ∧ c.information = 0 ∧ c.irp ∈ queued

/-- What is known of the requests, wherever they are. -/
structure Sound (s : RingSys ι) : Prop where
  /-- a request's identity is its place in the queueing order -/
  seqs : s.queued.map Irp.seq = List.range s.queued.length
  queue : ∀ d, ∀ irp ∈ s.queue d, irp ∈ s.queued ∧ irp.major = d
  poll : ∀ a, (s.poll a).Sound s.queued
  canceler : ∀ c, (s.canceler c).Sound s.queued
  completed : ∀ c ∈ s.completed, c.Sound s.queued

theorem PollPc.Sound.mono {queued queued' : List Irp} {pc : PollPc} (hsub : queued ⊆ queued')
    (h : pc.Sound queued) : pc.Sound queued' := by
  cases pc with
  | idle | dequeue d => trivial
  | copy d irp => exact ⟨hsub h.1, h.2⟩
  | copied d irp n =>
      obtain ⟨⟨irp₀, hmem, hsame⟩, hn, h0⟩ := h
      exact ⟨⟨irp₀, hsub hmem, hsame⟩, hn, fun e => hsub (h0 e)⟩

theorem CancelPc.Sound.mono {queued queued' : List Irp} {pc : CancelPc} (hsub : queued ⊆ queued')
    (h : pc.Sound queued) : pc.Sound queued' := by
  cases pc with
  | idle | remove d ctx | done ctx => trivial
  | complete d ctx irp => exact ⟨hsub h.1, h.2⟩

theorem Completion.Sound.mono {queued queued' : List Irp} {c : Completion}
    (hsub : queued ⊆ queued') (h : c.Sound queued) : c.Sound queued' := by
  rcases h with ⟨hs, h1, hl, irp₀, hmem, hsame⟩ | ⟨hs, hi, hmem⟩
  · exact .inl ⟨hs, h1, hl, irp₀, hsub hmem, hsame⟩
  · exact .inr ⟨hs, hi, hsub hmem⟩

section SoundSteps

variable {s : RingSys ι}

/-- A request on record sits at the place its identity says. -/
theorem Sound.getElem_seq (h : Sound s) {i : Nat} (hi : i < s.queued.length) :
    (s.queued[i]).seq = i := by
  have hseq := congrArg (·[i]?) h.seqs
  simpa [hi] using hseq

theorem Sound.seq_lt (h : Sound s) {irp : Irp} (hmem : irp ∈ s.queued) :
    irp.seq < s.queued.length := by
  have hseq : irp.seq ∈ s.queued.map Irp.seq := List.mem_map_of_mem hmem
  rwa [h.seqs, List.mem_range] at hseq

/-- Requests on record with one identity are one request. -/
theorem Sound.eq_of_seq (h : Sound s) {irp irp' : Irp} (hmem : irp ∈ s.queued)
    (hmem' : irp' ∈ s.queued) (he : irp.seq = irp'.seq) : irp = irp' := by
  obtain ⟨i, hi, rfl⟩ := List.getElem_of_mem hmem
  obtain ⟨j, hj, rfl⟩ := List.getElem_of_mem hmem'
  rw [h.getElem_seq hi, h.getElem_seq hj] at he
  subst he
  rfl

theorem Sound.setQueue (h : Sound s) {d : MajorFunction} {list : List Irp}
    (hl : ∀ irp ∈ list, irp ∈ s.queued ∧ irp.major = d) : Sound (s.setQueue d list) := by
  refine ⟨h.seqs, fun d' irp hirp => ?_, h.poll, h.canceler, h.completed⟩
  by_cases hd : d' = d
  · subst hd
    simp only [setQueue_queue, update_self] at hirp
    exact hl irp hirp
  · simp only [setQueue_queue, update_of_ne hd] at hirp
    exact h.queue d' irp hirp

theorem Sound.setPoll [DecidableEq ι] (h : Sound s) {a : ι} {pc : PollPc}
    (hpc : pc.Sound s.queued) : Sound (s.setPoll a pc) := by
  refine ⟨h.seqs, h.queue, fun b => ?_, h.canceler, h.completed⟩
  by_cases hb : b = a
  · subst hb
    simpa using hpc
  · simpa [hb] using h.poll b

theorem Sound.setCanceler (h : Sound s) {c : Nat} {pc : CancelPc} (hpc : pc.Sound s.queued) :
    Sound (s.setCanceler c pc) := by
  refine ⟨h.seqs, h.queue, h.poll, fun b => ?_, h.completed⟩
  by_cases hb : b = c
  · subst hb
    simpa using hpc
  · simpa [hb] using h.canceler b

theorem Sound.ioCompleteRequest (h : Sound s) {irp : Irp} {status : NtStatus} {information : ULONG}
    (hc : Completion.Sound s.queued ⟨irp, status, information⟩) :
    Sound (s.ioCompleteRequest irp status information) := by
  refine ⟨h.seqs, h.queue, h.poll, h.canceler, fun c hmem => ?_⟩
  rcases List.mem_append.mp hmem with hmem | hmem
  · exact h.completed c hmem
  · exact List.mem_singleton.mp hmem ▸ hc

theorem Sound.ringCsqCompleteCanceledIrp (h : Sound s) {irp : Irp} (hmem : irp ∈ s.queued) :
    Sound (s.ringCsqCompleteCanceledIrp irp) :=
  h.ioCompleteRequest (.inr ⟨rfl, rfl, hmem⟩)

theorem Sound.arrive (h : Sound s) {t : Nat} {irp : Irp} {cancelled : Bool}
    (hseq : irp.seq = s.queued.length) : Sound (s.arrive t irp cancelled) := by
  have hsub : s.queued ⊆ s.queued ++ [irp] := List.subset_append_left _ _
  refine ⟨?_, fun d irp' hirp => ?_, fun a => (h.poll a).mono hsub,
    fun c => (h.canceler c).mono hsub, fun c hc => (h.completed c hc).mono hsub⟩
  · simp [List.range_succ, h.seqs, hseq]
  · exact ⟨hsub (h.queue d irp' hirp).1, (h.queue d irp' hirp).2⟩

theorem Sound.pollNext {queued : List Irp} (d : MajorFunction) : (pollNext d).Sound queued := by
  cases d <;> trivial

theorem Sound.cancelNext {queued : List Irp} (ctx : Option FileObject) (d : MajorFunction) :
    (cancelNext ctx d).Sound queued := by
  cases d <;> trivial

/-- What is left of a queue is as sound as the queue. -/
theorem Sound.ringCsqRemoveIrp (h : Sound s) {d : MajorFunction} (irp : Irp) :
    ∀ irp' ∈ ringCsqRemoveIrp (s.queue d) irp, irp' ∈ s.queued ∧ irp'.major = d :=
  fun irp' hmem => h.queue d irp' ((ringCsqRemoveIrp_sublist _ _).subset hmem)

/-- **Every step keeps `Sound`.** -/
theorem Move.sound [DecidableEq ι] {l : RingLabel ι} {s' : RingSys ι} (hs : Sound s)
    (h : Move s l s') : Sound s' := by
  cases h with
  | insertQueue t irp hseq hlive =>
      refine (hs.arrive hseq).setQueue fun irp' hmem => ?_
      rcases List.mem_append.mp hmem with hmem | hmem
      · exact ⟨List.mem_append_left _ (hs.queue irp.major irp' hmem).1,
          (hs.queue irp.major irp' hmem).2⟩
      · obtain rfl := List.mem_singleton.mp hmem
        exact ⟨by simp, rfl⟩
  | insertCancelled t irp hseq hlive =>
      exact (hs.arrive hseq).ringCsqCompleteCanceledIrp (by simp)
  | dispatched t => exact ⟨hs.seqs, hs.queue, hs.poll, hs.canceler, hs.completed⟩
  | cancelQueued irp hq =>
      have hf : Sound (s.setCancel irp.seq true) :=
        ⟨hs.seqs, hs.queue, hs.poll, hs.canceler, hs.completed⟩
      exact (hf.setQueue (hf.ringCsqRemoveIrp irp)).ringCsqCompleteCanceledIrp
        (hs.queue irp.major irp hq).1
  | cancelFlag irp hq => exact ⟨hs.seqs, hs.queue, hs.poll, hs.canceler, hs.completed⟩
  | closeStart c file hidle hlive => exact hs.setCanceler trivial
  | destroyStart c hidle hpoll hcancel hlive =>
      have hd : Sound { s with destroying := true } :=
        ⟨hs.seqs, hs.queue, hs.poll, hs.canceler, hs.completed⟩
      exact hd.setCanceler trivial
  | scanEnd c d ctx hpc hq => exact hs.setCanceler (Sound.cancelNext ctx d)
  | scanTake c d ctx irp hpc hq hm =>
      exact (hs.setQueue (hs.ringCsqRemoveIrp irp)).setCanceler
        ⟨(hs.queue d irp hq).1, (hs.queue d irp hq).2, hm⟩
  | scanComplete c d ctx irp hpc =>
      have hheld := hs.canceler c
      rw [hpc] at hheld
      exact (hs.ringCsqCompleteCanceledIrp hheld.1).setCanceler trivial
  | pollStart a hidle hlive => exact hs.setPoll trivial
  | pollEnd a d hpc hq => exact hs.setPoll (Sound.pollNext d)
  | pollTake a d irp rest hpc hq =>
      have hmem : ∀ irp' ∈ irp :: rest, irp' ∈ s.queued ∧ irp'.major = d := hq ▸ hs.queue d
      exact (hs.setQueue fun irp' h' => hmem irp' (List.mem_cons_of_mem _ h')).setPoll
        (hmem irp List.mem_cons_self)
  | pollBlocked a d irp hpc hn =>
      have hheld := hs.poll a
      rw [hpc] at hheld
      exact hs.setPoll ⟨⟨irp, hheld.1, .refl irp, hheld.2⟩, Nat.zero_le _, fun _ => hheld.1⟩
  | pollCopy a d irp shared' irp' n hpc hr hn hmove =>
      have hheld := hs.poll a
      rw [hpc] at hheld
      obtain ⟨hsame, hle⟩ := ringCopy_spec hheld.2 hr
      have hcopied : (PollPc.copied d irp' n).Sound s.queued :=
        ⟨⟨irp, hheld.1, hsame, hheld.2⟩, hsame.length ▸ hle, fun e => absurd e hn⟩
      have hpoll := hs.setPoll (a := a) hcopied
      exact ⟨hpoll.seqs, hpoll.queue, hpoll.poll, hpoll.canceler, hpoll.completed⟩
  | pollPutBack a d irp hpc hc =>
      have hheld := hs.poll a
      rw [hpc] at hheld
      obtain ⟨⟨irp₀, -, hsame, hmaj⟩, -, h0⟩ := hheld
      refine (hs.setQueue fun irp' hmem => ?_).setPoll (Sound.pollNext d)
      rcases List.mem_cons.mp hmem with rfl | hmem
      · exact ⟨h0 rfl, hsame.major.trans hmaj⟩
      · exact hs.queue d irp' hmem
  | pollPutBackCancelled a d irp hpc hc =>
      have hheld := hs.poll a
      rw [hpc] at hheld
      exact (hs.ringCsqCompleteCanceledIrp (hheld.2.2 rfl)).setPoll (Sound.pollNext d)
  | pollComplete a d irp n hpc hn =>
      have hheld := hs.poll a
      rw [hpc] at hheld
      obtain ⟨⟨irp₀, hmem, hsame, -⟩, hle, -⟩ := hheld
      have hpos : 1 ≤ n.toNat := Nat.pos_of_ne_zero fun h0 => hn (BitVec.eq_of_toNat_eq h0)
      have hb : Sound (s.addBytes d n) :=
        ⟨hs.seqs, hs.queue, hs.poll, hs.canceler, hs.completed⟩
      exact (hb.ioCompleteRequest (.inl ⟨rfl, hpos, hle, irp₀, hmem, hsame⟩)).setPoll trivial
  | produce b hroom | consume hne | scribble shared' =>
      exact ⟨hs.seqs, hs.queue, hs.poll, hs.canceler, hs.completed⟩

end SoundSteps

theorem sound_init (ι : Type) (shared : XenconsInterface) : Sound (RingSys.init ι shared) where
  seqs := rfl
  queue _ _ hirp := absurd hirp List.not_mem_nil
  poll _ := trivial
  canceler _ := trivial
  completed _ hc := absurd hc List.not_mem_nil

/-! ## 2. The places -/

/-- Where a request can be. -/
inductive Place (ι : Type) where
  | queue (d : MajorFunction)
  | poll (a : ι)
  | canceler (c : Nat)
  | completed
deriving DecidableEq

def PollPc.held : PollPc → List Irp
  | .idle | .dequeue _ => []
  | .copy _ irp | .copied _ irp _ => [irp]

def CancelPc.held : CancelPc → List Irp
  | .idle | .remove _ _ | .done _ => []
  | .complete _ _ irp => [irp]

/-- The requests in a place. -/
def RingSys.contents (s : RingSys ι) : Place ι → List Irp
  | .queue d => s.queue d
  | .poll a => (s.poll a).held
  | .canceler c => (s.canceler c).held
  | .completed => s.completed.map Completion.irp

/-- Every request on record is in exactly one place. -/
def Placement (s : RingSys ι) : Prop :=
  Placed (fun p => (s.contents p).map Irp.seq) (· < s.queued.length)

@[simp] theorem PollPc.held_idle : PollPc.idle.held = [] := rfl

@[simp] theorem PollPc.held_dequeue (d : MajorFunction) : (PollPc.dequeue d).held = [] := rfl

@[simp] theorem PollPc.held_copy (d : MajorFunction) (irp : Irp) :
    (PollPc.copy d irp).held = [irp] := rfl

@[simp] theorem PollPc.held_copied (d : MajorFunction) (irp : Irp) (n : ULONG) :
    (PollPc.copied d irp n).held = [irp] := rfl

@[simp] theorem CancelPc.held_idle : CancelPc.idle.held = [] := rfl

@[simp] theorem CancelPc.held_remove (d : MajorFunction) (ctx : Option FileObject) :
    (CancelPc.remove d ctx).held = [] := rfl

@[simp] theorem CancelPc.held_complete (d : MajorFunction) (ctx : Option FileObject) (irp : Irp) :
    (CancelPc.complete d ctx irp).held = [irp] := rfl

@[simp] theorem held_pollNext (d : MajorFunction) : (pollNext d).held = [] := by cases d <;> rfl

@[simp] theorem held_cancelNext (ctx : Option FileObject) (d : MajorFunction) :
    (cancelNext ctx d).held = [] := by cases d <;> rfl

section Contents

variable {s : RingSys ι}

@[simp] theorem contents_queue (d : MajorFunction) : s.contents (.queue d) = s.queue d := rfl

@[simp] theorem contents_poll (a : ι) : s.contents (.poll a) = (s.poll a).held := rfl

@[simp] theorem contents_canceler (c : Nat) : s.contents (.canceler c) = (s.canceler c).held := rfl

@[simp] theorem contents_completed :
    s.contents .completed = s.completed.map Completion.irp := rfl

@[simp] theorem contents_arrive (t : Nat) (irp : Irp) (cancelled : Bool) :
    (s.arrive t irp cancelled).contents = s.contents := rfl

@[simp] theorem contents_setCancel (seq : Nat) (cancelled : Bool) :
    (s.setCancel seq cancelled).contents = s.contents := rfl

@[simp] theorem contents_addBytes (d : MajorFunction) (n : ULONG) :
    (s.addBytes d n).contents = s.contents := rfl

/-- A request goes from place `p` to place `q`. -/
theorem Placement.move {s' : RingSys ι} (hp : Placement s) {p q : Place ι} (irp : Irp)
    (hpq : p ≠ q) (hlen : s'.queued.length = s.queued.length)
    (hout : (s.contents p).Perm (irp :: s'.contents p))
    (hin : (s'.contents q).Perm (irp :: s.contents q))
    (hrest : ∀ r, r ≠ p → r ≠ q → s'.contents r = s.contents r) : Placement s' := by
  unfold Placement
  rw [hlen]
  exact Placed.move hp hpq (hout.map Irp.seq) (hin.map Irp.seq)
    fun r hrp hrq => by rw [hrest r hrp hrq]

/-- The next request in queueing order comes in at `q`. -/
theorem Placement.arrive {s' : RingSys ι} (hp : Placement s) {q : Place ι} (irp : Irp)
    (hseq : irp.seq = s.queued.length) (hlen : s'.queued.length = s.queued.length + 1)
    (hin : (s'.contents q).Perm (irp :: s.contents q))
    (hrest : ∀ r, r ≠ q → s'.contents r = s.contents r) : Placement s' := by
  have h : Placed (fun p => (s'.contents p).map Irp.seq)
      fun x => x < s.queued.length ∨ x = irp.seq :=
    Placed.arrive hp (by omega) (hin.map Irp.seq) fun r hrq => by rw [hrest r hrq]
  unfold Placement
  rw [hlen]
  convert h using 2
  omega

/-- The queues of a state with every request in one place hold no request twice. -/
theorem Placement.nodup_queue (hp : Placement s) (d : MajorFunction) :
    ((s.queue d).map Irp.seq).Nodup :=
  hp.nodup (.queue d)

variable [DecidableEq ι]

@[simp] theorem contents_setQueue (d : MajorFunction) (list : List Irp) :
    (s.setQueue d list).contents = update s.contents (.queue d) list := by
  funext p
  cases p <;> simp [contents, update_apply]

@[simp] theorem contents_setPoll (a : ι) (pc : PollPc) :
    (s.setPoll a pc).contents = update s.contents (.poll a) pc.held := by
  funext p
  cases p with
  | poll b => by_cases hb : b = a <;> simp [contents, hb]
  | _ => simp [contents]

@[simp] theorem contents_setCanceler (c : Nat) (pc : CancelPc) :
    (s.setCanceler c pc).contents = update s.contents (.canceler c) pc.held := by
  funext p
  cases p with
  | canceler b => by_cases hb : b = c <;> simp [contents, hb]
  | _ => simp [contents]

@[simp] theorem contents_ioCompleteRequest (irp : Irp) (status : NtStatus) (information : ULONG) :
    (s.ioCompleteRequest irp status information).contents =
      update s.contents .completed (s.completed.map Completion.irp ++ [irp]) := by
  funext p
  cases p <;> simp [contents]

/-- An activation goes on with the request it had, or with none. -/
theorem Placement.setPoll (hp : Placement s) {a : ι} {pc : PollPc}
    (h : pc.held.map Irp.seq = (s.poll a).held.map Irp.seq) : Placement (s.setPoll a pc) := by
  refine hp.congr fun r => ?_
  rw [contents_setPoll]
  by_cases hr : r = .poll a
  · subst hr
    simp [h]
  · rw [update_of_ne hr]

theorem Placement.setCanceler (hp : Placement s) {c : Nat} {pc : CancelPc}
    (h : pc.held.map Irp.seq = (s.canceler c).held.map Irp.seq) :
    Placement (s.setCanceler c pc) := by
  refine hp.congr fun r => ?_
  rw [contents_setCanceler]
  by_cases hr : r = .canceler c
  · subst hr
    simp [h]
  · rw [update_of_ne hr]

/-- **Every step moves one request from one place to the next, or none.** -/
theorem Move.placed {l : RingLabel ι} {s' : RingSys ι} (hs : Sound s) (hp : Placement s)
    (h : Move s l s') : Placement s' := by
  cases h with
  | insertQueue t irp hseq hlive =>
      refine hp.arrive (q := .queue irp.major) irp hseq (by simp) ?_ fun r hr => ?_
      · simp
      · simp [hr]
  | insertCancelled t irp hseq hlive =>
      refine hp.arrive (q := .completed) irp hseq (by simp) ?_ fun r hr => ?_
      · simp
      · simp [hr]
  | cancelQueued irp hq =>
      refine hp.move (p := .queue irp.major) (q := .completed) irp (by simp) (by simp) ?_ ?_
        fun r hrp hrq => ?_
      · simpa using perm_ringCsqRemoveIrp (hp.nodup_queue _) hq
      · simp
      · simp [hrp, hrq]
  | scanTake c d ctx irp hpc hq hm =>
      refine hp.move (p := .queue d) (q := .canceler c) irp (by simp) (by simp) ?_ ?_
        fun r hrp hrq => ?_
      · simpa using perm_ringCsqRemoveIrp (hp.nodup_queue _) hq
      · simp [contents, hpc]
      · simp [hrp, hrq]
  | scanComplete c d ctx irp hpc =>
      refine hp.move (p := .canceler c) (q := .completed) irp (by simp) (by simp) ?_ ?_
        fun r hrp hrq => ?_
      · simp [contents, hpc]
      · simp
      · simp [hrp, hrq]
  | pollTake a d irp rest hpc hq =>
      refine hp.move (p := .queue d) (q := .poll a) irp (by simp) (by simp) ?_ ?_
        fun r hrp hrq => ?_
      · simp [contents, hq]
      · simp [contents, hpc]
      · simp [hrp, hrq]
  | pollPutBack a d irp hpc hc =>
      refine hp.move (p := .poll a) (q := .queue d) irp (by simp) (by simp) ?_ ?_
        fun r hrp hrq => ?_
      · simp [contents, hpc]
      · simp [contents]
      · simp [hrp, hrq]
  | pollPutBackCancelled a d irp hpc hc | pollComplete a d irp n hpc hn =>
      refine hp.move (p := .poll a) (q := .completed) irp (by simp) (by simp) ?_ ?_
        fun r hrp hrq => ?_
      · simp [contents, hpc]
      · simp
      · simp [hrp, hrq]
  | closeStart c file hidle hlive => exact hp.setCanceler (by simp [hidle])
  | destroyStart c hidle hpoll hcancel hlive =>
      have hd : Placement { s with destroying := true } := hp
      exact hd.setCanceler (by simp [hidle])
  | scanEnd c d ctx hpc hq => exact hp.setCanceler (by simp [hpc])
  | pollStart a hidle hlive => exact hp.setPoll (by simp [hidle])
  | pollEnd a d hpc hq => exact hp.setPoll (by simp [hpc])
  | pollBlocked a d irp hpc hn => exact hp.setPoll (by simp [hpc])
  | pollCopy a d irp shared' irp' n hpc hr hn hmove =>
      have hheld := hs.poll a
      rw [hpc] at hheld
      have hseq : irp'.seq = irp.seq := (ringCopy_spec hheld.2 hr).1.seq
      have hpoll : Placement (s.setPoll a (.copied d irp' n)) := hp.setPoll (by simp [hpc, hseq])
      exact hpoll
  | dispatched t | cancelFlag irp hq | produce b hroom | consume hne | scribble shared' => exact hp

end Contents

theorem placement_init (ι : Type) (shared : XenconsInterface) :
    Placement (RingSys.init ι shared) where
  nodup p := by cases p <;> exact List.nodup_nil
  apart p _ _ h := by cases p <;> exact absurd h List.not_mem_nil
  cover _ := by
    refine ⟨fun h => absurd h (Nat.not_lt_zero _), fun ⟨p, h⟩ => ?_⟩
    cases p <;> exact absurd h List.not_mem_nil

/-! ## 3. RingDestroy -/

/-- A call that stands here is not the one `RingDestroy` makes. -/
def CancelPc.OfClose : CancelPc → Prop
  | .idle | .remove _ (some _) | .complete _ (some _) _ | .done (some _) => True
  | .remove _ none | .complete _ none _ | .done none => False

/-- What `RingDestroy`'s call of `__RingCancelRequests` has emptied where it stands. -/
def CancelPc.Drained (queue : MajorFunction → List Irp) : CancelPc → Prop
  | .remove .read none | .complete .read none _ => True
  | .remove .write none | .complete .write none _ => queue .read = []
  | .done none => ∀ d, queue d = []
  | .idle | .remove _ (some _) | .complete _ (some _) _ | .done (some _) => False

/-- Before `RingDestroy`, every scan is one of `RingClose`; from then on nobody fills a queue and
    what its scan has emptied stays empty. -/
def Drain (s : RingSys ι) : Prop :=
  s.destroying = false ∧ (∀ c, (s.canceler c).OfClose) ∨
    s.destroying = true ∧ (∀ a, s.poll a = .idle) ∧ ∃ c, (s.canceler c).Drained s.queue ∧
      ∀ c', c' ≠ c → s.canceler c' = .idle ∨ ∃ ctx, s.canceler c' = .done ctx ∧ ctx ≠ none

theorem CancelPc.Drained.mono {queue queue' : MajorFunction → List Irp} {pc : CancelPc}
    (hsub : ∀ d, queue d = [] → queue' d = []) (h : pc.Drained queue) : pc.Drained queue' := by
  rcases pc with _ | ⟨_ | _, _ | _⟩ | ⟨_ | _, _ | _, _⟩ | _ | _ <;>
    first
      | exact h
      | exact hsub _ h
      | exact fun d => hsub d (h d)

/-- The scan of `RingDestroy` accepts everything, so what it leaves behind is empty. -/
theorem CancelPc.Drained.next {queue : MajorFunction → List Irp} {d : MajorFunction}
    {ctx : Option FileObject} (h : (CancelPc.remove d ctx).Drained queue)
    (hq : ∀ irp ∈ queue d, peekMatches ctx irp = false) : (cancelNext ctx d).Drained queue := by
  cases ctx with
  | some file => exact absurd h (by cases d <;> exact id)
  | none =>
      have hnil : queue d = [] := by
        refine List.eq_nil_iff_forall_not_mem.mpr fun irp hirp => ?_
        simpa using hq irp hirp
      cases d with
      | read => exact hnil
      | write =>
          intro d
          cases d with
          | read => exact h
          | write => exact hnil

theorem CancelPc.Drained.complete {queue : MajorFunction → List Irp} {d : MajorFunction}
    {ctx : Option FileObject} {irp : Irp} :
    (CancelPc.complete d ctx irp).Drained queue ↔ (CancelPc.remove d ctx).Drained queue := by
  cases d <;> cases ctx <;> exact Iff.rfl

theorem CancelPc.OfClose.next {d : MajorFunction} {ctx : Option FileObject}
    (h : (CancelPc.remove d ctx).OfClose) : (cancelNext ctx d).OfClose := by
  cases ctx with
  | none => exact h.elim
  | some file => cases d <;> trivial

section DrainSteps

variable {s s' : RingSys ι} {l : RingLabel ι}

theorem drained_setCanceler {c : Nat} {pc : CancelPc} (h : pc.Drained s.queue) :
    ((s.setCanceler c pc).canceler c).Drained (s.setCanceler c pc).queue := by
  rw [setCanceler_canceler, update_self]
  exact h

theorem ofClose_setCanceler (h : ∀ c, (s.canceler c).OfClose) {c : Nat} {pc : CancelPc}
    (hpc : pc.OfClose) : ∀ c', ((s.setCanceler c pc).canceler c').OfClose := by
  intro c'
  by_cases hc : c' = c
  · subst hc
    simpa using hpc
  · simpa [hc] using h c'

variable [DecidableEq ι]

/-- Before `RingDestroy`. -/
theorem Move.drain_before (hlive : s.destroying = false) (hc : ∀ c, (s.canceler c).OfClose)
    (h : Move s l s') : Drain s' := by
  cases h with
  | closeStart c file hidle _ => exact .inl ⟨hlive, ofClose_setCanceler hc trivial⟩
  | destroyStart c hidle hpoll hcancel _ =>
      refine .inr ⟨rfl, hpoll, c, by simp [CancelPc.Drained], fun c' hne => ?_⟩
      rcases hcancel c' with hi | ⟨ctx, hd⟩
      · exact .inl (by simpa [hne] using hi)
      · refine .inr ⟨ctx, by simpa [hne] using hd, fun he => ?_⟩
        have hclose := hc c'
        rw [hd, he] at hclose
        exact hclose
  | scanEnd c d ctx hpc hq =>
      have hclose := hc c
      rw [hpc] at hclose
      exact .inl ⟨hlive, ofClose_setCanceler hc hclose.next⟩
  | scanTake c d ctx irp hpc hq hm =>
      have hclose := hc c
      rw [hpc] at hclose
      exact .inl ⟨hlive, ofClose_setCanceler (s := s.setQueue d _) hc
        (by cases ctx <;> exact hclose)⟩
  | scanComplete c d ctx irp hpc =>
      have hclose := hc c
      rw [hpc] at hclose
      exact .inl ⟨hlive, ofClose_setCanceler (s := s.ringCsqCompleteCanceledIrp irp) hc
        (by cases ctx <;> exact hclose)⟩
  | _ => exact .inl ⟨hlive, hc⟩

/-- From the start of `RingDestroy` on. -/
theorem Move.drain_after (hd : s.destroying = true) (hpoll : ∀ a, s.poll a = .idle) {c : Nat}
    (hc : (s.canceler c).Drained s.queue)
    (ho : ∀ c', c' ≠ c → s.canceler c' = .idle ∨ ∃ ctx, s.canceler c' = .done ctx ∧ ctx ≠ none)
    (h : Move s l s') : Drain s' := by
  -- a scan that takes a step is the one of `RingDestroy`
  have hself : ∀ c', s.canceler c' ≠ .idle → (∀ ctx, s.canceler c' ≠ .done ctx) → c' = c := by
    intro c' hi hdone
    by_contra hne
    rcases ho c' hne with h' | ⟨ctx, h', -⟩
    · exact hi h'
    · exact hdone ctx h'
  have hothers : ∀ {pc : CancelPc} {s₁ : RingSys ι}, s₁.canceler = s.canceler →
      ∀ c', c' ≠ c → (s₁.setCanceler c pc).canceler c' = .idle ∨
        ∃ ctx, (s₁.setCanceler c pc).canceler c' = .done ctx ∧ ctx ≠ none := by
    intro pc s₁ hs₁ c' hne
    simpa [hne, hs₁] using ho c' hne
  cases h with
  | insertQueue t irp hseq hlive | insertCancelled t irp hseq hlive => simp [hd] at hlive
  | closeStart c' file hidle hlive => simp [hd] at hlive
  | destroyStart c' hidle hpoll' hcancel hlive => simp [hd] at hlive
  | pollStart a hidle hlive => simp [hd] at hlive
  | pollEnd a d hpc _ | pollTake a d irp rest hpc _ | pollBlocked a d irp hpc _ =>
      simp [hpoll] at hpc
  | pollCopy a d irp shared' irp' n hpc hr hn _ => simp [hpoll] at hpc
  | pollPutBack a d irp hpc _ | pollPutBackCancelled a d irp hpc _ => simp [hpoll] at hpc
  | pollComplete a d irp n hpc _ => simp [hpoll] at hpc
  | cancelQueued irp hq =>
      refine .inr ⟨hd, hpoll, c, hc.mono fun d hnil => ?_, ho⟩
      by_cases hdm : d = irp.major
      · rw [← hdm, hnil] at hq
        exact absurd hq List.not_mem_nil
      · simpa [hdm] using hnil
  | scanEnd c' d ctx hpc hq =>
      obtain rfl := hself c' (by simp [hpc]) (by simp [hpc])
      rw [hpc] at hc
      exact .inr ⟨hd, hpoll, c', drained_setCanceler (hc.next hq), hothers rfl⟩
  | scanTake c' d ctx irp hpc hq hm =>
      obtain rfl := hself c' (by simp [hpc]) (by simp [hpc])
      rw [hpc] at hc
      refine .inr ⟨hd, hpoll, c', ?_, hothers rfl⟩
      have hq' : (CancelPc.complete d ctx irp).Drained
          (s.setQueue d (ringCsqRemoveIrp (s.queue d) irp)).queue := by
        refine CancelPc.Drained.complete.mpr (hc.mono fun d' hnil => ?_)
        by_cases hdd : d' = d
        · subst hdd
          rw [hnil] at hq
          exact absurd hq List.not_mem_nil
        · simpa [hdd] using hnil
      exact drained_setCanceler hq'
  | scanComplete c' d ctx irp hpc =>
      obtain rfl := hself c' (by simp [hpc]) (by simp [hpc])
      rw [hpc] at hc
      exact .inr ⟨hd, hpoll, c', drained_setCanceler (CancelPc.Drained.complete.mp hc), hothers rfl⟩
  | _ => exact .inr ⟨hd, hpoll, c, hc, ho⟩

theorem Move.drain (hdrain : Drain s) (h : Move s l s') : Drain s' := by
  rcases hdrain with ⟨hlive, hc⟩ | ⟨hd, hpoll, c, hc, ho⟩
  · exact h.drain_before hlive hc
  · exact h.drain_after hd hpoll hc ho

end DrainSteps

theorem drain_init (ι : Type) (shared : XenconsInterface) : Drain (RingSys.init ι shared) :=
  .inl ⟨rfl, fun _ => trivial⟩

/-! ## 4. Runs -/

section Runs

variable [DecidableEq ι] {P : RingSys ι → RingLabel ι → Prop} {shared : XenconsInterface}
  {s : RingSys ι}

theorem reach_sound (h : Reach (ringSystem ι) P (RingSys.init ι shared) s) : Sound s :=
  h.ringInvariant (allPending_init ι shared) (sound_init ι shared)
    fun _ _ _ hs _ hm => hm.sound hs

theorem reach_placed (h : Reach (ringSystem ι) P (RingSys.init ι shared) s) : Placement s :=
  (h.ringInvariant (I := fun s => Sound s ∧ Placement s) (allPending_init ι shared)
    ⟨sound_init ι shared, placement_init ι shared⟩
    fun _ _ _ hs _ hm => ⟨hm.sound hs.1, hm.placed hs.1 hs.2⟩).2

theorem reach_drain (h : Reach (ringSystem ι) P (RingSys.init ι shared) s) : Drain s :=
  h.ringInvariant (allPending_init ι shared) (drain_init ι shared) fun _ _ _ hs _ hm => hm.drain hs

end Runs

/-! ## 5. The results -/

/-- **Every request is in exactly one place, once, and is completed once.** Whatever dispatchers,
    cancellations, polls, closes and the other domain do: a request on record is in one queue, or
    held by one activation of `RingPoll`, or held by the one call of `__RingCancelRequests` that is
    about to complete it, or completed; a completion is a success of between one byte and `Length`
    bytes, or a cancellation with `Information` 0; and when `RingDestroy` has returned, every
    request is completed. -/
theorem every_request_once [DecidableEq ι] {shared : XenconsInterface} {s : RingSys ι}
    (h : Reach (ringSystem ι) (fun _ _ => True) (RingSys.init ι shared) s) :
    (∀ irp ∈ s.queued, (∃! p, irp.seq ∈ (s.contents p).map Irp.seq) ∧
      ∀ p, ((s.contents p).map Irp.seq).count irp.seq ≤ 1) ∧
    (∀ c ∈ s.completed, ∃ irp ∈ s.queued, c.irp.SameRequest irp ∧
      (c.status = .success ∧ 1 ≤ c.information.toNat ∧ c.information.toNat ≤ irp.length.toNat ∨
        c.status = .cancelled ∧ c.information = 0)) ∧
    ∀ c, s.canceler c = .done none →
      ∀ irp ∈ s.queued, irp.seq ∈ (s.contents .completed).map Irp.seq := by
  have hs := reach_sound h
  have hp := reach_placed h
  refine ⟨fun irp hirp => ⟨Placed.existsUnique hp (hs.seq_lt hirp), Placed.count hp⟩,
    fun c hc => ?_, fun c hdone irp hirp => ?_⟩
  · rcases hs.completed c hc with ⟨hst, h1, hl, irp₀, hmem, hsame⟩ | ⟨hst, hi, hmem⟩
    · exact ⟨irp₀, hmem, hsame, .inl ⟨hst, h1, hsame.length ▸ hl⟩⟩
    · exact ⟨c.irp, hmem, .refl _, .inr ⟨hst, hi⟩⟩
  · obtain ⟨p, hmem⟩ := (hp.cover irp.seq).mp (hs.seq_lt hirp)
    rcases reach_drain h with ⟨-, hclose⟩ | ⟨-, hpoll, c', hdrained, ho⟩
    · have hno := hclose c
      rw [hdone] at hno
      exact hno.elim
    · -- nothing is left in the other places
      obtain rfl : c = c' := by
        by_contra hne
        rcases ho c hne with h' | ⟨ctx, h', hne'⟩
        · simp [hdone] at h'
        · simp [hdone] at h'
          exact hne' h'.symm
      rw [hdone] at hdrained
      cases p with
      | completed => exact hmem
      | queue d => simp [hdrained d] at hmem
      | poll a => simp [hpoll a] at hmem
      | canceler b =>
          by_cases hb : b = c
          · subst hb
            simp [hdone, CancelPc.held] at hmem
          · rcases ho b hb with h' | ⟨ctx, h', -⟩ <;> simp [h', CancelPc.held] at hmem

/-- A write that nobody served, and `RingDestroy`. -/
def destroyRun : List (RingLabel Nat) :=
  [.insert 0 (.oneByte 0 .write 7 65) false, .dispatched 0, .destroyStart 0, .cancelStep 0,
    .cancelStep 0, .cancelStep 0, .cancelStep 0]

theorem every_request_once_destroyRun :
    0 ∈ ((runs (ringSystem Nat) (RingSys.init Nat .zero) destroyRun).contents
      .completed).map Irp.seq := by
  have hreach : Reach (ringSystem Nat) (fun _ _ => True) (RingSys.init Nat .zero)
      (runs (ringSystem Nat) (RingSys.init Nat .zero) destroyRun) := by
    refine .of_admits _ .start ⟨⟨rfl, rfl, rfl⟩, trivial, nofun, trivial,
      ⟨rfl, rfl, fun _ => rfl, fun t => ?_, fun _ => .inl rfl⟩, trivial, ⟨nofun, nofun⟩, trivial,
      ⟨nofun, nofun⟩, trivial, ⟨nofun, nofun⟩, trivial, ⟨nofun, nofun⟩, trivial, trivial⟩
    cases t <;> rfl
  exact (every_request_once hreach).2.2 0 rfl (.oneByte 0 .write 7 65) List.mem_cons_self

/-- Between its removal and its completion by `RingClose` a request is in no queue, with no
    activation of `RingPoll`, and not completed. -/
theorem held_by_close : ¬∀ s : RingSys Nat,
    Reach (ringSystem Nat) (fun _ _ => True) (RingSys.init Nat .zero) s → ∀ irp ∈ s.queued,
      (∃ d, irp.seq ∈ (s.queue d).map Irp.seq) ∨ (∃ a, irp.seq ∈ (s.poll a).held.map Irp.seq) ∨
        irp.seq ∈ s.completed.map fun c => c.irp.seq := by
  intro hall
  have hreach : Reach (ringSystem Nat) (fun _ _ => True) (RingSys.init Nat .zero)
      (runs (ringSystem Nat) (RingSys.init Nat .zero)
        [.insert 0 (.oneByte 0 .read 7 0) false, .closeStart 0 7, .cancelStep 0]) :=
    .of_admits _ .start ⟨⟨rfl, rfl, rfl⟩, trivial, ⟨rfl, rfl⟩, trivial, ⟨nofun, nofun⟩, trivial,
      trivial⟩
  rcases hall _ hreach (.oneByte 0 .read 7 0) List.mem_cons_self with ⟨d, h⟩ | ⟨a, h⟩ | h
  · cases d <;> exact absurd h List.not_mem_nil
  · exact absurd h List.not_mem_nil
  · exact absurd h List.not_mem_nil

end Xencons
