import Xencons.Ring.Machine

/-!
# What a step of the ring machine can do

`Move s l s'` lists, case by case, what a step of the ring machine leaves: one case per thing a
party can meet (the queue is empty, the ring is blocked, the request has been cancelled ...), with
everything the step has checked. The invariants of the ring are proved over these cases and never
unfold the machine.

* `ringCopy_zero`, `ringCopy_spec`, `ringCopy_count` -- what the copy of either loop does to the
  page and to the request it serves;
* `Move`, `move_of_enabled` -- the cases, and that there are no others;
* `Reach.ringInvariant` -- the invariant rule over the cases.
-/

namespace Xencons

open Lib Function

/-! ## 1. The copy of either loop -/

/-- Another copy of a request: the same request, and for a write the same bytes. -/
structure Irp.SameRequest (irp' irp : Irp) : Prop where
  seq : irp'.seq = irp.seq
  major : irp'.major = irp.major
  fileObject : irp'.fileObject = irp.fileObject
  length : irp'.length = irp.length
  write : irp.major = .write → irp' = irp

theorem Irp.SameRequest.refl (irp : Irp) : irp.SameRequest irp :=
  ⟨rfl, rfl, rfl, rfl, fun _ => rfl⟩

/-- The bytes, or the room, a copy in that direction finds in the ring. -/
def XenconsInterface.room (shared : XenconsInterface) : MajorFunction → Nat
  | .read => shared.inAvail
  | .write => shared.outFree

section Copy

open RingSys

variable {d : MajorFunction} {shared shared' : XenconsInterface} {irp irp' : Irp} {n : ULONG}

/-- The number a copy returns. -/
theorem ringCopy_count (d : MajorFunction) (shared : XenconsInterface) (irp : Irp) :
    (ringCopy d shared irp).2.2 = BitVec.ofNat 32 (min irp.length.toNat (shared.room d)) := by
  cases d with
  | read => simp only [ringCopy, ringCopyFromRead_eq shared irp.size]; rfl
  | write => simp only [ringCopy, ringCopyToWrite_eq shared irp.size]; rfl

theorem toNat_ringCopy_count (d : MajorFunction) (shared : XenconsInterface) (irp : Irp) :
    (ringCopy d shared irp).2.2.toNat = min irp.length.toNat (shared.room d) := by
  have hlt : irp.length.toNat < 2 ^ 32 := irp.length.isLt
  rw [ringCopy_count, BitVec.toNat_ofNat, Nat.mod_eq_of_lt (by omega)]

/-- **A copy of no bytes leaves page and request as they were.** -/
theorem ringCopy_zero (h : ringCopy d shared irp = (shared', irp', 0)) :
    shared' = shared ∧ irp' = irp := by
  have hmin : min irp.length.toNat (shared.room d) = 0 := by
    rw [← toNat_ringCopy_count, h]
    rfl
  cases d with
  | read =>
      simp only [XenconsInterface.room] at hmin
      have hbuf : (ringCopyFromRead shared irp.systemBuffer irp.length).2.1 = irp.systemBuffer := by
        rw [ringCopyFromRead_eq shared irp.size]
        simp only [hmin]
        exact overwrite_nil _ _
      have hpage : (ringCopyFromRead shared irp.systemBuffer irp.length).1 = shared := by
        rw [ringCopyFromRead_eq shared irp.size]
        simp [hmin]
      simp only [ringCopy, Prod.mk.injEq] at h
      obtain ⟨rfl, rfl, -⟩ := h
      refine ⟨hpage, ?_⟩
      rw [← irp.setBuffer_self rfl]
      simp only [Irp.setBuffer, hbuf]
  | write =>
      simp only [XenconsInterface.room] at hmin
      have hpage : (ringCopyToWrite shared irp.systemBuffer irp.length).1 = shared := by
        rw [ringCopyToWrite_eq shared irp.size]
        simp [hmin, depositVec_nil]
      simp only [ringCopy, Prod.mk.injEq] at h
      obtain ⟨rfl, rfl, -⟩ := h
      exact ⟨hpage, rfl⟩

/-- What a copy hands back is the request it was given; it moves at most `Length` bytes. -/
theorem ringCopy_spec (hmaj : irp.major = d) (h : ringCopy d shared irp = (shared', irp', n)) :
    irp'.SameRequest irp ∧ n.toNat ≤ irp.length.toNat := by
  have hn : n.toNat ≤ irp.length.toNat := by
    have hcount := toNat_ringCopy_count d shared irp
    rw [h] at hcount
    simp only at hcount
    omega
  refine ⟨?_, hn⟩
  cases d with
  | read =>
      simp only [ringCopy, Prod.mk.injEq] at h
      obtain ⟨-, rfl, -⟩ := h
      exact ⟨rfl, rfl, rfl, rfl, fun hw => by rw [hmaj] at hw; cases hw⟩
  | write =>
      simp only [ringCopy, Prod.mk.injEq] at h
      obtain ⟨-, rfl, -⟩ := h
      exact .refl irp

end Copy

/-! ## 2. The cases -/

section Moves

open RingSys

variable {ι : Type} [DecidableEq ι]

/-- The bookkeeping of an insertion: the request is on record, its dispatcher has the answer. -/
@[simps] def RingSys.arrive (s : RingSys ι) (t : Nat) (irp : Irp) (cancelled : Bool) : RingSys ι :=
  { s with
    queued := s.queued ++ [irp]
    cancel := update s.cancel irp.seq cancelled
    dispatch := update s.dispatch t (.inserted irp .pending) }

/-- A copy of `n` bytes and the activation that has made it. -/
@[simps] def RingSys.transfer (s : RingSys ι) (a : ι) (d : MajorFunction)
    (shared' : XenconsInterface) (irp' : Irp) (n : ULONG) : RingSys ι :=
  { s with
    shared := shared'
    transfers := update s.transfers d (s.transfers d ++ [⟨irp', n⟩])
    poll := update s.poll a (.copied d irp' n) }

/-- **What a step can do**, with everything it has checked. -/
inductive Move (s : RingSys ι) : RingLabel ι → RingSys ι → Prop where
  | insertQueue (t : Nat) (irp : Irp) (hseq : irp.seq = s.queued.length)
      (hlive : s.destroying = false) :
      Move s (.insert t irp false)
        ((s.arrive t irp false).setQueue irp.major (s.queue irp.major ++ [irp]))
  | insertCancelled (t : Nat) (irp : Irp) (hseq : irp.seq = s.queued.length)
      (hlive : s.destroying = false) :
      Move s (.insert t irp true) ((s.arrive t irp true).ringCsqCompleteCanceledIrp irp)
  | dispatched (t : Nat) :
      Move s (.dispatched t) { s with dispatch := update s.dispatch t .idle }
  | cancelQueued (irp : Irp) (hq : irp ∈ s.queue irp.major) :
      Move s (.ioCancelIrp irp)
        (((s.setCancel irp.seq true).setQueue irp.major
          (ringCsqRemoveIrp (s.queue irp.major) irp)).ringCsqCompleteCanceledIrp irp)
  | cancelFlag (irp : Irp) (hq : irp ∉ s.queue irp.major) :
      Move s (.ioCancelIrp irp) (s.setCancel irp.seq true)
  | closeStart (c : Nat) (file : FileObject) (hidle : s.canceler c = .idle)
      (hlive : s.destroying = false) :
      Move s (.closeStart c file) (s.setCanceler c (.remove .read (some file)))
  | destroyStart (c : Nat) (hidle : s.canceler c = .idle) (hpoll : ∀ a, s.poll a = .idle)
      (hcancel : ∀ c', s.canceler c' = .idle ∨ ∃ ctx, s.canceler c' = .done ctx)
      (hlive : s.destroying = false) :
      Move s (.destroyStart c) ({ s with destroying := true }.setCanceler c (.remove .read none))
  | scanEnd (c : Nat) (d : MajorFunction) (ctx : Option FileObject)
      (hpc : s.canceler c = .remove d ctx)
      (hq : ∀ irp ∈ s.queue d, peekMatches ctx irp = false) :
      Move s (.cancelStep c) (s.setCanceler c (cancelNext ctx d))
  | scanTake (c : Nat) (d : MajorFunction) (ctx : Option FileObject) (irp : Irp)
      (hpc : s.canceler c = .remove d ctx) (hq : irp ∈ s.queue d)
      (hm : peekMatches ctx irp = true) :
      Move s (.cancelStep c) ((s.setQueue d (ringCsqRemoveIrp (s.queue d) irp)).setCanceler c
        (.complete d ctx irp))
  | scanComplete (c : Nat) (d : MajorFunction) (ctx : Option FileObject) (irp : Irp)
      (hpc : s.canceler c = .complete d ctx irp) :
      Move s (.cancelStep c) ((s.ringCsqCompleteCanceledIrp irp).setCanceler c (.remove d ctx))
  | pollStart (a : ι) (hidle : s.poll a = .idle) (hlive : s.destroying = false) :
      Move s (.pollStart a) (s.setPoll a (.dequeue .read))
  | pollEnd (a : ι) (d : MajorFunction) (hpc : s.poll a = .dequeue d) (hq : s.queue d = []) :
      Move s (.pollStep a) (s.setPoll a (pollNext d))
  | pollTake (a : ι) (d : MajorFunction) (irp : Irp) (rest : List Irp)
      (hpc : s.poll a = .dequeue d) (hq : s.queue d = irp :: rest) :
      Move s (.pollStep a) ((s.setQueue d rest).setPoll a (.copy d irp))
  | pollBlocked (a : ι) (d : MajorFunction) (irp : Irp) (hpc : s.poll a = .copy d irp)
      (hn : irp.length.toNat = 0 ∨ s.shared.room d = 0) :
      Move s (.pollStep a) (s.setPoll a (.copied d irp 0))
  | pollCopy (a : ι) (d : MajorFunction) (irp : Irp) (shared' : XenconsInterface) (irp' : Irp)
      (n : ULONG) (hpc : s.poll a = .copy d irp)
      (hr : ringCopy d s.shared irp = (shared', irp', n)) (hn : n ≠ 0)
      (hmove : ¬(irp.length.toNat = 0 ∨ s.shared.room d = 0)) :
      Move s (.pollStep a) (s.transfer a d shared' irp' n)
  | pollPutBack (a : ι) (d : MajorFunction) (irp : Irp) (hpc : s.poll a = .copied d irp 0)
      (hc : s.cancel irp.seq = false) :
      Move s (.pollStep a) ((s.setQueue d (irp :: s.queue d)).setPoll a (pollNext d))
  | pollPutBackCancelled (a : ι) (d : MajorFunction) (irp : Irp)
      (hpc : s.poll a = .copied d irp 0) (hc : s.cancel irp.seq = true) :
      Move s (.pollStep a) ((s.ringCsqCompleteCanceledIrp irp).setPoll a (pollNext d))
  | pollComplete (a : ι) (d : MajorFunction) (irp : Irp) (n : ULONG)
      (hpc : s.poll a = .copied d irp n) (hn : n ≠ 0) :
      Move s (.pollStep a)
        (((s.addBytes d n).ioCompleteRequest irp .success n).setPoll a (.dequeue d))
  | produce (b : UInt8) (hroom : s.shared.inAvail < 1024) :
      Move s (.produce b)
        { s with shared := s.shared.produce b, produced := s.produced ++ [b] }
  | consume (hne : s.shared.outCons ≠ s.shared.outProd) :
      Move s .consume
        { s with shared := s.shared.consume, consumed := s.consumed ++ [s.shared.outHead] }
  | scribble (shared' : XenconsInterface) : Move s (.scribble shared') { s with shared := shared' }

/-! ## 3. There are no others -/

variable {s : RingSys ι}

theorem move_insert {t : Nat} {irp : Irp} {cancelled : Bool}
    (h : ringEnabled s (.insert t irp cancelled)) :
    Move s (.insert t irp cancelled) (ringNext s (.insert t irp cancelled)) := by
  obtain ⟨-, hseq, hlive⟩ := h
  cases cancelled with
  | false =>
      convert Move.insertQueue (s := s) t irp hseq hlive using 1
      simp [ringNext, ringPutQueue, ioCsqInsertIrpEx, ringCsqInsertIrpEx, arrive, setQueue,
        setCancel]
  | true =>
      convert Move.insertCancelled (s := s) t irp hseq hlive using 1
      simp [ringNext, ringPutQueue, ioCsqInsertIrpEx, ringCsqInsertIrpEx, arrive,
        ioCompleteRequest, setCancel]

theorem move_ioCancelIrp (irp : Irp) :
    Move s (.ioCancelIrp irp) (ringNext s (.ioCancelIrp irp)) := by
  unfold ringNext RingSys.ioCancelIrp
  by_cases hq : irp ∈ s.queue irp.major
  · simpa only [hq, if_true] using Move.cancelQueued (s := s) irp hq
  · simpa only [hq, if_false] using Move.cancelFlag (s := s) irp hq

theorem move_cancelStep {c : Nat} (h : ringEnabled s (.cancelStep c)) :
    Move s (.cancelStep c) (s.ringCancelStep c) := by
  unfold ringCancelStep
  cases hpc : s.canceler c with
  | idle => exact absurd hpc h.1
  | done ctx => exact absurd hpc (h.2 ctx)
  | remove d ctx =>
      cases hr : ioCsqRemoveNextIrp (s.queue d) ctx with
      | none =>
          simp only [hr]
          exact .scanEnd c d ctx hpc (ioCsqRemoveNextIrp_eq_none hr)
      | some r =>
          obtain ⟨irp, rest⟩ := r
          obtain ⟨hq, hm, rfl⟩ := ioCsqRemoveNextIrp_eq_some hr
          simp only [hr]
          exact .scanTake c d ctx irp hpc hq hm
  | complete d ctx irp => exact .scanComplete c d ctx irp hpc

theorem move_pollStep {a : ι} (h : ringEnabled s (.pollStep a)) :
    Move s (.pollStep a) (s.ringPollStep a) := by
  unfold ringPollStep
  cases hpc : s.poll a with
  | idle => exact absurd hpc h
  | dequeue d =>
      cases hq : s.queue d with
      | nil =>
          simp only [ioCsqRemoveNextIrp_none, hq]
          exact .pollEnd a d hpc hq
      | cons irp rest =>
          simp only [ioCsqRemoveNextIrp_none, hq]
          exact .pollTake a d irp rest hpc hq
  | copy d irp =>
      cases hr : ringCopy d s.shared irp with
      | mk shared' r =>
          obtain ⟨irp', n⟩ := r
          have hcount := toNat_ringCopy_count d s.shared irp
          rw [hr] at hcount
          simp only at hcount
          by_cases hn : n = 0
          · subst hn
            obtain ⟨rfl, rfl⟩ := ringCopy_zero hr
            simp only [hr, if_true]
            exact .pollBlocked a d irp' hpc (by simp at hcount; omega)
          · simp only [hr, if_neg hn]
            refine .pollCopy a d irp shared' irp' n hpc hr hn fun h0 => hn ?_
            exact BitVec.eq_of_toNat_eq (by rw [hcount]; simp; omega)
  | copied d irp n =>
      by_cases hn : n = 0
      · subst hn
        simp only [if_true, ioCsqInsertIrpEx, ringCsqInsertIrpEx]
        cases hc : s.cancel irp.seq with
        | false => exact .pollPutBack a d irp hpc hc
        | true => exact .pollPutBackCancelled a d irp hpc hc
      · simp only [if_neg hn]
        exact .pollComplete a d irp n hpc hn

/-- `IoCsqInsertIrpEx` never answers anything but `STATUS_PENDING` here. -/
def AllPending (s : RingSys ι) : Prop :=
  ∀ t irp status, s.dispatch t = .inserted irp status → status = .pending

/-- **A step that can be taken is one of the cases.** -/
theorem move_of_enabled {l : RingLabel ι} (hp : AllPending s) (h : ringEnabled s l) :
    Move s l (ringNext s l) := by
  cases l with
  | insert t irp cancelled => exact move_insert h
  | dispatched t =>
      simp only [ringNext, dispatchReturn]
      cases hd : s.dispatch t with
      | idle => exact absurd hd h
      | inserted irp status =>
          obtain rfl := hp t irp status hd
          exact .dispatched t
  | ioCancelIrp irp => exact move_ioCancelIrp irp
  | closeStart c file => exact .closeStart c file h.1 h.2
  | destroyStart c => exact .destroyStart c h.1 h.2.2.1 h.2.2.2.2 h.2.1
  | cancelStep c => exact move_cancelStep h
  | pollStart a => exact .pollStart a h.1 h.2
  | pollStep a => exact move_pollStep h
  | produce b => exact .produce b h
  | consume => exact .consume h
  | scribble shared => exact .scribble shared

theorem Move.allPending {l : RingLabel ι} {s' : RingSys ι} (hp : AllPending s) (h : Move s l s') :
    AllPending s' := by
  cases h with
  | insertQueue t irp hseq hlive | insertCancelled t irp hseq hlive =>
      intro t' irp' status h'
      by_cases ht : t' = t
      · subst ht
        simp [ringCsqCompleteCanceledIrp] at h'
        exact h'.2.symm
      · simp [ringCsqCompleteCanceledIrp, ht] at h'
        exact hp t' irp' status h'
  | dispatched t =>
      intro t' irp' status h'
      by_cases ht : t' = t
      · subst ht
        simp at h'
      · simp [ht] at h'
        exact hp t' irp' status h'
  | _ => exact hp

/-- **The invariant rule over the cases.** -/
theorem Lib.Reach.ringInvariant {P : RingSys ι → RingLabel ι → Prop} {I : RingSys ι → Prop}
    {s₀ : RingSys ι} (hp : AllPending s₀) (h0 : I s₀)
    (hs : ∀ s l s', I s → P s l → Move s l s' → I s') (h : Reach (ringSystem ι) P s₀ s) : I s := by
  have hboth : AllPending s ∧ I s := by
    refine h.invariant (I := fun s => AllPending s ∧ I s) ⟨hp, h0⟩ fun s l hi he hl => ?_
    have hmove : Move s l (ringNext s l) := move_of_enabled hi.1 he
    exact ⟨hmove.allPending hi.1, hs s l _ hi.2 hl hmove⟩
  exact hboth.2

end Moves

theorem allPending_init (ι : Type) (shared : XenconsInterface) :
    AllPending (RingSys.init ι shared) := by
  intro t irp status h
  cases h

end Xencons
