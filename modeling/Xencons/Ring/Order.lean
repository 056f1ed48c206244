import Xencons.Lib.Keyed
import Xencons.Ring.Custody

/-!
# In which order the requests of a queue are served

An activation takes the oldest request off a queue, so with one activation at a time the bytes move
in queueing order, and a request that is put back goes to the head, where it was. Two activations
can each hold a request of one queue; then the order is up to who copies first.

* `InOrder` -- the requests of a queue have been served, and wait, in queueing order;
* `InTurn` -- what keeps it: an activation that moves bytes, or puts a request back, is not
  overtaking a request another one holds;
* `Ordered`, `Move.ordered` -- the invariant and its step lemma;
* `inOrder_of_inTurn` -- runs in turn; `two_polls_overtake` -- a run that is not.
-/

namespace Xencons

open Lib Function RingSys

variable {ι : Type}

/-! ## 1. What is kept, and under which steps -/

/-- The request of queue `d` an activation holds and has moved no byte for. -/
def PollPc.waiting (d : MajorFunction) : PollPc → Option Irp
  | .idle | .dequeue _ => none
  | .copy d' irp => if d' = d then some irp else none
  | .copied d' irp n => if d' = d ∧ n = 0 then some irp else none

/-- The bytes moved for the requests of queue `d`, request by request in queueing order. -/
def RingSys.acceptedBytes (s : RingSys ι) (d : MajorFunction) : List UInt8 :=
  (s.queued.filter fun irp => irp.major = d).flatMap fun irp =>
    ((s.transfers d).filter fun t => t.irp.seq = irp.seq).flatMap Transfer.bytes

/-- **Queueing order**: the bytes moved are those of the requests in queueing order, each request
    was served before the ones behind it, and those in the queue stand in their order. -/
structure InOrder (s : RingSys ι) (d : MajorFunction) : Prop where
  bytes : (s.transfers d).flatMap Transfer.bytes = s.acceptedBytes d
  transfers : ((s.transfers d).map fun t => t.irp.seq).Pairwise (· < ·)
  queue : ((s.queue d).map Irp.seq).Pairwise (· < ·)

/-- What activation `a`, standing at `pc`, must find to be in turn. -/
def PollPc.InTurn (s : RingSys ι) (a : ι) : PollPc → Prop
  | .copy d irp => irp.length.toNat ≠ 0 → s.shared.room d ≠ 0 →
      ∀ b, b ≠ a → ∀ irp', (s.poll b).waiting d = some irp' → irp.seq < irp'.seq
  | .copied d irp n => n = 0 → s.cancel irp.seq = false →
      ∀ b, b ≠ a → ∀ irp', (s.poll b).waiting d = some irp' → irp'.seq < irp.seq
  | .idle | .dequeue _ => True

/-- **In turn**: an activation whose copy moves bytes holds the oldest request that any activation
    holds of that queue, and one that puts a request back holds the youngest. -/
def InTurn (s : RingSys ι) : RingLabel ι → Prop
  | .pollStep a => (s.poll a).InTurn s a
  | _ => True

/-! ## 2. The invariant -/

/-- What has been served, what activations hold and what waits in the queue follow each other. -/
structure Ordered (s : RingSys ι) (d : MajorFunction) : Prop where
  queue : ((s.queue d).map Irp.seq).Pairwise (· < ·)
  held : ∀ a irp, (s.poll a).waiting d = some irp → ∀ irp' ∈ s.queue d, irp.seq < irp'.seq
  transfers : ((s.transfers d).map fun t => t.irp.seq).Pairwise (· < ·)
  behind : ∀ t ∈ s.transfers d, ∀ irp ∈ s.queue d, t.irp.seq < irp.seq
  before : ∀ t ∈ s.transfers d, ∀ a irp, (s.poll a).waiting d = some irp → t.irp.seq < irp.seq
  record : ∀ t ∈ s.transfers d, ∃ irp ∈ s.queued, irp.major = d ∧ irp.seq = t.irp.seq

section Order

variable {s s' : RingSys ι} {d : MajorFunction} {l : RingLabel ι}

theorem PollPc.waiting_eq_some {pc : PollPc} {irp : Irp} :
    pc.waiting d = some irp ↔ pc = .copy d irp ∨ pc = .copied d irp 0 := by
  cases pc with
  | idle | dequeue d' => simp [PollPc.waiting]
  | copy d' irp' => simp [PollPc.waiting]
  | copied d' irp' n => simp [PollPc.waiting]; tauto

/-- A waiting request is untouched and on record. -/
theorem PollPc.Sound.waiting {pc : PollPc} {queued : List Irp} {irp : Irp} (h : pc.Sound queued)
    (hw : pc.waiting d = some irp) : irp ∈ queued ∧ irp.major = d := by
  rcases PollPc.waiting_eq_some.mp hw with rfl | rfl
  · exact h
  · obtain ⟨⟨irp₀, -, hsame, hmaj⟩, -, h0⟩ := h
    exact ⟨h0 rfl, hsame.major.trans hmaj⟩

/-- An ordered history of one queue is in order. -/
theorem Ordered.inOrder (hs : Sound s) (h : Ordered s d) : InOrder s d where
  bytes := by
    have hseqs : (s.queued.map Irp.seq).Pairwise (· < ·) := by
      rw [hs.seqs]
      exact List.pairwise_lt_range
    have hkeys : ((s.queued.filter fun irp => irp.major = d).map Irp.seq).Pairwise (· < ·) :=
      hseqs.sublist ((List.filter_sublist (l := s.queued)).map Irp.seq)
    refine (flatMap_filter_key hkeys h.transfers fun t ht => ?_).symm
    obtain ⟨irp, hmem, hmaj, hseq⟩ := h.record t ht
    exact ⟨irp, List.mem_filter.mpr ⟨hmem, by simpa using hmaj⟩, hseq⟩
  transfers := h.transfers
  queue := h.queue

/-- Requests may leave the queue, and activations may let go of them. -/
theorem Ordered.weaken (h : Ordered s d) (hq : (s'.queue d).Sublist (s.queue d))
    (hw : ∀ a irp, (s'.poll a).waiting d = some irp → (s.poll a).waiting d = some irp)
    (ht : s'.transfers d = s.transfers d) (hr : s.queued ⊆ s'.queued) : Ordered s' d where
  queue := h.queue.sublist (hq.map Irp.seq)
  held a irp hirp irp' hmem := h.held a irp (hw a irp hirp) irp' (hq.subset hmem)
  transfers := by rw [ht]; exact h.transfers
  behind t hmem irp hirp := h.behind t (ht ▸ hmem) irp (hq.subset hirp)
  before t hmem a irp hirp := h.before t (ht ▸ hmem) a irp (hw a irp hirp)
  record t hmem := by
    obtain ⟨irp, hirp, hmaj, hseq⟩ := h.record t (ht ▸ hmem)
    exact ⟨irp, hr hirp, hmaj, hseq⟩

/-- A queue loses nothing to an update of another one. -/
theorem sublist_setQueue {d d' : MajorFunction} {list : List Irp} (h : list.Sublist (s.queue d')) :
    ((s.setQueue d' list).queue d).Sublist (s.queue d) := by
  by_cases hd : d = d'
  · subst hd
    simpa using h
  · simp [hd]

/-- **A queued request goes behind everything.** -/
theorem Ordered.insertQueue (hs : Sound s) (h : Ordered s d) {t : Nat} {irp : Irp}
    (hseq : irp.seq = s.queued.length) :
    Ordered ((s.arrive t irp false).setQueue irp.major (s.queue irp.major ++ [irp])) d := by
  have hw : Ordered (s.arrive t irp false) d :=
    h.weaken (List.Sublist.refl _) (fun _ _ h => h) rfl (List.subset_append_left _ _)
  by_cases hd : d = irp.major
  · have hlast : ∀ irp' ∈ s.queued, irp'.seq < irp.seq := fun irp' hmem => hseq ▸ hs.seq_lt hmem
    have hmem : ∀ irp' ∈ s.queue d ++ [irp], irp' ∈ s.queue d ∨ irp' = irp := by simp
    refine ⟨?_, fun a X hX Y hY => ?_, hw.transfers, fun t ht Y hY => ?_, hw.before, hw.record⟩
    · simp only [← hd, setQueue_queue, update_self]
      exact pairwise_key_append h.queue fun Y hY => hlast Y (hs.queue d Y hY).1
    · simp only [← hd, setQueue_queue, update_self] at hY
      rcases hmem Y hY with hY | rfl
      · exact h.held a X hX Y hY
      · exact hlast X ((hs.poll a).waiting hX).1
    · simp only [← hd, setQueue_queue, update_self] at hY
      rcases hmem Y hY with hY | rfl
      · exact h.behind t ht Y hY
      · obtain ⟨X, hX, -, he⟩ := h.record t ht
        exact he ▸ hlast X hX
  · exact hw.weaken (by simp [hd]) (fun _ _ h => h) rfl fun _ h => h

variable [DecidableEq ι]

/-- What an activation waits with after it has moved on to `pc`. -/
theorem waiting_setPoll {a : ι} {pc : PollPc} (h : ∀ irp, pc.waiting d = some irp →
    (s.poll a).waiting d = some irp) : ∀ b irp, ((s.setPoll a pc).poll b).waiting d = some irp →
      (s.poll b).waiting d = some irp := by
  intro b irp hb
  by_cases hba : b = a
  · subst hba
    rw [setPoll_poll, update_self] at hb
    exact h irp hb
  · rwa [setPoll_poll, update_of_ne hba] at hb

@[simp] theorem waiting_pollNext (d d' : MajorFunction) : (pollNext d').waiting d = none := by
  cases d' <;> rfl

/-- **The head of the queue goes to an activation.** -/
theorem Ordered.pollTake (h : Ordered s d) {a : ι} {d' : MajorFunction} {irp : Irp}
    {rest : List Irp} (hq : s.queue d' = irp :: rest) :
    Ordered ((s.setQueue d' rest).setPoll a (.copy d' irp)) d := by
  have hsub : ((s.setQueue d' rest).queue d).Sublist (s.queue d) :=
    sublist_setQueue (hq ▸ List.sublist_cons_self _ _)
  by_cases hd : d = d'
  · subst hd
    have hqueue := h.queue
    rw [hq, List.map_cons, List.pairwise_cons] at hqueue
    have hrest : ∀ Y ∈ rest, irp.seq < Y.seq := fun Y hY => hqueue.1 _ (List.mem_map_of_mem hY)
    -- who waits now: the others as before, this one with the head
    have hwait : ∀ b X, (((s.setQueue d rest).setPoll a (.copy d irp)).poll b).waiting d = some X →
        X = irp ∨ (s.poll b).waiting d = some X := by
      intro b X hX
      by_cases hb : b = a
      · subst hb
        simp [PollPc.waiting] at hX
        exact .inl hX.symm
      · simp [hb] at hX
        exact .inr hX
    refine ⟨h.queue.sublist (hsub.map Irp.seq), fun b X hX Y hY => ?_, h.transfers,
      fun t ht Y hY => h.behind t ht Y (hsub.subset hY), fun t ht b X hX => ?_, h.record⟩
    · simp at hY
      rcases hwait b X hX with rfl | hX
      · exact hrest Y hY
      · exact h.held b X hX Y (hq ▸ List.mem_cons_of_mem _ hY)
    · rcases hwait b X hX with rfl | hX
      · exact h.behind t ht X (hq ▸ List.mem_cons_self)
      · exact h.before t ht b X hX
  · refine h.weaken hsub (waiting_setPoll (s := s.setQueue d' rest) fun X hX => ?_) rfl fun _ h => h
    simp [PollPc.waiting, Ne.symm hd] at hX

/-- **A copy that moves bytes**, made by the activation with the oldest request. -/
theorem Ordered.pollCopy (hs : Sound s) (h : Ordered s d) {a : ι}
    {d' : MajorFunction} {irp irp' : Irp} {shared' : XenconsInterface} {n : ULONG}
    (hpc : s.poll a = .copy d' irp) (hseq : irp'.seq = irp.seq) (hn : n ≠ 0)
    (hturn : ∀ b, b ≠ a → ∀ X, (s.poll b).waiting d' = some X → irp.seq < X.seq) :
    Ordered (s.transfer a d' shared' irp' n) d := by
  have hdone : ∀ X, (PollPc.copied d' irp' n).waiting d ≠ some X := by
    simp only [PollPc.waiting, hn, and_false, if_false]
    nofun
  have hwait : ∀ b X, ((s.transfer a d' shared' irp' n).poll b).waiting d = some X →
      b ≠ a ∧ (s.poll b).waiting d = some X := by
    intro b X hX
    by_cases hb : b = a
    · subst hb
      rw [transfer_poll, update_self] at hX
      exact absurd hX (hdone X)
    · rw [transfer_poll, update_of_ne hb] at hX
      exact ⟨hb, hX⟩
  by_cases hd : d = d'
  · subst hd
    have hself : (s.poll a).waiting d = some irp := by simp [hpc, PollPc.waiting]
    have hmem : ∀ t ∈ s.transfers d ++ [⟨irp', n⟩], t ∈ s.transfers d ∨ t.irp.seq = irp.seq := by
      intro t ht
      rcases List.mem_append.mp ht with ht | ht
      · exact .inl ht
      · exact .inr (List.mem_singleton.mp ht ▸ hseq)
    refine ⟨h.queue, fun b X hX => h.held b X (hwait b X hX).2, ?_, fun t ht Y hY => ?_,
      fun t ht b X hX => ?_, fun t ht => ?_⟩
    · simp only [transfer_transfers, update_self]
      refine pairwise_key_append h.transfers fun t ht => ?_
      exact hseq ▸ h.before t ht a irp hself
    · simp only [transfer_transfers, update_self] at ht
      rcases hmem t ht with ht | he
      · exact h.behind t ht Y hY
      · exact he ▸ h.held a irp hself Y hY
    · obtain ⟨hb, hX⟩ := hwait b X hX
      simp only [transfer_transfers, update_self] at ht
      rcases hmem t ht with ht | he
      · exact h.before t ht b X hX
      · exact he ▸ hturn b hb X hX
    · simp only [transfer_transfers, update_self] at ht
      rcases hmem t ht with ht | he
      · exact h.record t ht
      · obtain ⟨hirp, hmaj⟩ := (hs.poll a).waiting hself
        exact ⟨irp, hirp, hmaj, he.symm⟩
  · exact h.weaken (List.Sublist.refl _) (fun b X hX => (hwait b X hX).2) (by simp [hd])
      fun _ h => h

/-- **A request goes back to the head**, put there by the activation with the youngest one. -/
theorem Ordered.pollPutBack (h : Ordered s d) {a : ι} {d' : MajorFunction}
    {irp : Irp} (hpc : s.poll a = .copied d' irp 0)
    (hturn : ∀ b, b ≠ a → ∀ X, (s.poll b).waiting d' = some X → X.seq < irp.seq) :
    Ordered ((s.setQueue d' (irp :: s.queue d')).setPoll a (pollNext d')) d := by
  have hwait : ∀ b X, (((s.setQueue d' (irp :: s.queue d')).setPoll a (pollNext d')).poll
      b).waiting d = some X → b ≠ a ∧ (s.poll b).waiting d = some X := by
    intro b X hX
    by_cases hb : b = a
    · subst hb
      simp at hX
    · simp [hb] at hX
      exact ⟨hb, hX⟩
  by_cases hd : d = d'
  · subst hd
    have hself : (s.poll a).waiting d = some irp := by simp [hpc, PollPc.waiting]
    refine ⟨?_, fun b X hX Y hY => ?_, h.transfers, fun t ht Y hY => ?_,
      fun t ht b X hX => h.before t ht b X (hwait b X hX).2, h.record⟩
    · simp only [setPoll_queue, setQueue_queue, update_self, List.map_cons, List.pairwise_cons]
      refine ⟨fun k hk => ?_, h.queue⟩
      obtain ⟨Y, hY, rfl⟩ := List.mem_map.mp hk
      exact h.held a irp hself Y hY
    · obtain ⟨hb, hheld⟩ := hwait b X hX
      simp only [setPoll_queue, setQueue_queue, update_self] at hY
      rcases List.mem_cons.mp hY with rfl | hY
      · exact hturn b hb X hheld
      · exact h.held b X hheld Y hY
    · simp only [setPoll_queue, setQueue_queue, update_self] at hY
      rcases List.mem_cons.mp hY with rfl | hY
      · exact h.before t ht a Y hself
      · exact h.behind t ht Y hY
  · exact h.weaken (by simp [hd]) (fun b X hX => (hwait b X hX).2) rfl fun _ h => h

/-- **Every step taken in turn keeps the order.** -/
theorem Move.ordered (hs : Sound s) (ho : Ordered s d) (hturn : InTurn s l)
    (h : Move s l s') : Ordered s' d := by
  have hrefl : (s.queue d).Sublist (s.queue d) := List.Sublist.refl _
  cases h with
  | insertQueue t irp hseq hlive => exact ho.insertQueue hs hseq
  | insertCancelled t irp hseq hlive =>
      exact ho.weaken hrefl (fun _ _ h => h) rfl (List.subset_append_left _ _)
  | cancelQueued irp hq =>
      exact ho.weaken (sublist_setQueue (s := s.setCancel irp.seq true)
        (ringCsqRemoveIrp_sublist _ _)) (fun _ _ h => h) rfl fun _ h => h
  | scanTake c d' ctx irp hpc hq hm =>
      exact ho.weaken (sublist_setQueue (ringCsqRemoveIrp_sublist _ _)) (fun _ _ h => h) rfl
        fun _ h => h
  | pollTake a d' irp rest hpc hq => exact ho.pollTake hq
  | pollCopy a d' irp shared' irp' n hpc hr hn hmove =>
      have hheld := hs.poll a
      rw [hpc] at hheld
      simp only [InTurn, hpc] at hturn
      rw [not_or] at hmove
      exact ho.pollCopy hs hpc (ringCopy_spec hheld.2 hr).1.seq hn (hturn hmove.1 hmove.2)
  | pollPutBack a d' irp hpc hc =>
      simp only [InTurn, hpc] at hturn
      exact ho.pollPutBack hpc (hturn rfl hc)
  -- the activation lets go of its request, or keeps the one it had
  | pollStart a hidle hlive =>
      exact ho.weaken hrefl (waiting_setPoll (by simp [PollPc.waiting])) rfl fun _ h => h
  | pollEnd a d' hpc hq =>
      exact ho.weaken hrefl (waiting_setPoll (by simp)) rfl fun _ h => h
  | pollBlocked a d' irp hpc hn =>
      exact ho.weaken hrefl (waiting_setPoll (by simp [PollPc.waiting, hpc])) rfl fun _ h => h
  | pollPutBackCancelled a d' irp hpc hc =>
      exact ho.weaken hrefl (waiting_setPoll (s := s.ringCsqCompleteCanceledIrp irp) (by simp)) rfl
        fun _ h => h
  | pollComplete a d' irp n hpc hn =>
      exact ho.weaken hrefl (waiting_setPoll
        (s := (s.addBytes d' n).ioCompleteRequest irp .success n) (by simp [PollPc.waiting])) rfl
        fun _ h => h
  | _ => exact ho.weaken hrefl (fun _ _ h => h) rfl fun _ h => h

end Order

theorem ordered_init (ι : Type) (shared : XenconsInterface) (d : MajorFunction) :
    Ordered (RingSys.init ι shared) d where
  queue := List.Pairwise.nil
  held _ _ h := by cases h
  transfers := List.Pairwise.nil
  behind _ h := absurd h List.not_mem_nil
  before _ h := absurd h List.not_mem_nil
  record _ h := absurd h List.not_mem_nil

/-! ## 3. Runs -/

section Runs

variable [DecidableEq ι] {shared : XenconsInterface} {s : RingSys ι}

theorem reach_ordered (h : Reach (ringSystem ι) InTurn (RingSys.init ι shared) s)
    (d : MajorFunction) : Ordered s d :=
  (h.ringInvariant (I := fun s => Sound s ∧ Ordered s d) (allPending_init ι shared)
    ⟨sound_init ι shared, ordered_init ι shared d⟩
    fun _ _ _ hs hl hm => ⟨hm.sound hs.1, hm.ordered hs.1 hs.2 hl⟩).2

/-- **In turn, requests are served in queueing order**: with any number of activations, as long as
    none of them overtakes another with a copy or a re-insertion. -/
theorem inOrder_of_inTurn (h : Reach (ringSystem ι) InTurn (RingSys.init ι shared) s) :
    ∀ d, InOrder s d :=
  fun d => (reach_ordered h d).inOrder (reach_sound h)

end Runs

/-- Two writes, and two activations that each take one off. -/
def twoTaken : List (RingLabel Nat) :=
  [.insert 0 (.oneByte 0 .write 7 65) false, .insert 1 (.oneByte 1 .write 7 66) false,
    .pollStart 0, .pollStep 0, .pollStep 0, .pollStart 1, .pollStep 1, .pollStep 1]

theorem inOrder_of_inTurn_twoTaken : InOrder (runs (ringSystem Nat) (RingSys.init Nat .zero)
    (twoTaken ++ [.pollStep 0, .pollStep 1])) .write := by
  have hreach : Reach (ringSystem Nat) InTurn (RingSys.init Nat .zero) (runs (ringSystem Nat)
      (RingSys.init Nat .zero) (twoTaken ++ [.pollStep 0, .pollStep 1])) := by
    refine .of_admits _ .start ⟨⟨rfl, rfl, rfl⟩, trivial, ⟨rfl, rfl, rfl⟩, trivial,
      ⟨rfl, rfl⟩, trivial, nofun, trivial, nofun, trivial, ⟨rfl, rfl⟩, trivial, nofun, trivial,
      nofun, trivial, nofun, fun _ _ b hb irp' hirp' => ?_, nofun, fun _ _ b hb irp' hirp' => ?_,
      trivial⟩
    · rcases b with _ | _ | b
      · exact absurd rfl hb
      · cases hirp'
        exact Nat.zero_lt_one
      · cases hirp'
    · rcases b with _ | _ | b
      · cases hirp'
      · exact absurd rfl hb
      · cases hirp'
  exact inOrder_of_inTurn hreach .write

/-- The second activation copies first: the backend gets the second write before the first. -/
theorem two_polls_overtake : ¬∀ s : RingSys Nat,
    Reach (ringSystem Nat) (fun _ _ => True) (RingSys.init Nat .zero) s → ∀ d, InOrder s d := by
  intro hall
  have hreach : Reach (ringSystem Nat) (fun _ _ => True) (RingSys.init Nat .zero)
      (runs (ringSystem Nat) (RingSys.init Nat .zero)
        (twoTaken ++ [.pollStep 1, .pollStep 0])) :=
    .of_admits _ .start ⟨⟨rfl, rfl, rfl⟩, trivial, ⟨rfl, rfl, rfl⟩, trivial, ⟨rfl, rfl⟩, trivial,
      nofun, trivial, nofun, trivial, ⟨rfl, rfl⟩, trivial, nofun, trivial, nofun, trivial, nofun,
      trivial, nofun, trivial, trivial⟩
  have hbytes := (hall _ hreach .write).bytes
  exact absurd hbytes (by decide)

end Xencons
