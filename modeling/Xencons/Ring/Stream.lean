import Xencons.Ring.Order

/-!
# The rings as byte streams

One activation at a time, and a backend that keeps the protocol: then `out` carries what the
completed writes reported, `in` what the completed reads returned, in queueing order and without
loss, for any start of the indices.

* `Flow`, `Move.flow` -- the page against the transfers: what is in the rings, what the backend has
  had and what the copies have moved;
* `Accounted`, `Move.accounted` -- the transfers against the completions, with at most one transfer
  that waits for its completion (`inFlight`);
* `ring_streams` -- the two streams.
-/

namespace Xencons

open Lib Function RingSys

/-! ## 1. The page and the transfers -/

section Page

variable {ι : Type} {s s' : RingSys ι} {l : RingLabel ι}

/-- A backend that obeys the ring protocol writes nothing but its own indices and `in`. -/
def KeepsProtocol (_ : RingSys ι) : RingLabel ι → Prop
  | .scribble _ => False
  | _ => True

/-- What the backend took from `out` and what is left there is what the writes put in; what the
    reads took from `in` and what is left there is what the backend put in. -/
structure Flow (s : RingSys ι) : Prop where
  legal : s.shared.Legal
  out : s.consumed ++ s.shared.outBytes = (s.transfers .write).flatMap Transfer.bytes
  taken : (s.transfers .read).flatMap Transfer.bytes ++ s.shared.inBytes = s.produced

variable [DecidableEq ι]

theorem Flow.pollCopy (hf : Flow s) {a : ι} {d : MajorFunction} {irp irp' : Irp}
    {shared' : XenconsInterface} {n : ULONG} (hr : ringCopy d s.shared irp = (shared', irp', n)) :
    Flow (s.transfer a d shared' irp' n) := by
  cases d with
  | read =>
      cases hc : ringCopyFromRead s.shared irp.systemBuffer irp.length with
      | mk shared₁ r =>
          obtain ⟨data, n₁⟩ := r
          simp only [ringCopy, hc, Prod.mk.injEq] at hr
          obtain ⟨rfl, rfl, rfl⟩ := hr
          obtain ⟨-, hin, hout, hlegal⟩ := ringCopyFromRead_stream hf.legal irp.size hc
          refine ⟨hlegal, ?_, ?_⟩
          · simpa [hout] using hf.out
          · have htaken := hf.taken
            rw [hin, ← List.append_assoc] at htaken
            simpa [Transfer.bytes, Irp.setBuffer] using htaken
  | write =>
      cases hc : ringCopyToWrite s.shared irp.systemBuffer irp.length with
      | mk shared₁ n₁ =>
          simp only [ringCopy, hc, Prod.mk.injEq] at hr
          obtain ⟨rfl, rfl, rfl⟩ := hr
          obtain ⟨-, hout, hin, hlegal⟩ := ringCopyToWrite_stream hf.legal irp.size hc
          refine ⟨hlegal, ?_, ?_⟩
          · simp [hout, ← hf.out, Transfer.bytes]
          · simpa [hin] using hf.taken

/-- **Every step of a ring whose backend keeps the protocol keeps the streams.** -/
theorem Move.flow (hf : Flow s) (hk : KeepsProtocol s l) (h : Move s l s') : Flow s' := by
  cases h with
  | pollCopy a d irp shared' irp' n hpc hr hn hmove => exact hf.pollCopy hr
  | produce b hroom =>
      obtain ⟨hin, hout, hlegal⟩ := produce_stream hf.legal b hroom
      refine ⟨hlegal, by simpa only [hout] using hf.out, ?_⟩
      simp only [hin, ← hf.taken, List.append_assoc]
  | consume hne =>
      obtain ⟨hout, hin, hlegal⟩ := consume_stream hf.legal hne
      refine ⟨hlegal, ?_, by simpa only [hin] using hf.taken⟩
      simp only [← hf.out, hout, List.append_assoc, List.singleton_append]
  | scribble shared' => exact hk.elim
  | _ => exact ⟨hf.legal, hf.out, hf.taken⟩

end Page

/-- An empty ring, wherever its indices start. -/
theorem flow_init (ι : Type) {shared : XenconsInterface} (hout : shared.outProd = shared.outCons)
    (hin : shared.inProd = shared.inCons) : Flow (RingSys.init ι shared) := by
  have hused : shared.outUsed = 0 := by simp [XenconsInterface.outUsed, hout]
  have havail : shared.inAvail = 0 := by simp [XenconsInterface.inAvail, hin]
  have hob : shared.outBytes = [] := List.eq_nil_of_length_eq_zero (by simp [hused])
  have hib : shared.inBytes = [] := List.eq_nil_of_length_eq_zero (by simp [havail])
  exact ⟨⟨by simp [init, havail], by simp [init, hused]⟩, by simp [init, hob], by simp [init, hib]⟩

/-! ## 2. The transfers and the completions -/

section Single

variable {s s' : RingSys Unit} {l : RingLabel Unit} {d : MajorFunction}

/-- The transfer of queue `d` that the activation has made and not yet completed. -/
def PollPc.inFlight (d : MajorFunction) : PollPc → List Transfer
  | .idle | .dequeue _ | .copy _ _ => []
  | .copied d' irp n => if d' = d ∧ n ≠ 0 then [⟨irp, n⟩] else []

/-- The successful completions of queue `d`, as transfers. -/
def RingSys.served (s : RingSys Unit) (d : MajorFunction) : List Completion :=
  s.completed.filter fun c => c.status = .success ∧ c.irp.major = d

/-- What a completion reports to have moved. -/
def Completion.transfer (c : Completion) : Transfer := ⟨c.irp, c.information⟩

/-- The bytes the successful completions of queue `d` report, request by request in queueing
    order. -/
def RingSys.successBytes (s : RingSys Unit) (d : MajorFunction) : List UInt8 :=
  (s.queued.filter fun irp => irp.major = d).flatMap fun irp =>
    (s.completed.filter fun c => c.status = .success ∧ c.irp.seq = irp.seq).flatMap fun c =>
      c.irp.systemBuffer.take c.information.toNat

/-- The bytes of the copy that waits for its completion: none outside that moment. -/
def RingSys.inFlightBytes (s : RingSys Unit) (d : MajorFunction) : List UInt8 :=
  ((s.poll ()).inFlight d).flatMap Transfer.bytes

/-- What has been moved has been completed, but for the copy in flight. -/
def Accounted (s : RingSys Unit) : Prop :=
  ∀ d, s.transfers d = (s.served d).map Completion.transfer ++ (s.poll ()).inFlight d

theorem served_complete (irp : Irp) (status : NtStatus) (information : ULONG) :
    (s.ioCompleteRequest irp status information).served d = s.served d ++
      if status = .success ∧ irp.major = d then [⟨irp, status, information⟩] else [] := by
  by_cases h : status = .success ∧ irp.major = d
  · simp [RingSys.served, List.filter_append, h]
  · rw [if_neg h]
    simp only [RingSys.served, ioCompleteRequest_completed, List.filter_append, List.append_nil]
    rw [List.filter_cons_of_neg (by simpa using h)]
    simp

/-- A cancellation serves nobody. -/
@[simp] theorem served_cancelled (irp : Irp) (information : ULONG) :
    (s.ioCompleteRequest irp .cancelled information).served d = s.served d := by
  rw [served_complete]
  simp

/-- Steps that complete nothing successfully and have no copy in flight before or after. -/
theorem Accounted.keep (ha : Accounted s) (ht : s'.transfers = s.transfers)
    (hc : ∀ d, s'.served d = s.served d)
    (hp : ∀ d, (s'.poll ()).inFlight d = (s.poll ()).inFlight d) : Accounted s' := by
  intro d
  rw [ht, hc, hp]
  exact ha d

@[simp] theorem inFlight_idle (d : MajorFunction) : PollPc.idle.inFlight d = [] := rfl

@[simp] theorem inFlight_dequeue (d d' : MajorFunction) : (PollPc.dequeue d').inFlight d = [] := rfl

@[simp] theorem inFlight_copy (d d' : MajorFunction) (irp : Irp) :
    (PollPc.copy d' irp).inFlight d = [] := rfl

@[simp] theorem inFlight_pollNext (d d' : MajorFunction) : (pollNext d').inFlight d = [] := by
  cases d' <;> rfl

@[simp] theorem inFlight_copied_zero (d d' : MajorFunction) (irp : Irp) :
    (PollPc.copied d' irp 0#32).inFlight d = [] := by
  simp [PollPc.inFlight]

/-- **A copy goes into flight.** -/
theorem Accounted.pollCopy (ha : Accounted s) {a : Unit} {d' : MajorFunction} {irp irp' : Irp}
    {shared' : XenconsInterface} {n : ULONG} (hpc : s.poll a = .copy d' irp) (hn : n ≠ 0) :
    Accounted (s.transfer a d' shared' irp' n) := by
  intro d
  have had := ha d
  rw [hpc] at had
  have hserved : (s.transfer a d' shared' irp' n).served d = s.served d := rfl
  by_cases hd : d = d'
  · subst hd
    simp only [inFlight_copy, List.append_nil] at had
    simp [hserved, had, PollPc.inFlight]
    exact fun h0 => absurd h0 hn
  · simp [hserved, had, PollPc.inFlight, hd, Ne.symm hd]

/-- **The completion of a copy takes it out of flight.** -/
theorem Accounted.pollComplete (hs : Sound s) (ha : Accounted s) {a : Unit} {d' : MajorFunction}
    {irp : Irp} {n : ULONG} (hpc : s.poll a = .copied d' irp n) (hn : n ≠ 0) :
    Accounted (((s.addBytes d' n).ioCompleteRequest irp .success n).setPoll a (.dequeue d')) := by
  intro d
  have had := ha d
  have hheld := hs.poll a
  rw [hpc] at had hheld
  obtain ⟨⟨irp₀, -, hsame, hmaj₀⟩, -, -⟩ := hheld
  have hmaj : irp.major = d' := hsame.major.trans hmaj₀
  have hserved : (((s.addBytes d' n).ioCompleteRequest irp .success n).setPoll a
      (.dequeue d')).served d = s.served d ++ if d' = d then [⟨irp, .success, n⟩] else [] := by
    have hc := served_complete (s := s.addBytes d' n) (d := d) irp .success n
    simp only [true_and, hmaj] at hc
    exact hc
  rw [hserved]
  by_cases hd : d' = d
  · simp [had, PollPc.inFlight, hd, Completion.transfer]
    exact fun h0 => absurd h0 hn
  · simp [had, PollPc.inFlight, hd]

/-- **Every step keeps the account.** -/
theorem Move.accounted (hs : Sound s) (ha : Accounted s) (h : Move s l s') : Accounted s' := by
  cases h with
  | pollCopy a d' irp shared' irp' n hpc hr hn hmove => exact ha.pollCopy hpc hn
  | pollComplete a d' irp n hpc hn => exact ha.pollComplete hs hpc hn
  | pollStart a hidle hlive =>
      exact ha.keep rfl (fun _ => rfl) fun d => by simp [hidle]
  | pollEnd a d' hpc hq =>
      exact ha.keep rfl (fun _ => rfl) fun d => by simp [hpc]
  | pollTake a d' irp rest hpc hq =>
      exact ha.keep rfl (fun _ => rfl) fun d => by simp [hpc]
  | pollBlocked a d' irp hpc hn =>
      exact ha.keep rfl (fun _ => rfl) fun d => by simp [hpc]
  | pollPutBack a d' irp hpc hc =>
      exact ha.keep rfl (fun _ => rfl) fun d => by simp [hpc]
  | pollPutBackCancelled a d' irp hpc hc =>
      exact ha.keep rfl (fun _ => served_cancelled irp 0) fun d => by simp [hpc]
  | insertCancelled t irp hseq hlive | cancelQueued irp hq =>
      exact ha.keep rfl (fun _ => served_cancelled irp 0) fun _ => rfl
  | scanComplete c d' ctx irp hpc =>
      exact ha.keep rfl (fun _ => served_cancelled irp 0) fun _ => rfl
  | _ => exact ha

theorem accounted_init (shared : XenconsInterface) : Accounted (RingSys.init Unit shared) :=
  fun _ => rfl

/-! ## 3. Runs -/

/-- Activations that do not overlap never overtake each other. -/
theorem inTurn_single (s : RingSys Unit) (l : RingLabel Unit) : InTurn s l := by
  cases l with
  | pollStep a =>
      show (s.poll a).InTurn s a
      cases s.poll a with
      | idle | dequeue d => trivial
      | copy d irp => exact fun _ _ b hb => absurd rfl hb
      | copied d irp n => exact fun _ _ b hb => absurd rfl hb
  | _ => trivial

variable {shared : XenconsInterface}

theorem reach_flow {ι : Type} [DecidableEq ι] {s : RingSys ι}
    (hout : shared.outProd = shared.outCons) (hin : shared.inProd = shared.inCons)
    (h : Reach (ringSystem ι) KeepsProtocol (RingSys.init ι shared) s) : Flow s :=
  h.ringInvariant (allPending_init ι shared) (flow_init ι hout hin)
    fun _ _ _ hf hk hm => hm.flow hf hk

theorem reach_accounted {P : RingSys Unit → RingLabel Unit → Prop}
    (h : Reach (ringSystem Unit) P (RingSys.init Unit shared) s) : Accounted s :=
  (h.ringInvariant (I := fun s => Sound s ∧ Accounted s) (allPending_init Unit shared)
    ⟨sound_init Unit shared, accounted_init shared⟩
    fun _ _ _ hs _ hm => ⟨hm.sound hs.1, hm.accounted hs.1 hs.2⟩).2

/-- A successful completion of a request of queue `d` is one of the queue's. -/
theorem Sound.filter_served (hs : Sound s) {irp : Irp} (hmem : irp ∈ s.queued)
    (hmaj : irp.major = d) :
    (s.served d).filter (fun c => c.irp.seq = irp.seq) =
      s.completed.filter fun c => c.status = .success ∧ c.irp.seq = irp.seq := by
  rw [RingSys.served, List.filter_filter]
  refine List.filter_congr fun c hc => ?_
  simp only [decide_eq_decide, ← Bool.decide_and]
  refine ⟨fun h => ⟨h.2.1, h.1⟩, fun h => ⟨h.2, h.1, ?_⟩⟩
  rcases hs.completed c hc with ⟨-, -, -, irp₀, hmem₀, hsame⟩ | ⟨hst, -⟩
  · rw [hsame.major, hs.eq_of_seq hmem₀ hmem (hsame.seq.symm.trans h.2)]
    exact hmaj
  · rw [hst] at h
    cases h.1

/-- **The transfers of a queue, read off the completions**, but for the one in flight. -/
theorem transfers_eq_success (hs : Sound s) (ho : Ordered s d) (ha : Accounted s) :
    (s.transfers d).flatMap Transfer.bytes = s.successBytes d ++ s.inFlightBytes d := by
  have hkeys : ((s.queued.filter fun irp => irp.major = d).map Irp.seq).Pairwise (· < ·) := by
    refine List.Pairwise.sublist ((List.filter_sublist (l := s.queued)).map Irp.seq) ?_
    rw [hs.seqs]
    exact List.pairwise_lt_range
  have hsorted : ((s.served d).map fun c => c.irp.seq).Pairwise (· < ·) := by
    have hall := ho.transfers
    rw [ha d, List.map_append, List.map_map] at hall
    exact (List.pairwise_append.mp hall).1
  have hkey : ∀ c ∈ s.served d, ∃ irp ∈ s.queued.filter (fun irp => irp.major = d),
      irp.seq = c.irp.seq := by
    intro c hc
    have hmem : c.transfer ∈ s.transfers d := by
      rw [ha d]
      exact List.mem_append_left _ (List.mem_map_of_mem hc)
    obtain ⟨irp, hirp, hmaj, hseq⟩ := ho.record _ hmem
    exact ⟨irp, List.mem_filter.mpr ⟨hirp, by simpa using hmaj⟩, hseq⟩
  have hread := flatMap_filter_key (f := fun c : Completion => c.transfer.bytes) hkeys hsorted hkey
  calc (s.transfers d).flatMap Transfer.bytes
      = (s.served d).flatMap (fun c => c.transfer.bytes) ++ s.inFlightBytes d := by
        rw [ha d, List.flatMap_append, List.flatMap_map]
        rfl
    _ = s.successBytes d ++ s.inFlightBytes d := by
        rw [← hread]
        congr 1
        refine List.flatMap_congr fun irp hirp => ?_
        obtain ⟨hmem, hmaj⟩ := List.mem_filter.mp hirp
        rw [hs.filter_served hmem (by simpa using hmaj)]
        rfl

/-- **A cancelled request has moved nothing.** -/
theorem cancelled_untouched (hp : Placement s) (ha : Accounted s) {c : Completion}
    (hc : c ∈ s.completed) (hst : c.status = .cancelled) {t : Transfer}
    (ht : t ∈ s.transfers d) : t.irp.seq ≠ c.irp.seq := by
  intro he
  have hcompleted : c.irp.seq ∈ (s.contents .completed).map Irp.seq := by
    simpa using ⟨c, hc, rfl⟩
  rw [ha d] at ht
  rcases List.mem_append.mp ht with ht | ht
  · -- it would have been completed twice
    obtain ⟨c', hc', rfl⟩ := List.mem_map.mp ht
    obtain ⟨hmem', hst'⟩ := List.mem_filter.mp hc'
    have hnodup : (s.completed.map fun c => c.irp.seq).Nodup := by
      have h := hp.nodup .completed
      rwa [contents_completed, List.map_map] at h
    have heq : c' = c := List.inj_on_of_nodup_map hnodup hmem' hc he
    subst heq
    simp [hst] at hst'
  · -- it would be completed and held
    cases hpoll : s.poll () with
    | copied d' irp n =>
        rw [hpoll] at ht
        by_cases hin : d' = d ∧ n ≠ 0
        · rw [PollPc.inFlight, if_pos hin, List.mem_singleton] at ht
          have hheld : c.irp.seq ∈ (s.contents (.poll ())).map Irp.seq := by
            rw [← he, ht]
            simp [hpoll]
          have hplace := hp.apart _ _ _ hcompleted hheld
          cases hplace
        · rw [PollPc.inFlight, if_neg hin] at ht
          exact absurd ht List.not_mem_nil
    | idle | dequeue d' | copy d' irp =>
        rw [hpoll] at ht
        exact absurd ht List.not_mem_nil

end Single

/-- **The rings are loss-free FIFO byte streams.** From an empty ring with any indices, with polls
    that do not overlap and a backend that keeps the protocol, in every state of every run: what the
    backend has consumed, and then what is in `out`, is what the successful writes report, in
    queueing order; what the successful reads returned, in queueing order, and then what is in `in`,
    is what the backend produced (in both, the copy that an activation has made and not yet
    completed comes behind the completed ones); and a cancelled request has neither moved nor
    received a byte. -/
theorem ring_streams {shared : XenconsInterface} {s : RingSys Unit}
    (hout : shared.outProd = shared.outCons) (hin : shared.inProd = shared.inCons)
    (h : Reach (ringSystem Unit) KeepsProtocol (RingSys.init Unit shared) s) :
    s.consumed ++ s.shared.outBytes = s.successBytes .write ++ s.inFlightBytes .write ∧
    s.successBytes .read ++ s.inFlightBytes .read ++ s.shared.inBytes = s.produced ∧
    ∀ c ∈ s.completed, c.status = .cancelled → c.information = 0 ∧ c.irp ∈ s.queued ∧
      ∀ d, ∀ t ∈ s.transfers d, t.irp.seq ≠ c.irp.seq := by
  have hs := reach_sound h
  have hf := reach_flow hout hin h
  have ha := reach_accounted h
  have ho := reach_ordered (h.mono fun s l _ => inTurn_single s l)
  refine ⟨?_, ?_, fun c hc hst => ?_⟩
  · rw [hf.out, transfers_eq_success hs (ho .write) ha]
  · rw [← transfers_eq_success hs (ho .read) ha, hf.taken]
  · have hsound := hs.completed c hc
    rw [Completion.Sound, hst] at hsound
    obtain ⟨-, hi, hmem⟩ : NtStatus.cancelled = .cancelled ∧ c.information = 0 ∧ c.irp ∈ s.queued :=
      hsound.resolve_left nofun
    exact ⟨hi, hmem, fun d t ht => cancelled_untouched (reach_placed h) ha hc hst ht⟩

/-- A write, a byte for a read, one poll that serves both, and the backend's turn: with indices
    that wrap. -/
def serveRun : List (RingLabel Unit) :=
  [.insert 0 (.oneByte 0 .write 7 65) false, .produce 90, .insert 1 (.oneByte 1 .read 7 0) false,
    .pollStart (), .pollStep (), .pollStep (), .pollStep (), .pollStep (), .pollStep (),
    .pollStep (), .pollStep (), .consume]

/-- An empty ring whose indices are about to wrap. -/
def wrappingPage : XenconsInterface :=
  { XenconsInterface.zero with
    inCons := 0xFFFFFFFF, inProd := 0xFFFFFFFF, outCons := 0xFFFFFFFF, outProd := 0xFFFFFFFF }

theorem ring_streams_serveRun :
    (runs (ringSystem Unit) (RingSys.init Unit wrappingPage) serveRun).successBytes .read ++
        (runs (ringSystem Unit) (RingSys.init Unit wrappingPage) serveRun).inFlightBytes .read ++
        (runs (ringSystem Unit) (RingSys.init Unit wrappingPage) serveRun).shared.inBytes =
      (runs (ringSystem Unit) (RingSys.init Unit wrappingPage) serveRun).produced := by
  have hreach : Reach (ringSystem Unit) KeepsProtocol (RingSys.init Unit wrappingPage)
      (runs (ringSystem Unit) (RingSys.init Unit wrappingPage) serveRun) :=
    .of_admits _ .start ⟨⟨rfl, rfl, rfl⟩, trivial, Nat.le_of_ble_eq_true rfl, trivial,
      ⟨rfl, rfl, rfl⟩, trivial,
      ⟨rfl, rfl⟩, trivial, nofun, trivial, nofun, trivial, nofun, trivial, nofun, trivial, nofun,
      trivial, nofun, trivial, nofun, trivial,
      fun h => absurd (congrArg BitVec.toNat h) (by decide), trivial, trivial⟩
  exact (ring_streams rfl rfl hreach).2.1

end Xencons
