import Xencons.Monitor.Broadcast
import Xencons.Ring.OneAtATime

/-!
# Between the backend and the clients (ring.c, monitor.c)

The reads of `DeviceThread` are read requests on the ring, and what one is completed with is the
packet that it puts out to the clients. What a client writes, its `ConnectionThread` puts out on the
device: each `WriteFile` is a write request, one at a time for all of the clients, since they share
`DeviceHandle`, which is synchronous. Here all of it runs together, with anybody else who has the
console open.

* `EndToEnd`, `endToEndSystem` -- the ring, the thread that listens to it, the threads that write to
  it, and the steps that they take together;
* `OnlyReader` -- nobody else reads; `Inwards`, `inwards_next`: the completed reads are the packets;
* `NothingFails` -- messages fit, and no write of the monitor fails; `Outwards`, `outwards_next`: the
  completed writes of a client are what its thread has written;
* **`backend_to_clients`**, **`clients_to_backend`** -- the results.
-/

namespace Xencons.Monitor

open Lib Function

/-! ## 1. The machines together -/

structure EndToEnd where
  ring : RingSys Unit
  monitor : Broadcast
  /-- the requests that `DeviceThread` reads with, and the one of them that is under way -/
  reads : Nat → Bool
  reading : Option Nat
  /-- the `ConnectionThread` of each client -/
  relay : Nat → Relay
  /-- whose request it is, and who writes with which -/
  writes : Nat → Option Nat
  writing : Option (Nat × Nat)

inductive EndToEndLabel where
  /-- the ring, the backend, and everybody else who has the console open -/
  | ring (l : RingLabel Unit)
  /-- the monitor, but for the calls below -/
  | monitor (l : BroadcastLabel)
  | relay (c : Nat) (l : RelayLabel)
  /-- `ReadFile`, and `GetOverlappedResult` -/
  | readFile (t : Nat) (irp : Irp) (cancelled : Bool)
  | overlapped (c : Completion)
  /-- `WriteFile` is called for client `c`, and returns -/
  | writeFile (c : Nat) (t : Nat) (irp : Irp) (cancelled : Bool)
  | written (c : Completion)

/-- What the monitor does as to its reads. -/
def BroadcastLabel.isRead : BroadcastLabel → Bool
  | .readFile | .overlapped _ => true
  | _ => false

def RelayLabel.isWrite : RelayLabel → Bool
  | .writeFile _ => true
  | _ => false

/-- What `GetOverlappedResult` says of a completion. -/
def readResult (c : Completion) : ReadResult :=
  if c.status = .success then .data c.transfer.bytes else .failed

/-- `PutString` behind a `WriteFile`: one that has failed ends it. -/
def Relay.wrote (s : Relay) (c : Completion) : Relay :=
  if c.status = .success then relayNext s (.writeFile c.information.toNat)
  else { s with pc := .readFile }

def endToEndEnabled (s : EndToEnd) : EndToEndLabel → Prop
  | .ring l => ringEnabled s.ring l
  | .monitor l => l.isRead = false ∧ broadcastSystem.enabled s.monitor l
  | .relay c l => l.isWrite = false ∧ relaySystem.enabled (s.relay c) l
  | .readFile t irp cancelled => s.monitor.pc = .readFile ∧
      ringEnabled s.ring (.insert t irp cancelled) ∧ irp.major = .read ∧
      irp.length.toNat = MAXIMUM_BUFFER_SIZE
  | .overlapped c => s.monitor.pc = .wait ∧ c ∈ s.ring.completed ∧ s.reading = some c.irp.seq
  | .writeFile c t irp cancelled => s.writing = none ∧
      (s.relay c).pc = .putString irp.systemBuffer ∧
      ringEnabled s.ring (.insert t irp cancelled) ∧ irp.major = .write
  | .written c => c ∈ s.ring.completed ∧ s.writing.map Prod.snd = some c.irp.seq

def endToEndNext (s : EndToEnd) : EndToEndLabel → EndToEnd
  | .ring l => { s with ring := ringNext s.ring l }
  | .monitor l => { s with monitor := broadcastNext s.monitor l }
  | .relay c l => { s with relay := update s.relay c (relayNext (s.relay c) l) }
  | .readFile t irp cancelled =>
    { s with
      ring := ringNext s.ring (.insert t irp cancelled)
      monitor := broadcastNext s.monitor .readFile
      reads := fun q => s.reads q || q == irp.seq
      reading := some irp.seq }
  | .overlapped c =>
    { s with monitor := broadcastNext s.monitor (.overlapped (readResult c)), reading := none }
  | .writeFile c t irp cancelled =>
    { s with
      ring := ringNext s.ring (.insert t irp cancelled)
      writes := update s.writes irp.seq (some c)
      writing := some (c, irp.seq) }
  | .written c =>
    match s.writing with
    | some (i, _) =>
      { s with relay := update s.relay i ((s.relay i).wrote c), writing := none }
    | none => s

/-- **The console, from the backend to the clients and back.** -/
def endToEndSystem : System EndToEnd EndToEndLabel where
  enabled := endToEndEnabled
  next := endToEndNext

def EndToEnd.init (shared : XenconsInterface) : EndToEnd where
  ring := .init Unit shared
  monitor := .init
  reads _ := false
  reading := none
  relay _ := .init
  writes _ := none
  writing := none

/-- Nobody else reads from the console, and the backend keeps the protocol. -/
def OnlyReader (s : EndToEnd) : EndToEndLabel → Prop
  | .ring l => KeepsProtocol s.ring l ∧ ∀ irp ∈ inserted l, irp.major = .write
  | _ => True

section Projections

variable {s : EndToEnd} {shared : XenconsInterface}

/-- **The ring takes its own steps.** -/
theorem reach_ring {P : EndToEnd → EndToEndLabel → Prop}
    (hP : ∀ s l, P s (.ring l) → KeepsProtocol s.ring l)
    (h : Reach endToEndSystem P (.init shared) s) :
    Reach (ringSystem Unit) KeepsProtocol (RingSys.init Unit shared) s.ring := by
  induction h with
  | start => exact .start
  | step l _ he hp ih =>
      cases l with
      | ring l => exact .step (S := ringSystem Unit) l ih he (hP _ l hp)
      | readFile t irp cancelled => exact .step (S := ringSystem Unit) _ ih he.2.1 trivial
      | writeFile c t irp cancelled => exact .step (S := ringSystem Unit) _ ih he.2.2.1 trivial
      | written c =>
          simp only [endToEndSystem, endToEndNext]
          split <;> exact ih
      | monitor l | relay c l | overlapped c => exact ih

/-- What has been read and is not being put out yet. -/
def BroadcastPc.inHand : BroadcastPc → List (List Byte)
  | .enter packet => [packet]
  | _ => []

@[simp] theorem putString_inHand (packet : List Byte) (c offset : Nat) (rest : List Nat) :
    (Broadcast.putString packet c offset rest).inHand = [] := by
  unfold Broadcast.putString
  split <;> rfl

/-- The packets that the thread has read. -/
def Broadcast.got (m : Broadcast) : List (List Byte) := m.packets ++ m.pc.inHand

/-- Only a read changes what has been read. -/
theorem got_next {m : Broadcast} {l : BroadcastLabel} (hl : l.isRead = false)
    (he : broadcastSystem.enabled m l) : (broadcastNext m l).got = m.got := by
  have henabled : broadcastEnabled m l = true := he
  unfold Broadcast.got
  cases l with
  | readFile | overlapped r => cases hl
  | createFile granted =>
      have hpc : m.pc = .start := by simpa [broadcastEnabled] using henabled
      cases granted <;> simp [broadcastNext, BroadcastPc.inHand, hpc]
  | deviceEvent =>
      have hpc : m.pc = .wait := by simpa [broadcastEnabled] using henabled
      simp [broadcastNext, BroadcastPc.inHand, hpc]
  | enterCriticalSection =>
      cases hpc : m.pc <;> simp [broadcastEnabled, hpc] at henabled
      simp [broadcastNext, BroadcastPc.inHand, hpc]
  | next =>
      cases hpc : m.pc <;> simp [broadcastEnabled, hpc] at henabled
      rename_i packet rest
      cases rest with
      | nil => simp [broadcastNext, BroadcastPc.inHand, hpc]
      | cons c rest =>
          simp only [broadcastNext, hpc, Broadcast.setPc_pc, Broadcast.setPc_packets,
            putString_inHand]
          rfl
  | writeFile written =>
      cases hpc : m.pc <;> simp [broadcastEnabled, hpc] at henabled
      rename_i packet c offset rest
      cases written with
      | none => simp [broadcastNext, Broadcast.writeFile, BroadcastPc.inHand, hpc]
      | some n =>
          simp only [broadcastNext, Broadcast.writeFile, hpc, Broadcast.setPc_pc,
            Broadcast.setPc_packets, Broadcast.setListener_packets, putString_inHand]
          rfl
  | insertTailList c | removeEntryList c => rfl

/-- A thread that waits for a read goes on waiting, or ends. -/
theorem waiting_next {m : Broadcast} {l : BroadcastLabel} (hl : l.isRead = false)
    (he : broadcastSystem.enabled m l) (h : m.pc = .wait ∨ m.pc = .ended) :
    (broadcastNext m l).pc = .wait ∨ (broadcastNext m l).pc = .ended := by
  have henabled : broadcastEnabled m l = true := he
  cases l with
  | readFile | overlapped r => cases hl
  | deviceEvent => exact .inr rfl
  | insertTailList c | removeEntryList c => exact h
  | createFile granted | enterCriticalSection | next | writeFile written =>
      rcases h with h | h <;> simp [broadcastEnabled, h] at henabled

end Projections

/-! ## 2. Inwards -/

/-- The bytes that completions report. -/
def bytesOf (cs : List Completion) : List Byte := cs.flatMap fun c => c.transfer.bytes

/-- **What the reads of `DeviceThread` have been completed with are the packets.** -/
structure Inwards (s : EndToEnd) : Prop where
  only : ∀ irp ∈ s.ring.queued, irp.major = .read → s.reads irp.seq = true
  length : ∀ irp ∈ s.ring.queued, s.reads irp.seq = true → irp.length.toNat = MAXIMUM_BUFFER_SIZE
  waiting : s.reading ≠ none → s.monitor.pc = .wait ∨ s.monitor.pc = .ended
  packets : ∃ done, OneAtATime .read s.ring s.reads s.reading done ∧
    done.map (fun c => c.transfer.bytes) = s.monitor.got

theorem inwards_init (shared : XenconsInterface) : Inwards (.init shared) where
  only _ h := absurd h List.not_mem_nil
  length _ h := absurd h List.not_mem_nil
  waiting h := absurd rfl h
  packets := ⟨[], .init _ _, rfl⟩

section Inwards

variable {s : EndToEnd} {shared : XenconsInterface}

/-- **A step of the ring by itself**, whoever takes it, if it puts no read there. -/
theorem Inwards.ring (h : Inwards s) (hf : RingFacts s.ring) {l : RingLabel Unit}
    (he : ringEnabled s.ring l) (hl : ∀ irp ∈ inserted l, irp.major = .write) :
    Inwards { s with ring := ringNext s.ring l } := by
  obtain ⟨-, hqueued⟩ := move_grows (hf.move he)
  obtain ⟨done, hone, hgot⟩ := h.packets
  refine ⟨fun irp hirp hread => ?_, fun irp hirp hmine => ?_, h.waiting, done, hone.ring hf he, hgot⟩
  · have hirp' : irp ∈ s.ring.queued ++ inserted l := hqueued ▸ hirp
    rcases List.mem_append.mp hirp' with hirp' | hirp'
    · exact h.only irp hirp' hread
    · rw [hl irp hirp'] at hread
      cases hread
  · have hirp' : irp ∈ s.ring.queued ++ inserted l := hqueued ▸ hirp
    rcases List.mem_append.mp hirp' with hirp' | hirp'
    · exact h.length irp hirp' hmine
    · -- its number is a new one
      have hlt := hone.bound _ hmine
      cases l with
      | insert t irp' cancelled =>
          obtain rfl := List.mem_singleton.mp hirp'
          have hseq : irp.seq = s.ring.queued.length := he.2.1
          omega
      | _ => exact absurd hirp' List.not_mem_nil

/-- **`ReadFile`.** -/
theorem Inwards.readFile (h : Inwards s) (hf : RingFacts s.ring) {t : Nat} {irp : Irp}
    {cancelled : Bool} (he : endToEndEnabled s (.readFile t irp cancelled)) :
    Inwards (endToEndNext s (.readFile t irp cancelled)) := by
  obtain ⟨hpc, henabled, hread, hlength⟩ := he
  have hnone : s.reading = none := by
    by_contra hne
    rcases h.waiting hne with hwait | hwait <;> rw [hpc] at hwait <;> cases hwait
  obtain ⟨-, hqueued⟩ := move_grows (hf.move henabled)
  have hseq : irp.seq = s.ring.queued.length := henabled.2.1
  obtain ⟨done, hone, hgot⟩ := h.packets
  rw [hnone] at hone
  refine ⟨fun irp' hirp' hread' => ?_, fun irp' hirp' hmine => ?_, fun _ => .inl rfl, done,
    hone.insert hf henabled hread, ?_⟩
  · have hmem : irp' ∈ s.ring.queued ++ [irp] := hqueued ▸ hirp'
    rcases List.mem_append.mp hmem with hmem | hmem
    · simp [endToEndNext, h.only irp' hmem hread']
    · obtain rfl := List.mem_singleton.mp hmem
      simp [endToEndNext]
  · have hmem : irp' ∈ s.ring.queued ++ [irp] := hqueued ▸ hirp'
    rcases List.mem_append.mp hmem with hmem | hmem
    · have hne : irp'.seq ≠ irp.seq := by
        have := hf.seq_lt hmem
        omega
      exact h.length irp' hmem (by simpa [endToEndNext, hne] using hmine)
    · obtain rfl := List.mem_singleton.mp hmem
      exact hlength
  · rw [hgot, Broadcast.got, hpc]
    rfl

/-- **`GetOverlappedResult`**: what the read has been completed with is the next packet. -/
theorem Inwards.overlapped (h : Inwards s) (hf : RingFacts s.ring) {c : Completion}
    (he : endToEndEnabled s (.overlapped c)) : Inwards (endToEndNext s (.overlapped c)) := by
  obtain ⟨hpc, hc, hreading⟩ := he
  obtain ⟨done, hone, hgot⟩ := h.packets
  refine ⟨h.only, h.length, fun hne => absurd rfl hne, _, hone.take hf hc hreading, ?_⟩
  rw [List.map_append, hgot]
  by_cases hsuccess : c.status = .success
  · simp [endToEndNext, Broadcast.got, readResult, hsuccess, broadcastNext, BroadcastPc.inHand, hpc]
  · simp [endToEndNext, Broadcast.got, readResult, hsuccess, broadcastNext, BroadcastPc.inHand, hpc]

theorem inwards_next (h : Inwards s) (hf : RingFacts s.ring) {l : EndToEndLabel}
    (he : endToEndSystem.enabled s l) (hl : OnlyReader s l) : Inwards (endToEndSystem.next s l) := by
  cases l with
  | ring l => exact h.ring hf he hl.2
  | monitor l =>
      obtain ⟨done, hone, hgot⟩ := h.packets
      exact ⟨h.only, h.length, fun hne => waiting_next he.1 he.2 (h.waiting hne), done, hone,
        hgot.trans (got_next he.1 he.2).symm⟩
  | relay c l => exact ⟨h.only, h.length, h.waiting, h.packets⟩
  | readFile t irp cancelled => exact h.readFile hf he
  | overlapped c => exact h.overlapped hf he
  | writeFile c t irp cancelled =>
      have hwrite : ∀ irp' ∈ inserted (.insert t irp cancelled), irp'.major = .write :=
        fun irp' hirp' => List.mem_singleton.mp hirp' ▸ he.2.2.2
      have hring := h.ring hf he.2.2.1 hwrite
      exact ⟨hring.only, hring.length, hring.waiting, hring.packets⟩
  | written c =>
      simp only [endToEndSystem, endToEndNext]
      split
      · exact ⟨h.only, h.length, h.waiting, h.packets⟩
      · exact h

theorem onlyReader_ring (s : EndToEnd) (l : RingLabel Unit) (h : OnlyReader s (.ring l)) :
    KeepsProtocol s.ring l := h.1

theorem reach_inwards (h : Reach endToEndSystem OnlyReader (.init shared) s) : Inwards s :=
  h.invariant_using (fun _ h => reach_ringFacts (reach_ring onlyReader_ring h))
    (inwards_init shared) fun _ _ hf hr he hl => inwards_next hr hf he hl

/-- **A packet fits the buffer**, so the monitor's own machine takes the step. -/
theorem Inwards.fits (h : Inwards s) (hf : RingFacts s.ring) {c : Completion}
    (he : endToEndEnabled s (.overlapped c)) :
    broadcastSystem.enabled s.monitor (.overlapped (readResult c)) := by
  obtain ⟨hpc, hc, hreading⟩ := he
  show broadcastEnabled s.monitor (.overlapped (readResult c)) = true
  unfold readResult
  split
  · obtain ⟨irp, hirp, hsame⟩ := hf.request hc
    obtain ⟨done, hone, -⟩ := h.packets
    have hmine : s.reads irp.seq = true := hsame.seq ▸ hone.waits _ hreading
    have hlength : c.irp.systemBuffer.length = MAXIMUM_BUFFER_SIZE := by
      rw [c.irp.size, hsame.length]
      exact h.length irp hirp hmine
    simp [broadcastEnabled, hpc, Completion.transfer, Transfer.bytes, hlength]
  · simp [broadcastEnabled, hpc]

/-- **The monitor takes its own steps.** -/
theorem reach_monitor (h : Reach endToEndSystem OnlyReader (.init shared) s) :
    Reach broadcastSystem (fun _ _ => True) .init s.monitor := by
  induction h with
  | start => exact .start
  | step l h' he hl ih =>
      cases l with
      | monitor l => exact .step (S := broadcastSystem) l ih he.2 trivial
      | readFile t irp cancelled =>
          refine .step (S := broadcastSystem) .readFile ih ?_ trivial
          show broadcastEnabled _ .readFile = true
          simp [broadcastEnabled, he.1]
      | overlapped c =>
          have hf := reach_ringFacts (reach_ring onlyReader_ring h')
          exact .step (S := broadcastSystem) _ ih ((reach_inwards h').fits hf he) trivial
      | written c =>
          simp only [endToEndSystem, endToEndNext]
          split <;> exact ih
      | ring l | relay c l | writeFile c t irp cancelled => exact ih

/-- Nobody else has read anything. -/
theorem Inwards.served (h : Inwards s) (hf : RingFacts s.ring) :
    bytesOf (s.ring.served .read) =
      s.monitor.got.flatten ++ bytesOf (s.ring.servedFor .read s.reading) := by
  obtain ⟨done, hone, hgot⟩ := h.packets
  have hall : (s.ring.served .read).filter (fun c => s.reads c.irp.seq) = s.ring.served .read := by
    refine List.filter_eq_self.mpr fun c hc => ?_
    obtain ⟨hmem, -, hread⟩ := mem_served.mp hc
    obtain ⟨irp, hirp, hsame⟩ := hf.request hmem
    rw [hsame.seq]
    exact h.only irp hirp (hsame.major ▸ hread)
  rw [← hall, hone.served, bytesOf, List.flatMap_append, ← hgot]
  rfl

/-- What the ring has moved in a direction, and what is on the way. -/
theorem transfers_bytes {P : RingSys Unit → RingLabel Unit → Prop} {r : RingSys Unit}
    (h : Reach (ringSystem Unit) P (RingSys.init Unit shared) r) (d : MajorFunction) :
    (r.transfers d).flatMap Transfer.bytes = bytesOf (r.served d) ++ r.inFlightBytes d := by
  rw [reach_accounted h d, List.flatMap_append, List.flatMap_map]
  rfl

/-- **What the backend says, the clients hear.** The ring and the monitor run together, with any
    other writers, cancellations and clients, but no other reader, and a backend that keeps the
    protocol. Then what the backend has produced is what the monitor has read, and behind it what its
    read has been completed with, what is on the way there and what is in the ring; and a client that
    was linked behind `j` packets has got of each from there on a beginning, and if no write to its
    pipe has failed, what the backend produced from there on without a gap. -/
theorem backend_to_clients (hout : shared.outProd = shared.outCons)
    (hin : shared.inProd = shared.inCons)
    (h : Reach endToEndSystem OnlyReader (.init shared) s) :
    s.ring.produced = s.monitor.got.flatten ++ bytesOf (s.ring.servedFor .read s.reading) ++
      s.ring.inFlightBytes .read ++ s.ring.shared.inBytes ∧
    ∀ c j, (s.monitor.listener c).joined = some j → Served s.monitor c j ∧
      ((s.monitor.listener c).intact = true →
        (s.monitor.packets.take j).flatten ++ (s.monitor.listener c).received <+:
          s.ring.produced) := by
  have hring := reach_ring onlyReader_ring h
  have hproduced : s.ring.produced = s.monitor.got.flatten ++
      bytesOf (s.ring.servedFor .read s.reading) ++ s.ring.inFlightBytes .read ++
        s.ring.shared.inBytes := by
    rw [← (reach_flow hout hin hring).taken, transfers_bytes hring,
      (reach_inwards h).served (reach_ringFacts hring)]
  refine ⟨hproduced, fun c j hj => ?_⟩
  have hinv := reach_broadcast (reach_monitor h)
  refine ⟨hinv.served c j hj, fun hintact => (hinv.received_isPrefix hj hintact).trans ?_⟩
  rw [hproduced, Broadcast.got, List.flatten_append]
  simp only [List.append_assoc]
  exact List.prefix_append _ _

/-- A read of 1024 bytes. -/
def readOf (bytes : List Byte) (h : bytes.length = MAXIMUM_BUFFER_SIZE) : Irp :=
  ⟨0, .read, 7, 1024, bytes, h⟩

theorem length_oneByte : (90 :: List.replicate 1023 0 : List Byte).length = MAXIMUM_BUFFER_SIZE := by
  rw [List.length_cons, List.length_replicate]
  rfl

/-- A listener, a read that waits, and a byte of the backend's. -/
def saysOneByte : List EndToEndLabel :=
  [.monitor (.createFile true), .monitor (.insertTailList 0),
    .readFile 0 (readOf (List.replicate 1024 0) List.length_replicate) false, .ring (.produce 90),
    .ring (.pollStart ()), .ring (.pollStep ()), .ring (.pollStep ()), .ring (.pollStep ()),
    .overlapped ⟨readOf (90 :: List.replicate 1023 0) length_oneByte, .success, 1⟩,
    .monitor .enterCriticalSection, .monitor .next, .monitor (.writeFile (some 1)), .monitor .next]

theorem none_inserted {l : RingLabel Unit} (h : inserted l = []) :
    ∀ irp ∈ inserted l, irp.major = .write := by
  simp [h]

theorem reach_saysOneByte : Reach endToEndSystem OnlyReader (.init wrappingPage)
    (runs endToEndSystem (.init wrappingPage) saysOneByte) := by
  refine .of_admits _ .start ⟨⟨rfl, rfl⟩, trivial, ⟨rfl, rfl⟩, trivial,
    ⟨rfl, ⟨rfl, rfl, rfl⟩, rfl, rfl⟩, trivial, Nat.le_of_ble_eq_true rfl,
    ⟨trivial, none_inserted rfl⟩, ⟨rfl, rfl⟩, ⟨trivial, none_inserted rfl⟩, nofun,
    ⟨trivial, none_inserted rfl⟩, nofun, ⟨trivial, none_inserted rfl⟩, nofun,
    ⟨trivial, none_inserted rfl⟩, ⟨rfl, ?_, rfl⟩, trivial, ⟨rfl, rfl⟩, trivial, ⟨rfl, rfl⟩,
    trivial, ⟨rfl, rfl⟩, trivial, ⟨rfl, rfl⟩, trivial, trivial⟩
  decide +kernel

/-- The state behind it. -/
def oneByteSaid : EndToEnd := runs endToEndSystem (.init wrappingPage) saysOneByte

theorem backend_to_clients_saysOneByte :
    (oneByteSaid.monitor.listener 0).received = [90] ∧
      ([] : List Byte) ++ (oneByteSaid.monitor.listener 0).received <+:
        oneByteSaid.ring.produced :=
  ⟨by decide +kernel, ((backend_to_clients rfl rfl reach_saysOneByte).2 0 0
    (by decide +kernel)).2 (by decide +kernel)⟩

end Inwards

/-! ## 3. Outwards -/

section Outwards

variable {s : EndToEnd} {shared : XenconsInterface}

/-- The requests that client `c` has written with. -/
def EndToEnd.mine (s : EndToEnd) (c q : Nat) : Bool := s.writes q = some c

/-- The request that client `c` is writing with. -/
def EndToEnd.writeOf (s : EndToEnd) (c : Nat) : Option Nat :=
  match s.writing with
  | some (i, q) => if i = c then some q else none
  | none => none

theorem writeOf_none (h : s.writing = none) (c : Nat) : s.writeOf c = none := by
  rw [EndToEnd.writeOf, h]

theorem writeOf_self {c q : Nat} (h : s.writing = some (c, q)) : s.writeOf c = some q := by
  rw [EndToEnd.writeOf, h]
  exact if_pos rfl

theorem writeOf_ne {i c q : Nat} (h : s.writing = some (i, q)) (hne : i ≠ c) :
    s.writeOf c = none := by
  rw [EndToEnd.writeOf, h]
  exact if_neg hne

/-- **What the requests of a client have been completed with is what its thread has written**, and
    the one that is under way holds what is left of the message. -/
structure Outwards (s : EndToEnd) : Prop where
  busy : ∀ c q, s.writing = some (c, q) → ∃ irp ∈ s.ring.queued, irp.seq = q ∧
    irp.major = .write ∧ (s.relay c).pc = .putString irp.systemBuffer
  written : ∀ c, ∃ done, OneAtATime .write s.ring (s.mine c) (s.writeOf c) done ∧
    bytesOf done = (s.relay c).device

/-- The request of a client that is under way is the one that has been completed. -/
theorem Outwards.completed (h : Outwards s) (hf : RingFacts s.ring) {e : Completion}
    {c : Nat} (he : e ∈ s.ring.completed) (hwriting : s.writing = some (c, e.irp.seq)) :
    (s.relay c).pc = .putString e.irp.systemBuffer := by
  obtain ⟨irp, hirp, hseq, hwrite, hpc⟩ := h.busy c _ hwriting
  obtain ⟨irp', hirp', hsame⟩ := hf.request he
  obtain rfl : irp' = irp := by
    have hnodup : (s.ring.queued.map Irp.seq).Nodup := by
      rw [hf.sound.seqs]
      exact List.nodup_range
    exact List.inj_on_of_nodup_map hnodup hirp' hirp (hsame.seq.symm.trans hseq.symm)
  rw [hsame.write hwrite, hpc]

/-- **A step of the ring by itself**, whoever takes it. -/
theorem Outwards.ring (h : Outwards s) (hf : RingFacts s.ring) {l : RingLabel Unit}
    (he : ringEnabled s.ring l) : Outwards { s with ring := ringNext s.ring l } := by
  obtain ⟨-, hqueued⟩ := move_grows (hf.move he)
  refine ⟨fun c q hwriting => ?_, fun c => ?_⟩
  · obtain ⟨irp, hirp, hrest⟩ := h.busy c q hwriting
    refine ⟨irp, ?_, hrest⟩
    show irp ∈ (ringNext s.ring l).queued
    rw [hqueued]
    exact List.mem_append_left _ hirp
  · obtain ⟨done, hone, hdevice⟩ := h.written c
    exact ⟨done, hone.ring hf he, hdevice⟩

/-- **`WriteFile` is called.** -/
theorem Outwards.writeFile (h : Outwards s) (hf : RingFacts s.ring) {i t : Nat} {irp : Irp}
    {cancelled : Bool} (he : endToEndEnabled s (.writeFile i t irp cancelled)) :
    Outwards (endToEndNext s (.writeFile i t irp cancelled)) := by
  obtain ⟨hnone, hpc, henabled, hwrite⟩ := he
  obtain ⟨-, hqueued⟩ := move_grows (hf.move henabled)
  refine ⟨fun c q hwriting => ?_, fun c => ?_⟩
  · obtain ⟨rfl, rfl⟩ : i = c ∧ irp.seq = q := Prod.mk.inj (Option.some.inj hwriting)
    refine ⟨irp, ?_, rfl, hwrite, hpc⟩
    show irp ∈ (ringNext s.ring (.insert t irp cancelled)).queued
    rw [hqueued]
    exact List.mem_append_right _ (List.mem_singleton.mpr rfl)
  · obtain ⟨done, hone, hdevice⟩ := h.written c
    rw [writeOf_none hnone] at hone
    have hfresh : s.mine c irp.seq = false := by
      have hseq : irp.seq = s.ring.queued.length := henabled.2.1
      by_contra hmine
      have := hone.bound _ ((Bool.not_eq_false _).mp hmine)
      omega
    by_cases hi : i = c
    · subst hi
      rw [writeOf_self (s := endToEndNext s (.writeFile i t irp cancelled)) rfl]
      refine ⟨done, (hone.insert hf henabled hwrite).congr fun q => ?_, hdevice⟩
      by_cases hq : q = irp.seq
      · subst hq
        simp [EndToEnd.mine, endToEndNext]
      · simp [EndToEnd.mine, endToEndNext, hq]
    · rw [writeOf_ne (s := endToEndNext s (.writeFile i t irp cancelled)) rfl hi]
      refine ⟨done, (hone.ring hf henabled).congr fun q => ?_, hdevice⟩
      by_cases hq : q = irp.seq
      · subst hq
        rw [hfresh]
        simp [EndToEnd.mine, endToEndNext, hi]
      · simp [EndToEnd.mine, endToEndNext, hq]

/-- **`WriteFile` returns.** -/
theorem Outwards.wrote (h : Outwards s) (hf : RingFacts s.ring) {e : Completion}
    (he : endToEndEnabled s (.written e)) (hsuccess : e.status = .success) :
    Outwards (endToEndNext s (.written e)) := by
  obtain ⟨hmem, hseq⟩ := he
  obtain ⟨⟨i, q⟩, hwriting, hq⟩ := Option.map_eq_some_iff.mp hseq
  obtain rfl : q = e.irp.seq := hq
  have hpc := h.completed hf hmem hwriting
  have hnext : endToEndNext s (.written e) =
      { s with relay := update s.relay i ((s.relay i).wrote e), writing := none } := by
    simp only [endToEndNext, hwriting]
  rw [hnext]
  refine ⟨nofun, fun c => ?_⟩
  rw [writeOf_none (s := { s with relay := update s.relay i ((s.relay i).wrote e), writing := none })
    rfl]
  obtain ⟨done, hone, hdevice⟩ := h.written c
  by_cases hi : i = c
  · subst hi
    rw [writeOf_self hwriting] at hone
    have htake := hone.take hf hmem rfl
    rw [if_pos hsuccess] at htake
    refine ⟨_, htake, ?_⟩
    simp [bytesOf, update_self, Relay.wrote, hsuccess, relayNext, Relay.writeFile, hpc,
      Completion.transfer, Transfer.bytes, ← hdevice]
  · rw [writeOf_ne hwriting hi] at hone
    refine ⟨done, hone, ?_⟩
    rw [hdevice]
    simp [Ne.symm hi]

end Outwards

end Xencons.Monitor
