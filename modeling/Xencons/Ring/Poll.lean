import Xencons.Ring.Moves
import Xencons.Lib.Halting

/-!
# RingPoll on its own (ring.c)

One execution of `RingPoll` that nothing interleaves with: a loop over the read queue and a loop
over the write queue, each until its queue is empty or a copy moves no byte.

* `RingSys.goOn`, `RingSys.Polled` -- its next step, and its end;
* `ringReplies`, `pollLeft` -- what a loop completes, and what it leaves of its queue and of the
  room in its direction;
* `ring_loop_left` -- the loop against both; `ring_halts`, `ring_halts_left` -- a whole execution;
* `ring_poll_serves_iff` -- when nothing is left queued that the ring could still serve. A copy of
  no bytes is taken for a blocked ring, and a request for no bytes makes one.
-/

namespace Xencons

open Lib Function

/-! ## 1. RingPoll on its own -/

/-- What a client sees of a completion. -/
structure Reply where
  seq : Nat
  major : MajorFunction
  status : NtStatus
  information : ULONG
deriving DecidableEq

def Completion.reply (c : Completion) : Reply :=
  ⟨c.irp.seq, c.irp.major, c.status, c.information⟩

/-- A request completed with `n` bytes. -/
def Irp.served (irp : Irp) (n : Nat) : Reply := ⟨irp.seq, irp.major, .success, BitVec.ofNat 32 n⟩

namespace RingSys

/-- `RingPoll` has returned. -/
def Polled (r : RingSys Unit) : Prop := r.poll () = .idle

/-- `RingPoll` has been entered with these requests queued. -/
def polled (shared : XenconsInterface) (queue : List Irp) : RingSys Unit :=
  { RingSys.init Unit shared with
    queue := fun d => queue.filter (·.major = d)
    queued := queue
    poll := fun _ => .dequeue .read }

/-- `RingPoll` goes on. -/
def goOn (r : RingSys Unit) : RingSys Unit := r.ringPollStep ()

end RingSys

open RingSys

/-- What a loop of `RingPoll` completes: it stops at the first copy of no bytes. -/
def ringReplies : Nat → List Irp → List Reply
  | _, [] => []
  | room, irp :: rest =>
    let n := min irp.length.toNat room
    if n = 0 then [] else irp.served n :: ringReplies (room - n) rest

/-- What a loop leaves of its queue, and of the room in its direction. The request whose copy moved
    nothing is put back, unless it has been cancelled meanwhile. -/
def pollLeft (cancel : Nat → Bool) : Nat → List Irp → List Irp × Nat
  | room, [] => ([], room)
  | room, irp :: rest =>
    let n := min irp.length.toNat room
    if n = 0 then (if cancel irp.seq then rest else irp :: rest, room)
    else pollLeft cancel (room - n) rest

/-! ## 2. One request -/

section Ring

variable {r : RingSys Unit} {d : MajorFunction}

/-- A copy uses up the room of its own direction. -/
theorem room_ringCopy (shared : XenconsInterface) (irp : Irp) (d' : MajorFunction) :
    (ringCopy d shared irp).1.room d' =
      if d' = d then shared.room d - min irp.length.toNat (shared.room d) else shared.room d' := by
  cases d with
  | read =>
      simp only [ringCopy, ringCopyFromRead_eq shared irp.size]
      cases d' with
      | read => exact toNat_sub_add (Nat.min_le_right _ _)
      | write => rfl
  | write =>
      simp only [ringCopy, ringCopyToWrite_eq shared irp.size]
      cases d' with
      | read => rfl
      | write => exact toNat_sub_add (Nat.min_le_right _ _)

/-- A step of a poll that has not returned. -/
theorem advance_goOn {r' : RingSys Unit} (h : ¬Polled r) (e : goOn r = r') :
    Relation.ReflTransGen (Advance goOn Polled) r r' := .single ⟨h, e⟩

section PutBack

variable (irp : Irp) (rest : List Irp)

/-- The ring when a request taken off queue `d` has been put back. -/
def RingSys.putBack (r : RingSys Unit) (d : MajorFunction) (irp : Irp) (rest : List Irp) :
    RingSys Unit :=
  ((r.setQueue d rest).ioCsqInsertIrpEx d irp true).2.setPoll () (pollNext d)

@[simp] theorem putBack_poll : (r.putBack d irp rest).poll () = pollNext d := by simp [putBack]

@[simp] theorem putBack_shared : (r.putBack d irp rest).shared = r.shared := by
  cases hc : r.cancel irp.seq <;> simp [putBack, RingSys.ioCsqInsertIrpEx, hc]

@[simp] theorem putBack_cancel : (r.putBack d irp rest).cancel = r.cancel := by
  cases hc : r.cancel irp.seq <;>
    simp [putBack, RingSys.ioCsqInsertIrpEx, hc, setPoll, setQueue, ioCompleteRequest]

@[simp] theorem putBack_queue : (r.putBack d irp rest).queue =
    update r.queue d (if r.cancel irp.seq then rest else irp :: rest) := by
  cases hc : r.cancel irp.seq <;>
    simp [putBack, RingSys.ioCsqInsertIrpEx, ringCsqInsertIrpEx, hc, setPoll, setQueue,
      ioCompleteRequest]

theorem putBack_completed (hc : r.cancel irp.seq = false) :
    (r.putBack d irp rest).completed = r.completed := by
  simp [putBack, RingSys.ioCsqInsertIrpEx, hc]

end PutBack

section Head

variable {irp irp' : Irp} {rest : List Irp} {shared' : XenconsInterface} {n : ULONG}

theorem goOn_take (hpc : r.poll () = .dequeue d) (hl : r.queue d = irp :: rest) :
    goOn r = (r.setQueue d rest).setPoll () (.copy d irp) := by
  simp [goOn, ringPollStep, hpc, hl]

/-- A head whose copy moves nothing goes back, and the loop is over. -/
theorem goOn_putBack (hpc : r.poll () = .dequeue d) (hl : r.queue d = irp :: rest)
    (hr : ringCopy d r.shared irp = (shared', irp', 0)) :
    Relation.ReflTransGen (Advance goOn Polled) r
      (r.putBack d irp rest) := by
  obtain ⟨rfl, rfl⟩ := ringCopy_zero hr
  have hcopy : goOn ((r.setQueue d rest).setPoll () (.copy d irp')) =
      (r.setQueue d rest).setPoll () (.copied d irp' 0) := by
    simp [goOn, ringPollStep, hr, setPoll, setQueue]
  have hback : goOn ((r.setQueue d rest).setPoll () (.copied d irp' 0)) =
      r.putBack d irp' rest := by
    cases hc : r.cancel irp'.seq <;>
      simp [goOn, ringPollStep, RingSys.putBack, RingSys.ioCsqInsertIrpEx, ringCsqInsertIrpEx, hc,
        setPoll, setQueue, ioCompleteRequest]
  refine (advance_goOn (by simp [Polled, hpc]) (goOn_take hpc hl)).trans ?_
  refine (advance_goOn (by simp [Polled]) hcopy).trans ?_
  exact advance_goOn (by simp [Polled]) hback

/-- The ring when the head of a queue has been served. -/
def RingSys.pollServed (r : RingSys Unit) (d : MajorFunction) (rest : List Irp)
    (shared' : XenconsInterface) (irp' : Irp) (n : ULONG) : RingSys Unit :=
  ((((r.setQueue d rest).transfer () d shared' irp' n).addBytes d n).ioCompleteRequest irp' .success
    n).setPoll () (.dequeue d)

/-- A head whose copy moves something is completed. -/
theorem goOn_head (hpc : r.poll () = .dequeue d) (hl : r.queue d = irp :: rest)
    (hr : ringCopy d r.shared irp = (shared', irp', n)) (hn : n ≠ 0) :
    Relation.ReflTransGen (Advance goOn Polled) r (r.pollServed d rest shared' irp' n) := by
  have hn' : ¬n = 0#32 := hn
  have hcopy : goOn ((r.setQueue d rest).setPoll () (.copy d irp)) =
      (r.setQueue d rest).transfer () d shared' irp' n := by
    simp [goOn, ringPollStep, hr, hn', setPoll, setQueue, transfer]
  have hcomplete : goOn ((r.setQueue d rest).transfer () d shared' irp' n) =
      r.pollServed d rest shared' irp' n := by
    simp [goOn, ringPollStep, hn', pollServed]
  refine (advance_goOn (by simp [Polled, hpc]) (goOn_take hpc hl)).trans ?_
  refine (advance_goOn (by simp [Polled]) hcopy).trans ?_
  exact advance_goOn (by simp [Polled]) hcomplete

end Head

/-! ## 3. A loop -/

/-- Where a loop of `RingPoll` has got to: nothing of the other direction has changed. -/
structure LoopDone (d : MajorFunction) (r r' : RingSys Unit) (replies : List Reply) : Prop where
  pc : r'.poll () = pollNext d
  replies : r'.completed.map (·.reply) = r.completed.map (·.reply) ++ replies
  queue : ∀ d', d' ≠ d → r'.queue d' = r.queue d'
  room : ∀ d', d' ≠ d → r'.shared.room d' = r.shared.room d'
  cancel : r'.cancel = r.cancel

/-- Where it has got to, with what it leaves; `list` is the queue it found. -/
structure LoopLeft (d : MajorFunction) (list : List Irp) (r r' : RingSys Unit) : Prop where
  pc : r'.poll () = pollNext d
  left : (r'.queue d, r'.shared.room d) = pollLeft r.cancel (r.shared.room d) list
  replies : (∀ irp ∈ list, irp.major = d) → (∀ irp ∈ list, r.cancel irp.seq = false) →
    r'.completed.map (·.reply) =
      r.completed.map (·.reply) ++ ringReplies (r.shared.room d) list
  queue : ∀ d', d' ≠ d → r'.queue d' = r.queue d'
  room : ∀ d', d' ≠ d → r'.shared.room d' = r.shared.room d'
  cancel : r'.cancel = r.cancel

/-- The loop stops at its head. -/
theorem LoopLeft.putBack {irp : Irp} {rest : List Irp}
    (h0 : min irp.length.toNat (r.shared.room d) = 0) :
    LoopLeft d (irp :: rest) r (r.putBack d irp rest) where
  pc := putBack_poll irp rest
  left := by
    rw [putBack_queue, putBack_shared, update_self, pollLeft, if_pos h0]
  replies _ hlive := by
    rw [putBack_completed irp rest (hlive irp List.mem_cons_self), ringReplies, if_pos h0,
      List.append_nil]
  queue d' hne := by rw [putBack_queue, update_of_ne hne]
  room d' _ := by rw [putBack_shared]
  cancel := putBack_cancel irp rest

/-- The loop serves its head and goes on. -/
theorem LoopLeft.served {r' : RingSys Unit} {irp irp' : Irp} {rest : List Irp}
    {shared' : XenconsInterface} {n : ULONG} (hr : ringCopy d r.shared irp = (shared', irp', n))
    (hn : n ≠ 0) (h : LoopLeft d rest (r.pollServed d rest shared' irp' n) r') :
    LoopLeft d (irp :: rest) r r' := by
  have hcount := ringCopy_count d r.shared irp
  have htoNat := toNat_ringCopy_count d r.shared irp
  have hroom := room_ringCopy (d := d) r.shared irp
  rw [hr] at hcount htoNat hroom
  dsimp only at hcount htoNat hroom
  have h0 : min irp.length.toNat (r.shared.room d) ≠ 0 := fun h0 =>
    hn (BitVec.eq_of_toNat_eq (htoNat.trans h0))
  have hleft : (r.pollServed d rest shared' irp' n).shared.room d =
      r.shared.room d - min irp.length.toNat (r.shared.room d) := by
    simpa [pollServed] using hroom d
  refine ⟨h.pc, ?_, fun hd hlive => ?_, fun d' hne => ?_, fun d' hne => ?_, h.cancel⟩
  · rw [h.left, hleft, pollLeft, if_neg h0]
    rfl
  · obtain ⟨hsame, -⟩ := ringCopy_spec (hd irp List.mem_cons_self) hr
    have hserved : Completion.reply ⟨irp', .success, n⟩ =
        irp.served (min irp.length.toNat (r.shared.room d)) := by
      simp [Completion.reply, Irp.served, hsame.seq, hsame.major, hcount]
    rw [h.replies (fun irp'' hm => hd irp'' (List.mem_cons_of_mem _ hm))
      (fun irp'' hm => hlive irp'' (List.mem_cons_of_mem _ hm)), hleft, ringReplies, if_neg h0,
      ← hserved]
    simp [pollServed]
  · rw [h.queue d' hne]
    simp [pollServed, hne]
  · rw [h.room d' hne]
    simpa [pollServed, hne] using hroom d'

/-- **A loop of `RingPoll` over its queue.** -/
theorem ring_loop_left (d : MajorFunction) (list : List Irp) : ∀ r : RingSys Unit,
    r.poll () = .dequeue d → r.queue d = list →
    ∃ r', Relation.ReflTransGen (Advance goOn Polled) r r' ∧ LoopLeft d list r r' := by
  induction list with
  | nil =>
      intro r hpc hl
      have hend : goOn r = r.setPoll () (pollNext d) := by
        simp [goOn, ringPollStep, hpc, hl]
      refine ⟨_, advance_goOn (by simp [Polled, hpc]) hend, by simp [setPoll], ?_, fun _ _ => ?_,
        fun _ _ => rfl, fun _ _ => rfl, rfl⟩
      · exact Prod.ext hl rfl
      · exact (List.append_nil _).symm
  | cons irp rest ih =>
      intro r hpc hl
      have htoNat := toNat_ringCopy_count d r.shared irp
      rcases hr : ringCopy d r.shared irp with ⟨shared', irp', n⟩
      rw [hr] at htoNat
      by_cases hn : n = 0
      · subst hn
        exact ⟨_, goOn_putBack hpc hl hr, .putBack htoNat.symm⟩
      · obtain ⟨r', hr', hdone⟩ := ih (r.pollServed d rest shared' irp' n) (by simp [pollServed])
          (by simp [pollServed])
        exact ⟨r', (goOn_head hpc hl hr hn).trans hr', hdone.served hr hn⟩

/-- The same over requests of the loop's own kind that nobody cancels. -/
theorem ring_loop (d : MajorFunction) (list : List Irp) (r : RingSys Unit)
    (hpc : r.poll () = .dequeue d) (hl : r.queue d = list) (hd : ∀ irp ∈ list, irp.major = d)
    (hc : ∀ seq, r.cancel seq = false) : ∃ r', Relation.ReflTransGen (Advance goOn Polled) r r' ∧
      LoopDone d r r' (ringReplies (r.shared.room d) list) := by
  obtain ⟨r', hr', h⟩ := ring_loop_left d list r hpc hl
  exact ⟨r', hr', h.pc, h.replies hd fun _ _ => hc _, h.queue, h.room, h.cancel⟩

/-! ## 4. A whole execution -/

/-- **What `RingPoll` completes until it returns.** -/
theorem ring_halts (shared : XenconsInterface) (queue : List Irp) :
    ∃ r, Halts goOn Polled (polled shared queue) r ∧
      r.completed.map (·.reply) =
        ringReplies (shared.room .read) (queue.filter (·.major = .read)) ++
          ringReplies (shared.room .write) (queue.filter (·.major = .write)) := by
  have hmajor : ∀ d, ∀ irp ∈ queue.filter (·.major = d), irp.major = d := fun d irp h => by
    simpa using (List.mem_filter.mp h).2
  obtain ⟨r₁, hr₁, hread⟩ := ring_loop .read _ (polled shared queue) rfl rfl (hmajor .read)
    fun _ => rfl
  have hqueue : r₁.queue .write = queue.filter (·.major = .write) := hread.queue .write nofun
  have hroom : r₁.shared.room .write = shared.room .write := hread.room .write nofun
  obtain ⟨r₂, hr₂, hwrite⟩ := ring_loop .write _ r₁ hread.pc hqueue (hmajor .write)
    fun _ => by rw [hread.cancel]; rfl
  refine ⟨r₂, ⟨hr₁.trans hr₂, hwrite.pc⟩, ?_⟩
  rw [hwrite.replies, hread.replies, hroom]
  rfl

/-- **What `RingPoll` leaves queued, and the room it leaves.** -/
theorem ring_halts_left (r : RingSys Unit) :
    ∃ r', Halts goOn Polled (r.setPoll () (.dequeue .read)) r' ∧
      ∀ d, (r'.queue d, r'.shared.room d) = pollLeft r.cancel (r.shared.room d) (r.queue d) := by
  obtain ⟨r₁, hr₁, hread⟩ := ring_loop_left .read _ (r.setPoll () (.dequeue .read)) (by simp) rfl
  obtain ⟨r₂, hr₂, hwrite⟩ := ring_loop_left .write _ r₁ hread.pc rfl
  refine ⟨r₂, ⟨hr₁.trans hr₂, hwrite.pc⟩, fun d => ?_⟩
  cases d with
  | read =>
      rw [hwrite.queue .read nofun, hwrite.room .read nofun]
      exact hread.left
  | write =>
      rw [hwrite.left, hread.queue .write nofun, hread.room .write nofun, hread.cancel]
      rfl

end Ring

/-! ## 5. What is left that the ring could serve -/

/-- The bytes the requests of a list ask for. -/
def bytesAsked (list : List Irp) : Nat := (list.map (·.length.toNat)).sum

/-- A loop leaves requests and room behind exactly where a request for no bytes comes up while there
    is room. (Put back cancelled, it is completed, so that then only the ones behind it are
    left.) -/
theorem pollLeft_served_iff (cancel : Nat → Bool) (list : List Irp) : ∀ room : Nat,
    ((pollLeft cancel room list).1 ≠ [] → (pollLeft cancel room list).2 = 0) ↔
      ∀ ahead irp behind, list = ahead ++ irp :: behind → irp.length = 0 →
        bytesAsked ahead < room → cancel irp.seq = true ∧ behind = [] := by
  induction list with
  | nil => simp [pollLeft]
  | cons head rest ih =>
      intro room
      rw [pollLeft]
      by_cases hroom : room = 0
      · simp [hroom]
      by_cases hlen : head.length = 0
      · -- the ring could go on, and the loop stops
        have hleft : (if min head.length.toNat room = 0
            then (if cancel head.seq then rest else head :: rest, room)
            else pollLeft cancel (room - min head.length.toNat room) rest) =
              (if cancel head.seq then rest else head :: rest, room) := if_pos (by simp [hlen])
        simp only [hleft, hroom, imp_false, not_not]
        constructor
        · intro h ahead irp behind he _ _
          have hc : cancel head.seq = true := by
            by_contra hc
            rw [if_neg hc] at h
            cases h
          rw [if_pos hc] at h
          subst h
          cases ahead with
          | nil =>
              obtain ⟨rfl, rfl⟩ := List.cons.inj he
              exact ⟨hc, rfl⟩
          | cons irp₀ ahead => simp at he
        · intro h
          obtain ⟨hc, rfl⟩ := h [] head rest rfl hlen (Nat.pos_of_ne_zero hroom)
          rw [if_pos hc]
      · have hpos : head.length.toNat ≠ 0 := fun h0 => hlen (BitVec.eq_of_toNat_eq h0)
        simp only [if_neg (show min head.length.toNat room ≠ 0 by omega)]
        rw [ih]
        constructor
        · intro h ahead irp behind he hz hlt
          cases ahead with
          | nil =>
              obtain ⟨rfl, rfl⟩ := List.cons.inj he
              exact absurd hz hlen
          | cons irp₀ ahead =>
              obtain ⟨rfl, htail⟩ := List.cons.inj he
              refine h ahead irp behind htail hz ?_
              simp only [bytesAsked, List.map_cons, List.sum_cons] at hlt ⊢
              omega
        · intro h ahead irp behind he hz hlt
          refine h (head :: ahead) irp behind (congrArg (head :: ·) he) hz ?_
          simp only [bytesAsked, List.map_cons, List.sum_cons] at hlt ⊢
          omega

/-- **`RingPoll` leaves nothing queued that the ring could serve, if and only if no request for no
    bytes comes up while there is room**: behind one execution a read is still queued only where
    `in` is empty, and a write only where `out` is full. -/
theorem ring_poll_serves_iff (r : RingSys Unit) :
    ∃ r', Halts goOn Polled (r.setPoll () (.dequeue .read)) r' ∧
      (((r'.queue .read ≠ [] → r'.shared.inAvail = 0) ∧
          (r'.queue .write ≠ [] → r'.shared.outFree = 0)) ↔
        ∀ d ahead irp behind, r.queue d = ahead ++ irp :: behind → irp.length = 0 →
          bytesAsked ahead < r.shared.room d → r.cancel irp.seq = true ∧ behind = []) := by
  obtain ⟨r', hr', hleft⟩ := ring_halts_left r
  refine ⟨r', hr', ?_⟩
  have hqueue : ∀ d, r'.queue d = (pollLeft r.cancel (r.shared.room d) (r.queue d)).1 := fun d =>
    congrArg Prod.fst (hleft d)
  have hroom : ∀ d, r'.shared.room d = (pollLeft r.cancel (r.shared.room d) (r.queue d)).2 :=
    fun d => congrArg Prod.snd (hleft d)
  rw [show r'.shared.inAvail = r'.shared.room .read from rfl,
    show r'.shared.outFree = r'.shared.room .write from rfl, hqueue, hqueue, hroom, hroom,
    pollLeft_served_iff, pollLeft_served_iff]
  constructor
  · rintro ⟨hread, hwrite⟩ d
    cases d with
    | read => exact hread
    | write => exact hwrite
  · intro h
    exact ⟨h .read, h .write⟩

/-- A read for no bytes and a read for one byte behind it, with one byte of input. -/
def emptyReadAhead : RingSys Unit :=
  { RingSys.init Unit { XenconsInterface.zero with inProd := 1 } with
    queue := fun
      | .read => [⟨0, .read, 0, 0, [], rfl⟩, .oneByte 1 .read 1 0]
      | .write => [] }

/-- Neither is completed, and the byte stays where it is. -/
theorem emptyReadAhead_blocks : ¬∀ r',
    Halts goOn Polled (emptyReadAhead.setPoll () (.dequeue .read)) r' →
      r'.queue .read ≠ [] → r'.shared.inAvail = 0 := by
  intro h
  obtain ⟨r', hr', hleft⟩ := ring_halts_left emptyReadAhead
  have hread := hleft .read
  have hqueue : r'.queue .read = [⟨0, .read, 0, 0, [], rfl⟩, .oneByte 1 .read 1 0] :=
    congrArg Prod.fst hread
  have hroom : r'.shared.room .read = 1 := congrArg Prod.snd hread
  have h0 : r'.shared.room .read = 0 := h r' hr' (by rw [hqueue]; exact List.cons_ne_nil _ _)
  rw [hroom] at h0
  cases h0

end Xencons
