import Xencons.Lib.Heard
import Xencons.Monitor.Relay

/-!
# What the device says reaches every client (monitor.c)

`DeviceThread` reads packets of up to 1024 bytes from the device and, inside the critical section,
puts each of them out on the pipe of every connection on the list. A connection links itself and
unlinks itself inside the same critical section, whenever it likes. A `WriteFile` that fails ends the
`PutString` to its pipe, and neither the thread nor the connection takes notice.

* `Broadcast`, `broadcastNext`, `broadcastSystem` -- the thread, the list and the pipes, in steps
  between the system's calls;
* `Broadcast.due`, `Broadcast.upTo`, `Broadcast.part` -- whether the thread has still to come to a
  connection, how many packets that one is through with, and what it has of the next;
* `BroadcastInv` -- the invariant: `broadcast_next`;
* **`clients_hear`** -- the result.
-/

namespace Xencons.Monitor

open Lib Function

/-! ## 1. The machine -/

/-- How far `DeviceThread` has come. -/
inductive BroadcastPc where
  /-- `CreateEvent`, `CreateFileW` -/
  | start
  | readFile
  /-- `WaitForMultipleObjects` on `DeviceEvent` and its read, `GetOverlappedResult` -/
  | wait
  /-- `EnterCriticalSection`, with what has been read -/
  | enter (packet : List Byte)
  /-- in the loop over the list, with the connections it has still to come to -/
  | broadcast (packet : List Byte) (rest : List Nat)
  /-- in `PutString` to the pipe of `c`, at `Offset` -/
  | putString (packet : List Byte) (c : Nat) (offset : Nat) (rest : List Nat)
  | ended
deriving DecidableEq

/-- `DeviceThread` is in the critical section. -/
def BroadcastPc.locked : BroadcastPc → Bool
  | .broadcast .. | .putString .. => true
  | _ => false

/-- A connection, as far as it listens. -/
structure Listener where
  /-- what has been written into its pipe -/
  received : List Byte
  /-- how many packets had been put out when it was linked, and when it was unlinked -/
  joined : Option Nat
  left : Option Nat
  /-- no `WriteFile` to its pipe has failed -/
  intact : Bool
deriving DecidableEq

namespace Listener

/-- Before it is linked. -/
def new : Listener := ⟨[], none, none, true⟩

/-- Bytes have been written into the pipe. -/
@[simps] def hear (l : Listener) (bytes : List Byte) : Listener :=
  { l with received := l.received ++ bytes }

/-- A `WriteFile` has failed. -/
@[simps] def refuse (l : Listener) : Listener := { l with intact := false }

@[simps] def join (l : Listener) (n : Nat) : Listener := { l with joined := some n }

@[simps] def leave (l : Listener) (n : Nat) : Listener := { l with left := some n }

end Listener

structure Broadcast where
  pc : BroadcastPc
  /-- `Console->ListHead` -/
  list : List Nat
  listener : Nat → Listener
  /-- the packets, with the one that is being put out -/
  packets : List (List Byte)

inductive BroadcastLabel where
  | createFile (granted : Bool)
  | readFile
  /-- the wait ends with the read, or with `DeviceEvent` -/
  | overlapped (r : ReadResult)
  | deviceEvent
  | enterCriticalSection
  /-- on to the next connection, or to `LeaveCriticalSection` -/
  | next
  /-- `none` is a failure -/
  | writeFile (written : Option Nat)
  /-- the two sections of a `ConnectionThread` -/
  | insertTailList (c : Nat)
  | removeEntryList (c : Nat)
deriving DecidableEq

namespace Broadcast

def init : Broadcast := ⟨.start, [], fun _ => .new, []⟩

/-- `while (Offset < Length)` -/
def putString (packet : List Byte) (c offset : Nat) (rest : List Nat) : BroadcastPc :=
  if offset < packet.length then .putString packet c offset rest else .broadcast packet rest

@[simps] def setPc (s : Broadcast) (pc : BroadcastPc) : Broadcast := { s with pc := pc }

@[simps] def setListener (s : Broadcast) (c : Nat) (l : Listener) : Broadcast :=
  { s with listener := update s.listener c l }

/-- `WriteFile` -/
def writeFile (s : Broadcast) (written : Option Nat) : Broadcast :=
  match s.pc with
  | .putString packet c offset rest =>
    match written with
    | some n =>
      (s.setListener c ((s.listener c).hear ((packet.drop offset).take n))).setPc
        (putString packet c (offset + n) rest)
    | none => (s.setListener c (s.listener c).refuse).setPc (.broadcast packet rest)
  | _ => s

end Broadcast

open Broadcast

def broadcastEnabled (s : Broadcast) : BroadcastLabel → Bool
  | .createFile _ => s.pc = .start
  | .readFile => s.pc = .readFile
  | .overlapped (.data bytes) => s.pc = .wait && decide (bytes.length ≤ MAXIMUM_BUFFER_SIZE)
  | .overlapped .failed => s.pc = .wait
  | .deviceEvent => s.pc = .wait
  | .enterCriticalSection => match s.pc with | .enter _ => true | _ => false
  | .next => match s.pc with | .broadcast .. => true | _ => false
  | .writeFile written =>
    match s.pc with
    | .putString packet _ offset _ =>
      match written with
      | some n => decide (n ≤ packet.length - offset)
      | none => true
    | _ => false
  | .insertTailList c => !s.pc.locked && decide ((s.listener c).joined = none)
  | .removeEntryList c => !s.pc.locked && decide (c ∈ s.list)

def broadcastNext (s : Broadcast) : BroadcastLabel → Broadcast
  | .createFile granted => s.setPc (if granted then .readFile else .ended)
  | .readFile => s.setPc .wait
  | .overlapped (.data bytes) => s.setPc (.enter bytes)
  | .overlapped .failed => s.setPc .ended
  | .deviceEvent => s.setPc .ended
  | .enterCriticalSection =>
    match s.pc with
    | .enter packet =>
      { s with pc := .broadcast packet s.list, packets := s.packets ++ [packet] }
    | _ => s
  | .next =>
    match s.pc with
    | .broadcast packet (c :: rest) => s.setPc (putString packet c 0 rest)
    | .broadcast _ [] => s.setPc .readFile
    | _ => s
  | .writeFile written => s.writeFile written
  | .insertTailList c =>
    { s.setListener c ((s.listener c).join s.packets.length) with list := s.list ++ [c] }
  | .removeEntryList c =>
    { s.setListener c ((s.listener c).leave s.packets.length) with list := s.list.erase c }

/-- **`DeviceThread` and the connections that listen.** -/
def broadcastSystem : System Broadcast BroadcastLabel where
  enabled s l := broadcastEnabled s l = true
  next := broadcastNext

instance (s : Broadcast) (l : BroadcastLabel) : Decidable (broadcastSystem.enabled s l) :=
  inferInstanceAs (Decidable (broadcastEnabled s l = true))

/-! ## 2. How far the clients are -/

/-- The packet at hand has still to be put out on the pipe of `c`, or is being put out there. -/
def BroadcastPc.due : BroadcastPc → Nat → Bool
  | .broadcast _ rest, c => decide (c ∈ rest)
  | .putString _ c' _ rest, c => decide (c = c' ∨ c ∈ rest)
  | _, _ => false

/-- What `c` has of the packet at hand while that is being put out there. -/
def BroadcastPc.part : BroadcastPc → Nat → List Byte
  | .putString packet c' offset _, c => if c = c' then packet.take offset else []
  | _, _ => []

/-- The packet that is being put out. -/
def BroadcastPc.packet : BroadcastPc → Option (List Byte)
  | .broadcast packet _ | .putString packet _ _ _ => some packet
  | _ => none

/-- The connections that the thread has still to come to. -/
def BroadcastPc.ahead : BroadcastPc → List Nat
  | .broadcast _ rest => rest
  | .putString _ c _ rest => c :: rest
  | _ => []

/-- How many packets `c` is through with. -/
def Broadcast.upTo (s : Broadcast) (c : Nat) : Nat :=
  match (s.listener c).left with
  | some m => m
  | none => if s.pc.due c then s.packets.length - 1 else s.packets.length

/-- **What is promised to `c`**, which was linked behind `j` packets: of every packet from there on
    that it is through with a beginning, or the whole, and then what it has of the next one. -/
structure Served (s : Broadcast) (c j : Nat) : Prop where
  joined_le : j ≤ s.upTo c
  upTo_le : s.upTo c ≤ s.packets.length
  heard : ∃ r, (s.listener c).received = r ++ s.pc.part c ∧
    Heard ((s.packets.take (s.upTo c)).drop j) r (s.listener c).intact

/-- The invariant of the thread, the list and the pipes. -/
structure BroadcastInv (s : Broadcast) : Prop where
  nodup : s.list.Nodup
  listed : ∀ c, c ∈ s.list ↔ (s.listener c).joined ≠ none ∧ (s.listener c).left = none
  fresh : ∀ c, (s.listener c).joined = none → s.listener c = .new
  /-- the thread comes to connections on the list only, and to each of them once -/
  ahead_nodup : s.pc.ahead.Nodup
  ahead_listed : s.pc.ahead ⊆ s.list
  offset : ∀ packet c offset rest, s.pc = .putString packet c offset rest → offset < packet.length
  /-- with the packet that was read last -/
  packet : ∀ packet, s.pc.packet = some packet → s.packets.getLast? = some packet
  served : ∀ c j, (s.listener c).joined = some j → Served s c j

section Pc

variable {pc : BroadcastPc} {packet : List Byte} {c x offset : Nat} {rest : List Nat}

theorem due_unlocked (h : pc.locked = false) (c : Nat) : pc.due c = false := by
  cases pc <;> first | rfl | cases h

theorem part_unlocked (h : pc.locked = false) (c : Nat) : pc.part c = [] := by
  cases pc <;> first | rfl | cases h

theorem ahead_unlocked (h : pc.locked = false) : pc.ahead = [] := by
  cases pc <;> first | rfl | cases h

theorem packet_unlocked (h : pc.locked = false) : pc.packet = none := by
  cases pc <;> first | rfl | cases h

@[simp] theorem packet_putString : (putString packet c offset rest).packet = some packet := by
  unfold putString
  split <;> rfl

/-- The others wait as before. -/
theorem due_putString (hx : x ≠ c) : (putString packet c offset rest).due x = decide (x ∈ rest) := by
  unfold putString
  split
  · simp [BroadcastPc.due, hx]
  · rfl

theorem part_putString (hx : x ≠ c) : (putString packet c offset rest).part x = [] := by
  unfold putString
  split
  · simp [BroadcastPc.part, hx]
  · rfl

theorem ahead_putString :
    List.Sublist (putString packet c offset rest).ahead (c :: rest) := by
  unfold putString
  split
  · exact .refl _
  · exact List.sublist_cons_self c rest

end Pc

theorem broadcastInv_init : BroadcastInv .init where
  nodup := .nil
  listed _ := ⟨nofun, fun h => absurd rfl h.1⟩
  fresh _ _ := rfl
  ahead_nodup := .nil
  ahead_listed := nofun
  offset _ _ _ _ h := by cases h
  packet _ h := by cases h
  served _ _ h := by cases h

/-! ## 3. What a step keeps -/

section Steps

variable {s s' : Broadcast} {c j : Nat} {packet : List Byte} {rest : List Nat}

/-- Nothing has changed for `c`. -/
theorem Served.congr (h : Served s c j) (hl : s'.listener c = s.listener c)
    (hp : s'.packets = s.packets) (hd : s'.pc.due c = s.pc.due c)
    (hpart : s'.pc.part c = s.pc.part c) : Served s' c j := by
  have hupTo : s'.upTo c = s.upTo c := by simp only [Broadcast.upTo, hl, hd, hp]
  refine ⟨hupTo ▸ h.joined_le, ?_, ?_⟩
  · rw [hupTo, hp]
    exact h.upTo_le
  · rw [hl, hp, hupTo, hpart]
    exact h.heard

/-- **`c` is through with the packet at hand**: it has had what `hheard` says of it. -/
theorem Served.finish (h : Served s c j) (hleft : (s.listener c).left = none)
    (hdue : s.pc.due c = true) (hlast : s.packets.getLast? = some packet)
    (hp : s'.packets = s.packets) (hleft' : (s'.listener c).left = none)
    (hdue' : s'.pc.due c = false) (hpart' : s'.pc.part c = [])
    (hheard : ∀ before r, (s.listener c).received = r ++ s.pc.part c →
      Heard before r (s.listener c).intact →
      Heard (before ++ [packet]) (s'.listener c).received (s'.listener c).intact) :
    Served s' c j := by
  obtain ⟨before, hbefore⟩ := List.getLast?_eq_some_iff.mp hlast
  have hupTo : s.upTo c = before.length := by simp [Broadcast.upTo, hleft, hdue, hbefore]
  have hupTo' : s'.upTo c = before.length + 1 := by
    simp [Broadcast.upTo, hleft', hdue', hp, hbefore]
  have hj : j ≤ before.length := hupTo ▸ h.joined_le
  obtain ⟨r, hr, hbeginnings⟩ := h.heard
  refine ⟨by omega, by simp [hupTo', hp, hbefore], (s'.listener c).received, by simp [hpart'], ?_⟩
  rw [hupTo, hbefore, List.take_left] at hbeginnings
  have hrun : (s'.packets.take (s'.upTo c)).drop j = before.drop j ++ [packet] := by
    rw [hupTo', hp, hbefore, List.take_of_length_le (by simp), List.drop_append_of_le_length hj]
  rw [hrun]
  exact hheard _ r hr hbeginnings

/-- The thread goes on outside the critical section. -/
theorem BroadcastInv.setPc {pc : BroadcastPc} (h : BroadcastInv s) (hs : s.pc.locked = false)
    (hpc : pc.locked = false) : BroadcastInv (s.setPc pc) where
  nodup := h.nodup
  listed := h.listed
  fresh := h.fresh
  ahead_nodup := by simp [ahead_unlocked hpc]
  ahead_listed := by simp [ahead_unlocked hpc]
  offset _ _ _ _ he := by
    have he' : pc = _ := he
    rw [he'] at hpc
    cases hpc
  packet _ he := by
    rw [setPc_pc, packet_unlocked hpc] at he
    cases he
  served c j hj := by
    refine (h.served c j hj).congr rfl rfl ?_ ?_
    · rw [setPc_pc, due_unlocked hs, due_unlocked hpc]
    · rw [setPc_pc, part_unlocked hs, part_unlocked hpc]

/-- **The thread enters with a packet**: everybody on the list is still to get it. -/
theorem BroadcastInv.enter (h : BroadcastInv s) (hpc : s.pc = .enter packet) :
    BroadcastInv { s with pc := .broadcast packet s.list, packets := s.packets ++ [packet] } where
  nodup := h.nodup
  listed := h.listed
  fresh := h.fresh
  ahead_nodup := h.nodup
  ahead_listed := List.Subset.refl _
  offset _ _ _ _ he := by cases he
  packet packet' he := by
    cases he
    simp
  served c j hj := by
    have hserved := h.served c j hj
    have hjoined : (s.listener c).joined = some j := hj
    have hupTo : Broadcast.upTo { s with
        pc := .broadcast packet s.list, packets := s.packets ++ [packet] } c = s.upTo c := by
      unfold Broadcast.upTo
      cases hleft : (s.listener c).left with
      | some m => rfl
      | none =>
          have hc : c ∈ s.list := (h.listed c).mpr ⟨by simp [hjoined], hleft⟩
          simp [BroadcastPc.due, hc, hpc]
    refine ⟨hupTo ▸ hserved.joined_le, ?_, ?_⟩
    · rw [hupTo]
      exact Nat.le_trans hserved.upTo_le (by simp)
    · obtain ⟨r, hr, hheard⟩ := hserved.heard
      refine ⟨r, by simpa [BroadcastPc.part, hpc] using hr, ?_⟩
      rw [hupTo, List.take_append_of_le_length hserved.upTo_le]
      exact hheard

/-- **On to the next connection.** -/
theorem BroadcastInv.nextConnection (h : BroadcastInv s)
    (hpc : s.pc = .broadcast packet (c :: rest)) :
    BroadcastInv (s.setPc (putString packet c 0 rest)) := by
  have hnodup : (c :: rest).Nodup := by simpa [BroadcastPc.ahead, hpc] using h.ahead_nodup
  have hsub : c :: rest ⊆ s.list := by simpa [BroadcastPc.ahead, hpc] using h.ahead_listed
  have hlast := h.packet packet (by rw [hpc]; rfl)
  refine ⟨h.nodup, h.listed, h.fresh, ahead_putString.nodup hnodup,
    fun x hx => hsub (ahead_putString.subset hx), fun packet' c' offset rest' he => ?_,
    fun packet' he => ?_, fun x j hj => ?_⟩
  · rw [setPc_pc, putString] at he
    split at he
    · cases he
      assumption
    · cases he
  · obtain rfl : packet = packet' := by simpa using he
    exact hlast
  · have hserved := h.served x j hj
    by_cases hx : x = c
    · subst hx
      by_cases hlt : 0 < packet.length
      · have hnext : putString packet x 0 rest = .putString packet x 0 rest := if_pos hlt
        refine hserved.congr rfl rfl ?_ ?_
        · simp [BroadcastPc.due, hpc, hnext]
        · simp [BroadcastPc.part, hpc, hnext]
      · -- there is nothing in the packet
        obtain rfl : packet = [] := List.length_eq_zero_iff.mp (by omega)
        have hleft := ((h.listed x).mp (hsub List.mem_cons_self)).2
        refine hserved.finish hleft (by simp [BroadcastPc.due, hpc]) hlast rfl hleft ?_ rfl
          fun before r hr hheard => ?_
        · simpa [BroadcastPc.due, putString] using (List.nodup_cons.mp hnodup).1
        · have hr' : (s.listener x).received = r := by simpa [BroadcastPc.part, hpc] using hr
          simpa [hr'] using hheard.whole []
    · refine hserved.congr rfl rfl ?_ ?_
      · rw [setPc_pc, due_putString hx, hpc]
        simp [BroadcastPc.due, hx]
      · rw [setPc_pc, part_putString hx, hpc]
        rfl

/-- The last one has been served. -/
theorem BroadcastInv.leave (h : BroadcastInv s) (hpc : s.pc = .broadcast packet []) :
    BroadcastInv (s.setPc .readFile) where
  nodup := h.nodup
  listed := h.listed
  fresh := h.fresh
  ahead_nodup := .nil
  ahead_listed := nofun
  offset _ _ _ _ he := by cases he
  packet _ he := by cases he
  served c j hj := by
    refine (h.served c j hj).congr rfl rfl ?_ ?_
    · simp [BroadcastPc.due, hpc]
    · simp [BroadcastPc.part, hpc]

/-- **A `WriteFile`** to the pipe of `c`, which gets `l` for it: the others are not concerned. -/
theorem BroadcastInv.write (h : BroadcastInv s) {pc : BroadcastPc} {l : Listener} {offset : Nat}
    (hpc : s.pc = .putString packet c offset rest) (hjoined : l.joined = (s.listener c).joined)
    (hleft : l.left = (s.listener c).left) (hahead : List.Sublist pc.ahead (c :: rest))
    (hpacket : pc.packet = some packet)
    (hoffset : ∀ packet c offset rest, pc = .putString packet c offset rest → offset < packet.length)
    (hdue : ∀ x, x ≠ c → pc.due x = decide (x ∈ rest)) (hpart : ∀ x, x ≠ c → pc.part x = [])
    (hserved : ∀ j, Served s c j → Served ((s.setListener c l).setPc pc) c j) :
    BroadcastInv ((s.setListener c l).setPc pc) := by
  have hnodup : (c :: rest).Nodup := by simpa [BroadcastPc.ahead, hpc] using h.ahead_nodup
  have hsub : c :: rest ⊆ s.list := by simpa [BroadcastPc.ahead, hpc] using h.ahead_listed
  have hlast := h.packet packet (by rw [hpc]; rfl)
  refine ⟨h.nodup, fun x => ?_, fun x hx => ?_, hahead.nodup hnodup,
    fun x hx => hsub (hahead.subset hx), hoffset, fun packet' he => ?_, fun x j hj => ?_⟩
  · by_cases hxc : x = c
    · subst hxc
      simpa [hjoined, hleft] using h.listed x
    · simpa [hxc] using h.listed x
  · by_cases hxc : x = c
    · subst hxc
      have hmem := ((h.listed x).mp (hsub List.mem_cons_self)).1
      exact absurd (by simpa [hjoined] using hx) hmem
    · simpa [hxc] using h.fresh x (by simpa [hxc] using hx)
  · obtain rfl : packet = packet' := by simpa [hpacket] using he
    exact hlast
  · by_cases hxc : x = c
    · subst hxc
      exact hserved j (h.served x j (by simpa [hjoined] using hj))
    · refine (h.served x j (by simpa [hxc] using hj)).congr (by simp [hxc]) rfl ?_ ?_
      · rw [setPc_pc, hdue x hxc, hpc]
        simp [BroadcastPc.due, hxc]
      · rw [setPc_pc, hpart x hxc, hpc]
        simp [BroadcastPc.part, hxc]

/-- **It has written something.** -/
theorem BroadcastInv.wrote (h : BroadcastInv s) {offset n : Nat}
    (hpc : s.pc = .putString packet c offset rest) : BroadcastInv (s.writeFile (some n)) := by
  have hnodup : (c :: rest).Nodup := by simpa [BroadcastPc.ahead, hpc] using h.ahead_nodup
  have hsub : c :: rest ⊆ s.list := by simpa [BroadcastPc.ahead, hpc] using h.ahead_listed
  have hleft := ((h.listed c).mp (hsub List.mem_cons_self)).2
  have hlast := h.packet packet (by rw [hpc]; rfl)
  have hoffset := h.offset packet c offset rest hpc
  have hpart : s.pc.part c = packet.take offset := by simp [BroadcastPc.part, hpc]
  have htake : packet.take offset ++ (packet.drop offset).take n = packet.take (offset + n) :=
    List.take_add.symm
  simp only [Broadcast.writeFile, hpc]
  refine h.write hpc rfl rfl ahead_putString packet_putString (fun _ _ _ _ he => ?_)
    (fun x hx => due_putString hx) (fun x hx => part_putString hx) fun j hserved => ?_
  · rw [putString] at he
    split at he
    · cases he
      assumption
    · cases he
  · by_cases hlt : offset + n < packet.length
    · have hnext : putString packet c (offset + n) rest = .putString packet c (offset + n) rest :=
        if_pos hlt
      obtain ⟨r, hr, hheard⟩ := hserved.heard
      rw [hpart] at hr
      have hupTo : ((s.setListener c ((s.listener c).hear ((packet.drop offset).take n))).setPc
          (putString packet c (offset + n) rest)).upTo c = s.upTo c := by
        simp [Broadcast.upTo, BroadcastPc.due, hpc, hnext]
      refine ⟨hupTo ▸ hserved.joined_le, by rw [hupTo]; exact hserved.upTo_le, r, ?_, ?_⟩
      · simp [BroadcastPc.part, hnext, hr, ← htake]
      · rw [hupTo]
        simpa using hheard
    · -- the packet is through
      have hnext : putString packet c (offset + n) rest = .broadcast packet rest := if_neg hlt
      have hall : packet.take (offset + n) = packet := List.take_of_length_le (by omega)
      refine hserved.finish hleft (by simp [BroadcastPc.due, hpc]) hlast rfl (by simpa using hleft)
        ?_ (by rw [setPc_pc, hnext]; rfl) fun before r hr hheard => ?_
      · simpa [BroadcastPc.due, hnext] using (List.nodup_cons.mp hnodup).1
      · have hreceived : (s.listener c).received ++ (packet.drop offset).take n = r ++ packet := by
          rw [hr, hpart, List.append_assoc, htake, hall]
        simpa [hreceived] using hheard.whole packet

/-- **It has failed**: what is left of the packet is not put out there. -/
theorem BroadcastInv.failed (h : BroadcastInv s) {offset : Nat}
    (hpc : s.pc = .putString packet c offset rest) : BroadcastInv (s.writeFile none) := by
  have hnodup : (c :: rest).Nodup := by simpa [BroadcastPc.ahead, hpc] using h.ahead_nodup
  have hsub : c :: rest ⊆ s.list := by simpa [BroadcastPc.ahead, hpc] using h.ahead_listed
  have hleft := ((h.listed c).mp (hsub List.mem_cons_self)).2
  have hlast := h.packet packet (by rw [hpc]; rfl)
  simp only [Broadcast.writeFile, hpc]
  refine h.write hpc rfl rfl (List.sublist_cons_self c rest) rfl nofun (fun _ _ => rfl)
    (fun _ _ => rfl) fun j hserved => ?_
  refine hserved.finish hleft (by simp [BroadcastPc.due, hpc]) hlast rfl (by simpa using hleft) ?_ rfl
    fun before r hr hheard => ?_
  · simpa [BroadcastPc.due] using (List.nodup_cons.mp hnodup).1
  · have hpart : s.pc.part c = packet.take offset := by simp [BroadcastPc.part, hpc]
    have hcut := hheard.cut (List.take_prefix offset packet)
    rw [← hpart, ← hr] at hcut
    simpa using hcut

/-- **A connection is linked**, and hears the packets that are read from then on. -/
theorem BroadcastInv.insertTailList (h : BroadcastInv s) (hs : s.pc.locked = false)
    (hnone : (s.listener c).joined = none) :
    BroadcastInv { s.setListener c ((s.listener c).join s.packets.length) with
      list := s.list ++ [c] } where
  nodup := by
    have hc : c ∉ s.list := fun hmem => ((h.listed c).mp hmem).1 hnone
    exact List.nodup_append_comm.mp (List.nodup_cons.mpr ⟨hc, h.nodup⟩)
  listed x := by
    by_cases hx : x = c
    · subst hx
      simp [h.fresh x hnone, Listener.new]
    · simpa [hx] using h.listed x
  fresh x hnone' := by
    by_cases hx : x = c
    · subst hx
      simp at hnone'
    · simpa [hx] using h.fresh x (by simpa [hx] using hnone')
  ahead_nodup := h.ahead_nodup
  ahead_listed x hx := List.mem_append_left _ (h.ahead_listed hx)
  offset := h.offset
  packet := h.packet
  served x j hj := by
    by_cases hx : x = c
    · subst hx
      obtain rfl : s.packets.length = j := by simpa using hj
      have hupTo : Broadcast.upTo { s.setListener x ((s.listener x).join s.packets.length) with
          list := s.list ++ [x] } x = s.packets.length := by
        simp [Broadcast.upTo, h.fresh x hnone, Listener.new, due_unlocked hs]
      refine ⟨Nat.le_of_eq hupTo.symm, Nat.le_of_eq hupTo, [], ?_, ?_⟩
      · simp [h.fresh x hnone, Listener.new, part_unlocked hs]
      · rw [hupTo]
        simpa using Heard.nil _
    · exact (h.served x j (by simpa [hx] using hj)).congr (by simp [hx]) rfl rfl rfl

/-- **A connection is unlinked.** -/
theorem BroadcastInv.removeEntryList (h : BroadcastInv s) (hs : s.pc.locked = false)
    (hc : c ∈ s.list) :
    BroadcastInv { s.setListener c ((s.listener c).leave s.packets.length) with
      list := s.list.erase c } where
  nodup := h.nodup.erase c
  listed x := by
    by_cases hx : x = c
    · subst hx
      simp [h.nodup.mem_erase_iff]
    · simpa [hx, h.nodup.mem_erase_iff] using h.listed x
  fresh x hnone := by
    by_cases hx : x = c
    · subst hx
      exact absurd (by simpa using hnone) ((h.listed x).mp hc).1
    · simpa [hx] using h.fresh x (by simpa [hx] using hnone)
  ahead_nodup := h.ahead_nodup
  ahead_listed x hx := by
    have hx' : x ∈ s.pc.ahead := hx
    rw [ahead_unlocked hs] at hx'
    cases hx'
  offset := h.offset
  packet := h.packet
  served x j hj := by
    by_cases hx : x = c
    · subst hx
      have hserved := h.served x j (by simpa using hj)
      have hupTo : s.upTo x = s.packets.length := by
        simp [Broadcast.upTo, ((h.listed x).mp hc).2, due_unlocked hs]
      have hupTo' : Broadcast.upTo { s.setListener x ((s.listener x).leave s.packets.length) with
          list := s.list.erase x } x = s.upTo x := by
        rw [hupTo]
        simp [Broadcast.upTo]
      refine ⟨hupTo' ▸ hserved.joined_le, hupTo' ▸ hserved.upTo_le, ?_⟩
      rw [hupTo']
      simpa using hserved.heard
    · exact (h.served x j (by simpa [hx] using hj)).congr (by simp [hx]) rfl rfl rfl

/-- **Every step keeps it.** -/
theorem broadcast_next {l : BroadcastLabel} (h : BroadcastInv s)
    (he : broadcastSystem.enabled s l) : BroadcastInv (broadcastSystem.next s l) := by
  have henabled : broadcastEnabled s l = true := he
  cases l with
  | createFile granted =>
      have hpc : s.pc = .start := by simpa [broadcastEnabled] using henabled
      refine h.setPc (by rw [hpc]; rfl) ?_
      cases granted <;> rfl
  | readFile =>
      have hpc : s.pc = .readFile := by simpa [broadcastEnabled] using henabled
      exact h.setPc (by rw [hpc]; rfl) rfl
  | overlapped r =>
      cases r with
      | data bytes =>
          have hpc : s.pc = .wait ∧ bytes.length ≤ MAXIMUM_BUFFER_SIZE := by
            simpa [broadcastEnabled] using henabled
          exact h.setPc (by rw [hpc.1]; rfl) rfl
      | failed =>
          have hpc : s.pc = .wait := by simpa [broadcastEnabled] using henabled
          exact h.setPc (by rw [hpc]; rfl) rfl
  | deviceEvent =>
      have hpc : s.pc = .wait := by simpa [broadcastEnabled] using henabled
      exact h.setPc (by rw [hpc]; rfl) rfl
  | enterCriticalSection =>
      simp only [broadcastSystem, broadcastNext]
      split
      · rename_i packet hpc
        exact h.enter hpc
      · exact h
  | next =>
      simp only [broadcastSystem, broadcastNext]
      split
      · rename_i packet c rest hpc
        exact h.nextConnection hpc
      · rename_i packet hpc
        exact h.leave hpc
      · exact h
  | writeFile written =>
      cases hpc : s.pc with
      | putString packet c offset rest =>
          cases written with
          | none => exact h.failed hpc
          | some n => exact h.wrote hpc
      | start | readFile | wait | enter packet | broadcast packet rest | ended =>
          simp [broadcastEnabled, hpc] at henabled
  | insertTailList c =>
      have hc : s.pc.locked = false ∧ (s.listener c).joined = none := by
        simpa [broadcastEnabled] using henabled
      exact h.insertTailList hc.1 hc.2
  | removeEntryList c =>
      have hc : s.pc.locked = false ∧ c ∈ s.list := by simpa [broadcastEnabled] using henabled
      exact h.removeEntryList hc.1 hc.2

end Steps

theorem reach_broadcast {P : Broadcast → BroadcastLabel → Prop} {s : Broadcast}
    (h : Reach broadcastSystem P .init s) : BroadcastInv s :=
  h.invariant broadcastInv_init fun _ _ hs he _ => broadcast_next hs he

/-! ## 4. The clients -/

/-- What it has of a packet that it is not through with belongs to the next one. -/
theorem BroadcastInv.part_isPrefix {s : Broadcast} (h : BroadcastInv s) (c : Nat) :
    s.pc.part c <+: (s.packets.drop (s.upTo c)).flatten := by
  cases hpc : s.pc with
  | putString packet c' offset rest =>
      by_cases hc : c = c'
      · subst hc
        have hmem : c ∈ s.list := h.ahead_listed (by simp [BroadcastPc.ahead, hpc])
        obtain ⟨before, hbefore⟩ := List.getLast?_eq_some_iff.mp (h.packet packet (by rw [hpc]; rfl))
        have hupTo : s.upTo c = before.length := by
          simp [Broadcast.upTo, ((h.listed c).mp hmem).2, BroadcastPc.due, hpc, hbefore]
        simpa [BroadcastPc.part, hupTo, hbefore] using List.take_prefix offset packet
      · simp [BroadcastPc.part, hc]
  | start | readFile | wait | enter packet | broadcast packet rest | ended =>
      simp [BroadcastPc.part]

/-- Who has missed nothing has got what was put out from `j` on. -/
theorem BroadcastInv.received_eq {s : Broadcast} (h : BroadcastInv s) {c j : Nat}
    (hj : (s.listener c).joined = some j) (hintact : (s.listener c).intact = true) :
    (s.packets.take j).flatten ++ (s.listener c).received =
      (s.packets.take (s.upTo c)).flatten ++ s.pc.part c := by
  have hserved := h.served c j hj
  obtain ⟨r, hr, hheard⟩ := hserved.heard
  rw [hintact] at hheard
  have htake : (s.packets.take (s.upTo c)).take j = s.packets.take j := by
    rw [List.take_take, Nat.min_eq_left hserved.joined_le]
  calc (s.packets.take j).flatten ++ (s.listener c).received
      = (s.packets.take j ++ (s.packets.take (s.upTo c)).drop j).flatten ++ s.pc.part c := by
        rw [hr, hheard.eq_flatten, List.flatten_append, List.append_assoc]
    _ = (s.packets.take (s.upTo c)).flatten ++ s.pc.part c := by
        rw [← htake, List.take_append_drop]

theorem BroadcastInv.received_isPrefix {s : Broadcast} (h : BroadcastInv s) {c j : Nat}
    (hj : (s.listener c).joined = some j) (hintact : (s.listener c).intact = true) :
    (s.packets.take j).flatten ++ (s.listener c).received <+: s.packets.flatten := by
  rw [h.received_eq hj hintact]
  obtain ⟨more, hmore⟩ := h.part_isPrefix c
  refine ⟨more, ?_⟩
  rw [List.append_assoc, hmore, ← List.flatten_append, List.take_append_drop]

/-- **What the device says, every client hears.** In every run, whoever has been linked behind `j`
    packets has got, of each of the packets from there on, up to where it was unlinked or up to the
    one that is being put out, a beginning, one behind the other; and if no write to its pipe has
    failed, whatever becomes of the other clients, it has all the bytes from there on without a gap,
    and as soon as the thread is through with a packet, nothing that it has still to get. -/
theorem clients_hear {s : Broadcast} (h : Reach broadcastSystem (fun _ _ => True) .init s)
    {c j : Nat} (hj : (s.listener c).joined = some j) :
    Served s c j ∧
    ((s.listener c).intact = true →
      (s.packets.take j).flatten ++ (s.listener c).received <+: s.packets.flatten) ∧
    ((s.listener c).intact = true → (s.listener c).left = none → s.pc.locked = false →
      (s.packets.take j).flatten ++ (s.listener c).received = s.packets.flatten) := by
  have hinv := reach_broadcast h
  refine ⟨hinv.served c j hj, hinv.received_isPrefix hj, fun hintact hleft hunlocked => ?_⟩
  have hupTo : s.upTo c = s.packets.length := by
    simp [Broadcast.upTo, hleft, due_unlocked hunlocked]
  rw [hinv.received_eq hj hintact, hupTo, part_unlocked hunlocked, List.take_length,
    List.append_nil]

/-- Two clients, of which the first takes a packet in two parts and the second refuses it; then a
    packet for the first alone. -/
def twoListeners : List BroadcastLabel :=
  [.createFile true, .insertTailList 0, .insertTailList 1, .readFile, .overlapped (.data [1, 2, 3]),
    .enterCriticalSection, .next, .writeFile (some 1), .writeFile (some 2), .next,
    .writeFile none, .next, .removeEntryList 1, .readFile, .overlapped (.data [4]),
    .enterCriticalSection, .next, .writeFile (some 1), .next]

theorem clients_hear_twoListeners :
    ((runs broadcastSystem .init twoListeners).listener 0).received = [1, 2, 3, 4] ∧
    ((runs broadcastSystem .init twoListeners).listener 1).received = [] ∧
    Served (runs broadcastSystem .init twoListeners) 0 0 :=
  ⟨by decide +kernel, by decide +kernel,
    (clients_hear (.of_admits twoListeners .start (by decide +kernel)) (by decide +kernel)).1⟩

end Xencons.Monitor
