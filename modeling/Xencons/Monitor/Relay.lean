import Xencons.Lib.Transition
import Xencons.Monitor.Machine

/-!
# What a client writes reaches the device (monitor.c)

`ConnectionThread` reads the messages of its client one by one, up to 1024 bytes of each, and puts
them out on the device. A message that is longer than that completes the read with
`ERROR_MORE_DATA`, which `GetOverlappedResult` returns as any other failure, and the thread ends.

* `Relay`, `relayNext`, `relaySystem` -- the client, its pipe and the thread, in steps between the
  system's calls;
* `Fits` -- the messages that a read takes whole: `Relayed`, what steps with such messages keep;
* `relay_finishes` -- the thread alone brings what has been written to the device;
* **`messages_relayed`**; `long_message_lost`.
-/

namespace Xencons.Monitor

open Lib

abbrev Byte := UInt8

/-- What `GetOverlappedResult` says of the read. -/
inductive ReadResult where
  | data (bytes : List Byte)
  | failed
deriving DecidableEq

/-- How far `ConnectionThread` has come. -/
inductive RelayPc where
  /-- `CreateEvent` -/
  | start
  /-- the call of `ReadFile` -/
  | readFile
  /-- the read waits for a message -/
  | pending
  /-- the read is over and `Overlapped.hEvent` signalled -/
  | completed (r : ReadResult)
  /-- `ReadFile` has failed at once and signalled nothing -/
  | refused
  /-- `PutString`, with what it has not written -/
  | putString (rest : List Byte)
  | ended
deriving DecidableEq

structure Relay where
  /-- the messages in the pipe -/
  pipe : List (List Byte)
  /-- the client has closed its end -/
  closed : Bool
  /-- `ServerEvent` -/
  serverEvent : Bool
  pc : RelayPc
  /-- what has been written to the device -/
  device : List Byte
  /-- the messages that the client has written -/
  sent : List (List Byte)
deriving DecidableEq

inductive RelayLabel where
  | clientWrite (message : List Byte)
  | clientClose
  | setServerEvent
  | createEvent (granted : Bool)
  /-- where it fails at once, it may signal the event or not -/
  | readFile (signalled : Bool)
  | complete
  | waitForMultipleObjects
  | writeFile (written : Nat)

namespace Relay

def init : Relay := ⟨[], false, false, .start, [], []⟩

/-- What a read takes of the messages: the first of them, and of that what the buffer has room for;
    the rest is left for the next read. -/
def readMessage (message : List Byte) (pipe : List (List Byte)) : ReadResult × List (List Byte) :=
  if message.length ≤ MAXIMUM_BUFFER_SIZE then (.data message, pipe)
  else (.failed, message.drop MAXIMUM_BUFFER_SIZE :: pipe)

/-- The read of a pipe that has a message or is closed. -/
def readNow (s : Relay) (signalled : Bool) : Relay :=
  match s.pipe with
  | message :: pipe =>
    let (r, pipe) := readMessage message pipe
    { s with pipe := pipe, pc := .completed r }
  | [] => { s with pc := if signalled then .completed .failed else .refused }

def readFile (s : Relay) (signalled : Bool) : Relay :=
  if s.pipe = [] ∧ s.closed = false then { s with pc := .pending } else s.readNow signalled

/-- `PutString` returns when there is nothing left to write. -/
def putString (rest : List Byte) : RelayPc := if rest = [] then .readFile else .putString rest

/-- The thread looks at `ServerEvent` first, and then at what has become of the read. -/
def waitForMultipleObjects (s : Relay) : Relay :=
  if s.serverEvent then { s with pc := .ended }
  else
    match s.pc with
    | .completed (.data bytes) => { s with pc := putString bytes }
    | _ => { s with pc := .ended }

def writeFile (s : Relay) (written : Nat) : Relay :=
  match s.pc with
  | .putString rest =>
    { s with device := s.device ++ rest.take written, pc := putString (rest.drop written) }
  | _ => s

end Relay

open Relay

/-- `WaitForMultipleObjects` returns. -/
def RelayPc.wakes (serverEvent : Bool) : RelayPc → Bool
  | .completed _ => true
  | .pending | .refused => serverEvent
  | _ => false

def RelayPc.writes (written : Nat) : RelayPc → Bool
  | .putString rest => written ≤ rest.length
  | _ => false

/-- A client whose instance has been disconnected writes nothing more. -/
def relayEnabled (s : Relay) : RelayLabel → Bool
  | .clientWrite _ => !s.closed && s.pc ≠ .ended
  | .clientClose => !s.closed
  | .setServerEvent => true
  | .createEvent _ => s.pc = .start
  | .readFile _ => s.pc = .readFile
  | .complete => s.pc = .pending && (s.pipe ≠ [] || s.closed)
  | .waitForMultipleObjects => s.pc.wakes s.serverEvent
  | .writeFile written => s.pc.writes written

def relayNext (s : Relay) : RelayLabel → Relay
  | .clientWrite message =>
    { s with pipe := s.pipe ++ [message], sent := s.sent ++ [message] }
  | .clientClose => { s with closed := true }
  | .setServerEvent => { s with serverEvent := true }
  | .createEvent granted => { s with pc := if granted then .readFile else .ended }
  | .readFile signalled => s.readFile signalled
  | .complete => s.readNow true
  | .waitForMultipleObjects => s.waitForMultipleObjects
  | .writeFile written => s.writeFile written

def relaySystem : System Relay RelayLabel where
  enabled s l := relayEnabled s l = true
  next := relayNext

instance (s : Relay) (l : RelayLabel) : Decidable (relaySystem.enabled s l) :=
  inferInstanceAs (Decidable (relayEnabled s l = true))

/-! ## 1. Messages that a read takes whole -/

/-- The message fits into the buffer, and the event could be created. -/
def Fits (_ : Relay) : RelayLabel → Prop
  | .clientWrite message => message.length ≤ MAXIMUM_BUFFER_SIZE
  | .createEvent granted => granted = true
  | _ => True

instance (s : Relay) : ∀ l, Decidable (Fits s l)
  | .clientWrite _ => inferInstanceAs (Decidable (_ ≤ _))
  | .createEvent _ => inferInstanceAs (Decidable (_ = _))
  | .clientClose | .setServerEvent | .readFile _ | .complete | .waitForMultipleObjects
  | .writeFile _ => .isTrue trivial

/-- What the thread has read and not written. -/
def RelayPc.inHand : RelayPc → List Byte
  | .completed (.data bytes) => bytes
  | .putString rest => rest
  | _ => []

/-- Nothing is lost as long as the thread goes on, and it does so up to the end of the messages or
    `ServerEvent`. -/
structure Relayed (s : Relay) : Prop where
  short : ∀ message ∈ s.pipe, message.length ≤ MAXIMUM_BUFFER_SIZE
  conserved : s.pc ≠ .ended → s.device ++ s.pc.inHand ++ s.pipe.flatten = s.sent.flatten
  failed : s.pc = .completed .failed ∨ s.pc = .refused → s.closed = true ∧ s.pipe = []
  putting : ∀ rest, s.pc = .putString rest → rest ≠ []
  ended : s.pc = .ended → s.device <+: s.sent.flatten ∧
    (s.serverEvent = true ∨ s.closed = true ∧ s.device = s.sent.flatten)

section Steps

variable {s : Relay} {l : RelayLabel}

theorem relayed_init : Relayed .init where
  short := nofun
  conserved _ := rfl
  failed h := by rcases h with h | h <;> cases h
  putting _ h := by cases h
  ended h := by cases h

/-- What has been written is part of what has been sent. -/
theorem Relayed.device_isPrefix (h : Relayed s) : s.device <+: s.sent.flatten := by
  by_cases hended : s.pc = .ended
  · exact (h.ended hended).1
  · exact ⟨s.pc.inHand ++ s.pipe.flatten, by rw [← List.append_assoc, h.conserved hended]⟩

theorem inHand_putString (rest : List Byte) : (putString rest).inHand = rest := by
  unfold putString
  split
  · rename_i h
    exact h.symm
  · rfl

theorem putString_ne (rest : List Byte) :
    putString rest ≠ .ended ∧ putString rest ≠ .completed .failed ∧ putString rest ≠ .refused := by
  unfold putString
  split <;> exact ⟨nofun, nofun, nofun⟩

theorem of_putString {rest rest' : List Byte} (h : putString rest = .putString rest') :
    rest' ≠ [] := by
  unfold putString at h
  split at h
  · cases h
  · rename_i hne
    exact RelayPc.putString.inj h ▸ hne

theorem readNow_nil (h : s.pipe = []) (signalled : Bool) :
    s.readNow signalled = { s with pc := if signalled then .completed .failed else .refused } := by
  unfold Relay.readNow
  rw [h]

theorem readNow_cons {message : List Byte} {pipe : List (List Byte)} (h : s.pipe = message :: pipe)
    (signalled : Bool) :
    s.readNow signalled =
      { s with
        pipe := (readMessage message pipe).2
        pc := .completed (readMessage message pipe).1 } := by
  unfold Relay.readNow
  rw [h]

/-- The thread goes on, and nothing is lost. -/
theorem relayed_of_going (hshort : ∀ message ∈ s.pipe, message.length ≤ MAXIMUM_BUFFER_SIZE)
    (hconserved : s.device ++ s.pc.inHand ++ s.pipe.flatten = s.sent.flatten)
    (hpc : s.pc ≠ .ended ∧ s.pc ≠ .completed .failed ∧ s.pc ≠ .refused)
    (hput : ∀ rest, s.pc = .putString rest → rest ≠ []) : Relayed s where
  short := hshort
  conserved _ := hconserved
  failed h := absurd h (not_or.mpr hpc.2)
  putting := hput
  ended h := absurd h hpc.1

/-- A read that need not wait takes the first message whole, or there is none and will be none. -/
theorem Relayed.readNow (h : Relayed s) (hp : s.pc.inHand = []) (hne : s.pc ≠ .ended)
    (hpipe : s.pipe ≠ [] ∨ s.closed = true) (signalled : Bool) :
    Relayed (s.readNow signalled) := by
  have hconserved := h.conserved hne
  rw [hp, List.append_nil] at hconserved
  cases hmessages : s.pipe with
  | nil =>
      have hclosed := hpipe.resolve_left fun hne => hne hmessages
      rw [readNow_nil hmessages]
      cases signalled <;> exact
        { short := h.short
          conserved := fun _ => (congrArg (· ++ _) (List.append_nil _)).trans hconserved
          failed := fun _ => ⟨hclosed, hmessages⟩
          putting := fun _ h => by cases h
          ended := fun h => by cases h }
  | cons message pipe =>
      have hshort := h.short
      rw [hmessages, List.forall_mem_cons] at hshort
      rw [hmessages, List.flatten_cons, ← List.append_assoc] at hconserved
      rw [readNow_cons hmessages, readMessage, if_pos hshort.1]
      exact relayed_of_going hshort.2 hconserved ⟨nofun, nofun, nofun⟩ nofun

/-- The thread ends with `ServerEvent`, or when all has been written. -/
theorem Relayed.to_ended (h : Relayed s)
    (hor : s.serverEvent = true ∨ s.closed = true ∧ s.device = s.sent.flatten) :
    Relayed { s with pc := .ended } where
  short := h.short
  conserved hne := absurd rfl hne
  failed hfail := by rcases hfail with hfail | hfail <;> cases hfail
  putting _ hput := by cases hput
  ended _ := ⟨h.device_isPrefix, hor⟩

theorem Relayed.waitForMultipleObjects (h : Relayed s) (hw : s.pc.wakes s.serverEvent = true) :
    Relayed s.waitForMultipleObjects := by
  unfold Relay.waitForMultipleObjects
  by_cases hs : s.serverEvent = true
  · rw [if_pos hs]
    exact h.to_ended (.inl hs)
  · rw [if_neg hs]
    rw [(Bool.not_eq_true _).mp hs] at hw
    cases hpc : s.pc with
    | completed r =>
        have hconserved := h.conserved (by rw [hpc]; exact nofun)
        cases r with
        | data bytes =>
            refine relayed_of_going h.short ?_ (putString_ne bytes) fun _ e => of_putString e
            show s.device ++ (putString bytes).inHand ++ s.pipe.flatten = s.sent.flatten
            rw [inHand_putString]
            rwa [hpc] at hconserved
        | failed =>
            obtain ⟨hclosed, hpipe⟩ := h.failed (.inl hpc)
            rw [hpc, hpipe] at hconserved
            have hall : s.device ++ [] ++ [] = s.sent.flatten := hconserved
            rw [List.append_nil, List.append_nil] at hall
            exact h.to_ended (.inr ⟨hclosed, hall⟩)
    | _ => rw [hpc] at hw; cases hw

/-- **Kept by every step** with messages that fit. -/
theorem relayed_next (h : Relayed s) (he : relayEnabled s l = true) (hf : Fits s l) :
    Relayed (relayNext s l) := by
  cases l with
  | clientWrite message =>
      obtain ⟨hopen, hne⟩ : s.closed = false ∧ s.pc ≠ .ended := by simpa [relayEnabled] using he
      refine ⟨?_, fun _ => ?_, fun hfail => ?_, h.putting, fun hended => absurd hended hne⟩
      · exact List.forall_mem_append.mpr ⟨h.short, List.forall_mem_singleton.mpr hf⟩
      · show s.device ++ s.pc.inHand ++ (s.pipe ++ [message]).flatten =
          (s.sent ++ [message]).flatten
        rw [List.flatten_concat, List.flatten_concat, ← List.append_assoc, h.conserved hne]
      · cases (h.failed hfail).1.symm.trans hopen
  | clientClose =>
      exact ⟨h.short, h.conserved, fun hfail => ⟨rfl, (h.failed hfail).2⟩, h.putting,
        fun hended => (h.ended hended).imp_right fun hor => hor.imp_right fun hd => ⟨rfl, hd.2⟩⟩
  | setServerEvent =>
      exact ⟨h.short, h.conserved, h.failed, h.putting,
        fun hended => (h.ended hended).imp_right fun _ => .inl rfl⟩
  | createEvent granted =>
      have hpc : s.pc = .start := of_decide_eq_true he
      have hconserved := h.conserved (by rw [hpc]; exact nofun)
      rw [hpc] at hconserved
      obtain rfl : granted = true := hf
      exact relayed_of_going h.short hconserved ⟨nofun, nofun, nofun⟩ nofun
  | readFile signalled =>
      have hpc : s.pc = .readFile := of_decide_eq_true he
      have hne : s.pc ≠ .ended := by
        rw [hpc]
        exact nofun
      have hp : s.pc.inHand = [] := by
        rw [hpc]
        rfl
      show Relayed (s.readFile signalled)
      unfold Relay.readFile
      by_cases hempty : s.pipe = [] ∧ s.closed = false
      · have hconserved := h.conserved hne
        rw [hp] at hconserved
        rw [if_pos hempty]
        exact relayed_of_going h.short hconserved ⟨nofun, nofun, nofun⟩ nofun
      · rw [if_neg hempty]
        refine h.readNow hp hne ?_ signalled
        rcases not_and_or.mp hempty with hne | hclosed
        · exact .inl hne
        · exact .inr ((Bool.not_eq_false _).mp hclosed)
  | complete =>
      obtain ⟨hpc, hpipe⟩ : s.pc = .pending ∧ (s.pipe ≠ [] ∨ s.closed = true) := by
        simpa [relayEnabled] using he
      exact h.readNow (by rw [hpc]; rfl) (by rw [hpc]; exact nofun) hpipe true
  | waitForMultipleObjects => exact h.waitForMultipleObjects he
  | writeFile written =>
      have hw : s.pc.writes written = true := he
      show Relayed (s.writeFile written)
      unfold Relay.writeFile
      cases hpc : s.pc with
      | putString rest =>
          have hconserved := h.conserved (by rw [hpc]; exact nofun)
          rw [hpc] at hconserved
          refine relayed_of_going h.short ?_ (putString_ne _) fun rest' e => of_putString e
          show s.device ++ rest.take written ++ (putString (rest.drop written)).inHand ++
            s.pipe.flatten = s.sent.flatten
          rw [inHand_putString, List.append_assoc s.device, List.take_append_drop]
          exact hconserved
      | _ => rw [hpc] at hw; cases hw

theorem reach_relayed (h : Reach relaySystem Fits .init s) : Relayed s :=
  h.invariant relayed_init fun _ _ => relayed_next

end Steps

/-! ## 2. The thread alone -/

/-- The thread's steps, with writes that write something. -/
def RelayLabel.Working : RelayLabel → Prop
  | .createEvent granted => granted = true
  | .readFile _ | .complete | .waitForMultipleObjects => True
  | .writeFile written => 0 < written
  | _ => False

/-- There is nothing for the thread to do. -/
def Relay.Settled (s : Relay) : Prop := ∀ l, l.Working → relayEnabled s l = false

/-- The steps there are from here to the call of `ReadFile`, or more. -/
def RelayPc.work : RelayPc → Nat
  | .start => 4
  | .readFile => 3
  | .pending => 2
  | .completed (.data bytes) => 4 + bytes.length
  | .completed .failed => 1
  | .putString rest => 3 + rest.length
  | .refused | .ended => 0

/-- The steps there are to where the thread has nothing to do, or more. -/
def Relay.work (s : Relay) : Nat := s.pc.work + 4 * s.pipe.length + s.pipe.flatten.length

section Progress

variable {s : Relay} {l : RelayLabel}

theorem work_putString_le (rest : List Byte) : (putString rest).work ≤ 3 + rest.length := by
  unfold putString
  split
  · exact Nat.le_add_right 3 _
  · exact Nat.le_refl _

theorem work_readNow (h : Relayed s) (hpc : s.pc = .readFile ∨ s.pc = .pending) (signalled : Bool) :
    (s.readNow signalled).work < s.work := by
  have hpos : 2 ≤ s.pc.work := by rcases hpc with hpc | hpc <;> rw [hpc] <;> decide
  cases hmessages : s.pipe with
  | nil =>
      have hone : (if signalled then RelayPc.completed .failed else .refused).work ≤ 1 := by
        cases signalled <;> decide
      rw [readNow_nil hmessages]
      simp only [Relay.work]
      omega
  | cons message pipe =>
      have hshort := (List.forall_mem_cons.mp (hmessages ▸ h.short)).1
      rw [readNow_cons hmessages, readMessage, if_pos hshort]
      show 4 + message.length + 4 * pipe.length + pipe.flatten.length < s.work
      unfold Relay.work
      rw [hmessages, List.length_cons, List.flatten_cons, List.length_append]
      omega

theorem sent_readNow (signalled : Bool) :
    (s.readNow signalled).sent = s.sent ∧
      (s.readNow signalled).serverEvent = s.serverEvent := by
  cases hmessages : s.pipe with
  | nil => rw [readNow_nil hmessages]; exact ⟨rfl, rfl⟩
  | cons message pipe => rw [readNow_cons hmessages]; exact ⟨rfl, rfl⟩

/-- A step that changes only how far the thread has come. -/
theorem work_setPc {pc : RelayPc} (h : pc.work < s.pc.work) :
    ({ s with pc := pc } : Relay).work < s.work := by
  unfold Relay.work
  dsimp only
  omega

/-- **Each step of the thread leaves less to do**, and what has been sent is what had been. -/
theorem work_lt (h : Relayed s) (he : relayEnabled s l = true) (hs : s.serverEvent = false)
    (hl : l.Working) :
    (relayNext s l).work < s.work ∧ (relayNext s l).sent = s.sent ∧
      (relayNext s l).serverEvent = false := by
  cases l with
  | clientWrite message => exact hl.elim
  | clientClose => exact hl.elim
  | setServerEvent => exact hl.elim
  | createEvent granted =>
      have hpc : s.pc = .start := of_decide_eq_true he
      obtain rfl : granted = true := hl
      refine ⟨work_setPc ?_, rfl, hs⟩
      rw [hpc]
      decide
  | readFile signalled =>
      have hpc : s.pc = .readFile := of_decide_eq_true he
      show (s.readFile signalled).work < s.work ∧ (s.readFile signalled).sent = s.sent ∧
        (s.readFile signalled).serverEvent = false
      unfold Relay.readFile
      by_cases hempty : s.pipe = [] ∧ s.closed = false
      · rw [if_pos hempty]
        refine ⟨work_setPc ?_, rfl, hs⟩
        rw [hpc]
        decide
      · rw [if_neg hempty]
        exact ⟨work_readNow h (.inl hpc) signalled, (sent_readNow signalled).1,
          (sent_readNow signalled).2.trans hs⟩
  | complete =>
      obtain ⟨hpc, -⟩ : s.pc = .pending ∧ (s.pipe ≠ [] ∨ s.closed = true) := by
        simpa [relayEnabled] using he
      exact ⟨work_readNow h (.inr hpc) true, (sent_readNow true).1,
        (sent_readNow true).2.trans hs⟩
  | waitForMultipleObjects =>
      have hw : s.pc.wakes s.serverEvent = true := he
      show s.waitForMultipleObjects.work < s.work ∧ s.waitForMultipleObjects.sent = s.sent ∧
        s.waitForMultipleObjects.serverEvent = false
      unfold Relay.waitForMultipleObjects
      rw [hs] at hw
      rw [if_neg (by rw [hs]; decide)]
      cases hpc : s.pc with
      | completed r =>
          cases r with
          | data bytes =>
              refine ⟨work_setPc ?_, rfl, hs⟩
              have hle := work_putString_le bytes
              rw [hpc]
              show _ < 4 + bytes.length
              omega
          | failed =>
              refine ⟨work_setPc ?_, rfl, hs⟩
              rw [hpc]
              decide
      | _ => rw [hpc] at hw; cases hw
  | writeFile written =>
      have hw : s.pc.writes written = true := he
      have hpos : 0 < written := hl
      show (s.writeFile written).work < s.work ∧ (s.writeFile written).sent = s.sent ∧
        (s.writeFile written).serverEvent = false
      unfold Relay.writeFile
      cases hpc : s.pc with
      | putString rest =>
          rw [hpc] at hw
          have hwritten : written ≤ rest.length := of_decide_eq_true hw
          have hle := work_putString_le (rest.drop written)
          rw [List.length_drop] at hle
          refine ⟨?_, rfl, hs⟩
          show (putString (rest.drop written)).work + 4 * s.pipe.length + s.pipe.flatten.length <
            s.work
          unfold Relay.work
          rw [hpc]
          show _ < 3 + rest.length + 4 * s.pipe.length + s.pipe.flatten.length
          omega
      | _ => rw [hpc] at hw; cases hw

/-- **Where the thread has nothing to do, all of it has been written.** -/
theorem Relayed.settled (h : Relayed s) (hs : s.serverEvent = false) (hsettled : s.Settled) :
    s.device = s.sent.flatten := by
  have hall (hp : s.pc.inHand = []) (hne : s.pc ≠ .ended) (hpipe : s.pipe = []) :
      s.device = s.sent.flatten := by
    rw [← h.conserved hne, hp, hpipe, List.append_nil]
    exact (List.append_nil _).symm
  cases hpc : s.pc with
  | start => exact absurd (hsettled (.createEvent true) rfl) (by simp [relayEnabled, hpc])
  | readFile => exact absurd (hsettled (.readFile true) trivial) (by simp [relayEnabled, hpc])
  | pending =>
      have hwaits := hsettled .complete trivial
      have hpipe : s.pipe = [] := by
        by_contra hne
        simp [relayEnabled, hpc, hne] at hwaits
      exact hall (by rw [hpc]; rfl) (by rw [hpc]; exact nofun) hpipe
  | completed r =>
      exact absurd (hsettled .waitForMultipleObjects trivial)
        (by simp [relayEnabled, hpc, RelayPc.wakes])
  | refused =>
      exact hall (by rw [hpc]; rfl) (by rw [hpc]; exact nofun) (h.failed (.inr hpc)).2
  | putString rest =>
      have hpos := List.length_pos_iff.mpr (h.putting rest hpc)
      have hwaits := hsettled (.writeFile rest.length) hpos
      simp [relayEnabled, hpc, RelayPc.writes] at hwaits
  | ended =>
      rcases (h.ended hpc).2 with hevent | hdone
      · cases hs.symm.trans hevent
      · exact hdone.2

theorem fits_of_working (hl : l.Working) : Fits s l := by
  cases l with
  | createEvent granted => exact hl
  | clientWrite message => exact hl.elim
  | _ => trivial

/-- **The thread alone** brings what has been sent to the device. -/
theorem relay_finishes (h : Relayed s) (hs : s.serverEvent = false) :
    ∃ ls, (∀ l ∈ ls, l.Working) ∧ Admits relaySystem (fun _ _ => True) s ls ∧
      (runs relaySystem s ls).device = s.sent.flatten := by
  induction hn : s.work using Nat.strongRecOn generalizing s with
  | ind n ih =>
      by_cases hsettled : s.Settled
      · exact ⟨[], nofun, trivial, h.settled hs hsettled⟩
      · unfold Relay.Settled at hsettled
        push Not at hsettled
        obtain ⟨l, hl, he⟩ := hsettled
        have he := (Bool.not_eq_false _).mp he
        obtain ⟨hlt, hsent, hevent⟩ := work_lt h he hs hl
        obtain ⟨ls, hall, hadmits, hdevice⟩ :=
          ih _ (hn ▸ hlt) (relayed_next h he (fits_of_working hl)) hevent rfl
        exact ⟨l :: ls, List.forall_mem_cons.mpr ⟨hl, hall⟩, ⟨he, trivial, hadmits⟩,
          hdevice.trans (congrArg List.flatten hsent)⟩

end Progress

/-! ## 3. The messages -/

/-- **What is promised of a state**: what is on the device is the beginning of what was sent; the
    thread has ended only with `ServerEvent`, or with the client and all of it written; without
    `ServerEvent` all of it has been written where the thread has nothing to do, and the thread
    alone comes to that. -/
structure Relay.Delivers (s : Relay) : Prop where
  ordered : s.device <+: s.sent.flatten
  ends : s.pc = .ended → s.serverEvent = true ∨ s.closed = true ∧ s.device = s.sent.flatten
  settled : s.serverEvent = false → s.Settled → s.device = s.sent.flatten
  finishes : s.serverEvent = false → ∃ ls, (∀ l ∈ ls, l.Working) ∧
    Admits relaySystem (fun _ _ => True) s ls ∧ (runs relaySystem s ls).device = s.sent.flatten

/-- **Messages that fit are relayed.** -/
theorem messages_relayed {s : Relay} (h : Reach relaySystem Fits .init s) : s.Delivers where
  ordered := (reach_relayed h).device_isPrefix
  ends hended := ((reach_relayed h).ended hended).2
  settled := (reach_relayed h).settled
  finishes := relay_finishes (reach_relayed h)

/-- Two messages, one of them empty, the other one written in two parts. -/
def twoMessages : List RelayLabel :=
  [.createEvent true, .clientWrite [], .clientWrite [0x61, 0x62], .clientClose, .readFile true,
    .waitForMultipleObjects, .readFile true, .waitForMultipleObjects, .writeFile 1, .writeFile 1,
    .readFile true, .waitForMultipleObjects]

theorem messages_relayed_twoMessages : (runs relaySystem .init twoMessages).Delivers :=
  messages_relayed (.of_admits twoMessages .start (by decide))

/-- The thread and a message of 1025 bytes. -/
def longMessage : List RelayLabel :=
  [.createEvent true, .clientWrite (List.replicate (MAXIMUM_BUFFER_SIZE + 1) 0x61), .readFile true,
    .waitForMultipleObjects]

/-- **A message that does not fit is lost**, and with it the connection. -/
theorem long_message_lost : ∃ s, Reach relaySystem (fun _ _ => True) .init s ∧ s.pc = .ended ∧
    s.closed = false ∧ s.serverEvent = false ∧ s.device = [] ∧ ¬s.Delivers := by
  have hadmits : Admits relaySystem (fun _ _ => True) .init longMessage := by decide +kernel
  have hpc : (runs relaySystem .init longMessage).pc = .ended := by decide +kernel
  have hclosed : (runs relaySystem .init longMessage).closed = false := by decide +kernel
  have hevent : (runs relaySystem .init longMessage).serverEvent = false := by decide +kernel
  have hdevice : (runs relaySystem .init longMessage).device = [] := by decide +kernel
  refine ⟨_, .of_admits longMessage .start hadmits, hpc, hclosed, hevent, hdevice, fun h => ?_⟩
  rcases h.ends hpc with hset | ⟨hset, -⟩
  · cases hevent.symm.trans hset
  · cases hclosed.symm.trans hset

end Xencons.Monitor
