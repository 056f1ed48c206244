import Xencons.Lib.Transition
import Mathlib.Data.List.Nodup
import Mathlib.Logic.Function.Basic

/-!
# A mailbox with one slot

Senders hand messages to one receiver through a slot and an event that stays set until the receiver
clears it. The receiver does not wait while the slot is full. Neither side takes a lock: what keeps
a message from being overwritten is that nothing is sent before all that was sent has been finished.

* `Mailbox`, `mailbox` -- the machine: a sender checks that the slot is empty, stores and wakes; the
  receiver tests, waits, clears, reads, empties and handles;
* `Stage`, `Mailbox.At` -- where the one message under way is;
* `Mailbox.Inv`, `Mailbox.inv_next` -- the invariant, and that every step keeps it;
* `Mailbox.handles_all` -- once the sender has woken it, the receiver on its own handles what is
  stored.
-/

namespace Xencons.Lib

open Function

/-! ## 1. The machine -/

/-- Where a sender stands. -/
inductive SenderPc (μ : Type*) where
  | away
  /-- is about to check that the slot is empty -/
  | check (m : μ)
  | store (m : μ)
  /-- has stored, and has not set the event -/
  | wake
  /-- has found the slot full -/
  | failed

/-- Where the receiver stands. -/
inductive ReceiverPc (μ : Type*) where
  /-- is about to test whether it has to wait -/
  | test
  | wait
  | clear
  /-- is about to look whether it has to end, which it has not -/
  | alerted
  | read
  /-- has read the slot -/
  | found (m : Option μ)
  | empty (m : μ)
  | handle (m : μ)

/-- The slot, the event, the parties, and what has happened so far. -/
structure Mailbox (μ : Type*) where
  slot : Option μ
  event : Bool
  sender : Nat → SenderPc μ
  receiver : ReceiverPc μ
  sent : List μ
  stored : List μ
  handled : List μ
  finished : List μ

inductive MailboxLabel (μ : Type*) where
  | send (t : Nat) (m : μ)
  | sender (t : Nat)
  | receiver
  /-- a message that has been handled is finished -/
  | finish (m : μ)

variable {μ : Type*}

/-- What a sender holds that it has not stored. -/
def SenderPc.holds : SenderPc μ → Option μ
  | .check m | .store m => some m
  | _ => none

/-- What the receiver has taken out of the slot. -/
def ReceiverPc.holds : ReceiverPc μ → Option μ
  | .handle m => some m
  | _ => none

/-- What the receiver has read, and not taken. -/
def ReceiverPc.saw : ReceiverPc μ → Option μ
  | .found m => m
  | .empty m => some m
  | _ => none

/-- The steps that are left to the receiver before it has handled what is in the slot. -/
def ReceiverPc.left : ReceiverPc μ → Nat
  | .handle _ => 1
  | .empty _ => 2
  | .found (some _) => 3
  | .read => 4
  | .alerted => 5
  | .clear => 6
  | .wait => 7
  | .test => 8
  | .found none => 9

namespace Mailbox

/-- Nobody sends, and the receiver begins its loop. -/
def init : Mailbox μ where
  slot := none
  event := false
  sender _ := .away
  receiver := .test
  sent := []
  stored := []
  handled := []
  finished := []

/-- One step of a sender. -/
def senderNext (s : Mailbox μ) (t : Nat) : Mailbox μ :=
  match s.sender t with
  | .check m => { s with sender := update s.sender t (if s.slot.isNone then .store m else .failed) }
  | .store m =>
    { s with slot := some m, sender := update s.sender t .wake, stored := s.stored ++ [m] }
  | .wake => { s with event := true, sender := update s.sender t .away }
  | _ => s

/-- One step of the receiver. -/
def receiverNext (s : Mailbox μ) : Mailbox μ :=
  match s.receiver with
  | .test => { s with receiver := if s.slot.isNone then .wait else .alerted }
  | .wait => { s with receiver := .clear }
  | .clear => { s with event := false, receiver := .alerted }
  | .alerted => { s with receiver := .read }
  | .read => { s with receiver := .found s.slot }
  | .found none => { s with receiver := .test }
  | .found (some m) => { s with receiver := .empty m }
  | .empty m => { s with slot := none, receiver := .handle m }
  | .handle m => { s with handled := s.handled ++ [m], receiver := .test }

/-- What may be done: a message is sent once, and not before all the others are finished. -/
def Enabled (s : Mailbox μ) : MailboxLabel μ → Prop
  | .send t m => s.sender t = .away ∧ m ∉ s.sent ∧ ∀ x ∈ s.sent, x ∈ s.finished
  | .sender t => s.sender t ≠ .away ∧ s.sender t ≠ .failed
  | .receiver => s.receiver = .wait → s.event = true
  | .finish m => m ∈ s.handled ∧ m ∉ s.finished

def next (s : Mailbox μ) : MailboxLabel μ → Mailbox μ
  | .send t m => { s with sender := update s.sender t (.check m), sent := s.sent ++ [m] }
  | .sender t => s.senderNext t
  | .receiver => s.receiverNext
  | .finish m => { s with finished := s.finished ++ [m] }

/-- The receiver is blocked: it waits, and the event is clear. -/
def Blocked (s : Mailbox μ) : Prop := s.receiver = .wait ∧ s.event = false

/-- A sender is between its store and its wake. -/
def Waking (s : Mailbox μ) : Prop := ∃ t, s.sender t = .wake

end Mailbox

/-- **The mailbox machine.** -/
def mailbox (μ : Type*) : System (Mailbox μ) (MailboxLabel μ) where
  enabled := Mailbox.Enabled
  next := Mailbox.next

/-! ## 2. Where the message is -/

/-- Where the one message under way is. -/
inductive Stage (μ : Type*) where
  /-- there is none -/
  | idle
  | sending (t : Nat) (m : μ)
  | stored (m : μ)
  | taken (m : μ)

namespace Mailbox

/-- The message under way is where the stage says. -/
def At (s : Mailbox μ) : Stage μ → Prop
  | .idle => s.sent = s.handled ∧ s.stored = s.handled ∧ s.slot = none ∧
      (∀ t, (s.sender t).holds = none) ∧ s.receiver.holds = none
  | .sending t m => s.sent = s.handled ++ [m] ∧ s.stored = s.handled ∧ s.slot = none ∧
      (∀ t', (s.sender t').holds = if t' = t then some m else none) ∧ s.receiver.holds = none
  | .stored m => s.sent = s.handled ++ [m] ∧ s.stored = s.handled ++ [m] ∧ s.slot = some m ∧
      (∀ t, (s.sender t).holds = none) ∧ s.receiver.holds = none
  | .taken m => s.sent = s.handled ++ [m] ∧ s.stored = s.handled ++ [m] ∧ s.slot = none ∧
      (∀ t, (s.sender t).holds = none) ∧ s.receiver.holds = some m

/-- The invariant of a mailbox. -/
structure Inv (s : Mailbox μ) : Prop where
  stage : ∃ st, s.At st
  nodup : s.sent.Nodup
  finished : ∀ m ∈ s.finished, m ∈ s.handled
  /-- what the receiver has read is still in the slot -/
  saw : ∀ m, s.receiver.saw = some m → s.slot = some m
  awake : s.slot ≠ none → s.receiver = .wait → s.event = true ∨ s.Waking
  failed : ∀ t, s.sender t ≠ .failed

theorem inv_init : (init : Mailbox μ).Inv where
  stage := ⟨.idle, rfl, rfl, rfl, fun _ => rfl, rfl⟩
  nodup := List.nodup_nil
  finished := nofun
  saw := nofun
  awake h := absurd rfl h
  failed _ := nofun

section Steps

variable {s : Mailbox μ}

/-- When all that was sent is finished, nothing is under way. -/
theorem Inv.idle (h : s.Inv) (hf : ∀ x ∈ s.sent, x ∈ s.finished) : s.At .idle := by
  -- a message under way has been sent, and it has not been handled
  have hout : ∀ m, s.sent = s.handled ++ [m] → False := fun m hm => by
    have hin : m ∈ s.handled := h.finished m (hf m (by simp [hm]))
    have hnd := h.nodup
    rw [hm, List.nodup_append] at hnd
    exact hnd.2.2 m hin m List.mem_cons_self rfl
  obtain ⟨st, hst⟩ := h.stage
  cases st with
  | idle => exact hst
  | sending t m => exact (hout m hst.1).elim
  | stored m => exact (hout m hst.1).elim
  | taken m => exact (hout m hst.1).elim

/-- A sender that holds a message is the one under way, and the slot is empty. -/
theorem Inv.sending {t : Nat} {m : μ} (h : s.Inv) (ht : (s.sender t).holds = some m) :
    s.At (.sending t m) := by
  obtain ⟨st, hst⟩ := h.stage
  cases st with
  | idle => rw [hst.2.2.2.1 t] at ht; cases ht
  | stored => rw [hst.2.2.2.1 t] at ht; cases ht
  | taken => rw [hst.2.2.2.1 t] at ht; cases ht
  | sending t' m' =>
      have := hst.2.2.2.1 t
      rw [ht] at this
      split at this
      · rename_i he
        cases this
        rwa [he]
      · cases this

/-- What lies in the slot is the message under way. -/
theorem Inv.stored {m : μ} (h : s.Inv) (hs : s.slot = some m) : s.At (.stored m) := by
  obtain ⟨st, hst⟩ := h.stage
  cases st with
  | idle => rw [hst.2.2.1] at hs; cases hs
  | sending => rw [hst.2.2.1] at hs; cases hs
  | taken => rw [hst.2.2.1] at hs; cases hs
  | stored m' =>
      have := hst.2.2.1
      rw [hs] at this
      cases this
      exact hst

/-- What the receiver has taken is the message under way. -/
theorem Inv.taken {m : μ} (h : s.Inv) (hr : s.receiver.holds = some m) : s.At (.taken m) := by
  obtain ⟨st, hst⟩ := h.stage
  cases st with
  | idle => rw [hst.2.2.2.2] at hr; cases hr
  | sending => rw [hst.2.2.2.2] at hr; cases hr
  | stored => rw [hst.2.2.2.2] at hr; cases hr
  | taken m' =>
      have := hst.2.2.2.2
      rw [hr] at this
      cases this
      exact hst

/-- A step of the receiver that only changes where it stands keeps the stage. -/
theorem At.receiver {st : Stage μ} {r : ReceiverPc μ} (h : s.At st) (e : Bool)
    (hr : r.holds = s.receiver.holds) :
    ({ s with event := e, receiver := r } : Mailbox μ).At st := by
  cases st <;> exact ⟨h.1, h.2.1, h.2.2.1, h.2.2.2.1, hr.trans h.2.2.2.2⟩

/-- Moving a sender that holds nothing to where it holds nothing keeps what the senders hold. -/
theorem holds_update {t : Nat} {p : SenderPc μ} (hp : p.holds = (s.sender t).holds) (t' : Nat) :
    (update s.sender t p t').holds = (s.sender t').holds := by
  by_cases ht : t' = t
  · rw [ht, update_self, hp]
  · rw [update_of_ne ht]

theorem failed_update {t : Nat} {p : SenderPc μ} (h : s.Inv) (hp : p ≠ .failed) (t' : Nat) :
    update s.sender t p t' ≠ .failed := by
  by_cases ht : t' = t
  · rwa [ht, update_self]
  · rw [update_of_ne ht]
    exact h.failed t'

theorem send_next {t : Nat} {m : μ} (h : s.Inv) (he : s.Enabled (.send t m)) :
    (s.next (.send t m)).Inv := by
  obtain ⟨haway, hnew, hfin⟩ := he
  obtain ⟨hsent, hstored, hslot, hholds, hrec⟩ := h.idle hfin
  refine ⟨⟨.sending t m, ?_, hstored, hslot, fun t' => ?_, hrec⟩, ?_, h.finished, h.saw,
    fun hs => ?_, failed_update h nofun⟩
  · exact congrArg (· ++ [m]) hsent
  · by_cases ht : t' = t
    · simp [next, ht, SenderPc.holds]
    · simpa [next, ht] using hholds t'
  · rw [next, List.nodup_append]
    refine ⟨h.nodup, List.nodup_singleton m, fun x hx y hy e => ?_⟩
    rw [List.mem_singleton] at hy
    exact hnew (hy ▸ e ▸ hx)
  · exact absurd hslot hs

theorem sender_next {t : Nat} (h : s.Inv) (he : s.Enabled (.sender t)) :
    (s.next (.sender t)).Inv := by
  simp only [next, senderNext]
  cases ht : s.sender t with
  | away => exact absurd ht he.1
  | failed => exact absurd ht he.2
  | check m =>
      have hat := h.sending (t := t) (m := m) (by rw [ht]; rfl)
      dsimp only
      rw [if_pos (Option.isNone_iff_eq_none.mpr hat.2.2.1)]
      refine ⟨⟨.sending t m, hat.1, hat.2.1, hat.2.2.1, fun t' => ?_, hat.2.2.2.2⟩, h.nodup,
        h.finished, h.saw, fun hs => absurd hat.2.2.1 hs, failed_update h nofun⟩
      exact (holds_update (by rw [ht]; rfl) t').trans (hat.2.2.2.1 t')
  | store m =>
      have hat := h.sending (t := t) (m := m) (by rw [ht]; rfl)
      refine ⟨⟨.stored m, hat.1, congrArg (· ++ [m]) hat.2.1, rfl, fun t' => ?_, hat.2.2.2.2⟩,
        h.nodup, h.finished, fun x hx => ?_, fun _ _ => .inr ⟨t, update_self ..⟩,
        failed_update h nofun⟩
      · by_cases htt : t' = t
        · simp [htt, SenderPc.holds]
        · simpa [htt] using hat.2.2.2.1 t'
      · have := h.saw x hx
        rw [hat.2.2.1] at this
        cases this
  | wake =>
      obtain ⟨st, hst⟩ := h.stage
      have hholds : ∀ t', (update s.sender t .away t').holds = (s.sender t').holds :=
        holds_update (by rw [ht]; rfl)
      refine ⟨⟨st, ?_⟩, h.nodup, h.finished, h.saw, fun _ _ => .inl rfl, failed_update h nofun⟩
      cases st <;>
        exact ⟨hst.1, hst.2.1, hst.2.2.1, fun t' => (hholds t').trans (hst.2.2.2.1 t'), hst.2.2.2.2⟩

/-- The receiver goes from one place to another, and takes nothing. -/
theorem Inv.goes {r : ReceiverPc μ} (h : s.Inv) (e : Bool) (hr : r.holds = s.receiver.holds)
    (hsaw : ∀ m, r.saw = some m → s.slot = some m)
    (hawake : s.slot ≠ none → r = .wait → e = true ∨ s.Waking) :
    ({ s with event := e, receiver := r } : Mailbox μ).Inv := by
  obtain ⟨st, hst⟩ := h.stage
  exact ⟨⟨st, hst.receiver e hr⟩, h.nodup, h.finished, hsaw, hawake, h.failed⟩

theorem receiver_next (h : s.Inv) : (s.next .receiver).Inv := by
  simp only [next, receiverNext]
  cases hr : s.receiver with
  | test =>
      dsimp only
      split
      · rename_i hs
        refine h.goes s.event (by rw [hr]; rfl) nofun fun hs' => absurd ?_ hs'
        exact Option.isNone_iff_eq_none.mp hs
      · exact h.goes s.event (by rw [hr]; rfl) nofun nofun
  | wait => exact h.goes s.event (by rw [hr]; rfl) nofun nofun
  | clear => exact h.goes false (by rw [hr]; rfl) nofun nofun
  | alerted => exact h.goes s.event (by rw [hr]; rfl) nofun nofun
  | read => exact h.goes s.event (by rw [hr]; rfl) (fun _ hm => hm) nofun
  | found o =>
      cases o with
      | none => exact h.goes s.event (by rw [hr]; rfl) nofun nofun
      | some m =>
          refine h.goes s.event (by rw [hr]; rfl) (fun x hx => h.saw x ?_) nofun
          rwa [hr]
  | empty m =>
      have hat := h.stored (h.saw m (by rw [hr]; rfl))
      exact ⟨⟨.taken m, hat.1, hat.2.1, rfl, hat.2.2.2.1, rfl⟩, h.nodup, h.finished, nofun,
        fun hs => absurd rfl hs, h.failed⟩
  | handle m =>
      have hat := h.taken (m := m) (by rw [hr]; rfl)
      exact ⟨⟨.idle, hat.1, hat.2.1, hat.2.2.1, hat.2.2.2.1, rfl⟩, h.nodup,
        fun x hx => List.mem_append_left _ (h.finished x hx), nofun, fun _ => nofun, h.failed⟩

theorem finish_next {m : μ} (h : s.Inv) (he : s.Enabled (.finish m)) :
    (s.next (.finish m)).Inv := by
  obtain ⟨st, hst⟩ := h.stage
  refine ⟨⟨st, ?_⟩, h.nodup, fun x hx => ?_, h.saw, h.awake, h.failed⟩
  · cases st <;> exact hst
  · rcases List.mem_append.mp hx with hx | hx
    · exact h.finished x hx
    · exact List.mem_singleton.mp hx ▸ he.1

/-- **Every step keeps the invariant.** -/
theorem inv_next {l : MailboxLabel μ} (h : s.Inv) (he : s.Enabled l) : (s.next l).Inv := by
  cases l with
  | send t m => exact send_next h he
  | sender t => exact sender_next h he
  | receiver => exact receiver_next h
  | finish m => exact finish_next h he

end Steps

/-! ## 3. What the invariant is good for -/

section Results

variable {s : Mailbox μ}

/-- Whoever checks the slot, or stores into it, finds it empty: nothing is overwritten. -/
theorem Inv.slot_empty {t : Nat} {m : μ} (h : s.Inv)
    (ht : s.sender t = .check m ∨ s.sender t = .store m) : s.slot = none := by
  refine (h.sending (t := t) (m := m) ?_).2.2.1
  rcases ht with ht | ht <;> rw [ht] <;> rfl

/-- **What has been stored has been handled, once, but for what is in the slot or in the receiver's
    hands**, and that is at most one message. -/
theorem Inv.stored_eq (h : s.Inv) :
    s.stored = s.handled ++ s.receiver.holds.toList ++ s.slot.toList := by
  obtain ⟨st, hst⟩ := h.stage
  cases st <;> obtain ⟨-, h₁, h₂, -, h₃⟩ := hst <;> simp [h₁, h₂, h₃]

theorem Inv.stored_nodup (h : s.Inv) : s.stored.Nodup := by
  obtain ⟨st, hst⟩ := h.stage
  have hnd := h.nodup
  cases st with
  | idle => rw [hst.2.1, ← hst.1]; exact hnd
  | sending t m =>
      rw [hst.1] at hnd
      rw [hst.2.1]
      exact (List.nodup_append.mp hnd).1
  | stored m => rw [hst.2.1, ← hst.1]; exact hnd
  | taken m => rw [hst.2.1, ← hst.1]; exact hnd

/-- What is stored has been sent. -/
theorem Inv.stored_sent {m : μ} (h : s.Inv) (hm : m ∈ s.stored) : m ∈ s.sent := by
  obtain ⟨st, hst⟩ := h.stage
  cases st with
  | sending t x =>
      rw [hst.1]
      exact List.mem_append_left _ (hst.2.1 ▸ hm)
  | _ => rwa [hst.1, ← hst.2.1]

/-- With a message in the slot, the receiver is blocked only until the sender wakes it. -/
theorem Inv.waking (h : s.Inv) (hs : s.slot ≠ none) (hb : s.Blocked) : s.Waking :=
  (h.awake hs hb.1).resolve_left (by simp [hb.2])

/-- The receiver, with something to handle and nobody about to wake it, can step, and either it
    has handled it or there is less left to do. -/
theorem Inv.advance (h : s.Inv) (hw : ¬s.Waking) (hne : s.handled ≠ s.stored) :
    s.Enabled .receiver ∧ (s.receiverNext.handled = s.stored ∨
      s.receiverNext.receiver.left < s.receiver.left) := by
  obtain ⟨st, hst⟩ := h.stage
  cases st with
  | idle => exact absurd hst.2.1.symm hne
  | sending t m => exact absurd hst.2.1.symm hne
  | taken m =>
      obtain ⟨-, hstored, -, -, hholds⟩ := hst
      cases hr : s.receiver <;> rw [hr] at hholds <;> cases hholds
      refine ⟨fun e => ?_, .inl ?_⟩
      · rw [hr] at e
        cases e
      · rw [hstored]
        simp only [receiverNext, hr]
  | stored m =>
      obtain ⟨-, -, hslot, -, hholds⟩ := hst
      refine ⟨fun e => ?_, .inr ?_⟩
      · exact (h.awake (by simp [hslot]) e).resolve_right hw
      · cases hr : s.receiver with
        | handle => rw [hr] at hholds; cases hholds
        | found o => cases o <;> simp [receiverNext, hr, ReceiverPc.left]
        | _ => simp [receiverNext, hr, hslot, ReceiverPc.left]

theorem senderNext_sent (t : Nat) : (s.senderNext t).sent = s.sent := by
  unfold senderNext
  split <;> rfl

theorem receiverNext_sent : s.receiverNext.sent = s.sent := by
  unfold receiverNext
  split <;> rfl

theorem receiverNext_stored : s.receiverNext.stored = s.stored := by
  unfold receiverNext
  split <;> rfl

theorem receiverNext_sender : s.receiverNext.sender = s.sender := by
  unfold receiverNext
  split <;> rfl

end Results

/-- **The receiver on its own handles everything that is stored**, when no sender is between its
    store and its wake. -/
theorem handles_all {s : Mailbox μ} (h : s.Inv) (hw : ¬s.Waking) :
    ∃ s', Reach (mailbox μ) (fun _ l => l = .receiver) s s' ∧ s'.handled = s.stored := by
  -- the induction is on what is left to do
  induction hn : s.receiver.left using Nat.strongRecOn generalizing s with
  | _ n ih =>
    by_cases hne : s.handled = s.stored
    · exact ⟨s, .start, hne⟩
    · obtain ⟨he, hdone | hless⟩ := h.advance hw hne
      · exact ⟨_, .step (S := mailbox μ) .receiver .start he rfl, hdone⟩
      · have hw' : ¬(s.next .receiver).Waking := by
          unfold Waking
          rwa [next, receiverNext_sender]
        obtain ⟨s', hs', heq⟩ := ih _ (hn ▸ hless) (receiver_next h) hw' rfl
        exact ⟨s', .trans (.step (S := mailbox μ) .receiver .start he rfl) hs',
          heq.trans receiverNext_stored⟩

end Mailbox

end Xencons.Lib
