import Xencons.Lib.Transition
import Mathlib.Logic.Function.Basic

/-!
# Wake a worker and wait for it

Requesters share one worker and two events that stay set until somebody clears them. A requester
clears the `done` event, sets the `request` event and waits for `done`; the worker waits for
`request`, clears it, does its work and sets `done`. No lock holds any of this together, so a
requester may clear the signal another one is waiting for.

* `WorkerStep`, `HandshakeSys`, `handshakeSystem loop` -- the machine over an arbitrary worker loop;
* `Prompt loop A` -- at the positions `A` the worker is on its way to set `done`, and it gets there
  from wherever it clears `request`;
* `Reach.answered`, `Reach.no_deadlock` -- for such a loop nobody waits for a signal that nobody is
  going to send.
-/

namespace Xencons.Lib

open Function

/-- What a position of the worker does to the events, and where it goes. -/
inductive WorkerStep (π : Type*) where
  /-- waits for the request event -/
  | wait (p : π)
  | clearRequest (p : π)
  | setDone (p : π)
  /-- touches neither event -/
  | go (p : π)

/-- Where a requester stands. -/
inductive RequesterPc where
  | away
  /-- has cleared `done`, and has not woken the worker -/
  | cleared
  /-- has woken the worker, and waits for `done` -/
  | waiting
deriving DecidableEq

/-- The events, the requesters and the worker. -/
structure HandshakeSys (π : Type*) where
  request : Bool
  done : Bool
  requester : Nat → RequesterPc
  worker : π

/-- What happens next; `c` is what the worker finds. -/
inductive HandshakeLabel (γ : Type*) where
  | clearDone (r : Nat)
  | wake (r : Nat)
  /-- the wait of a requester is over -/
  | answered (r : Nat)
  /-- somebody else sets the request event -/
  | nudge
  | worker (c : γ)

variable {π γ : Type*}

/-- One step of the worker. -/
def HandshakeSys.workerStep (s : HandshakeSys π) : WorkerStep π → HandshakeSys π
  | .wait p => { s with worker := p }
  | .clearRequest p => { s with request := false, worker := p }
  | .setDone p => { s with done := true, worker := p }
  | .go p => { s with worker := p }

def handshakeEnabled (loop : π → γ → WorkerStep π) (s : HandshakeSys π) :
    HandshakeLabel γ → Prop
  | .clearDone r => s.requester r = .away
  | .wake r => s.requester r = .cleared
  | .answered r => s.requester r = .waiting ∧ s.done = true
  | .nudge => True
  | .worker c => ∀ p, loop s.worker c = .wait p → s.request = true

def handshakeNext (loop : π → γ → WorkerStep π) (s : HandshakeSys π) :
    HandshakeLabel γ → HandshakeSys π
  | .clearDone r => { s with done := false, requester := update s.requester r .cleared }
  | .wake r => { s with request := true, requester := update s.requester r .waiting }
  | .answered r => { s with requester := update s.requester r .away }
  | .nudge => { s with request := true }
  | .worker c => s.workerStep (loop s.worker c)

/-- **The handshake machine** of a worker loop. -/
def handshakeSystem (loop : π → γ → WorkerStep π) : System (HandshakeSys π) (HandshakeLabel γ) where
  enabled := handshakeEnabled loop
  next := handshakeNext loop

/-- The worker is blocked: it waits for the request event, which is clear. -/
def HandshakeSys.Blocked (loop : π → γ → WorkerStep π) (s : HandshakeSys π) : Prop :=
  s.request = false ∧ ∃ c p, loop s.worker c = .wait p

/-- **The deadlock**: a requester waits for `done`, which is clear, the worker is blocked, and
    nobody is between its clear and its wake. -/
def HandshakeSys.Deadlock (loop : π → γ → WorkerStep π) (s : HandshakeSys π) : Prop :=
  (∃ r, s.requester r = .waiting) ∧ s.done = false ∧ s.Blocked loop ∧
    ∀ r, s.requester r ≠ .cleared

/-- At the positions `A` the worker sets `done` before it waits again, and it is at one of them
    whenever it has cleared `request`. -/
structure Prompt (loop : π → γ → WorkerStep π) (A : π → Prop) : Prop where
  clearRequest : ∀ p c q, loop p c = .clearRequest q → A q
  go : ∀ p c q, A p → loop p c = .go q → A q
  wait : ∀ p c q, loop p c = .wait q → ¬A p

/-- Whoever waits for `done` is going to be answered. -/
def HandshakeSys.Answered (A : π → Prop) (s : HandshakeSys π) : Prop :=
  ∀ r, s.requester r = .waiting →
    s.done = true ∨ s.request = true ∨ A s.worker ∨ ∃ r', s.requester r' = .cleared

section Steps

variable {loop : π → γ → WorkerStep π} {A : π → Prop} {s : HandshakeSys π}

/-- Whoever waits still, when somebody has been answered, waited before. -/
theorem waiting_of_answered {r r₀ : Nat}
    (h : (handshakeNext loop s (.answered r₀)).requester r = .waiting) :
    s.requester r = .waiting := by
  simp only [handshakeNext] at h
  by_cases hr : r = r₀
  · rw [hr, update_self] at h
    cases h
  · rwa [update_of_ne hr] at h

/-- **Every step keeps it that whoever waits is going to be answered.** -/
theorem answered_next {l : HandshakeLabel γ} (hp : Prompt loop A) (h : s.Answered A)
    (he : handshakeEnabled loop s l) : (handshakeNext loop s l).Answered A := by
  intro r hr
  cases l with
  | clearDone r₀ => exact .inr (.inr (.inr ⟨r₀, update_self ..⟩))
  | wake r₀ => exact .inr (.inl rfl)
  | answered r₀ =>
      rcases h r (waiting_of_answered hr) with hd | hq | hw | ⟨r', hr'⟩
      · exact .inl hd
      · exact .inr (.inl hq)
      · exact .inr (.inr (.inl hw))
      · refine .inr (.inr (.inr ⟨r', ?_⟩))
        have hne : r' ≠ r₀ := fun e => by rw [e, he.1] at hr'; cases hr'
        exact (update_of_ne hne _ _).trans hr'
  | nudge => exact .inr (.inl rfl)
  | worker c =>
      simp only [handshakeNext] at hr ⊢
      cases hstep : loop s.worker c with
      | wait p => exact .inr (.inl (he p hstep))
      | clearRequest p => exact .inr (.inr (.inl (hp.clearRequest _ _ _ hstep)))
      | setDone p => exact .inl rfl
      | go p =>
          rw [hstep] at hr
          rcases h r hr with hd | hq | hw | hr'
          · exact .inl hd
          · exact .inr (.inl hq)
          · exact .inr (.inr (.inl (hp.go _ _ _ hw hstep)))
          · exact .inr (.inr (.inr hr'))

end Steps

/-- **Whoever waits is going to be answered**, in every state reached from one in which nobody
    waits. -/
theorem Reach.answered {loop : π → γ → WorkerStep π} {A : π → Prop} {s₀ s : HandshakeSys π}
    (hp : Prompt loop A) (h0 : ∀ r, s₀.requester r ≠ .waiting)
    (h : Reach (handshakeSystem loop) (fun _ _ => True) s₀ s) : s.Answered A :=
  h.invariant (fun r hr => absurd hr (h0 r)) fun _ _ hs he _ => answered_next hp hs he

/-- **There is no deadlock.** -/
theorem Reach.no_deadlock {loop : π → γ → WorkerStep π} {A : π → Prop} {s₀ s : HandshakeSys π}
    (hp : Prompt loop A) (h0 : ∀ r, s₀.requester r ≠ .waiting)
    (h : Reach (handshakeSystem loop) (fun _ _ => True) s₀ s) : ¬s.Deadlock loop := by
  rintro ⟨⟨r, hr⟩, hdone, ⟨hrequest, c, p, hwait⟩, hnone⟩
  rcases h.answered hp h0 r hr with hd | hq | hw | ⟨r', hr'⟩
  · exact absurd (hdone.symm.trans hd) Bool.false_ne_true
  · exact absurd (hrequest.symm.trans hq) Bool.false_ne_true
  · exact hp.wait _ _ _ hwait hw
  · exact hnone r' hr'

end Xencons.Lib
