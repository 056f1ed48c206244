/-!
# Calls that may not return

A call into code that takes locks and waits for others returns a value, waits for somebody who does
not answer, stands still on a lock it holds itself, or loops. `Ensures` is partial in the first
sense only: a call may wait, but it may neither deadlock nor loop, and what it returns satisfies the
postcondition.

* `Call` and its bind -- calls one after the other;
* `Ensures`, with `Ensures.bind`, `Ensures.mono`, `Ensures.and` -- postconditions, and their rules.
-/

namespace Xencons.Lib

/-- What comes of a call. -/
inductive Call (α : Type _) where
  | returns (a : α)
  /-- waits for somebody else -/
  | waits
  /-- acquires what it holds -/
  | deadlocks
  | loops
deriving DecidableEq

namespace Call

variable {α β : Type _}

protected def bind : Call α → (α → Call β) → Call β
  | .returns a, k => k a
  | .waits, _ => .waits
  | .deadlocks, _ => .deadlocks
  | .loops, _ => .loops

instance : Monad Call where
  pure := .returns
  bind := Call.bind

@[simp] theorem returns_bind (a : α) (k : α → Call β) : (Call.returns a).bind k = k a := rfl

@[simp] theorem deadlocks_bind (k : α → Call β) :
    (Call.deadlocks : Call α).bind k = .deadlocks := rfl

/-- **A postcondition**: the call may wait, but neither deadlock nor loop, and what it returns
    satisfies `Q`. -/
def Ensures (c : Call α) (Q : α → Prop) : Prop :=
  match c with
  | .returns a => Q a
  | .waits => True
  | .deadlocks | .loops => False

variable {c : Call α} {k : α → Call β} {Q Q' : α → Prop} {R : β → Prop} {a : α}

/-- **Sequencing.** -/
theorem Ensures.bind (h : c.Ensures Q) (hk : ∀ a, Q a → (k a).Ensures R) :
    (c >>= k).Ensures R := by
  cases c with
  | returns a => exact hk a h
  | waits => trivial
  | deadlocks | loops => exact h.elim

/-- A weaker postcondition. -/
theorem Ensures.mono (h : c.Ensures Q) (hQ : ∀ a, Q a → Q' a) : c.Ensures Q' := by
  cases c with
  | returns a => exact hQ a h
  | waits => trivial
  | deadlocks | loops => exact h

/-- Two postconditions. -/
theorem Ensures.and (h : c.Ensures Q) (h' : c.Ensures Q') : c.Ensures fun a => Q a ∧ Q' a := by
  cases c with
  | returns a => exact ⟨h, h'⟩
  | waits => trivial
  | deadlocks | loops => exact h

/-- What a call that returns has returned. -/
theorem Ensures.of_returns (h : c.Ensures Q) (hc : c = .returns a) : Q a := by
  subst hc
  exact h

end Call

end Xencons.Lib
