import Xencons.Lib.Ghost

/-!
# What a program has until it gives it away

A driver gets a request, looks at it and changes it, and gives it away: to who asked for it, to the
next driver, or to a thread of its own. From then on it is another's, and even a look at it is a
fault.

* `Entrusted` -- the thing, where it has gone, and the faults there have been, with what the program
  keeps beside it;
* `look`, `change`, `give` -- what is done with it, and `Mine` -- the state in which that may be done;
* `Disposed` -- the thing has been given away once and not been touched since: `give_disposed`.
-/

namespace Xencons.Lib

/-- A thing `α` that may go to a place `ξ`, and what the program has of its own. -/
structure Entrusted (α ξ σ : Type) where
  thing : α
  gone : Option ξ
  /-- the times it has been touched when it was gone -/
  faults : Nat
  own : σ

namespace Entrusted

variable {ε α ξ σ β : Type}

/-- As it comes. -/
def of (thing : α) (own : σ) : Entrusted α ξ σ := ⟨thing, none, 0, own⟩

/-- It is still there, and nothing has gone wrong. -/
structure Mine (s : Entrusted α ξ σ) : Prop where
  gone : s.gone = none
  faults : s.faults = 0

theorem mine_of (thing : α) (own : σ) : (of thing own : Entrusted α ξ σ).Mine := ⟨rfl, rfl⟩

def touch (s : Entrusted α ξ σ) : Entrusted α ξ σ :=
  if s.gone.isSome then { s with faults := s.faults + 1 } else s

theorem Mine.touch {s : Entrusted α ξ σ} (h : s.Mine) : s.touch = s := by
  simp [Entrusted.touch, h.gone]

/-! ## 1. What is done with it -/

def look : Proc ε (Entrusted α ξ σ) α := do
  Proc.modify touch
  let s ← Proc.get
  return s.thing

def change (g : α → α) : Proc ε (Entrusted α ξ σ) Unit :=
  Proc.modify fun s => { s.touch with thing := g s.thing }

/-- Gives it away, for good: who gives it twice has touched what was another's. -/
def give (place : ξ) : Proc ε (Entrusted α ξ σ) Unit :=
  Proc.modify fun s => { s.touch with gone := some place }

/-- The program sees to its own. -/
def keep (g : σ → σ) : Proc ε (Entrusted α ξ σ) Unit :=
  Proc.modify fun s => { s with own := g s.own }

/-! ## 2. Their rules -/

variable {s : Entrusted α ξ σ} {k : β → Proc ε (Entrusted α ξ σ) β}

theorem look_yields {Q : α → Entrusted α ξ σ → Prop} (h : s.Mine) (hQ : Q s.thing s) :
    (look : Proc ε _ α).Yields Q s :=
  .bind (.modify (.bind (.get (.pure (by rw [h.touch]; exact hQ)))))

theorem change_yields {g : α → α} {Q : Unit → Entrusted α ξ σ → Prop} (h : s.Mine)
    (hQ : { s with thing := g s.thing }.Mine → Q () { s with thing := g s.thing }) :
    (change g : Proc ε _ Unit).Yields Q s :=
  .modify (by rw [h.touch]; exact hQ ⟨h.gone, h.faults⟩)

theorem keep_yields {g : σ → σ} {Q : Unit → Entrusted α ξ σ → Prop} (h : s.Mine)
    (hQ : { s with own := g s.own }.Mine → Q () { s with own := g s.own }) :
    (keep g : Proc ε _ Unit).Yields Q s :=
  .modify (hQ ⟨h.gone, h.faults⟩)

/-- **It has gone to a place, once**, and where it has gone, what was answered and what the program
    has kept are as `D` has it. -/
def Disposed (D : ξ → β → σ → Prop) (b : β) (s : Entrusted α ξ σ) : Prop :=
  s.faults = 0 ∧ ∃ place, s.gone = some place ∧ D place b s.own

theorem give_yields {place : ξ} {Q : Unit → Entrusted α ξ σ → Prop} (h : s.Mine)
    (hQ : Q () { s with gone := some place }) : (give place : Proc ε _ Unit).Yields Q s :=
  .modify (by rw [h.touch]; exact hQ)

/-- **Whoever gives it away and answers has disposed of it.** -/
theorem give_disposed {place : ξ} {b : β} {D : ξ → β → σ → Prop} (h : s.Mine) (hD : D place b s.own) :
    (do give place; return b : Proc ε (Entrusted α ξ σ) β).Yields (Disposed D) s :=
  .bind (give_yields h (.pure ⟨h.faults, place, rfl, hD⟩))

theorem Disposed.mono {D D' : ξ → β → σ → Prop} {b : β} (h : Disposed D b s)
    (hD : ∀ place b own, D place b own → D' place b own) : Disposed D' b s := by
  obtain ⟨hfaults, place, hgone, hd⟩ := h
  exact ⟨hfaults, place, hgone, hD place b s.own hd⟩

end Entrusted

end Xencons.Lib
