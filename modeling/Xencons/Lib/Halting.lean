import Mathlib.Logic.Relation

/-!
# Runs to a stop

A party that runs by itself has one next step, until it stops.

* `Advance`, `Halts` -- one step of a party that has not stopped, and a run to its stop;
* `Halts.append` -- a run and a run to the stop behind it; `Halts.behind` -- the same run seen from
  the next state; `Halts.unique` -- it stops in one state only.
-/

namespace Xencons.Lib

variable {σ : Type*} {next : σ → σ} {stopped : σ → Prop} {s s' t t' : σ}

/-- A step of a party that has not stopped. -/
def Advance (next : σ → σ) (stopped : σ → Prop) (s s' : σ) : Prop := ¬stopped s ∧ next s = s'

/-- A run to the stop. -/
def Halts (next : σ → σ) (stopped : σ → Prop) (s t : σ) : Prop :=
  Relation.ReflTransGen (Advance next stopped) s t ∧ stopped t

theorem Halts.append (h : Relation.ReflTransGen (Advance next stopped) s s')
    (h' : Halts next stopped s' t) : Halts next stopped s t := ⟨h.trans h'.1, h'.2⟩

/-- Behind the stop there is nothing. -/
theorem eq_of_stopped (h : stopped s) (h' : Relation.ReflTransGen (Advance next stopped) s t) :
    t = s := by
  rcases h'.cases_head with e | ⟨s', ⟨hs, -⟩, -⟩
  · exact e.symm
  · exact absurd h hs

/-- A run to the stop goes through the next state. -/
theorem Halts.behind (hs : ¬stopped s) (h : Halts next stopped s t) :
    Halts next stopped (next s) t := by
  rcases h.1.cases_head with rfl | ⟨s', ⟨-, rfl⟩, h'⟩
  · exact absurd h.2 hs
  · exact ⟨h', h.2⟩

/-- **It stops in one state only.** -/
theorem Halts.unique (h : Halts next stopped s t) (h' : Halts next stopped s t') : t = t' := by
  have hdet : Relator.RightUnique (Advance next stopped) := fun _ _ _ h₁ h₂ => h₁.2.symm.trans h₂.2
  rcases Relation.ReflTransGen.total_of_right_unique hdet h.1 h'.1 with hr | hr
  · exact (eq_of_stopped h.2 hr).symm
  · exact eq_of_stopped h'.2 hr

end Xencons.Lib
