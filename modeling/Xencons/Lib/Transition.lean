import Mathlib.Logic.Relation

/-!
# Labelled transition systems, and what holds along their runs

A system is given by what may be done in a state (`enabled`) and what it leaves (`next`); the
label fixes the step, so every choice of a scheduler or of an environment is in the label.

* `Reach S P s₀ s` -- `s` is reached from `s₀` by enabled steps that all meet `P`. The restriction
  `P` reads the state BEFORE the step and the label: it says which steps a family of runs has
  (which parties act, which guard a caller keeps), and `fun _ _ => True` is every run;
* `Reach.invariant` -- what holds at the start and is kept by every such step holds in every
  state reached; `Reach.invariant_using` is the same with an invariant already proved at hand;
* `Admits`, `runs`, `Reach.of_admits` -- a run written as its list of labels, for concrete runs;
  `Admits.congr` -- restrictions that say the same of every step say the same of every run.
-/

namespace Xencons.Lib

variable {σ ℓ : Type*}

/-- A labelled transition system whose labels fix the step. -/
structure System (σ ℓ : Type*) where
  enabled : σ → ℓ → Prop
  next : σ → ℓ → σ

/-- States reached from `s₀` by enabled steps that all meet `P`. -/
inductive Reach (S : System σ ℓ) (P : σ → ℓ → Prop) (s₀ : σ) : σ → Prop where
  | start : Reach S P s₀ s₀
  | step {s : σ} (l : ℓ) (h : Reach S P s₀ s) (he : S.enabled s l) (hp : P s l) :
      Reach S P s₀ (S.next s l)

section Runs

variable {S : System σ ℓ} {P Q : σ → ℓ → Prop} {s₀ s : σ}

/-- A weaker restriction admits more runs. -/
theorem Reach.mono (hPQ : ∀ s l, P s l → Q s l) (h : Reach S P s₀ s) : Reach S Q s₀ s := by
  induction h with
  | start => exact .start
  | step l _ he hp ih => exact .step l ih he (hPQ _ _ hp)

/-- **The invariant rule**: kept by every step, so it holds in every state reached. -/
theorem Reach.invariant {I : σ → Prop} (h0 : I s₀)
    (hs : ∀ s l, I s → S.enabled s l → P s l → I (S.next s l)) (h : Reach S P s₀ s) : I s := by
  induction h with
  | start => exact h0
  | step l _ he hp ih => exact hs _ l ih he hp

/-- The invariant rule with a fact `J` already known of every state reached. -/
theorem Reach.invariant_using {I J : σ → Prop} (hJ : ∀ s, Reach S P s₀ s → J s) (h0 : I s₀)
    (hs : ∀ s l, J s → I s → S.enabled s l → P s l → I (S.next s l)) (h : Reach S P s₀ s) :
    I s := by
  induction h with
  | start => exact h0
  | step l h' he hp ih => exact hs _ l (hJ _ h') ih he hp

/-- Runs compose. -/
theorem Reach.trans {s' : σ} (h : Reach S P s₀ s) (h' : Reach S P s s') : Reach S P s₀ s' := by
  induction h' with
  | start => exact h
  | step l _ he hp ih => exact .step l ih he hp

end Runs

/-! ## Runs written out -/

/-- The state a list of labels leads to. -/
def runs (S : System σ ℓ) : σ → List ℓ → σ
  | s, [] => s
  | s, l :: ls => runs S (S.next s l) ls

/-- Every step of the list is enabled and meets `P` where it is taken. -/
def Admits (S : System σ ℓ) (P : σ → ℓ → Prop) : σ → List ℓ → Prop
  | _, [] => True
  | s, l :: ls => S.enabled s l ∧ P s l ∧ Admits S P (S.next s l) ls

/-- Whether a run can be taken is decided step by step. -/
instance Admits.decidable (S : System σ ℓ) (P : σ → ℓ → Prop) [∀ s l, Decidable (S.enabled s l)]
    [∀ s l, Decidable (P s l)] : ∀ s ls, Decidable (Admits S P s ls)
  | _, [] => .isTrue trivial
  | s, l :: ls =>
    have := Admits.decidable S P (S.next s l) ls
    inferInstanceAs (Decidable (_ ∧ _ ∧ _))

/-- **Two restrictions of runs that agree step by step**: they agree where an invariant of the runs
    that meet the one makes them the same. -/
theorem Admits.congr {S : System σ ℓ} {P Q : σ → ℓ → Prop} {I : σ → Prop} {s₀ : σ} (h0 : I s₀)
    (hPQ : ∀ s l, I s → S.enabled s l → (P s l ↔ Q s l))
    (hI : ∀ s l, I s → S.enabled s l → P s l → I (S.next s l)) (ls : List ℓ) :
    Admits S P s₀ ls ↔ Admits S Q s₀ ls := by
  induction ls generalizing s₀ with
  | nil => exact Iff.rfl
  | cons l ls ih =>
    refine and_congr_right fun he => ?_
    rw [← hPQ s₀ l h0 he]
    exact and_congr_right fun hp => ih (hI s₀ l h0 he hp)

theorem Reach.of_admits {S : System σ ℓ} {P : σ → ℓ → Prop} :
    ∀ (ls : List ℓ) {s₀ s : σ}, Reach S P s₀ s → Admits S P s ls → Reach S P s₀ (runs S s ls)
  | [], _, _, h, _ => h
  | l :: ls, _, _, h, ⟨he, hp, ha⟩ => Reach.of_admits ls (.step l h he hp) ha

end Xencons.Lib
