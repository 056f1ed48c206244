import Mathlib.Data.List.Basic

/-!
# Straight-line code and the value its steps need

Code that is run step by step, with others looking on between its steps. Some of its steps set a
value (a handle, a flag) or clear it again, and each of them relies on what it finds; what is
wanted of the value is then known from the steps still to come.

* `Effect` -- for each step, the value it needs and the value it leaves, or `none` where it has
  nothing to do with it;
* `wanted e final ops` -- the value before `ops`, if behind them it is `final`; `Chained` -- every
  step leaves what the rest needs;
* `Chained.after_eq` -- so a step taken from the wanted value ends at the wanted one, and one that
  `Keeps` what it needs changes nothing;
  `wanted_rel` -- a relation between two values that no step breaks holds before any of them.
-/

namespace Xencons.Lib

variable {Op V W : Type*}

/-- What each step needs and what it leaves. -/
abbrev Effect (Op V : Type*) := Op → Option (V × V)

/-- The value a step needs, if behind it `v` is needed. -/
def Effect.before (e : Effect Op V) (op : Op) (v : V) : V := ((e op).map Prod.fst).getD v

/-- The value a step leaves, if it finds `v`. -/
def Effect.after (e : Effect Op V) (op : Op) (v : V) : V := ((e op).map Prod.snd).getD v

/-- The value the steps need, if behind them `final` is needed. -/
def wanted (e : Effect Op V) (final : V) (ops : List Op) : V := ops.foldr e.before final

/-- Every step leaves what the rest of them needs. -/
def Chained (e : Effect Op V) (final : V) : List Op → Prop
  | [] => True
  | op :: ops => e.after op (wanted e final (op :: ops)) = wanted e final ops ∧ Chained e final ops

instance Chained.decidable [DecidableEq V] (e : Effect Op V) (final : V) :
    ∀ ops : List Op, Decidable (Chained e final ops)
  | [] => .isTrue trivial
  | _ :: ops =>
    have := Chained.decidable e final ops
    inferInstanceAs (Decidable (_ = _ ∧ Chained e final ops))

@[simp] theorem wanted_nil (e : Effect Op V) (final : V) : wanted e final [] = final := rfl

/-- **A step taken from the wanted value leaves the wanted value.** -/
theorem Chained.after_eq {e : Effect Op V} {final v : V} {op : Op} {ops : List Op}
    (h : Chained e final (op :: ops)) (hv : v = wanted e final (op :: ops)) :
    e.after op v = wanted e final ops := hv ▸ h.1

/-- The step leaves what it needs. -/
def Effect.Keeps (e : Effect Op V) (op : Op) : Prop :=
  match e op with
  | none => True
  | some (v, w) => v = w

/-- So it leaves what it finds. -/
theorem Effect.Keeps.after_before {e : Effect Op V} {op : Op} (h : e.Keeps op) (v : V) :
    e.after op (e.before op v) = e.before op v := by
  unfold Effect.Keeps at h
  unfold Effect.after Effect.before
  cases he : e op with
  | none => rfl
  | some p =>
      rw [he] at h
      exact h.symm

/-- **A relation between two values** that holds behind all steps, and before each step if behind
    it, holds before all of them. -/
theorem wanted_rel {e : Effect Op V} {f : Effect Op W} {r : V → W → Prop} {v : V} {w : W}
    (h : r v w) (hstep : ∀ op v w, r v w → r (e.before op v) (f.before op w)) (ops : List Op) :
    r (wanted e v ops) (wanted f w ops) :=
  List.foldr_rel h fun op _ v w => hstep op v w

end Xencons.Lib
