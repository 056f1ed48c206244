import Xencons.Lib.Call

/-!
# Programs that change a record and ask their environment

A program of a driver changes a record of its own and, again and again, calls somebody else's
interface, which answers as it likes. `Proc` runs such a program on a tape of answers, so a
statement for every tape is one for every behaviour of the environment.

* `Proc`, `Proc.ask`, `Proc.modify`, `Proc.get`, `Proc.stop` -- the programs;
* `Proc.repeatUntil` -- a loop, with fuel; `Proc.onPart` -- a program on a part of the record;
* `Proc.Ensures` -- the weakest precondition, with a rule for each way to build a program;
* `Ensures.repeatUntil`, `Ensures.repeatUntil_of_variant` -- the loop rules: by an invariant alone
  where the loop may wait, by an invariant and a variant where it may not;
* `Proc.Keeps` -- frames, with the same rules.
-/

namespace Xencons.Lib

/-- A program over records `σ` whose environment answers with `ε`. It is given the tape and how much
    of it has been taken. -/
def Proc (ε σ α : Type) : Type := (Nat → ε) → Nat → σ → Call (α × Nat × σ)

namespace Proc

variable {ε σ τ α β : Type}

/-! ## 1. Programs -/

protected def pure (a : α) : Proc ε σ α := fun _ n s => .returns (a, n, s)

protected def bind (p : Proc ε σ α) (k : α → Proc ε σ β) : Proc ε σ β :=
  fun tape n s => (p tape n s).bind fun r => k r.1 tape r.2.1 r.2.2

instance : Monad (Proc ε σ) where
  pure := Proc.pure
  bind := Proc.bind

/-- The next answer. -/
def ask : Proc ε σ ε := fun tape n s => .returns (tape n, n + 1, s)

def get : Proc ε σ σ := fun _ n s => .returns (s, n, s)

def modify (g : σ → σ) : Proc ε σ Unit := fun _ n s => .returns ((), n, g s)

/-- Does not return: `why` says what it does instead. -/
def stop (why : Call Empty) : Proc ε σ α := fun _ _ _ =>
  match why with
  | .returns e => e.elim
  | .waits => .waits
  | .deadlocks => .deadlocks
  | .loops => .loops

/-- Runs `body` until it says that it is done; `out` where the fuel is out. -/
def repeatUntil (out : Call Empty) (body : τ → Proc ε σ (τ ⊕ α)) : Nat → τ → Proc ε σ α
  | 0, _ => stop out
  | fuel + 1, t => do
    match ← body t with
    | .inl t' => repeatUntil out body fuel t'
    | .inr a => pure a

/-! ## 2. What running does -/

variable {tape : Nat → ε} {n : Nat} {s : σ}

@[simp] theorem run_pure (a : α) : (pure a : Proc ε σ α) tape n s = .returns (a, n, s) := rfl

@[simp] theorem run_bind (p : Proc ε σ α) (k : α → Proc ε σ β) :
    (p >>= k) tape n s = (p tape n s).bind fun r => k r.1 tape r.2.1 r.2.2 := rfl

@[simp] theorem run_ask : (ask : Proc ε σ ε) tape n s = .returns (tape n, n + 1, s) := rfl

@[simp] theorem run_get : (get : Proc ε σ σ) tape n s = .returns (s, n, s) := rfl

@[simp] theorem run_modify (g : σ → σ) :
    (modify g : Proc ε σ Unit) tape n s = .returns ((), n, g s) := rfl

@[simp] theorem run_ite {c : Prop} [Decidable c] (p q : Proc ε σ α) :
    (if c then p else q) tape n s = if c then p tape n s else q tape n s := by
  split <;> rfl

/-! ## 3. Preconditions -/

/-- **The weakest precondition**: run from `s`, on every tape, the program may wait but neither
    deadlocks nor loops, and what it returns satisfies `Q`. -/
def Ensures (p : Proc ε σ α) (Q : α → σ → Prop) (s : σ) : Prop :=
  ∀ tape n, (p tape n s).Ensures fun r => Q r.1 r.2.2

variable {p : Proc ε σ α} {k : α → Proc ε σ β} {Q Q' : α → σ → Prop} {R : β → σ → Prop}

namespace Ensures

theorem pure {a : α} (h : Q a s) : (Pure.pure a : Proc ε σ α).Ensures Q s := fun _ _ => h

/-- **Sequencing.** -/
theorem bind (h : p.Ensures (fun a => (k a).Ensures R) s) : (p >>= k).Ensures R s :=
  fun tape n => Call.Ensures.bind (h tape n) fun r hr => hr tape r.2.1

theorem mono (h : p.Ensures Q s) (hQ : ∀ a s', Q a s' → Q' a s') : p.Ensures Q' s :=
  fun tape n => Call.Ensures.mono (h tape n) fun _ hr => hQ _ _ hr

theorem ask {Q : ε → σ → Prop} (h : ∀ a, Q a s) : (ask : Proc ε σ ε).Ensures Q s :=
  fun tape n => h (tape n)

theorem get {Q : σ → σ → Prop} (h : Q s s) : (get : Proc ε σ σ).Ensures Q s := fun _ _ => h

theorem modify {g : σ → σ} {Q : Unit → σ → Prop} (h : Q () (g s)) :
    (modify g : Proc ε σ Unit).Ensures Q s := fun _ _ => h

theorem and (h : p.Ensures Q s) (h' : p.Ensures Q' s) :
    p.Ensures (fun a s' => Q a s' ∧ Q' a s') s := fun tape n => (h tape n).and (h' tape n)

/-- A second postcondition, where there is a reason for it. -/
theorem andIf {P : Prop} (h : p.Ensures Q s) (h' : P → p.Ensures Q' s) :
    p.Ensures (fun a s' => Q a s' ∧ (P → Q' a s')) s := by
  by_cases hP : P
  · exact (h.and (h' hP)).mono fun _ _ hq => ⟨hq.1, fun _ => hq.2⟩
  · exact h.mono fun _ _ hq => ⟨hq, fun p => absurd p hP⟩

/-! The first step of a program: -/

theorem ask_bind {k : ε → Proc ε σ β} (h : ∀ a, (k a).Ensures R s) :
    (Proc.ask >>= k).Ensures R s := .bind (.ask h)

theorem get_bind {k : σ → Proc ε σ β} (h : (k s).Ensures R s) : (Proc.get >>= k).Ensures R s :=
  .bind (.get h)

theorem modify_bind {g : σ → σ} {k : Unit → Proc ε σ β} (h : (k ()).Ensures R (g s)) :
    (Proc.modify g >>= k).Ensures R s := .bind (.modify h)

/-- A program that waits for ever ensures anything. -/
theorem waits : (stop .waits : Proc ε σ α).Ensures Q s := fun _ _ => trivial

theorem ite {c : Prop} [Decidable c] {q : Proc ε σ α} (hp : c → p.Ensures Q s)
    (hq : ¬c → q.Ensures Q s) : (if c then p else q).Ensures Q s := by
  split
  · exact hp ‹c›
  · exact hq ‹¬c›

/-- **Ask, and give up where the answer is no.** -/
theorem askOr {ok : ε → Bool} {giveUp goOn : ε → Proc ε σ α}
    (hno : ∀ a, ok a = false → (giveUp a).Ensures Q s)
    (hyes : ∀ a, ok a = true → (goOn a).Ensures Q s) :
    (Proc.ask >>= fun a => if !ok a then giveUp a else goOn a).Ensures Q s := by
  refine .ask_bind fun a => .ite (fun h => hno a ?_) fun h => hyes a ?_
  · simpa using h
  · simpa using h

/-- **A loop that may wait** keeps its invariant. -/
theorem repeatUntil {body : τ → Proc ε σ (τ ⊕ α)} {I : τ → σ → Prop}
    (step : ∀ t s, I t s → (body t).Ensures (fun r s' => r.elim (I · s') (Q · s')) s) (fuel : Nat)
    (t : τ) (s : σ) (h : I t s) : (repeatUntil .waits body fuel t).Ensures Q s := by
  induction fuel generalizing t s with
  | zero => exact waits
  | succ fuel ih =>
    refine .bind ((step t s h).mono fun r s' hr => ?_)
    cases r with
    | inl t' => exact ih t' s' hr
    | inr a => exact .pure hr

/-- **A loop with a variant** ends, whatever it would do without fuel, before more rounds are over
    than the variant had at the start. -/
theorem repeatUntil_of_variant {out : Call Empty} {body : τ → Proc ε σ (τ ⊕ α)} {I : τ → σ → Prop}
    {v : τ → σ → Nat}
    (step : ∀ t s, I t s → (body t).Ensures
      (fun r s' => r.elim (fun t' => I t' s' ∧ v t' s' < v t s) (Q · s')) s)
    (fuel : Nat) (t : τ) (s : σ) (h : I t s) (hv : v t s < fuel) :
    (Proc.repeatUntil out body fuel t).Ensures Q s := by
  induction fuel generalizing t s with
  | zero => exact absurd hv (Nat.not_lt_zero _)
  | succ fuel ih =>
    refine .bind ((step t s h).mono fun r s' hr => ?_)
    cases r with
    | inl t' => exact ih t' s' hr.1 (Nat.lt_of_lt_of_le hr.2 (Nat.le_of_lt_succ hv))
    | inr a => exact .pure hr

end Ensures

/-! ## 4. Programs on a part of the record -/

/-- Runs a program on the part of the record that `view` shows and `put` changes. -/
def onPart {ρ : Type} (view : σ → ρ) (put : σ → ρ → σ) (p : Proc ε ρ α) : Proc ε σ α :=
  fun tape n s => (p tape n (view s)).bind fun r => .returns (r.1, r.2.1, put s r.2.2)

theorem Ensures.onPart {ρ : Type} {view : σ → ρ} {put : σ → ρ → σ} {p : Proc ε ρ α}
    (h : p.Ensures (fun a r => Q a (put s r)) (view s)) : (p.onPart view put).Ensures Q s :=
  fun tape n => Call.Ensures.bind (h tape n) fun _ hr => hr

/-! ## 5. Frames -/

/-- **A frame**: what `view` shows is the same before and behind the program. -/
def Keeps {ρ : Type} (view : σ → ρ) (p : Proc ε σ α) : Prop :=
  ∀ s, p.Ensures (fun _ s' => view s' = view s) s

namespace Keeps

variable {ρ : Type} {view : σ → ρ} {q : Proc ε σ α}

theorem pure {a : α} : Keeps view (Pure.pure a : Proc ε σ α) := fun _ => .pure rfl

theorem ask : Keeps view (Proc.ask : Proc ε σ ε) := fun _ => .ask fun _ => rfl

theorem get : Keeps view (Proc.get : Proc ε σ σ) := fun _ => .get rfl

theorem modify {g : σ → σ} (h : ∀ s, view (g s) = view s) :
    Keeps view (Proc.modify g : Proc ε σ Unit) := fun s => .modify (h s)

theorem bind (hp : Keeps view p) (hk : ∀ a, Keeps view (k a)) : Keeps view (p >>= k) := fun s =>
  .bind ((hp s).mono fun a s' h => ((hk a) s').mono fun _ _ h' => h'.trans h)

theorem ite {c : Prop} [Decidable c] (hp : Keeps view p) (hq : Keeps view q) :
    Keeps view (if c then p else q) := fun s => .ite (fun _ => hp s) fun _ => hq s

theorem repeatUntil {body : τ → Proc ε σ (τ ⊕ α)} (h : ∀ t, Keeps view (body t)) (fuel : Nat)
    (t : τ) : Keeps view (Proc.repeatUntil .waits body fuel t) := fun s =>
  .repeatUntil (I := fun _ s' => view s' = view s)
    (fun t s' hs => ((h t) s').mono fun r s'' hs'' => by cases r <;> exact hs''.trans hs)
    fuel t s rfl

/-- A program on a part that `view` does not show. -/
theorem onPart {ρ' : Type} {part : σ → ρ'} {put : σ → ρ' → σ} {p : Proc ε ρ' α}
    (hp : Keeps (fun _ => ()) p) (h : ∀ s r, view (put s r) = view s) :
    Keeps view (p.onPart part put) := fun s => .onPart ((hp _).mono fun _ r _ => h s r)

end Keeps

end Proc

end Xencons.Lib
