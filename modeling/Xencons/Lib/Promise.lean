import Xencons.Lib.Ghost

/-!
# Environments that keep a promise

What a program comes to may depend on what its environment promises of every answer: that nothing is
refused, or that nobody interferes. `EnsuresIf A` is the weakest precondition where every answer
keeps `A`.

* `EnsuresIf`, with a rule for each way to build a program;
* `Ensures.promised` -- what holds on every tape holds on these; `EnsuresIf.run` -- what a run of the
  program on such a tape leaves;
* `YieldsIf` -- the same of a program that always returns, with the same rules.
-/

namespace Xencons.Lib.Proc

variable {ε σ α β : Type} {A : ε → Prop} {p : Proc ε σ α} {k : α → Proc ε σ β}
  {Q Q' : α → σ → Prop} {R : β → σ → Prop} {s : σ}

/-- **The weakest precondition under a promise**: run from `s`, on every tape whose answers all keep
    `A`, the program may wait but neither deadlocks nor loops, and what it returns satisfies `Q`. -/
def EnsuresIf (A : ε → Prop) (p : Proc ε σ α) (Q : α → σ → Prop) (s : σ) : Prop :=
  ∀ tape n, (∀ i, A (tape i)) → (p tape n s).Ensures fun r => Q r.1 r.2.2

theorem Ensures.promised (h : p.Ensures Q s) : p.EnsuresIf A Q s := fun tape n _ => h tape n

namespace EnsuresIf

theorem pure {a : α} (h : Q a s) : (Pure.pure a : Proc ε σ α).EnsuresIf A Q s := fun _ _ _ => h

theorem bind (h : p.EnsuresIf A (fun a => (k a).EnsuresIf A R) s) : (p >>= k).EnsuresIf A R s :=
  fun tape n hA => Call.Ensures.bind (h tape n hA) fun r hr => hr tape r.2.1 hA

theorem mono (h : p.EnsuresIf A Q s) (hQ : ∀ a s', Q a s' → Q' a s') : p.EnsuresIf A Q' s :=
  fun tape n hA => Call.Ensures.mono (h tape n hA) fun _ hr => hQ _ _ hr

theorem and (h : p.EnsuresIf A Q s) (h' : p.EnsuresIf A Q' s) :
    p.EnsuresIf A (fun a s' => Q a s' ∧ Q' a s') s := fun tape n hA =>
  (h tape n hA).and (h' tape n hA)

/-- **The promise.** -/
theorem ask {Q : ε → σ → Prop} (h : ∀ a, A a → Q a s) :
    (Proc.ask : Proc ε σ ε).EnsuresIf A Q s := fun tape n hA => h (tape n) (hA n)

theorem get {Q : σ → σ → Prop} (h : Q s s) : (Proc.get : Proc ε σ σ).EnsuresIf A Q s :=
  fun _ _ _ => h

theorem modify {g : σ → σ} {Q : Unit → σ → Prop} (h : Q () (g s)) :
    (Proc.modify g : Proc ε σ Unit).EnsuresIf A Q s := fun _ _ _ => h

theorem ite {c : Prop} [Decidable c] {q : Proc ε σ α} (hp : c → p.EnsuresIf A Q s)
    (hq : ¬c → q.EnsuresIf A Q s) : (if c then p else q).EnsuresIf A Q s := by
  split
  · exact hp ‹c›
  · exact hq ‹¬c›

/-! The first step of a program: -/

theorem ask_bind {k : ε → Proc ε σ β} (h : ∀ a, A a → (k a).EnsuresIf A R s) :
    (Proc.ask >>= k).EnsuresIf A R s := .bind (.ask h)

theorem get_bind {k : σ → Proc ε σ β} (h : (k s).EnsuresIf A R s) :
    (Proc.get >>= k).EnsuresIf A R s := .bind (.get h)

theorem modify_bind {g : σ → σ} {k : Unit → Proc ε σ β} (h : (k ()).EnsuresIf A R (g s)) :
    (Proc.modify g >>= k).EnsuresIf A R s := .bind (.modify h)

/-- **Ask for what is promised**: nothing is given up. -/
theorem askOr {ok : ε → Bool} {giveUp goOn : ε → Proc ε σ α} (hok : ∀ a, A a → ok a = true)
    (hyes : ∀ a, A a → (goOn a).EnsuresIf A Q s) :
    (Proc.ask >>= fun a => if !ok a then giveUp a else goOn a).EnsuresIf A Q s := by
  refine .ask_bind fun a ha => .ite (fun hno => ?_) fun _ => hyes a ha
  simp [hok a ha] at hno

/-- A run of the program on such a tape. -/
theorem run (h : p.EnsuresIf A Q s) {tape : Nat → ε} {n n' : Nat} {a : α} {s' : σ}
    (hA : ∀ i, A (tape i)) (hrun : p tape n s = .returns (a, n', s')) : Q a s' := by
  have hspec := h tape n hA
  rwa [hrun] at hspec

end EnsuresIf

/-! ## Programs that return -/

/-- **Total correctness under a promise**: on every tape whose answers all keep `A`, the program
    returns, and what it returns satisfies `Q`. -/
def YieldsIf (A : ε → Prop) (p : Proc ε σ α) (Q : α → σ → Prop) (s : σ) : Prop :=
  ∀ tape n, (∀ i, A (tape i)) → ∃ a n' s', p tape n s = .returns (a, n', s') ∧ Q a s'

namespace YieldsIf

theorem pure {a : α} (h : Q a s) : (Pure.pure a : Proc ε σ α).YieldsIf A Q s :=
  fun _ n _ => ⟨a, n, s, rfl, h⟩

theorem bind (h : p.YieldsIf A (fun a => (k a).YieldsIf A R) s) : (p >>= k).YieldsIf A R s := by
  intro tape n hA
  obtain ⟨a, n', s', hp, hk⟩ := h tape n hA
  obtain ⟨b, n'', s'', hb, hR⟩ := hk tape n' hA
  refine ⟨b, n'', s'', ?_, hR⟩
  rw [run_bind, hp]
  exact hb

/-- **The promise.** -/
theorem ask {Q : ε → σ → Prop} (h : ∀ a, A a → Q a s) : (Proc.ask : Proc ε σ ε).YieldsIf A Q s :=
  fun tape n hA => ⟨tape n, n + 1, s, rfl, h _ (hA n)⟩

theorem get {Q : σ → σ → Prop} (h : Q s s) : (Proc.get : Proc ε σ σ).YieldsIf A Q s :=
  fun _ n _ => ⟨s, n, s, rfl, h⟩

theorem modify {g : σ → σ} {Q : Unit → σ → Prop} (h : Q () (g s)) :
    (Proc.modify g : Proc ε σ Unit).YieldsIf A Q s := fun _ n _ => ⟨(), n, g s, rfl, h⟩

theorem ite {c : Prop} [Decidable c] {q : Proc ε σ α} (hp : c → p.YieldsIf A Q s)
    (hq : ¬c → q.YieldsIf A Q s) : (if c then p else q).YieldsIf A Q s := by
  split
  · exact hp ‹c›
  · exact hq ‹¬c›

/-! The first step of a program: -/

theorem ask_bind {k : ε → Proc ε σ β} (h : ∀ a, A a → (k a).YieldsIf A R s) :
    (Proc.ask >>= k).YieldsIf A R s := .bind (.ask h)

theorem get_bind {k : σ → Proc ε σ β} (h : (k s).YieldsIf A R s) :
    (Proc.get >>= k).YieldsIf A R s := .bind (.get h)

theorem modify_bind {g : σ → σ} {k : Unit → Proc ε σ β} (h : (k ()).YieldsIf A R (g s)) :
    (Proc.modify g >>= k).YieldsIf A R s := .bind (.modify h)

end YieldsIf

end Xencons.Lib.Proc
