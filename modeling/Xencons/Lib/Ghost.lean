import Xencons.Lib.Proc

/-!
# Programs with notes beside them

What a program has done need not be in its record: that every transaction was ended once is a fact
about the calls it made. Such facts are stated of the same program with notes taken beside it, and a
lemma says that without the notes it is the program it was.

* `Proc.lift`, `Proc.note` -- a program beside notes, and a note;
* `Erases`, with a rule for each way to build a program -- without its notes the one is the other;
* `Erases.returns`, `Erases.ensures` -- what that carries over;
* `Prompt` -- a program that never waits, `Yields` -- and so returns: `Prompt.yields`; a rule for each
  way to build such a program.
-/

namespace Xencons.Lib

namespace Call

variable {α β : Type _}

@[simp] theorem waits_bind (k : α → Call β) : (Call.waits : Call α).bind k = .waits := rfl

@[simp] theorem loops_bind (k : α → Call β) : (Call.loops : Call α).bind k = .loops := rfl

end Call

namespace Proc

variable {ε σ γ τ α β : Type}

/-! ## 1. Rearranging programs -/

theorem pure_then (a : α) (k : α → Proc ε σ β) : Pure.pure a >>= k = k a := rfl

theorem then_pure (p : Proc ε σ α) : p >>= Pure.pure = p := by
  funext tape n s
  show (p tape n s).bind _ = _
  cases p tape n s <;> rfl

theorem bind_bind {δ : Type} (p : Proc ε σ α) (k : α → Proc ε σ β) (l : β → Proc ε σ δ) :
    (p >>= k) >>= l = p >>= fun a => k a >>= l := by
  funext tape n s
  show ((p tape n s).bind _).bind _ = (p tape n s).bind _
  cases p tape n s <;> rfl

theorem ite_bind {c : Prop} [Decidable c] (p q : Proc ε σ α) (k : α → Proc ε σ β) :
    (if c then p else q) >>= k = if c then p >>= k else q >>= k := by
  split <;> rfl

/-! ## 2. Notes -/

/-- A program that takes no notes. -/
def lift (p : Proc ε σ α) : Proc ε (σ × γ) α := p.onPart Prod.fst fun s r => (r, s.2)

/-- A note. -/
def note (g : γ → γ) : Proc ε (σ × γ) Unit := modify fun s => (s.1, g s.2)

/-- **Without its notes the one program is the other.** -/
def Erases (p : Proc ε (σ × γ) α) (q : Proc ε σ α) : Prop :=
  ∀ tape n s g,
    (p tape n (s, g)).bind (fun r => .returns (r.1, r.2.1, r.2.2.1)) = q tape n s

namespace Erases

variable {p p' : Proc ε (σ × γ) α} {q q' : Proc ε σ α} {tape : Nat → ε} {n n' : Nat} {s s' : σ}
  {g g' : γ} {a : α}

theorem pure : Erases (Pure.pure a : Proc ε (σ × γ) α) (Pure.pure a) := fun _ _ _ _ => rfl

theorem ask : Erases (Proc.ask : Proc ε (σ × γ) ε) Proc.ask := fun _ _ _ _ => rfl

theorem lift (q : Proc ε σ α) : Erases (q.lift : Proc ε (σ × γ) α) q := fun tape n s _ => by
  show ((q tape n s).bind _).bind _ = _
  cases q tape n s <;> rfl

theorem bind {k : α → Proc ε (σ × γ) β} {l : α → Proc ε σ β} (h : Erases p q)
    (hk : ∀ a, Erases (k a) (l a)) : Erases (p >>= k) (q >>= l) := by
  intro tape n s g
  have hp := h tape n s g
  show ((p tape n (s, g)).bind _).bind _ = (q tape n s).bind _
  rw [← hp]
  cases p tape n (s, g) with
  | returns r => exact hk r.1 tape r.2.1 r.2.2.1 r.2.2.2
  | waits | deadlocks | loops => rfl

/-- A note says nothing. -/
theorem note {f : γ → γ} (h : Erases p q) : Erases (Proc.note f >>= fun _ => p) q :=
  fun tape n s g => h tape n s (f g)

/-- The notes may be read for further ones. -/
theorem look {k : σ × γ → Proc ε (σ × γ) α} (h : ∀ s, Erases (k s) q) :
    Erases (Proc.get >>= k) q := fun tape n s g => h (s, g) tape n s g

theorem ite {c : Prop} [Decidable c] (h : Erases p q) (h' : Erases p' q') :
    Erases (if c then p else p') (if c then q else q') := by
  split
  · exact h
  · exact h'

theorem repeatUntil {out : Call Empty} {body : τ → Proc ε (σ × γ) (τ ⊕ α)}
    {body' : τ → Proc ε σ (τ ⊕ α)} (h : ∀ t, Erases (body t) (body' t)) (fuel : Nat) (t : τ) :
    Erases (Proc.repeatUntil out body fuel t) (Proc.repeatUntil out body' fuel t) := by
  induction fuel generalizing t with
  | zero =>
      intro tape n s g
      show (stop out tape n (s, g)).bind _ = stop out tape n s
      unfold stop
      cases out with
      | returns e => exact e.elim
      | waits | deadlocks | loops => rfl
  | succ fuel ih =>
      refine (h t).bind fun r => ?_
      cases r with
      | inl t' => exact ih t'
      | inr a => exact .pure

/-- What returns with its notes returns without them. -/
theorem returns (h : Erases p q) (hp : p tape n (s, g) = .returns (a, n', s', g')) :
    q tape n s = .returns (a, n', s') := by
  rw [← h tape n s g, hp]
  rfl

end Erases

theorem Ensures.lift {q : Proc ε σ α} {Q : α → σ × γ → Prop} {s : σ} {g : γ}
    (h : q.Ensures (fun a s' => Q a (s', g)) s) : (q.lift).Ensures Q (s, g) := .onPart h

theorem Ensures.note {f : γ → γ} {Q : Unit → σ × γ → Prop} {s : σ} {g : γ} (h : Q () (s, f g)) :
    (Proc.note f : Proc ε (σ × γ) Unit).Ensures Q (s, g) := .modify h

/-! ## 3. Programs that return -/

/-- Never waits. -/
def Prompt (p : Proc ε σ α) : Prop := ∀ tape n s, p tape n s ≠ .waits

/-- **Total correctness**: on every tape the program returns, and what it returns satisfies `Q`. -/
def Yields (p : Proc ε σ α) (Q : α → σ → Prop) (s : σ) : Prop :=
  ∀ tape n, ∃ a n' s', p tape n s = .returns (a, n', s') ∧ Q a s'

/-- A program that never waits returns, where it neither deadlocks nor loops. -/
theorem Prompt.yields {p : Proc ε σ α} {Q : α → σ → Prop} {s : σ} (hp : p.Prompt)
    (h : p.Ensures Q s) : p.Yields Q s := by
  intro tape n
  have hrun := h tape n
  have hwait := hp tape n s
  cases hc : p tape n s with
  | returns r =>
      rw [hc] at hrun
      exact ⟨r.1, r.2.1, r.2.2, rfl, hrun⟩
  | waits => exact absurd hc hwait
  | deadlocks | loops =>
      rw [hc] at hrun
      exact hrun.elim

namespace Yields

variable {p q : Proc ε σ α} {k : α → Proc ε σ β} {Q Q' : α → σ → Prop} {R : β → σ → Prop} {s : σ}

theorem pure {a : α} (h : Q a s) : (Pure.pure a : Proc ε σ α).Yields Q s :=
  fun _ n => ⟨a, n, s, rfl, h⟩

/-- **Sequencing.** -/
theorem bind (h : p.Yields (fun a => (k a).Yields R) s) : (p >>= k).Yields R s := by
  intro tape n
  obtain ⟨a, n', s', hp, hk⟩ := h tape n
  obtain ⟨b, n'', s'', hb, hR⟩ := hk tape n'
  refine ⟨b, n'', s'', ?_, hR⟩
  rw [run_bind, hp]
  exact hb

theorem mono (h : p.Yields Q s) (hQ : ∀ a s', Q a s' → Q' a s') : p.Yields Q' s := by
  intro tape n
  obtain ⟨a, n', s', hp, hq⟩ := h tape n
  exact ⟨a, n', s', hp, hQ a s' hq⟩

theorem ask {Q : ε → σ → Prop} (h : ∀ a, Q a s) : (Proc.ask : Proc ε σ ε).Yields Q s :=
  fun tape n => ⟨tape n, n + 1, s, rfl, h _⟩

theorem get {Q : σ → σ → Prop} (h : Q s s) : (Proc.get : Proc ε σ σ).Yields Q s :=
  fun _ n => ⟨s, n, s, rfl, h⟩

theorem modify {g : σ → σ} {Q : Unit → σ → Prop} (h : Q () (g s)) :
    (Proc.modify g : Proc ε σ Unit).Yields Q s := fun _ n => ⟨(), n, g s, rfl, h⟩

theorem ite {c : Prop} [Decidable c] (hp : c → p.Yields Q s) (hq : ¬c → q.Yields Q s) :
    (if c then p else q).Yields Q s := by
  split
  · exact hp ‹c›
  · exact hq ‹¬c›

/-! The first step of a program: -/

theorem ask_bind {k : ε → Proc ε σ β} (h : ∀ a, (k a).Yields R s) :
    (Proc.ask >>= k).Yields R s := .bind (.ask h)

theorem get_bind {k : σ → Proc ε σ β} (h : (k s).Yields R s) : (Proc.get >>= k).Yields R s :=
  .bind (.get h)

theorem modify_bind {g : σ → σ} {k : Unit → Proc ε σ β} (h : (k ()).Yields R (g s)) :
    (Proc.modify g >>= k).Yields R s := .bind (.modify h)

end Yields

namespace Prompt

variable {p q : Proc ε σ α} {k : α → Proc ε σ β}

theorem pure {a : α} : Prompt (Pure.pure a : Proc ε σ α) := fun _ _ _ => nofun

theorem ask : Prompt (Proc.ask : Proc ε σ ε) := fun _ _ _ => nofun

theorem get : Prompt (Proc.get : Proc ε σ σ) := fun _ _ _ => nofun

theorem modify {g : σ → σ} : Prompt (Proc.modify g : Proc ε σ Unit) := fun _ _ _ => nofun

theorem bind (hp : Prompt p) (hk : ∀ a, Prompt (k a)) : Prompt (p >>= k) := by
  intro tape n s
  have hwait := hp tape n s
  show (p tape n s).bind _ ≠ .waits
  cases hc : p tape n s with
  | returns r => exact hk r.1 tape r.2.1 r.2.2
  | waits => exact absurd hc hwait
  | deadlocks | loops => exact nofun

theorem ite {c : Prop} [Decidable c] (hp : Prompt p) (hq : Prompt q) :
    Prompt (if c then p else q) := by
  split
  · exact hp
  · exact hq

theorem onPart {ρ : Type} {view : σ → ρ} {put : σ → ρ → σ} {p : Proc ε ρ α} (hp : Prompt p) :
    Prompt (p.onPart view put) := by
  intro tape n s
  have hwait := hp tape n (view s)
  show (p tape n (view s)).bind _ ≠ .waits
  cases hc : p tape n (view s) with
  | returns r => exact nofun
  | waits => exact absurd hc hwait
  | deadlocks | loops => exact nofun

/-- A loop that says so where it runs out of fuel. -/
theorem repeatUntil {body : τ → Proc ε σ (τ ⊕ α)} (h : ∀ t, Prompt (body t)) (fuel : Nat) (t : τ) :
    Prompt (Proc.repeatUntil .loops body fuel t) := by
  induction fuel generalizing t with
  | zero => exact fun _ _ _ => nofun
  | succ fuel ih =>
      refine (h t).bind fun r => ?_
      cases r with
      | inl t' => exact ih t'
      | inr a => exact .pure

end Prompt

end Proc

end Xencons.Lib
