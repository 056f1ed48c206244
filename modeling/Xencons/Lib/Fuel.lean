import Xencons.Lib.Ghost

/-!
# Enough fuel

A loop that may wait for ever is run with fuel, and waits where it is out. So of a program with fuel
there are two things to say: that with enough of it it returns this and always this, or that it
never returns however much it gets.

* `Total` -- a program without fuel, which returns wherever it is begun;
* `Settles`, `Hangs` -- the two;
* `Course` -- which of them it is, by a condition on where the program is begun; `Course.ends_iff`;
* `Course.returns`, `Course.bind`, `Course.first`, ... -- a rule for each way to build a program;
* `Turns`, `hangs_of_invariant` -- a loop that comes to its end, and one that does not.
-/

namespace Xencons.Lib.Proc

variable {ε σ τ α β : Type} {tape : Nat → ε} {n : Nat} {s : σ}

/-! ## 1. Programs that return -/

def Total (p : Proc ε σ α) : Prop := ∀ tape n s, ∃ r, p tape n s = .returns r

/-- A program that never waits, and neither deadlocks nor loops. -/
theorem Prompt.total {ρ : Type} {view : σ → ρ} {p : Proc ε σ α} (hp : Prompt p)
    (h : Keeps view p) : Total p := fun tape n s => by
  obtain ⟨a, n', s', hrun, -⟩ := hp.yields (h s) tape n
  exact ⟨_, hrun⟩

namespace Total

variable {p q : Proc ε σ α} {k : α → Proc ε σ β}

theorem pure {a : α} : Total (Pure.pure a : Proc ε σ α) := fun _ _ _ => ⟨_, rfl⟩

theorem ask : Total (Proc.ask : Proc ε σ ε) := fun _ _ _ => ⟨_, rfl⟩

theorem get : Total (Proc.get : Proc ε σ σ) := fun _ _ _ => ⟨_, rfl⟩

theorem modify {g : σ → σ} : Total (Proc.modify g : Proc ε σ Unit) := fun _ _ _ => ⟨_, rfl⟩

theorem bind (hp : Total p) (hk : ∀ a, Total (k a)) : Total (p >>= k) := by
  intro tape n s
  obtain ⟨r, hr⟩ := hp tape n s
  show ∃ b, (p tape n s).bind _ = _
  rw [hr]
  exact hk r.1 tape r.2.1 r.2.2

theorem ite {c : Prop} [Decidable c] (hp : Total p) (hq : Total q) :
    Total (if c then p else q) := by
  split
  · exact hp
  · exact hq

theorem onPart {ρ : Type} {view : σ → ρ} {put : σ → ρ → σ} {p : Proc ε ρ α} (hp : Total p) :
    Total (p.onPart view put) := by
  intro tape n s
  obtain ⟨r, hr⟩ := hp tape n (view s)
  refine ⟨(r.1, r.2.1, put s r.2.2), ?_⟩
  show (p tape n (view s)).bind _ = _
  rw [hr]
  rfl

end Total

/-! ## 2. Enough of it, or never -/

/-- **With enough fuel** the program returns `r`. -/
def Settles (P : Nat → Proc ε σ α) (tape : Nat → ε) (n : Nat) (s : σ) (r : α × Nat × σ) : Prop :=
  ∃ enough, ∀ fuel, enough ≤ fuel → P fuel tape n s = .returns r

/-- However much fuel there is, the program does not return. -/
def Hangs (P : Nat → Proc ε σ α) (tape : Nat → ε) (n : Nat) (s : σ) : Prop :=
  ∃ enough, ∀ fuel, enough ≤ fuel → ∀ r, P fuel tape n s ≠ .returns r

/-- The program settles where `c`, and hangs where not. -/
structure Course (P : Nat → Proc ε σ α) (tape : Nat → ε) (n : Nat) (s : σ) (c : Prop) : Prop where
  settles : c → ∃ r, Settles P tape n s r
  hangs : ¬c → Hangs P tape n s

variable {P Q : Nat → Proc ε σ α} {K : Nat → α → Proc ε σ β} {c d : Prop} {r r' : α × Nat × σ}

/-- What it settles to is one thing. -/
theorem Settles.unique (h : Settles P tape n s r) (h' : Settles P tape n s r') : r = r' := by
  obtain ⟨m, hm⟩ := h
  obtain ⟨m', hm'⟩ := h'
  exact Call.returns.inj ((hm _ (Nat.le_max_left m m')).symm.trans (hm' _ (Nat.le_max_right m m')))

/-- A program without fuel. -/
theorem Settles.of_returns {p : Proc ε σ α} (h : p tape n s = .returns r) :
    Settles (fun _ => p) tape n s r := ⟨0, fun _ _ => h⟩

/-- What is ensured of the program holds of what it settles to. -/
theorem Settles.ensures {A : α → σ → Prop} (h : Settles P tape n s r)
    (hP : ∀ fuel, (P fuel).Ensures A s) : A r.1 r.2.2 := by
  obtain ⟨m, hm⟩ := h
  have hA := hP m tape n
  rwa [hm m (Nat.le_refl m)] at hA

theorem Settles.bind {b : β × Nat × σ} (h : Settles P tape n s r)
    (hk : Settles (fun fuel => K fuel r.1) tape r.2.1 r.2.2 b) :
    Settles (fun fuel => P fuel >>= K fuel) tape n s b := by
  obtain ⟨m, hm⟩ := h
  obtain ⟨m', hm'⟩ := hk
  refine ⟨max m m', fun fuel hf => ?_⟩
  show (P fuel tape n s).bind _ = _
  rw [hm fuel (by omega)]
  exact hm' fuel (by omega)

theorem Hangs.bind (h : Hangs P tape n s) : Hangs (fun fuel => P fuel >>= K fuel) tape n s := by
  obtain ⟨m, hm⟩ := h
  refine ⟨m, fun fuel hf b hb => ?_⟩
  have hne := hm fuel hf
  change (P fuel tape n s).bind _ = _ at hb
  cases hc : P fuel tape n s with
  | returns r => exact hne r hc
  | waits | deadlocks | loops =>
      rw [hc] at hb
      cases hb

/-- What hangs later on hangs. -/
theorem Settles.bind_hangs (h : Settles P tape n s r)
    (hk : Hangs (fun fuel => K fuel r.1) tape r.2.1 r.2.2) :
    Hangs (fun fuel => P fuel >>= K fuel) tape n s := by
  obtain ⟨m, hm⟩ := h
  obtain ⟨m', hm'⟩ := hk
  refine ⟨max m m', fun fuel hf b hb => ?_⟩
  change (P fuel tape n s).bind _ = _ at hb
  rw [hm fuel (by omega)] at hb
  exact hm' fuel (by omega) b hb

namespace Course

/-- **It ends just where the condition holds.** -/
theorem ends_iff (h : Course P tape n s c) : (∃ r, Settles P tape n s r) ↔ c := by
  refine ⟨fun ⟨r, m, hm⟩ => Classical.byContradiction fun hc => ?_, h.settles⟩
  obtain ⟨m', hm'⟩ := h.hangs hc
  exact hm' _ (Nat.le_max_right m m') r (hm _ (Nat.le_max_left m m'))

/-- A condition that says the same. -/
theorem congr (h : Course P tape n s c) (hcd : c ↔ d) : Course P tape n s d :=
  ⟨fun hd => h.settles (hcd.mpr hd), fun hd => h.hangs fun hc => hd (hcd.mp hc)⟩

/-- A program that does the same. -/
theorem of_run_eq (h : Course Q tape n s c) (hrun : ∀ fuel, P fuel tape n s = Q fuel tape n s) :
    Course P tape n s c where
  settles hc := by
    obtain ⟨r, m, hm⟩ := h.settles hc
    exact ⟨r, m, fun fuel hf => (hrun fuel).trans (hm fuel hf)⟩
  hangs hc := by
    obtain ⟨m, hm⟩ := h.hangs hc
    exact ⟨m, fun fuel hf r hr => hm fuel hf r ((hrun fuel).symm.trans hr)⟩

theorem of_settles (h : Settles P tape n s r) : Course P tape n s True :=
  ⟨fun _ => ⟨r, h⟩, fun no => absurd trivial no⟩

/-- A program without fuel. -/
theorem returns {p : Proc ε σ α} (h : p tape n s = .returns r) :
    Course (fun _ => p) tape n s True := .of_settles (.of_returns h)

/-- **Sequencing.** -/
theorem bind {d : α × Nat × σ → Prop} (h : Course P tape n s c)
    (hk : ∀ r, Settles P tape n s r → Course (fun fuel => K fuel r.1) tape r.2.1 r.2.2 (d r)) :
    Course (fun fuel => P fuel >>= K fuel) tape n s (c ∧ ∀ r, Settles P tape n s r → d r) where
  settles hcd := by
    obtain ⟨r, hr⟩ := h.settles hcd.1
    obtain ⟨b, hb⟩ := (hk r hr).settles (hcd.2 r hr)
    exact ⟨b, hr.bind hb⟩
  hangs hcd := by
    by_cases hc : c
    · obtain ⟨r, hr⟩ := h.settles hc
      have hd : ¬d r := fun hd => hcd ⟨hc, fun r' hr' => hr.unique hr' ▸ hd⟩
      exact hr.bind_hangs ((hk r hr).hangs hd)
    · exact (h.hangs hc).bind

/-- Sequencing behind a program without fuel. -/
theorem after {p : Proc ε σ α} (h : p tape n s = .returns r)
    (hk : Course (fun fuel => K fuel r.1) tape r.2.1 r.2.2 c) :
    Course (fun fuel => p >>= K fuel) tape n s c where
  settles hc := (hk.settles hc).imp fun _ hb => (Settles.of_returns h).bind hb
  hangs hc := (Settles.of_returns h).bind_hangs (hk.hangs hc)

/-- Sequencing ahead of a program that always returns. -/
theorem andThen {k : α → Proc ε σ β} (h : Course P tape n s c) (hk : ∀ a, Total (k a)) :
    Course (fun fuel => P fuel >>= k) tape n s c where
  settles hc := by
    obtain ⟨r, hr⟩ := h.settles hc
    obtain ⟨b, hb⟩ := hk r.1 tape r.2.1 r.2.2
    exact ⟨b, hr.bind (.of_returns hb)⟩
  hangs hc := (h.hangs hc).bind

theorem total {p : Proc ε σ α} (h : Total p) : Course (fun _ => p) tape n s True := by
  obtain ⟨r, hr⟩ := h tape n s
  exact returns hr

/-- A program without fuel that may end it all, and what it goes on with. -/
theorem first {p : Proc ε σ (Unit ⊕ α)} {c : Nat → σ → Prop} (hp : Total p)
    (hk : ∀ n' s', Course P tape n' s' (c n' s')) :
    Course (fun fuel => p >>= Sum.elim (fun _ => P fuel) pure) tape n s
      (∀ n' s', p tape n s = .returns (.inl (), n', s') → c n' s') := by
  obtain ⟨⟨r, n', s'⟩, hr⟩ := hp tape n s
  cases r with
  | inl u =>
      refine (after hr (hk n' s')).congr ⟨fun h m t hrun => ?_, fun h => h n' s' hr⟩
      obtain ⟨rfl, rfl⟩ : n' = m ∧ s' = t := by simpa [hr] using hrun
      exact h
  | inr a =>
      refine (after hr (returns rfl)).congr (iff_of_true trivial fun m t hrun => ?_)
      cases hr.symm.trans hrun

end Course

/-! ## 3. Loops -/

/-- A loop whose rounds and whose turns have fuel of their own. -/
def Turns (body : Nat → τ → Proc ε σ (τ ⊕ α)) (tape : Nat → ε) (t : τ) (n : Nat) (s : σ)
    (r : α × Nat × σ) : Prop :=
  ∃ enough, ∀ fuel turns, enough ≤ fuel → enough ≤ turns →
    repeatUntil .waits (body fuel) turns t tape n s = .returns r

section Turns

variable {body : Nat → τ → Proc ε σ (τ ⊕ α)} {t t' : τ} {n' : Nat} {s' : σ}

/-- The loop says that it is done. -/
theorem Turns.done {a : α} (h : Settles (body · t) tape n s (.inr a, n', s')) :
    Turns body tape t n s (a, n', s') := by
  obtain ⟨m, hm⟩ := h
  refine ⟨m + 1, fun fuel turns hf ht => ?_⟩
  obtain ⟨turns, rfl⟩ : ∃ k, turns = k + 1 := ⟨turns - 1, by omega⟩
  have hbody : body fuel t tape n s = .returns (.inr a, n', s') := hm fuel (by omega)
  show (body fuel t tape n s).bind _ = _
  rw [hbody]
  rfl

/-- The loop goes on. -/
theorem Turns.turn (h : Settles (body · t) tape n s (.inl t', n', s'))
    (hr : Turns body tape t' n' s' r) : Turns body tape t n s r := by
  obtain ⟨m, hm⟩ := h
  obtain ⟨m', hm'⟩ := hr
  refine ⟨max m m' + 1, fun fuel turns hf ht => ?_⟩
  obtain ⟨turns, rfl⟩ : ∃ k, turns = k + 1 := ⟨turns - 1, by omega⟩
  have hbody : body fuel t tape n s = .returns (.inl t', n', s') := hm fuel (by omega)
  show (body fuel t tape n s).bind _ = _
  rw [hbody]
  exact hm' fuel turns (by omega) (by omega)

theorem Turns.settles (h : Turns body tape t n s r) :
    Settles (fun fuel => repeatUntil .waits (body fuel) fuel t) tape n s r :=
  h.imp fun _ hm fuel hf => hm fuel fuel hf hf

/-- **A loop that always goes on** hangs. -/
theorem hangs_of_invariant {I : τ → Nat → σ → Prop}
    (step : ∀ fuel t n s r, I t n s → body fuel t tape n s = .returns r →
      ∃ t', r.1 = .inl t' ∧ I t' r.2.1 r.2.2) (h : I t n s) :
    Hangs (fun fuel => repeatUntil .waits (body fuel) fuel t) tape n s := by
  have hturns : ∀ turns fuel t n s, I t n s →
      ∀ r, repeatUntil .waits (body fuel) turns t tape n s ≠ .returns r := by
    intro turns
    induction turns with
    | zero => exact fun fuel t n s _ r => nofun
    | succ turns ih =>
      intro fuel t n s h r hr
      change (body fuel t tape n s).bind _ = _ at hr
      cases hc : body fuel t tape n s with
      | returns a =>
          obtain ⟨t', ha, hI⟩ := step fuel t n s a h hc
          obtain ⟨a, n', s'⟩ := a
          obtain rfl : a = .inl t' := ha
          rw [hc] at hr
          exact ih fuel t' n' s' hI r hr
      | waits | deadlocks | loops =>
          rw [hc] at hr
          cases hr
  exact ⟨0, fun fuel _ => hturns fuel fuel t n s h⟩

end Turns

end Xencons.Lib.Proc
