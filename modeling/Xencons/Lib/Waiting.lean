import Xencons.Lib.Transition

/-!
# Waiting for one another

The steps of a system are taken by parties. A party can be blocked from outside, and it can wait for
others. When nobody but the blocked one itself can end a wait, whoever waits for it, over any number
of others, takes no step any more.

* `Stuck` -- blocked, or waiting for one that is stuck; `not_stuck`, who is not;
* `Waiting` -- what blocking and waiting have to keep while others take their steps;
* `Stuck.next` -- then who is stuck stays stuck; `Stuck.idle`, and takes no step; `Stuck.still`.
-/

namespace Xencons.Lib

variable {σ ℓ π : Type*}

section Graph

variable {waits : π → π → Prop} {blocked : π → Prop} {p : π}

/-- `p` is blocked, or waits for a party that is stuck. -/
inductive Stuck (waits : π → π → Prop) (blocked : π → Prop) : π → Prop where
  | blocked {p : π} (hb : blocked p) : Stuck waits blocked p
  | waits {p q : π} (hw : waits p q) (hq : Stuck waits blocked q) : Stuck waits blocked p

/-- Who waits only among those of whom none is blocked is not stuck. -/
theorem not_stuck {free : π → Prop} (hf : free p) (hw : ∀ p q, free p → waits p q → free q)
    (hb : ∀ p, free p → ¬blocked p) : ¬Stuck waits blocked p := by
  intro h
  induction h with
  | blocked hbl => exact hb _ hf hbl
  | waits hpq _ ih => exact ih (hw _ _ hf hpq)

end Graph

variable {S : System σ ℓ} {P : σ → ℓ → Prop} {J : σ → Prop} {party : ℓ → π}
  {waits : σ → π → π → Prop} {blocked : σ → π → Prop} {s s' : σ} {l : ℓ} {p : π}

/-- **Waits that nobody else ends**, in the steps that meet `P` and the states that meet `J`. -/
structure Waiting (S : System σ ℓ) (P : σ → ℓ → Prop) (J : σ → Prop) (party : ℓ → π)
    (waits : σ → π → π → Prop) (blocked : σ → π → Prop) : Prop where
  waits_idle : ∀ s l p q, J s → waits s p q → S.enabled s l → party l ≠ p
  waits_next : ∀ s l p q, J s → waits s p q → S.enabled s l → P s l → party l ≠ p →
    party l ≠ q → waits (S.next s l) p q
  blocked_idle : ∀ s l p, J s → blocked s p → S.enabled s l → party l ≠ p
  blocked_next : ∀ s l p, J s → blocked s p → S.enabled s l → P s l → party l ≠ p →
    blocked (S.next s l) p

/-- Who is stuck takes no step. -/
theorem Stuck.idle (hS : Waiting S P J party waits blocked) (hj : J s)
    (h : Stuck (waits s) (blocked s) p) (he : S.enabled s l) : party l ≠ p := by
  cases h with
  | blocked hb => exact hS.blocked_idle s l p hj hb he
  | waits hw _ => exact hS.waits_idle s l p _ hj hw he

/-- **Who is stuck stays stuck.** -/
theorem Stuck.next (hS : Waiting S P J party waits blocked) (hj : J s) (he : S.enabled s l)
    (hp : P s l) (h : Stuck (waits s) (blocked s) p) :
    Stuck (waits (S.next s l)) (blocked (S.next s l)) p := by
  induction h with
  | blocked hb =>
      exact .blocked (hS.blocked_next s l _ hj hb he hp (hS.blocked_idle s l _ hj hb he))
  | waits hw hq ih =>
      exact .waits (hS.waits_next s l _ _ hj hw he hp (hS.waits_idle s l _ _ hj hw he)
        (hq.idle hS hj he)) ih

/-- What only `p` changes stays as it is when `p` is stuck, over any number of steps. -/
theorem Stuck.still {τ : Type*} {f : σ → τ} (hS : Waiting S P J party waits blocked)
    (hJ : ∀ s l, J s → S.enabled s l → J (S.next s l)) (hj : J s)
    (h : Stuck (waits s) (blocked s) p) (hf : ∀ s l, party l ≠ p → f (S.next s l) = f s)
    (hr : Reach S P s s') : f s' = f s := by
  refine (hr.invariant (I := fun t => J t ∧ Stuck (waits t) (blocked t) p ∧ f t = f s)
    ⟨hj, h, rfl⟩ fun t l ⟨hjt, hst, he⟩ hen hp => ?_).2.2
  exact ⟨hJ t l hjt hen, hst.next hS hjt hen hp, (hf t l (hst.idle hS hjt hen)).trans he⟩

end Xencons.Lib
