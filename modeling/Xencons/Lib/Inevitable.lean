import Xencons.Lib.Transition

/-!
# What some parties cannot but reach

* `Inevitable` -- whatever the parties in `own` do, and in whatever order, they come to `done`;
* `Inevitable.of_rank` -- the ranking rule: one of them can always take a step, and every step of
  theirs lowers a rank.
-/

namespace Xencons.Lib

variable {σ ℓ : Type*} {S : System σ ℓ} {own : ℓ → Prop} {done : σ → Prop}

/-- Every course of the steps in `own` comes to `done`: until then there is such a step to take, and
    `done` lies ahead of every one of them. -/
inductive Inevitable (S : System σ ℓ) (own : ℓ → Prop) (done : σ → Prop) : σ → Prop where
  | reached {s : σ} (h : done s) : Inevitable S own done s
  | ahead {s : σ} (hgo : ∃ l, own l ∧ S.enabled s l)
      (hnext : ∀ l, own l → S.enabled s l → Inevitable S own done (S.next s l)) :
      Inevitable S own done s

/-- **The ranking rule.** -/
theorem Inevitable.of_rank {I : σ → Prop} (rank : σ → Nat)
    (hgo : ∀ s, I s → ¬done s → ∃ l, own l ∧ S.enabled s l)
    (hkeep : ∀ s l, I s → own l → S.enabled s l → I (S.next s l))
    (hdrop : ∀ s l, I s → own l → S.enabled s l → rank (S.next s l) < rank s) {s : σ}
    (h : I s) : Inevitable S own done s := by
  induction hn : rank s using Nat.strongRecOn generalizing s with
  | _ n ih =>
      subst hn
      by_cases hd : done s
      · exact .reached hd
      · refine .ahead (hgo s h hd) ?_
        intro l hl he
        exact ih _ (hdrop s l h hl he) (hkeep s l h hl he) rfl

end Xencons.Lib
