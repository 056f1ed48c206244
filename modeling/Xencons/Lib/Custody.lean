import Mathlib.Data.List.Nodup
import Mathlib.Logic.Equiv.Basic
import Mathlib.Logic.Function.Basic

/-!
# Who has what: tokens in places

A system hands things (requests, buffers, references) from one place to another. `Placed content T`
says that the tokens in the places are exactly the tokens with `T`, each in one place, once.

* `Placed.congr`, `Placed.swap`, `Placed.move`, `Placed.arrive` -- nothing moves; two places change
  their contents; one token goes from a place to another; a new token comes in. Each asks only what
  the places concerned contain afterwards;
* `Placed.existsUnique`, `Placed.count` -- what custody is good for.
-/

namespace Xencons.Lib

variable {κ τ : Type*}

/-- Every token of `T` lies in exactly one place, once, and no other token lies anywhere. -/
structure Placed (content : κ → List τ) (T : τ → Prop) : Prop where
  nodup : ∀ p, (content p).Nodup
  apart : ∀ p q x, x ∈ content p → x ∈ content q → p = q
  cover : ∀ x, T x ↔ ∃ p, x ∈ content p

variable {content content' : κ → List τ} {T : τ → Prop} {x : τ}

/-- With nothing anywhere there is no token. -/
theorem Placed.empty (hc : ∀ p, content p = []) (hT : ∀ x, ¬T x) : Placed content T where
  nodup p := by rw [hc p]; exact .nil
  apart p q x hx := by rw [hc p] at hx; cases hx
  cover x := ⟨fun hx => absurd hx (hT x), fun ⟨p, hp⟩ => by rw [hc p] at hp; cases hp⟩

/-- A token lies in exactly one place. -/
theorem Placed.existsUnique (h : Placed content T) (hx : T x) : ∃! p, x ∈ content p := by
  obtain ⟨p, hp⟩ := (h.cover x).mp hx
  exact ⟨p, hp, fun q hq => h.apart q p x hq hp⟩

/-- Nowhere does a token lie twice. -/
theorem Placed.count [DecidableEq τ] (h : Placed content T) (p : κ) :
    (content p).count x ≤ 1 :=
  List.nodup_iff_count_le_one.mp (h.nodup p) x

/-- Places may be rearranged. -/
theorem Placed.congr (h : Placed content T) (hp : ∀ p, (content' p).Perm (content p)) :
    Placed content' T where
  nodup p := (hp p).nodup_iff.mpr (h.nodup p)
  apart p q y hy hy' := h.apart p q y ((hp p).mem_iff.mp hy) ((hp q).mem_iff.mp hy')
  cover y := (h.cover y).trans (exists_congr fun p => (hp p).mem_iff.symm)

/-- What lies in one place may be taken to another that has nothing, as a whole. -/
theorem Placed.swap [DecidableEq κ] (h : Placed content T) (p q : κ) :
    Placed (content ∘ Equiv.swap p q) T where
  nodup _ := h.nodup _
  apart _ _ y hy hy' := (Equiv.swap p q).injective (h.apart _ _ y hy hy')
  cover y := (h.cover y).trans (Equiv.swap p q).surjective.exists

/-- **A token moves** from `p` to `q`; the other places stay. -/
theorem Placed.move (h : Placed content T) {p q : κ} (hpq : p ≠ q)
    (hp : (content p).Perm (x :: content' p)) (hq : (content' q).Perm (x :: content q))
    (hr : ∀ r, r ≠ p → r ≠ q → content' r = content r) : Placed content' T := by
  have hnp : (x :: content' p).Nodup := hp.nodup_iff.mp (h.nodup p)
  have hxp : x ∈ content p := hp.mem_iff.mpr List.mem_cons_self
  have hxq : x ∉ content q := fun hx => hpq (h.apart p q x hxp hx)
  -- where a token lies afterwards: the one that moved in `q`, the others where they were
  have hmem : ∀ r y, y ∈ content' r ↔ y ≠ x ∧ y ∈ content r ∨ y = x ∧ r = q := by
    intro r y
    by_cases hrq : r = q
    · subst hrq
      rw [hq.mem_iff, List.mem_cons]
      refine ⟨fun hy => ?_, fun hy => ?_⟩
      · rcases hy with rfl | hy
        · exact .inr ⟨rfl, rfl⟩
        · exact .inl ⟨fun e => hxq (e ▸ hy), hy⟩
      · rcases hy with ⟨-, hy⟩ | ⟨rfl, -⟩
        · exact .inr hy
        · exact .inl rfl
    · by_cases hrp : r = p
      · subst hrp
        rw [hp.mem_iff, List.mem_cons]
        refine ⟨fun hy => .inl ⟨fun e => ?_, .inr hy⟩, fun hy => ?_⟩
        · exact (List.nodup_cons.mp hnp).1 (e ▸ hy)
        · rcases hy with ⟨hne, rfl | hy⟩ | ⟨-, e⟩
          · exact absurd rfl hne
          · exact hy
          · exact absurd e hrq
      · rw [hr r hrp hrq]
        refine ⟨fun hy => .inl ⟨fun e => ?_, hy⟩, fun hy => ?_⟩
        · exact hrp (h.apart r p x (e ▸ hy) hxp)
        · rcases hy with ⟨-, hy⟩ | ⟨-, e⟩
          · exact hy
          · exact absurd e hrq
  refine ⟨fun r => ?_, fun r s y hy hy' => ?_, fun y => ?_⟩
  · by_cases hrq : r = q
    · rw [hrq, hq.nodup_iff, List.nodup_cons]
      exact ⟨hxq, h.nodup q⟩
    · by_cases hrp : r = p
      · exact hrp ▸ (List.nodup_cons.mp hnp).2
      · rw [hr r hrp hrq]
        exact h.nodup r
  · rcases (hmem r y).mp hy with ⟨hne, hy⟩ | ⟨rfl, rfl⟩
    · rcases (hmem s y).mp hy' with ⟨-, hy'⟩ | ⟨e, -⟩
      · exact h.apart r s y hy hy'
      · exact absurd e hne
    · rcases (hmem s y).mp hy' with ⟨hne, -⟩ | ⟨-, e⟩
      · exact absurd rfl hne
      · exact e.symm
  · rw [h.cover y]
    by_cases hy : y = x
    · subst hy
      exact ⟨fun _ => ⟨q, (hmem q y).mpr (.inr ⟨rfl, rfl⟩)⟩, fun _ => ⟨p, hxp⟩⟩
    · refine exists_congr fun r => ?_
      rw [hmem r y]
      simp [hy]

/-- **A new token comes in** at `q`. -/
theorem Placed.arrive (h : Placed content T) {q : κ} (hx : ¬T x)
    (hq : (content' q).Perm (x :: content q)) (hr : ∀ r, r ≠ q → content' r = content r) :
    Placed content' fun y => T y ∨ y = x := by
  have hnone : ∀ r, x ∉ content r := fun r hr => hx ((h.cover x).mpr ⟨r, hr⟩)
  have hmem : ∀ r y, y ∈ content' r ↔ y ∈ content r ∨ y = x ∧ r = q := by
    intro r y
    by_cases hrq : r = q
    · subst hrq
      rw [hq.mem_iff, List.mem_cons]
      simp [or_comm]
    · rw [hr r hrq]
      simp [hrq]
  refine ⟨fun r => ?_, fun r s y hy hy' => ?_, fun y => ?_⟩
  · by_cases hrq : r = q
    · rw [hrq, hq.nodup_iff, List.nodup_cons]
      exact ⟨hnone q, h.nodup q⟩
    · rw [hr r hrq]
      exact h.nodup r
  · rcases (hmem r y).mp hy with hy | ⟨rfl, rfl⟩
    · rcases (hmem s y).mp hy' with hy' | ⟨rfl, -⟩
      · exact h.apart r s y hy hy'
      · exact absurd hy (hnone r)
    · rcases (hmem s y).mp hy' with hy' | ⟨-, e⟩
      · exact absurd hy' (hnone s)
      · exact e.symm
  · simp only [hmem, exists_or, h.cover y]
    simp

end Xencons.Lib
