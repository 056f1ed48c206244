import Mathlib.Data.List.Basic

/-!
# Input that comes in chunks

A program that takes a list item by item until it is over, and then starts afresh. Where the list
comes in chunks, what is left of a chunk when the program is over is lost to it, unless the end of
the chunk is where it is over.

* `upTo` -- what it takes of a list; `after` -- where that brings it;
* `results` -- where it comes to one time after the other; `chunkResults` -- in chunks, with what is
  left of the last one;
* `Whole` -- no chunk reaches past where the program is over: `whole_iff`, nothing is left then;
  `chunkResults_of_whole`, and the chunks do not show.
-/

namespace Xencons.Lib

variable {σ ε : Type*} (step : σ → ε → σ) (stop : σ → Prop) [DecidablePred stop]

/-- What is taken of a list, with the item that it is over with. -/
def upTo : σ → List ε → List ε
  | _, [] => []
  | s, e :: es => if stop (step s e) then [e] else e :: upTo (step s e) es

/-- Where that ends. -/
def after (s : σ) (es : List ε) : σ := (upTo step stop s es).foldl step s

/-- Where it is over, one time after the other. -/
def results (fresh : σ) : σ → List ε → List σ
  | _, [] => []
  | s, e :: es =>
    if stop (step s e) then step s e :: results fresh fresh es else results fresh (step s e) es

/-- In chunks, each of them taken up to where it is over. -/
def chunkResults (fresh : σ) : σ → List (List ε) → List (σ × List ε)
  | _, [] => []
  | s, c :: cs =>
    if stop (after step stop s c) then
      (after step stop s c, c.drop (upTo step stop s c).length) :: chunkResults fresh fresh cs
    else chunkResults fresh (after step stop s c) cs

/-- Nothing of a chunk is left when it is over. -/
def Whole (fresh : σ) : σ → List (List ε) → Prop
  | _, [] => True
  | s, c :: cs =>
    upTo step stop s c = c ∧
      Whole fresh (if stop (after step stop s c) then fresh else after step stop s c) cs

variable {step stop} {fresh s : σ} {e : ε} {c es : List ε}

theorem upTo_cons (h : ¬stop (step s e)) :
    upTo step stop s (e :: es) = e :: upTo step stop (step s e) es := if_neg h

theorem after_cons (h : ¬stop (step s e)) :
    after step stop s (e :: es) = after step stop (step s e) es := by
  unfold after
  rw [upTo_cons h]
  rfl

theorem after_cons_over (h : stop (step s e)) : after step stop s (e :: es) = step s e := by
  unfold after
  rw [upTo, if_pos h]
  rfl

theorem upTo_isPrefix (s : σ) (es : List ε) : upTo step stop s es <+: es := by
  induction es generalizing s with
  | nil => exact List.prefix_refl _
  | cons e es ih =>
      unfold upTo
      split
      · exact ⟨es, rfl⟩
      · exact List.prefix_cons_inj e |>.mpr (ih _)

/-- What does not come to the end takes all there is. -/
theorem upTo_of_not_over (h : ¬stop (after step stop s c)) : upTo step stop s c = c := by
  induction c generalizing s with
  | nil => rfl
  | cons e c ih =>
      by_cases hover : stop (step s e)
      · rw [after_cons_over hover] at h
        exact absurd hover h
      · rw [after_cons hover] at h
        rw [upTo_cons hover, ih h]

/-- What comes behind is taken where it is not over with what is ahead. -/
theorem upTo_append (h0 : ¬stop s) (c es : List ε) :
    upTo step stop s (c ++ es) = upTo step stop s c ++
      if stop (after step stop s c) then [] else upTo step stop (after step stop s c) es := by
  induction c generalizing s with
  | nil => exact (if_neg h0).symm
  | cons e c ih =>
      by_cases hover : stop (step s e)
      · rw [after_cons_over hover, if_pos hover, List.cons_append, upTo, if_pos hover, upTo,
          if_pos hover]
        rfl
      · rw [List.cons_append, upTo_cons hover, ih hover, upTo_cons hover, after_cons hover]
        rfl

/-- Behind where it is over nothing counts. -/
theorem after_append_over (h0 : ¬stop s) (h : stop (after step stop s c)) :
    after step stop s (c ++ es) = after step stop s c := by
  rw [after, upTo_append h0, if_pos h, List.append_nil]
  rfl

theorem after_append (h0 : ¬stop s) (h : ¬stop (after step stop s c)) :
    after step stop s (c ++ es) = after step stop (after step stop s c) es := by
  rw [after, upTo_append h0, if_neg h, List.foldl_append]
  rfl

section Invariant

variable {I : σ → Prop} (hstep : ∀ s e, I s → ¬stop (step s e) → I (step s e))

include hstep

/-- **What each item keeps that it is not over with** holds where it is not over. -/
theorem after_invariant (hs : I s) (h : ¬stop (after step stop s c)) :
    I (after step stop s c) := by
  induction c generalizing s with
  | nil => exact hs
  | cons e c ih =>
      by_cases hover : stop (step s e)
      · rw [after_cons_over hover] at h
        exact absurd hover h
      · rw [after_cons hover] at h ⊢
        exact ih (hstep s e hs hover) h

end Invariant

/-- It is not over more often than there are items. -/
theorem length_results_le (es : List ε) : (results step stop fresh s es).length ≤ es.length := by
  induction es generalizing s with
  | nil => exact Nat.le_refl _
  | cons e es ih =>
      rw [results]
      split
      · exact Nat.succ_le_succ ih
      · exact Nat.le_succ_of_le ih

/-- Chunks of one item are taken whole. -/
theorem whole_singletons (fresh s : σ) (es : List ε) :
    Whole step stop fresh s (es.map fun e => [e]) := by
  induction es generalizing s with
  | nil => trivial
  | cons e es ih =>
      refine ⟨?_, ih _⟩
      rw [upTo]
      exact ite_self _

/-- **Nothing is left.** -/
theorem whole_iff {cs : List (List ε)} :
    Whole step stop fresh s cs ↔ ∀ p ∈ chunkResults step stop fresh s cs, p.2 = [] := by
  induction cs generalizing s with
  | nil => exact iff_of_true trivial nofun
  | cons c cs ih =>
      rw [Whole, chunkResults]
      by_cases hover : stop (after step stop s c)
      · have hleft : c.drop (upTo step stop s c).length = [] ↔ upTo step stop s c = c := by
          rw [List.drop_eq_nil_iff]
          exact ⟨(upTo_isPrefix s c).eq_of_length_le, fun h => h.symm ▸ Nat.le_refl _⟩
        rw [if_pos hover, if_pos hover, List.forall_mem_cons, hleft, ih]
      · rw [if_neg hover, if_neg hover, ih]
        exact and_iff_right (upTo_of_not_over hover)

/-- A chunk that is taken whole, and what comes behind it. -/
theorem results_append (h0 : ¬stop s) (hc : upTo step stop s c = c) :
    results step stop fresh s (c ++ es) =
      if stop (after step stop s c) then
        after step stop s c :: results step stop fresh fresh es
      else results step stop fresh (after step stop s c) es := by
  induction c generalizing s with
  | nil => exact (if_neg h0).symm
  | cons e c ih =>
      by_cases hover : stop (step s e)
      · rw [upTo, if_pos hover] at hc
        obtain rfl : c = [] := (List.cons.inj hc).2.symm
        rw [after_cons_over hover, if_pos hover]
        exact if_pos hover
      · rw [upTo_cons hover] at hc
        rw [List.cons_append, results, if_neg hover, ih hover (List.cons.inj hc).2,
          after_cons hover]

/-- **Chunks that are taken whole do not show.** -/
theorem chunkResults_of_whole (hfresh : ¬stop fresh) {cs : List (List ε)} (h0 : ¬stop s)
    (h : Whole step stop fresh s cs) :
    (chunkResults step stop fresh s cs).map Prod.fst = results step stop fresh s cs.flatten := by
  induction cs generalizing s with
  | nil => rfl
  | cons c cs ih =>
      obtain ⟨hc, hcs⟩ := h
      rw [chunkResults, List.flatten_cons, results_append h0 hc]
      by_cases hover : stop (after step stop s c)
      · rw [if_pos hover] at hcs
        rw [if_pos hover, if_pos hover, List.map_cons, ih hfresh hcs]
      · rw [if_neg hover] at hcs
        rw [if_neg hover, if_neg hover, ih hover hcs]

end Xencons.Lib
