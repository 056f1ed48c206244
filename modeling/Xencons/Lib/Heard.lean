import Mathlib.Data.List.Basic
import Mathlib.Data.List.Forall2

/-!
# What a listener has heard

Packets are put out one after the other, and a listener gets each of them piece by piece. Where a
piece is refused, it misses the rest of that packet, and hears the next one from its beginning.

* `Heard packets heard intact` -- of every packet a beginning, in their order, and of a listener that
  has missed nothing the whole;
* `Heard.whole`, `Heard.cut` -- one packet more;
* `Heard.eq_flatten`, `Heard.sublist` -- what that comes to.
-/

namespace Xencons.Lib

variable {α : Type*}

/-- **Of every packet a beginning**, and the whole of it where nothing has been missed. -/
def Heard (packets : List (List α)) (heard : List α) (intact : Bool) : Prop :=
  ∃ pieces, heard = pieces.flatten ∧ List.Forall₂ (· <+: ·) pieces packets ∧
    (intact = true → pieces = packets)

namespace Heard

variable {packets : List (List α)} {heard : List α} {intact : Bool}

theorem nil (intact : Bool) : Heard ([] : List (List α)) [] intact :=
  ⟨[], rfl, .nil, fun _ => rfl⟩

theorem whole (h : Heard packets heard intact) (packet : List α) :
    Heard (packets ++ [packet]) (heard ++ packet) intact := by
  obtain ⟨pieces, rfl, hpieces, hintact⟩ := h
  refine ⟨pieces ++ [packet], by simp, ?_, fun hi => by rw [hintact hi]⟩
  exact List.rel_append hpieces (.cons (List.prefix_refl _) .nil)

theorem cut (h : Heard packets heard intact) {packet piece : List α} (hp : piece <+: packet) :
    Heard (packets ++ [packet]) (heard ++ piece) false := by
  obtain ⟨pieces, rfl, hpieces, -⟩ := h
  exact ⟨pieces ++ [piece], by simp, List.rel_append hpieces (.cons hp .nil), nofun⟩

/-- **Whoever has missed nothing has heard all of it.** -/
theorem eq_flatten (h : Heard packets heard true) : heard = packets.flatten := by
  obtain ⟨pieces, rfl, -, hintact⟩ := h
  rw [hintact rfl]

/-- **And nobody hears anything else, or in another order.** -/
theorem sublist (h : Heard packets heard intact) : List.Sublist heard packets.flatten := by
  obtain ⟨pieces, rfl, hpieces, -⟩ := h
  induction hpieces with
  | nil => exact .slnil
  | cons hp _ ih => exact hp.sublist.append ih

end Heard

end Xencons.Lib
