import Mathlib.Data.List.Basic
import Mathlib.Data.List.Perm.Subperm
import Mathlib.Data.Nat.ModEq
import Mathlib.Data.Vector.Basic

/-!
# Cyclic buffers with free-running indices

A ring buffer of `L` cells is a list; an index runs freely and cell `i` of the stream lies at
position `i % L`. Producer and consumer indices are machine words of `w` bits that wrap at `2 ^ w`,
and a copy in or out of the buffer is cut at its end into contiguous pieces.

* `cell`, `window` -- one cell, and the `n` cells from a position on, in stream order;
* `overwrite` -- a contiguous copy into a buffer (what would fall outside is not written);
* `deposit` -- the cell-by-cell write at consecutive positions, wrapping at the end;
* `window_eq_slice`, `deposit_eq_overwrite` -- where a piece does not cross the end, the contiguous
  copy is the cyclic one; `window_add`, `deposit_append` put the pieces together;
* `window_deposit`, `window_deposit_behind` -- what is deposited is read back, and what lies in
  front of it is not disturbed: the two facts a queue in a ring buffer rests on;
* `cell_deposit_last` -- where a deposit laps itself, a cell holds what was written to it last;
* `positions` -- the cells a run of consecutive positions goes over; `nodup_positions` -- none twice
  up to one revolution, and some twice beyond it;
* `toNat_add_mod` -- the wrap of the index at `2 ^ w` is invisible where `L ∣ 2 ^ w`.
-/

namespace Xencons.Lib

variable {α : Type*}

/-! ## 1. Contiguous copies -/

/-- `src` copied over `dst` from position `off` on. -/
def overwrite (dst : List α) (off : Nat) (src : List α) : List α :=
  dst.take off ++ src.take (dst.length - off) ++ dst.drop (off + src.length)

@[simp] theorem length_overwrite (dst : List α) (off : Nat) (src : List α) :
    (overwrite dst off src).length = dst.length := by
  simp only [overwrite, List.length_append, List.length_take, List.length_drop]
  omega

@[simp] theorem overwrite_nil (dst : List α) (off : Nat) : overwrite dst off [] = dst := by
  simp [overwrite]

/-- A copy that fits, without the clipping. -/
theorem overwrite_of_le {dst src : List α} {off : Nat} (h : off + src.length ≤ dst.length) :
    overwrite dst off src = dst.take off ++ src ++ dst.drop (off + src.length) := by
  rw [overwrite, List.take_of_length_le (show src.length ≤ dst.length - off by omega)]

/-- Two copies, the second where the first ended, are one. -/
theorem overwrite_append {dst a b : List α} {off : Nat}
    (h : off + a.length + b.length ≤ dst.length) :
    overwrite (overwrite dst off a) (off + a.length) b = overwrite dst off (a ++ b) := by
  have hla : (dst.take off ++ a).length = off + a.length := by
    simp only [List.length_append, List.length_take]; omega
  have hfit : off + a.length + b.length ≤ (overwrite dst off a).length := by
    rw [length_overwrite]; omega
  rw [overwrite_of_le hfit, overwrite_of_le (show off + a.length ≤ dst.length by omega),
    overwrite_of_le (show off + (a ++ b).length ≤ dst.length by simp; omega)]
  rw [List.take_append_of_le_length (by omega), List.take_of_length_le (by omega),
    ← List.drop_drop, List.drop_append, hla]
  rw [List.drop_of_length_le (show (dst.take off ++ a).length ≤ off + a.length by omega)]
  simp [List.append_assoc, Nat.add_assoc]

/-- The head of a buffer that has been overwritten from its start. -/
theorem take_overwrite_zero {dst src : List α} (h : src.length ≤ dst.length) :
    (overwrite dst 0 src).take src.length = src := by
  rw [overwrite_of_le (by omega)]
  simp

/-! ## 2. Deposits -/

/-- Cell by cell, `bytes` written at the stream positions from `start` on. -/
def deposit (buf : List α) (start : Nat) : List α → List α
  | [] => buf
  | b :: bs => deposit (buf.set (start % buf.length) b) (start + 1) bs

@[simp] theorem deposit_nil (buf : List α) (start : Nat) : deposit buf start [] = buf := rfl

@[simp] theorem length_deposit (bytes : List α) : ∀ (buf : List α) (start : Nat),
    (deposit buf start bytes).length = buf.length := by
  induction bytes with
  | nil => intro buf start; rfl
  | cons b bs ih => intro buf start; rw [deposit, ih, List.length_set]

theorem deposit_append (a b : List α) : ∀ (buf : List α) (start : Nat),
    deposit buf start (a ++ b) = deposit (deposit buf start a) (start + a.length) b := by
  induction a with
  | nil => intro buf start; rfl
  | cons x a ih =>
      intro buf start
      rw [List.cons_append, deposit, ih, deposit, List.length_cons, Nat.add_right_comm,
        Nat.add_assoc start]

/-- The position a deposit starts at matters modulo the buffer's length only. -/
theorem deposit_mod (bytes : List α) : ∀ {buf : List α} {s s' : Nat},
    s % buf.length = s' % buf.length → deposit buf s bytes = deposit buf s' bytes := by
  induction bytes with
  | nil => intro buf s s' _; rfl
  | cons b bs ih =>
      intro buf s s' h
      rw [deposit, deposit, h]
      exact ih (by rw [List.length_set]; exact Nat.ModEq.add_right 1 h)

/-- **A deposit that does not cross the end is a contiguous copy.** -/
theorem deposit_eq_overwrite (bytes : List α) : ∀ (buf : List α) (s : Nat),
    s % buf.length + bytes.length ≤ buf.length →
    deposit buf s bytes = overwrite buf (s % buf.length) bytes := by
  induction bytes with
  | nil => intro buf s _; rw [deposit_nil, overwrite_nil]
  | cons b bs ih =>
      intro buf s h
      rw [List.length_cons] at h
      have hset : buf.set (s % buf.length) b = overwrite buf (s % buf.length) [b] := by
        rw [overwrite_of_le (by simp; omega), List.set_eq_take_append_cons_drop,
          if_pos (by omega)]
        simp
      by_cases hbs : bs = []
      · subst hbs
        rw [deposit, deposit_nil, hset]
      · have hpos : 0 < bs.length := List.length_pos_iff.mpr hbs
        have hmod : (s + 1) % buf.length = s % buf.length + 1 := by
          rw [Nat.add_mod, Nat.mod_eq_of_lt (show 1 < buf.length by omega),
            Nat.mod_eq_of_lt (by omega)]
        rw [deposit, ih _ _ (by rw [List.length_set, hmod]; omega), List.length_set, hmod, hset]
        exact overwrite_append (by simp; omega)

/-- `overwrite` on a buffer of fixed length. -/
def overwriteVec {n : Nat} (dst : List.Vector α n) (off : Nat) (src : List α) : List.Vector α n :=
  ⟨overwrite dst.toList off src, by rw [length_overwrite, List.Vector.toList_length]⟩

/-- `deposit` on a buffer of fixed length. -/
def depositVec {n : Nat} (buf : List.Vector α n) (start : Nat) (bytes : List α) :
    List.Vector α n :=
  ⟨deposit buf.toList start bytes, by rw [length_deposit, List.Vector.toList_length]⟩

@[simp] theorem toList_depositVec {n : Nat} (buf : List.Vector α n) (start : Nat)
    (bytes : List α) : (depositVec buf start bytes).toList = deposit buf.toList start bytes := rfl

theorem depositVec_nil {n : Nat} (buf : List.Vector α n) (start : Nat) :
    depositVec buf start [] = buf := rfl

theorem depositVec_append {n : Nat} (buf : List.Vector α n) (start : Nat) (a b : List α) :
    depositVec buf start (a ++ b) = depositVec (depositVec buf start a) (start + a.length) b :=
  Subtype.ext (deposit_append a b buf.toList start)

theorem depositVec_mod {n : Nat} {buf : List.Vector α n} {s s' : Nat} (bytes : List α)
    (h : s % n = s' % n) : depositVec buf s bytes = depositVec buf s' bytes :=
  Subtype.ext (deposit_mod bytes (by rwa [List.Vector.toList_length]))

theorem depositVec_eq_overwriteVec {n : Nat} {buf : List.Vector α n} {s : Nat} {bytes : List α}
    (h : s % n + bytes.length ≤ n) : depositVec buf s bytes = overwriteVec buf (s % n) bytes := by
  have hn : buf.toList.length = n := buf.toList_length
  refine Subtype.ext ?_
  show deposit buf.toList s bytes = overwrite buf.toList (s % n) bytes
  rw [deposit_eq_overwrite bytes buf.toList s (by rw [hn]; exact h), hn]

/-! ## 3. Cells and windows -/

section Cells

variable [Inhabited α]

/-- The cell of stream position `i`. -/
def cell (buf : List α) (i : Nat) : α :=
  buf.getD (i % buf.length) default

/-- The `n` cells from stream position `start` on. -/
def window (buf : List α) (start n : Nat) : List α :=
  (List.range n).map fun i => cell buf (start + i)

@[simp] theorem length_window (buf : List α) (start n : Nat) :
    (window buf start n).length = n := by
  simp [window]

@[simp] theorem window_zero (buf : List α) (start : Nat) : window buf start 0 = [] := rfl

theorem window_add (buf : List α) (start m n : Nat) :
    window buf start (m + n) = window buf start m ++ window buf (start + m) n := by
  simp [window, List.range_add, Function.comp_def, Nat.add_assoc]

theorem window_one (buf : List α) (start : Nat) : window buf start 1 = [cell buf start] := by
  simp [window]

/-- A window is read through the cells only. -/
theorem window_congr {buf buf' : List α} {s s' n : Nat}
    (h : ∀ i < n, cell buf (s + i) = cell buf' (s' + i)) : window buf s n = window buf' s' n := by
  refine List.map_congr_left fun i hi => h i (List.mem_range.mp hi)

/-- The position a window starts at matters modulo the buffer's length only. -/
theorem window_mod {buf : List α} {s s' : Nat} (n : Nat) (h : s % buf.length = s' % buf.length) :
    window buf s n = window buf s' n := by
  refine window_congr fun i _ => ?_
  have hmod : (s + i) % buf.length = (s' + i) % buf.length := Nat.ModEq.add_right i h
  simp only [cell, hmod]

theorem take_window {buf : List α} {s m n : Nat} (h : m ≤ n) :
    (window buf s n).take m = window buf s m := by
  obtain ⟨k, rfl⟩ := Nat.exists_eq_add_of_le h
  rw [window_add, List.take_append_of_le_length (by simp), List.take_of_length_le (by simp)]

theorem drop_window {buf : List α} {s m n : Nat} (h : m ≤ n) :
    (window buf s n).drop m = window buf (s + m) (n - m) := by
  obtain ⟨k, rfl⟩ := Nat.exists_eq_add_of_le h
  rw [window_add, List.drop_append_of_le_length (by simp), List.drop_of_length_le (by simp),
    List.nil_append, Nat.add_sub_cancel_left]

/-- **A window that does not cross the end is a slice.** -/
theorem window_eq_slice {buf : List α} {s n : Nat} (h : s % buf.length + n ≤ buf.length) :
    window buf s n = (buf.drop (s % buf.length)).take n := by
  refine List.ext_getElem (by simp; omega) fun i hi _ => ?_
  rw [length_window] at hi
  have hlt : s % buf.length + i < buf.length := by omega
  have hmod : (s + i) % buf.length = s % buf.length + i := by
    rw [Nat.add_mod, Nat.mod_eq_of_lt (show i < buf.length by omega), Nat.mod_eq_of_lt hlt]
  simp [window, cell, hmod, hlt]

theorem cell_set (buf : List α) (p i : Nat) (b : α) (hL : 0 < buf.length) :
    cell (buf.set (p % buf.length) b) i = if i % buf.length = p % buf.length then b
      else cell buf i := by
  have hp : p % buf.length < buf.length := Nat.mod_lt _ hL
  have hi : i % buf.length < buf.length := Nat.mod_lt _ hL
  simp only [cell, List.length_set, List.getD_eq_getElem?_getD, List.getElem?_set]
  by_cases h : i % buf.length = p % buf.length
  · simp [h, hp]
  · simp [h, Ne.symm h]

/-- A cell outside the positions written keeps its content. -/
theorem cell_deposit_of_ne (bytes : List α) : ∀ (buf : List α) (s i : Nat), 0 < buf.length →
    (∀ k < bytes.length, i % buf.length ≠ (s + k) % buf.length) →
    cell (deposit buf s bytes) i = cell buf i := by
  induction bytes with
  | nil => intro buf s i _ _; rfl
  | cons b bs ih =>
      intro buf s i hL h
      have h0 : i % buf.length ≠ s % buf.length := by simpa using h 0 (by simp)
      rw [deposit, ih _ _ _ (by rwa [List.length_set])]
      · rw [cell_set _ _ _ _ hL, if_neg h0]
      · intro k hk
        rw [List.length_set, Nat.add_assoc, Nat.add_comm 1 k]
        exact h (k + 1) (by simpa using hk)

/-- Two positions less than one revolution apart lie in different cells. -/
theorem mod_ne_of_lt {L a b : Nat} (hab : a < b) (hb : b < a + L) : a % L ≠ b % L := by
  intro h
  have hd : (b - a) % L = 0 := Nat.sub_mod_eq_zero_of_mod_eq h.symm
  rw [Nat.mod_eq_of_lt (by omega)] at hd
  omega

/-- **What is deposited is read back**, as long as it does not lap itself. -/
theorem window_deposit (bytes : List α) : ∀ (buf : List α) (s : Nat), bytes.length ≤ buf.length →
    window (deposit buf s bytes) s bytes.length = bytes := by
  induction bytes with
  | nil => intro buf s _; rfl
  | cons b bs ih =>
      intro buf s h
      have hL : 0 < buf.length := by simp at h; omega
      have hlen : (buf.set (s % buf.length) b).length = buf.length := List.length_set
      rw [List.length_cons, Nat.add_comm, window_add, window_one, deposit,
        ih _ _ (by rw [hlen]; simp at h; omega)]
      rw [cell_deposit_of_ne _ _ _ _ (by omega)]
      · rw [cell_set _ _ _ _ hL, if_pos rfl]; rfl
      · intro k hk
        rw [hlen]
        exact mod_ne_of_lt (by omega) (by simp at h; omega)

/-- **A deposit does not disturb the window it ends less than one revolution behind.** -/
theorem window_deposit_behind {buf bytes : List α} {s n : Nat}
    (h : n + bytes.length ≤ buf.length) :
    window (deposit buf (s + n) bytes) s n = window buf s n := by
  refine window_congr fun i hi => ?_
  refine cell_deposit_of_ne _ _ _ _ (by omega) fun k hk => ?_
  exact mod_ne_of_lt (by omega) (by omega)

/-- **A deposit extends the window it starts at the end of.** -/
theorem window_deposit_add {buf bytes : List α} {s n : Nat}
    (h : n + bytes.length ≤ buf.length) :
    window (deposit buf (s + n) bytes) s (n + bytes.length) = window buf s n ++ bytes := by
  rw [window_add, window_deposit_behind h, window_deposit _ _ _ (by omega)]

/-- **A cell holds what a deposit wrote to it last.** -/
theorem cell_deposit_last {bytes buf : List α} {s i k : Nat} (hL : 0 < buf.length)
    (hk : k < bytes.length) (hi : i % buf.length = (s + k) % buf.length)
    (hlast : ∀ k', k < k' → k' < bytes.length → i % buf.length ≠ (s + k') % buf.length) :
    cell (deposit buf s bytes) i = bytes[k] := by
  have hsplit : bytes = bytes.take k ++ bytes[k] :: bytes.drop (k + 1) := by
    rw [← List.drop_eq_getElem_cons hk, List.take_append_drop]
  have hfront : (bytes.take k).length = k := by rw [List.length_take]; omega
  generalize bytes[k] = b at hsplit
  have hlen : ((deposit buf s (bytes.take k)).set ((s + k) % buf.length) b).length =
      buf.length := by rw [List.length_set, length_deposit]
  rw [hsplit, deposit_append, hfront, deposit, length_deposit]
  -- what follows byte `k` goes to other cells
  rw [cell_deposit_of_ne _ _ _ _ (by rw [hlen]; exact hL)]
  · have h := cell_set (deposit buf s (bytes.take k)) (s + k) i b (by rwa [length_deposit])
    rw [length_deposit, if_pos hi] at h
    exact h
  · intro j hj
    rw [hlen]
    rw [List.length_drop] at hj
    have := hlast (k + 1 + j) (by omega) (by omega)
    rwa [show s + (k + 1 + j) = s + k + 1 + j by omega] at this

end Cells

/-! ## 4. The cells a run goes over -/

/-- The cells of the `n` stream positions from `start` on, in a buffer of `L` cells. -/
def positions (L start n : Nat) : List Nat := (List.range n).map fun i => (start + i) % L

@[simp] theorem length_positions (L start n : Nat) : (positions L start n).length = n := by
  simp [positions]

theorem positions_add (L start m n : Nat) :
    positions L start (m + n) = positions L start m ++ positions L (start + m) n := by
  simp [positions, List.range_add, Function.comp_def, Nat.add_assoc]

theorem positions_mod {L s s' : Nat} (n : Nat) (h : s % L = s' % L) :
    positions L s n = positions L s' n :=
  List.map_congr_left fun i _ => Nat.ModEq.add_right i h

/-- A run that does not cross the end goes over an interval. -/
theorem positions_eq_range' {L s n : Nat} (h : s % L + n ≤ L) :
    positions L s n = List.range' (s % L) n := by
  refine List.ext_getElem (by simp) fun i hi _ => ?_
  rw [length_positions] at hi
  have hlt : s % L + i < L := by omega
  have hmod : (s + i) % L = s % L + i := by
    rw [Nat.add_mod, Nat.mod_eq_of_lt (show i < L by omega), Nat.mod_eq_of_lt hlt]
  simp [positions, hmod]

/-- **No cell twice, exactly up to one revolution.** -/
theorem nodup_positions {L start n : Nat} (hL : 0 < L) :
    (positions L start n).Nodup ↔ n ≤ L := by
  constructor
  · intro h
    -- `n` different cells out of `L`
    have hsub : positions L start n ⊆ List.range L := by
      intro x hx
      obtain ⟨i, -, rfl⟩ := List.mem_map.mp hx
      exact List.mem_range.mpr (Nat.mod_lt _ hL)
    have hle := (h.subperm hsub).length_le
    rwa [length_positions, List.length_range] at hle
  · intro h
    refine List.Nodup.map_on ?_ List.nodup_range
    intro i hi j hj e
    rw [List.mem_range] at hi hj
    rcases Nat.lt_trichotomy i j with hij | hij | hij
    · exact absurd e (mod_ne_of_lt (by omega) (by omega))
    · exact hij
    · exact absurd e.symm (mod_ne_of_lt (by omega) (by omega))

/-! ## 5. Indices that wrap -/

/-- **The wrap of the index is invisible** where the buffer's length divides `2 ^ w`. -/
theorem toNat_add_mod {w L : Nat} (hL : L ∣ 2 ^ w) (a b : BitVec w) :
    (a + b).toNat % L = (a.toNat + b.toNat) % L := by
  rw [BitVec.toNat_add, Nat.mod_mod_of_dvd _ hL]

end Xencons.Lib
