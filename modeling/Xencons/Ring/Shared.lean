import Xencons.Nt
import Xencons.Lib.Cyclic
import Mathlib.Data.BitVec
import Mathlib.Tactic.Ring

/-!
# The shared page of a PV console and the two copy loops (ring.c)

`struct xencons_interface` holds a 1024-byte buffer towards the guest, a 2048-byte buffer from it,
and four free-running 32-bit indices. The other domain may write any of it at any time, so
everything here is about ARBITRARY indices: nothing assumes that `in_prod - in_cons <= 1024`.

* `ringCopyFromRead`, `ringCopyToWrite` -- the loops as ring.c runs them: at most the end of the
  buffer per pass, `Available` from the indices read once at the start;
* `ringCopyFromRead_eq`, `ringCopyToWrite_eq` -- the loops in one shot, whatever the indices hold;
* `inBytes`, `outBytes` -- the byte streams in flight; `ringCopyFromRead_stream` and
  `ringCopyToWrite_stream` -- on legal indices the copies take from the front and append at the end.
-/

namespace Xencons

open Lib

/-- `struct xencons_interface` (xen/public/io/console.h). -/
structure XenconsInterface where
  /-- `char in[1024]` -/
  inBuf : List.Vector UInt8 1024
  /-- `char out[2048]` -/
  outBuf : List.Vector UInt8 2048
  inCons : ULONG
  inProd : ULONG
  outCons : ULONG
  outProd : ULONG

/-- The page `RingConnect` allocates: all zero. -/
def XenconsInterface.zero : XenconsInterface where
  inBuf := List.Vector.replicate 1024 0
  outBuf := List.Vector.replicate 2048 0
  inCons := 0
  inProd := 0
  outCons := 0
  outProd := 0

/-- `MASK_XENCONS_IDX(idx, ring)` for a ring of `size` bytes. -/
def maskXenconsIdx (idx : ULONG) (size : Nat) : ULONG := idx &&& BitVec.ofNat 32 (size - 1)

theorem toNat_maskXenconsIdx_in (idx : ULONG) :
    (maskXenconsIdx idx 1024).toNat = idx.toNat % 1024 := by
  rw [maskXenconsIdx, BitVec.toNat_and]
  exact Nat.and_two_pow_sub_one_eq_mod idx.toNat 10

theorem toNat_maskXenconsIdx_out (idx : ULONG) :
    (maskXenconsIdx idx 2048).toNat = idx.toNat % 2048 := by
  rw [maskXenconsIdx, BitVec.toNat_and]
  exact Nat.and_two_pow_sub_one_eq_mod idx.toNat 11

/-! ## 1. RingCopyFromRead -/

/-- The `while (Length != 0)` loop of `RingCopyFromRead`: `cons`, `Offset`, `Length` and the
    caller's `Data`. Every pass that does not break lowers `Length`, so `Length` passes are
    enough (`ringCopyFromReadLoop_eq`). -/
def ringCopyFromReadLoop (inBuf : List.Vector UInt8 1024) (prod : ULONG) :
    Nat → ULONG → ULONG → ULONG → List UInt8 → ULONG × ULONG × List UInt8
  | 0, cons, offset, _, data => (cons, offset, data)
  | fuel + 1, cons, offset, length, data =>
    if length = 0 then (cons, offset, data)
    else
      let available := prod - cons
      if available = 0 then (cons, offset, data)
      else
        let index := maskXenconsIdx cons 1024
        let copyLength := ulongMin (ulongMin length available) (1024 - index)
        let chunk := (inBuf.toList.drop index.toNat).take copyLength.toNat
        ringCopyFromReadLoop inBuf prod fuel (cons + copyLength) (offset + copyLength)
          (length - copyLength) (overwrite data offset.toNat chunk)

/-- `RingCopyFromRead`: the page and `Data` it leaves, and the number of bytes it returns. -/
def ringCopyFromRead (shared : XenconsInterface) (data : List UInt8) (length : ULONG) :
    XenconsInterface × List UInt8 × ULONG :=
  let (cons, offset, data) :=
    ringCopyFromReadLoop shared.inBuf shared.inProd length.toNat shared.inCons 0 length data
  ({ shared with inCons := cons }, data, offset)

/-! ## 2. RingCopyToWrite -/

/-- The loop of `RingCopyToWrite`. `sizeof(Shared->out)` is a 64-bit constant, but the sum is
    stored in a `ULONG`, so `Available` is taken modulo `2 ^ 32`. -/
def ringCopyToWriteLoop (cons : ULONG) (data : List UInt8) :
    Nat → ULONG → ULONG → ULONG → List.Vector UInt8 2048 →
      ULONG × ULONG × List.Vector UInt8 2048
  | 0, prod, offset, _, outBuf => (prod, offset, outBuf)
  | fuel + 1, prod, offset, length, outBuf =>
    if length = 0 then (prod, offset, outBuf)
    else
      let available := cons + 2048 - prod
      if available = 0 then (prod, offset, outBuf)
      else
        let index := maskXenconsIdx prod 2048
        let copyLength := ulongMin (ulongMin length available) (2048 - index)
        let chunk := (data.drop offset.toNat).take copyLength.toNat
        ringCopyToWriteLoop cons data fuel (prod + copyLength) (offset + copyLength)
          (length - copyLength) (overwriteVec outBuf index.toNat chunk)

/-- `RingCopyToWrite`: the page it leaves and the number of bytes it returns. -/
def ringCopyToWrite (shared : XenconsInterface) (data : List UInt8) (length : ULONG) :
    XenconsInterface × ULONG :=
  let (prod, offset, outBuf) :=
    ringCopyToWriteLoop shared.outCons data length.toNat shared.outProd 0 length shared.outBuf
  ({ shared with outProd := prod, outBuf := outBuf }, offset)

/-! ## 3. One pass -/

section Pass

variable {length available : ULONG}

/-- The length of one piece: something, at most what is left on either side, and not past the
    buffer's end. `i` is the masked index of a ring of `L` bytes. -/
theorem copyLength_facts {L i : Nat} {index : ULONG} (hi : index.toNat = i) (hiL : i < L)
    (hL : L < 2 ^ 32) (hl : length ≠ 0) (ha : available ≠ 0) :
    let c := (ulongMin (ulongMin length available) (BitVec.ofNat 32 L - index)).toNat
    0 < c ∧ c ≤ length.toNat ∧ c ≤ available.toNat ∧ i + c ≤ L := by
  have hl' : length.toNat ≠ 0 := fun h => hl (BitVec.eq_of_toNat_eq h)
  have ha' : available.toNat ≠ 0 := fun h => ha (BitVec.eq_of_toNat_eq h)
  have hsub : (BitVec.ofNat 32 L - index).toNat = L - i := by
    rw [BitVec.toNat_sub_of_le (by rw [BitVec.le_def, hi, BitVec.toNat_ofNat]; omega), hi,
      BitVec.toNat_ofNat, Nat.mod_eq_of_lt hL]
  simp only [toNat_ulongMin, hsub]
  omega

/-- What is left after a piece of `c` bytes, on a counter that held at least `c`. -/
theorem toNat_sub_piece {x c : ULONG} (h : c.toNat ≤ x.toNat) :
    (x - c).toNat = x.toNat - c.toNat :=
  BitVec.toNat_sub_of_le (BitVec.le_def.mpr h)

/-- Two advances of an index, by `c` and then by the rest, are one advance by `n`. -/
theorem advance_split {idx c : ULONG} {n : Nat} (h : c.toNat ≤ n) :
    idx + c + BitVec.ofNat 32 (n - c.toNat) = idx + BitVec.ofNat 32 n := by
  have hn : BitVec.ofNat 32 n = c + BitVec.ofNat 32 (n - c.toNat) := by
    conv_lhs => rw [show n = c.toNat + (n - c.toNat) by omega, BitVec.ofNat_add]
    rw [BitVec.ofNat_toNat, BitVec.setWidth_eq]
  rw [hn, BitVec.add_assoc]

end Pass

/-! ## 4. The loops in one shot -/

/-- The bytes between `in_cons` and `in_prod`, as the 32-bit difference reads them. -/
def XenconsInterface.inAvail (shared : XenconsInterface) : Nat :=
  (shared.inProd - shared.inCons).toNat

/-- The room in `out`, as `RingCopyToWrite` computes it. -/
def XenconsInterface.outFree (shared : XenconsInterface) : Nat :=
  (shared.outCons + 2048 - shared.outProd).toNat

theorem ringCopyFromReadLoop_eq (inBuf : List.Vector UInt8 1024) (prod : ULONG) :
    ∀ (fuel : Nat) (cons offset length : ULONG) (data : List UInt8), length.toNat ≤ fuel →
      offset.toNat + length.toNat ≤ data.length → data.length < 2 ^ 32 →
      let n := min length.toNat (prod - cons).toNat
      ringCopyFromReadLoop inBuf prod fuel cons offset length data =
        (cons + BitVec.ofNat 32 n, offset + BitVec.ofNat 32 n,
          overwrite data offset.toNat (window inBuf.toList cons.toNat n)) := by
  intro fuel
  induction fuel with
  | zero =>
      intro cons offset length data hf _ _
      have hn : min length.toNat (prod - cons).toNat = 0 := by omega
      simp only [ringCopyFromReadLoop, hn]
      simp
  | succ fuel ih =>
      intro cons offset length data hf hd hlt
      rw [ringCopyFromReadLoop]
      by_cases hl : length = 0
      · simp [hl]
      by_cases ha : prod - cons = 0
      · simp only [hl, ha, if_true, if_false]
        simp
      simp only [hl, ha, if_false]
      -- the piece of this pass, and the rest by induction
      generalize hc : ulongMin (ulongMin length (prod - cons)) (1024 - maskXenconsIdx cons 1024) = c
      have hf' := copyLength_facts (toNat_maskXenconsIdx_in cons) (Nat.mod_lt _ (by omega))
        (by omega) hl ha
      rw [show BitVec.ofNat 32 1024 = (1024 : ULONG) from rfl, hc] at hf'
      obtain ⟨hpos, hcl, hca, hci⟩ := hf'
      have hL : inBuf.toList.length = 1024 := inBuf.toList_length
      have hmod : cons.toNat % inBuf.toList.length = cons.toNat % 1024 := by rw [hL]
      have hchunk : (inBuf.toList.drop (cons.toNat % 1024)).take c.toNat =
          window inBuf.toList cons.toNat c.toNat := by
        rw [window_eq_slice (by rw [hL]; exact hci), hmod]
      have hoff : (offset + c).toNat = offset.toNat + c.toNat := by
        rw [BitVec.toNat_add, Nat.mod_eq_of_lt (by omega)]
      have hlen : (length - c).toNat = length.toNat - c.toNat := toNat_sub_piece hcl
      have havail : (prod - (cons + c)).toNat = (prod - cons).toNat - c.toNat := by
        rw [← BitVec.sub_sub, toNat_sub_piece hca]
      have hwin : window inBuf.toList (cons + c).toNat
          (min length.toNat (prod - cons).toNat - c.toNat) =
          window inBuf.toList (cons.toNat + c.toNat)
          (min length.toNat (prod - cons).toNat - c.toNat) := by
        refine window_mod _ ?_
        rw [hL]
        exact toNat_add_mod (by decide) cons c
      have hle : c.toNat ≤ min length.toNat (prod - cons).toNat := by omega
      rw [toNat_maskXenconsIdx_in, hchunk, ih (cons + c) (offset + c) (length - c) _
        (by omega) (by rw [length_overwrite]; omega) (by rw [length_overwrite]; exact hlt)]
      rw [hlen, havail, Nat.sub_min_sub_right, hwin, hoff, advance_split hle, advance_split hle]
      have hover := @overwrite_append _ data (window inBuf.toList cons.toNat c.toNat)
        (window inBuf.toList (cons.toNat + c.toNat)
          (min length.toNat (prod - cons).toNat - c.toNat)) offset.toNat (by simp; omega)
      rw [length_window, ← window_add, Nat.add_sub_cancel' hle] at hover
      rw [hover]

/-- **`RingCopyFromRead` in one shot**, for every content of the shared page: it takes
    `min(Length, in_prod - in_cons)` bytes, puts them at the head of `Data` and advances
    `in_cons` by that number; nothing else changes. -/
theorem ringCopyFromRead_eq (shared : XenconsInterface) {data : List UInt8} {length : ULONG}
    (hd : data.length = length.toNat) :
    let n := min length.toNat shared.inAvail
    ringCopyFromRead shared data length =
      ({ shared with inCons := shared.inCons + BitVec.ofNat 32 n },
        overwrite data 0 (window shared.inBuf.toList shared.inCons.toNat n),
        BitVec.ofNat 32 n) := by
  have h := ringCopyFromReadLoop_eq shared.inBuf shared.inProd length.toNat shared.inCons 0 length
    data le_rfl (by simp [hd]) (by rw [hd]; exact length.isLt)
  simp only [ringCopyFromRead, h]
  simp [XenconsInterface.inAvail]

theorem ringCopyToWriteLoop_eq (cons : ULONG) (data : List UInt8) (hlt : data.length < 2 ^ 32) :
    ∀ (fuel : Nat) (prod offset length : ULONG) (outBuf : List.Vector UInt8 2048),
      length.toNat ≤ fuel → offset.toNat + length.toNat ≤ data.length →
      let n := min length.toNat (cons + 2048 - prod).toNat
      ringCopyToWriteLoop cons data fuel prod offset length outBuf =
        (prod + BitVec.ofNat 32 n, offset + BitVec.ofNat 32 n,
          depositVec outBuf prod.toNat ((data.drop offset.toNat).take n)) := by
  intro fuel
  induction fuel with
  | zero =>
      intro prod offset length outBuf hf _
      have hn : min length.toNat (cons + 2048 - prod).toNat = 0 := by omega
      simp only [ringCopyToWriteLoop, hn]
      simp [depositVec_nil]
  | succ fuel ih =>
      intro prod offset length outBuf hf hd
      rw [ringCopyToWriteLoop]
      by_cases hl : length = 0
      · simp [hl, depositVec_nil]
      by_cases ha : cons + 2048 - prod = 0
      · simp only [hl, ha, if_true, if_false]
        simp [depositVec_nil]
      simp only [hl, ha, if_false]
      generalize hc : ulongMin (ulongMin length (cons + 2048 - prod))
        (2048 - maskXenconsIdx prod 2048) = c
      have hf' := copyLength_facts (toNat_maskXenconsIdx_out prod) (Nat.mod_lt _ (by omega))
        (by omega) hl ha
      rw [show BitVec.ofNat 32 2048 = (2048 : ULONG) from rfl, hc] at hf'
      obtain ⟨hpos, hcl, hca, hci⟩ := hf'
      have hoff : (offset + c).toNat = offset.toNat + c.toNat := by
        rw [BitVec.toNat_add, Nat.mod_eq_of_lt (by omega)]
      have hlen : (length - c).toNat = length.toNat - c.toNat := toNat_sub_piece hcl
      have havail : (cons + 2048 - (prod + c)).toNat = (cons + 2048 - prod).toNat - c.toNat := by
        rw [← BitVec.sub_sub, toNat_sub_piece hca]
      have hpiece : ((data.drop offset.toNat).take c.toNat).length = c.toNat := by
        simp; omega
      have hle : c.toNat ≤ min length.toNat (cons + 2048 - prod).toNat := by omega
      rw [toNat_maskXenconsIdx_out, ← depositVec_eq_overwriteVec (by rw [hpiece]; exact hci),
        ih (prod + c) (offset + c) (length - c) _ (by omega) (by omega)]
      rw [hlen, havail, Nat.sub_min_sub_right, hoff, advance_split hle, advance_split hle]
      have hstart : (prod + c).toNat % 2048 =
          (prod.toNat + ((data.drop offset.toNat).take c.toNat).length) % 2048 := by
        rw [hpiece]
        exact toNat_add_mod (by decide) prod c
      rw [depositVec_mod _ hstart, ← depositVec_append, ← List.drop_drop, ← List.take_add,
        Nat.add_sub_cancel' hle]

/-- **`RingCopyToWrite` in one shot**, for every content of the shared page: it writes the first
    `min(Length, out_cons + 2048 - out_prod)` bytes of `Data` at the positions from `out_prod` on
    and advances `out_prod` by that number; nothing else changes. -/
theorem ringCopyToWrite_eq (shared : XenconsInterface) {data : List UInt8} {length : ULONG}
    (hd : data.length = length.toNat) :
    let n := min length.toNat shared.outFree
    ringCopyToWrite shared data length =
      ({ shared with
          outProd := shared.outProd + BitVec.ofNat 32 n
          outBuf := depositVec shared.outBuf shared.outProd.toNat (data.take n) },
        BitVec.ofNat 32 n) := by
  have h := ringCopyToWriteLoop_eq shared.outCons data (by rw [hd]; exact length.isLt)
    length.toNat shared.outProd 0 length shared.outBuf le_rfl (by simp [hd])
  simp only [ringCopyToWrite, h]
  simp [XenconsInterface.outFree]

/-- `RingCopyFromRead` returns `Data` as long as it got it. -/
theorem length_ringCopyFromRead (shared : XenconsInterface) {data : List UInt8} {length : ULONG}
    (hd : data.length = length.toNat) :
    (ringCopyFromRead shared data length).2.1.length = data.length := by
  rw [ringCopyFromRead_eq shared hd]
  exact length_overwrite _ _ _

/-! ## 5. The byte streams -/

namespace XenconsInterface

/-- The number of bytes between `out_cons` and `out_prod`. -/
def outUsed (shared : XenconsInterface) : Nat :=
  (shared.outProd - shared.outCons).toNat

/-- The bytes the backend has produced and the guest has not taken, oldest first. -/
def inBytes (shared : XenconsInterface) : List UInt8 :=
  window shared.inBuf.toList shared.inCons.toNat shared.inAvail

/-- The bytes the guest has produced and the backend has not taken, oldest first. -/
def outBytes (shared : XenconsInterface) : List UInt8 :=
  window shared.outBuf.toList shared.outCons.toNat shared.outUsed

/-- Indices as both sides keep them when both obey the protocol. -/
structure Legal (shared : XenconsInterface) : Prop where
  inLe : shared.inAvail ≤ 1024
  outLe : shared.outUsed ≤ 2048

@[simp] theorem length_inBytes (shared : XenconsInterface) :
    shared.inBytes.length = shared.inAvail := length_window _ _ _

@[simp] theorem length_outBytes (shared : XenconsInterface) :
    shared.outBytes.length = shared.outUsed := length_window _ _ _

/-- On legal indices the room in `out` is what is not used of it. -/
theorem outFree_eq {shared : XenconsInterface} (h : shared.outUsed ≤ 2048) :
    shared.outFree = 2048 - shared.outUsed := by
  have e : shared.outCons + 2048 - shared.outProd = 2048 - (shared.outProd - shared.outCons) := by
    ring
  have hle : shared.outProd - shared.outCons ≤ (2048 : ULONG) := BitVec.le_def.mpr h
  unfold outFree
  rw [e, BitVec.toNat_sub_of_le hle]
  rfl

/-! ### The backend's two steps -/

/-- The backend puts one byte at `in_prod` and advances it. -/
def produce (shared : XenconsInterface) (b : UInt8) : XenconsInterface :=
  { shared with
    inBuf := depositVec shared.inBuf shared.inProd.toNat [b]
    inProd := shared.inProd + 1 }

/-- The byte at `out_cons`. -/
def outHead (shared : XenconsInterface) : UInt8 := cell shared.outBuf.toList shared.outCons.toNat

/-- The backend takes the byte at `out_cons` and advances it. -/
def consume (shared : XenconsInterface) : XenconsInterface :=
  { shared with outCons := shared.outCons + 1 }

end XenconsInterface

/-- A counter advanced by `n` bytes is that much further from where the other one stands. -/
theorem toNat_add_sub {a b : ULONG} {n : Nat} (h : (a - b).toNat + n < 2 ^ 32) :
    (a + BitVec.ofNat 32 n - b).toNat = (a - b).toNat + n := by
  have e : a + BitVec.ofNat 32 n - b = (a - b) + BitVec.ofNat 32 n := by ring
  have hn : (BitVec.ofNat 32 n).toNat = n := by
    rw [BitVec.toNat_ofNat, Nat.mod_eq_of_lt (by omega)]
  rw [e, BitVec.toNat_add, hn, Nat.mod_eq_of_lt h]

/-- A counter followed by `n` bytes at most as far as it lies ahead of the other one. -/
theorem toNat_sub_add {a b : ULONG} {n : Nat} (h : n ≤ (a - b).toNat) :
    (a - (b + BitVec.ofNat 32 n)).toNat = (a - b).toNat - n := by
  have hlt : (a - b).toNat < 2 ^ 32 := (a - b).isLt
  have hn : (BitVec.ofNat 32 n).toNat = n := by
    rw [BitVec.toNat_ofNat, Nat.mod_eq_of_lt (by omega)]
  rw [← BitVec.sub_sub, toNat_sub_piece (by rw [hn]; exact h), hn]

/-- The position of the other index, counted on from this one. -/
theorem toNat_mod_of_sub {L : Nat} (hL : L ∣ 2 ^ 32) (a b : ULONG) :
    a.toNat % L = (b.toNat + (a - b).toNat) % L := by
  conv_lhs => rw [show a = b + (a - b) by ring]
  exact toNat_add_mod hL b (a - b)

/-- The window behind an index that advances by `n`: the first `n` bytes are gone. -/
theorem window_advance {L : Nat} {buf : List.Vector UInt8 L} {cons : ULONG} {n m : Nat}
    (hL : L ∣ 2 ^ 32) (h : n ≤ m) (hm : m < 2 ^ 32) :
    window buf.toList (cons + BitVec.ofNat 32 n).toNat (m - n) =
      (window buf.toList cons.toNat m).drop n := by
  have hn : (BitVec.ofNat 32 n).toNat = n := by
    rw [BitVec.toNat_ofNat, Nat.mod_eq_of_lt (by omega)]
  rw [drop_window h]
  refine window_mod _ ?_
  rw [buf.toList_length, toNat_add_mod hL, hn]

/-- The window up to an index that advances over a deposit: the bytes are appended. -/
theorem window_extend {L : Nat} (buf : List.Vector UInt8 L) (cons prod : ULONG)
    (bytes : List UInt8) (hL : L ∣ 2 ^ 32) (h : (prod - cons).toNat + bytes.length ≤ L) :
    window (depositVec buf prod.toNat bytes).toList cons.toNat
        ((prod - cons).toNat + bytes.length) =
      window buf.toList cons.toNat (prod - cons).toNat ++ bytes := by
  rw [depositVec_mod bytes (toNat_mod_of_sub hL prod cons), toList_depositVec]
  exact window_deposit_add (by rw [buf.toList_length]; exact h)

section Streams

variable {shared : XenconsInterface}

open XenconsInterface

/-- **A read takes from the front of `in`.** -/
theorem ringCopyFromRead_stream (hl : shared.Legal) {data : List UInt8} {length : ULONG}
    (hd : data.length = length.toNat) {shared' : XenconsInterface} {data' : List UInt8} {n : ULONG}
    (h : ringCopyFromRead shared data length = (shared', data', n)) :
    n.toNat ≤ length.toNat ∧ shared.inBytes = data'.take n.toNat ++ shared'.inBytes ∧
      shared'.outBytes = shared.outBytes ∧ shared'.Legal := by
  rw [ringCopyFromRead_eq shared hd] at h
  obtain ⟨rfl, rfl, rfl⟩ := h
  have hlt : length.toNat < 2 ^ 32 := length.isLt
  have hin := hl.inLe
  generalize hk : min length.toNat shared.inAvail = k
  have hkl : k ≤ shared.inAvail := by omega
  have hkn : (BitVec.ofNat 32 k).toNat = k := by
    rw [BitVec.toNat_ofNat, Nat.mod_eq_of_lt (by omega)]
  have havail : ({ shared with inCons := shared.inCons + BitVec.ofNat 32 k } :
      XenconsInterface).inAvail = shared.inAvail - k := toNat_sub_add hkl
  have hbytes : ({ shared with inCons := shared.inCons + BitVec.ofNat 32 k } :
      XenconsInterface).inBytes = shared.inBytes.drop k := by
    unfold inBytes
    rw [havail]
    exact window_advance (by decide) hkl (by omega)
  refine ⟨by omega, ?_, rfl, by rw [havail]; omega, hl.outLe⟩
  have hfit : (window shared.inBuf.toList shared.inCons.toNat k).length ≤ data.length := by
    rw [length_window]; omega
  have htake : (overwrite data 0 (window shared.inBuf.toList shared.inCons.toNat k)).take k =
      shared.inBytes.take k := by
    have h0 := take_overwrite_zero hfit
    rw [length_window] at h0
    rw [h0, inBytes, take_window hkl]
  rw [hkn, hbytes, htake, List.take_append_drop]

/-- **A write appends its accepted prefix to `out`.** -/
theorem ringCopyToWrite_stream (hl : shared.Legal) {data : List UInt8} {length : ULONG}
    (hd : data.length = length.toNat) {shared' : XenconsInterface} {n : ULONG}
    (h : ringCopyToWrite shared data length = (shared', n)) :
    n.toNat ≤ length.toNat ∧ shared'.outBytes = shared.outBytes ++ data.take n.toNat ∧
      shared'.inBytes = shared.inBytes ∧ shared'.Legal := by
  rw [ringCopyToWrite_eq shared hd] at h
  obtain ⟨rfl, rfl⟩ := h
  have hlt : length.toNat < 2 ^ 32 := length.isLt
  have hout := hl.outLe
  have hfree := outFree_eq hout
  generalize hk : min length.toNat shared.outFree = k
  have hkn : (BitVec.ofNat 32 k).toNat = k := by
    rw [BitVec.toNat_ofNat, Nat.mod_eq_of_lt (by omega)]
  have hlen : (data.take k).length = k := by rw [List.length_take]; omega
  have hused : (shared.outProd + BitVec.ofNat 32 k - shared.outCons).toNat =
      shared.outUsed + k := toNat_add_sub (show shared.outUsed + k < 2 ^ 32 by omega)
  refine ⟨by omega, ?_, rfl, hl.inLe, ?_⟩
  · have hext := window_extend shared.outBuf shared.outCons shared.outProd (data.take k) (by decide)
      (by rw [hlen]; show shared.outUsed + k ≤ 2048; omega)
    rw [hlen] at hext
    rw [hkn]
    unfold outBytes
    rw [show ({ shared with
          outProd := shared.outProd + BitVec.ofNat 32 k
          outBuf := depositVec shared.outBuf shared.outProd.toNat (data.take k) } :
        XenconsInterface).outUsed = shared.outUsed + k from hused]
    exact hext
  · show (shared.outProd + BitVec.ofNat 32 k - shared.outCons).toNat ≤ 2048
    rw [hused]
    omega

/-- **The backend's byte goes to the end of `in`.** -/
theorem produce_stream (hl : shared.Legal) (b : UInt8) (hroom : shared.inAvail < 1024) :
    (shared.produce b).inBytes = shared.inBytes ++ [b] ∧
      (shared.produce b).outBytes = shared.outBytes ∧ (shared.produce b).Legal := by
  have hused : (shared.inProd + 1 - shared.inCons).toNat = shared.inAvail + 1 :=
    toNat_add_sub (n := 1) (show shared.inAvail + 1 < 2 ^ 32 by omega)
  refine ⟨?_, rfl, ?_, hl.outLe⟩
  · have hext := window_extend shared.inBuf shared.inCons shared.inProd [b] (by decide)
      (show shared.inAvail + 1 ≤ 1024 by omega)
    unfold inBytes
    rw [show (shared.produce b).inAvail = shared.inAvail + 1 from hused]
    exact hext
  · show (shared.inProd + 1 - shared.inCons).toNat ≤ 1024
    rw [hused]
    omega

/-- **The backend takes the oldest byte of `out`.** -/
theorem consume_stream (hl : shared.Legal) (hne : shared.outCons ≠ shared.outProd) :
    shared.outBytes = shared.outHead :: shared.consume.outBytes ∧
      shared.consume.inBytes = shared.inBytes ∧ shared.consume.Legal := by
  have hpos : 1 ≤ shared.outUsed := by
    refine Nat.pos_of_ne_zero fun h0 => hne ?_
    have hz : shared.outProd - shared.outCons = 0 := BitVec.eq_of_toNat_eq h0
    exact (sub_eq_zero.mp hz).symm
  have hlt : shared.outUsed < 2 ^ 32 := (shared.outProd - shared.outCons).isLt
  have hused : shared.consume.outUsed = shared.outUsed - 1 := toNat_sub_add (n := 1) hpos
  refine ⟨?_, rfl, hl.inLe, by rw [hused]; exact (Nat.sub_le _ _).trans hl.outLe⟩
  have hdrop : shared.consume.outBytes = shared.outBytes.drop 1 := by
    unfold outBytes
    rw [hused]
    exact window_advance (n := 1) (by decide) hpos hlt
  have htake : shared.outBytes.take 1 = [shared.outHead] := by
    unfold outBytes
    rw [take_window hpos, window_one]
    rfl
  calc shared.outBytes = shared.outBytes.take 1 ++ shared.outBytes.drop 1 :=
        (List.take_append_drop 1 _).symm
    _ = shared.outHead :: shared.consume.outBytes := by rw [htake, hdrop]; rfl

end Streams

end Xencons
