import Xencons.Ring.Shared
import Xencons.Lib.Halting

/-!
# The two copy loops pass by pass (ring.c)

Shared.lean runs the loops of `RingCopyFromRead` and `RingCopyToWrite` with as many passes as
`Length`; here they are machines of their own, with the `RtlCopyMemory` calls they make as a log.
Both have one body: `Available` is what the index lacks to a limit (`in_prod`, or `out_cons` plus
the size of `out`), the piece is cut at the end of the buffer, and `Offset`, `Length` and the index
move by it.

* `CopyLoop.pass` -- one pass; `copyFromReadPass`, `copyToWritePass` -- the two instances;
* `CopyLoop.halts` -- it stops, whatever the indices are, and what all its calls went over;
* `copy_loops_one_shot` -- the loops against their definition in one shot, byte by byte;
* `slot_once_iff` -- when a call goes over no slot of the ring twice.
-/

namespace Xencons

open Lib

/-! ## 1. The machine -/

/-- One `RtlCopyMemory` call: the index into the ring's buffer, the offset into `Data`, and the
    number of bytes. -/
structure RtlCopyMemory where
  index : ULONG
  offset : ULONG
  copyLength : ULONG

/-- The call stays inside a buffer of `L` bytes and inside `Data[0..Length)`. -/
def RtlCopyMemory.Inside (L : Nat) (length : ULONG) (c : RtlCopyMemory) : Prop :=
  c.index.toNat + c.copyLength.toNat ≤ L ∧ c.offset.toNat + c.copyLength.toNat ≤ length.toNat

/-- The slots of the ring a list of calls goes over, in order. -/
def slots (copies : List RtlCopyMemory) : List Nat :=
  copies.flatMap fun c => List.range' c.index.toNat c.copyLength.toNat

/-- The locals of a copy loop: its own index (`cons` in `RingCopyFromRead`, `prod` in
    `RingCopyToWrite`), `Offset` and `Length`, what the destination holds, and the calls made. -/
structure CopyLoop (β : Type) where
  idx : ULONG
  offset : ULONG
  length : ULONG
  dest : β
  copies : List RtlCopyMemory

namespace CopyLoop

variable {β : Type}

/-- In front of the `while`. -/
def entry (idx length : ULONG) (dest : β) : CopyLoop β := ⟨idx, 0, length, dest, []⟩

/-- `Length` is used up, or `Available == 0`. -/
def Stopped (limit : ULONG) (s : CopyLoop β) : Prop := s.length = 0 ∨ limit - s.idx = 0

/-- The call of one pass, over a buffer of `L` bytes. -/
def piece (L : Nat) (limit : ULONG) (s : CopyLoop β) : RtlCopyMemory :=
  let available := limit - s.idx
  let index := maskXenconsIdx s.idx L
  let copyLength := ulongMin (ulongMin s.length available) (BitVec.ofNat 32 L - index)
  ⟨index, s.offset, copyLength⟩

/-- One pass of the loop. -/
def pass (L : Nat) (limit : ULONG) (copy : RtlCopyMemory → β → β) (s : CopyLoop β) : CopyLoop β :=
  let c := s.piece L limit
  { idx := s.idx + c.copyLength
    offset := s.offset + c.copyLength
    length := s.length - c.copyLength
    dest := copy c s.dest
    copies := s.copies ++ [c] }

end CopyLoop

/-- A pass of `RingCopyFromRead`: `&Shared->in[Index]` to `Data + Offset`. -/
def copyFromReadPass (shared : XenconsInterface) : CopyLoop (List UInt8) → CopyLoop (List UInt8) :=
  CopyLoop.pass 1024 shared.inProd fun c data =>
    overwrite data c.offset.toNat
      ((shared.inBuf.toList.drop c.index.toNat).take c.copyLength.toNat)

/-- A pass of `RingCopyToWrite`: `Data + Offset` to `&Shared->out[Index]`. -/
def copyToWritePass (shared : XenconsInterface) (data : List UInt8) :
    CopyLoop (List.Vector UInt8 2048) → CopyLoop (List.Vector UInt8 2048) :=
  CopyLoop.pass 2048 (shared.outCons + 2048) fun c outBuf =>
    overwriteVec outBuf c.index.toNat ((data.drop c.offset.toNat).take c.copyLength.toNat)

/-! ## 2. A run to the stop -/

namespace CopyLoop

variable {β : Type} {L : Nat} {limit : ULONG} {copy : RtlCopyMemory → β → β} {s t : CopyLoop β}

/-- How many bytes the loop still moves. -/
def left (limit : ULONG) (s : CopyLoop β) : Nat := min s.length.toNat (limit - s.idx).toNat

theorem stopped_iff_left : s.Stopped limit ↔ s.left limit = 0 := by
  have hz : ∀ x : ULONG, x = 0 ↔ x.toNat = 0 :=
    fun x => ⟨fun h => h ▸ rfl, fun h => BitVec.eq_of_toNat_eq h⟩
  unfold Stopped left
  rw [hz, hz]
  omega

/-- A ring of `L` bytes whose index is masked with `L - 1`. -/
structure RingSize (L : Nat) : Prop where
  pos : 0 < L
  lt : L < 2 ^ 32
  dvd : L ∣ 2 ^ 32
  mask : ∀ idx : ULONG, (maskXenconsIdx idx L).toNat = idx.toNat % L

theorem ringSize_in : RingSize 1024 :=
  ⟨by decide, by decide, by decide, toNat_maskXenconsIdx_in⟩

theorem ringSize_out : RingSize 2048 :=
  ⟨by decide, by decide, by decide, toNat_maskXenconsIdx_out⟩

/-- **One pass**: it moves something, stays inside both buffers and leaves that much less. -/
theorem pass_next (copy : RtlCopyMemory → β → β) (hL : RingSize L) (hns : ¬s.Stopped limit)
    (hfit : s.offset.toNat + s.length.toNat < 2 ^ 32) :
    let c := s.piece L limit
    let s' := s.pass L limit copy
    0 < c.copyLength.toNat ∧ c.copyLength.toNat ≤ s.left limit ∧
      c.index.toNat = s.idx.toNat % L ∧ c.index.toNat + c.copyLength.toNat ≤ L ∧
      s'.left limit = s.left limit - c.copyLength.toNat ∧
      s'.length.toNat = s.length.toNat - c.copyLength.toNat ∧
      s'.offset.toNat = s.offset.toNat + c.copyLength.toNat ∧
      s'.idx.toNat % L = (s.idx.toNat + c.copyLength.toNat) % L := by
  obtain ⟨hl, ha⟩ := not_or.mp hns
  obtain ⟨hpos, hcl, hca, hci⟩ :=
    copyLength_facts (hL.mask s.idx) (Nat.mod_lt _ hL.pos) hL.lt hl ha
  have hlen : (s.length - (s.piece L limit).copyLength).toNat =
      s.length.toNat - (s.piece L limit).copyLength.toNat := toNat_sub_piece hcl
  have havail : (limit - (s.idx + (s.piece L limit).copyLength)).toNat =
      (limit - s.idx).toNat - (s.piece L limit).copyLength.toNat := by
    rw [← BitVec.sub_sub]
    exact toNat_sub_piece hca
  have hoff : (s.offset + (s.piece L limit).copyLength).toNat =
      s.offset.toNat + (s.piece L limit).copyLength.toNat := by
    have hcl' : (s.piece L limit).copyLength.toNat ≤ s.length.toNat := hcl
    rw [BitVec.toNat_add, Nat.mod_eq_of_lt (by omega)]
  refine ⟨hpos, le_min hcl hca, hL.mask s.idx, ?_, ?_, hlen, hoff, toNat_add_mod hL.dvd _ _⟩
  · rw [show (s.piece L limit).index.toNat = s.idx.toNat % L from hL.mask s.idx]
    exact hci
  · show min (s.length - (s.piece L limit).copyLength).toNat
      (limit - (s.idx + (s.piece L limit).copyLength)).toNat = _
    rw [hlen, havail, Nat.sub_min_sub_right]
    rfl

/-- A pass uses up some of `Length`, and `Offset` moves by as much. -/
theorem pass_shrinks (hL : RingSize L) (hns : ¬s.Stopped limit)
    (hfit : s.offset.toNat + s.length.toNat < 2 ^ 32) :
    (s.pass L limit copy).length.toNat < s.length.toNat ∧
      (s.pass L limit copy).offset.toNat + (s.pass L limit copy).length.toNat =
        s.offset.toNat + s.length.toNat := by
  obtain ⟨hpos, hle, -, -, -, hlen, hoff, -⟩ := pass_next copy hL hns hfit
  have hcl : (s.piece L limit).copyLength.toNat ≤ s.length.toNat := hle.trans (Nat.min_le_left _ _)
  omega

/-- **Every run stops**, and its calls stay inside both buffers and go over the slots from the
    masked index on, one after the other. -/
theorem halts (hL : RingSize L) (length : ULONG) : ∀ (k : Nat) (s : CopyLoop β),
    s.left limit ≤ k → s.offset.toNat + s.length.toNat ≤ length.toNat →
    ∃ t more, Halts (pass L limit copy) (Stopped limit) s t ∧ t.copies = s.copies ++ more ∧
      (∀ c ∈ more, c.Inside L length) ∧
      slots more = positions L s.idx.toNat (s.left limit) := by
  intro k
  induction k with
  | zero =>
      intro s hk _
      have h0 : s.left limit = 0 := by omega
      refine ⟨s, [], ⟨.refl, stopped_iff_left.mpr h0⟩, by simp, by simp, ?_⟩
      rw [h0]
      rfl
  | succ k ih =>
      intro s hk hfit
      by_cases hs : s.Stopped limit
      · have h0 : s.left limit = 0 := stopped_iff_left.mp hs
        refine ⟨s, [], ⟨.refl, hs⟩, by simp, by simp, ?_⟩
        rw [h0]
        rfl
      obtain ⟨hpos, hle, hix, hin, hleft, hlen, hoff, hmod⟩ :=
        pass_next copy hL hs (by have := length.isLt; omega)
      have hcl : (s.piece L limit).copyLength.toNat ≤ s.length.toNat :=
        hle.trans (Nat.min_le_left _ _)
      obtain ⟨t, more, ht, hcop, hins, hslots⟩ :=
        ih (s.pass L limit copy) (by omega) (by omega)
      refine ⟨t, s.piece L limit :: more, Halts.append (.single ⟨hs, rfl⟩) ht, ?_, ?_, ?_⟩
      · rw [hcop]
        simp [pass]
      · intro c hc
        rcases List.mem_cons.mp hc with rfl | hc
        · refine ⟨hin, ?_⟩
          show s.offset.toNat + (s.piece L limit).copyLength.toNat ≤ length.toNat
          omega
        · exact hins c hc
      · -- the piece, and the rest from where it ended
        have hpiece : List.range' (s.piece L limit).index.toNat
            (s.piece L limit).copyLength.toNat =
            positions L s.idx.toNat (s.piece L limit).copyLength.toNat := by
          rw [hix, positions_eq_range' (by omega)]
        have hrest : slots more = positions L (s.idx.toNat + (s.piece L limit).copyLength.toNat)
            (s.left limit - (s.piece L limit).copyLength.toNat) := by
          rw [hslots, hleft]
          exact positions_mod _ hmod
        rw [slots, List.flatMap_cons, hpiece]
        show _ ++ slots more = _
        rw [hrest, ← positions_add, Nat.add_sub_cancel' hle]

/-- A run from the head of the loop, at any alignment. -/
theorem halts_entry (hL : RingSize L) (idx length : ULONG) (dest : β) :
    ∃ t, Halts (pass L limit copy) (Stopped limit) (entry idx length dest) t ∧
      (∀ c ∈ t.copies, c.Inside L length) ∧
      slots t.copies = positions L idx.toNat (min length.toNat (limit - idx).toNat) := by
  obtain ⟨t, more, ht, hcop, hins, hslots⟩ :=
    halts hL length _ (entry idx length dest) (le_refl (left limit _))
      (by simp [entry])
  rw [show (entry idx length dest).copies = [] from rfl, List.nil_append] at hcop
  subst hcop
  exact ⟨t, ht, hins, hslots⟩

end CopyLoop

/-! ## 3. The loops of Shared.lean are these machines -/

section Loops

variable {shared : XenconsInterface} {data : List UInt8}

/-- The loop of `RingCopyFromRead`, with passes enough, ends where the machine stops. -/
theorem ringCopyFromReadLoop_halts : ∀ (fuel : Nat) {s t : CopyLoop (List UInt8)},
    s.length.toNat ≤ fuel → s.offset.toNat + s.length.toNat < 2 ^ 32 →
    Halts (copyFromReadPass shared) (CopyLoop.Stopped shared.inProd) s t →
    ringCopyFromReadLoop shared.inBuf shared.inProd fuel s.idx s.offset s.length s.dest =
      (t.idx, t.offset, t.dest) := by
  intro fuel
  induction fuel with
  | zero =>
      intro s t hf _ ht
      have hs : s.Stopped shared.inProd :=
        .inl (BitVec.eq_of_toNat_eq (show s.length.toNat = 0 by omega))
      rw [eq_of_stopped hs ht.1]
      rfl
  | succ fuel ih =>
      intro s t hf hfit ht
      by_cases hs : s.Stopped shared.inProd
      · rw [eq_of_stopped hs ht.1, ringCopyFromReadLoop]
        rcases hs with hl | ha
        · rw [if_pos hl]
        · simp only [ha, if_true, ite_self]
      · have hn : (copyFromReadPass shared s).length.toNat < s.length.toNat ∧
            (copyFromReadPass shared s).offset.toNat + (copyFromReadPass shared s).length.toNat =
              s.offset.toNat + s.length.toNat := CopyLoop.pass_shrinks CopyLoop.ringSize_in hs hfit
        obtain ⟨hl, ha⟩ := not_or.mp hs
        rw [ringCopyFromReadLoop]
        simp only [hl, ha, if_false]
        rw [← ih (s := copyFromReadPass shared s) (by omega) (by omega) (ht.behind hs)]
        simp only [copyFromReadPass, CopyLoop.pass, CopyLoop.piece, BitVec.ofNat_eq_ofNat]

/-- The loop of `RingCopyToWrite`, likewise. -/
theorem ringCopyToWriteLoop_halts : ∀ (fuel : Nat) {s t : CopyLoop (List.Vector UInt8 2048)},
    s.length.toNat ≤ fuel → s.offset.toNat + s.length.toNat < 2 ^ 32 →
    Halts (copyToWritePass shared data) (CopyLoop.Stopped (shared.outCons + 2048)) s t →
    ringCopyToWriteLoop shared.outCons data fuel s.idx s.offset s.length s.dest =
      (t.idx, t.offset, t.dest) := by
  intro fuel
  induction fuel with
  | zero =>
      intro s t hf _ ht
      have hs : s.Stopped (shared.outCons + 2048) :=
        .inl (BitVec.eq_of_toNat_eq (show s.length.toNat = 0 by omega))
      rw [eq_of_stopped hs ht.1]
      rfl
  | succ fuel ih =>
      intro s t hf hfit ht
      by_cases hs : s.Stopped (shared.outCons + 2048)
      · rw [eq_of_stopped hs ht.1, ringCopyToWriteLoop]
        rcases hs with hl | ha
        · rw [if_pos hl]
        · simp only [ha, if_true, ite_self]
      · have hn : (copyToWritePass shared data s).length.toNat < s.length.toNat ∧
            (copyToWritePass shared data s).offset.toNat +
                (copyToWritePass shared data s).length.toNat =
              s.offset.toNat + s.length.toNat := CopyLoop.pass_shrinks CopyLoop.ringSize_out hs hfit
        obtain ⟨hl, ha⟩ := not_or.mp hs
        rw [ringCopyToWriteLoop]
        simp only [hl, ha, if_false]
        rw [← ih (s := copyToWritePass shared data s) (by omega) (by omega) (ht.behind hs)]
        simp only [copyToWritePass, CopyLoop.pass, CopyLoop.piece, BitVec.ofNat_eq_ofNat]

/-- `RingCopyFromRead` returns what the machine holds where it stops. -/
theorem ringCopyFromRead_halts {length : ULONG} {t : CopyLoop (List UInt8)}
    (ht : Halts (copyFromReadPass shared) (CopyLoop.Stopped shared.inProd)
      (CopyLoop.entry shared.inCons length data) t) :
    ringCopyFromRead shared data length = ({ shared with inCons := t.idx }, t.dest, t.offset) := by
  have h := ringCopyFromReadLoop_halts length.toNat
    (show (CopyLoop.entry shared.inCons length data).length.toNat ≤ length.toNat from le_rfl)
    (by simpa [CopyLoop.entry] using length.isLt) ht
  simp only [CopyLoop.entry] at h
  simp only [ringCopyFromRead, h]

/-- `RingCopyToWrite` returns what the machine holds where it stops. -/
theorem ringCopyToWrite_halts {length : ULONG} {t : CopyLoop (List.Vector UInt8 2048)}
    (ht : Halts (copyToWritePass shared data) (CopyLoop.Stopped (shared.outCons + 2048))
      (CopyLoop.entry shared.outProd length shared.outBuf) t) :
    ringCopyToWrite shared data length =
      ({ shared with outProd := t.idx, outBuf := t.dest }, t.offset) := by
  have h := ringCopyToWriteLoop_halts length.toNat
    (show (CopyLoop.entry shared.outProd length shared.outBuf).length.toNat ≤ length.toNat from
      le_rfl) (by simpa [CopyLoop.entry] using length.isLt) ht
  simp only [CopyLoop.entry] at h
  simp only [ringCopyToWrite, h]

end Loops

theorem copyFromRead_halts (shared : XenconsInterface) (length : ULONG) (data : List UInt8) :
    ∃ t, Halts (copyFromReadPass shared) (CopyLoop.Stopped shared.inProd)
        (CopyLoop.entry shared.inCons length data) t ∧ (∀ c ∈ t.copies, c.Inside 1024 length) ∧
      slots t.copies = positions 1024 shared.inCons.toNat
        (min length.toNat (shared.inProd - shared.inCons).toNat) :=
  CopyLoop.halts_entry CopyLoop.ringSize_in shared.inCons length data

theorem copyToWrite_halts (shared : XenconsInterface) (length : ULONG) (data : List UInt8) :
    ∃ t, Halts (copyToWritePass shared data) (CopyLoop.Stopped (shared.outCons + 2048))
        (CopyLoop.entry shared.outProd length shared.outBuf) t ∧
      (∀ c ∈ t.copies, c.Inside 2048 length) ∧
      slots t.copies = positions 2048 shared.outProd.toNat
        (min length.toNat (shared.outCons + 2048 - shared.outProd).toNat) :=
  CopyLoop.halts_entry CopyLoop.ringSize_out shared.outProd length shared.outBuf

/-! ## 4. The loops in one shot, byte by byte -/

/-- What one `RingCopyFromRead` call leaves, as one sentence about bytes and slots. -/
structure TakesFromRead (shared : XenconsInterface) (data : List UInt8) (length : ULONG)
    (shared' : XenconsInterface) (data' : List UInt8) (n : ULONG) : Prop where
  count : n.toNat = min length.toNat (shared.inProd - shared.inCons).toNat
  taken : ∀ i < n.toNat,
    data'[i]? = some (shared.inBuf.get ⟨(shared.inCons.toNat + i) % 1024, Nat.mod_lt _ (by decide)⟩)
  rest : ∀ i, n.toNat ≤ i → data'[i]? = data[i]?
  page : shared' = { shared with inCons := shared.inCons + n }

/-- What one `RingCopyToWrite` call leaves. -/
structure PutsToWrite (shared : XenconsInterface) (data : List UInt8) (length : ULONG)
    (shared' : XenconsInterface) (n : ULONG) : Prop where
  count : n.toNat = min length.toNat (shared.outCons + 2048 - shared.outProd).toNat
  last : ∀ j : Fin 2048, ∀ i < n.toNat, (shared.outProd.toNat + i) % 2048 = j →
    (∀ k, i < k → k < n.toNat → (shared.outProd.toNat + k) % 2048 ≠ j) →
    data[i]? = some (shared'.outBuf.get j)
  others : ∀ j : Fin 2048, (∀ i < n.toNat, (shared.outProd.toNat + i) % 2048 ≠ j) →
    shared'.outBuf.get j = shared.outBuf.get j
  page : shared' = { shared with outBuf := shared'.outBuf, outProd := shared.outProd + n }

/-- A cell of a buffer of fixed length. -/
theorem cell_eq_get {L : Nat} (buf : List.Vector UInt8 L) (i : Nat) (hi : i % L < L) :
    cell buf.toList i = buf.get ⟨i % L, hi⟩ := by
  have hlt : i % L < buf.toList.length := by rwa [List.Vector.toList_length]
  rw [cell, List.Vector.toList_length, List.Vector.get_eq_get_toList]
  rw [List.getD_eq_getElem?_getD, List.getElem?_eq_getElem hlt]
  rfl

/-- A number of bytes that fits `Length`, as the `ULONG` that is returned. -/
theorem toNat_ofNat_min (length : ULONG) (m : Nat) :
    (BitVec.ofNat 32 (min length.toNat m)).toNat = min length.toNat m := by
  rw [BitVec.toNat_ofNat, Nat.mod_eq_of_lt (lt_of_le_of_lt (Nat.min_le_left _ _) length.isLt)]

theorem takesFromRead (shared : XenconsInterface) {data : List UInt8} {length : ULONG}
    (hd : data.length = length.toNat) :
    TakesFromRead shared data length (ringCopyFromRead shared data length).1
      (ringCopyFromRead shared data length).2.1 (ringCopyFromRead shared data length).2.2 := by
  rw [ringCopyFromRead_eq shared hd]
  dsimp only
  have hn := toNat_ofNat_min length shared.inAvail
  generalize hk : min length.toNat shared.inAvail = k at hn
  have hfit : 0 + (window shared.inBuf.toList shared.inCons.toNat k).length ≤ data.length := by
    rw [length_window]; omega
  refine ⟨hn.trans hk.symm, fun i hi => ?_, fun i hi => ?_, rfl⟩
  · rw [hn] at hi
    show (overwrite data 0 _)[i]? = _
    rw [overwrite_of_le hfit, List.take_zero, List.nil_append,
      List.getElem?_append_left (by rw [length_window]; exact hi)]
    rw [window, List.getElem?_map, List.getElem?_range hi, Option.map_some, cell_eq_get]
  · rw [hn] at hi
    show (overwrite data 0 _)[i]? = _
    rw [overwrite_of_le hfit, List.take_zero, List.nil_append,
      List.getElem?_append_right (by rw [length_window]; exact hi), length_window,
      List.getElem?_drop]
    congr 1
    omega

theorem putsToWrite (shared : XenconsInterface) {data : List UInt8} {length : ULONG}
    (hd : data.length = length.toNat) :
    PutsToWrite shared data length (ringCopyToWrite shared data length).1
      (ringCopyToWrite shared data length).2 := by
  rw [ringCopyToWrite_eq shared hd]
  dsimp only
  have hn := toNat_ofNat_min length shared.outFree
  generalize hk : min length.toNat shared.outFree = k at hn
  have hL : shared.outBuf.toList.length = 2048 := shared.outBuf.toList_length
  have hlen : (data.take k).length = k := by rw [List.length_take]; omega
  have hget : ∀ j : Fin 2048, (depositVec shared.outBuf shared.outProd.toNat (data.take k)).get j =
      cell (deposit shared.outBuf.toList shared.outProd.toNat (data.take k)) j := by
    intro j
    have hj : j.val % 2048 < 2048 := Nat.mod_lt _ (by decide)
    have he : (⟨j.val % 2048, hj⟩ : Fin 2048) = j := Fin.ext (Nat.mod_eq_of_lt j.isLt)
    rw [← toList_depositVec, cell_eq_get _ _ hj, he]
  have hj : ∀ j : Fin 2048, j.val % shared.outBuf.toList.length = j := by
    intro j
    rw [hL, Nat.mod_eq_of_lt j.isLt]
  refine ⟨hn.trans hk.symm, fun j i hi hij hlast => ?_, fun j hno => ?_, rfl⟩
  · rw [hn] at hi
    show _ = some ((depositVec shared.outBuf shared.outProd.toNat (data.take k)).get j)
    rw [hget, cell_deposit_last (k := i) (by omega) (by omega) (by rw [hj, hL, hij])]
    · rw [List.getElem_take, List.getElem?_eq_getElem]
    · intro k' hik hk'
      rw [hj, hL]
      exact (hlast k' hik (by rw [hn]; omega)).symm
  · show (depositVec shared.outBuf shared.outProd.toNat (data.take k)).get j = _
    rw [hget, cell_deposit_of_ne _ _ _ _ (by omega)]
    · have hj' : j.val % 2048 < 2048 := Nat.mod_lt _ (by decide)
      have he : (⟨j.val % 2048, hj'⟩ : Fin 2048) = j := Fin.ext (Nat.mod_eq_of_lt j.isLt)
      rw [cell_eq_get _ _ hj', he]
    · intro i hi
      rw [hj, hL]
      exact (hno i (by rw [hn]; omega)).symm

/-- **The copy loops in one shot**, for every content of the shared page and every `Length`: both
    stop, what they return and leave is the bytes named above and nothing else, and no
    `RtlCopyMemory` of them leaves the ring's buffer or `Data[0..Length)`. -/
theorem copy_loops_one_shot (shared : XenconsInterface) (length : ULONG)
    (data : List.Vector UInt8 length.toNat) :
    (∃ t, Halts (copyFromReadPass shared) (CopyLoop.Stopped shared.inProd)
        (CopyLoop.entry shared.inCons length data.toList) t ∧
      ringCopyFromRead shared data.toList length =
        ({ shared with inCons := t.idx }, t.dest, t.offset) ∧
      TakesFromRead shared data.toList length { shared with inCons := t.idx } t.dest t.offset ∧
      ∀ c ∈ t.copies, c.Inside 1024 length) ∧
    (∃ t, Halts (copyToWritePass shared data.toList) (CopyLoop.Stopped (shared.outCons + 2048))
        (CopyLoop.entry shared.outProd length shared.outBuf) t ∧
      ringCopyToWrite shared data.toList length =
        ({ shared with outProd := t.idx, outBuf := t.dest }, t.offset) ∧
      PutsToWrite shared data.toList length
        { shared with outProd := t.idx, outBuf := t.dest } t.offset ∧
      ∀ c ∈ t.copies, c.Inside 2048 length) := by
  have hd : data.toList.length = length.toNat := data.toList_length
  constructor
  · obtain ⟨t, ht, hins, -⟩ := copyFromRead_halts shared length data.toList
    have he := ringCopyFromRead_halts ht
    have hone := takesFromRead shared hd
    rw [he] at hone
    exact ⟨t, ht, he, hone, hins⟩
  · obtain ⟨t, ht, hins, -⟩ := copyToWrite_halts shared length data.toList
    have he := ringCopyToWrite_halts ht
    have hone := putsToWrite shared hd
    rw [he] at hone
    exact ⟨t, ht, he, hone, hins⟩

/-! ## 5. Illegal indices -/

/-- The room `RingCopyToWrite` computes is at most the size of `out` exactly where `out_prod` is
    no further than that ahead of `out_cons`. -/
theorem outFree_le_iff (outCons outProd : ULONG) :
    (outCons + 2048 - outProd).toNat ≤ 2048 ↔ (outProd - outCons).toNat ≤ 2048 := by
  have e : outCons + 2048 - outProd = 2048 - (outProd - outCons) := by ring
  rw [e]
  generalize outProd - outCons = d
  have hd : d.toNat < 2 ^ 32 := d.isLt
  rw [BitVec.toNat_sub, show (2048 : ULONG).toNat = 2048 from rfl]
  omega

/-- **A call goes over no slot twice exactly where `Length` is no more than the ring holds or the
    indices are legal.** Nothing in the loops looks at the latter. -/
theorem slot_once_iff (shared : XenconsInterface) (length : ULONG)
    (data : List.Vector UInt8 length.toNat) :
    (∃ t, Halts (copyFromReadPass shared) (CopyLoop.Stopped shared.inProd)
        (CopyLoop.entry shared.inCons length data.toList) t ∧
      ((slots t.copies).Nodup ↔ length.toNat ≤ 1024 ∨
        (shared.inProd - shared.inCons).toNat ≤ 1024)) ∧
    (∃ t, Halts (copyToWritePass shared data.toList) (CopyLoop.Stopped (shared.outCons + 2048))
        (CopyLoop.entry shared.outProd length shared.outBuf) t ∧
      ((slots t.copies).Nodup ↔ length.toNat ≤ 2048 ∨
        (shared.outProd - shared.outCons).toNat ≤ 2048)) := by
  constructor
  · obtain ⟨t, ht, -, hslots⟩ := copyFromRead_halts shared length data.toList
    refine ⟨t, ht, ?_⟩
    rw [hslots, nodup_positions (by decide), min_le_iff]
  · obtain ⟨t, ht, -, hslots⟩ := copyToWrite_halts shared length data.toList
    refine ⟨t, ht, ?_⟩
    rw [hslots, nodup_positions (by decide), min_le_iff, outFree_le_iff]

/-- A page whose `in_prod` another domain has set 1025 ahead of `in_cons`. -/
def overrunPage : XenconsInterface := { XenconsInterface.zero with inProd := 1025 }

/-- A read of 1025 bytes there delivers the first slot a second time. -/
theorem overrunPage_twice : ¬∀ t,
    Halts (copyFromReadPass overrunPage) (CopyLoop.Stopped overrunPage.inProd)
      (CopyLoop.entry overrunPage.inCons 1025 (List.replicate 1025 0)) t →
    (slots t.copies).Nodup := by
  intro h
  obtain ⟨t, ht, -, hslots⟩ := copyFromRead_halts overrunPage 1025 (List.replicate 1025 0)
  have hnd := h t ht
  rw [hslots, nodup_positions (by decide)] at hnd
  exact absurd hnd (by decide)

end Xencons
