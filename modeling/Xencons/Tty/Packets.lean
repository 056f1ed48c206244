import Xencons.Tty.GetLine

/-!
# The line editor and the packets its input comes in (tty.c)

Each call of `GetLine` has a `Sequence` of its own, so what it has read and not come to is lost with
it. A stream of characters comes to other lines where it is cut into other reads.

* `getLines` -- repeated calls: `getLines_chunks`;
* `Undivided` -- no read reaches past the end of a line;
* **`lines_same_iff`** -- any two ways to cut the stream come to the same lines with nothing lost
  just where that is so of both; `lines_lost`.
-/

namespace Xencons.Tty

open Lib

/-- Calls of `GetLine` with a buffer of its own, up to one that waits or fails. -/
def getLines (n : Nat) (noEcho : Bool) :
    Nat → (Nat → TCHAR) → List ReadFile → List Return
  | 0, _, _ => []
  | calls + 1, buffer, reads =>
    match getLine n noEcho buffer reads with
    | some r =>
      r :: if r.success then getLines n noEcho calls r.locals.buffer r.reads else []
    | none => []

/-- The lines. -/
def linesOf (returns : List Return) : List (List TCHAR) := returns.map (·.locals.line)

/-- No read reaches past the end of a line. -/
def Undivided (n : Nat) (chunks : List (List TCHAR)) : Prop := Whole edit (Ended n) [] [] chunks

section Chunks

variable {n : Nat} {noEcho : Bool} {l : Locals} {left : List TCHAR}

/-- A call of `GetLine` comes to the first of the results, if there is one. -/
theorem getLineLoop_chunks (noEcho : Bool) (l : Locals) (left : List TCHAR)
    (h : ¬Ended n l.line) (hp : Plain l.line) (chunks : List (List TCHAR)) :
    (getLineLoop n noEcho (chunks.map .read) l left = none ∧
      chunkResults edit (Ended n) [] l.line chunks = []) ∨
    ∃ r rest, getLineLoop n noEcho (chunks.map .read) l left = some r ∧ r.success = true ∧
      r.reads = rest.map .read ∧
      chunkResults edit (Ended n) [] l.line chunks =
        (r.locals.line, r.left) :: chunkResults edit (Ended n) [] [] rest := by
  induction chunks generalizing l left with
  | nil => exact .inl ⟨getLineLoop_nil h, rfl⟩
  | cons c chunks ih =>
      have hline : ((upTo edit (Ended n) l.line c).foldl (Locals.typeIn noEcho) l).line =
          after edit (Ended n) l.line c := Locals.line_typeAll noEcho l _
      rw [List.map_cons, getLineLoop_read h hp, chunkResults]
      dsimp only
      rw [hline]
      by_cases hover : Ended n (after edit (Ended n) l.line c)
      · rw [if_pos hover, if_pos hover]
        refine .inr ⟨_, chunks, rfl, rfl, rfl, ?_⟩
        rw [Locals.line_echo, hline]
      · rw [if_neg hover, if_neg hover, ← hline]
        exact ih _ _ (hline ▸ hover) (hline ▸ plain_after hp hover)

/-- **The lines of repeated calls**, each with what is lost behind it. -/
theorem getLines_chunks (noEcho : Bool) (hn : 0 < n) (calls : Nat) (buffer : Nat → TCHAR)
    (chunks : List (List TCHAR)) :
    (getLines n noEcho calls buffer (chunks.map .read)).map (fun r => (r.locals.line, r.left)) =
      (chunkResults edit (Ended n) [] [] chunks).take calls := by
  induction calls generalizing buffer chunks with
  | zero => rfl
  | succ calls ih =>
      rcases getLineLoop_chunks (n := n) noEcho ⟨buffer, 0, []⟩ []
        (not_ended_nil hn) plain_nil chunks with ⟨hnone, hres⟩ | ⟨r, rest, hsome, hs, hr, hres⟩
      · rw [getLines, getLine, hnone]
        exact (congrArg (List.take (calls + 1)) hres).symm
      · rw [getLines, getLine, hsome]
        dsimp only
        rw [if_pos hs, hr, List.map_cons, ih]
        exact (congrArg (List.take (calls + 1)) hres).symm

variable {buffer : Nat → TCHAR} {chunks : List (List TCHAR)}

/-- Nothing is lost in any number of calls. -/
theorem left_nil_iff (hn : 0 < n) :
    (∀ calls, ∀ r ∈ getLines n noEcho calls buffer (chunks.map .read), r.left = []) ↔
      Undivided n chunks := by
  have hmem (calls : Nat) :
      (∀ r ∈ getLines n noEcho calls buffer (chunks.map .read), r.left = []) ↔
        ∀ p ∈ (chunkResults edit (Ended n) [] [] chunks).take calls, p.2 = [] := by
    rw [← getLines_chunks noEcho hn calls buffer chunks, List.forall_mem_map]
  rw [Undivided, whole_iff]
  constructor
  · intro h p hp
    refine (hmem (chunkResults edit (Ended n) [] [] chunks).length).mp (h _) p ?_
    rwa [List.take_length]
  · exact fun h calls => (hmem calls).mpr fun p hp => h p (List.mem_of_mem_take hp)

/-- **Where nothing is lost, the lines are those of the stream.** -/
theorem lines_eq_results (hn : 0 < n) (h : Undivided n chunks) (calls : Nat) :
    linesOf (getLines n noEcho calls buffer (chunks.map .read)) =
      (results edit (Ended n) [] [] chunks.flatten).take calls := by
  have hmap := congrArg (List.map Prod.fst) (getLines_chunks noEcho hn calls buffer chunks)
  rw [List.map_map, List.map_take,
    chunkResults_of_whole (not_ended_nil hn) (not_ended_nil hn) h] at hmap
  exact hmap

end Chunks

/-- **The packets do not show, and nothing is lost, just where no read reaches past the end of a
    line.** -/
theorem lines_same_iff {n : Nat} (hn : 0 < n) (noEcho : Bool) {chunks chunks' : List (List TCHAR)}
    (h : chunks.flatten = chunks'.flatten) (buffer buffer' : Nat → TCHAR) :
    ((∀ calls, linesOf (getLines n noEcho calls buffer (chunks.map .read)) =
        linesOf (getLines n noEcho calls buffer' (chunks'.map .read))) ∧
      (∀ calls, ∀ r ∈ getLines n noEcho calls buffer (chunks.map .read), r.left = []) ∧
      ∀ calls, ∀ r ∈ getLines n noEcho calls buffer' (chunks'.map .read), r.left = []) ↔
    Undivided n chunks ∧ Undivided n chunks' := by
  rw [left_nil_iff hn, left_nil_iff hn]
  refine ⟨fun h => h.2, fun hw => ⟨fun calls => ?_, hw⟩⟩
  rw [lines_eq_results hn hw.1, lines_eq_results hn hw.2, h]

/-- With `TtyIn`'s buffer and a line typed one character at a time. -/
theorem lines_same_iff_typed :
    ((∀ calls, linesOf (getLines 1023 false calls (fun _ => 0) ([[0x61], [CR]].map .read)) =
        linesOf (getLines 1023 false calls (fun _ => 0) ([[0x61, CR]].map .read))) ∧
      (∀ calls, ∀ r ∈ getLines 1023 false calls (fun _ => 0) ([[0x61], [CR]].map .read),
        r.left = []) ∧
      ∀ calls, ∀ r ∈ getLines 1023 false calls (fun _ => 0) ([[0x61, CR]].map .read),
        r.left = []) ↔
    Undivided 1023 [[0x61], [CR]] ∧ Undivided 1023 [[0x61, CR]] := by
  have hflat : ([[0x61], [CR]] : List (List TCHAR)).flatten = [[0x61, CR]].flatten := rfl
  exact lines_same_iff (n := 1023) (by decide) false hflat _ _

/-- **What comes with a `^M` and behind it is lost**: two lines in one read are one. -/
theorem lines_lost :
    linesOf (getLines 1023 false 2 (fun _ => 0) ([[0x61, CR, 0x62, CR]].map .read)) =
      [[0x61, CR]] ∧
    linesOf (getLines 1023 false 2 (fun _ => 0) ([[0x61], [CR], [0x62], [CR]].map .read)) =
      [[0x61, CR], [0x62, CR]] ∧
    ¬∀ calls, linesOf (getLines 1023 false calls (fun _ => 0)
          ([[0x61, CR, 0x62, CR]].map .read)) =
        linesOf (getLines 1023 false calls (fun _ => 0)
          ([[0x61], [CR], [0x62], [CR]].map .read)) := by
  have hone : linesOf (getLines 1023 false 2 (fun _ => 0)
      ([[0x61, CR, 0x62, CR]].map .read)) = [[0x61, CR]] := by decide +kernel
  have htwo : linesOf (getLines 1023 false 2 (fun _ => 0)
      ([[0x61], [CR], [0x62], [CR]].map .read)) = [[0x61, CR], [0x62, CR]] := by decide +kernel
  refine ⟨hone, htwo, fun h => ?_⟩
  have heq := (hone.symm.trans (h 2)).trans htwo
  exact absurd heq (by decide)

end Xencons.Tty
