import Xencons.Tty.Packets

/-!
# What the child is given to read (tty.c)

`TtyIn` hands a line on where it ends with a `^M` and tells the child of a `^C`. What `GetLine`
returns because the buffer is full has neither at its end, and is dropped.

* `ttyIn` -- the loop; `forwarded` -- what becomes of a line: `ttyIn_chunks`;
* `Over` -- the line editor without a buffer of some size; `wanted` -- the lines it ends with `^M`;
* `Undropped` -- at each `^M`, nothing of a buffer that was dropped is left in the line;
* **`delivered_iff`** -- the child is given those lines just where that is so; `line_dropped`.
-/

namespace Xencons.Tty

open Lib Function

/-- `'\n'` -/
def LF : TCHAR := 0x0A

/-- What the child has been given. -/
structure Child where
  stdIn : List TCHAR
  /-- `CTRL_BREAK_EVENT` -/
  breaks : Nat

/-- `TtyIn`, for so many turns; the child takes all that it is given. -/
def ttyIn : Nat → (Nat → TCHAR) → List ReadFile → Child → Child
  | 0, _, _, child => child
  | calls + 1, buffer, reads, child =>
    match getLine (MAXIMUM_BUFFER_SIZE - 1) false buffer reads with
    | none => child
    | some r =>
      if !r.success then child
      else
        let read := r.locals.offset
        let buffer := r.locals.buffer
        if read = 0 then ttyIn calls buffer r.reads child
        else if buffer (read - 1) = ETX then
          ttyIn calls buffer r.reads { child with breaks := child.breaks + 1 }
        else if buffer (read - 1) = CR then
          let buffer := update buffer read LF
          ttyIn calls buffer r.reads
            { child with stdIn := child.stdIn ++ (List.range (read + 1)).map buffer }
        else ttyIn calls buffer r.reads child

/-- What the child is given of a line. -/
def forwarded (line : List TCHAR) : List TCHAR :=
  if line.getLast? = some CR then line ++ [LF] else []

section Loop

variable {buffer : Nat → TCHAR} {reads : List ReadFile} {r : Return}

/-- **A turn of the loop.** -/
theorem ttyIn_turn (calls : Nat) (child : Child)
    (hr : getLine (MAXIMUM_BUFFER_SIZE - 1) false buffer reads = some r)
    (hs : r.success = true) :
    ∃ buffer' child', ttyIn (calls + 1) buffer reads child = ttyIn calls buffer' r.reads child' ∧
      child'.stdIn = child.stdIn ++ forwarded r.locals.line := by
  have hnothing (h : r.locals.line.getLast? ≠ some CR) :
      child.stdIn = child.stdIn ++ forwarded r.locals.line := by
    rw [forwarded, if_neg h, List.append_nil]
  rw [ttyIn, hr]
  dsimp only
  rw [hs, if_neg (by decide)]
  by_cases h0 : r.locals.offset = 0
  · rw [if_pos h0]
    refine ⟨_, child, rfl, hnothing ?_⟩
    rw [Locals.line_zero h0]
    exact nofun
  · have hlast := Locals.getLast_line h0
    rw [if_neg h0]
    by_cases hetx : r.locals.buffer (r.locals.offset - 1) = ETX
    · rw [if_pos hetx]
      refine ⟨_, _, rfl, hnothing ?_⟩
      rw [hlast, hetx]
      decide
    · rw [if_neg hetx]
      by_cases hcr : r.locals.buffer (r.locals.offset - 1) = CR
      · rw [if_pos hcr]
        refine ⟨_, _, rfl, ?_⟩
        have hline := Locals.line_store r.locals.buffer r.locals.offset LF r.locals.written
        rw [forwarded, hlast, hcr, if_pos rfl]
        exact congrArg (child.stdIn ++ ·) hline
      · rw [if_neg hcr]
        refine ⟨_, child, rfl, hnothing ?_⟩
        rw [hlast]
        exact fun h => hcr (Option.some.inj h)

/-- **What the child is given**, with the reads cut in any way. -/
theorem ttyIn_chunks (calls : Nat) (buffer : Nat → TCHAR) (chunks : List (List TCHAR))
    (child : Child) :
    (ttyIn calls buffer (chunks.map .read) child).stdIn = child.stdIn ++
      ((chunkResults edit (Ended (MAXIMUM_BUFFER_SIZE - 1)) [] [] chunks).take calls).flatMap
        fun p => forwarded p.1 := by
  induction calls generalizing buffer chunks child with
  | zero => exact (List.append_nil _).symm
  | succ calls ih =>
      have hn : 0 < MAXIMUM_BUFFER_SIZE - 1 := by decide
      rcases getLineLoop_chunks false ⟨buffer, 0, []⟩ [] (not_ended_nil hn)
        plain_nil chunks with ⟨hnone, hres⟩ | ⟨r, rest, hsome, hs, hr, hres⟩
      · have hres : chunkResults edit (Ended (MAXIMUM_BUFFER_SIZE - 1)) [] [] chunks = [] := hres
        rw [ttyIn, getLine, hnone, hres]
        exact (List.append_nil _).symm
      · obtain ⟨buffer', child', hturn, hchild⟩ := ttyIn_turn calls child hsome hs
        have hres : chunkResults edit (Ended (MAXIMUM_BUFFER_SIZE - 1)) [] [] chunks = _ := hres
        rw [hturn, hr, ih, hchild, hres, List.take_succ_cons, List.flatMap_cons, List.append_assoc]

end Loop

/-! ## Without a buffer of some size -/

/-- The line has been ended. -/
def Over (line : List TCHAR) : Prop := line.getLast? = some ETX ∨ line.getLast? = some CR

instance : DecidablePred Over := fun _ => inferInstanceAs (Decidable (_ ∨ _))

/-- The lines that are ended with `^M`, of any length, each with a line feed. -/
def wanted (cs : List TCHAR) : List TCHAR := (results edit Over [] [] cs).flatMap forwarded

/-- At each `^M` nothing of what was dropped is left in the line, where so many characters have been
    dropped from it and so many are in the buffer. -/
def Undropped (n : Nat) : Nat → Nat → List TCHAR → Prop
  | _, _, [] => True
  | k, b, c :: cs =>
    if c = CR then k = 0 ∧ Undropped n 0 0 cs
    else if c = ETX then Undropped n 0 0 cs
    else if c = DEL then
      if b = 0 then Undropped n (k - 1) 0 cs else Undropped n k (b - 1) cs
    else if n ≤ b + 1 then Undropped n (k + (b + 1)) 0 cs
    else Undropped n k (b + 1) cs

section Dropped

variable {n : Nat} {kept line cs : List TCHAR} {c : TCHAR}

theorem over_edit (h : Plain line) : Over (edit line c) ↔ c = ETX ∨ c = CR := by
  unfold Over edit
  by_cases hdel : c = DEL
  · rw [if_pos hdel]
    subst hdel
    exact iff_of_false (not_or.mpr h.dropLast.not_last) (by decide)
  · rw [if_neg hdel, List.getLast?_concat, Option.some.injEq, Option.some.injEq]

theorem Plain.append (hk : Plain kept) (h : Plain line) : Plain (kept ++ line) := fun c hm =>
  (List.mem_append.mp hm).elim (hk c) (h c)

theorem edit_concat (hdel : c ≠ DEL) : edit line c = line ++ [c] := if_neg hdel

theorem forwarded_concat :
    forwarded (line ++ [c]) = if c = CR then line ++ [c] ++ [LF] else [] := by
  simp only [forwarded, List.getLast?_concat, Option.some.injEq]

/-- What comes behind a line that was ended, where the ends of the lines are given, and the whole
    lines are wanted. -/
theorem ended_iff {given want : List TCHAR} (hle : given.length ≤ want.length) :
    (line ++ given).length ≤ (kept ++ line ++ want).length ∧
      (line ++ given = kept ++ line ++ want ↔ kept = [] ∧ given = want) := by
  refine ⟨by simp; omega, fun h => ?_, ?_⟩
  · have hlength := congrArg List.length h
    simp only [List.length_append] at hlength
    obtain rfl : kept = [] := List.eq_nil_of_length_eq_zero (by omega)
    exact ⟨rfl, List.append_cancel_left h⟩
  · rintro ⟨rfl, rfl⟩
    rfl

/-- **What is given is a part of what is wanted**, and all of it just where nothing was dropped. -/
theorem forwarded_iff (hk : Plain kept) (h : Plain line) (hlt : line.length < n) :
    ((results edit (Ended n) [] line cs).flatMap forwarded).length ≤
      ((results edit Over [] (kept ++ line) cs).flatMap forwarded).length ∧
    ((results edit (Ended n) [] line cs).flatMap forwarded =
        (results edit Over [] (kept ++ line) cs).flatMap forwarded ↔
      Undropped n kept.length line.length cs) := by
  induction cs generalizing kept line with
  | nil => exact ⟨Nat.le_refl _, iff_of_true rfl trivial⟩
  | cons c cs ih =>
      have hover := over_edit (c := c) (hk.append h)
      have hended := ended_edit (n := n) (c := c) h
      have hempty : ([] : List TCHAR).length < n := Nat.lt_of_le_of_lt (Nat.zero_le _) hlt
      rw [results, results, Undropped]
      by_cases hend : c = ETX ∨ c = CR
      · -- the line is over, and the next one starts with nothing dropped
        have hdel : c ≠ DEL := by
          rintro rfl
          exact absurd hend (by decide)
        obtain ⟨hle, hiff⟩ := @ih [] [] plain_nil plain_nil hempty
        rw [List.nil_append, List.length_nil] at hiff
        rw [List.nil_append] at hle
        rw [if_pos (hended.mpr (.inl hend)), if_pos (hover.mpr hend), List.flatMap_cons,
          List.flatMap_cons, edit_concat hdel, edit_concat hdel, forwarded_concat, forwarded_concat]
        by_cases hcr : c = CR
        · rw [if_pos hcr, if_pos hcr, if_pos hcr, ← hiff, List.length_eq_zero_iff,
            List.append_assoc kept, List.append_assoc kept]
          exact ended_iff hle
        · rw [if_neg hcr, if_neg hcr, if_neg hcr, if_pos (hend.resolve_right hcr)]
          exact ⟨hle, hiff⟩
      · obtain ⟨hetx, hcr⟩ := not_or.mp hend
        rw [if_neg (mt hover.mp hend), if_neg hcr, if_neg hetx]
        by_cases hdel : c = DEL
        · have hshort : ¬Ended n (edit line c) := by
            rw [hended, edit, if_pos hdel, List.length_dropLast]
            exact not_or.mpr ⟨hend, by omega⟩
          rw [if_neg hshort, if_pos hdel, edit, if_pos hdel, edit, if_pos hdel]
          by_cases hnil : line = []
          · -- there is nothing in the buffer to take back
            subst hnil
            have hrest := @ih kept.dropLast [] hk.dropLast plain_nil hlt
            rw [List.length_dropLast, List.append_nil] at hrest
            rw [if_pos List.length_nil, List.append_nil]
            exact hrest
          · rw [if_neg (mt List.eq_nil_of_length_eq_zero hnil),
              List.dropLast_append_of_ne_nil hnil, ← List.length_dropLast]
            exact ih hk h.dropLast (by rw [List.length_dropLast]; omega)
        · have hplain : Plain (line ++ [c]) := edit_concat hdel ▸ h.edit hend
          have hlength : (line ++ [c]).length = line.length + 1 := List.length_append
          rw [if_neg hdel, edit_concat hdel, edit_concat hdel, List.append_assoc]
          rw [edit_concat hdel, hlength] at hended
          by_cases hfull : n ≤ line.length + 1
          · -- the buffer is full, and dropped
            have hrest := @ih (kept ++ (line ++ [c])) [] (hk.append hplain) plain_nil hempty
            rw [List.length_append, hlength, List.append_nil] at hrest
            rw [if_pos (hended.mpr (.inr hfull)), if_pos hfull, List.flatMap_cons,
              forwarded_concat, if_neg hcr]
            exact hrest
          · have hrest := ih hk hplain (by omega)
            rw [hlength] at hrest
            rw [if_neg (mt hended.mp (not_or.mpr ⟨hend, hfull⟩)), if_neg hfull]
            exact hrest

theorem wanted_iff (hn : 0 < n) (cs : List TCHAR) :
    (results edit (Ended n) [] [] cs).flatMap forwarded = wanted cs ↔ Undropped n 0 0 cs :=
  (forwarded_iff plain_nil plain_nil hn).2

end Dropped

/-! ## What the child is given -/

/-- The reads of a terminal that is typed at. -/
def typing (cs : List TCHAR) : List ReadFile := (cs.map fun c => [c]).map .read

/-- What has been given when all that was typed has been read. -/
theorem ttyIn_typing {cs : List TCHAR} {calls : Nat} (hcalls : cs.length ≤ calls)
    (buffer : Nat → TCHAR) :
    (ttyIn calls buffer (typing cs) ⟨[], 0⟩).stdIn =
      (results edit (Ended (MAXIMUM_BUFFER_SIZE - 1)) [] [] cs).flatMap forwarded := by
  have hnot : ¬Ended (MAXIMUM_BUFFER_SIZE - 1) [] := not_ended_nil (by decide)
  have hwhole : Whole edit (Ended (MAXIMUM_BUFFER_SIZE - 1)) [] [] (cs.map fun c => [c]) :=
    whole_singletons [] [] cs
  have hresults := chunkResults_of_whole hnot hnot hwhole
  have hflat : (cs.map fun c => [c]).flatten = cs := by
    rw [← List.flatMap_def]
    exact List.flatMap_singleton' cs
  rw [hflat] at hresults
  rw [typing, ttyIn_chunks, List.nil_append, ← List.flatMap_map Prod.fst forwarded, List.map_take,
    hresults, List.take_of_length_le (Nat.le_trans (length_results_le cs) hcalls)]

/-- **The child is given each line that is ended with `^M`** just where nothing is dropped from
    them. -/
theorem delivered_iff {cs : List TCHAR} {calls : Nat} (hcalls : cs.length ≤ calls)
    (buffer : Nat → TCHAR) :
    (ttyIn calls buffer (typing cs) ⟨[], 0⟩).stdIn = wanted cs ↔
      Undropped (MAXIMUM_BUFFER_SIZE - 1) 0 0 cs := by
  rw [ttyIn_typing hcalls]
  exact wanted_iff (by decide) cs

/-- A line with a character taken back. -/
theorem delivered_iff_typed :
    (ttyIn 4 (fun _ => 0) (typing [0x61, 0x62, DEL, CR]) ⟨[], 0⟩).stdIn =
      wanted [0x61, 0x62, DEL, CR] ↔
      Undropped (MAXIMUM_BUFFER_SIZE - 1) 0 0 [0x61, 0x62, DEL, CR] :=
  delivered_iff (by decide) _

section Long

variable {n k b m : Nat} {c : TCHAR} {cs : List TCHAR}

/-- Characters that the buffer has room for. -/
theorem undropped_replicate (hc : c ≠ CR ∧ c ≠ ETX ∧ c ≠ DEL) (hm : b + m < n) :
    Undropped n k b (List.replicate m c ++ cs) ↔ Undropped n k (b + m) cs := by
  induction m generalizing b with
  | zero => exact Iff.rfl
  | succ m ih =>
      rw [List.replicate_succ, List.cons_append, Undropped, if_neg hc.1, if_neg hc.2.1,
        if_neg hc.2.2, if_neg (by omega), ih (by omega), Nat.add_right_comm, Nat.add_assoc]

/-- The last of them fills it, and the line ends. -/
theorem not_undropped_full (hc : c ≠ CR ∧ c ≠ ETX ∧ c ≠ DEL) (hn : 0 < n) :
    ¬Undropped n 0 0 (List.replicate n c ++ [CR]) := by
  obtain ⟨m, rfl⟩ := Nat.exists_eq_add_one.mpr hn
  rw [List.replicate_succ', List.append_assoc, undropped_replicate hc (by omega),
    List.singleton_append, Undropped, if_neg hc.1, if_neg hc.2.1, if_neg hc.2.2,
    if_pos (by omega), Undropped, if_pos rfl]
  exact fun h => absurd h.1 (by omega)

end Long

/-- **A line of 1023 characters is not handed on.** -/
theorem line_dropped :
    (ttyIn MAXIMUM_BUFFER_SIZE (fun _ => 0)
        (typing (List.replicate (MAXIMUM_BUFFER_SIZE - 1) 0x61 ++ [CR])) ⟨[], 0⟩).stdIn ≠
      wanted (List.replicate (MAXIMUM_BUFFER_SIZE - 1) 0x61 ++ [CR]) := by
  have hlength : (List.replicate (MAXIMUM_BUFFER_SIZE - 1) (0x61 : TCHAR) ++ [CR]).length ≤
      MAXIMUM_BUFFER_SIZE := by
    rw [List.length_append, List.length_replicate]
    exact Nat.le_refl _
  rw [Ne, ttyIn_typing hlength, wanted_iff (by decide)]
  exact not_undropped_full (by decide) (by decide)

end Xencons.Tty
