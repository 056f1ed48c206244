import Xencons.Lib.Chunks

/-!
# The line editor of the console's login (tty.c)

`GetLine` reads the pipe in pieces of up to 1024 characters, stores each character in the caller's
buffer and echoes it, takes the last one back for a DEL, and returns behind a `^C` or a `^M` or when
the buffer is full.

* `Locals`, `Locals.character` -- what it has, and the body of its inner loop; `getLine` -- the two
  loops, over what `ReadFile` returns;
* `edit`, `Ended` -- what a character makes of a line, and which lines are over;
* `Locals.line_typeIn` -- the buffer is edited like that; `typed` -- the characters that a call of
  `GetLine` comes to: `getLine_returns`, `getLine_typed`.

A pipe takes a message whole, so each `WriteFile` to it writes all that it is given.
-/

namespace Xencons.Tty

open Lib Function

/-! ## 1. The function -/

/-- A `TCHAR` has a sign: `0x00 <= c && c < 0x20` is not so from `0x80` on. -/
abbrev TCHAR := UInt8

def MAXIMUM_BUFFER_SIZE : Nat := 1024

/-- `^C` -/
def ETX : TCHAR := 0x03

/-- `^M` -/
def CR : TCHAR := 0x0D

def DEL : TCHAR := 0x7F

/-- `"\b \b"` -/
def eraseOne : List TCHAR := [0x08, 0x20, 0x08]

/-- `"\b\b  \b\b"` -/
def eraseTwo : List TCHAR := [0x08, 0x08, 0x20, 0x20, 0x08, 0x08]

/-- `"\r\n"` -/
def CRLF : List TCHAR := [0x0D, 0x0A]

/-- `iscntrl` -/
def iscntrl (c : TCHAR) : Bool := c < 0x20 || c = DEL

/-- The locals of `GetLine`, the caller's `Buffer` and what has been written to `Stream->Write`. -/
structure Locals where
  buffer : Nat → TCHAR
  offset : Nat
  written : List TCHAR

/-- What `ReadFile` comes to. -/
inductive ReadFile where
  | read (sequence : List TCHAR)
  | failed

namespace Locals

def putCharacter (l : Locals) (c : TCHAR) : Locals := { l with written := l.written ++ [c] }

/-- `ECHO` -/
def echo (l : Locals) (text : List TCHAR) : Locals := { l with written := l.written ++ text }

/-- The inner loop comes to a character; it is left with `^C` and `^M`. -/
def character (noEcho : Bool) (l : Locals) (c : TCHAR) : Locals × Bool :=
  let l := { l with buffer := update l.buffer l.offset c }
  if !iscntrl c then
    let l := if !noEcho then l.putCharacter c else l
    ({ l with offset := l.offset + 1 }, false)
  else if c = DEL ∧ l.offset ≠ 0 then
    let l := { l with offset := l.offset - 1 }
    if l.buffer l.offset < 0x20 then (l.echo eraseTwo, false)
    else if !noEcho then (l.echo eraseOne, false)
    else (l, false)
  else if c = ETX ∨ c = CR then ({ l with offset := l.offset + 1 }, true)
  else if c < 0x20 then
    let l := (l.echo [0x5E]).putCharacter (c + 0x40)
    ({ l with offset := l.offset + 1 }, false)
  else (l, false)

/-- The inner loop over `Sequence`, and what it has not come to when it is left. -/
def sequence (n : Nat) (noEcho : Bool) : List TCHAR → Locals → Locals × List TCHAR
  | [], l => (l, [])
  | c :: rest, l =>
    let (l, leave) := l.character noEcho c
    if leave then (l, rest)
    else if n ≤ l.offset then (l, rest)
    else sequence n noEcho rest l

end Locals

/-- What `GetLine` returns, and what it leaves behind. -/
structure Return where
  success : Bool
  /-- `NumberOfBytesRead` is the offset -/
  locals : Locals
  /-- what had been read into `Sequence`, and is gone with it -/
  left : List TCHAR
  /-- what `ReadFile` will return to the next call -/
  reads : List ReadFile

/-- The outer loop; it waits where there is nothing to read. -/
def getLineLoop (n : Nat) (noEcho : Bool) :
    List ReadFile → Locals → List TCHAR → Option Return
  | [], l, left => if l.offset < n then none else some ⟨true, l.echo CRLF, left, []⟩
  | r :: reads, l, left =>
    if l.offset < n then
      match r with
      | .failed => some ⟨false, l.echo CRLF, [], reads⟩
      | .read sequence =>
        let (l, left) := l.sequence n noEcho sequence
        if l.offset = 0 then getLineLoop n noEcho reads l left
        else if l.buffer (l.offset - 1) = ETX ∨ l.buffer (l.offset - 1) = CR then
          some ⟨true, l.echo CRLF, left, reads⟩
        else getLineLoop n noEcho reads l left
    else some ⟨true, l.echo CRLF, left, r :: reads⟩

/-- `GetLine`, with `NumberOfBytesToRead` -/
def getLine (n : Nat) (noEcho : Bool) (buffer : Nat → TCHAR) (reads : List ReadFile) :
    Option Return :=
  getLineLoop n noEcho reads ⟨buffer, 0, []⟩ []

/-! ## 2. Lines -/

/-- DEL takes the last character back, if there is one; any other character is put behind it. -/
def edit (line : List TCHAR) (c : TCHAR) : List TCHAR :=
  if c = DEL then line.dropLast else line ++ [c]

/-- The line has been ended, or fills the buffer. -/
def Ended (n : Nat) (line : List TCHAR) : Prop :=
  n ≤ line.length ∨ line.getLast? = some ETX ∨ line.getLast? = some CR

instance (n : Nat) : DecidablePred (Ended n) := fun _ => inferInstanceAs (Decidable (_ ∨ _))

/-- None of the characters that do something else than to be put behind the line is in it. -/
def Plain (line : List TCHAR) : Prop := ∀ c ∈ line, c ≠ ETX ∧ c ≠ CR ∧ c ≠ DEL

/-- What is echoed for a character behind `line`. -/
def echoed (noEcho : Bool) (line : List TCHAR) (c : TCHAR) : List TCHAR :=
  if !iscntrl c then if noEcho then [] else [c]
  else if c = DEL then
    match line.getLast? with
    | none => []
    | some d => if d < 0x20 then eraseTwo else if noEcho then [] else eraseOne
  else if c = ETX ∨ c = CR then []
  else [0x5E, c + 0x40]

/-- The characters that come, up to where `ReadFile` fails. -/
def arriving : List ReadFile → List TCHAR
  | .read sequence :: reads => sequence ++ arriving reads
  | _ => []

/-- The characters that `GetLine` comes to, where `line` is what it has: up to the one that the line
    is over with. -/
def typed (n : Nat) (line : List TCHAR) (reads : List ReadFile) : List TCHAR :=
  upTo edit (Ended n) line (arriving reads)

section Lines

variable {n : Nat} {line : List TCHAR} {c : TCHAR}

theorem not_ended_nil (hn : 0 < n) : ¬Ended n [] := by
  rintro (h | h | h)
  · exact Nat.not_le_of_lt hn h
  · cases h
  · cases h

theorem plain_nil : Plain [] := fun _ hm => absurd hm List.not_mem_nil

theorem Plain.dropLast (h : Plain line) : Plain line.dropLast :=
  fun c hm => h c (List.dropLast_subset _ hm)

theorem Plain.not_last (h : Plain line) :
    line.getLast? ≠ some ETX ∧ line.getLast? ≠ some CR :=
  ⟨fun e => (h _ (List.mem_of_getLast? e)).1 rfl, fun e => (h _ (List.mem_of_getLast? e)).2.1 rfl⟩

/-- A line is over with the character that ends it. -/
theorem ended_edit (h : Plain line) :
    Ended n (edit line c) ↔ (c = ETX ∨ c = CR) ∨ n ≤ (edit line c).length := by
  unfold Ended edit
  by_cases hdel : c = DEL
  · have hlast := h.dropLast.not_last
    rw [if_pos hdel, or_comm, or_congr_left]
    subst hdel
    exact iff_of_false (not_or.mpr hlast) (by decide)
  · rw [if_neg hdel, List.getLast?_concat, Option.some.injEq, Option.some.injEq, or_comm]

theorem Plain.edit (h : Plain line) (hc : ¬(c = ETX ∨ c = CR)) : Plain (edit line c) := by
  unfold Tty.edit
  split
  · exact h.dropLast
  · rename_i hdel
    intro d hm
    rcases List.mem_append.mp hm with hm | hm
    · exact h d hm
    · obtain rfl := List.mem_singleton.mp hm
      exact ⟨fun e => hc (.inl e), fun e => hc (.inr e), hdel⟩

/-- A line that goes on stays plain. -/
theorem plain_step (line : List TCHAR) (c : TCHAR) (h : Plain line)
    (hover : ¬Ended n (Tty.edit line c)) : Plain (Tty.edit line c) :=
  h.edit (not_or.mp (mt (ended_edit h).mpr hover)).1

end Lines

/-! ## 3. The buffer is edited like that -/

namespace Locals

/-- What is in the buffer up to the offset. -/
def line (l : Locals) : List TCHAR := (List.range l.offset).map l.buffer

/-- The turn of the inner loop for a character. -/
def typeIn (noEcho : Bool) (l : Locals) (c : TCHAR) : Locals := (l.character noEcho c).1

variable {n : Nat} {noEcho : Bool} {l : Locals} {c : TCHAR} {cs : List TCHAR}

@[simp] theorem length_line (l : Locals) : l.line.length = l.offset := by simp [line]

@[simp] theorem line_echo (l : Locals) (text : List TCHAR) : (l.echo text).line = l.line := rfl

theorem line_zero (h : l.offset = 0) : l.line = [] := List.eq_nil_of_length_eq_zero (by simp [h])

/-- The last character of the line is the one below the offset. -/
theorem getLast_line (h : l.offset ≠ 0) : l.line.getLast? = some (l.buffer (l.offset - 1)) := by
  obtain ⟨k, hk⟩ := Nat.exists_eq_succ_of_ne_zero h
  simp [line, hk, List.range_succ]

/-- What is stored at the offset shows only with the offset moved over it. -/
theorem line_store (buffer : Nat → TCHAR) (offset : Nat) (c : TCHAR) (written : List TCHAR) :
    line ⟨update buffer offset c, offset + 1, written⟩ = line ⟨buffer, offset, written⟩ ++ [c] := by
  have hbelow : (List.range offset).map (update buffer offset c) =
      (List.range offset).map buffer := by
    refine List.map_congr_left fun k hk => update_of_ne ?_ _ _
    exact Nat.ne_of_lt (List.mem_range.mp hk)
  simp only [line, List.range_succ, List.map_append, hbelow, List.map_singleton, update_self]

theorem line_drop (buffer : Nat → TCHAR) (offset : Nat) (c : TCHAR)
    (written written' : List TCHAR) :
    line ⟨update buffer offset c, offset - 1, written'⟩ =
      (line ⟨buffer, offset, written⟩).dropLast := by
  cases offset with
  | zero => rfl
  | succ k =>
      have hbelow : (List.range k).map (update buffer (k + 1) c) = (List.range k).map buffer := by
        refine List.map_congr_left fun j hj => update_of_ne ?_ _ _
        have hlt := List.mem_range.mp hj
        omega
      simp only [line, List.range_succ, List.map_append, Nat.add_sub_cancel, hbelow,
        List.map_singleton, List.dropLast_concat]

/-- **What the inner loop does with a character.** -/
theorem character_eq (noEcho : Bool) (l : Locals) (c : TCHAR) :
    l.character noEcho c =
      (⟨update l.buffer l.offset c, (edit l.line c).length, l.written ++ echoed noEcho l.line c⟩,
        decide (c = ETX ∨ c = CR)) := by
  unfold character edit echoed
  by_cases hcntrl : iscntrl c = true
  · by_cases hdel : c = DEL
    · subst hdel
      by_cases h0 : l.offset = 0
      · have hnone : l.line.getLast? = none := by rw [line_zero h0]; rfl
        have hplain : ¬(DEL = ETX ∨ DEL = CR) ∧ ¬DEL < 0x20 := by decide
        simp [hcntrl, h0, hnone, hplain.1, hplain.2]
      · have hbelow : update l.buffer l.offset DEL (l.offset - 1) = l.buffer (l.offset - 1) :=
          update_of_ne (by omega) _ _
        have hplain : ¬(DEL = ETX ∨ DEL = CR) := by decide
        by_cases hd : l.buffer (l.offset - 1) < 0x20
        · simp [hcntrl, h0, hbelow, getLast_line h0, hd, hplain, echo]
        · cases noEcho <;>
            simp [hcntrl, h0, hbelow, getLast_line h0, hd, hplain, echo]
    · by_cases hend : c = ETX ∨ c = CR
      · simp [hcntrl, hdel, hend]
      · have hlow : c < 0x20 := by
          simpa [iscntrl, hdel] using hcntrl
        simp [hcntrl, hdel, hend, hlow, echo, putCharacter]
  · have hdel : c ≠ DEL := by
      rintro rfl
      exact hcntrl rfl
    have hend : ¬(c = ETX ∨ c = CR) := by
      rintro (rfl | rfl) <;> exact hcntrl rfl
    cases noEcho <;> simp [hcntrl, hdel, hend, putCharacter]

theorem typeIn_eq (noEcho : Bool) (l : Locals) (c : TCHAR) :
    l.typeIn noEcho c = ⟨update l.buffer l.offset c, (edit l.line c).length,
      l.written ++ echoed noEcho l.line c⟩ := by
  rw [typeIn, character_eq]

/-- **A character edits the line.** -/
theorem line_typeIn (noEcho : Bool) (l : Locals) (c : TCHAR) :
    (l.typeIn noEcho c).line = edit l.line c := by
  rw [typeIn_eq]
  unfold edit
  split
  · rw [List.length_dropLast, length_line]
    exact line_drop l.buffer l.offset c l.written _
  · rw [List.length_append, length_line]
    exact line_store l.buffer l.offset c _

/-- So do many. -/
theorem line_typeAll (noEcho : Bool) (l : Locals) (cs : List TCHAR) :
    (cs.foldl (typeIn noEcho) l).line = cs.foldl edit l.line := by
  induction cs generalizing l with
  | nil => rfl
  | cons c cs ih => rw [List.foldl_cons, ih, line_typeIn, List.foldl_cons]

/-- The inner loop is left with the character that ends the line. -/
theorem ended_character (hp : Plain l.line) (noEcho : Bool) (c : TCHAR) :
    Ended n (edit l.line c) ↔
      (l.character noEcho c).2 = true ∨ n ≤ (l.character noEcho c).1.offset := by
  have hleave : (l.character noEcho c).2 = decide (c = ETX ∨ c = CR) := by rw [character_eq]
  have hline : (l.character noEcho c).1.line = edit l.line c := line_typeIn noEcho l c
  rw [ended_edit hp, hleave, decide_eq_true_iff, ← hline, length_line]

/-- **The inner loop** goes on up to where the line is over. -/
theorem sequence_eq (hp : Plain l.line) (cs : List TCHAR) :
    l.sequence n noEcho cs =
      ((upTo edit (Ended n) l.line cs).foldl (typeIn noEcho) l,
        cs.drop (upTo edit (Ended n) l.line cs).length) := by
  induction cs generalizing l with
  | nil => rfl
  | cons c cs ih =>
      have hline : (l.character noEcho c).1.line = edit l.line c := line_typeIn noEcho l c
      unfold sequence
      dsimp only
      by_cases hover : Ended n (edit l.line c)
      · have hstop : upTo edit (Ended n) l.line (c :: cs) = [c] := if_pos hover
        rw [hstop]
        rcases (ended_character hp noEcho c).mp hover with hc | hn
        · rw [if_pos hc]
          rfl
        · rw [if_pos hn, ite_self]
          rfl
      · obtain ⟨hc, hn⟩ := not_or.mp (mt (ended_character hp noEcho c).mpr hover)
        have hplain : Plain (l.character noEcho c).1.line :=
          hline ▸ hp.edit (not_or.mp (mt (ended_edit hp).mpr hover)).1
        rw [upTo_cons hover, if_neg hc, if_neg hn, ih hplain, hline]
        rfl

theorem ended_line : Ended n l.line ↔
    n ≤ l.offset ∨ l.offset ≠ 0 ∧
      (l.buffer (l.offset - 1) = ETX ∨ l.buffer (l.offset - 1) = CR) := by
  unfold Ended
  rw [length_line]
  by_cases h0 : l.offset = 0
  · simp [line_zero h0, h0]
  · simp [getLast_line h0, h0]

end Locals

/-! ## 4. The outer loop -/

section Outer

open Locals

variable {n : Nat} {noEcho : Bool} {l : Locals} {left : List TCHAR} {reads : List ReadFile}
  {sequence : List TCHAR}

theorem getLineLoop_nil (h : ¬Ended n l.line) : getLineLoop n noEcho [] l left = none := by
  have hlt : l.offset < n := Nat.lt_of_not_le fun hle => h (ended_line.mpr (.inl hle))
  exact if_pos hlt

theorem getLineLoop_failed (h : ¬Ended n l.line) :
    getLineLoop n noEcho (.failed :: reads) l left = some ⟨false, l.echo CRLF, [], reads⟩ := by
  have hlt : l.offset < n := Nat.lt_of_not_le fun hle => h (ended_line.mpr (.inl hle))
  exact if_pos hlt

/-- A full buffer. -/
theorem getLineLoop_full (h : n ≤ l.offset) (reads : List ReadFile) :
    getLineLoop n noEcho reads l left = some ⟨true, l.echo CRLF, left, reads⟩ := by
  cases reads with
  | nil => exact if_neg (Nat.not_lt.mpr h)
  | cons r reads => exact if_neg (Nat.not_lt.mpr h)

/-- **A turn of the outer loop.** -/
theorem getLineLoop_read (h : ¬Ended n l.line) (hp : Plain l.line) :
    getLineLoop n noEcho (.read sequence :: reads) l left =
      let taken := upTo edit (Ended n) l.line sequence
      let l' := taken.foldl (typeIn noEcho) l
      if Ended n l'.line then some ⟨true, l'.echo CRLF, sequence.drop taken.length, reads⟩
      else getLineLoop n noEcho reads l' [] := by
  have hlt : l.offset < n := Nat.lt_of_not_le fun hle => h (ended_line.mpr (.inl hle))
  have hline := line_typeAll noEcho l (upTo edit (Ended n) l.line sequence)
  rw [getLineLoop, if_pos hlt]
  dsimp only
  rw [sequence_eq hp]
  dsimp only
  by_cases hover : Ended n ((upTo edit (Ended n) l.line sequence).foldl (typeIn noEcho) l).line
  · rw [if_pos hover]
    rcases ended_line.mp hover with hfull | ⟨h0, hlast⟩
    · rw [getLineLoop_full hfull, if_neg (by omega), ite_self]
    · rw [if_neg h0, if_pos hlast]
  · have hnot := not_or.mp (mt ended_line.mpr hover)
    have htaken : upTo edit (Ended n) l.line sequence = sequence := by
      rw [hline] at hover
      exact upTo_of_not_over hover
    rw [if_neg hover, htaken, List.drop_length]
    rw [htaken] at hnot
    by_cases h0 : (sequence.foldl (typeIn noEcho) l).offset = 0
    · rw [if_pos h0]
    · rw [if_neg h0, if_neg fun hlast => hnot.2 ⟨h0, hlast⟩]

theorem plain_after {line : List TCHAR} (hp : Plain line) {cs : List TCHAR}
    (h : ¬Ended n (after edit (Ended n) line cs)) : Plain (after edit (Ended n) line cs) :=
  after_invariant plain_step hp h

/-- **What `GetLine` returns.** -/
theorem getLineLoop_typed (h : ¬Ended n l.line) (hp : Plain l.line) {r : Return}
    (hr : getLineLoop n noEcho reads l left = some r) :
    r.locals = ((typed n l.line reads).foldl (typeIn noEcho) l).echo CRLF ∧
      (r.success = true ↔ Ended n r.locals.line) := by
  induction reads generalizing l left with
  | nil => cases (getLineLoop_nil h).symm.trans hr
  | cons read reads ih =>
      cases read with
      | failed =>
          obtain rfl := Option.some.inj ((getLineLoop_failed h).symm.trans hr)
          exact ⟨rfl, iff_of_false nofun h⟩
      | read sequence =>
          rw [getLineLoop_read h hp] at hr
          dsimp only at hr
          have hline : ((upTo edit (Ended n) l.line sequence).foldl (typeIn noEcho) l).line =
              after edit (Ended n) l.line sequence := line_typeAll noEcho l _
          rw [typed, arriving, upTo_append h, List.foldl_append]
          by_cases hover : Ended n (after edit (Ended n) l.line sequence)
          · rw [if_pos (hline ▸ hover)] at hr
            obtain rfl := Option.some.inj hr
            rw [if_pos hover]
            exact ⟨rfl, iff_of_true rfl (hline ▸ hover)⟩
          · rw [if_neg (hline ▸ hover)] at hr
            rw [if_neg hover, ← hline]
            exact ih (hline ▸ hover) (hline ▸ plain_after hp hover) hr

/-- **When `GetLine` returns**: the line is over with what comes, or a `ReadFile` fails. -/
theorem getLineLoop_returns (h : ¬Ended n l.line) (hp : Plain l.line) :
    (∃ r, getLineLoop n noEcho reads l left = some r) ↔
      Ended n (after edit (Ended n) l.line (arriving reads)) ∨ ReadFile.failed ∈ reads := by
  induction reads generalizing l left with
  | nil =>
      refine iff_of_false ?_ ?_
      · rintro ⟨r, hr⟩
        cases (getLineLoop_nil h).symm.trans hr
      · rintro (hover | hmem)
        · exact h hover
        · cases hmem
  | cons read reads ih =>
      cases read with
      | failed => exact iff_of_true ⟨_, getLineLoop_failed h⟩ (.inr List.mem_cons_self)
      | read sequence =>
          have hline : ((upTo edit (Ended n) l.line sequence).foldl (typeIn noEcho) l).line =
              after edit (Ended n) l.line sequence := line_typeAll noEcho l _
          rw [getLineLoop_read h hp, arriving]
          dsimp only
          by_cases hover : Ended n (after edit (Ended n) l.line sequence)
          · rw [if_pos (hline ▸ hover), after_append_over h hover]
            exact iff_of_true ⟨_, rfl⟩ (.inl hover)
          · rw [if_neg (hline ▸ hover), after_append h hover,
              ih (hline ▸ hover) (hline ▸ plain_after hp hover), hline, List.mem_cons]
            refine or_congr_right (or_iff_right ?_).symm
            exact nofun

end Outer

/-- **When a call of `GetLine` returns.** -/
theorem getLine_returns {n : Nat} (noEcho : Bool) (buffer : Nat → TCHAR) (reads : List ReadFile)
    (hn : 0 < n) : (∃ r, getLine n noEcho buffer reads = some r) ↔
      Ended n (after edit (Ended n) [] (arriving reads)) ∨ ReadFile.failed ∈ reads :=
  getLineLoop_returns (l := ⟨buffer, 0, []⟩) (not_ended_nil hn) plain_nil

/-- **What a call of `GetLine` returns**: its buffer and its output are those of the characters it
    has come to, and a line end; it succeeds where the line is over. -/
theorem getLine_typed {n : Nat} {noEcho : Bool} {buffer : Nat → TCHAR} {reads : List ReadFile}
    {r : Return} (hn : 0 < n) (hr : getLine n noEcho buffer reads = some r) :
    r.locals =
      ((typed n [] reads).foldl (Locals.typeIn noEcho) ⟨buffer, 0, []⟩).echo CRLF ∧
      (r.success = true ↔ Ended n r.locals.line) :=
  getLineLoop_typed (l := ⟨buffer, 0, []⟩) (not_ended_nil hn) plain_nil hr

end Xencons.Tty
