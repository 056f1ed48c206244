import Xencons.Tty.GetLine
import Mathlib.Data.List.GetD

/-!
# What the user sees is what is stored (tty.c)

The echo of a character and the buffer are updated apart: a control character takes two columns and
any other one column, and what is left at the offset says with which of two sequences it is erased.

* `Terminal`, `Terminal.put` -- a row of a terminal of unbounded width; `render` -- what a line
  looks like;
* `Terminal.puts_echoed` -- the echo of a character brings the row from the line to the edited one;
* `getLineStates` -- `GetLine`'s locals behind each character: `getLineStates_eq`,
  `getLine_last_state`;
* **`seen_is_stored`** -- at each of them the row shows the line, and what is returned is what the
  line editor makes of the characters.
-/

namespace Xencons.Tty

open Lib

/-! ## 1. The row -/

/-- A row, blank where nothing has been written. -/
structure Terminal where
  cells : Nat → TCHAR
  column : Nat

namespace Terminal

/-- A backspace moves the cursor, a character that can be seen is written under it. -/
def put (t : Terminal) (c : TCHAR) : Terminal :=
  if c = 0x08 then { t with column := t.column - 1 }
  else if c = CR then { t with column := 0 }
  else if c < 0x20 then t
  else { cells := Function.update t.cells t.column c, column := t.column + 1 }

def puts (t : Terminal) (text : List TCHAR) : Terminal := text.foldl put t

/-- The text from the first column on, nothing else, and the cursor behind it. -/
def showing (text : List TCHAR) : Terminal := ⟨fun k => text.getD k 0x20, text.length⟩

end Terminal

/-- What a character of a line looks like. -/
def glyphs (c : TCHAR) : List TCHAR :=
  if c = ETX ∨ c = CR ∨ c = DEL then [] else if c < 0x20 then [0x5E, c + 0x40] else [c]

def render (line : List TCHAR) : List TCHAR := line.flatMap glyphs

namespace Terminal

variable {text : List TCHAR} {c : TCHAR}

@[simp] theorem puts_nil (t : Terminal) : t.puts [] = t := rfl

theorem puts_append (t : Terminal) (text text' : List TCHAR) :
    t.puts (text ++ text') = (t.puts text).puts text' := List.foldl_append

/-- What is written under the cursor is put behind the text. -/
theorem put_showing (text : List TCHAR) (hc : ¬c < 0x20) :
    (showing text).put c = showing (text ++ [c]) := by
  have hback : c ≠ 0x08 ∧ c ≠ CR := by
    constructor <;> (rintro rfl; exact hc (by decide))
  unfold put showing
  rw [if_neg hback.1, if_neg hback.2, if_neg hc, List.length_append]
  congr 1
  funext k
  dsimp only
  rcases Nat.lt_trichotomy k text.length with hk | rfl | hk
  · rw [Function.update_of_ne (Nat.ne_of_lt hk), List.getD_append _ _ _ _ hk]
  · rw [Function.update_self, List.getD_append_right _ _ _ _ (Nat.le_refl _), Nat.sub_self]
    rfl
  · rw [Function.update_of_ne (Nat.ne_of_gt hk), List.getD_eq_default _ _ (Nat.le_of_lt hk),
      List.getD_eq_default]
    rw [List.length_append]
    exact hk

/-- A blank in the place of the last character. -/
theorem blanked (text : List TCHAR) (c : TCHAR) :
    Function.update (showing (text ++ [c])).cells text.length 0x20 = (showing text).cells := by
  funext k
  unfold showing
  dsimp only
  rcases Nat.lt_trichotomy k text.length with hk | rfl | hk
  · rw [Function.update_of_ne (Nat.ne_of_lt hk), List.getD_append _ _ _ _ hk]
  · rw [Function.update_self, List.getD_eq_default _ _ (Nat.le_refl _)]
  · have hbehind : (text ++ [c]).length ≤ k := by
      rw [List.length_append]
      exact hk
    rw [Function.update_of_ne (Nat.ne_of_gt hk), List.getD_eq_default _ _ hbehind,
      List.getD_eq_default _ _ (Nat.le_of_lt hk)]

theorem put_backspace (t : Terminal) : t.put 0x08 = ⟨t.cells, t.column - 1⟩ := rfl

theorem put_blank (t : Terminal) :
    t.put 0x20 = ⟨Function.update t.cells t.column 0x20, t.column + 1⟩ := rfl

/-- **One column is erased.** -/
theorem puts_eraseOne (text : List TCHAR) (c : TCHAR) :
    (showing (text ++ [c])).puts eraseOne = showing text := by
  have hcolumn : (showing (text ++ [c])).column - 1 = text.length := by
    simp [showing]
  simp only [puts, eraseOne, List.foldl_cons, List.foldl_nil, put_backspace, put_blank, hcolumn,
    blanked, Nat.add_sub_cancel]
  rfl

/-- **Two columns are erased.** -/
theorem puts_eraseTwo (text : List TCHAR) (c d : TCHAR) :
    (showing (text ++ [c, d])).puts eraseTwo = showing text := by
  have hsplit : text ++ [c, d] = (text ++ [c]) ++ [d] := by simp
  have hcolumn : (showing (text ++ [c, d])).column - 1 - 1 = text.length := by
    simp [showing]
  have hcells : Function.update (Function.update (showing (text ++ [c, d])).cells text.length 0x20)
      (text.length + 1) 0x20 = (showing text).cells := by
    have hlast := blanked (text ++ [c]) d
    rw [List.length_append, List.length_singleton] at hlast
    rw [Function.update_comm (Nat.ne_of_lt (Nat.lt_succ_self _)), hsplit, hlast, blanked]
  simp only [puts, eraseTwo, List.foldl_cons, List.foldl_nil, put_backspace, put_blank, hcolumn,
    hcells, Nat.add_sub_cancel]
  rfl

end Terminal

/-! ## 2. The echo of a character -/

section Echoed

variable {line : List TCHAR} {c : TCHAR}

theorem render_concat (line : List TCHAR) (c : TCHAR) :
    render (line ++ [c]) = render line ++ glyphs c := by
  rw [render, List.flatMap_append, List.flatMap_singleton]
  rfl

/-- The letter behind a `^` can be seen. -/
theorem not_low_letter (hc : c < 0x20) : ¬c + 0x40 < 0x20 := by
  rw [UInt8.lt_iff_toNat_lt] at hc ⊢
  rw [UInt8.toNat_add]
  have h20 : (0x20 : TCHAR).toNat = 32 := rfl
  have h40 : (0x40 : TCHAR).toNat = 64 := rfl
  omega

/-- **The echo of a character brings the row from the line to the edited one.** -/
theorem puts_echoed (hp : Plain line) (prompt : List TCHAR) (c : TCHAR) :
    (Terminal.showing (prompt ++ render line)).puts (echoed false line c) =
      Terminal.showing (prompt ++ render (edit line c)) := by
  unfold echoed edit
  by_cases hdel : c = DEL
  · subst hdel
    rw [if_neg (by decide), if_pos rfl, if_pos rfl]
    rcases line.eq_nil_or_concat with rfl | ⟨line, d, rfl⟩
    · rfl
    · rw [List.concat_eq_append] at hp ⊢
      obtain ⟨hetx, hcr, hdel⟩ := hp d (by simp)
      rw [List.getLast?_concat, List.dropLast_concat, render_concat, ← List.append_assoc, glyphs,
        if_neg (not_or.mpr ⟨hetx, not_or.mpr ⟨hcr, hdel⟩⟩)]
      dsimp only
      by_cases hd : d < 0x20
      · rw [if_pos hd, if_pos hd, Terminal.puts_eraseTwo]
      · rw [if_neg hd, if_neg hd, if_neg Bool.false_ne_true, Terminal.puts_eraseOne]
  · rw [if_neg hdel, if_neg hdel, render_concat, ← List.append_assoc, glyphs]
    by_cases hend : c = ETX ∨ c = CR
    · have hcntrl : iscntrl c = true := by rcases hend with rfl | rfl <;> rfl
      rw [hcntrl, if_neg Bool.false_ne_true, if_pos hend, if_pos (hend.imp_right .inl),
        List.append_nil]
      rfl
    · rw [if_neg hend, if_neg (fun h => (or_assoc.mpr h).elim hend hdel)]
      by_cases hc : c < 0x20
      · have hcntrl : iscntrl c = true := by simp [iscntrl, hc]
        rw [hcntrl, if_neg Bool.false_ne_true, if_pos hc]
        show ((Terminal.showing _).put 0x5E).put (c + 0x40) = _
        rw [Terminal.put_showing _ (by decide), Terminal.put_showing _ (not_low_letter hc),
          List.append_assoc (prompt ++ render line)]
        rfl
      · have hcntrl : iscntrl c = false := by simp [iscntrl, hc, hdel]
        rw [hcntrl, if_neg hc]
        exact Terminal.put_showing _ hc

end Echoed

/-! ## 3. Behind each character -/

/-- The inner loop, and the locals behind each of its turns. -/
def Locals.sequenceStates (n : Nat) (noEcho : Bool) : List TCHAR → Locals → List Locals
  | [], _ => []
  | c :: rest, l =>
    let (l, leave) := l.character noEcho c
    l :: if leave then [] else if n ≤ l.offset then [] else sequenceStates n noEcho rest l

/-- The outer loop, likewise. -/
def getLineStates (n : Nat) (noEcho : Bool) : List ReadFile → Locals → List Locals
  | [], _ => []
  | r :: reads, l =>
    if l.offset < n then
      match r with
      | .failed => []
      | .read sequence =>
        let states := l.sequenceStates n noEcho sequence
        let l := (l.sequence n noEcho sequence).1
        states ++
          if l.offset = 0 then getLineStates n noEcho reads l
          else if l.buffer (l.offset - 1) = ETX ∨ l.buffer (l.offset - 1) = CR then []
          else getLineStates n noEcho reads l
    else []

/-- The locals behind each of the characters. -/
def turns (noEcho : Bool) : Locals → List TCHAR → List Locals
  | _, [] => []
  | l, c :: cs => l.typeIn noEcho c :: turns noEcho (l.typeIn noEcho c) cs

section States

open Locals

variable {n : Nat} {noEcho : Bool} {l : Locals} {reads : List ReadFile}

theorem turns_append (l : Locals) (cs cs' : List TCHAR) :
    turns noEcho l (cs ++ cs') =
      turns noEcho l cs ++ turns noEcho (cs.foldl (typeIn noEcho) l) cs' := by
  induction cs generalizing l with
  | nil => rfl
  | cons c cs ih => rw [List.cons_append, turns, turns, ih, List.foldl_cons, List.cons_append]

theorem getLast_turns (l : Locals) (cs : List TCHAR) :
    (turns noEcho l cs).getLastD l = cs.foldl (typeIn noEcho) l := by
  induction cs generalizing l with
  | nil => rfl
  | cons c cs ih => rw [turns, List.getLastD_cons, ih, List.foldl_cons]

theorem length_turns (l : Locals) (cs : List TCHAR) : (turns noEcho l cs).length = cs.length := by
  induction cs generalizing l with
  | nil => rfl
  | cons c cs ih => rw [turns, List.length_cons, ih, List.length_cons]

theorem getElem_turns (l : Locals) (cs : List TCHAR) {k : Nat} {l' : Locals}
    (h : (turns noEcho l cs)[k]? = some l') :
    l' = (cs.take (k + 1)).foldl (typeIn noEcho) l := by
  induction cs generalizing l k with
  | nil => cases h
  | cons c cs ih =>
      rw [turns] at h
      cases k with
      | zero => exact (Option.some.inj h).symm
      | succ k => exact ih _ h

theorem sequenceStates_eq (hp : Plain l.line) (cs : List TCHAR) :
    l.sequenceStates n noEcho cs = turns noEcho l (upTo edit (Ended n) l.line cs) := by
  induction cs generalizing l with
  | nil => rfl
  | cons c cs ih =>
      have hline : (l.character noEcho c).1.line = edit l.line c := line_typeIn noEcho l c
      unfold sequenceStates
      dsimp only
      by_cases hover : Ended n (edit l.line c)
      · have hstop : upTo edit (Ended n) l.line (c :: cs) = [c] := if_pos hover
        rw [hstop]
        rcases (ended_character hp noEcho c).mp hover with hc | hn
        · rw [if_pos hc]
          rfl
        · rw [if_pos hn, ite_self]
          rfl
      · obtain ⟨hc, hn⟩ := not_or.mp (mt (ended_character hp noEcho c).mpr hover)
        have hplain : Plain (l.character noEcho c).1.line :=
          hline ▸ hp.edit (not_or.mp (mt (ended_edit hp).mpr hover)).1
        rw [upTo_cons hover, if_neg hc, if_neg hn, ih hplain, hline]
        rfl

theorem getLineStates_full (h : n ≤ l.offset) (reads : List ReadFile) :
    getLineStates n noEcho reads l = [] := by
  cases reads with
  | nil => rfl
  | cons read reads => exact if_neg (Nat.not_lt.mpr h)

/-- **The locals behind each character** that `GetLine` comes to. -/
theorem getLineStates_eq (h : ¬Ended n l.line) (hp : Plain l.line) :
    getLineStates n noEcho reads l = turns noEcho l (typed n l.line reads) := by
  induction reads generalizing l with
  | nil => rfl
  | cons read reads ih =>
      have hlt : l.offset < n := Nat.lt_of_not_le fun hle => h (ended_line.mpr (.inl hle))
      cases read with
      | failed => exact if_pos hlt
      | read sequence =>
          have hline : ((upTo edit (Ended n) l.line sequence).foldl (typeIn noEcho) l).line =
              after edit (Ended n) l.line sequence := line_typeAll noEcho l _
          rw [getLineStates, if_pos hlt]
          dsimp only
          rw [sequenceStates_eq hp, sequence_eq hp, typed, arriving, upTo_append h, turns_append]
          congr 1
          dsimp only
          by_cases hover : Ended n (after edit (Ended n) l.line sequence)
          · rw [if_pos hover, turns]
            rcases ended_line.mp (hline ▸ hover) with hfull | ⟨h0, hlast⟩
            · rw [getLineStates_full hfull, ite_self, ite_self]
            · rw [if_neg h0, if_pos hlast]
          · have hnot := not_or.mp (mt ended_line.mpr (hline ▸ hover))
            have hgoes := ih (hline ▸ hover) (hline ▸ plain_after hp hover)
            rw [if_neg hover, ← hline, ← typed, ← hgoes]
            by_cases h0 : ((upTo edit (Ended n) l.line sequence).foldl (typeIn noEcho) l).offset = 0
            · rw [if_pos h0]
            · rw [if_neg h0, if_neg fun hlast => hnot.2 ⟨h0, hlast⟩]

/-- `GetLine` returns what it has behind the last of them, and a line end. -/
theorem getLine_last_state (hn : 0 < n) {buffer : Nat → TCHAR} {r : Return}
    (hr : getLine n noEcho buffer reads = some r) :
    r.locals =
      ((getLineStates n noEcho reads ⟨buffer, 0, []⟩).getLastD ⟨buffer, 0, []⟩).echo CRLF := by
  rw [(getLine_typed hn hr).1, getLineStates_eq (l := ⟨buffer, 0, []⟩) (not_ended_nil hn) plain_nil,
    getLast_turns]
  rfl

/-- The row shows the line behind each character up to the end of the line. -/
theorem turns_shown {prompt : List TCHAR} (hp : Plain l.line)
    (hseen : (Terminal.showing prompt).puts l.written = .showing (prompt ++ render l.line))
    (cs : List TCHAR) :
    ∀ l' ∈ turns false l (upTo edit (Ended n) l.line cs),
      (Terminal.showing prompt).puts l'.written = .showing (prompt ++ render l'.line) := by
  induction cs generalizing l with
  | nil => exact nofun
  | cons c cs ih =>
      have hnext : (Terminal.showing prompt).puts (l.typeIn false c).written =
          .showing (prompt ++ render (l.typeIn false c).line) := by
        rw [line_typeIn, typeIn_eq, Terminal.puts_append, hseen, puts_echoed hp]
      by_cases hover : Ended n (edit l.line c)
      · have hstop : upTo edit (Ended n) l.line (c :: cs) = [c] := if_pos hover
        rw [hstop]
        exact List.forall_mem_singleton.mpr hnext
      · rw [upTo_cons hover, turns, List.forall_mem_cons, ← line_typeIn false l c]
        rw [← line_typeIn false l c] at hover
        refine ⟨hnext, ih ?_ hnext⟩
        rw [line_typeIn] at hover ⊢
        exact plain_step l.line c hp hover

end States

/-- **What the user sees is what is stored.** Behind each character up to the one that the line is
    over with, the line is that of the line editor, the row shows it behind the prompt, and the
    cursor is at its end. `GetLine` returns when the line is over, or a `ReadFile` fails; it returns
    what it has behind the last character, and that is the line editor's line. -/
theorem seen_is_stored {n : Nat} (hn : 0 < n) (prompt : List TCHAR) (buffer : Nat → TCHAR)
    (reads : List ReadFile) :
    (getLineStates n false reads ⟨buffer, 0, []⟩).length = (typed n [] reads).length ∧
    (∀ (k : Nat) (l : Locals), (getLineStates n false reads ⟨buffer, 0, []⟩)[k]? = some l →
      l.line = ((typed n [] reads).take (k + 1)).foldl edit [] ∧
      (Terminal.showing prompt).puts l.written = .showing (prompt ++ render l.line)) ∧
    ((∃ r, getLine n false buffer reads = some r) ↔
      Ended n (after edit (Ended n) [] (arriving reads)) ∨ ReadFile.failed ∈ reads) ∧
    ∀ r, getLine n false buffer reads = some r →
      r.locals = ((getLineStates n false reads ⟨buffer, 0, []⟩).getLastD ⟨buffer, 0, []⟩).echo
        CRLF ∧
      r.locals.line = after edit (Ended n) [] (arriving reads) ∧
      (r.success = true ↔ Ended n r.locals.line) := by
  have hstates : getLineStates n false reads ⟨buffer, 0, []⟩ =
      turns false ⟨buffer, 0, []⟩ (typed n [] reads) :=
    getLineStates_eq (l := ⟨buffer, 0, []⟩) (not_ended_nil hn) plain_nil
  have hprompt : (Terminal.showing prompt).puts [] = .showing (prompt ++ render []) := by
    show Terminal.showing prompt = .showing (prompt ++ [])
    rw [List.append_nil]
  refine ⟨?_, ?_, getLine_returns false buffer reads hn, ?_⟩
  · rw [hstates, length_turns]
  · intro k l hl
    rw [hstates] at hl
    refine ⟨?_, turns_shown (l := ⟨buffer, 0, []⟩) plain_nil hprompt _ l (List.mem_of_getElem? hl)⟩
    rw [getElem_turns _ _ hl, Locals.line_typeAll]
    rfl
  · intro r hr
    have hline := Locals.line_typeAll false ⟨buffer, 0, []⟩ (typed n [] reads)
    obtain ⟨hl, hs⟩ := getLine_typed hn hr
    refine ⟨getLine_last_state hn hr, ?_, hs⟩
    rw [hl, Locals.line_echo, hline]
    rfl

/-- A control character typed and taken back, with `TtyIn`'s buffer. -/
theorem seen_is_stored_erased : ∃ r,
    getLine 1023 false (fun _ => 0) [.read [0x61], .read [0x01], .read [DEL], .read [CR]] =
      some r ∧
    r.success = true ∧ r.locals.line = [0x61, CR] ∧
    (getLineStates 1023 false [.read [0x61], .read [0x01], .read [DEL], .read [CR]]
        ⟨fun _ => 0, 0, []⟩).map (fun l => (l.line, l.written)) =
      [([0x61], [0x61]), ([0x61, 0x01], [0x61, 0x5E, 0x41]),
        ([0x61], [0x61, 0x5E, 0x41] ++ eraseTwo),
        ([0x61, CR], [0x61, 0x5E, 0x41] ++ eraseTwo)] ∧
    ∀ (k : Nat) (l : Locals), (getLineStates 1023 false
        [.read [0x61], .read [0x01], .read [DEL], .read [CR]] ⟨fun _ => 0, 0, []⟩)[k]? = some l →
      (Terminal.showing [0x3E]).puts l.written = .showing ([0x3E] ++ render l.line) := by
  obtain ⟨-, hshown, hreturns, hret⟩ := seen_is_stored (n := 1023) (by decide) [0x3E]
    (fun _ => 0) [.read [0x61], .read [0x01], .read [DEL], .read [CR]]
  have hover : after edit (Ended 1023) []
      (arriving [.read [0x61], .read [0x01], .read [DEL], .read [CR]]) = [0x61, CR] := by
    decide +kernel
  obtain ⟨r, hr⟩ := hreturns.mpr (.inl (by rw [hover]; decide))
  obtain ⟨-, hline, hs⟩ := hret r hr
  rw [hover] at hline
  refine ⟨r, hr, hs.mpr (by rw [hline]; decide), hline, by decide +kernel, ?_⟩
  intro k l hl
  exact (hshown k l hl).2

end Xencons.Tty
