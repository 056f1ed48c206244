import Xencons.Tty.GetLine

/-!
# What the password prompt echoes (tty.c)

`NoEcho` is asked ahead of the echo of a printable character and of the one that takes a printable
character back. It is not asked where a control character is echoed as `^` and a letter, nor where
that is taken back.

* `echoes` -- what is echoed for characters typed one after the other: `written_typeAll`;
* `Noisy` -- the characters that are echoed in spite of `NoEcho`: `echoes_noEcho_eq_nil_iff`;
* **`password_silent_iff`** -- two passwords look the same, with nothing but the end of the line
  written, just where none of these is typed; `password_shows`.
-/

namespace Xencons.Tty

open Lib Locals

/-- What is echoed for characters behind `line`. -/
def echoes (noEcho : Bool) : List TCHAR → List TCHAR → List TCHAR
  | _, [] => []
  | line, c :: cs => echoed noEcho line c ++ echoes noEcho (edit line c) cs

/-- A control character that does not end the line. -/
def Noisy (c : TCHAR) : Prop := c < 0x20 ∧ c ≠ ETX ∧ c ≠ CR

instance : DecidablePred Noisy := fun _ => inferInstanceAs (Decidable (_ ∧ _))

/-- What has been written grows by the echo alone. -/
theorem written_typeAll (noEcho : Bool) (l : Locals) (cs : List TCHAR) :
    (cs.foldl (typeIn noEcho) l).written = l.written ++ echoes noEcho l.line cs := by
  induction cs generalizing l with
  | nil => exact (List.append_nil _).symm
  | cons c cs ih =>
      rw [List.foldl_cons, ih, line_typeIn, typeIn_eq, echoes, List.append_assoc]

section Silent

variable {n : Nat} {line : List TCHAR} {c : TCHAR}

theorem not_low_edit (hlow : ∀ d ∈ line, ¬d < 0x20) (hc : ¬c < 0x20) :
    ∀ d ∈ edit line c, ¬d < 0x20 := by
  unfold edit
  split
  · exact fun d hm => hlow d (List.dropLast_subset _ hm)
  · intro d hm
    rcases List.mem_append.mp hm with hm | hm
    · exact hlow d hm
    · rwa [List.mem_singleton.mp hm]

/-- Behind a line without control characters, a character is echoed just where it is `Noisy`. -/
theorem echoed_noEcho_eq_nil_iff (hlow : ∀ d ∈ line, ¬d < 0x20) :
    echoed true line c = [] ↔ ¬Noisy c := by
  unfold echoed Noisy
  by_cases hcntrl : iscntrl c = true
  · by_cases hdel : c = DEL
    · subst hdel
      have hnot : ¬(DEL < 0x20 ∧ DEL ≠ ETX ∧ DEL ≠ CR) := by decide
      cases hlast : line.getLast? with
      | none => simp [hcntrl, hnot]
      | some d =>
          have hd : ¬d < 0x20 := hlow d (List.mem_of_getLast? hlast)
          simp [hcntrl, hnot, hd]
    · have hc : c < 0x20 := by simpa [iscntrl, hdel] using hcntrl
      by_cases hend : c = ETX ∨ c = CR
      · have hnot : ¬(c ≠ ETX ∧ c ≠ CR) := fun h => hend.elim h.1 h.2
        simp [hcntrl, hdel, hend, hnot]
      · simp [hcntrl, hdel, hc, not_or.mp hend]
  · have hc : ¬c < 0x20 := fun hc => hcntrl (by simp [iscntrl, hc])
    simp [hcntrl, hc]

/-- **Nothing is echoed** just where nothing `Noisy` is typed. -/
theorem echoes_noEcho_eq_nil_iff (hp : Plain line) (hlow : ∀ d ∈ line, ¬d < 0x20)
    (cs : List TCHAR) :
    echoes true line (upTo edit (Ended n) line cs) = [] ↔
      ∀ c ∈ upTo edit (Ended n) line cs, ¬Noisy c := by
  induction cs generalizing line with
  | nil => exact iff_of_true rfl nofun
  | cons c cs ih =>
      by_cases hover : Ended n (edit line c)
      · have hstop : upTo edit (Ended n) line (c :: cs) = [c] := if_pos hover
        rw [hstop, echoes, echoes, List.append_nil, echoed_noEcho_eq_nil_iff hlow,
          List.forall_mem_singleton]
      · rw [upTo_cons hover, echoes, List.append_eq_nil_iff, echoed_noEcho_eq_nil_iff hlow,
          List.forall_mem_cons]
        refine and_congr_right fun hquiet => ?_
        -- a control character is echoed, or it is the end of the line
        have hend := (not_or.mp (mt (ended_edit hp).mpr hover)).1
        have hc : ¬c < 0x20 := fun hc => hquiet ⟨hc, not_or.mp hend⟩
        exact ih (hp.edit hend) (not_low_edit hlow hc)

/-- What `GetLine` writes at the password prompt. -/
theorem written_noEcho_iff (hn : 0 < n) {buffer : Nat → TCHAR} {reads : List ReadFile}
    {r : Return} (hr : getLine n true buffer reads = some r) :
    r.locals.written = CRLF ↔ ∀ c ∈ typed n [] reads, ¬Noisy c := by
  have hwritten : r.locals.written = echoes true [] (typed n [] reads) ++ CRLF := by
    rw [(getLine_typed hn hr).1]
    show _ ++ CRLF = _
    rw [written_typeAll]
    rfl
  rw [hwritten, List.append_left_eq_self]
  exact echoes_noEcho_eq_nil_iff plain_nil nofun _

end Silent

/-- **Passwords look the same** just where no control character is typed ahead of the end of the
    line. -/
theorem password_silent_iff {n : Nat} (hn : 0 < n) {buffer buffer' : Nat → TCHAR}
    {reads reads' : List ReadFile} {r r' : Return} (hr : getLine n true buffer reads = some r)
    (hr' : getLine n true buffer' reads' = some r') :
    (r.locals.written = r'.locals.written ∧ r.locals.written = CRLF) ↔
      (∀ c ∈ typed n [] reads, ¬Noisy c) ∧ ∀ c ∈ typed n [] reads', ¬Noisy c := by
  rw [← written_noEcho_iff hn hr, ← written_noEcho_iff hn hr']
  constructor
  · rintro ⟨heq, h⟩
    exact ⟨h, heq ▸ h⟩
  · rintro ⟨h, h'⟩
    exact ⟨h.trans h'.symm, h⟩

/-- `ab` and `c` -/
theorem password_silent_iff_typed : ∃ r r',
    getLine 1024 true (fun _ => 0) [.read [0x61], .read [0x62], .read [CR]] = some r ∧
    getLine 1024 true (fun _ => 0) [.read [0x63, CR]] = some r' ∧
    ((r.locals.written = r'.locals.written ∧ r.locals.written = CRLF) ↔
      (∀ c ∈ typed 1024 [] [.read [0x61], .read [0x62], .read [CR]], ¬Noisy c) ∧
        ∀ c ∈ typed 1024 [] [.read [0x63, CR]], ¬Noisy c) := by
  have hsome : (getLine 1024 true (fun _ => 0)
      [.read [0x61], .read [0x62], .read [CR]]).isSome = true := by decide +kernel
  have hsome' : (getLine 1024 true (fun _ => 0) [.read [0x63, CR]]).isSome = true := by
    decide +kernel
  obtain ⟨r, hr⟩ := Option.isSome_iff_exists.mp hsome
  obtain ⟨r', hr'⟩ := Option.isSome_iff_exists.mp hsome'
  exact ⟨r, r', hr, hr', password_silent_iff (by decide) hr hr'⟩

/-- **A control character in the password shows**: `^A` is echoed, and it is echoed that it is taken
    back. -/
theorem password_shows :
    (getLine 1024 true (fun _ => 0) [.read [0x01], .read [CR]]).map (·.locals.written) =
      some (0x5E :: 0x41 :: CRLF) ∧
    (getLine 1024 true (fun _ => 0) [.read [0x01, DEL], .read [CR]]).map (·.locals.written) =
      some (0x5E :: 0x41 :: eraseTwo ++ CRLF) ∧
    (getLine 1024 true (fun _ => 0) [.read [0x61], .read [CR]]).map (·.locals.written) =
      some CRLF ∧
    ¬∀ buffer reads reads' r r', getLine 1024 true buffer reads = some r →
      getLine 1024 true buffer reads' = some r' → r.locals.written = r'.locals.written := by
  have hshown : (getLine 1024 true (fun _ => 0) [.read [0x01], .read [CR]]).map
      (·.locals.written) = some (0x5E :: 0x41 :: CRLF) := by decide +kernel
  have htaken : (getLine 1024 true (fun _ => 0) [.read [0x01, DEL], .read [CR]]).map
      (·.locals.written) = some (0x5E :: 0x41 :: eraseTwo ++ CRLF) := by decide +kernel
  have hsilent : (getLine 1024 true (fun _ => 0) [.read [0x61], .read [CR]]).map
      (·.locals.written) = some CRLF := by decide +kernel
  refine ⟨hshown, htaken, hsilent, fun h => ?_⟩
  obtain ⟨r, hr, hw⟩ := Option.map_eq_some_iff.mp hshown
  obtain ⟨r', hr', hw'⟩ := Option.map_eq_some_iff.mp hsilent
  have heq := (hw.symm.trans (h _ _ _ r r' hr hr')).trans hw'
  exact absurd heq (by decide)

end Xencons.Tty
