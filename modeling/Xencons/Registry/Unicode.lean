import Mathlib.Algebra.Group.Nat.Defs
import Mathlib.Data.List.Basic

/-!
# Strings of the kernel and of the registry

The driver has its strings in characters of the system's code page, and the registry has them in
UTF-16. What goes from the one to the other are `RtlAnsiStringToUnicodeString` and
`RtlUnicodeStringToAnsiString`; the code page is a parameter.

* `Status` -- the status codes;
* `wcslen`, `rtlInitUnicodeString` -- over what the memory has from a pointer on, so that a read
  behind it is `none`;
* `CodePage`, with the two conversions, and what they do to characters below 128; `latin1`;
* `bytes`, `wchars` -- characters as the registry has them: `wchars_bytes`.
-/

namespace Xencons.Registry

/-- The status codes that the registry functions return or ask for. -/
inductive Status where
  | success
  | noMemory
  | invalidParameter
  | objectNameNotFound
  | bufferOverflow
  | bufferTooSmall
  /-- any other error of the kernel's -/
  | error (code : Nat)
deriving DecidableEq

/-! ## 1. Strings in memory -/

def wcslen (m : List UInt16) : Option Nat := m.findIdx? (· = 0)

/-- The most characters that a `UNICODE_STRING` has ahead of its NUL. -/
def maxUstring : Nat := 32766

/-- `RtlInitUnicodeString`: the characters of the string, as many as a `UNICODE_STRING` has. -/
def rtlInitUnicodeString (m : List UInt16) : Option (List UInt16) :=
  (wcslen m).map fun length => (m.take length).take maxUstring

section Strings

variable {s m : List UInt16}

theorem wcslen_append (h0 : 0 ∉ s) (rest : List UInt16) :
    wcslen (s ++ 0 :: rest) = some s.length := by
  unfold wcslen
  rw [List.findIdx?_append, List.findIdx?_eq_none_iff.mpr]
  · simp [List.findIdx?_cons]
  · intro c hc
    exact decide_eq_false fun e => h0 (e ▸ hc)

/-- It runs out of the memory where there is no NUL. -/
theorem wcslen_eq_none (h0 : 0 ∉ m) : wcslen m = none :=
  List.findIdx?_eq_none_iff.mpr fun _ hc => decide_eq_false fun e => h0 (e ▸ hc)

theorem rtlInitUnicodeString_append (h0 : 0 ∉ s) (rest : List UInt16) :
    rtlInitUnicodeString (s ++ 0 :: rest) = some (s.take maxUstring) := by
  rw [rtlInitUnicodeString, wcslen_append h0, Option.map_some, List.take_left]

/-- What is behind a string and its NUL. -/
theorem drop_string (s rest : List UInt16) : (s ++ 0 :: rest).drop (s.length + 1) = rest := by
  rw [List.append_cons]
  exact List.drop_left' (by simp)

/-- What has a NUL is a string and what is behind it. -/
theorem exists_string (h : 0 ∈ m) : ∃ s rest, m = s ++ 0 :: rest ∧ 0 ∉ s := by
  obtain ⟨s, rest, hm, h0⟩ := List.eq_append_cons_of_mem h
  exact ⟨s, rest, hm, h0⟩

end Strings

/-! ## 2. The code page -/

/-- **The system's code page.** In every one of them the characters below 128 are those of ASCII. -/
structure CodePage where
  /-- `RtlMultiByteToUnicodeN` -/
  toUnicode : List UInt8 → List UInt16
  /-- `RtlUnicodeToMultiByteN` -/
  toAnsi : List UInt16 → List UInt8
  /-- what is left of a string in a buffer of so many bytes that is too short for it -/
  cut : List UInt16 → Nat → List UInt8
  toUnicode_ascii : ∀ s, (∀ c ∈ s, c < 128) → toUnicode s = s.map UInt8.toUInt16
  toAnsi_ascii : ∀ s, (∀ c ∈ s, c < 128) → toAnsi (s.map UInt8.toUInt16) = s
  cut_length : ∀ ws n, 0 < n → (cut ws n).length < n

namespace CodePage

/-- `RtlAnsiStringToUnicodeString` to a buffer of `MaximumLength` bytes: what it writes there. -/
def rtlAnsiStringToUnicodeString (cp : CodePage) (source : List UInt8) (maximumLength : Nat) :
    Except Status (List UInt16) :=
  let text := cp.toUnicode source
  if maxUstring < text.length then .error .invalidParameter
  else if maximumLength < 2 * (text.length + 1) then .error .bufferOverflow
  else .ok (text ++ [0])

/-- `RtlUnicodeStringToAnsiString` to a buffer of `MaximumLength` bytes: whether it succeeds, and
    what it writes there. -/
def rtlUnicodeStringToAnsiString (cp : CodePage) (source : List UInt16) (maximumLength : Nat) :
    Bool × List UInt8 :=
  let text := cp.toAnsi source
  if text.length < maximumLength then (true, text ++ [0])
  else (false, cp.cut source maximumLength ++ [0])

variable (cp : CodePage) {s : List UInt8} {n : Nat}

/-- What is written fits, and ends with a NUL. -/
theorem rtlUnicodeStringToAnsiString_fits (source : List UInt16) (hn : 0 < n) :
    ∃ text, (cp.rtlUnicodeStringToAnsiString source n).2 = text ++ [0] ∧ text.length < n := by
  unfold rtlUnicodeStringToAnsiString
  by_cases h : (cp.toAnsi source).length < n
  · simp only [if_pos h]
    exact ⟨_, rfl, h⟩
  · simp only [if_neg h]
    exact ⟨_, rfl, cp.cut_length source n hn⟩

/-- **ASCII goes to UTF-16** if there is room for it with its NUL. -/
theorem rtlAnsiStringToUnicodeString_ascii (hs : ∀ c ∈ s, c < 128) (hlength : s.length ≤ maxUstring)
    (hroom : 2 * (s.length + 1) ≤ n) :
    cp.rtlAnsiStringToUnicodeString s n = .ok (s.map UInt8.toUInt16 ++ [0]) := by
  unfold rtlAnsiStringToUnicodeString
  simp only [cp.toUnicode_ascii s hs, List.length_map, if_neg (Nat.not_lt.mpr hlength),
    if_neg (Nat.not_lt.mpr hroom)]

/-- It does not where there is none. -/
theorem rtlAnsiStringToUnicodeString_overflow (hs : ∀ c ∈ s, c < 128)
    (hlength : s.length ≤ maxUstring) (hroom : n < 2 * (s.length + 1)) :
    cp.rtlAnsiStringToUnicodeString s n = .error .bufferOverflow := by
  unfold rtlAnsiStringToUnicodeString
  simp only [cp.toUnicode_ascii s hs, List.length_map, if_neg (Nat.not_lt.mpr hlength),
    if_pos hroom]

/-- **ASCII comes back.** -/
theorem rtlUnicodeStringToAnsiString_ascii (hs : ∀ c ∈ s, c < 128) (hroom : s.length < n) :
    cp.rtlUnicodeStringToAnsiString (s.map UInt8.toUInt16) n = (true, s ++ [0]) := by
  unfold rtlUnicodeStringToAnsiString
  rw [cp.toAnsi_ascii s hs, if_pos hroom]

end CodePage

/-- A character of Latin-1, or a question mark. -/
def toLatin1 (w : UInt16) : UInt8 := if w < 256 then w.toUInt8 else 63

theorem toLatin1_toUInt16 (c : UInt8) : toLatin1 c.toUInt16 = c := by
  have h : c.toUInt16 < 256 := by
    rw [UInt16.lt_iff_toNat_lt, UInt8.toNat_toUInt16]
    exact c.toNat_lt
  rw [toLatin1, if_pos h, UInt8.toUInt8_toUInt16]

/-- The code page of the first 256 characters. -/
def latin1 : CodePage where
  toUnicode s := s.map UInt8.toUInt16
  toAnsi ws := ws.map toLatin1
  cut ws n := (ws.map toLatin1).take (n - 1)
  toUnicode_ascii _ _ := rfl
  toAnsi_ascii s _ := by
    rw [List.map_map]
    exact (List.map_congr_left fun c _ => toLatin1_toUInt16 c).trans (List.map_id' s)
  cut_length ws n hn := by
    rw [List.length_take]
    omega

/-! ## 3. Bytes -/

/-- The two bytes of a character, the lower one first. -/
def bytes (ws : List UInt16) : List UInt8 :=
  ws.flatMap fun w => [UInt8.ofNat (w.toNat % 256), UInt8.ofNat (w.toNat / 256)]

/-- The characters that are complete; what an odd last byte is a half of is not. -/
def wchars : List UInt8 → List UInt16
  | lo :: hi :: data => UInt16.ofNat (lo.toNat + 256 * hi.toNat) :: wchars data
  | _ => []

theorem length_bytes (ws : List UInt16) : (bytes ws).length = 2 * ws.length := by
  induction ws with
  | nil => rfl
  | cons w ws ih =>
      rw [bytes, List.flatMap_cons, List.length_append, ← bytes, ih, List.length_cons]
      simp only [List.length_cons, List.length_nil]
      omega

/-- **What has been stored is read again.** -/
theorem wchars_bytes (ws : List UInt16) : wchars (bytes ws) = ws := by
  induction ws with
  | nil => rfl
  | cons w ws ih =>
      have hw : w.toNat < 65536 := w.toNat_lt
      have hchar : UInt16.ofNat ((UInt8.ofNat (w.toNat % 256)).toNat +
          256 * (UInt8.ofNat (w.toNat / 256)).toNat) = w := by
        apply UInt16.toNat_inj.mp
        rw [UInt8.toNat_ofNat', UInt8.toNat_ofNat', UInt16.toNat_ofNat']
        omega
      show UInt16.ofNat _ :: wchars (bytes ws) = w :: ws
      rw [hchar, ih]

end Xencons.Registry
