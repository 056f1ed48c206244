import Mathlib.Data.List.TakeWhile
import Xencons.Fdo.MultiSz
import Xencons.Registry.Unicode

/-!
# Strings from the registry (registry.c)

`RegistryQuerySzValue` makes an array of `ANSI_STRING`s of a value. `RegistrySzToAnsi` and
`RegistryMultiSzToAnsi` find the strings by their NULs, and nobody has looked whether the data has
any: behind the last complete character there is nothing that may be read.

* `storeString` -- what both do for one string; `registrySzToAnsi`, `registryMultiSzToAnsi`,
  `registryQuerySzValue` -- as the code has them, over the data of the value and a pool that may
  refuse any block; what is read or written outside is `none`, and so is an `ASSERT` that fails in a
  checked build;
* `Decoded` -- what has been stored of some strings: `storeString_refused`, `storeString_granted`,
  `storeLoop_strings`, `storeLoop_wrong`, `countLoop_strings`;
* `Ended`, `Roomy` -- which data has strings that end, and an array that has room for them;
  **`safe_iff`** -- just that may be read.
-/

namespace Xencons.Registry

open MultiSz (Pool)

/-! ## 1. One string -/

/-- What is done with the string at `Buffer` for `Ansi[Index]`: its length, or nothing where there
    is no block for it. -/
def storeString (checked : Bool) (cp : CodePage) (answers : Nat → Bool) (index : Nat)
    (buffer : List UInt16) (p : Pool) : Option (Option Nat × Pool) := do
  let length := (← wcslen buffer) % 2 ^ 32
  let e := { ← p.get index with maximumLength := (length + 1) % 2 ^ 16 }
  let p ← p.set index e
  match p.allocate answers e.maximumLength with
  | (none, p) => some (none, p)
  | (some size, p) =>
    let k := p.buffers.length
    let p := p.newBuffer size
    let p ← p.set index { e with buffer := some k }
    let unicode ← rtlInitUnicodeString buffer
    let (success, text) := cp.rtlUnicodeStringToAnsiString unicode e.maximumLength
    -- ASSERT(NT_SUCCESS(status))
    if checked && !success then none
    else
      let p ← p.copy k text
      let p ← p.set index { e with buffer := some k, length := length % 2 ^ 16 }
      some (some length, p)

/-! ## 2. The functions -/

/-- `RegistrySzToAnsi`; whether `Ansi` is returned. -/
def registrySzToAnsi (checked : Bool) (cp : CodePage) (answers : Nat → Bool) (buffer : List UInt16)
    (p : Pool) : Option (Bool × Pool) :=
  match p.allocate answers (16 * 2) with
  | (none, p) => some (false, p)
  | (some size, p) => do
    match ← storeString checked cp answers 0 buffer (p.newAnsi size) with
    -- fail2
    | (none, p) => (p.free .ansi).map fun p => (false, p)
    | (some _, p) => some (true, p)

/-- The first loop of `RegistryMultiSzToAnsi`, which takes two characters at least each time.
    `LONG Index` that overflows is negative, and so outside. -/
def countLoop (buffer : List UInt16) : Nat → Nat → Nat → Option Nat
  | 0, _, _ => none
  | left + 1, index, count => do
    let length := (← wcslen (buffer.drop index)) % 2 ^ 32
    if length = 0 then some count
    else if index + length + 1 < 2 ^ 31 then
      countLoop buffer left (index + length + 1) (count + 1)
    else none

/-- The second loop, with how many entries it still has to fill. -/
def storeLoop (checked : Bool) (cp : CodePage) (answers : Nat → Bool) :
    Nat → Nat → List UInt16 → Pool → Option (Bool × Pool)
  | 0, _, _, p => some (true, p)
  | left + 1, index, buffer, p => do
    match ← storeString checked cp answers index buffer p with
    -- fail2
    | (none, p) => (MultiSz.unwind index p).map fun p => (false, p)
    | (some length, p) =>
      storeLoop checked cp answers left (index + 1) (buffer.drop ((length + 1) % 2 ^ 32)) p

/-- `RegistryMultiSzToAnsi` -/
def registryMultiSzToAnsi (checked : Bool) (cp : CodePage) (answers : Nat → Bool)
    (buffer : List UInt16) (p : Pool) : Option (Bool × Pool) := do
  let count ← countLoop buffer (buffer.length + 1) 0 0
  match p.allocate answers (16 * (count + 1)) with
  | (none, p) => some (false, p)
  | (some size, p) => storeLoop checked cp answers count 0 buffer (p.newAnsi size)

/-- `REG_SZ`, `REG_MULTI_SZ`, and what is neither. -/
inductive ValueType where
  | sz
  | multiSz
  | other (n : Nat)
deriving DecidableEq

/-- A value of the registry; `ULONG` has room for its size behind the header of
    `KEY_VALUE_PARTIAL_INFORMATION`. -/
structure Value where
  type : ValueType
  data : List UInt8
  fits : 12 + data.length < 2 ^ 32
deriving DecidableEq

/-- What the pool and the kernel answer; an error of `ZwQueryValueKey` or `ZwSetValueKey` has a
    code. -/
structure Answers where
  pool : Nat → Bool
  first : Option Nat
  second : Option Nat
  set : Option Nat

/-- Nothing is refused. -/
def granting : Answers := ⟨fun _ => true, none, none, none⟩

/-- The pool, and whether `Unicode.Buffer` is live, and `Value` or `Partial`. -/
structure Memory extends Pool where
  unicode : Bool
  value : Bool
deriving DecidableEq

namespace Memory

def init : Memory := ⟨Pool.init, false, false⟩

/-- `RtlInitAnsiString` and `RtlAnsiStringToUnicodeString(&Unicode, &Ansi, TRUE)`. -/
def newUnicode (cp : CodePage) (answers : Nat → Bool) (name : List UInt8) (m : Memory) :
    Except Status (List UInt16) × Memory :=
  let text := cp.toUnicode name
  if maxUstring < text.length then (.error .invalidParameter, m)
  else
    match m.allocate answers (2 * (text.length + 1)) with
    | (none, p) => (.error .noMemory, { m with toPool := p })
    | (some _, p) => (.ok text, { m with toPool := p, unicode := true })

/-- `RtlFreeUnicodeString(&Unicode)` -/
def freeUnicode (m : Memory) : Memory := { m with unicode := false }

/-- `__RegistryFree(Value)`, `__RegistryFree(Partial)` -/
def freeValue (m : Memory) : Memory := { m with value := false }

end Memory

/-- `ZwQueryValueKey` with a buffer of so many bytes: the status, the size that it asks for, and
    what it has written. -/
def zwQueryValueKey (refused : Option Nat) (value : Option Value) (length : Nat) :
    Status × Nat × Option Value :=
  match refused, value with
  | some code, _ => (.error code, 0, none)
  | none, none => (.objectNameNotFound, 0, none)
  | none, some v =>
    let size := 12 + v.data.length
    if length < 12 then (.bufferTooSmall, size, none)
    else if length < size then (.bufferOverflow, size, none)
    else (.success, size, some v)

/-- The switch of `RegistryQuerySzValue`: `*Array`, if it is not `NULL`. -/
def decode (checked : Bool) (cp : CodePage) (answers : Nat → Bool) (v : Value) (p : Pool) :
    Option (Bool × Pool) :=
  match v.type with
  | .sz => registrySzToAnsi checked cp answers (wchars v.data) p
  | .multiSz => registryMultiSzToAnsi checked cp answers (wchars v.data) p
  | .other _ => some (false, p)

/-- The status of `RegistryQuerySzValue` at `fail5`. -/
def ValueType.failure : ValueType → Status
  | .sz | .multiSz => .noMemory
  | .other _ => .invalidParameter

/-- `RegistryQuerySzValue`, with the values of the key: the status and `*Type`. -/
def registryQuerySzValue (checked : Bool) (cp : CodePage) (answers : Answers)
    (values : List UInt16 → Option Value) (name : List UInt8) (m : Memory) :
    Option (Status × Option ValueType × Memory) :=
  match m.newUnicode cp answers.pool name with
  -- fail1
  | (.error status, m) => some (status, none, m)
  | (.ok unicode, m) =>
    let (status, size, _) := zwQueryValueKey answers.first (values unicode) 0
    if status ≠ .success ∧ status ≠ .bufferOverflow ∧ status ≠ .bufferTooSmall then
      -- fail2
      some (status, none, m.freeUnicode)
    else
      match m.allocate answers.pool size with
      -- fail3
      | (none, p) => some (.noMemory, none, Memory.freeUnicode { m with toPool := p })
      | (some _, p) =>
        let m : Memory := { m with toPool := p, value := true }
        match zwQueryValueKey answers.second (values unicode) size with
        | (.success, _, some v) => do
          let (array, p) ← decode checked cp answers.pool v m.toPool
          let m := Memory.freeUnicode (Memory.freeValue { m with toPool := p })
          if array then some (.success, some v.type, m)
          -- fail5
          else some (v.type.failure, none, m)
        -- fail4
        | (status, _, _) => some (status, none, m.freeValue.freeUnicode)

/-! ## 3. What is in the pool -/

/-- What `USHORT MaximumLength` makes of the size of a string with its NUL; a block of no bytes is
    refused. -/
def maximumLength (s : List UInt16) : Nat := (s.length + 1) % 2 ^ 16

/-- The block of a string: what the conversion has written, and zeros. -/
def stored (cp : CodePage) (s : List UInt16) : List UInt8 :=
  let text := (cp.rtlUnicodeStringToAnsiString (s.take maxUstring) (maximumLength s)).2
  text ++ List.replicate (maximumLength s - text.length) 0

/-- The entries of these strings. -/
def entries (strings : List (List UInt16)) : List MultiSz.AnsiString :=
  strings.zipIdx.map fun (s, i) => ⟨s.length % 2 ^ 16, maximumLength s, some i⟩

/-- **What has been stored** of these strings, in an array with `left` entries more. -/
structure Decoded (cp : CodePage) (strings : List (List UInt16)) (left : Nat) (p : Pool) :
    Prop where
  ansi : p.ansi = entries strings ++ List.replicate left ⟨0, 0, none⟩
  buffers : p.buffers = strings.map (stored cp)
  live : p.live = MultiSz.blocks strings.length
  failed : p.failed = false

/-- The conversion of the string succeeds. -/
def Converts (cp : CodePage) (s : List UInt16) : Prop :=
  (cp.toAnsi (s.take maxUstring)).length < maximumLength s

section Stored

variable {cp : CodePage} {s rest : List UInt16} {strings done : List (List UInt16)} {left : Nat}
  {p : Pool} {checked : Bool} {answers : Nat → Bool}

theorem entries_append (s : List UInt16) : entries (strings ++ [s]) =
    entries strings ++ [⟨s.length % 2 ^ 16, maximumLength s, some strings.length⟩] := by
  simp [entries, List.zipIdx_append]

theorem length_entries : (entries strings).length = strings.length := by simp [entries]

theorem getElem?_entries {i : Nat} (hi : i < strings.length) :
    ∃ e, (entries strings)[i]? = some e ∧ e.buffer = some i :=
  ⟨_, by simp [entries, hi]; rfl, rfl⟩

/-- The block of a string ends it. -/
theorem zero_mem_stored (cp : CodePage) (s : List UInt16) (hs : maximumLength s ≠ 0) :
    0 ∈ stored cp s := by
  obtain ⟨text, htext, -⟩ := cp.rtlUnicodeStringToAnsiString_fits (s.take maxUstring)
    (Nat.pos_of_ne_zero hs)
  unfold stored
  simp only [htext]
  exact List.mem_append_left _ (List.mem_append_right _ List.mem_cons_self)

theorem Decoded.get (h : Decoded cp done (left + 1) p) : p.get done.length = some ⟨0, 0, none⟩ :=
  MultiSz.get_append (h.live ▸ MultiSz.ansi_mem_blocks _) h.ansi length_entries.symm

theorem Decoded.set (h : Decoded cp done (left + 1) p) (e : MultiSz.AnsiString) :
    p.set done.length e =
      some { p with ansi := entries done ++ e :: List.replicate left ⟨0, 0, none⟩ } :=
  MultiSz.set_append e (h.live ▸ MultiSz.ansi_mem_blocks _) h.ansi length_entries.symm

/-- What has been stored is given back. -/
theorem unwind_entries {tail : List MultiSz.AnsiString}
    (hlive : p.live = MultiSz.blocks done.length) (hansi : p.ansi = entries done ++ tail) :
    MultiSz.unwind done.length p = some { p with live := [] } :=
  MultiSz.unwind_append hlive hansi length_entries.symm fun _ hi => getElem?_entries hi

/-! ## 4. One string -/

/-- **There is no NUL**: the data is left. -/
theorem storeString_outside (index : Nat) {buffer : List UInt16} (h0 : 0 ∉ buffer) :
    storeString checked cp answers index buffer p = none := by
  rw [storeString, wcslen_eq_none h0]
  rfl

/-- **There is no entry**: the array is left. -/
theorem storeString_overrun (h : Decoded cp done 0 p) (buffer : List UInt16) :
    storeString checked cp answers done.length buffer p = none := by
  have hget : p.get done.length = none := by
    rw [Pool.get, h.ansi, List.replicate_zero, List.append_nil,
      List.getElem?_eq_none (Nat.le_of_eq length_entries), ite_self]
  rw [storeString, hget]
  cases wcslen buffer <;> rfl

/-- **There is no block.** -/
theorem storeString_refused (checked : Bool) (h : Decoded cp done (left + 1) p) (h0 : 0 ∉ s)
    (hlength : s.length < 2 ^ 31) (hanswer : maximumLength s = 0 ∨ answers p.asked = false)
    (rest : List UInt16) :
    ∃ p', storeString checked cp answers done.length (s ++ 0 :: rest) p = some (none, p') ∧
      p'.live = p.live ∧ ∃ tail, p'.ansi = entries done ++ tail := by
  have h32 : s.length % 2 ^ 32 = s.length := by omega
  have hsize : (s.length + 1) % 2 ^ 16 % 2 ^ 32 = maximumLength s := by unfold maximumLength; omega
  rw [storeString, wcslen_append h0]
  simp only [Option.bind_eq_bind, Option.bind_some, h.get, h.set, h32, Pool.allocate, hsize]
  by_cases hzero : maximumLength s = 0
  · rw [if_pos hzero]
    exact ⟨_, rfl, rfl, _, rfl⟩
  · rw [if_neg hzero, hanswer.resolve_left hzero, if_neg Bool.false_ne_true]
    exact ⟨_, rfl, rfl, _, rfl⟩

/-- Whether the conversion succeeds. -/
theorem success_iff (cp : CodePage) (s : List UInt16) :
    (cp.rtlUnicodeStringToAnsiString (s.take maxUstring) (maximumLength s)).1 = true ↔
      Converts cp s := by
  unfold CodePage.rtlUnicodeStringToAnsiString Converts
  by_cases h : (cp.toAnsi (s.take maxUstring)).length < maximumLength s
  · simp only [if_pos h]
    exact iff_of_true trivial h
  · simp only [if_neg h]
    exact iff_of_false Bool.false_ne_true h

theorem assertion_holds (h : checked = true → Converts cp s) : ¬(checked &&
    !(cp.rtlUnicodeStringToAnsiString (s.take maxUstring) (maximumLength s)).1) = true := by
  intro hfails
  obtain ⟨hchecked, hn⟩ := Bool.and_eq_true_iff.mp hfails
  rw [(success_iff cp s).mpr (h hchecked)] at hn
  cases hn

theorem assertion_fails (h : checked = true ∧ ¬Converts cp s) : (checked &&
    !(cp.rtlUnicodeStringToAnsiString (s.take maxUstring) (maximumLength s)).1) = true := by
  rw [h.1, Bool.true_and, Bool.not_eq_true', Bool.eq_false_iff]
  exact mt (success_iff cp s).mp h.2

/-- **There is a block**: it gets the string, or the `ASSERT` fails. -/
theorem storeString_granted (checked : Bool) (h : Decoded cp done (left + 1) p) (h0 : 0 ∉ s)
    (hlength : s.length < 2 ^ 31) (hsize : maximumLength s ≠ 0) (hanswer : answers p.asked = true)
    (rest : List UInt16) :
    ∃ p', Decoded cp (done ++ [s]) left p' ∧
      storeString checked cp answers done.length (s ++ 0 :: rest) p =
        if checked && !(cp.rtlUnicodeStringToAnsiString (s.take maxUstring) (maximumLength s)).1
        then none else some (some s.length, p') := by
  have h32 : s.length % 2 ^ 32 = s.length := by omega
  have hmax : (s.length + 1) % 2 ^ 16 = maximumLength s := rfl
  have hsize32 : maximumLength s % 2 ^ 32 = maximumLength s := by unfold maximumLength; omega
  have hroom : (cp.rtlUnicodeStringToAnsiString (s.take maxUstring) (maximumLength s)).2.length ≤
      maximumLength s := by
    obtain ⟨text, htext, hfits⟩ := cp.rtlUnicodeStringToAnsiString_fits (s.take maxUstring)
      (Nat.pos_of_ne_zero hsize)
    rw [htext, List.length_append, List.length_singleton]
    exact hfits
  have hcount : p.buffers.length = done.length := by rw [h.buffers, List.length_map]
  have hlive : p.live = MultiSz.blocks done.length := h.live
  rw [storeString, wcslen_append h0, rtlInitUnicodeString_append h0]
  simp only [Option.bind_eq_bind, Option.bind_some, h.get, h.set, h32, hmax, Pool.allocate, hsize32,
    if_neg hsize, hanswer, if_true]
  generalize hconv : cp.rtlUnicodeStringToAnsiString (s.take maxUstring) (maximumLength s) = r
  rw [hconv] at hroom
  generalize hq : Pool.mk (entries done ++ _ :: _) p.buffers p.live (p.asked + 1) p.failed = q
  have hansi : q.ansi = entries done ++ ⟨0, maximumLength s, none⟩ ::
      List.replicate left ⟨0, 0, none⟩ := by rw [← hq]
  have hmem : MultiSz.Block.ansi ∈ q.live := by
    rw [← hq]
    exact hlive ▸ MultiSz.ansi_mem_blocks _
  obtain ⟨hbuffer, hcopy, hset⟩ := MultiSz.withEntry_steps hmem hansi length_entries.symm hroom
    ⟨0, maximumLength s, some p.buffers.length⟩
    ⟨s.length % 2 ^ 16, maximumLength s, some p.buffers.length⟩
  have hbuffers : q.buffers = p.buffers := by rw [← hq]
  rw [hbuffers] at hcopy
  simp only [hbuffer, Option.bind_some, hcopy, hset]
  refine ⟨_, ⟨?_, ?_, ?_, ?_⟩, rfl⟩
  · rw [entries_append, ← hcount, List.append_assoc]
    rfl
  · show q.buffers ++ _ = _
    rw [hbuffers, h.buffers, List.map_append, List.map_singleton, stored, hconv]
  · show MultiSz.Block.buffer q.buffers.length :: q.live = _
    rw [hbuffers, hcount, ← hq, List.length_append, hlive]
    rfl
  · show q.failed = false
    rw [← hq]
    exact h.failed

end Stored

/-! ## 5. All of them -/

/-- The strings up to the first one whose size is none for `USHORT`; there is no block for that. -/
def reached (strings : List (List UInt16)) : List (List UInt16) :=
  strings.takeWhile (maximumLength · ≠ 0)

section Loops

variable {cp : CodePage} {rest : List UInt16} {strings done : List (List UInt16)} {left : Nat}
  {p : Pool} {checked : Bool} {answers : Nat → Bool}

theorem reached_cons_zero {s : List UInt16} (hs : maximumLength s = 0) :
    reached (s :: strings) = [] := List.takeWhile_cons_of_neg (by simpa using hs)

theorem reached_cons {s : List UInt16} (hs : maximumLength s ≠ 0) :
    reached (s :: strings) = s :: reached strings := List.takeWhile_cons_of_pos (by simpa using hs)

theorem flatMap_cons_append (s : List UInt16) (strings : List (List UInt16)) (rest : List UInt16) :
    (s :: strings).flatMap (· ++ [0]) ++ rest = s ++ 0 :: (strings.flatMap (· ++ [0]) ++ rest) := by
  simp

/-- The loop goes on behind a string that has been stored. -/
theorem storeLoop_granted {s : List UInt16} {p' : Pool} {index m : Nat} {buffer : List UInt16}
    (hlength : s.length < 2 ^ 31)
    (hrun : storeString checked cp answers index (s ++ 0 :: buffer) p = some (some s.length, p')) :
    storeLoop checked cp answers (m + 1) index (s ++ 0 :: buffer) p =
      storeLoop checked cp answers m (index + 1) buffer p' := by
  have hdrop : (s ++ 0 :: buffer).drop ((s.length + 1) % 2 ^ 32) = buffer := by
    rw [Nat.mod_eq_of_lt (by omega), drop_string]
  rw [storeLoop, hrun, Option.bind_eq_bind, Option.bind_some]
  simp only [hdrop]

/-- **The loop stores the strings or gives everything back**, where the array has room for one more
    than those that are reached. -/
theorem storeLoop_strings (checked : Bool) (answers : Nat → Bool) (h : Decoded cp done left p)
    (hstrings : ∀ s ∈ strings, 0 ∉ s ∧ s.length < 2 ^ 31) (hroom : (reached strings).length < left)
    (hconv : checked = true → ∀ s ∈ reached strings, Converts cp s) (rest : List UInt16) :
    ∃ ok p', storeLoop checked cp answers strings.length done.length
        (strings.flatMap (· ++ [0]) ++ rest) p = some (ok, p') ∧
      (ok = true → Decoded cp (done ++ strings) (left - strings.length) p' ∧
        reached strings = strings) ∧
      (ok = false → p'.live = [] ∧ (reached strings = strings → ∃ n, answers n = false)) := by
  induction strings generalizing done left p with
  | nil =>
      refine ⟨true, p, rfl, fun _ => ⟨?_, rfl⟩, nofun⟩
      rwa [List.append_nil]
  | cons s strings ih =>
      obtain ⟨h0, hlength⟩ := hstrings s List.mem_cons_self
      obtain ⟨left, rfl⟩ : ∃ k, left = k + 1 := ⟨left - 1, by omega⟩
      rw [flatMap_cons_append, List.length_cons]
      have hrefused (hanswer : maximumLength s = 0 ∨ answers p.asked = false) :
          ∃ p', storeLoop checked cp answers (strings.length + 1) done.length
            (s ++ 0 :: (strings.flatMap (· ++ [0]) ++ rest)) p = some (false, p') ∧
          p'.live = [] := by
        obtain ⟨p', hrun, hlive, tail, htail⟩ :=
          storeString_refused checked h h0 hlength hanswer _
        rw [storeLoop, hrun]
        exact ⟨_, congrArg (Option.map _) (unwind_entries (hlive.trans h.live) htail), rfl⟩
      by_cases hsize : maximumLength s = 0
      · obtain ⟨p', hrun, hback⟩ := hrefused (.inl hsize)
        refine ⟨false, p', hrun, nofun, fun _ => ⟨hback, fun e => ?_⟩⟩
        rw [reached_cons_zero hsize] at e
        cases e
      · rw [reached_cons hsize] at hroom hconv
        cases hanswer : answers p.asked with
        | false =>
            obtain ⟨p', hrun, hback⟩ := hrefused (.inr hanswer)
            exact ⟨false, p', hrun, nofun, fun _ => ⟨hback, fun _ => ⟨_, hanswer⟩⟩⟩
        | true =>
            obtain ⟨p', hdecoded, hrun⟩ := storeString_granted checked h h0 hlength hsize hanswer
              (strings.flatMap (· ++ [0]) ++ rest)
            rw [if_neg (assertion_holds fun hc => hconv hc s List.mem_cons_self)] at hrun
            obtain ⟨ok, p'', hloop, hstored, hback⟩ := ih hdecoded
              (fun s hs => hstrings s (List.mem_cons_of_mem _ hs)) (Nat.lt_of_succ_lt_succ hroom)
              fun hc s hs => hconv hc s (List.mem_cons_of_mem _ hs)
            refine ⟨ok, p'', ?_, fun hok => ?_, fun hok => ⟨(hback hok).1, fun e => ?_⟩⟩
            · rw [storeLoop_granted hlength hrun, ← hloop, List.length_append]
              rfl
            · obtain ⟨hall, hreached⟩ := hstored hok
              rw [List.append_assoc] at hall
              rw [Nat.add_sub_add_right, reached_cons hsize, hreached]
              exact ⟨hall, rfl⟩
            · rw [reached_cons hsize] at e
              exact (hback hok).2 (List.cons.inj e).2

/-- **The loop goes wrong**, where nothing is refused: the array is left, or an `ASSERT` fails. -/
theorem storeLoop_wrong (checked : Bool) (h : Decoded cp done left p)
    (hanswers : ∀ n, answers n = true) (hstrings : ∀ s ∈ strings, 0 ∉ s ∧ s.length < 2 ^ 31)
    (hwrong : left ≤ (reached strings).length ∧ left < strings.length ∨
      checked = true ∧ ∃ s ∈ reached strings, ¬Converts cp s) (rest : List UInt16) :
    storeLoop checked cp answers strings.length done.length
      (strings.flatMap (· ++ [0]) ++ rest) p = none := by
  induction strings generalizing done left p with
  | nil =>
      rcases hwrong with ⟨-, hlt⟩ | ⟨-, s, hs, -⟩
      · exact absurd hlt (Nat.not_lt_zero _)
      · cases hs
  | cons s strings ih =>
      obtain ⟨h0, hlength⟩ := hstrings s List.mem_cons_self
      rw [flatMap_cons_append, List.length_cons]
      cases left with
      | zero =>
          rw [storeLoop, storeString_overrun h]
          rfl
      | succ left =>
          have hsize : maximumLength s ≠ 0 := by
            intro hzero
            rw [reached_cons_zero hzero] at hwrong
            rcases hwrong with ⟨hle, -⟩ | ⟨-, s, hs, -⟩
            · exact absurd hle (Nat.not_succ_le_zero _)
            · cases hs
          rw [reached_cons hsize] at hwrong
          obtain ⟨p', hdecoded, hrun⟩ := storeString_granted checked h h0 hlength hsize
            (hanswers _) (strings.flatMap (· ++ [0]) ++ rest)
          by_cases hassert : checked = true ∧ ¬Converts cp s
          · rw [if_pos (assertion_fails hassert)] at hrun
            rw [storeLoop, hrun]
            rfl
          · rw [if_neg (assertion_holds fun hc => by_contra fun hn => hassert ⟨hc, hn⟩)] at hrun
            have hloop := ih hdecoded (fun s hs => hstrings s (List.mem_cons_of_mem _ hs)) (by
              rcases hwrong with ⟨hle, hlt⟩ | ⟨hc, s', hs', hn⟩
              · exact .inl ⟨Nat.le_of_succ_le_succ hle, Nat.lt_of_succ_lt_succ hlt⟩
              · rcases List.mem_cons.mp hs' with rfl | hs'
                · exact absurd ⟨hc, hn⟩ hassert
                · exact .inr ⟨hc, s', hs', hn⟩)
            rw [storeLoop_granted hlength hrun, ← hloop, List.length_append]
            rfl

/-- **The first loop counts the strings ahead of the empty one.** -/
theorem countLoop_strings {buffer : List UInt16} (hlength : buffer.length < 2 ^ 31)
    (hstrings : ∀ s ∈ strings, s ≠ [] ∧ 0 ∉ s) {left index count : Nat}
    (hbuffer : buffer.drop index = strings.flatMap (· ++ [0]) ++ 0 :: rest)
    (hleft : strings.length < left) :
    countLoop buffer left index count = some (count + strings.length) := by
  induction strings generalizing left index count with
  | nil =>
      obtain ⟨left, rfl⟩ : ∃ k, left = k + 1 := ⟨left - 1, by omega⟩
      rw [countLoop, hbuffer]
      rfl
  | cons s strings ih =>
      obtain ⟨hne, h0⟩ := hstrings s List.mem_cons_self
      obtain ⟨left, rfl⟩ : ∃ k, left = k + 1 := ⟨left - 1, by omega⟩
      rw [flatMap_cons_append] at hbuffer
      have hindex : index + s.length + 1 < buffer.length := by
        have := congrArg List.length hbuffer
        simp only [List.length_drop, List.length_append, List.length_cons] at this
        omega
      have hnext : buffer.drop (index + s.length + 1) =
          strings.flatMap (· ++ [0]) ++ 0 :: rest := by
        rw [Nat.add_assoc, ← List.drop_drop, hbuffer, drop_string]
      have hpos : s.length ≠ 0 := fun e => hne (List.length_eq_zero_iff.mp e)
      rw [List.length_cons] at hleft ⊢
      rw [countLoop, hbuffer, wcslen_append h0, Option.bind_eq_bind, Option.bind_some,
        Nat.mod_eq_of_lt (by omega), if_neg hpos, if_pos (by omega),
        ih (fun s hs => hstrings s (List.mem_cons_of_mem _ hs)) hnext (by omega), Nat.add_assoc,
        Nat.add_comm 1]

/-- Where it comes to an end there is an empty string. -/
theorem countLoop_some {buffer : List UInt16} (hlength : buffer.length < 2 ^ 31)
    {left index count n : Nat} (h : countLoop buffer left index count = some n) :
    ∃ (strings : List (List UInt16)) (rest : List UInt16),
      buffer.drop index = strings.flatMap (· ++ [0]) ++ 0 :: rest ∧
      (∀ s ∈ strings, s ≠ [] ∧ 0 ∉ s) ∧ n = count + strings.length := by
  induction left generalizing index count with
  | zero => cases h
  | succ left ih =>
      by_cases hmem : 0 ∈ buffer.drop index
      · obtain ⟨s, rest, hbuffer, h0⟩ := exists_string hmem
        have hshort : s.length < 2 ^ 31 := by
          have := congrArg List.length hbuffer
          simp only [List.length_drop, List.length_append, List.length_cons] at this
          omega
        simp only [countLoop, hbuffer, wcslen_append h0, Option.bind_eq_bind, Option.bind_some,
          Nat.mod_eq_of_lt (show s.length < 2 ^ 32 by omega)] at h
        split at h
        case isTrue hzero =>
          obtain rfl := List.length_eq_zero_iff.mp hzero
          exact ⟨[], rest, hbuffer, nofun, (Option.some.inj h).symm⟩
        case isFalse hpos =>
          split at h
          · obtain ⟨strings, rest', hrest, hstrings, hn⟩ := ih h
            have hnext : buffer.drop (index + s.length + 1) = rest := by
              rw [Nat.add_assoc, ← List.drop_drop, hbuffer, drop_string]
            refine ⟨s :: strings, rest', ?_, fun s' hs' => ?_, ?_⟩
            · rw [flatMap_cons_append, ← hrest, hnext, hbuffer]
            · rcases List.mem_cons.mp hs' with rfl | hs'
              · exact ⟨fun e => hpos (by rw [e]; rfl), h0⟩
              · exact hstrings s' hs'
            · rw [hn, List.length_cons]
              omega
          · cases h
      · rw [countLoop, wcslen_eq_none hmem] at h
        cases h

end Loops

/-! ## 6. Which data may be read -/

/-- **These are the strings of the data**, and there is what ends them: one string with its NUL, or
    strings that are not empty and an empty one. -/
def Ended : ValueType → List UInt16 → List (List UInt16) → Prop
  | .sz, data, strings => ∃ s rest, data = s ++ 0 :: rest ∧ 0 ∉ s ∧ strings = [s]
  | .multiSz, data, strings => (∀ s ∈ strings, s ≠ [] ∧ 0 ∉ s) ∧
      ∃ rest, data = strings.flatMap (· ++ [0]) ++ 0 :: rest
  | .other _, _, strings => strings = []

/-- **The array goes well**: there is none, as `ULONG` makes its size 0, or it has room for one
    entry more than are reached; and in a checked build the strings that are reached convert. -/
def Roomy (checked : Bool) (cp : CodePage) (strings : List (List UInt16)) : Prop :=
  (strings.length + 1) % 2 ^ 28 = 0 ∨
    (reached strings).length < (strings.length + 1) % 2 ^ 28 ∧
      (checked = true → ∀ s ∈ reached strings, Converts cp s)

/-- **An array that ends**, of blocks with a NUL in each. -/
def Terminated (p : Pool) : Prop :=
  .ansi ∈ p.live ∧ ∃ n : Nat, (p.ansi[n]?).map MultiSz.AnsiString.buffer = some none ∧
    ∀ i < n, ∃ (e : MultiSz.AnsiString) (k : Nat) (block : List UInt8), p.ansi[i]? = some e ∧
      e.buffer = some k ∧ .buffer k ∈ p.live ∧ p.buffers[k]? = some block ∧ 0 ∈ block

/-- **Whatever is answered**, nothing is read outside of the data and nothing is written outside of
    the array; if the function succeeds there is an array that ends. -/
def Safe (checked : Bool) (cp : CodePage) (v : Value) : Prop :=
  ∀ answers values name, values (cp.toUnicode name) = some v →
    ∃ status type m, registryQuerySzValue checked cp answers values name .init =
      some (status, type, m) ∧ (status = .success → Terminated m.toPool)

section Decode

variable {cp : CodePage} {strings : List (List UInt16)} {p : Pool} {checked : Bool}
  {answers : Nat → Bool} {v : Value}

theorem length_wchars_le (data : List UInt8) : 2 * (wchars data).length ≤ data.length := by
  induction data using wchars.induct with
  | case1 lo hi data ih =>
      rw [wchars, List.length_cons, List.length_cons, List.length_cons]
      omega
  | case2 data h => cases data with
    | nil => exact Nat.zero_le _
    | cons lo data => cases data with
      | nil => exact Nat.zero_le _
      | cons hi data => exact absurd rfl (h lo hi data)

theorem length_wchars_lt (v : Value) : (wchars v.data).length < 2 ^ 31 := by
  have := length_wchars_le v.data
  have := v.fits
  omega

/-- Nothing has been made yet, but some blocks have been asked for. -/
def fresh (asked : Nat) : Pool := ⟨[], [], [], asked, false⟩

theorem allocate_fresh (answers : Nat → Bool) (size asked : Nat) :
    (fresh asked).allocate answers size =
      if size % 2 ^ 32 = 0 then (none, { fresh asked with failed := true })
      else if answers asked then (some (size % 2 ^ 32), fresh (asked + 1))
      else (none, { fresh (asked + 1) with failed := true }) := rfl

theorem decoded_newAnsi (size asked : Nat) :
    Decoded cp [] (size / 16) ((fresh asked).newAnsi size) :=
  ⟨rfl, rfl, rfl, rfl⟩

theorem mem_blocks {i n : Nat} (hi : i < n) : .buffer i ∈ MultiSz.blocks n := by
  induction n with
  | zero => exact absurd hi (Nat.not_lt_zero _)
  | succ n ih =>
      rcases Nat.lt_succ_iff_lt_or_eq.mp hi with hlt | rfl
      · exact List.mem_cons_of_mem _ (ih hlt)
      · exact List.mem_cons_self

/-- **What has been stored ends**, with one entry behind it. -/
theorem Decoded.terminated (h : Decoded cp strings 1 p) (hreached : reached strings = strings) :
    Terminated p := by
  refine ⟨h.live ▸ MultiSz.ansi_mem_blocks _, strings.length, ?_, fun i hi => ?_⟩
  · rw [h.ansi, List.getElem?_append_right (Nat.le_of_eq length_entries), length_entries,
      Nat.sub_self]
    rfl
  · obtain ⟨e, he, hbuffer⟩ := getElem?_entries hi
    have hsize : maximumLength strings[i] ≠ 0 := by
      have hmem : strings[i] ∈ reached strings := hreached.symm ▸ List.getElem_mem hi
      simpa using List.all_eq_true.mp (List.all_takeWhile (p := (maximumLength · ≠ 0))) _ hmem
    refine ⟨e, i, stored cp strings[i], ?_, hbuffer, ?_, ?_, zero_mem_stored cp _ hsize⟩
    · rw [h.ansi, List.getElem?_append_left (by rwa [length_entries]), he]
    · rw [h.live]
      exact mem_blocks hi
    · rw [h.buffers, List.getElem?_map, List.getElem?_eq_getElem hi, Option.map_some]

theorem reached_prefix (strings : List (List UInt16)) :
    (reached strings).length ≤ strings.length := (List.takeWhile_sublist _).length_le

theorem length_le_flatMap (strings : List (List UInt16)) :
    strings.length ≤ (strings.flatMap (· ++ [0])).length := by
  induction strings with
  | nil => exact Nat.zero_le _
  | cons s strings ih =>
      rw [List.flatMap_cons, List.length_append, List.length_append, List.length_cons,
        List.length_singleton]
      omega

theorem length_lt_flatMap {s : List UInt16} (hs : s ∈ strings) :
    s.length < (strings.flatMap (· ++ [0])).length := by
  obtain ⟨front, back, rfl⟩ := List.append_of_mem hs
  rw [List.flatMap_append, List.flatMap_cons]
  simp only [List.length_append, List.length_singleton]
  omega

/-- An array for so many strings, and the loop over them. -/
def makeArray (checked : Bool) (cp : CodePage) (answers : Nat → Bool) (count : Nat)
    (buffer : List UInt16) (p : Pool) : Option (Bool × Pool) :=
  match p.allocate answers (16 * (count + 1)) with
  | (none, p) => some (false, p)
  | (some size, p) => storeLoop checked cp answers count 0 buffer (p.newAnsi size)

/-- `RegistrySzToAnsi` does what the loop does once. -/
theorem registrySzToAnsi_eq (buffer : List UInt16) (p : Pool) :
    registrySzToAnsi checked cp answers buffer p = makeArray checked cp answers 1 buffer p := by
  unfold registrySzToAnsi makeArray
  rcases p.allocate answers (16 * 2) with ⟨_ | size, p⟩
  · rfl
  · simp only [storeLoop]
    rcases storeString checked cp answers 0 buffer (p.newAnsi size) with _ | ⟨_ | length, p⟩ <;> rfl

/-- Both decoders make the array of the strings that the data has. -/
theorem decode_eq (checked : Bool) (cp : CodePage) (answers : Nat → Bool) (p : Pool)
    (htype : ∀ n, v.type ≠ .other n) (hended : Ended v.type (wchars v.data) strings) :
    (∀ s ∈ strings, 0 ∉ s ∧ s.length < 2 ^ 31) ∧ ∃ rest, decode checked cp answers v p =
      makeArray checked cp answers strings.length (strings.flatMap (· ++ [0]) ++ rest) p := by
  have hlength := length_wchars_lt v
  unfold decode
  cases hv : v.type with
  | sz =>
      rw [hv] at hended
      obtain ⟨s, rest, hdata, h0, rfl⟩ := hended
      have hs : s.length < 2 ^ 31 := by
        rw [hdata, List.length_append] at hlength
        omega
      refine ⟨fun s' hs' => ?_, rest, ?_⟩
      · rw [List.mem_singleton.mp hs']
        exact ⟨h0, hs⟩
      · simp only [hdata, registrySzToAnsi_eq]
        simp
  | multiSz =>
      rw [hv] at hended
      obtain ⟨hstrings, rest, hdata⟩ := hended
      have htotal := congrArg List.length hdata
      have hcount := length_le_flatMap strings
      rw [List.length_append, List.length_cons] at htotal
      refine ⟨fun s hs => ⟨(hstrings s hs).2, ?_⟩, 0 :: rest, ?_⟩
      · have := length_lt_flatMap hs
        omega
      · have hloop : countLoop (wchars v.data) ((wchars v.data).length + 1) 0 0 =
            some (0 + strings.length) := countLoop_strings hlength hstrings hdata (by omega)
        rw [Nat.zero_add] at hloop
        simp only [registryMultiSzToAnsi, hloop, Option.bind_eq_bind, Option.bind_some]
        rw [hdata]
        rfl
  | other n => exact absurd hv (htype n)

/-- **The array is made or nothing is left of it.** -/
theorem decode_ended (hended : Ended v.type (wchars v.data) strings)
    (hroomy : Roomy checked cp strings) (answers : Nat → Bool) (asked : Nat) :
    ∃ ok p, decode checked cp answers v (fresh asked) = some (ok, p) ∧
      (ok = true → Decoded cp strings 1 p ∧ reached strings = strings) ∧
      (ok = false → p.live = []) := by
  by_cases htype : ∀ n, v.type ≠ .other n
  · obtain ⟨hstrings, rest, hdecode⟩ := decode_eq checked cp answers (fresh asked) htype hended
    rw [hdecode, makeArray, allocate_fresh]
    by_cases hzero : 16 * (strings.length + 1) % 2 ^ 32 = 0
    · rw [if_pos hzero]
      exact ⟨false, _, rfl, nofun, fun _ => rfl⟩
    · rw [if_neg hzero]
      cases hanswer : answers asked with
      | false => exact ⟨false, _, rfl, nofun, fun _ => rfl⟩
      | true =>
          obtain ⟨hroom, hconv⟩ := hroomy.resolve_left fun e => hzero (by omega)
          obtain ⟨ok, p, hrun, hmade, hback⟩ := storeLoop_strings checked answers
            (decoded_newAnsi (16 * (strings.length + 1) % 2 ^ 32) (asked + 1)) hstrings
            (by omega) hconv rest
          refine ⟨ok, p, hrun, fun hok => ?_, fun hok => (hback hok).1⟩
          obtain ⟨hdecoded, hreached⟩ := hmade hok
          -- all of them are reached, so that the size has not overflown
          have hleft : 16 * (strings.length + 1) % 2 ^ 32 / 16 - strings.length = 1 := by
            rw [hreached] at hroom
            have := Nat.mod_le (strings.length + 1) (2 ^ 28)
            omega
          rw [hleft] at hdecoded
          exact ⟨hdecoded, hreached⟩
  · obtain ⟨n, hn⟩ := not_forall_not.mp htype
    rw [decode, hn]
    exact ⟨false, _, rfl, nofun, fun _ => rfl⟩

/-- **Strings that fit are stored** where nothing is refused. -/
theorem decode_granting (checked : Bool) (htype : ∀ n, v.type ≠ .other n)
    (hended : Ended v.type (wchars v.data) strings) (hfit : ∀ s ∈ strings, s.length + 1 < 2 ^ 16)
    (hconv : ∀ s ∈ strings, Converts cp s) (hshort : strings.length + 1 < 2 ^ 28) (asked : Nat) :
    ∃ p, decode checked cp (fun _ => true) v (fresh asked) = some (true, p) ∧
      Decoded cp strings 1 p := by
  have hreached : reached strings = strings := by
    refine List.takeWhile_eq_self_iff.mpr fun s hs => decide_eq_true ?_
    have := hfit s hs
    unfold maximumLength
    omega
  obtain ⟨hstrings, rest, hdecode⟩ :=
    decode_eq checked cp (fun _ => true) (fresh asked) htype hended
  have hsize : 16 * (strings.length + 1) % 2 ^ 32 = 16 * (strings.length + 1) :=
    Nat.mod_eq_of_lt (by omega)
  obtain ⟨ok, p, hrun, hmade, hback⟩ := storeLoop_strings checked (fun _ => true)
    (decoded_newAnsi (16 * (strings.length + 1)) (asked + 1)) hstrings
    (by rw [hreached]; omega) (fun _ => hreached.symm ▸ hconv) rest
  rw [hdecode, makeArray, allocate_fresh, if_neg (by omega), if_pos rfl, hsize]
  refine ⟨p, ?_⟩
  cases ok with
  | true =>
      have hleft : 16 * (strings.length + 1) / 16 - strings.length = 1 := by omega
      rw [hleft] at hmade
      exact ⟨hrun, (hmade rfl).1⟩
  | false =>
      obtain ⟨n, hn⟩ := (hback rfl).2 hreached
      cases hn

/-- Where the decoder comes to an end, so do the strings. -/
theorem ended_of_decode {r : Bool × Pool} (h : decode checked cp (fun _ => true) v p = some r) :
    ∃ strings, Ended v.type (wchars v.data) strings := by
  have hlength := length_wchars_lt v
  unfold decode at h
  cases hv : v.type with
  | sz =>
      simp only [hv] at h
      by_cases hmem : 0 ∈ wchars v.data
      · obtain ⟨s, rest, hdata, h0⟩ := exists_string hmem
        exact ⟨[s], s, rest, hdata, h0, rfl⟩
      · rw [registrySzToAnsi_eq, makeArray] at h
        change storeLoop _ _ _ 1 0 _ _ = _ at h
        rw [storeLoop, storeString_outside 0 hmem] at h
        cases h
  | multiSz =>
      simp only [hv, registryMultiSzToAnsi] at h
      cases hcount : countLoop (wchars v.data) ((wchars v.data).length + 1) 0 0 with
      | none =>
          rw [hcount] at h
          cases h
      | some count =>
          obtain ⟨strings, rest, hdata, hstrings, -⟩ := countLoop_some hlength hcount
          exact ⟨strings, hstrings, rest, hdata⟩
  | other n => exact ⟨[], rfl⟩

/-- **It goes wrong** where nothing is refused. -/
theorem decode_wrong (hwrong : ¬∃ strings, Ended v.type (wchars v.data) strings ∧
    Roomy checked cp strings) (asked : Nat) :
    decode checked cp (fun _ => true) v (fresh asked) = none := by
  by_contra hrun
  obtain ⟨r, hrun⟩ := Option.ne_none_iff_exists'.mp hrun
  obtain ⟨strings, hended⟩ := ended_of_decode hrun
  have hroomy : ¬Roomy checked cp strings := fun h => hwrong ⟨strings, hended, h⟩
  obtain ⟨hsize, hwrong⟩ := not_or.mp hroomy
  have htype : ∀ n, v.type ≠ .other n := by
    intro n hn
    rw [hn] at hended
    subst hended
    exact hroomy (.inr ⟨by decide, fun _ => nofun⟩)
  obtain ⟨hstrings, rest, hdecode⟩ :=
    decode_eq checked cp (fun _ => true) (fresh asked) htype hended
  have hzero : ¬16 * (strings.length + 1) % 2 ^ 32 = 0 := by omega
  have hwhy : 16 * (strings.length + 1) % 2 ^ 32 / 16 ≤ (reached strings).length ∧
      16 * (strings.length + 1) % 2 ^ 32 / 16 < strings.length ∨
      checked = true ∧ ∃ s ∈ reached strings, ¬Converts cp s := by
    by_cases hroom : (reached strings).length < (strings.length + 1) % 2 ^ 28
    · obtain ⟨hchecked, hconv⟩ := Classical.not_imp.mp fun h => hwrong ⟨hroom, h⟩
      obtain ⟨s, hconv⟩ := not_forall.mp hconv
      obtain ⟨hs, hn⟩ := Classical.not_imp.mp hconv
      exact .inr ⟨hchecked, s, hs, hn⟩
    · have := reached_prefix strings
      exact .inl (by omega)
  have hloop := storeLoop_wrong checked (decoded_newAnsi _ (asked + 1)) (fun _ => rfl) hstrings hwhy
    rest
  rw [hdecode, makeArray, allocate_fresh, if_neg hzero, if_pos rfl] at hrun
  exact absurd (hloop.symm.trans hrun) nofun

/-- The name is converted, or nothing is left of it. -/
theorem newUnicode_fresh (cp : CodePage) (answers : Nat → Bool) (name : List UInt8) (asked : Nat) :
    Memory.newUnicode cp answers name ⟨fresh asked, false, false⟩ =
      if maxUstring < (cp.toUnicode name).length then
        (.error .invalidParameter, ⟨fresh asked, false, false⟩)
      else if answers asked then (.ok (cp.toUnicode name), ⟨fresh (asked + 1), true, false⟩)
      else (.error .noMemory, ⟨{ fresh (asked + 1) with failed := true }, false, false⟩) := by
  unfold Memory.newUnicode
  by_cases hlong : maxUstring < (cp.toUnicode name).length
  · simp only [if_pos hlong]
  · have hsize : ¬2 * ((cp.toUnicode name).length + 1) % 2 ^ 32 = 0 := by
      unfold maxUstring at hlong
      omega
    simp only [if_neg hlong, allocate_fresh, if_neg hsize]
    by_cases hanswer : answers asked = true
    · rw [if_pos hanswer, if_pos hanswer]
    · rw [if_neg hanswer, if_neg hanswer]

/-- The last steps of `RegistryQuerySzValue`. -/
def finish (v : Value) (r : Bool × Pool) : Status × Option ValueType × Memory :=
  (if r.1 then .success else v.type.failure, if r.1 then some v.type else none, ⟨r.2, false, false⟩)

theorem failure_ne_success (type : ValueType) : type.failure ≠ .success := by
  cases type <;> nofun

/-- There is room for the whole value. -/
theorem zwQueryValueKey_written (v : Value) : zwQueryValueKey none (some v) (12 + v.data.length) =
    (.success, 12 + v.data.length, some v) := by
  simp only [zwQueryValueKey, if_neg (Nat.not_lt.mpr (Nat.le_add_right 12 v.data.length)),
    if_neg (Nat.lt_irrefl _)]

/-- **It fails with everything given back, or comes to the switch.** -/
theorem query_cases (checked : Bool) (cp : CodePage) (answers : Answers)
    {values : List UInt16 → Option Value} {name : List UInt8}
    (hv : values (cp.toUnicode name) = some v) :
    (∃ status p, registryQuerySzValue checked cp answers values name .init =
        some (status, none, ⟨p, false, false⟩) ∧ status ≠ .success ∧ p.live = []) ∨
      registryQuerySzValue checked cp answers values name .init =
        (decode checked cp answers.pool v (fresh 2)).map (finish v) := by
  have hfits := v.fits
  have hname : Memory.init.newUnicode cp answers.pool name = _ :=
    newUnicode_fresh cp answers.pool name 0
  unfold registryQuerySzValue
  rw [hname]
  by_cases hlong : maxUstring < (cp.toUnicode name).length
  · rw [if_pos hlong]
    exact .inl ⟨_, _, rfl, nofun, rfl⟩
  by_cases hfree : answers.pool 0 = true
  · rw [if_neg hlong, if_pos hfree]
    simp only [hv]
    cases hfirst : answers.first with
    | some code => exact .inl ⟨.error code, _, rfl, nofun, rfl⟩
    | none =>
        have hsize : zwQueryValueKey none (some v) 0 =
            (.bufferTooSmall, 12 + v.data.length, none) := rfl
        have hsome : ¬(12 + v.data.length) % 2 ^ 32 = 0 := by omega
        simp only [hsize, allocate_fresh, if_neg hsome, ne_eq, not_true_eq_false, and_false,
          if_false]
        by_cases hanswer : answers.pool 1 = true
        · rw [if_pos hanswer]
          cases hsecond : answers.second with
          | some code => exact .inl ⟨.error code, _, rfl, nofun, rfl⟩
          | none =>
              simp only [zwQueryValueKey_written]
              right
              cases decode checked cp answers.pool v (fresh 2) with
              | none => rfl
              | some r =>
                  obtain ⟨ok, p⟩ := r
                  cases ok <;> rfl
        · rw [if_neg hanswer]
          exact .inl ⟨_, _, rfl, nofun, rfl⟩
  · rw [if_neg hlong, if_neg hfree]
    exact .inl ⟨_, _, rfl, nofun, rfl⟩

/-- **It comes to the switch**, where nothing is refused. -/
theorem query_granting (checked : Bool) {values : List UInt16 → Option Value} {name : List UInt8}
    (hname : (cp.toUnicode name).length ≤ maxUstring) (hv : values (cp.toUnicode name) = some v)
    (asked : Nat) :
    registryQuerySzValue checked cp granting values name ⟨fresh asked, false, false⟩ =
      (decode checked cp (fun _ => true) v (fresh (asked + 2))).map (finish v) := by
  have hsome : ¬(12 + v.data.length) % 2 ^ 32 = 0 := by
    have := v.fits
    omega
  have hsize : zwQueryValueKey none (some v) 0 = (.bufferTooSmall, 12 + v.data.length, none) := rfl
  simp only [registryQuerySzValue, granting, newUnicode_fresh, if_neg (Nat.not_lt.mpr hname),
    if_true, hv, hsize, zwQueryValueKey_written, allocate_fresh, if_neg hsome, ne_eq,
    not_true_eq_false, and_false, if_false]
  cases decode checked cp (fun _ => true) v (fresh (asked + 2)) with
  | none => rfl
  | some r =>
      obtain ⟨ok, p⟩ := r
      cases ok <;> rfl

/-- **What may be read ends**, and there is an array for it. -/
theorem Safe.ended (hsafe : Safe checked cp v) :
    ∃ strings, Ended v.type (wchars v.data) strings ∧ Roomy checked cp strings := by
  by_contra hwrong
  have hname : (cp.toUnicode []).length ≤ maxUstring := by
    rw [cp.toUnicode_ascii [] nofun]
    decide
  have hnone : registryQuerySzValue checked cp granting (fun _ => some v) [] .init = _ :=
    query_granting checked hname rfl 0
  obtain ⟨status, type, m, hrun, -⟩ := hsafe granting (fun _ => some v) [] rfl
  rw [decode_wrong hwrong] at hnone
  exact absurd (hnone.symm.trans hrun) nofun

/-- **What ends may be read**, if there is an array for it. -/
theorem Ended.safe (hended : Ended v.type (wchars v.data) strings)
    (hroomy : Roomy checked cp strings) : Safe checked cp v := by
  intro answers values name hv
  rcases query_cases checked cp answers hv with ⟨status, p, hrun, hne, -⟩ | hrun
  · exact ⟨status, none, _, hrun, fun e => absurd e hne⟩
  · obtain ⟨ok, p, hdecode, hmade, -⟩ := decode_ended hended hroomy answers.pool 2
    rw [hdecode] at hrun
    refine ⟨_, _, _, hrun, fun hstatus => ?_⟩
    cases ok with
    | true =>
        obtain ⟨hdecoded, hreached⟩ := hmade rfl
        exact hdecoded.terminated hreached
    | false => exact absurd hstatus (failure_ne_success v.type)

end Decode

/-- **What the registry has may be read just where it ends**, and where there is an array for it. -/
theorem safe_iff (checked : Bool) (cp : CodePage) (v : Value) : Safe checked cp v ↔
    ∃ strings, Ended v.type (wchars v.data) strings ∧ Roomy checked cp strings :=
  ⟨Safe.ended, fun ⟨_, hended, hroomy⟩ => hended.safe hroomy⟩

/-- A character with no NUL behind it. -/
theorem not_safe_of_no_nul : ¬∀ (checked : Bool) (cp : CodePage) (v : Value),
    v.type = .sz ∨ v.type = .multiSz → Safe checked cp v := by
  intro hall
  obtain ⟨strings, ⟨s, rest, hdata, -⟩, -⟩ :=
    (hall false latin1 ⟨.sz, [65, 0], by decide⟩ (.inl rfl)).ended
  have hmem : (0 : UInt16) ∈ wchars [65, 0] := by
    rw [hdata]
    exact List.mem_append_right _ List.mem_cons_self
  exact absurd hmem (by decide)

end Xencons.Registry
