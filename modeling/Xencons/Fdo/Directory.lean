import Mathlib.Algebra.Group.Nat.Defs
import Mathlib.Data.List.Count
import Mathlib.Data.List.Basic

/-!
# What a scan reads (fdo.c)

`FdoScan` gets the keys of `device/console` as one multi-sz, upcases it in place and takes it apart
into an array of `ANSI_STRING`s. Whoever is done with one of them sets its `Length` to zero.

* `fdoMultiSzToUpcaseAnsi` -- the two loops of `__FdoMultiSzToUpcaseAnsi`;
  `fdoMultiSzToUpcaseAnsi_multiSz`: of the keys of a directory they make the upcased keys;
* `dropUnsupported`, `consume` -- the two that set a `Length` to zero;
* `liveKeys` -- what is left: `liveKeys_consume`, and `LengthsOk`, which both keep;
* `pdoSetName` -- `__PdoSetName`.
-/

namespace Xencons

/-! ## 1. Multi-sz -/

/-- Names are compared character by character. -/
instance lawfulBEq_name : LawfulBEq (List Char) := List.instLawfulBEq

/-- `'\0'` -/
def NUL : Char := Char.ofNat 0

/-- `__toupper` -/
def toupper (c : Char) : Char :=
  if c < 'a' || 'z' < c then c else Char.ofNat ('A'.toNat + c.toNat - 'a'.toNat)

/-- What the store returns for a directory with these keys. -/
def multiSz (keys : List (List Char)) : List Char := keys.flatMap (· ++ [NUL]) ++ [NUL, NUL]

/-- An `ANSI_STRING`: `Buffer` up to its NUL, and `Length`. -/
structure AnsiString where
  buffer : List Char
  length : Nat
deriving DecidableEq

/-- `Length` is a `USHORT`; the copy of a string that does not fit one is overrun. -/
def AnsiString.ofName (name : List Char) : AnsiString := ⟨name, name.length % 2 ^ 16⟩

/-- The first loop of `__FdoMultiSzToUpcaseAnsi`, up to a double NUL: the buffer as it leaves it,
    and `Count`. There is none for a buffer without a double NUL. -/
def upcaseLoop : List Char → Option (List Char × Nat)
  | [] => none
  | c :: rest =>
    if c = NUL then
      if rest.head? = some NUL then some (c :: rest, 1)
      else (upcaseLoop rest).map fun (buffer, count) => (c :: buffer, count + 1)
    else (upcaseLoop rest).map fun (buffer, count) => (toupper c :: buffer, count)

/-- The second loop, with `strlen`. -/
def ansiLoop : Nat → List Char → List AnsiString
  | 0, _ => []
  | count + 1, buffer =>
    let name := buffer.takeWhile (· ≠ NUL)
    .ofName name :: ansiLoop count (buffer.drop (name.length + 1))

/-- `__FdoMultiSzToUpcaseAnsi`; it frees what it has where an allocation fails. -/
def fdoMultiSzToUpcaseAnsi (buffer : List Char) (allocated : Bool) : Option (List AnsiString) :=
  match upcaseLoop buffer with
  | some (buffer, count) => if allocated then some (ansiLoop count buffer) else none
  | none => none

/-- Upcasing makes no end of a string. -/
theorem toupper_ne_NUL {c : Char} (h : c ≠ NUL) : toupper c ≠ NUL := by
  have hletter : ∀ n < 123, 97 ≤ n → Char.ofNat (65 + n - 97) ≠ NUL := by decide
  unfold toupper
  split
  · exact h
  · rename_i hc
    simp only [Bool.or_eq_true, decide_eq_true_eq, not_or, Char.not_lt] at hc
    exact hletter c.toNat (Nat.lt_succ_of_le hc.2) hc.1

theorem NUL_notMem_upcase {k : List Char} (h : NUL ∉ k) : NUL ∉ k.map toupper := by
  rintro hk
  obtain ⟨c, hc, e⟩ := List.mem_map.mp hk
  exact toupper_ne_NUL (fun e' => h (e' ▸ hc)) e

/-- The first loop goes through one string, with another one behind it. -/
theorem upcaseLoop_string {k buffer : List Char} (hk : NUL ∉ k) (hb : buffer.head? ≠ some NUL) :
    upcaseLoop (k ++ NUL :: buffer) =
      (upcaseLoop buffer).map fun (b, count) => (k.map toupper ++ NUL :: b, count + 1) := by
  induction k with
  | nil => simp [upcaseLoop, hb]
  | cons c k ih =>
      obtain ⟨hc, hk⟩ := not_or.mp (mt List.mem_cons.mpr hk)
      rw [List.cons_append, upcaseLoop, if_neg (Ne.symm hc), ih hk]
      cases upcaseLoop buffer <;> rfl

/-- It stops behind the last one. -/
theorem upcaseLoop_last {k : List Char} (hk : NUL ∉ k) :
    upcaseLoop (k ++ [NUL, NUL, NUL]) = some (k.map toupper ++ [NUL, NUL, NUL], 1) := by
  induction k with
  | nil => rfl
  | cons c k ih =>
      obtain ⟨hc, hk⟩ := not_or.mp (mt List.mem_cons.mpr hk)
      rw [List.cons_append, upcaseLoop, if_neg (Ne.symm hc), ih hk]
      rfl

theorem multiSz_cons (k : List Char) (keys : List (List Char)) :
    multiSz (k :: keys) = k ++ NUL :: multiSz keys := by
  simp [multiSz]

/-- **The first loop upcases the keys and counts them.** -/
theorem upcaseLoop_multiSz {k : List Char} {keys : List (List Char)}
    (h : ∀ k' ∈ k :: keys, k' ≠ [] ∧ NUL ∉ k') :
    upcaseLoop (multiSz (k :: keys)) =
      some (multiSz ((k :: keys).map (·.map toupper)), keys.length + 1) := by
  induction keys generalizing k with
  | nil =>
      rw [multiSz_cons, List.map_singleton, multiSz_cons]
      exact upcaseLoop_last (h k List.mem_cons_self).2
  | cons k' keys ih =>
      have hhead : (multiSz (k' :: keys)).head? ≠ some NUL := by
        obtain ⟨hne, hnul⟩ := h k' (by simp)
        obtain ⟨c, k', rfl⟩ := List.exists_cons_of_ne_nil hne
        intro e
        rw [multiSz_cons, List.cons_append, List.head?_cons, Option.some.injEq] at e
        exact hnul (e ▸ List.mem_cons_self)
      rw [multiSz_cons, upcaseLoop_string (h k List.mem_cons_self).2 hhead,
        ih fun k'' hk => h k'' (List.mem_cons_of_mem _ hk), List.map_cons (l := k' :: keys),
        multiSz_cons (k.map toupper)]
      rfl

/-- **The second loop takes them apart again.** -/
theorem ansiLoop_multiSz {keys : List (List Char)} (h : ∀ k ∈ keys, NUL ∉ k) :
    ansiLoop keys.length (multiSz keys) = keys.map .ofName := by
  induction keys with
  | nil => rfl
  | cons k keys ih =>
      have hname : (multiSz (k :: keys)).takeWhile (· ≠ NUL) = k := by
        have hk : ∀ c ∈ k, decide (c ≠ NUL) = true := fun c hc =>
          decide_eq_true fun e => h k List.mem_cons_self (e ▸ hc)
        rw [multiSz_cons, List.takeWhile_append_of_pos hk]
        simp
      rw [List.length_cons, ansiLoop, hname, List.map_cons]
      have hdrop : (multiSz (k :: keys)).drop (k.length + 1) = multiSz keys := by
        rw [multiSz_cons, List.append_cons]
        exact List.drop_left' (by simp)
      rw [hdrop, ih fun k' hk => h k' (List.mem_cons_of_mem _ hk)]

/-- **Of the keys of a directory it makes the upcased keys.** -/
theorem fdoMultiSzToUpcaseAnsi_multiSz {keys : List (List Char)} (hne : keys ≠ [])
    (h : ∀ k ∈ keys, k ≠ [] ∧ NUL ∉ k) :
    fdoMultiSzToUpcaseAnsi (multiSz keys) true =
      some (keys.map fun k => .ofName (k.map toupper)) := by
  obtain ⟨k, keys, rfl⟩ := List.exists_cons_of_ne_nil hne
  have hupcase : ∀ k' ∈ (k :: keys).map (·.map toupper), NUL ∉ k' := by
    intro k' hk'
    obtain ⟨k₀, hk₀, rfl⟩ := List.mem_map.mp hk'
    exact NUL_notMem_upcase (h k₀ hk₀).2
  have hansi := ansiLoop_multiSz hupcase
  rw [List.length_map, List.length_cons, List.map_map] at hansi
  rw [fdoMultiSzToUpcaseAnsi, upcaseLoop_multiSz h]
  dsimp only
  rw [if_pos rfl, hansi]
  rfl

example : fdoMultiSzToUpcaseAnsi (multiSz ["a".toList, "0".toList]) true =
    some [.ofName ['A'], .ofName ['0']] := by decide

/-! ## 2. Lengths set to zero -/

/-- `strncmp(Device->Buffer, UnsupportedDevices[Entry].Buffer, Device->Length) == 0` for one
    entry. -/
def AnsiString.unsupported (entries : List (List Char)) (d : AnsiString) : Bool :=
  entries.any fun entry => d.buffer.take d.length = entry.take d.length

/-- The loop of `FdoScan` over the device list. -/
def dropUnsupported (entries : List (List Char)) (devices : List AnsiString) : List AnsiString :=
  devices.map fun d => if d.unsupported entries then { d with length := 0 } else d

/-- The loop of `__FdoEnumerate` that looks for a name in the device list, "avoid duplication":
    whether it finds it, and the list as it leaves it. -/
def consume (name : List Char) : List AnsiString → Bool × List AnsiString
  | [] => (false, [])
  | d :: devices =>
    if d.length = 0 then ((consume name devices).1, d :: (consume name devices).2)
    else if name = d.buffer then (true, { d with length := 0 } :: devices)
    else ((consume name devices).1, d :: (consume name devices).2)

/-- The names in the list that nobody is done with. -/
def liveKeys (devices : List AnsiString) : List (List Char) :=
  (devices.filter (·.length ≠ 0)).map (·.buffer)

theorem liveKeys_cons (d : AnsiString) (devices : List AnsiString) :
    liveKeys (d :: devices) = if d.length = 0 then liveKeys devices
      else d.buffer :: liveKeys devices := by
  by_cases h : d.length = 0 <;> simp [liveKeys, h]

/-- **What is found is gone, once.** -/
theorem liveKeys_consume (name : List Char) (devices : List AnsiString) :
    liveKeys (consume name devices).2 = (liveKeys devices).erase name := by
  induction devices with
  | nil => rfl
  | cons d devices ih =>
      unfold consume
      split
      · rename_i h0
        rw [liveKeys_cons, if_pos h0, liveKeys_cons, if_pos h0, ih]
      · rename_i h0
        split
        · rename_i hd
          rw [liveKeys_cons, if_pos rfl, liveKeys_cons, if_neg h0, hd, List.erase_cons_head]
        · rename_i hd
          rw [liveKeys_cons, if_neg h0, liveKeys_cons, if_neg h0, ih,
            List.erase_cons_tail (by simpa using Ne.symm hd)]

theorem consume_found (name : List Char) (devices : List AnsiString) :
    (consume name devices).1 = true ↔ name ∈ liveKeys devices := by
  induction devices with
  | nil => simp [consume, liveKeys]
  | cons d devices ih =>
      unfold consume
      split
      · rename_i h0
        rw [liveKeys_cons, if_pos h0, ih]
      · rename_i h0
        rw [liveKeys_cons, if_neg h0, List.mem_cons]
        split
        · rename_i hd
          exact iff_of_true rfl (.inl hd)
        · rename_i hd
          rw [ih]
          exact (or_iff_right hd).symm

/-- A `Length` is what the string had, or zero. -/
def LengthsOk (devices : List AnsiString) : Prop :=
  ∀ d ∈ devices, d.length ≠ 0 → d = .ofName d.buffer

theorem LengthsOk.ansiLoop (count : Nat) (buffer : List Char) :
    LengthsOk (ansiLoop count buffer) := by
  induction count generalizing buffer with
  | zero => exact nofun
  | succ count ih =>
      intro d hd h0
      rcases List.mem_cons.mp hd with rfl | hd
      · rfl
      · exact ih _ d hd h0

theorem LengthsOk.dropUnsupported {devices : List AnsiString} (h : LengthsOk devices)
    (entries : List (List Char)) : LengthsOk (dropUnsupported entries devices) := by
  intro d hd h0
  obtain ⟨d', hd', rfl⟩ := List.mem_map.mp hd
  split at h0
  · exact absurd rfl h0
  · rename_i hs
    rw [if_neg hs]
    exact h d' hd' h0

theorem LengthsOk.consume {devices : List AnsiString} (h : LengthsOk devices) (name : List Char) :
    LengthsOk (consume name devices).2 := by
  induction devices with
  | nil => exact nofun
  | cons d devices ih =>
      have htail := ih fun d' hd' => h d' (List.mem_cons_of_mem _ hd')
      unfold Xencons.consume
      split
      · intro d' hd' h0
        rcases List.mem_cons.mp hd' with rfl | hd'
        · exact h _ List.mem_cons_self h0
        · exact htail d' hd' h0
      · split
        · intro d' hd' h0
          rcases List.mem_cons.mp hd' with rfl | hd'
          · exact absurd rfl h0
          · exact h d' (List.mem_cons_of_mem _ hd') h0
        · intro d' hd' h0
          rcases List.mem_cons.mp hd' with rfl | hd'
          · exact h _ List.mem_cons_self h0
          · exact htail d' hd' h0

/-! ## 3. The name of a PDO -/

/-- `MAX_DEVICE_ID_LEN` -/
def MAX_DEVICE_ID_LEN : Nat := 200

/-- `__PdoSetName`: `RtlStringCbPrintfA` leaves of a name what there is room for. -/
def pdoSetName : Option AnsiString → String
  | none => "0"
  | some d => String.ofList ((d.buffer.take d.length).take (MAX_DEVICE_ID_LEN - 1))

end Xencons
