import Xencons.Registry.Decode

/-!
# Strings to the registry (registry.c)

`RegistryUpdateSzValue` makes the data of a value of an array of `ANSI_STRING`s, in a block that is
as long as its `DataLength` says. What is left of the block is a `UNICODE_STRING`'s `MaximumLength`
at each string: `RegistryAnsiToMultiSz` makes a `USHORT` of `DataLength`, and `RegistryAnsiToSz` a
`UCHAR`.

* `Source` -- an `ANSI_STRING` of the caller's; `PartialInformation` -- what is made of them;
* `registryAnsiToSz`, `registryAnsiToMultiSz`, `registryUpdateSzValue` -- as the code has them; what
  is read or written outside is `none`, and so is an `ASSERT3U` that fails in a checked build;
* `Holds`, `Ascii` -- the strings of an array, and which of them there are in every code page:
  `lengthLoop_holds`, `convertLoop_holds`, `registryAnsiToSz_text`;
* **`registryMultiSzToAnsi_registryAnsiToMultiSz`** -- an array of strings comes back as it was;
  **`roundTrips_iff`** -- a single string does if `UCHAR` has room for it.
-/

namespace Xencons.Registry

open MultiSz (Pool)

/-! ## 1. The functions -/

/-- An `ANSI_STRING` of the caller's, with what its buffer has, if it is not `NULL`. -/
structure Source where
  length : Nat
  buffer : Option (List UInt8)
  length_lt : length < 2 ^ 16

/-- The characters of the string. -/
def Source.text (e : Source) : Option (List UInt8) :=
  let buffer := e.buffer.getD []
  if e.length ≤ buffer.length then some (buffer.take e.length) else none

/-- `KEY_VALUE_PARTIAL_INFORMATION`; its `Data` is up to the end of the block. -/
structure PartialInformation where
  titleIndex : Nat
  type : ValueType
  dataLength : Nat
  data : List UInt16
deriving DecidableEq

/-- `Partial`, in a block of so many bytes that has been zeroed. -/
def newPartial (size : Nat) (type : ValueType) (length : Nat) : Option PartialInformation :=
  if 12 ≤ size then some ⟨0, type, length * 2 % 2 ^ 32, List.replicate ((size - 12) / 2) 0⟩
  else none

/-- What is written to `Data` from this character on. -/
def writeData (offset : Nat) (text data : List UInt16) : Option (List UInt16) :=
  if offset + text.length ≤ data.length then
    some (data.take offset ++ text ++ data.drop (offset + text.length))
  else none

/-- `RegistryAnsiToSz`; nothing where `NULL` is returned. -/
def registryAnsiToSz (cp : CodePage) (answers : Nat → Bool) (ansi : List Source) (p : Pool) :
    Option (Option PartialInformation × Pool) := do
  let e ← ansi.head?
  let length := e.length + 1
  match p.allocate answers (12 + length * 2) with
  -- fail1
  | (none, p) => some (none, p)
  | (some size, p) => do
    let info ← newPartial size .sz length
    -- (UCHAR)Partial->DataLength
    let maximumLength := info.dataLength % 2 ^ 8
    match cp.rtlAnsiStringToUnicodeString (← e.text) maximumLength with
    -- fail2
    | .error _ => some (none, p)
    | .ok text => do
      let data ← writeData 0 text info.data
      some (some { info with data }, p)

/-- The first loop of `RegistryAnsiToMultiSz`. It does not end where `ULONG Index` overflows, as it
    then starts again. -/
def lengthLoop : List Source → Nat → Nat → Option Nat
  | [], _, _ => none
  | e :: ansi, index, length =>
    if e.buffer = none then some length
    else if index + 1 < 2 ^ 32 then
      lengthLoop ansi (index + 1) ((length + (e.length + 1)) % 2 ^ 32)
    else none

/-- The second loop: where `Unicode.Buffer` is, and `Data`; nothing where it fails. -/
def convertLoop (checked : Bool) (cp : CodePage) :
    List Source → Nat → Nat → List UInt16 → Option (Option (Nat × List UInt16))
  | [], _, _, _ => none
  | e :: ansi, offset, maximumLength, data => do
    if e.buffer = none then some (some (offset, data))
    else
      match cp.rtlAnsiStringToUnicodeString (← e.text) maximumLength with
      | .error _ => some none
      | .ok text => do
        let data ← writeData offset text data
        -- the NUL is not in Unicode.Length
        let length := text.length - 1
        -- ASSERT3U(Unicode.MaximumLength, >=, (Length + 1) * sizeof (WCHAR))
        if checked && maximumLength < (length + 1) * 2 then none
        else
          -- USHORT MaximumLength
          let left := (maximumLength + 2 ^ 16 - (length + 1) * 2 % 2 ^ 16) % 2 ^ 16
          convertLoop checked cp ansi (offset + (length + 1)) left data

/-- `RegistryAnsiToMultiSz` -/
def registryAnsiToMultiSz (checked : Bool) (cp : CodePage) (answers : Nat → Bool)
    (ansi : List Source) (p : Pool) : Option (Option PartialInformation × Pool) := do
  let length ← lengthLoop ansi 0 1
  match p.allocate answers (12 + length * 2) with
  -- fail1
  | (none, p) => some (none, p)
  | (some size, p) => do
    let info ← newPartial size .multiSz length
    match ← convertLoop checked cp ansi 0 (info.dataLength % 2 ^ 16) info.data with
    -- fail2
    | none => some (none, p)
    | some (offset, data) => do
      let data ← writeData offset [0] data
      some (some { info with data }, p)

/-- The switch of `RegistryUpdateSzValue`: `Partial`, if it is not `NULL`. -/
def encode (checked : Bool) (cp : CodePage) (answers : Nat → Bool) (type : ValueType)
    (ansi : List Source) (p : Pool) : Option (Option PartialInformation × Pool) :=
  match type with
  | .sz => registryAnsiToSz cp answers ansi p
  | .multiSz => registryAnsiToMultiSz checked cp answers ansi p
  | .other _ => some (none, p)

/-- What `ZwSetValueKey` stores: the `DataLength` bytes that it is given. A block is no longer than
    `ULONG` says. -/
def zwSetValueKey (info : PartialInformation) : Option Value :=
  if h : info.dataLength ≤ (bytes info.data).length ∧ 12 + info.dataLength < 2 ^ 32 then
    some ⟨info.type, (bytes info.data).take info.dataLength, by
      rw [List.length_take, Nat.min_eq_left h.1]
      exact h.2⟩
  else none

/-- `RegistryUpdateSzValue`, with the values of the key. -/
def registryUpdateSzValue (checked : Bool) (cp : CodePage) (answers : Answers)
    (values : List UInt16 → Option Value) (name : List UInt8) (type : ValueType)
    (ansi : List Source) (m : Memory) :
    Option (Status × (List UInt16 → Option Value) × Memory) :=
  match m.newUnicode cp answers.pool name with
  -- fail1
  | (.error status, m) => some (status, values, m)
  | (.ok unicode, m) => do
    match ← encode checked cp answers.pool type ansi m.toPool with
    -- fail2
    | (none, p) => some (type.failure, values, Memory.freeUnicode { m with toPool := p })
    | (some info, p) =>
      let m : Memory := { m with toPool := p, value := true }
      match answers.set with
      -- fail3
      | some code => some (.error code, values, m.freeValue.freeUnicode)
      | none => do
        let v ← zwSetValueKey info
        some (.success, Function.update values unicode (some v), m.freeValue.freeUnicode)

/-! ## 2. The loops -/

/-- **The array has these strings**, and `NULL` behind them. -/
inductive Holds : List Source → List (List UInt8) → Prop
  | nil {last : Source} (rest : List Source) (hlast : last.buffer = none) : Holds (last :: rest) []
  | cons {e : Source} {ansi : List Source} {s : List UInt8} {strings : List (List UInt8)}
      (hbuffer : e.buffer ≠ none) (htext : e.text = some s) (h : Holds ansi strings) :
      Holds (e :: ansi) (s :: strings)

/-- A string of characters below 128, with no NUL. -/
def Ascii (s : List UInt8) : Prop := 0 ∉ s ∧ ∀ c ∈ s, c < 128

instance (s : List UInt8) : Decidable (Ascii s) :=
  @instDecidableAnd _ _ inferInstance (List.decidableBAll (· < 128) s)

/-- The characters as they are in UTF-16. -/
def wide (s : List UInt8) : List UInt16 := s.map UInt8.toUInt16

section Loops

variable {cp : CodePage} {e : Source} {s : List UInt8} {strings : List (List UInt8)}
  {ansi : List Source} {checked : Bool}

@[simp] theorem length_wide (s : List UInt8) : (wide s).length = s.length := List.length_map _

theorem zero_notMem_wide (h0 : 0 ∉ s) : 0 ∉ wide s := by
  intro h
  obtain ⟨c, hc, e⟩ := List.mem_map.mp h
  have hzero : c = 0 := UInt8.toNat_inj.mp (congrArg UInt16.toNat e)
  exact h0 (hzero ▸ hc)

theorem wide_multiSz (strings : List (List UInt8)) :
    wide (MultiSz.multiSz strings) = (strings.map wide).flatMap (· ++ [0]) ++ [0] := by
  rw [wide, MultiSz.multiSz, List.map_append, List.map_flatMap, List.flatMap_map]
  refine congrArg₂ _ (List.flatMap_congr fun s _ => ?_) rfl
  rw [List.map_append]
  rfl

/-- The NUL of the last string is ahead of the last one. -/
theorem suffix_wide_multiSz (hne : strings ≠ []) :
    [0, 0] <:+ wide (MultiSz.multiSz strings) := by
  obtain ⟨front, s, rfl⟩ := (List.eq_nil_or_concat' strings).resolve_left hne
  refine ⟨(front.map wide).flatMap (· ++ [0]) ++ wide s, ?_⟩
  rw [wide_multiSz]
  simp

theorem length_text (h : e.text = some s) : e.length = s.length := by
  unfold Source.text at h
  by_cases hfits : e.length ≤ (e.buffer.getD []).length
  · rw [if_pos hfits] at h
    rw [← Option.some.inj h, List.length_take, Nat.min_eq_left hfits]
  · rw [if_neg hfits] at h
    cases h

/-- What is written is ahead of what is left. -/
theorem writeData_append (front : List UInt16) {text back : List UInt16}
    (h : text.length ≤ back.length) :
    writeData front.length text (front ++ back) =
      some (front ++ text ++ back.drop text.length) := by
  have hfits : front.length + text.length ≤ (front ++ back).length := by
    rw [List.length_append]
    omega
  rw [writeData, if_pos hfits, List.take_left, ← List.drop_drop, List.drop_left]

/-- **The first loop adds up the lengths**, from the 1 for the last NUL on. -/
theorem lengthLoop_holds (h : Holds ansi strings) {index length : Nat}
    (hindex : index + strings.length < 2 ^ 32)
    (hlength : length + (MultiSz.multiSz strings).length < 2 ^ 32) :
    lengthLoop ansi index (length + 1) = some (length + (MultiSz.multiSz strings).length) := by
  induction h generalizing index length with
  | nil rest hlast => rw [lengthLoop, if_pos hlast]; rfl
  | @cons e ansi s strings hbuffer htext h ih =>
      rw [MultiSz.multiSz_cons, List.length_append, List.length_cons] at hlength ⊢
      rw [List.length_cons] at hindex
      have hpos := MultiSz.length_multiSz_pos strings
      have hnext : (length + 1 + (e.length + 1)) % 2 ^ 32 = length + s.length + 1 + 1 := by
        rw [length_text htext, Nat.mod_eq_of_lt (by omega)]
        omega
      rw [lengthLoop, if_neg hbuffer, if_pos (by omega), hnext, ih (by omega) (by omega)]
      exact congrArg some (by omega)

/-- **The second loop converts the strings** where what is left is as long as they are: the last
    character is left at its end. -/
theorem convertLoop_holds (checked : Bool) (cp : CodePage) (h : Holds ansi strings)
    (hascii : ∀ s ∈ strings, Ascii s) {front back : List UInt16}
    (hback : back.length = (MultiSz.multiSz strings).length) (hsize : back.length * 2 < 2 ^ 16) :
    ∃ last, convertLoop checked cp ansi front.length (back.length * 2) (front ++ back) =
      some (some ((front ++ (strings.map wide).flatMap (· ++ [0])).length,
        front ++ (strings.map wide).flatMap (· ++ [0]) ++ [last])) := by
  induction h generalizing front back with
  | nil rest hlast =>
      obtain ⟨last, rfl⟩ := List.length_eq_one_iff.mp hback
      refine ⟨last, ?_⟩
      rw [convertLoop, if_pos hlast, List.map_nil, List.flatMap_nil, List.append_nil]
  | @cons e ansi s strings hbuffer htext h ih =>
      obtain ⟨h0, hlow⟩ := hascii s List.mem_cons_self
      rw [MultiSz.multiSz_cons, List.length_append, List.length_cons] at hback
      have hpos := MultiSz.length_multiSz_pos strings
      have htextLength : (wide s ++ [0]).length = s.length + 1 := by
        rw [List.length_append, length_wide, List.length_singleton]
      have hconv : cp.rtlAnsiStringToUnicodeString s (back.length * 2) = .ok (wide s ++ [0]) :=
        cp.rtlAnsiStringToUnicodeString_ascii hlow (by unfold maxUstring; omega) (by omega)
      have hfits : (wide s ++ [0]).length ≤ back.length := by
        rw [htextLength]
        omega
      have hwrite := writeData_append front hfits
      have hassert : ¬(checked && decide (back.length * 2 < (s.length + 1) * 2)) = true := by
        have hroom : ¬back.length * 2 < (s.length + 1) * 2 := by omega
        rw [decide_eq_false hroom, Bool.and_false]
        exact Bool.false_ne_true
      have hrest : (back.drop (s.length + 1)).length = (MultiSz.multiSz strings).length := by
        rw [List.length_drop]
        omega
      have hleft : (back.length * 2 + 2 ^ 16 - (s.length + 1) * 2 % 2 ^ 16) % 2 ^ 16 =
          (back.drop (s.length + 1)).length * 2 := by
        rw [List.length_drop]
        omega
      have hoffset : front.length + (s.length + 1) = (front ++ (wide s ++ [0])).length := by
        rw [List.length_append, htextLength]
      obtain ⟨last, hloop⟩ := @ih (fun s hs => hascii s (List.mem_cons_of_mem _ hs))
        (front ++ (wide s ++ [0])) _ hrest (by rw [hrest]; omega)
      refine ⟨last, ?_⟩
      simp only [convertLoop, if_neg hbuffer, htext, Option.bind_eq_bind, Option.bind_some, hconv,
        hwrite, htextLength, Nat.add_sub_cancel, if_neg hassert, hleft, hoffset, hloop]
      rw [List.map_cons, List.flatMap_cons, List.append_assoc]

/-- The block has `DataLength` bytes for the data. -/
theorem newPartial_block (type : ValueType) (length : Nat) (h : 12 + length * 2 < 2 ^ 32) :
    newPartial (12 + length * 2) type length =
      some ⟨0, type, length * 2, List.replicate length 0⟩ := by
  have hdata : (12 + length * 2 - 12) / 2 = length := by omega
  rw [newPartial, if_pos (Nat.le_add_right _ _), hdata, Nat.mod_eq_of_lt (by omega)]

theorem allocate_granting (size : Nat) (hpos : 0 < size) (hlt : size < 2 ^ 32) (asked : Nat) :
    (fresh asked).allocate (fun _ => true) size = (some size, fresh (asked + 1)) := by
  rw [allocate_fresh, Nat.mod_eq_of_lt hlt, if_neg (Nat.pos_iff_ne_zero.mp hpos), if_pos rfl]

theorem length_lt_multiSz (strings : List (List UInt8)) :
    strings.length < (MultiSz.multiSz strings).length := by
  have hwide := congrArg List.length (wide_multiSz strings)
  have hcount := length_le_flatMap (strings.map wide)
  rw [length_wide, List.length_append, List.length_singleton] at hwide
  rw [List.length_map] at hcount
  omega

/-- **The block is as long as its strings**, and is theirs to the last character. -/
theorem registryAnsiToMultiSz_holds (checked : Bool) (cp : CodePage) (h : Holds ansi strings)
    (hascii : ∀ s ∈ strings, Ascii s) (hsize : (MultiSz.multiSz strings).length * 2 < 2 ^ 16)
    (asked : Nat) :
    registryAnsiToMultiSz checked cp (fun _ => true) ansi (fresh asked) =
      some (some ⟨0, .multiSz, (MultiSz.multiSz strings).length * 2,
        wide (MultiSz.multiSz strings)⟩, fresh (asked + 1)) := by
  have hcount := length_lt_multiSz strings
  have hlength : lengthLoop ansi 0 (0 + 1) = some (0 + (MultiSz.multiSz strings).length) :=
    lengthLoop_holds h (by omega) (by omega)
  rw [Nat.zero_add, Nat.zero_add] at hlength
  have hback : (List.replicate (MultiSz.multiSz strings).length (0 : UInt16)).length =
      (MultiSz.multiSz strings).length := List.length_replicate
  obtain ⟨last, hconvert⟩ := @convertLoop_holds _ _ checked cp h hascii [] _ hback (by rwa [hback])
  rw [List.nil_append, List.nil_append, List.length_nil, hback] at hconvert
  have hnul : ([0] : List UInt16).length ≤ [last].length := Nat.le_refl 1
  simp only [registryAnsiToMultiSz, hlength, Option.bind_eq_bind, Option.bind_some,
    allocate_granting (12 + (MultiSz.multiSz strings).length * 2) (by omega) (by omega),
    newPartial_block .multiSz (MultiSz.multiSz strings).length (by omega),
    Nat.mod_eq_of_lt hsize, hconvert, writeData_append _ hnul]
  rw [wide_multiSz]
  simp

/-- **The length of a `REG_SZ` goes through `UCHAR`.** -/
theorem registryAnsiToSz_text (cp : CodePage) (htext : e.text = some s) (hs : Ascii s)
    (hsize : (s.length + 1) * 2 < 2 ^ 16) (rest : List Source) (asked : Nat) :
    registryAnsiToSz cp (fun _ => true) (e :: rest) (fresh asked) =
      some (if s.length ≤ 126 then some ⟨0, .sz, (s.length + 1) * 2, wide s ++ [0]⟩ else none,
        fresh (asked + 1)) := by
  have hlength : (wide s ++ [0]).length = s.length + 1 := by
    rw [List.length_append, length_wide, List.length_singleton]
  simp only [registryAnsiToSz, List.head?_cons, Option.bind_eq_bind, Option.bind_some,
    length_text htext, htext, allocate_granting (12 + (s.length + 1) * 2) (by omega) (by omega),
    newPartial_block .sz (s.length + 1) (by omega)]
  by_cases hshort : s.length ≤ 126
  · have hconv : cp.rtlAnsiStringToUnicodeString s ((s.length + 1) * 2 % 2 ^ 8) =
        .ok (wide s ++ [0]) :=
      cp.rtlAnsiStringToUnicodeString_ascii hs.2 (by unfold maxUstring; omega) (by omega)
    have hfits : (wide s ++ [0]).length ≤ (List.replicate (s.length + 1) (0 : UInt16)).length := by
      rw [hlength, List.length_replicate]
    have hwrite : writeData 0 (wide s ++ [0]) (List.replicate (s.length + 1) 0) =
        some (wide s ++ [0] ++ (List.replicate (s.length + 1) 0).drop (wide s ++ [0]).length) :=
      writeData_append [] hfits
    rw [hlength, List.drop_replicate, Nat.sub_self, List.replicate_zero, List.append_nil] at hwrite
    simp only [hconv, hwrite, Option.bind_some, if_pos hshort]
  · have hconv : cp.rtlAnsiStringToUnicodeString s ((s.length + 1) * 2 % 2 ^ 8) =
        .error .bufferOverflow :=
      cp.rtlAnsiStringToUnicodeString_overflow hs.2 (by unfold maxUstring; omega) (by omega)
    simp only [hconv, if_neg hshort]

end Loops

/-! ## 3. There and back -/

section Back

variable {cp : CodePage} {strings : List (List UInt8)} {left : Nat} {p : Pool}

theorem take_wide {s : List UInt8} (hlength : s.length ≤ maxUstring) :
    (wide s).take maxUstring = wide s :=
  List.take_of_length_le (by rwa [length_wide])

theorem maximumLength_wide {s : List UInt8} (hlength : s.length ≤ maxUstring) :
    maximumLength (wide s) = s.length + 1 := by
  unfold maxUstring at hlength
  rw [maximumLength, length_wide, Nat.mod_eq_of_lt (by omega)]

/-- A string below 128 comes out of its block as it was. -/
theorem stored_wide (cp : CodePage) {s : List UInt8} (hs : Ascii s)
    (hlength : s.length ≤ maxUstring) : stored cp (wide s) = s ++ [0] := by
  have hconv : cp.rtlUnicodeStringToAnsiString (wide s) (s.length + 1) = (true, s ++ [0]) :=
    cp.rtlUnicodeStringToAnsiString_ascii hs.2 (Nat.lt_succ_self _)
  simp only [stored, take_wide hlength, maximumLength_wide hlength, hconv, List.length_append,
    List.length_singleton, Nat.sub_self, List.replicate_zero, List.append_nil]

theorem converts_wide (cp : CodePage) {s : List UInt8} (hs : Ascii s)
    (hlength : s.length ≤ maxUstring) : Converts cp (wide s) := by
  have hansi : cp.toAnsi (wide s) = s := cp.toAnsi_ascii s hs.2
  rw [Converts, take_wide hlength, hansi, maximumLength_wide hlength]
  exact Nat.lt_succ_self _

/-- **What has been stored of such strings are the strings.** -/
theorem Decoded.filled (h : Decoded cp (strings.map wide) left p)
    (hascii : ∀ s ∈ strings, Ascii s) (hlength : ∀ s ∈ strings, s.length ≤ maxUstring) :
    MultiSz.Filled strings left p where
  ansi := by
    rw [h.ansi, entries, MultiSz.entries, List.zipIdx_map, List.map_map]
    refine congrArg₂ _ (List.map_congr_left fun e he => ?_) rfl
    obtain ⟨s, i⟩ := e
    have hs := hlength s (List.fst_mem_of_mem_zipIdx he)
    have hmod : s.length % 2 ^ 16 = s.length := by
      unfold maxUstring at hs
      omega
    simp only [Function.comp_apply, Prod.map_apply, length_wide, maximumLength_wide hs, hmod, id]
  buffers := by
    rw [h.buffers, List.map_map]
    exact List.map_congr_left fun s hs => stored_wide cp (hascii s hs) (hlength s hs)
  live := by rw [h.live, List.length_map]
  failed := h.failed

/-- **Such strings are read again** where nothing is refused. -/
theorem decode_wide (checked : Bool) (cp : CodePage) {v : Value} (htype : ∀ n, v.type ≠ .other n)
    (hended : Ended v.type (wchars v.data) (strings.map wide)) (hascii : ∀ s ∈ strings, Ascii s)
    (hlength : ∀ s ∈ strings, s.length ≤ maxUstring) (hshort : strings.length + 1 < 2 ^ 28)
    (asked : Nat) :
    ∃ p, decode checked cp (fun _ => true) v (fresh asked) = some (true, p) ∧
      MultiSz.Filled strings 1 p := by
  have hfit : ∀ s ∈ strings.map wide, s.length + 1 < 2 ^ 16 := by
    intro _ hw
    obtain ⟨s, hs, rfl⟩ := List.mem_map.mp hw
    have := hlength s hs
    unfold maxUstring at this
    rw [length_wide]
    omega
  have hconv : ∀ s ∈ strings.map wide, Converts cp s := by
    intro _ hw
    obtain ⟨s, hs, rfl⟩ := List.mem_map.mp hw
    exact converts_wide cp (hascii s hs) (hlength s hs)
  obtain ⟨p, hrun, hdecoded⟩ := decode_granting checked htype hended hfit hconv
    (by rwa [List.length_map]) asked
  exact ⟨p, hrun, hdecoded.filled hascii hlength⟩

/-- All of `Data` is stored. -/
theorem zwSetValueKey_all (info : PartialInformation)
    (hlength : info.dataLength = (bytes info.data).length) (hfits : 12 + info.dataLength < 2 ^ 32) :
    ∃ v, zwSetValueKey info = some v ∧ v.type = info.type ∧ v.data = bytes info.data := by
  refine ⟨_, dif_pos ⟨Nat.le_of_eq hlength, hfits⟩, rfl, ?_⟩
  exact List.take_of_length_le (Nat.le_of_eq hlength.symm)

end Back

/-- **An array of strings comes back as it was**: the strings have the block for themselves, and the
    decoder makes an array of them that ends behind the last. -/
theorem registryMultiSzToAnsi_registryAnsiToMultiSz (checked : Bool) (cp : CodePage)
    {ansi : List Source} {strings : List (List UInt8)} (h : Holds ansi strings) (hne : strings ≠ [])
    (hstrings : ∀ s ∈ strings, s ≠ [] ∧ Ascii s)
    (hsize : 2 * (MultiSz.multiSz strings).length ≤ 65535) (asked : Nat) :
    ∃ info p q, registryAnsiToMultiSz checked cp (fun _ => true) ansi (fresh asked) =
        some (some info, p) ∧
      info.data = wide (MultiSz.multiSz strings) ∧ info.dataLength = (bytes info.data).length ∧
      [0, 0] <:+ info.data ∧
      registryMultiSzToAnsi checked cp (fun _ => true) (wchars (bytes info.data)) p =
        some (true, q) ∧
      MultiSz.Filled strings 1 q := by
  have hascii : ∀ s ∈ strings, Ascii s := fun s hs => (hstrings s hs).2
  have hlt : (MultiSz.multiSz strings).length * 2 < 2 ^ 16 := by omega
  have hrun := registryAnsiToMultiSz_holds checked cp h hascii hlt asked
  have hbytes : (bytes (wide (MultiSz.multiSz strings))).length =
      (MultiSz.multiSz strings).length * 2 := by
    rw [length_bytes, length_wide, Nat.mul_comm]
  have hcount := length_lt_multiSz strings
  have hlength : ∀ s ∈ strings, s.length ≤ maxUstring := by
    intro s hs
    have hshort := length_lt_flatMap (List.mem_map_of_mem (f := wide) hs)
    have hwide := congrArg List.length (wide_multiSz strings)
    rw [length_wide, List.length_append, List.length_singleton] at hwide
    rw [length_wide] at hshort
    unfold maxUstring
    omega
  have hended : Ended .multiSz (wchars (bytes (wide (MultiSz.multiSz strings))))
      (strings.map wide) := by
    refine ⟨fun _ hw => ?_, [], ?_⟩
    · obtain ⟨s, hs, rfl⟩ := List.mem_map.mp hw
      obtain ⟨hne, h0, -⟩ := hstrings s hs
      exact ⟨fun e => hne (List.map_eq_nil_iff.mp e), zero_notMem_wide h0⟩
    · rw [wchars_bytes, wide_multiSz]
  obtain ⟨q, hdecode, hfilled⟩ := decode_wide checked cp
    (v := ⟨.multiSz, bytes (wide (MultiSz.multiSz strings)), by rw [hbytes]; omega⟩) nofun hended
    hascii hlength (by omega) (asked + 1)
  exact ⟨_, _, q, hrun, rfl, hbytes.symm, suffix_wide_multiSz hne, hdecode, hfilled⟩

/-- The strings `con` and `0`, out of a longer buffer. -/
theorem registryMultiSzToAnsi_registryAnsiToMultiSz_two :
    ∃ info p q, registryAnsiToMultiSz true latin1 (fun _ => true)
        [⟨3, some [99, 111, 110, 47], by decide⟩, ⟨1, some [48, 0], by decide⟩,
          ⟨0, none, by decide⟩] (fresh 0) = some (some info, p) ∧
      info.data = wide (MultiSz.multiSz [[99, 111, 110], [48]]) ∧
      info.dataLength = (bytes info.data).length ∧ [0, 0] <:+ info.data ∧
      registryMultiSzToAnsi true latin1 (fun _ => true) (wchars (bytes info.data)) p =
        some (true, q) ∧
      MultiSz.Filled [[99, 111, 110], [48]] 1 q :=
  registryMultiSzToAnsi_registryAnsiToMultiSz true latin1
    (.cons (by decide) rfl (.cons (by decide) rfl (.nil [] rfl))) nofun (by decide) (by decide) 0

/-- `update` and then `query`, with the same name: the string comes back in an array of its own. -/
def RoundTrips (checked : Bool) (cp : CodePage) (s : List UInt8) : Prop :=
  ∀ e rest name values, Source.text e = some s → (cp.toUnicode name).length ≤ maxUstring →
    ∃ values' m m', registryUpdateSzValue checked cp granting values name .sz (e :: rest) .init =
        some (.success, values', m) ∧
      registryQuerySzValue checked cp granting values' name m = some (.success, some .sz, m') ∧
      MultiSz.Filled [s] 1 m'.toPool

section Sz

variable {cp : CodePage} {s : List UInt8} {checked : Bool} {e : Source} {name : List UInt8}

/-- **`RegistryUpdateSzValue` stores the string**, or what the encoder has not made. -/
theorem update_sz (checked : Bool) (htext : e.text = some s) (hs : Ascii s)
    (hsize : 2 * (s.length + 1) ≤ 65535) (hname : (cp.toUnicode name).length ≤ maxUstring)
    (values : List UInt16 → Option Value) (rest : List Source) :
    ∃ v : Value, v.type = .sz ∧ v.data = bytes (wide s ++ [0]) ∧
      registryUpdateSzValue checked cp granting values name .sz (e :: rest) .init =
        some (if s.length ≤ 126 then
          (.success, Function.update values (cp.toUnicode name) (some v), ⟨fresh 2, false, false⟩)
        else (.noMemory, values, ⟨fresh 2, false, false⟩)) := by
  have hunicode : Memory.newUnicode cp (fun _ => true) name .init = _ :=
    newUnicode_fresh cp (fun _ => true) name 0
  rw [if_neg (Nat.not_lt.mpr hname), if_pos rfl] at hunicode
  have hencode := registryAnsiToSz_text cp htext hs (by omega) rest 1
  have hlength : (s.length + 1) * 2 = (bytes (wide s ++ [0])).length := by
    rw [length_bytes, List.length_append, length_wide, List.length_singleton, Nat.mul_comm]
  obtain ⟨v, hset, htype, hdata⟩ :=
    zwSetValueKey_all ⟨0, .sz, (s.length + 1) * 2, wide s ++ [0]⟩ hlength
      (show 12 + (s.length + 1) * 2 < 2 ^ 32 by omega)
  refine ⟨v, htype, hdata, ?_⟩
  simp only [registryUpdateSzValue, granting, hunicode, encode, Nat.zero_add, hencode,
    Option.bind_eq_bind, Option.bind_some]
  by_cases hshort : s.length ≤ 126
  · simp only [if_pos hshort, hset, Option.bind_some]
    rfl
  · simp only [if_neg hshort]
    rfl

/-- **What is short comes back.** -/
theorem roundTrips_of_short (checked : Bool) (cp : CodePage) (hs : Ascii s)
    (hshort : s.length ≤ 126) : RoundTrips checked cp s := by
  intro e rest name values htext hname
  obtain ⟨v, htype, hdata, hupdate⟩ :=
    update_sz checked htext hs (by omega) hname values rest
  rw [if_pos hshort] at hupdate
  have hended : Ended v.type (wchars v.data) ([s].map wide) := by
    rw [htype, hdata]
    exact ⟨wide s, [], wchars_bytes _, zero_notMem_wide hs.1, rfl⟩
  obtain ⟨p, hdecode, hfilled⟩ := decode_wide checked cp (fun n => htype ▸ nofun) hended
    (fun _ h => List.mem_singleton.mp h ▸ hs)
    (fun _ h => List.mem_singleton.mp h ▸ Nat.le_trans hshort (by decide))
    (by rw [List.length_singleton]; decide) 4
  have hquery := query_granting checked hname
    (Function.update_self (cp.toUnicode name) (some v) values) 2
  rw [hdecode] at hquery
  refine ⟨_, _, ⟨p, false, false⟩, hupdate, hquery.trans ?_, hfilled⟩
  rw [Option.map_some, finish, htype]
  rfl

/-- **What comes back is short**: otherwise `UCHAR` has too little room for it. -/
theorem RoundTrips.short (h : RoundTrips checked cp s) (hs : Ascii s)
    (hsize : 2 * (s.length + 1) ≤ 65535) : s.length ≤ 126 := by
  by_contra hlong
  have htext : Source.text ⟨s.length, some s, by omega⟩ = some s := by
    rw [Source.text, Option.getD_some, if_pos (Nat.le_refl _), List.take_length]
  have hname : (cp.toUnicode []).length ≤ maxUstring := by
    rw [cp.toUnicode_ascii [] nofun]
    decide
  obtain ⟨v, -, -, hupdate⟩ := update_sz checked htext hs hsize hname (fun _ => none) []
  obtain ⟨values', m, m', hsuccess, -⟩ := h _ [] [] (fun _ => none) htext hname
  rw [if_neg hlong] at hupdate
  exact absurd (hupdate.symm.trans hsuccess) nofun

end Sz

/-- **The strings that come back are those whose `DataLength` fits a `UCHAR`**, with 126 characters
    at most. -/
theorem roundTrips_iff (checked : Bool) (cp : CodePage) (s : List UInt8) (hs : Ascii s)
    (hsize : 2 * (s.length + 1) ≤ 65535) : RoundTrips checked cp s ↔ s.length ≤ 126 :=
  ⟨fun h => h.short hs hsize, roundTrips_of_short checked cp hs⟩

theorem roundTrips_iff_name :
    RoundTrips true latin1 [116, 116, 121] ↔ [116, 116, 121].length ≤ 126 :=
  roundTrips_iff true latin1 [116, 116, 121] (by decide) (by decide)

/-- With 127 characters there is room for none. -/
theorem not_roundTrips_of_long : ¬∀ (checked : Bool) (cp : CodePage) (s : List UInt8), Ascii s →
    2 * (s.length + 1) ≤ 65535 → RoundTrips checked cp s := by
  intro hall
  have hs : Ascii (List.replicate 127 97) := by
    refine ⟨fun h => ?_, fun c hc => ?_⟩
    · exact absurd (List.eq_of_mem_replicate h) (by decide)
    · rw [List.eq_of_mem_replicate hc]
      decide
  have hsize : 2 * ((List.replicate 127 (97 : UInt8)).length + 1) ≤ 65535 := by
    rw [List.length_replicate]
    decide
  have hshort := (hall true latin1 _ hs hsize).short hs hsize
  rw [List.length_replicate] at hshort
  exact absurd hshort (by decide)

end Xencons.Registry
