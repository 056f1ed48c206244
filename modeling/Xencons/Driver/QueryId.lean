import Xencons.Driver.Dispatch
import Xencons.Lib.Print

/-!
# What a PDO says it is (pdo.c)

`PdoQueryId` and `PdoQueryDeviceText` print into a block from the pool, and the PnP manager reads the
block: one string, or several with an empty one behind them. What is printed where is up to
`RtlStringCbPrintfW`, which is told the bytes that there are.

* `Brand` -- what the build puts into the driver; `fdoSetVendorName` -- the vendor;
* `pdoQueryId`, `pdoQueryDeviceText` -- as the code has them; what is read or written outside of the
  block is `none`, and so is an `ASSERT` that fails;
* `Fits` -- names that a PDO can have;
* **`pdoQueryId_printed`**, `pdoQueryDeviceText_printed` -- the block has the IDs, and nothing else.

A `CHAR` below 128 is the `WCHAR` of the same number; `widen` says what becomes of others.
-/

namespace Xencons.QueryId

open Lib Dispatch

/-! ## 1. The functions -/

/-- `VENDOR_PREFIX_STR` and `PRODUCT_NAME_STR` -/
structure Brand where
  vendorPrefix : List Char
  productName : List Char

/-- `MAXNAMELEN` -/
def MAXNAMELEN : Nat := 128

/-- `MAXTEXTLEN` -/
def MAXTEXTLEN : Nat := 1024

/-- `REGSTR_VAL_MAX_HCID_LEN` -/
def REGSTR_VAL_MAX_HCID_LEN : Nat := 1024

/-- A digit of `%X`. -/
def hexDigit (n : Nat) : Char := Nat.digitChar (n % 16) |>.toUpper

/-- `%04X` of a `USHORT` -/
def hex4 (n : BitVec 16) : List Char :=
  [hexDigit (n.toNat / 4096), hexDigit (n.toNat / 256), hexDigit (n.toNat / 16), hexDigit n.toNat]

/-- A print whose status an `ASSERT` looks at: the block behind it. -/
def printed (i room : Nat) (text m : List Char) : Option (List Char) := do
  match ← print NUL i room text m with
  | (true, m) => some m
  | (false, _) => none

/-- The string at the start of a buffer. -/
def cString (m : List Char) : Option (List Char) := (lengthAt NUL 0 m).map m.take

/-- `__FdoSetVendorName`: `VendorName`, which has been zeroed. -/
def fdoSetVendorName (brand : Brand) (deviceID : BitVec 16) : Option (List Char) :=
  printed 0 MAXNAMELEN (brand.vendorPrefix ++ hex4 deviceID) (List.replicate MAXNAMELEN NUL)

/-- `Id.MaximumLength`, a `USHORT`; nothing for what is not supported. -/
def maximumLength (name : List Char) : BusQueryIdType → Option Nat
  | .busQueryInstanceID => some (2 * (name.length + 1) % 2 ^ 16)
  | .busQueryDeviceID => some ((MAX_DEVICE_ID_LEN - 2) * 2)
  | .busQueryHardwareIDs | .busQueryCompatibleIDs => some (MAX_DEVICE_ID_LEN * 2)
  | .unknown => none

section Functions

variable (widen : List Char → List Char) (brand : Brand)

/-- `L"XENCONS\\VEN_"`, the vendor, and `L"&DEV_CONSOLE"` -/
def deviceOf (vendor : List Char) : List Char :=
  "XENCONS\\VEN_".toList ++ vendor ++ "&DEV_CONSOLE".toList

/-- One string, with room for so many bytes. -/
def fillSz (length : Nat) (text m : List Char) : Option (List Char) := do
  let m ← printed 0 (length / 2) text m
  let _ ← lengthAt NUL 0 m
  some m

/-- Two strings. `Length` loses the length of the string that `Buffer` is at the end of by then, and
    one character more. -/
def fillMultiSz (length : Nat) (text text' m : List Char) : Option (List Char) := do
  let m ← printed 0 (length / 2) text m
  let buffer ← lengthAt NUL 0 m
  let length := length - 2 * (← lengthAt NUL buffer m) - 2
  let buffer := buffer + 1
  let m ← printed buffer (length / 2) text' m
  let buffer := buffer + (← lengthAt NUL buffer m) + 1
  if 2 * buffer < REGSTR_VAL_MAX_HCID_LEN then some m else none

/-- The second switch of `PdoQueryId`. -/
def fillId (length : Nat) (name vendorName m : List Char) : BusQueryIdType → Option (List Char)
  | .busQueryInstanceID => fillSz length (widen name) m
  | .busQueryDeviceID => fillSz length (deviceOf brand.vendorPrefix) m
  | .busQueryHardwareIDs | .busQueryCompatibleIDs =>
    fillMultiSz length (deviceOf (widen vendorName)) "XENDEVICE".toList m
  | .unknown => none

/-- What the third switch of `PdoQueryId` finds in the block. -/
def readId (m : List Char) : BusQueryIdType → Option (List (List Char))
  | .busQueryInstanceID | .busQueryDeviceID => (cString m).map fun s => [s]
  | .busQueryHardwareIDs | .busQueryCompatibleIDs => readStrings NUL m.length 0 m
  | .unknown => none

/-- `PdoQueryId`, of a PDO and an FDO with these names: the status, and `Information`. -/
def pdoQueryId (allocated : Bool) (name vendorName : List Char) (type : BusQueryIdType) :
    Option (NTSTATUS × Option (List Char)) :=
  match maximumLength name type with
  | none => some (STATUS_NOT_SUPPORTED, none)
  | some length =>
    if allocated = true ∧ length ≠ 0 then do
      let vendorName ← cString vendorName
      let m ← fillId widen brand length name vendorName (List.replicate (length / 2) NUL) type
      let _ ← readId m type
      some (STATUS_SUCCESS, some m)
    else some (STATUS_NO_MEMORY, none)

/-- What is printed for a device text. -/
def deviceText (name : List Char) : DeviceTextType → Option (List Char)
  | .deviceTextDescription =>
    some (widen brand.productName ++ " PV Console #".toList ++ widen name)
  | .deviceTextLocationInformation => some (widen name)
  | .unknown => none

/-- `PdoQueryDeviceText`: the status, `Information`, and `Text.Length`. -/
def pdoQueryDeviceText (allocated : Bool) (name : List Char) (type : DeviceTextType) :
    Option (NTSTATUS × Option (List Char × Nat)) :=
  match deviceText widen brand name type with
  | none => some (STATUS_NOT_SUPPORTED, none)
  | some text =>
    if allocated then do
      let m ← printed 0 (MAXTEXTLEN / 2) text (List.replicate (MAXTEXTLEN / 2) NUL)
      let length ← lengthAt NUL 0 m
      some (STATUS_SUCCESS, some (m, 2 * length))
    else some (STATUS_NO_MEMORY, none)

end Functions

/-! ## 2. What is printed -/

section Printing

variable {text text' m : List Char} {strings : List (List Char)} {left length i room : Nat}

theorem printed_print (room : Nat) (h : Printed NUL strings left m) (hclean : NUL ∉ text)
    (hroom : text.length < room) (hleft : text.length < left)
    (hi : i = (terminated NUL strings).length) : ∃ m', printed i room text m = some m' ∧
      Printed NUL (strings ++ [text]) (left - (text.length + 1)) m' := by
  obtain ⟨m', hprint, hm'⟩ := h.print hclean hroom hleft hi
  refine ⟨m', ?_, hm'⟩
  unfold printed
  rw [hprint]
  rfl

/-- The first string, in a block that has been zeroed. -/
theorem printed_first (hclean : NUL ∉ text) (hroom : text.length < room) :
    ∃ m, printed 0 room text (List.replicate room NUL) = some m ∧
      Printed NUL [text] (room - (text.length + 1)) m :=
  printed_print room (.blank room) hclean hroom hroom rfl

theorem lengthAt_first (h : Printed NUL [text] left m) : lengthAt NUL 0 m = some text.length :=
  h.lengthAt [] rfl

/-- The string that a buffer has been filled with. -/
theorem cString_printed (h : Printed NUL [text] left m) : cString m = some text := by
  have htake : m.take text.length = text := by
    rw [h.block]
    simp [terminated]
  unfold cString
  rw [lengthAt_first h, Option.map_some, htake]

theorem fillSz_printed (hclean : NUL ∉ text) (hroom : text.length < length / 2) :
    ∃ m, fillSz length text (List.replicate (length / 2) NUL) = some m ∧
      Printed NUL [text] (length / 2 - (text.length + 1)) m := by
  obtain ⟨m, hprint, hm⟩ := printed_first hclean hroom
  refine ⟨m, ?_, hm⟩
  unfold fillSz
  rw [hprint, Option.bind_eq_bind, Option.bind_some, lengthAt_first hm]
  rfl

/-- **Two strings**, where there is room for both with a NUL behind each and one more. -/
theorem fillMultiSz_printed (hclean : NUL ∉ text) (hclean' : NUL ∉ text')
    (hroom : text.length + text'.length + 2 < length / 2)
    (hmax : 2 * (text.length + text'.length + 2) < REGSTR_VAL_MAX_HCID_LEN) :
    ∃ m, fillMultiSz length text text' (List.replicate (length / 2) NUL) = some m ∧
      ∃ left, 0 < left ∧ Printed NUL [text, text'] left m := by
  have hfirst : text.length < length / 2 := by omega
  obtain ⟨m, hprint, hm⟩ := printed_first hclean hfirst
  have hlength := lengthAt_first hm
  -- `Buffer` is at the NUL of the first string, and `wcslen` of that is zero
  have hend : lengthAt NUL text.length m = some 0 := by
    refine @lengthAt_of_drop _ NUL [] m _ _ (List.replicate (length / 2 - (text.length + 1)) NUL)
      nofun ?_
    rw [hm.block]
    simp [terminated]
  have hplace : text.length + 1 = (terminated NUL [text]).length := by simp [terminated]
  obtain ⟨m', hprint', hm'⟩ := printed_print ((length - 2 * 0 - 2) / 2) hm hclean' (by omega)
    (by omega) hplace
  have hlength' : lengthAt NUL (text.length + 1) m' = some text'.length := hm'.lengthAt [text] hplace
  have hinside : 2 * (text.length + 1 + text'.length + 1) < REGSTR_VAL_MAX_HCID_LEN := by omega
  refine ⟨m', ?_, _, ?_, hm'⟩
  · unfold fillMultiSz
    simp only [hprint, hlength, hend, hprint', hlength', Option.bind_eq_bind, Option.bind_some]
    exact if_pos hinside
  · omega

end Printing

/-! ## 3. The IDs -/

/-- Characters that are the same in every code page and in UTF-16, and no NUL. -/
structure Ansi (text : List Char) : Prop where
  clean : NUL ∉ text
  ascii : ∀ c ∈ text, c.toNat < 128

theorem Ansi.of_all {text : List Char}
    (h : (text.all fun c => c ≠ NUL && c.toNat < 128) = true) : Ansi text := by
  have hc {c : Char} (hc : c ∈ text) : c ≠ NUL ∧ c.toNat < 128 := by
    simpa using List.all_eq_true.mp h c hc
  exact ⟨fun hm => (hc hm).1 rfl, fun c hm => (hc hm).2⟩

theorem Ansi.append {text text' : List Char} (h : Ansi text) (h' : Ansi text') :
    Ansi (text ++ text') where
  clean hm := (List.mem_append.mp hm).elim h.clean h'.clean
  ascii c hc := (List.mem_append.mp hc).elim (h.ascii c) (h'.ascii c)

/-- **A name that a PDO can have.** -/
structure Fits (name : List Char) : Prop where
  ansi : Ansi name
  ne : name ≠ []
  length : name.length < MAX_DEVICE_ID_LEN

/-- What the build may put into the driver. -/
structure Brand.Fits (brand : Brand) : Prop where
  vendor : Ansi brand.vendorPrefix
  vendorLength : brand.vendorPrefix.length + 4 < MAXNAMELEN
  product : Ansi brand.productName
  productLength : brand.productName.length ≤ 256

/-- What `%hs` does to those characters. -/
def Widens (widen : List Char → List Char) : Prop :=
  ∀ text, (∀ c ∈ text, c.toNat < 128) → widen text = text

/-- The IDs that are asked for. -/
def idsOf (brand : Brand) (name vendor : List Char) : BusQueryIdType → List (List Char)
  | .busQueryInstanceID => [name]
  | .busQueryDeviceID => [deviceOf brand.vendorPrefix]
  | .busQueryHardwareIDs | .busQueryCompatibleIDs => [deviceOf vendor, "XENDEVICE".toList]
  | .unknown => []

section Ids

variable {widen : List Char → List Char} {brand : Brand} {deviceID : BitVec 16}
  {name vendorName : List Char} {type : BusQueryIdType}

theorem hexDigit_ansi (n : Nat) : hexDigit n ≠ NUL ∧ (hexDigit n).toNat < 128 := by
  have hdigits : ∀ k < 16, (Nat.digitChar k).toUpper ≠ NUL ∧ (Nat.digitChar k).toUpper.toNat < 128 := by
    decide
  exact hdigits _ (Nat.mod_lt n (by decide))

theorem hex4_ansi (n : BitVec 16) : Ansi (hex4 n) := by
  refine ⟨fun hm => ?_, fun c hc => ?_⟩
  · simp only [hex4, List.mem_cons, List.not_mem_nil, or_false] at hm
    rcases hm with hm | hm | hm | hm <;> exact (hexDigit_ansi _).1 hm.symm
  · simp only [hex4, List.mem_cons, List.not_mem_nil, or_false] at hc
    rcases hc with rfl | rfl | rfl | rfl <;> exact (hexDigit_ansi _).2

/-- `VendorName` has the vendor of a device. -/
theorem cString_fdoSetVendorName (hb : brand.Fits) (deviceID : BitVec 16) :
    ∃ vendorName, fdoSetVendorName brand deviceID = some vendorName ∧
      cString vendorName = some (brand.vendorPrefix ++ hex4 deviceID) := by
  have hansi := hb.vendor.append (hex4_ansi deviceID)
  have hroom : (brand.vendorPrefix ++ hex4 deviceID).length < MAXNAMELEN := by
    rw [List.length_append]
    exact hb.vendorLength
  obtain ⟨m, hprint, hm⟩ := printed_first hansi.clean hroom
  exact ⟨m, hprint, cString_printed hm⟩

theorem deviceOf_clean {vendor : List Char} (h : NUL ∉ vendor) : NUL ∉ deviceOf vendor := by
  unfold deviceOf
  rw [List.mem_append, List.mem_append]
  rintro ((hm | hm) | hm)
  · exact absurd hm (by decide)
  · exact h hm
  · exact absurd hm (by decide)

theorem length_deviceOf (vendor : List Char) : (deviceOf vendor).length = vendor.length + 24 := by
  unfold deviceOf
  rw [List.length_append, List.length_append]
  show 12 + vendor.length + 12 = vendor.length + 24
  omega

/-- What `PdoQueryId` comes to, by the block that it fills. -/
theorem pdoQueryId_block {length : Nat} {vendor m : List Char} {ids : List (List Char)}
    (hmax : maximumLength name type = some length) (hne : length ≠ 0)
    (hvendor : cString vendorName = some vendor)
    (hfill : fillId widen brand length name vendor (List.replicate (length / 2) NUL) type = some m)
    (hread : readId m type = some ids) :
    pdoQueryId widen brand true name vendorName type = some (STATUS_SUCCESS, some m) := by
  unfold pdoQueryId
  rw [hmax]
  dsimp only
  rw [if_pos ⟨rfl, hne⟩, hvendor, Option.bind_eq_bind, Option.bind_some, hfill, Option.bind_eq_bind,
    Option.bind_some, hread]
  rfl

/-- One string. -/
theorem pdoQueryId_sz {length : Nat} {vendor text : List Char}
    (hmax : maximumLength name type = some length) (hclean : NUL ∉ text)
    (hroom : text.length < length / 2) (hvendor : cString vendorName = some vendor)
    (hfill : ∀ m, fillId widen brand length name vendor m type = fillSz length text m)
    (hread : ∀ m, readId m type = (cString m).map fun s => [s]) :
    ∃ m left, pdoQueryId widen brand true name vendorName type = some (STATUS_SUCCESS, some m) ∧
      Printed NUL [text] left m ∧ readId m type = some [text] := by
  obtain ⟨m, hm, hprinted⟩ := fillSz_printed hclean hroom
  have hfound : readId m type = some [text] := by
    rw [hread, cString_printed hprinted]
    rfl
  have hne : length ≠ 0 := by omega
  exact ⟨m, _, pdoQueryId_block hmax hne hvendor ((hfill _).trans hm) hfound, hprinted, hfound⟩

/-- Two strings, in a block of `MAX_DEVICE_ID_LEN` characters. -/
theorem pdoQueryId_multiSz {vendor text text' : List Char}
    (hmax : maximumLength name type = some (MAX_DEVICE_ID_LEN * 2)) (hclean : NUL ∉ text)
    (hclean' : NUL ∉ text') (hne : text ≠ []) (hne' : text' ≠ [])
    (hroom : text.length + text'.length + 2 < MAX_DEVICE_ID_LEN)
    (hvendor : cString vendorName = some vendor)
    (hfill : ∀ m, fillId widen brand (MAX_DEVICE_ID_LEN * 2) name vendor m type =
      fillMultiSz (MAX_DEVICE_ID_LEN * 2) text text' m)
    (hread : ∀ m, readId m type = readStrings NUL m.length 0 m) :
    ∃ m left, pdoQueryId widen brand true name vendorName type = some (STATUS_SUCCESS, some m) ∧
      Printed NUL [text, text'] left m ∧ readId m type = some [text, text'] := by
  have hmaximum : 2 * (text.length + text'.length + 2) < REGSTR_VAL_MAX_HCID_LEN := by
    unfold MAX_DEVICE_ID_LEN at hroom
    unfold REGSTR_VAL_MAX_HCID_LEN
    omega
  have hblock : text.length + text'.length + 2 < MAX_DEVICE_ID_LEN * 2 / 2 := by
    rwa [Nat.mul_div_cancel _ (by decide)]
  obtain ⟨m, hm, left, hleft, hprinted⟩ := fillMultiSz_printed hclean hclean' hblock hmaximum
  have hfound : readId m type = some [text, text'] := by
    rw [hread]
    refine Printed.readStrings [] hprinted (List.cons_ne_nil _ _) (fun s hs => ?_) hleft rfl ?_
    · rcases List.mem_cons.mp hs with rfl | hs
      · exact hne
      · rw [List.mem_singleton.mp hs]
        exact hne'
    · rw [hprinted.length]
      simp [terminated]
      omega
  exact ⟨m, left, pdoQueryId_block hmax (by decide) hvendor ((hfill _).trans hm) hfound, hprinted, hfound⟩

/-- **What is asked for is in the block**, and nothing else; whoever reads the block finds it. -/
theorem pdoQueryId_printed (hw : Widens widen) (hb : brand.Fits) (hname : Fits name)
    (hvendor : fdoSetVendorName brand deviceID = some vendorName) (htype : type ≠ .unknown) :
    ∃ m left, pdoQueryId widen brand true name vendorName type = some (STATUS_SUCCESS, some m) ∧
      Printed NUL (idsOf brand name (brand.vendorPrefix ++ hex4 deviceID) type) left m ∧
      readId m type = some (idsOf brand name (brand.vendorPrefix ++ hex4 deviceID) type) := by
  obtain ⟨vendorName', hvendor', hread⟩ := cString_fdoSetVendorName hb deviceID
  obtain rfl : vendorName = vendorName' := Option.some.inj (hvendor.symm.trans hvendor')
  have hlength := hname.length
  have hprefix := hb.vendorLength
  unfold MAX_DEVICE_ID_LEN at hlength
  unfold MAXNAMELEN at hprefix
  cases type with
  | unknown => exact absurd rfl htype
  | busQueryInstanceID =>
      have hmax : maximumLength name .busQueryInstanceID = some (2 * (name.length + 1)) :=
        congrArg some (Nat.mod_eq_of_lt (by omega))
      refine pdoQueryId_sz hmax hname.ansi.clean (by omega) hread (fun m => ?_) fun m => rfl
      unfold fillId
      rw [hw _ hname.ansi.ascii]
  | busQueryDeviceID =>
      refine pdoQueryId_sz rfl (deviceOf_clean hb.vendor.clean) ?_ hread (fun m => rfl) fun m => rfl
      rw [length_deviceOf]
      unfold MAX_DEVICE_ID_LEN
      omega
  | busQueryHardwareIDs | busQueryCompatibleIDs =>
      have hansi := hb.vendor.append (hex4_ansi deviceID)
      have hdevice : (deviceOf (brand.vendorPrefix ++ hex4 deviceID)).length =
          brand.vendorPrefix.length + 28 := by
        rw [length_deviceOf, List.length_append]
        rfl
      have hxen : "XENDEVICE".toList.length = 9 := rfl
      refine pdoQueryId_multiSz rfl (deviceOf_clean hansi.clean) (by decide) ?_ nofun ?_ hread
        (fun m => ?_) fun m => rfl
      · exact List.ne_nil_of_length_pos (by omega)
      · rw [hdevice, hxen]
        unfold MAX_DEVICE_ID_LEN
        omega
      · unfold fillId
        rw [hw _ hansi.ascii]

/-- **And so is a text**, with its length. -/
theorem pdoQueryDeviceText_printed (hw : Widens widen) (hb : brand.Fits) (hname : Fits name)
    {texttype : DeviceTextType} (htype : texttype ≠ .unknown) :
    ∃ text m left, deviceText id brand name texttype = some text ∧
      pdoQueryDeviceText widen brand true name texttype =
        some (STATUS_SUCCESS, some (m, 2 * text.length)) ∧ Printed NUL [text] left m := by
  have hlength := hname.length
  have hproduct := hb.productLength
  unfold MAX_DEVICE_ID_LEN at hlength
  have htext {text : List Char} (h : deviceText widen brand name texttype = some text)
      (hclean : NUL ∉ text) (hroom : text.length < MAXTEXTLEN / 2) :
      ∃ m left, pdoQueryDeviceText widen brand true name texttype =
        some (STATUS_SUCCESS, some (m, 2 * text.length)) ∧ Printed NUL [text] left m := by
    obtain ⟨m, hprint, hm⟩ := printed_first hclean hroom
    refine ⟨m, _, ?_, hm⟩
    unfold pdoQueryDeviceText
    rw [h]
    dsimp only
    rw [if_pos rfl, hprint, Option.bind_eq_bind, Option.bind_some, lengthAt_first hm]
    rfl
  cases texttype with
  | unknown => exact absurd rfl htype
  | deviceTextDescription =>
      have hconsole : Ansi " PV Console #".toList := .of_all (by decide)
      have hansi := (hb.product.append hconsole).append hname.ansi
      have hdescription : deviceText widen brand name .deviceTextDescription =
          some (brand.productName ++ " PV Console #".toList ++ name) := by
        rw [deviceText, hw _ hb.product.ascii, hw _ hname.ansi.ascii]
      have hroom : (brand.productName ++ " PV Console #".toList ++ name).length < MAXTEXTLEN / 2 := by
        rw [List.length_append, List.length_append]
        show brand.productName.length + 13 + name.length < 512
        omega
      obtain ⟨m, left, hquery, hm⟩ := htext hdescription hansi.clean hroom
      exact ⟨_, m, left, rfl, hquery, hm⟩
  | deviceTextLocationInformation =>
      have hlocation : deviceText widen brand name .deviceTextLocationInformation = some name := by
        rw [deviceText, hw _ hname.ansi.ascii]
      have hroom : name.length < MAXTEXTLEN / 2 := by
        show name.length < 512
        omega
      obtain ⟨m, left, hquery, hm⟩ := htext hlocation hname.ansi.clean hroom
      exact ⟨_, m, left, rfl, hquery, hm⟩

end Ids

end Xencons.QueryId
