import Xencons.Lib.Ghost
import Xencons.Lib.Heap
import Xencons.Lib.Promise
import Xencons.Lib.Transition
import Xencons.Nt
import Xencons.Registry.Decode

/-!
# The driver from load to unload (driver.c, registry.c)

`DriverEntry` copies the path of its service key, opens the key of its parameters below it and fills
in the driver object; `DriverUnload` gives back what it has. In between keys are opened, deleted and
closed through registry.c, which has one path and two ways to the parameters.

* `KeySys`, `KeyAnswer` -- what has been taken of the pool and of the kernel, with the key that each
  handle is for and the names that it has given, and the globals; an `ASSERT` that fails, a handle
  that is not open and an access outside of a block are counted;
* `driverEntry`, `driverUnload`, `registryOpenParametersKey`, `registryOpenHardwareKey`, ... -- as the
  code has them;
* `Leaves`, `Does` -- what a call leaves, and what it does; `Entered` -- what `DriverEntry` leaves;
* `driverSystem` -- the driver is loaded and unloaded, and any calls; `Kept` -- the invariant;
* **`driver_keeps_keys`** -- the result.
-/

namespace Xencons.Entry

open Lib Registry

/-! ## 1. Keys, the globals, and what answers -/

/-- The upper case of a character, as the registry has it. -/
structure UpcaseTable where
  up : UInt16 → UInt16
  idem : ∀ c, up (up c) = up c

/-- A key that has been opened: by which path, in upper case, and for what access. -/
structure OpenedKey where
  path : List UInt16
  access : BitVec 32
deriving DecidableEq

/-- What is taken from the pool or of the kernel. -/
inductive KeyObject where
  /-- `RegistryPath.Buffer`, `Unicode.Buffer` -/
  | unicode
  /-- `Info` -/
  | block
  | key (key : OpenedKey)
deriving DecidableEq

/-- The `DRIVER_OBJECT`. -/
structure DriverObject where
  driverUnload : Bool
  addDevice : Bool
  /-- which of `MajorFunction` are `Dispatch` -/
  majorFunction : Nat → Bool

/-- `Driver`, the globals of registry.c, and what has been put into the driver object. -/
structure Globals where
  driverObject : Option Nat
  parametersKey : Option Nat
  /-- `RegistryPath`: the buffer, and what is in it -/
  registryPath : Option (Nat × List UInt16)
  registryDriverObject : Option Nat
  ioOpenDriverRegistryKey : Bool
  object : DriverObject

def DriverObject.unset : DriverObject := ⟨false, false, fun _ => false⟩

/-- What the image starts with. -/
def Globals.zero : Globals := ⟨none, none, none, none, false, .unset⟩

/-- The full name of a key, as the kernel gives it. -/
structure FullName where
  text : List UInt16
  absolute : text.head? = some 92
  short : text.length ≤ maxUstring + 1

/-- A name that the kernel has given: of the device key that it has opened, or of a key that it has
    been asked about by a handle. -/
inductive Naming where
  | device (name : FullName)
  | queried (key : OpenedKey) (name : FullName)

structure KeySys where
  heap : Heap KeyObject
  globals : Globals
  /-- the keys that have been deleted -/
  deleted : List (List UInt16)
  faults : Nat
  /-- the names that the kernel has given -/
  names : List Naming

/-- An answer of the pool or of the kernel: whether there is memory, an error of the kernel's, whether
    it has the routine, and the name of the key that is asked about. -/
structure KeyAnswer where
  granted : Bool
  refused : Option Nat
  hasRoutine : Bool
  name : FullName

/-- Nothing is refused. -/
def KeyAnswer.Calm (name : FullName) (a : KeyAnswer) : Prop :=
  a.granted = true ∧ a.refused = none ∧ a.name = name

abbrev OnKeys (α : Type) := Proc KeyAnswer KeySys α

open Proc (ask get modify)

namespace KeySys

@[simps] def withHeap (heap : Heap KeyObject) (s : KeySys) : KeySys := { s with heap := heap }

@[simps] def withGlobals (f : Globals → Globals) (s : KeySys) : KeySys :=
  { s with globals := f s.globals }

/-- An `ASSERT`, or an access. -/
def check (holds : Bool) (s : KeySys) : KeySys :=
  if holds then s else { s with faults := s.faults + 1 }

/-- The kernel gives names. -/
@[simps] def named (given : List Naming) (s : KeySys) : KeySys :=
  { s with names := s.names ++ given }

/-- The key that a handle is for; nothing for a handle that is not open. -/
def keyOf (s : KeySys) (handle : Nat) : Option OpenedKey :=
  match s.heap.find handle with
  | some (.key key) => some key
  | _ => none

end KeySys

section Functions

variable (cp : CodePage) (table : UpcaseTable)

/-- A path below a key, or from the top. -/
def below (parent : Option OpenedKey) (path : List UInt16) : List UInt16 :=
  match parent with
  | none => path.map table.up
  | some parent =>
    if path.isEmpty then parent.path else parent.path ++ 92 :: path.map table.up

def KEY_READ : BitVec 32 := 0x20019#32

def KEY_ALL_ACCESS : BitVec 32 := 0xF003F#32

/-- `"Parameters"` -/
def parameters : List UInt8 := [80, 97, 114, 97, 109, 101, 116, 101, 114, 115]

/-! ## 2. Keys -/

/-- `RtlInitAnsiString` and `RtlAnsiStringToUnicodeString(&Unicode, &Ansi, TRUE)` -/
def newUnicode (name : List UInt8) : OnKeys (Except Status (Nat × List UInt16)) := do
  if maxUstring < (cp.toUnicode name).length then pure (.error .invalidParameter)
  else
    let a ← ask
    let s ← get
    if a.granted then
      modify fun s => s.withHeap (s.heap.take .unicode)
      pure (.ok (s.heap.next, cp.toUnicode name))
    else pure (.error .noMemory)

/-- `RtlFreeUnicodeString`, `__RegistryFree` -/
def free (k : KeyObject) (n : Nat) : OnKeys Unit :=
  modify fun s => s.withHeap (s.heap.give k (.object n))

/-- A handle is used. -/
def useKey (handle : Nat) : OnKeys (Option OpenedKey) := do
  let s ← get
  modify (·.check (s.keyOf handle).isSome)
  pure (s.keyOf handle)

/-- A handle for a key, or an error. -/
def openKey (key : OpenedKey) : OnKeys (Except Status Nat) := do
  let a ← ask
  let s ← get
  match a.refused with
  | some code => pure (.error (.error code))
  | none =>
    modify fun s => s.withHeap (s.heap.take (.key key))
    pure (.ok s.heap.next)

/-- `RegistryCloseKey`, `ZwClose` -/
def registryCloseKey (handle : Nat) : OnKeys Unit := do
  match ← useKey handle with
  | some key => free (.key key) handle
  | none => pure ()

/-- `RegistryOpenKey` -/
def registryOpenKey (parent : Option Nat) (path : List UInt16) (access : BitVec 32) :
    OnKeys (Except Status Nat) := do
  match parent with
  | none => openKey ⟨below table none path, access⟩
  | some handle =>
    let key ← useKey handle
    openKey ⟨below table key path, access⟩

/-- `RegistryOpenServiceKey` -/
def registryOpenServiceKey (access : BitVec 32) : OnKeys (Except Status Nat) := do
  let s ← get
  registryOpenKey table none ((s.globals.registryPath.map Prod.snd).getD []) access

/-- `RegistryOpenSubKey` -/
def registryOpenSubKey (key : Option Nat) (name : List UInt8) (access : BitVec 32) :
    OnKeys (Except Status Nat) := do
  match ← newUnicode cp name with
  -- fail1
  | .error status => pure (.error status)
  | .ok (unicode, text) =>
    let r ← registryOpenKey table key text access
    -- or fail2
    free .unicode unicode
    pure r

/-- `RegistryDeleteSubKey` -/
def registryDeleteSubKey (key : Nat) (name : List UInt8) : OnKeys Status := do
  match ← newUnicode cp name with
  -- fail1
  | .error status => pure status
  | .ok (unicode, text) =>
    match ← registryOpenKey table (some key) text KEY_ALL_ACCESS with
    | .error status =>
      -- fail2
      free .unicode unicode
      pure status
    | .ok subKey =>
      let key ← useKey subKey
      let a ← ask
      match a.refused with
      | some code =>
        -- fail3
        registryCloseKey subKey
        free .unicode unicode
        pure (.error code)
      | none =>
        modify fun s => { s with deleted := s.deleted ++ (key.map OpenedKey.path).toList }
        registryCloseKey subKey
        free .unicode unicode
        pure .success

/-- `RegistryOpenParametersKey`; the kernel knows the service key of the driver object. -/
def registryOpenParametersKey (servicePath : Nat → List UInt16) (access : BitVec 32) :
    OnKeys (Except Status Nat) := do
  let s ← get
  if s.globals.ioOpenDriverRegistryKey then
    match s.globals.registryDriverObject with
    | some d =>
      let service : OpenedKey := ⟨below table none (servicePath d), access⟩
      openKey ⟨below table (some service) (parameters.map UInt8.toUInt16), access⟩
    | none =>
      modify (·.check false)
      pure (.error .invalidParameter)
  else
    match ← registryOpenServiceKey table access with
    -- fail2
    | .error status => pure (.error status)
    | .ok serviceKey =>
      let r ← registryOpenSubKey cp table (some serviceKey) parameters access
      -- or fail3
      registryCloseKey serviceKey
      pure r

/-- `IoOpenDeviceRegistryKey`; which key that is is up to the kernel. -/
def ioOpenDeviceRegistryKey (access : BitVec 32) : OnKeys (Except Status Nat) := do
  let a ← ask
  let s ← get
  match a.refused with
  | some code => pure (.error (.error code))
  | none =>
    modify fun s => s.withHeap (s.heap.take (.key ⟨below table none a.name.text, access⟩))
    modify (·.named [.device a.name])
    pure (.ok s.heap.next)

/-- `RegistryOpenSoftwareKey` -/
def registryOpenSoftwareKey (access : BitVec 32) : OnKeys (Except Status Nat) :=
  ioOpenDeviceRegistryKey table access

/-- The last such character ahead of the NUL. -/
def wcsrchr (c : UInt16) : List UInt16 → Option Nat
  | [] => none
  | x :: m =>
    if x = 0 then none
    else match wcsrchr c m with
      | some i => some (i + 1)
      | none => if x = c then some 0 else none

/-- `RegistryOpenHardwareKey`: of the key that the kernel opens it takes the name, and opens the key
    above it. -/
def registryOpenHardwareKey (access : BitVec 32) : OnKeys (Except Status Nat) := do
  match ← ioOpenDeviceRegistryKey table KEY_READ with
  -- fail1
  | .error status => pure (.error status)
  | .ok subKey =>
    let _ ← useKey subKey
    let a ← ask
    match a.refused with
    | some code =>
      -- fail2
      registryCloseKey subKey
      pure (.error (.error code))
    | none =>
      let length := 4 + 2 * a.name.text.length
      let a ← ask
      let s ← get
      if a.granted = false ∨ (length + 2) % 2 ^ 32 = 0 then
        -- fail3
        registryCloseKey subKey
        pure (.error .noMemory)
      else
        let info := s.heap.next
        modify fun s => s.withHeap (s.heap.take .block)
        let key ← useKey subKey
        let a ← ask
        match a.refused with
        | some code =>
          -- fail4
          free .block info
          registryCloseKey subKey
          pure (.error (.error code))
        | none =>
          modify (·.named (key.map (.queried · a.name)).toList)
          let name := a.name.text
          if length < 4 + 2 * name.length then
            free .block info
            registryCloseKey subKey
            pure (.error .bufferOverflow)
          else
            modify (·.check (4 + 2 * name.length + 2 ≤ (length + 2) % 2 ^ 32))
            match wcsrchr 92 (name ++ [0]) with
            | none =>
              modify (·.check false)
              pure (.error .invalidParameter)
            | some cursor =>
              let r ← registryOpenKey table none (name.take cursor) access
              -- or fail5
              free .block info
              registryCloseKey subKey
              pure r

/-! ## 3. The driver -/

/-- `RegistryInitialize` -/
def registryInitialize (d : Nat) (path : List UInt16) : OnKeys Status := do
  modify fun s => s.check s.globals.registryPath.isNone
  let a ← ask
  if a.granted then
    modify fun s => (s.withGlobals fun g =>
      { g with registryPath := some (s.heap.next, path.map table.up) }).withHeap
        (s.heap.take .unicode)
    modify fun s => s.check s.globals.registryDriverObject.isNone
    modify (·.withGlobals fun g => { g with registryDriverObject := some d })
    modify fun s => s.check (!s.globals.ioOpenDriverRegistryKey)
    let a ← ask
    if a.hasRoutine then
      modify (·.withGlobals fun g => { g with ioOpenDriverRegistryKey := true })
      pure .success
    else pure .success
  else pure .noMemory

/-- `RegistryTeardown` -/
def registryTeardown : OnKeys Unit := do
  modify (·.withGlobals fun g =>
    { g with ioOpenDriverRegistryKey := false, registryDriverObject := none })
  let s ← get
  match s.globals.registryPath with
  | some (buffer, _) => free .unicode buffer
  | none => pure ()
  modify (·.withGlobals fun g => { g with registryPath := none })

/-- `ASSERT(IsZeroMemory(&Driver, sizeof (XENCONS_DRIVER)))` behind `__DriverSetDriverObject(NULL)` -/
def clearDriver : OnKeys Unit := do
  modify (·.withGlobals fun g => { g with driverObject := none })
  modify fun s => s.check (s.globals.driverObject.isNone && s.globals.parametersKey.isNone)

/-- `IRP_MJ_MAXIMUM_FUNCTION` -/
def IRP_MJ_MAXIMUM_FUNCTION : Nat := 0x1b

/-- The loop of `DriverEntry`. -/
def setDispatch (f : Nat → Bool) : Nat → Bool :=
  (List.range (IRP_MJ_MAXIMUM_FUNCTION + 1)).foldl (fun f i => Function.update f i true) f

/-- `DriverEntry` -/
def driverEntry (d : Nat) (path : List UInt16) : OnKeys Status := do
  modify fun s => s.check s.globals.driverObject.isNone
  modify (·.withGlobals fun g => { g with driverObject := some d, object := .unset })
  modify (·.withGlobals fun g => { g with object := { g.object with driverUnload := true } })
  match ← registryInitialize table d path with
  | .success =>
    match ← registryOpenServiceKey table KEY_ALL_ACCESS with
    | .error status =>
      -- fail2
      registryTeardown
      clearDriver
      pure status
    | .ok serviceKey =>
      match ← registryOpenSubKey cp table (some serviceKey) parameters KEY_READ with
      | .error status =>
        -- fail3
        registryCloseKey serviceKey
        registryTeardown
        clearDriver
        pure status
      | .ok parametersKey =>
        modify (·.withGlobals fun g => { g with parametersKey := some parametersKey })
        registryCloseKey serviceKey
        modify (·.withGlobals fun g => { g with object := { g.object with addDevice := true } })
        modify (·.withGlobals fun g =>
          { g with object := { g.object with majorFunction := setDispatch g.object.majorFunction } })
        pure .success
  | status =>
    -- fail1
    clearDriver
    pure status

/-- `DriverUnload` -/
def driverUnload (d : Nat) : OnKeys Unit := do
  modify fun s => s.check (s.globals.driverObject == some d)
  let s ← get
  modify (·.withGlobals fun g => { g with parametersKey := none })
  match s.globals.parametersKey with
  | some parametersKey => registryCloseKey parametersKey
  | none => modify (·.check false)
  registryTeardown
  clearDriver

/-- `AddDevice`, ahead of `FdoCreate` -/
def addDevice (d : Nat) : OnKeys Unit :=
  modify fun s => s.check (s.globals.driverObject == some d)

end Functions

/-! ## 4. What a call leaves -/

/-- **What a call leaves**: so much more has been taken, so many keys have been deleted, and nothing
    else is different. -/
structure Leaves (s : KeySys) (kept : List (KeyObject × Nat)) (gone : List (List UInt16))
    (s' : KeySys) : Prop where
  heap : s.heap.Has kept s'.heap
  globals : s'.globals = s.globals
  deleted : s'.deleted = s.deleted ++ gone
  faults : s'.faults = s.faults

/-- What a key is opened below is open. -/
inductive Parent (s : KeySys) : Option Nat → Option OpenedKey → Prop
  | top : Parent s none none
  | key {key : OpenedKey} {n : Nat} (h : (.key key, n) ∈ s.heap.live) : Parent s (some n) (some key)

/-- Something may be refused, or a key be renamed meanwhile. -/
def Fails (A : KeyAnswer → Prop) : Prop :=
  ∃ a b, A a ∧ A b ∧ ¬(a.granted = true ∧ a.refused = none ∧ a.name = b.name)

section Leaves

variable {s s' s'' : KeySys} {kept kept' : List (KeyObject × Nat)} {gone gone' : List (List UInt16)}
  {k : KeyObject} {n : Nat} {key : OpenedKey}

theorem keyOf_of_live (h : (.key key, n) ∈ s.heap.live) : s.keyOf n = some key := by
  rw [KeySys.keyOf, Heap.find_of_mem h]

namespace Leaves

theorem refl (s : KeySys) : Leaves s [] [] s := ⟨.refl _, rfl, by simp, rfl⟩

theorem trans (h : Leaves s kept gone s') (h' : Leaves s' kept' gone' s'') :
    Leaves s (kept' ++ kept) (gone ++ gone') s'' := by
  refine ⟨h.heap.trans h'.heap, h'.globals.trans h.globals, ?_, h'.faults.trans h.faults⟩
  rw [h'.deleted, h.deleted, List.append_assoc]

theorem take (h : Leaves s kept gone s') (k : KeyObject) :
    Leaves s ((k, s'.heap.next) :: kept) gone (s'.withHeap (s'.heap.take k)) :=
  ⟨h.heap.take k, h.globals, h.deleted, h.faults⟩

theorem give (front : List (KeyObject × Nat)) (h : Leaves s (front ++ (k, n) :: kept) gone s')
    (hfront : (k, n) ∉ front) :
    Leaves s (front ++ kept) gone (s'.withHeap (s'.heap.give k (.object n))) :=
  ⟨h.heap.giveBehind hfront, h.globals, h.deleted, h.faults⟩

/-- Names are not what a call leaves. -/
theorem named (h : Leaves s kept gone s') (given : List Naming) :
    Leaves s kept gone (s'.named given) := ⟨h.heap, h.globals, h.deleted, h.faults⟩

theorem mem_live (h : Leaves s kept gone s') (hn : (k, n) ∈ kept) : (k, n) ∈ s'.heap.live :=
  h.heap.mem_live hn

/-- What was live still is. -/
theorem live (h : Leaves s kept gone s') (hn : (k, n) ∈ s.heap.live) : (k, n) ∈ s'.heap.live := by
  rw [h.heap.live]
  exact List.mem_append_right _ hn

theorem parent (h : Leaves s kept gone s') {p : Option Nat} {key : Option OpenedKey}
    (hp : Parent s p key) : Parent s' p key := by
  cases hp with
  | top => exact .top
  | key hn => exact .key (h.live hn)

end Leaves

end Leaves

/-! ## 5. Of each function -/

section Specs

variable {A : KeyAnswer → Prop} {s : KeySys} {cp : CodePage} {table : UpcaseTable}
  {parent : Option Nat} {given : Option OpenedKey} {key : OpenedKey} {n : Nat}
  {name : List UInt8} {path : List UInt16} {access : BitVec 32}

theorem fails_of_refused {a : KeyAnswer} {code : Nat} (ha : A a) (hr : a.refused = some code) :
    Fails A := by
  refine ⟨a, a, ha, ha, fun hcalm => ?_⟩
  rw [hr] at hcalm
  cases hcalm.2.1

theorem fails_of_not_granted {a : KeyAnswer} (ha : A a) (hg : ¬a.granted = true) : Fails A :=
  ⟨a, a, ha, ha, fun hcalm => hg hcalm.1⟩

theorem newUnicode_yields {Q : Except Status (Nat × List UInt16) → KeySys → Prop}
    (hlong : maxUstring < (cp.toUnicode name).length → Q (.error .invalidParameter) s)
    (hno : Fails A → Q (.error .noMemory) s)
    (hyes : (cp.toUnicode name).length ≤ maxUstring →
      Q (.ok (s.heap.next, cp.toUnicode name)) (s.withHeap (s.heap.take .unicode))) :
    (newUnicode cp name).YieldsIf A Q s := by
  refine .ite (fun h => .pure (hlong h)) fun h => ?_
  refine .ask_bind fun a ha => ?_
  refine .get_bind (.ite (fun _ => ?_) fun hg => ?_)
  · refine .modify_bind ?_
    exact .pure (hyes (Nat.le_of_not_lt h))
  · exact .pure (hno (fails_of_not_granted ha hg))

theorem useKey_yields {Q : Option OpenedKey → KeySys → Prop} (hn : (.key key, n) ∈ s.heap.live)
    (hQ : Q (some key) s) : (useKey n).YieldsIf A Q s := by
  refine .get_bind ?_
  refine .modify_bind (.pure ?_)
  rw [keyOf_of_live hn]
  exact hQ

theorem openKey_yields {Q : Except Status Nat → KeySys → Prop}
    (hno : ∀ code, Fails A → Q (.error (.error code)) s)
    (hyes : Q (.ok s.heap.next) (s.withHeap (s.heap.take (.key key)))) :
    (openKey key).YieldsIf A Q s := by
  refine .ask_bind fun a ha => .get_bind ?_
  cases hr : a.refused with
  | some code => exact .pure (hno code (fails_of_refused ha hr))
  | none => exact .modify_bind (.pure hyes)

theorem registryCloseKey_yields {Q : Unit → KeySys → Prop} (hn : (.key key, n) ∈ s.heap.live)
    (hQ : Q () (s.withHeap (s.heap.give (.key key) (.object n)))) :
    (registryCloseKey n).YieldsIf A Q s := by
  refine .bind (useKey_yields hn ?_)
  exact .modify hQ

theorem registryOpenKey_yields {Q : Except Status Nat → KeySys → Prop} (hp : Parent s parent given)
    (hno : ∀ code, Fails A → Q (.error (.error code)) s)
    (hyes : Q (.ok s.heap.next)
      (s.withHeap (s.heap.take (.key ⟨below table given path, access⟩)))) :
    (registryOpenKey table parent path access).YieldsIf A Q s := by
  cases hp with
  | top => exact openKey_yields hno hyes
  | key hn =>
      refine .bind (useKey_yields hn ?_)
      exact openKey_yields hno hyes

/-- `RegistryOpenServiceKey`, while there is a path. -/
theorem registryOpenServiceKey_yields {Q : Except Status Nat → KeySys → Prop} {buffer : Nat}
    (hpath : s.globals.registryPath = some (buffer, path))
    (hno : ∀ code, Fails A → Q (.error (.error code)) s)
    (hyes : Q (.ok s.heap.next)
      (s.withHeap (s.heap.take (.key ⟨below table none path, access⟩)))) :
    (registryOpenServiceKey table access).YieldsIf A Q s := by
  refine .get_bind ?_
  rw [hpath]
  exact registryOpenKey_yields .top hno hyes

theorem registryOpenSubKey_yields {Q : Except Status Nat → KeySys → Prop}
    (hp : Parent s parent given)
    (hlong : maxUstring < (cp.toUnicode name).length → Q (.error .invalidParameter) s)
    (hno : ∀ status s', status ≠ .success → Fails A → Leaves s [] [] s' → Q (.error status) s')
    (hyes : ∀ n s',
      Leaves s [(.key ⟨below table given (cp.toUnicode name), access⟩, n)] [] s' → Q (.ok n) s') :
    (registryOpenSubKey cp table parent name access).YieldsIf A Q s := by
  have h := Leaves.refl s
  refine .bind (newUnicode_yields (fun hl => .pure (hlong hl))
    (fun hf => .pure (hno _ _ nofun hf h)) fun _ => ?_)
  have h := h.take .unicode
  refine .bind (registryOpenKey_yields (h.parent hp) (fun code hf => ?_) ?_)
  · refine .modify_bind (.pure ?_)
    exact hno _ _ nofun hf (h.give [] nofun)
  · have h := h.take (.key ⟨below table given (cp.toUnicode name), access⟩)
    refine .modify_bind (.pure ?_)
    refine hyes _ _ (h.give [_] ?_)
    simp

end Specs

/-- The key of the parameters, of a service key with such a path. -/
def parametersPath (table : UpcaseTable) (service : List UInt16) : List UInt16 :=
  service.map table.up ++ 92 :: (parameters.map UInt8.toUInt16).map table.up

theorem map_up_map_up (table : UpcaseTable) (text : List UInt16) :
    (text.map table.up).map table.up = text.map table.up := by
  rw [List.map_map]
  exact List.map_congr_left fun c _ => table.idem c

theorem toUnicode_parameters (cp : CodePage) :
    cp.toUnicode parameters = parameters.map UInt8.toUInt16 := by
  refine cp.toUnicode_ascii parameters ?_
  have hall : parameters.all (fun c => decide (c < 128)) = true := by decide
  intro c hc
  exact of_decide_eq_true (List.all_eq_true.mp hall c hc)

/-- `"Parameters"` below the service key. -/
theorem below_parameters (table : UpcaseTable) (cp : CodePage) (service : List UInt16)
    (access : BitVec 32) :
    below table (some ⟨service.map table.up, access⟩) (cp.toUnicode parameters) =
      parametersPath table service := by
  rw [toUnicode_parameters]
  rfl

section Keys

variable {A : KeyAnswer → Prop} {s : KeySys} {cp : CodePage} {table : UpcaseTable}
  {servicePath : Nat → List UInt16} {name : List UInt8} {access : BitVec 32} {d n : Nat}
  {given : OpenedKey}

/-- **Both ways lead to the same key.** -/
theorem registryOpenParametersKey_yields {Q : Except Status Nat → KeySys → Prop} {buffer : Nat}
    (hpath : s.globals.registryPath = some (buffer, (servicePath d).map table.up))
    (hd : s.globals.registryDriverObject = some d)
    (hno : ∀ status s', status ≠ .success → Fails A → Leaves s [] [] s' → Q (.error status) s')
    (hyes : ∀ n s',
      Leaves s [(.key ⟨parametersPath table (servicePath d), access⟩, n)] [] s' → Q (.ok n) s') :
    (registryOpenParametersKey cp table servicePath access).YieldsIf A Q s := by
  have h := Leaves.refl s
  refine .get_bind (.ite (fun _ => ?_) fun _ => ?_)
  · rw [hd]
    refine openKey_yields (fun code hf => hno _ _ nofun hf h) ?_
    refine hyes _ _ ?_
    have hbelow := below_parameters table cp (servicePath d) access
    rw [toUnicode_parameters] at hbelow
    have h := h.take (.key ⟨parametersPath table (servicePath d), access⟩)
    rw [← hbelow] at h ⊢
    exact h
  · refine .bind (registryOpenServiceKey_yields hpath
      (fun code hf => .pure (hno _ _ nofun hf h)) ?_)
    have hservice : below table none ((servicePath d).map table.up) = (servicePath d).map table.up :=
      map_up_map_up table _
    rw [hservice]
    have h := h.take (.key ⟨(servicePath d).map table.up, access⟩)
    have hopen := h.mem_live (List.mem_cons_self ..)
    refine .bind (registryOpenSubKey_yields (.key hopen) (fun hlong => ?_)
      (fun status s' hs hf h' => ?_) fun n s' h' => ?_)
    · rw [toUnicode_parameters] at hlong
      exact absurd hlong (by decide)
    · have h'' := h.trans h'
      refine .bind (registryCloseKey_yields (h'.live hopen) ?_)
      refine .pure (hno _ _ hs hf ?_)
      exact h''.give [] nofun
    · rw [below_parameters] at h'
      have h'' := h.trans h'
      refine .bind (registryCloseKey_yields (h'.live hopen) ?_)
      refine .pure (hyes n _ ?_)
      refine h''.give [_] fun hm => ?_
      have hnew := h'.heap.notMem_live (List.mem_cons_self ..)
      exact hnew (List.mem_singleton.mp hm ▸ hopen)

theorem registryDeleteSubKey_yields {Q : Status → KeySys → Prop}
    (hn : (.key given, n) ∈ s.heap.live)
    (hlong : maxUstring < (cp.toUnicode name).length → Q .invalidParameter s)
    (hno : ∀ status s', status ≠ .success → Fails A → Leaves s [] [] s' → Q status s')
    (hyes : ∀ s', Leaves s [] [below table (some given) (cp.toUnicode name)] s' → Q .success s') :
    (registryDeleteSubKey cp table n name).YieldsIf A Q s := by
  have h := Leaves.refl s
  refine .bind (newUnicode_yields (fun hl => .pure (hlong hl))
    (fun hf => .pure (hno _ _ nofun hf h)) fun _ => ?_)
  have h := h.take .unicode
  refine .bind (registryOpenKey_yields (.key (h.live hn)) (fun code hf => ?_) ?_)
  · refine .modify_bind (.pure ?_)
    exact hno _ _ nofun hf (h.give [] nofun)
  have h := h.take (.key ⟨below table (some given) (cp.toUnicode name), KEY_ALL_ACCESS⟩)
  have hopen := h.mem_live (List.mem_cons_self ..)
  refine .bind (useKey_yields hopen ?_)
  refine .ask_bind fun a ha => ?_
  cases hr : a.refused with
  | some code =>
      have hf : Fails A := fails_of_refused ha hr
      refine .bind (registryCloseKey_yields hopen ?_)
      refine .modify_bind (.pure ?_)
      exact hno _ _ nofun hf ((h.give [] nofun).give [] nofun)
  | none =>
      refine .modify_bind ?_
      refine .bind (registryCloseKey_yields hopen ?_)
      refine .modify_bind (.pure ?_)
      have h' := (h.give [] nofun).give [] nofun
      exact hyes _ ⟨h'.heap, h'.globals, by simp, h'.faults⟩

/-- The key of a device, by the name that the kernel has for it. -/
theorem ioOpenDeviceRegistryKey_yields {Q : Except Status Nat → KeySys → Prop}
    (hno : ∀ code, Fails A → Q (.error (.error code)) s)
    (hyes : ∀ a, A a → Q (.ok s.heap.next)
      ((s.withHeap (s.heap.take (.key ⟨a.name.text.map table.up, access⟩))).named
        [.device a.name])) :
    (ioOpenDeviceRegistryKey table access).YieldsIf A Q s := by
  refine .ask_bind fun a ha => .get_bind ?_
  cases hr : a.refused with
  | some code => exact .pure (hno code (fails_of_refused ha hr))
  | none =>
      refine .modify_bind ?_
      refine .modify_bind ?_
      exact .pure (hyes a ha)

/-- There is a backslash in front of every name. -/
theorem FullName.wcsrchr (name : FullName) :
    ∃ cursor, wcsrchr 92 (name.text ++ [0]) = some cursor := by
  obtain ⟨text, habsolute, -⟩ := name
  cases text with
  | nil => cases habsolute
  | cons c text =>
      obtain rfl := Option.some.inj habsolute
      simp only [List.cons_append, Entry.wcsrchr]
      rw [if_neg (by decide)]
      split
      · exact ⟨_, rfl⟩
      · exact ⟨0, by simp⟩

/-- The name of the key above. -/
def FullName.above (name : FullName) (path : List UInt16) : Prop :=
  ∃ cursor, Entry.wcsrchr 92 (name.text ++ [0]) = some cursor ∧ path = name.text.take cursor

/-- The names that have been given on the way to it: of the device's key, and of the key that was
    opened as that. -/
def hardwareNames (table : UpcaseTable) (device name : FullName) : List Naming :=
  [.device device, .queried ⟨device.text.map table.up, KEY_READ⟩ name]

theorem registryOpenHardwareKey_yields {Q : Except Status Nat → KeySys → Prop}
    (hno : ∀ status s', status ≠ .success → Fails A → Leaves s [] [] s' → Q (.error status) s')
    (hyes : ∀ device name path n s', name.above path →
      s'.names = s.names ++ hardwareNames table device name →
      Leaves s [(.key ⟨path.map table.up, access⟩, n)] [] s' → Q (.ok n) s') :
    (registryOpenHardwareKey table access).YieldsIf A Q s := by
  have h := Leaves.refl s
  refine .bind (ioOpenDeviceRegistryKey_yields (fun code hf => .pure (hno _ _ nofun hf h))
    fun device _ => ?_)
  generalize hsubKey : (⟨device.name.text.map table.up, KEY_READ⟩ : OpenedKey) = subKey
  have h := (h.take (.key subKey)).named [.device device.name]
  have hopen := h.mem_live (List.mem_cons_self ..)
  refine .bind (useKey_yields hopen ?_)
  refine .ask_bind fun a₁ ha₁ => ?_
  cases hr : a₁.refused with
  | some code =>
      have hf : Fails A := fails_of_refused ha₁ hr
      refine .bind (registryCloseKey_yields hopen ?_)
      exact .pure (hno _ _ nofun hf (h.give [] nofun))
  | none => ?_
  have hshort := a₁.name.short
  have hsize : (4 + 2 * a₁.name.text.length + 2) % 2 ^ 32 = 4 + 2 * a₁.name.text.length + 2 :=
    Nat.mod_eq_of_lt (by unfold maxUstring at hshort; omega)
  refine .ask_bind fun a₂ ha₂ => ?_
  refine .get_bind (.ite (fun hrefused => ?_) fun _ => ?_)
  · rw [hsize] at hrefused
    have hf : Fails A := fails_of_not_granted ha₂ fun hg => by simp [hg] at hrefused
    refine .bind (registryCloseKey_yields hopen ?_)
    exact .pure (hno _ _ nofun hf (h.give [] nofun))
  have h := h.take .block
  have hopen := h.mem_live (List.mem_cons_of_mem _ (List.mem_cons_self ..))
  -- `Info` and `SubKey` go, behind a handle that has been opened or not
  have hfree {r : Except Status Nat} (kept : List (KeyObject × Nat)) {s' : KeySys}
      (h : Leaves s (kept ++ [(.block, s.heap.next + 1), (.key subKey, s.heap.next)]) [] s')
      (hkept : ∀ x ∈ kept, s.heap.next + 1 < x.2)
      (hQ : ∀ s'', Leaves s kept [] s'' → s''.names = s'.names → Q r s'') :
      (free .block (s.heap.next + 1) >>= fun _ => registryCloseKey s.heap.next >>= fun _ =>
        Pure.pure r : OnKeys _).YieldsIf A Q s' := by
    have hblock := h.give kept fun hm => absurd (hkept _ hm) (Nat.lt_irrefl _)
    have hlast := hblock.mem_live (List.mem_append_right kept (List.mem_cons_self ..))
    have hkey := hblock.give kept
      fun hm => absurd (hkept _ hm) (Nat.not_lt_of_lt (Nat.lt_succ_self _))
    rw [List.append_nil] at hkey
    refine .modify_bind ?_
    refine .bind (registryCloseKey_yields hlast ?_)
    exact .pure (hQ _ hkey rfl)
  refine .modify_bind ?_
  refine .bind (useKey_yields hopen ?_)
  refine .ask_bind fun a₃ ha₃ => ?_
  cases hr₃ : a₃.refused with
  | some code =>
      have hf : Fails A := fails_of_refused ha₃ hr₃
      exact hfree [] h nofun fun s' hs' _ => hno _ s' nofun hf hs'
  | none => ?_
  have h := h.named [.queried subKey a₃.name]
  refine .modify_bind (.ite (fun hlonger => ?_) fun hfits => ?_)
  · -- the name has become longer
    have hf : Fails A := ⟨a₁, a₃, ha₁, ha₃, fun hcalm => by
      rw [hcalm.2.2] at hlonger
      exact absurd hlonger (Nat.lt_irrefl _)⟩
    exact hfree [] h nofun fun s' hs' _ => hno _ s' nofun hf hs'
  · have hinside : decide (4 + 2 * a₃.name.text.length + 2 ≤
        (4 + 2 * a₁.name.text.length + 2) % 2 ^ 32) = true := by
      rw [hsize]
      exact decide_eq_true (by omega)
    obtain ⟨cursor, hcursor⟩ := a₃.name.wcsrchr
    refine .modify_bind ?_
    rw [hinside, hcursor]
    refine .bind (registryOpenKey_yields .top (fun code hf => ?_) ?_)
    · exact hfree [] h nofun fun s' hs' _ => hno _ s' nofun hf hs'
    · have h := h.take (.key ⟨(a₃.name.text.take cursor).map table.up, access⟩)
      refine hfree [_] h (fun x hx => ?_) fun s' hs' hnames => ?_
      · obtain rfl := List.mem_singleton.mp hx
        exact Nat.lt_succ_self _
      · refine hyes device.name a₃.name _ _ s' ⟨cursor, hcursor, rfl⟩ ?_ hs'
        rw [hnames, hardwareNames, hsubKey]
        exact List.append_assoc ..

end Keys

/-! ## 6. Load and unload -/

/-- The driver is not loaded. -/
structure Globals.Idle (g : Globals) : Prop where
  driverObject : g.driverObject = none
  parametersKey : g.parametersKey = none
  registryPath : g.registryPath = none
  registryDriverObject : g.registryDriverObject = none
  ioOpenDriverRegistryKey : g.ioOpenDriverRegistryKey = false

/-- The driver object `d` is loaded: all of it has been filled in. -/
def Globals.loaded (table : UpcaseTable) (d buffer parametersKey : Nat) (path : List UInt16)
    (routine : Bool) : Globals where
  driverObject := some d
  parametersKey := some parametersKey
  registryPath := some (buffer, path.map table.up)
  registryDriverObject := some d
  ioOpenDriverRegistryKey := routine
  object := ⟨true, true, fun i => decide (i ≤ IRP_MJ_MAXIMUM_FUNCTION)⟩

/-- What `RegistryTeardown` leaves of the globals. -/
def Globals.tornDown (g : Globals) : Globals :=
  { g with ioOpenDriverRegistryKey := false, registryDriverObject := none, registryPath := none }

/-- Every entry of the table is set. -/
theorem setDispatch_eq (f : Nat → Bool) :
    setDispatch f = fun i => decide (i ≤ IRP_MJ_MAXIMUM_FUNCTION) || f i := by
  have hloop (n : Nat) : (List.range n).foldl (fun f i => Function.update f i true) f =
      fun i => decide (i < n) || f i := by
    induction n with
    | zero =>
        funext i
        simp
    | succ n ih =>
        rw [List.range_succ, List.foldl_append, ih]
        funext i
        by_cases hi : i = n
        · subst hi
          simp
        · have hlt : i < n + 1 ↔ i < n := by omega
          simp [Function.update_of_ne hi, hlt]
  rw [setDispatch, hloop]
  funext i
  simp only [Nat.lt_succ_iff]

section Driver

variable {A : KeyAnswer → Prop} {s : KeySys} {cp : CodePage} {table : UpcaseTable}
  {path : List UInt16} {d buffer parametersKey : Nat} {key : OpenedKey}

theorem check_of {holds : Bool} (h : holds = true) : s.check holds = s := by
  rw [h]
  rfl

theorem registryInitialize_yields {Q : Status → KeySys → Prop}
    (hpath : s.globals.registryPath = none) (hd : s.globals.registryDriverObject = none)
    (hroutine : s.globals.ioOpenDriverRegistryKey = false) (hno : Fails A → Q .noMemory s)
    (hyes : ∀ routine, Q .success ((s.withGlobals fun g =>
      { g with
        registryPath := some (s.heap.next, path.map table.up)
        registryDriverObject := some d
        ioOpenDriverRegistryKey := routine }).withHeap (s.heap.take .unicode))) :
    (registryInitialize table d path).YieldsIf A Q s := by
  refine .modify_bind ?_
  rw [check_of (by rw [hpath]; rfl)]
  refine .ask_bind fun a ha => .ite (fun _ => ?_) fun hg => ?_
  · refine .modify_bind ?_
    refine .modify_bind ?_
    rw [check_of (by simp [hd])]
    refine .modify_bind ?_
    refine .modify_bind ?_
    rw [check_of (by simp [hroutine])]
    refine .ask_bind fun b _ => .ite (fun _ => ?_) fun _ => ?_
    · refine .modify_bind ?_
      exact .pure (hyes true)
    · have hstate := hyes false
      rw [← hroutine] at hstate
      exact .pure hstate
  · exact .pure (hno (fails_of_not_granted ha hg))

theorem registryTeardown_yields {Q : Unit → KeySys → Prop} {text : List UInt16}
    (hpath : s.globals.registryPath = some (buffer, text))
    (hQ : Q () ((s.withGlobals Globals.tornDown).withHeap
      (s.heap.give .unicode (.object buffer)))) : registryTeardown.YieldsIf A Q s := by
  refine .modify_bind ?_
  refine .get_bind ?_
  simp only [KeySys.withGlobals_globals, hpath]
  refine .modify_bind ?_
  exact .modify hQ

theorem clearDriver_yields {Q : Unit → KeySys → Prop} (hkey : s.globals.parametersKey = none)
    (hQ : Q () (s.withGlobals fun g => { g with driverObject := none })) :
    clearDriver.YieldsIf A Q s := by
  refine .modify_bind ?_
  refine .modify ?_
  rw [check_of (by simp [hkey])]
  exact hQ

/-- **What `DriverEntry` leaves**: two things more and all globals filled in, or nothing. -/
inductive Entered (A : KeyAnswer → Prop) (table : UpcaseTable) (d : Nat) (path : List UInt16)
    (s : KeySys) : Status → KeySys → Prop
  | loaded {s' : KeySys} (buffer parametersKey : Nat) (routine : Bool)
      (heap : s.heap.Has [(.key ⟨parametersPath table path, KEY_READ⟩, parametersKey),
        (.unicode, buffer)] s'.heap)
      (globals : s'.globals = .loaded table d buffer parametersKey path routine)
      (deleted : s'.deleted = s.deleted) (faults : s'.faults = s.faults) :
      Entered A table d path s .success s'
  | failed {status : Status} {s' : KeySys} (hstatus : status ≠ .success) (hfails : Fails A)
      (heap : s.heap.Has [] s'.heap) (globals : s'.globals.Idle)
      (deleted : s'.deleted = s.deleted) (faults : s'.faults = s.faults) :
      Entered A table d path s status s'

theorem driverEntry_yields (h : s.globals.Idle) :
    (driverEntry cp table d path).YieldsIf A (Entered A table d path s) s := by
  refine .modify_bind ?_
  rw [check_of (by rw [h.driverObject]; rfl)]
  refine .modify_bind ?_
  refine .modify_bind (.bind ?_)
  refine registryInitialize_yields h.registryPath h.registryDriverObject h.ioOpenDriverRegistryKey
    (fun hf => ?_) fun routine => ?_
  · refine .bind (clearDriver_yields h.parametersKey (.pure ?_))
    exact .failed nofun hf (.refl _)
      ⟨rfl, h.parametersKey, h.registryPath, h.registryDriverObject, h.ioOpenDriverRegistryKey⟩ rfl rfl
  -- `RegistryPath.Buffer` is there, and goes again where the rest fails
  have hpath := (Heap.Has.refl s.heap).take KeyObject.unicode
  generalize hs : KeySys.withHeap _ _ = s₁
  have hheap : s₁.heap = s.heap.take .unicode := by
    rw [← hs]
    rfl
  have hregistry : s₁.globals.registryPath = some (s.heap.next, path.map table.up) := by
    rw [← hs]
    rfl
  have hkey : s₁.globals.parametersKey = none := by
    rw [← hs]
    exact h.parametersKey
  have hsame : s₁.deleted = s.deleted ∧ s₁.faults = s.faults := by
    rw [← hs]
    exact ⟨rfl, rfl⟩
  rw [← hheap] at hpath
  have hfail {status : Status} {s' : KeySys} (hstatus : status ≠ .success) (hf : Fails A)
      (h' : Leaves s₁ [] [] s') :
      (registryTeardown >>= fun _ => clearDriver >>= fun _ => Pure.pure status :
        OnKeys Status).YieldsIf A (Entered A table d path s) s' := by
    have hregistry' := h'.globals ▸ hregistry
    refine .bind (registryTeardown_yields hregistry' ?_)
    refine .bind (clearDriver_yields ?_ (.pure ?_))
    · exact (congrArg Globals.parametersKey h'.globals).trans hkey
    · refine .failed hstatus hf ?_ ⟨rfl, ?_, rfl, rfl, rfl⟩ ?_ (h'.faults.trans hsame.2)
      · exact (hpath.trans h'.heap).giveHead
      · exact (congrArg Globals.parametersKey h'.globals).trans hkey
      · have hdeleted := h'.deleted
        rw [List.append_nil] at hdeleted
        exact hdeleted.trans hsame.1
  have hleaves := Leaves.refl s₁
  refine .bind (registryOpenServiceKey_yields hregistry (fun code hf => hfail nofun hf hleaves) ?_)
  have hservice : below table none (path.map table.up) = path.map table.up := map_up_map_up table path
  have hbelow := below_parameters table cp path KEY_ALL_ACCESS
  rw [hservice]
  generalize (⟨path.map table.up, KEY_ALL_ACCESS⟩ : OpenedKey) = service at hbelow ⊢
  have hleaves := hleaves.take (.key service)
  have hopen := hleaves.mem_live (List.mem_cons_self ..)
  refine .bind (registryOpenSubKey_yields (.key hopen) (fun hlong => ?_)
    (fun status s' hs hf h' => ?_) fun k s' h' => ?_)
  · rw [toUnicode_parameters] at hlong
    exact absurd hlong (by decide)
  · have h'' := hleaves.trans h'
    refine .bind (registryCloseKey_yields (h'.live hopen) ?_)
    exact hfail hs hf (h''.give [] nofun)
  · rw [hbelow] at h'
    have h'' := hleaves.trans h'
    have hnew : (.key service, s₁.heap.next) ∉
        [(KeyObject.key ⟨parametersPath table path, KEY_READ⟩, k)] := by
      intro hm
      have hold := h'.heap.notMem_live (List.mem_cons_self ..)
      exact hold (List.mem_singleton.mp hm ▸ hopen)
    have hgive := h''.give [_] hnew
    refine .modify_bind ?_
    refine .bind (registryCloseKey_yields (h'.live hopen) ?_)
    refine .modify_bind ?_
    refine .modify_bind (.pure ?_)
    refine .loaded s.heap.next k routine (hpath.trans hgive.heap) ?_ ?_ (hgive.faults.trans hsame.2)
    · have hglobals : s'.globals = s₁.globals := h'.globals
      simp only [KeySys.withGlobals_globals, KeySys.withHeap_globals, hglobals, ← hs,
        setDispatch_eq]
      simp [Globals.loaded, DriverObject.unset]
    · simpa [hsame.1] using hgive.deleted

/-- **What `DriverUnload` leaves**: what there was of the driver's goes. -/
theorem driverUnload_yields {routine : Bool} {Q : Unit → KeySys → Prop}
    (hglobals : s.globals = .loaded table d buffer parametersKey path routine)
    (hkey : (.key key, parametersKey) ∈ s.heap.live) (hQ : ∀ s' : KeySys, s'.globals.Idle →
      s'.heap = (s.heap.give (.key key) (.object parametersKey)).give .unicode (.object buffer) →
      s'.deleted = s.deleted → s'.faults = s.faults → Q () s') :
    (driverUnload d).YieldsIf A Q s := by
  refine .modify_bind ?_
  rw [check_of (by simp [hglobals, Globals.loaded])]
  refine .get_bind ?_
  refine .modify_bind ?_
  have hparameters : s.globals.parametersKey = some parametersKey := by
    rw [hglobals]
    rfl
  have hpath : s.globals.registryPath = some (buffer, path.map table.up) := by
    rw [hglobals]
    rfl
  rw [hparameters]
  refine .bind (registryCloseKey_yields (s := s.withGlobals _) hkey ?_)
  refine .bind (registryTeardown_yields hpath ?_)
  refine clearDriver_yields rfl ?_
  exact hQ _ ⟨rfl, rfl, rfl, rfl, rfl⟩ rfl rfl rfl

end Driver

/-! ## 7. Runs -/

inductive KeyCall where
  | openServiceKey (access : BitVec 32)
  | openParametersKey (access : BitVec 32)
  | openSoftwareKey (access : BitVec 32)
  | openHardwareKey (access : BitVec 32)
  | openSubKey (key : Nat) (name : List UInt8) (access : BitVec 32)
  | deleteSubKey (key : Nat) (name : List UInt8)
  | closeKey (handle : Nat)

/-- A call that has returned: the key it was given, the key it has opened, the keys it has deleted,
    and the names that the kernel has given it. -/
structure Done where
  driver : Nat
  call : KeyCall
  given : Option OpenedKey
  result : Except Status (Option OpenedKey)
  gone : List (List UInt16)
  names : List Naming

/-- The driver object that is loaded, the handles that callers have, and the calls that have
    returned. -/
structure DriverRun where
  sys : KeySys
  loaded : Option Nat
  held : List (OpenedKey × Nat)
  done : List Done

def DriverRun.init : DriverRun := ⟨⟨.empty, .zero, [], 0, []⟩, none, [], []⟩

inductive DriverLabel where
  | load (d : Nat) (tape : Nat → KeyAnswer)
  | addDevice (tape : Nat → KeyAnswer)
  | unload (tape : Nat → KeyAnswer)
  | call (c : KeyCall) (tape : Nat → KeyAnswer)

namespace KeyCall

/-- The handle that a call is given. -/
def given : KeyCall → Option Nat
  | .openSubKey key _ _ | .deleteSubKey key _ | .closeKey key => some key
  | _ => none

section

variable (cp : CodePage) (table : UpcaseTable) (servicePath : Nat → List UInt16)

def run : KeyCall → OnKeys (Except Status (Option Nat))
  | .openServiceKey access => do return (← registryOpenServiceKey table access).map some
  | .openParametersKey access => do
    return (← registryOpenParametersKey cp table servicePath access).map some
  | .openSoftwareKey access => do return (← registryOpenSoftwareKey table access).map some
  | .openHardwareKey access => do return (← registryOpenHardwareKey table access).map some
  | .openSubKey key name access => do
    return (← registryOpenSubKey cp table (some key) name access).map some
  | .deleteSubKey key name => do
    match ← registryDeleteSubKey cp table key name with
    | .success => pure (.ok none)
    | status => pure (.error status)
  | .closeKey handle => do
    registryCloseKey handle
    return .ok none

/-- The key that a call opens, by the names that it has been given: a device's own, or the one above
    the name that the kernel has for the key that was opened as the device's. -/
def Opens (d : Nat) (given : Option OpenedKey) (names : List Naming) : KeyCall → OpenedKey → Prop
  | .openServiceKey access, key => key = ⟨(servicePath d).map table.up, access⟩
  | .openParametersKey access, key => key = ⟨parametersPath table (servicePath d), access⟩
  | .openSoftwareKey access, key =>
    ∃ device, names = [.device device] ∧ key = ⟨device.text.map table.up, access⟩
  | .openHardwareKey access, key => ∃ device name path, names = hardwareNames table device name ∧
    name.above path ∧ key = ⟨path.map table.up, access⟩
  | .openSubKey _ name access, key => key = ⟨below table given (cp.toUnicode name), access⟩
  | .deleteSubKey _ _, _ | .closeKey _, _ => False

/-- The name is too long for a `UNICODE_STRING`. -/
def TooLong : KeyCall → Prop
  | .openSubKey _ name _ | .deleteSubKey _ name => maxUstring < (cp.toUnicode name).length
  | _ => False

end

end KeyCall

/-- The handles that callers have behind a call. -/
def heldAfter (held : List (OpenedKey × Nat)) (s s' : KeySys) :
    KeyCall → Except Status (Option Nat) → List (OpenedKey × Nat)
  | .closeKey n, .ok none => ((s.keyOf n).map fun key => held.erase (key, n)).getD held
  | _, .ok (some n) => ((s'.keyOf n).map fun key => (key, n) :: held).getD held
  | _, _ => held

section Runs

variable (cp : CodePage) (table : UpcaseTable) (servicePath : Nat → List UInt16)

namespace DriverRun

def load (s : DriverRun) (d : Nat) (tape : Nat → KeyAnswer) : DriverRun :=
  match driverEntry cp table d (servicePath d) tape 0 s.sys with
  | .returns (status, _, sys) =>
    { s with sys := sys, loaded := if status = .success then some d else none }
  | _ => s

def addDevice (s : DriverRun) (tape : Nat → KeyAnswer) (d : Nat) : DriverRun :=
  match Entry.addDevice d tape 0 s.sys with
  | .returns (_, _, sys) => { s with sys := sys }
  | _ => s

def unload (s : DriverRun) (tape : Nat → KeyAnswer) (d : Nat) : DriverRun :=
  match driverUnload d tape 0 s.sys with
  | .returns (_, _, sys) => { s with sys := sys, loaded := none }
  | _ => s

def call (s : DriverRun) (c : KeyCall) (tape : Nat → KeyAnswer) (d : Nat) : DriverRun :=
  match c.run cp table servicePath tape 0 s.sys with
  | .returns (r, _, sys) =>
    { s with
      sys := sys
      held := heldAfter s.held s.sys sys c r
      done := s.done ++ [⟨d, c, c.given.bind s.sys.keyOf, r.map fun n => n.bind sys.keyOf,
        sys.deleted.drop s.sys.deleted.length, sys.names.drop s.sys.names.length⟩] }
  | _ => s

end DriverRun

/-- **Load and unload, and any calls in between.** A handle is closed by whoever has it; the key of
    the parameters is for everybody. -/
def driverSystem : System DriverRun DriverLabel where
  enabled s
    | .load _ _ => s.loaded = none
    | .addDevice _ | .unload _ => ∃ d, s.loaded = some d
    | .call c _ => (∃ d, s.loaded = some d) ∧ ∀ n, c.given = some n →
      (∃ key, (key, n) ∈ s.held) ∨ s.sys.globals.parametersKey = some n ∧ c ≠ .closeKey n
  next s
    | .load d tape => s.load cp table servicePath d tape
    | .addDevice tape => s.loaded.elim s (s.addDevice tape)
    | .unload tape => s.loaded.elim s (s.unload tape)
    | .call c tape => s.loaded.elim s (s.call cp table servicePath c tape)

/-- **A call has done what it is to do.** -/
inductive Done.Right (d : Done) : Prop
  | refused (status : Status) (h : status ≠ .success) (hresult : d.result = .error status)
      (hgone : d.gone = [])
  | opened (key : OpenedKey) (hkey : d.call.Opens cp table servicePath d.driver d.given d.names key)
      (hresult : d.result = .ok (some key)) (hgone : d.gone = [])
  | deleted (n : Nat) (name : List UInt8) (hcall : d.call = .deleteSubKey n name)
      (hresult : d.result = .ok none) (hgone : d.gone = [below table d.given (cp.toUnicode name)])
  | closed (n : Nat) (hcall : d.call = .closeKey n) (hresult : d.result = .ok none)
      (hgone : d.gone = [])

/-- A handle, as it is live. -/
def entry (x : OpenedKey × Nat) : KeyObject × Nat := (.key x.1, x.2)

/-- **What there is**: the handles of the callers, and what the driver has where it is loaded. -/
def Owned (s : DriverRun) : Prop :=
  match s.loaded with
  | none => s.sys.globals.Idle ∧ s.sys.heap.live.Perm (s.held.map entry)
  | some d => ∃ buffer parametersKey routine,
    s.sys.globals = .loaded table d buffer parametersKey (servicePath d) routine ∧
    s.sys.heap.live.Perm ((.key ⟨parametersPath table (servicePath d), KEY_READ⟩, parametersKey) ::
      (.unicode, buffer) :: s.held.map entry)

/-- **The invariant.** -/
structure Kept (s : DriverRun) : Prop where
  owned : Owned table servicePath s
  astray : s.sys.heap.astray = []
  faults : s.sys.faults = 0
  deleted : s.sys.deleted = s.done.flatMap (·.gone)
  right : ∀ d ∈ s.done, d.Right cp table servicePath

end Runs

/-! ## 8. The steps -/

section Steps

variable {A : KeyAnswer → Prop} {cp : CodePage} {table : UpcaseTable}
  {servicePath : Nat → List UInt16} {d buffer parametersKey : Nat} {routine : Bool} {c : KeyCall}

/-- **What a call does**: it is refused, it opens a key, or it does what else it is for. -/
inductive Does (A : KeyAnswer → Prop) (cp : CodePage) (table : UpcaseTable)
    (servicePath : Nat → List UInt16) (d : Nat) (given : Option OpenedKey) (c : KeyCall)
    (s : KeySys) : Except Status (Option Nat) → KeySys → Prop
  | refused {status : Status} {s' : KeySys} (hstatus : status ≠ .success)
      (hwhy : Fails A ∨ c.TooLong cp) (h : Leaves s [] [] s') :
      Does A cp table servicePath d given c s (.error status) s'
  | opened {key : OpenedKey} {n : Nat} {s' : KeySys}
      (hkey : c.Opens cp table servicePath d given (s'.names.drop s.names.length) key)
      (h : Leaves s [(.key key, n)] [] s') :
      Does A cp table servicePath d given c s (.ok (some n)) s'
  | deleted {n : Nat} {name : List UInt8} {s' : KeySys} (hcall : c = .deleteSubKey n name)
      (h : Leaves s [] [below table given (cp.toUnicode name)] s') :
      Does A cp table servicePath d given c s (.ok none) s'
  | closed {n : Nat} {key : OpenedKey} (hcall : c = .closeKey n) (hgiven : given = some key) :
      Does A cp table servicePath d given c s (.ok none)
        (s.withHeap (s.heap.give (.key key) (.object n)))

theorem KeyCall.run_yields {s : KeySys} {given : Option OpenedKey}
    (hglobals : s.globals = .loaded table d buffer parametersKey (servicePath d) routine)
    (hgiven : Parent s c.given given) :
    (c.run cp table servicePath).YieldsIf A (Does A cp table servicePath d given c s) s := by
  have hpath : s.globals.registryPath = some (buffer, (servicePath d).map table.up) := by
    rw [hglobals]
    rfl
  have hd : s.globals.registryDriverObject = some d := by
    rw [hglobals]
    rfl
  have h := Leaves.refl s
  cases c with
  | openServiceKey access =>
      refine .bind (registryOpenServiceKey_yields hpath (fun code hf => .pure ?_) (.pure ?_))
      · exact .refused nofun (.inl hf) h
      · refine .opened ?_ (h.take _)
        show OpenedKey.mk _ _ = _
        rw [below, map_up_map_up]
  | openParametersKey access =>
      refine .bind (registryOpenParametersKey_yields hpath hd
        (fun status s' hs hf h' => .pure ?_) fun n s' h' => .pure ?_)
      · exact .refused hs (.inl hf) h'
      · exact .opened rfl h'
  | openSoftwareKey access =>
      refine .bind (ioOpenDeviceRegistryKey_yields (fun code hf => .pure ?_) fun a _ => .pure ?_)
      · exact .refused nofun (.inl hf) h
      · refine .opened ⟨a.name, ?_, rfl⟩ ((h.take _).named _)
        exact List.drop_left ..
  | openHardwareKey access =>
      refine .bind (registryOpenHardwareKey_yields (fun status s' hs hf h' => .pure ?_)
        fun device name path n s' habove hnames h' => .pure ?_)
      · exact .refused hs (.inl hf) h'
      · refine .opened ⟨device, name, path, ?_, habove, rfl⟩ h'
        rw [hnames]
        exact List.drop_left ..
  | openSubKey key name access =>
      refine .bind (registryOpenSubKey_yields hgiven (fun hlong => .pure ?_)
        (fun status s' hs hf h' => .pure ?_) fun n s' h' => .pure ?_)
      · exact .refused nofun (.inr hlong) h
      · exact .refused hs (.inl hf) h'
      · exact .opened rfl h'
  | deleteSubKey key name =>
      cases hgiven with
      | key hn =>
        refine .bind (registryDeleteSubKey_yields hn (fun hlong => .pure ?_)
          (fun status s' hs hf h' => ?_) fun s' h' => .pure ?_)
        · exact .refused nofun (.inr hlong) h
        · cases status with
          | success => exact absurd rfl hs
          | _ => exact .pure (.refused hs (.inl hf) h')
        · exact .deleted rfl h'
  | closeKey handle =>
      cases hgiven with
      | key hn =>
          refine .bind (registryCloseKey_yields hn ?_)
          exact .pure (.closed rfl rfl)

end Steps

section Invariant

variable {cp : CodePage} {table : UpcaseTable} {servicePath : Nat → List UInt16} {s : DriverRun}
  {d : Nat}

theorem Kept.init : Kept cp table servicePath .init where
  owned := ⟨⟨rfl, rfl, rfl, rfl, rfl⟩, .nil⟩
  astray := rfl
  faults := rfl
  deleted := rfl
  right := nofun

/-- What is live is what there was, and so much more. -/
theorem perm_of_has {h h' : Heap KeyObject} {kept old : List (KeyObject × Nat)}
    (hhas : h.Has kept h') (hperm : h.live.Perm old) : h'.live.Perm (kept ++ old) := by
  rw [hhas.live]
  exact hperm.append_left kept

/-- **Load.** -/
theorem Kept.load (h : Kept cp table servicePath s) (hloaded : s.loaded = none) (d : Nat)
    (tape : Nat → KeyAnswer) : Kept cp table servicePath (s.load cp table servicePath d tape) := by
  have howned := h.owned
  simp only [Owned, hloaded] at howned
  obtain ⟨hidle, hlive⟩ := howned
  have hyields : (driverEntry cp table d (servicePath d)).YieldsIf (fun _ => True) _ s.sys :=
    driverEntry_yields hidle
  obtain ⟨status, n, sys, hrun, hentered⟩ := hyields tape 0 fun _ => trivial
  unfold DriverRun.load
  rw [hrun]
  cases hentered with
  | loaded buffer parametersKey routine heap globals deleted faults =>
      refine ⟨?_, heap.astray.trans h.astray, faults.trans h.faults, deleted.trans h.deleted, h.right⟩
      exact ⟨buffer, parametersKey, routine, globals, perm_of_has heap hlive⟩
  | failed hstatus _ heap globals deleted faults =>
      refine ⟨?_, heap.astray.trans h.astray, faults.trans h.faults, deleted.trans h.deleted, h.right⟩
      simp only [Owned, if_neg hstatus]
      exact ⟨globals, perm_of_has heap hlive⟩

/-- The loaded driver. -/
theorem Kept.loaded (h : Kept cp table servicePath s) (hloaded : s.loaded = some d) :
    ∃ buffer parametersKey routine,
      s.sys.globals = .loaded table d buffer parametersKey (servicePath d) routine ∧
      s.sys.heap.live.Perm ((.key ⟨parametersPath table (servicePath d), KEY_READ⟩, parametersKey) ::
        (.unicode, buffer) :: s.held.map entry) := by
  have howned := h.owned
  simp only [Owned, hloaded] at howned
  exact howned

/-- **Unload.** -/
theorem Kept.unload (h : Kept cp table servicePath s) (hloaded : s.loaded = some d)
    (tape : Nat → KeyAnswer) : Kept cp table servicePath (s.unload tape d) := by
  obtain ⟨buffer, parametersKey, routine, hglobals, hlive⟩ := h.loaded hloaded
  have hkey : (.key ⟨parametersPath table (servicePath d), KEY_READ⟩, parametersKey) ∈
      s.sys.heap.live := hlive.mem_iff.mpr (List.mem_cons_self ..)
  have hyields : (driverUnload d).YieldsIf (fun _ => True) (fun _ s' => s'.globals.Idle ∧
      s'.heap = (s.sys.heap.give (.key ⟨parametersPath table (servicePath d), KEY_READ⟩)
        (.object parametersKey)).give .unicode (.object buffer) ∧
      s'.deleted = s.sys.deleted ∧ s'.faults = s.sys.faults) s.sys :=
    driverUnload_yields hglobals hkey fun s' hidle hheap hdeleted hfaults =>
      ⟨hidle, hheap, hdeleted, hfaults⟩
  obtain ⟨_, n, sys, hrun, hidle, hheap, hdeleted, hfaults⟩ := hyields tape 0 fun _ => trivial
  obtain ⟨hlive₁, hastray₁⟩ := Heap.give_of_mem hkey
  have hperm := hlive.erase (KeyObject.key ⟨parametersPath table (servicePath d), KEY_READ⟩,
    parametersKey)
  rw [List.erase_cons_head, ← hlive₁] at hperm
  obtain ⟨hlive₂, hastray₂⟩ := Heap.give_of_mem (hperm.mem_iff.mpr (List.mem_cons_self ..))
  have hperm₂ := hperm.erase (KeyObject.unicode, buffer)
  rw [List.erase_cons_head, ← hlive₂, ← hheap] at hperm₂
  unfold DriverRun.unload
  rw [hrun]
  refine ⟨⟨hidle, hperm₂⟩, ?_, hfaults.trans h.faults, hdeleted.trans h.deleted, h.right⟩
  show sys.heap.astray = []
  rw [hheap, hastray₂, hastray₁, h.astray]

/-- A handle that a caller has, or the one that is for everybody. -/
theorem Kept.given (h : Kept cp table servicePath s) {c : KeyCall} {tape : Nat → KeyAnswer}
    (hloaded : s.loaded = some d)
    (he : (driverSystem cp table servicePath).enabled s (.call c tape)) :
    Parent s.sys c.given (c.given.bind s.sys.keyOf) := by
  obtain ⟨buffer, parametersKey, routine, hglobals, hlive⟩ := h.loaded hloaded
  cases hn : c.given with
  | none => exact .top
  | some n =>
      have hopen : ∃ key, (KeyObject.key key, n) ∈ s.sys.heap.live := by
        rcases he.2 n hn with ⟨key, hkey⟩ | ⟨hkey, -⟩
        · refine ⟨key, hlive.mem_iff.mpr ?_⟩
          exact List.mem_cons_of_mem _ (List.mem_cons_of_mem _ (List.mem_map_of_mem hkey))
        · rw [hglobals] at hkey
          obtain rfl := Option.some.inj hkey
          exact ⟨_, hlive.mem_iff.mpr (List.mem_cons_self ..)⟩
      obtain ⟨key, hkey⟩ := hopen
      rw [Option.bind_some, keyOf_of_live hkey]
      exact .key hkey

theorem heldAfter_opened {held : List (OpenedKey × Nat)} {sys sys' : KeySys} {c : KeyCall}
    {given : Option OpenedKey} {names : List Naming} {key : OpenedKey} {n : Nat}
    (hkey : c.Opens cp table servicePath d given names key) (hof : sys'.keyOf n = some key) :
    heldAfter held sys sys' c (.ok (some n)) = (key, n) :: held := by
  cases c with
  | deleteSubKey _ _ | closeKey _ => exact hkey.elim
  | _ => simp [heldAfter, hof]

/-- **A call.** -/
theorem Kept.call (h : Kept cp table servicePath s) (hloaded : s.loaded = some d) {c : KeyCall}
    {tape : Nat → KeyAnswer}
    (he : (driverSystem cp table servicePath).enabled s (.call c tape)) :
    Kept cp table servicePath (s.call cp table servicePath c tape d) := by
  obtain ⟨buffer, parametersKey, routine, hglobals, hlive⟩ := h.loaded hloaded
  have hyields : (c.run cp table servicePath).YieldsIf (fun _ => True) _ s.sys :=
    KeyCall.run_yields hglobals (h.given hloaded he)
  obtain ⟨r, n, sys, hrun, hdoes⟩ := hyields tape 0 fun _ => trivial
  unfold DriverRun.call
  rw [hrun]
  -- what is left to show where the call leaves so much, and the callers have so much
  have hkeeps {kept : List (KeyObject × Nat)} {gone : List (List UInt16)}
      {held : List (OpenedKey × Nat)} {call : Done} (hleaves : Leaves s.sys kept gone sys)
      (hheld : held.map entry = kept ++ s.held.map entry) (hgone : call.gone = gone)
      (hright : call.Right cp table servicePath) :
      Kept cp table servicePath
        { s with sys := sys, held := held, done := s.done ++ [call] } := by
    refine ⟨?_, hleaves.heap.astray.trans h.astray, hleaves.faults.trans h.faults, ?_, ?_⟩
    · simp only [Owned, hloaded]
      refine ⟨buffer, parametersKey, routine, hleaves.globals.trans hglobals, ?_⟩
      refine (perm_of_has hleaves.heap hlive).trans ?_
      rw [hheld]
      exact List.perm_middle.trans (.cons _ List.perm_middle)
    · rw [List.flatMap_append, List.flatMap_singleton, hgone, ← h.deleted]
      exact hleaves.deleted
    · intro e he
      rcases List.mem_append.mp he with he | he
      · exact h.right e he
      · exact List.mem_singleton.mp he ▸ hright
  have hdrop {gone : List (List UInt16)} (hdeleted : sys.deleted = s.sys.deleted ++ gone) :
      sys.deleted.drop s.sys.deleted.length = gone := by
    rw [hdeleted, List.drop_left]
  cases hdoes with
  | refused hstatus _ hleaves =>
      refine hkeeps hleaves ?_ (hdrop hleaves.deleted)
        (.refused _ hstatus rfl (hdrop hleaves.deleted))
      cases c <;> rfl
  | opened hkey hleaves =>
      have hof := keyOf_of_live (hleaves.mem_live (List.mem_cons_self ..))
      refine hkeeps hleaves ?_ (hdrop hleaves.deleted)
        (.opened _ hkey ?_ (hdrop hleaves.deleted))
      · rw [heldAfter_opened hkey hof]
        rfl
      · show Except.ok (sys.keyOf _) = _
        rw [hof]
  | deleted hcall hleaves =>
      refine hkeeps hleaves ?_ (hdrop hleaves.deleted)
        (.deleted _ _ hcall rfl (hdrop hleaves.deleted))
      subst hcall
      rfl
  | closed hcall hgiven =>
      rename_i handle key
      subst hcall
      have hof : s.sys.keyOf handle = some key := hgiven
      -- the handle is a caller's, since nobody else closes
      have hheld : (key, handle) ∈ s.held := by
        rcases he.2 handle rfl with ⟨key', hkey'⟩ | ⟨-, hne⟩
        · have hlive' := hlive.mem_iff.mpr (List.mem_cons_of_mem _ (List.mem_cons_of_mem _
            (List.mem_map_of_mem (f := entry) hkey')))
          obtain rfl := Option.some.inj ((keyOf_of_live hlive').symm.trans hof)
          exact hkey'
        · exact absurd rfl hne
      have hopen : (KeyObject.key key, handle) ∈ s.sys.heap.live :=
        hlive.mem_iff.mpr (List.mem_cons_of_mem _ (List.mem_cons_of_mem _
          (List.mem_map_of_mem (f := entry) hheld)))
      obtain ⟨hlive', hastray'⟩ := Heap.give_of_mem hopen
      refine ⟨?_, hastray'.trans h.astray, h.faults, ?_, fun e he => ?_⟩
      · simp only [Owned, hloaded]
        refine ⟨buffer, parametersKey, routine, hglobals, ?_⟩
        have hsplit : (s.held.map entry).Perm
            ((.key key, handle) :: (s.held.erase (key, handle)).map entry) :=
          (List.perm_cons_erase hheld).map entry
        have hfront := hlive.trans ((hsplit.cons _).cons _)
        have hperm := (hfront.trans ((List.Perm.swap _ _ _).cons _ |>.trans (.swap _ _ _))).erase
          (KeyObject.key key, handle)
        rw [List.erase_cons_head, ← hlive'] at hperm
        simp only [heldAfter, hof]
        exact hperm
      · simp only [List.flatMap_append, List.flatMap_singleton, KeySys.withHeap_deleted,
          List.drop_length, List.append_nil]
        exact h.deleted
      · rcases List.mem_append.mp he with he | he
        · exact h.right e he
        · obtain rfl := List.mem_singleton.mp he
          exact .closed handle rfl rfl List.drop_length

/-- **Every step keeps it.** -/
theorem kept_next {l : DriverLabel} (h : Kept cp table servicePath s)
    (he : (driverSystem cp table servicePath).enabled s l) :
    Kept cp table servicePath ((driverSystem cp table servicePath).next s l) := by
  cases l with
  | load d tape => exact h.load he d tape
  | addDevice tape =>
      obtain ⟨d, hd⟩ := he
      obtain ⟨buffer, parametersKey, routine, hglobals, -⟩ := h.loaded hd
      have hsame : s.addDevice tape d = s := by
        show { s with sys := s.sys.check (s.sys.globals.driverObject == some d) } = s
        rw [check_of (by simp [hglobals, Globals.loaded])]
      simp only [driverSystem, hd, Option.elim_some, hsame]
      exact h
  | unload tape =>
      obtain ⟨d, hd⟩ := he
      simp only [driverSystem, hd, Option.elim_some]
      exact h.unload hd tape
  | call c tape =>
      obtain ⟨d, hd⟩ := he.1
      simp only [driverSystem, hd, Option.elim_some]
      exact h.call hd he

/-! ## 9. The result -/

theorem not_fails_calm (name : FullName) : ¬Fails (KeyAnswer.Calm name) := by
  rintro ⟨a, b, ha, hb, hno⟩
  exact hno ⟨ha.1, ha.2.1, ha.2.2.trans hb.2.2.symm⟩

/-- Where nothing is refused, the driver is loaded. -/
theorem Kept.loads (h : Kept cp table servicePath s) (hloaded : s.loaded = none) (d : Nat)
    {tape : Nat → KeyAnswer} {name : FullName} (hcalm : ∀ i, (tape i).Calm name) :
    (s.load cp table servicePath d tape).loaded = some d := by
  have howned := h.owned
  simp only [Owned, hloaded] at howned
  have hyields : (driverEntry cp table d (servicePath d)).YieldsIf (KeyAnswer.Calm name) _ s.sys :=
    driverEntry_yields howned.1
  obtain ⟨status, n, sys, hrun, hentered⟩ := hyields tape 0 hcalm
  unfold DriverRun.load
  rw [hrun]
  cases hentered with
  | loaded => rfl
  | failed _ hfails => exact absurd hfails (not_fails_calm name)

/-- Every call returns, and where nothing is refused it does what it is for. -/
theorem Kept.returns (h : Kept cp table servicePath s) {c : KeyCall} {tape : Nat → KeyAnswer}
    (he : (driverSystem cp table servicePath).enabled s (.call c tape)) :
    ∃ e : Done, ((driverSystem cp table servicePath).next s (.call c tape)).done = s.done ++ [e] ∧
      e.call = c ∧ ∀ name, (∀ i, (tape i).Calm name) → ¬c.TooLong cp → ∃ r, e.result = .ok r := by
  obtain ⟨d, hd⟩ := he.1
  obtain ⟨buffer, parametersKey, routine, hglobals, -⟩ := h.loaded hd
  have hyields (A : KeyAnswer → Prop) : (c.run cp table servicePath).YieldsIf A _ s.sys :=
    KeyCall.run_yields hglobals (h.given hd he)
  obtain ⟨r, n, sys, hrun, -⟩ := hyields (fun _ => True) tape 0 fun _ => trivial
  simp only [driverSystem, hd, Option.elim_some, DriverRun.call, hrun]
  refine ⟨_, rfl, rfl, fun name hcalm hshort => ?_⟩
  obtain ⟨r', n', sys', hrun', hdoes⟩ := hyields (KeyAnswer.Calm name) tape 0 hcalm
  rw [hrun] at hrun'
  obtain ⟨rfl, -⟩ := Prod.mk.inj (Call.returns.inj hrun')
  cases hdoes with
  | refused _ hwhy =>
      rcases hwhy with hfails | hlong
      · exact absurd hfails (not_fails_calm name)
      · exact absurd hlong hshort
  | opened => exact ⟨_, rfl⟩
  | deleted => exact ⟨_, rfl⟩
  | closed => exact ⟨_, rfl⟩

/-- **The driver from load to unload.** Whatever is refused: where the driver is not loaded, all of its
    globals are zero and the handles of the callers are all that is live; where it is, it has the
    path of its service key and a handle for the key of its parameters besides, and the driver object
    has been filled in. No `ASSERT` fails, no handle is used or closed that is not open, and nothing
    is freed twice; every call has done what it is to do. And where nothing is refused, a load and
    every call succeed. -/
theorem driver_keeps_keys
    (h : Reach (driverSystem cp table servicePath) (fun _ _ => True) .init s) :
    Kept cp table servicePath s ∧
    (∀ d tape name, s.loaded = none → (∀ i, (tape i).Calm name) →
      (s.load cp table servicePath d tape).loaded = some d) ∧
    ∀ c tape, (driverSystem cp table servicePath).enabled s (.call c tape) →
      ∃ e : Done, ((driverSystem cp table servicePath).next s (.call c tape)).done = s.done ++ [e] ∧
        e.call = c ∧ ∀ name, (∀ i, (tape i).Calm name) → ¬c.TooLong cp → ∃ r, e.result = .ok r := by
  have hkept : Kept cp table servicePath s :=
    h.invariant .init fun _ _ hs he _ => kept_next hs he
  exact ⟨hkept, fun d tape name hloaded hcalm => hkept.loads hloaded d hcalm,
    fun c tape he => hkept.returns he⟩

end Invariant

/-- The root of all keys. -/
def rootName : FullName := ⟨[92], rfl, by decide⟩

/-- Nothing is refused. -/
def granting : Nat → KeyAnswer := fun _ => ⟨true, none, true, rootName⟩

/-- And the key of the device is `\A\B`. -/
def naming : Nat → KeyAnswer := fun _ => ⟨true, none, true, ⟨[92, 65, 92, 66], rfl, by decide⟩⟩

/-- The keys are in upper case as they are. -/
def asIs : UpcaseTable := ⟨id, fun _ => rfl⟩

/-- The driver is loaded, somebody opens the key of its parameters and the one above a device's and
    closes them again, and it is unloaded. -/
def loadsAndUnloads : List DriverLabel :=
  [.load 7 granting, .call (.openParametersKey KEY_READ) granting, .call (.closeKey 4) granting,
    .call (.openHardwareKey KEY_READ) naming, .call (.closeKey 7) granting, .unload granting]

theorem reach_loadsAndUnloads : Reach (driverSystem latin1 asIs fun _ => [92, 88]) (fun _ _ => True)
    .init (runs (driverSystem latin1 asIs fun _ => [92, 88]) .init loadsAndUnloads) := by
  refine .of_admits _ .start ⟨rfl, trivial, ⟨⟨7, rfl⟩, nofun⟩, trivial, ⟨⟨7, rfl⟩, ?_⟩, trivial,
    ⟨⟨7, rfl⟩, nofun⟩, trivial, ⟨⟨7, rfl⟩, ?_⟩, trivial, ⟨7, rfl⟩, trivial, trivial⟩
  · intro n hn
    obtain rfl := Option.some.inj hn
    exact .inl ⟨⟨parametersPath asIs [92, 88], KEY_READ⟩, by decide +kernel⟩
  · intro n hn
    obtain rfl := Option.some.inj hn
    exact .inl ⟨⟨[92, 65], KEY_READ⟩, by decide +kernel⟩

/-- The key above the device's is `\A`. -/
theorem driver_keeps_keys_loadsAndUnloads :
    (runs (driverSystem latin1 asIs fun _ => [92, 88]) .init loadsAndUnloads).sys.heap.live = [] ∧
    (runs (driverSystem latin1 asIs fun _ => [92, 88]) .init loadsAndUnloads).done.map (·.result) =
      [.ok (some ⟨parametersPath asIs [92, 88], KEY_READ⟩), .ok none,
        .ok (some ⟨[92, 65], KEY_READ⟩), .ok none] ∧
    Kept latin1 asIs (fun _ => [92, 88])
      (runs (driverSystem latin1 asIs fun _ => [92, 88]) .init loadsAndUnloads) :=
  ⟨by decide +kernel, by decide +kernel, (driver_keeps_keys reach_loadsAndUnloads).1⟩

end Xencons.Entry
