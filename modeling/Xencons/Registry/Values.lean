import Xencons.Lib.Cells
import Xencons.Lib.Ghost
import Xencons.Lib.Heap
import Xencons.Lib.Promise
import Xencons.Lib.Transition
import Xencons.Nt
import Xencons.Registry.Decode

/-!
# Values that others write as well (registry.c)

A value is asked for twice: for its size, and then for what it is, in a block of that size. Others
may write it ahead of each of the two calls, and the pool and the kernel may refuse each call.

* `toBytes`, `fromBytes` -- a number in the registry;
* `RegSys`, `RegAnswer` -- what has been taken from the pool, the values, and what has been done to
  them and seen of them; an access outside of a block is counted;
* `registryQueryDwordValue`, `registryQueryQwordValue`, `registryQueryBinaryValue`,
  `registryUpdateDwordValue`, `registryUpdateBinaryValue`, `registryDeleteValue` -- as the code has
  them;
* `Comes` -- what a call leaves: `registryQueryValue_comes`, `registryUpdateValue_comes`,
  `registryDeleteValue_comes`;
* `valueSystem` -- any calls, one after the other; **`values_kept`**.
-/

namespace Xencons.Registry

open Lib

/-! ## 1. Numbers -/

/-- So many bytes of a number, the lowest one first. -/
def toBytes : Nat → Nat → List UInt8
  | 0, _ => []
  | w + 1, n => UInt8.ofNat (n % 256) :: toBytes w (n / 256)

def fromBytes : List UInt8 → Nat
  | [] => 0
  | b :: data => b.toNat + 256 * fromBytes data

@[simp] theorem length_toBytes (w n : Nat) : (toBytes w n).length = w := by
  induction w generalizing n with
  | zero => rfl
  | succ w ih => exact congrArg (· + 1) (ih _)

/-- What is taken from the pool. -/
inductive RegObject where
  /-- `Unicode.Buffer` -/
  | unicode
  /-- `Partial`, `*Buffer` -/
  | block
deriving DecidableEq

/-- The values of a key, under their names in upper case. -/
abbrev Values := Cells (List UInt16) Value

/-- The pool, and the values with what has been done to them and seen of them; `faults` counts what
    is read or written outside of a block. -/
@[ext] structure RegSys where
  heap : Heap RegObject
  cells : Values
  history : List (Moment (List UInt16) Value)
  faults : Nat

/-- An answer of the pool or of the kernel: whether there is memory, an error of the kernel's, and
    what the others do to the values ahead of it. -/
structure RegAnswer where
  granted : Bool
  refused : Option Nat
  meanwhile : Values → Values

/-- Nothing is refused, and nobody else is there. -/
def RegAnswer.Calm (a : RegAnswer) : Prop := a.granted = true ∧ a.refused = none ∧ a.meanwhile = id

abbrev OnRegistry (α : Type) := Proc RegAnswer RegSys α

open Proc (ask get modify)

namespace RegSys

@[simps] def withHeap (heap : Heap RegObject) (s : RegSys) : RegSys := { s with heap := heap }

/-- A moment more. -/
@[simps] def happen (m : Moment (List UInt16) Value) (s : RegSys) : RegSys :=
  { s with cells := m.next s.cells, history := s.history ++ [m] }

/-- What the kernel has shown is seen. -/
def look (refused : Option Nat) (k : List UInt16) (s : RegSys) : RegSys :=
  match refused with
  | none => s.happen (.saw k (s.cells k))
  | some _ => s

/-- An access. -/
def touch (inside : Bool) (s : RegSys) : RegSys :=
  if inside then s else { s with faults := s.faults + 1 }

end RegSys

/-- `RtlInitAnsiString` and `RtlAnsiStringToUnicodeString(&Unicode, &Ansi, TRUE)` -/
def newUnicode (cp : CodePage) (name : List UInt8) :
    OnRegistry (Except Status (Nat × List UInt16)) := do
  if maxUstring < (cp.toUnicode name).length then pure (.error .invalidParameter)
  else
    let a ← ask
    let s ← get
    if a.granted then
      modify fun s => s.withHeap (s.heap.take .unicode)
      pure (.ok (s.heap.next, cp.toUnicode name))
    else pure (.error .noMemory)

/-- `RtlFreeUnicodeString(&Unicode)`, `__RegistryFree(Partial)` -/
def free (k : RegObject) (n : Nat) : OnRegistry Unit :=
  modify fun s => s.withHeap (s.heap.give k (.object n))

/-- `__RegistryAllocate`, of a `ULONG`; a block of no bytes is refused. -/
def registryAllocate (size : Nat) : OnRegistry (Option Nat) := do
  let a ← ask
  let s ← get
  if a.granted = true ∧ size % 2 ^ 32 ≠ 0 then
    modify fun s => s.withHeap (s.heap.take .block)
    pure (some s.heap.next)
  else pure none

/-- `ZwQueryValueKey` -/
def queryValueKey (k : List UInt16) (length : Nat) : OnRegistry (Status × Nat × Option Value) := do
  let a ← ask
  modify (·.happen (.others a.meanwhile))
  let s ← get
  modify (·.look a.refused k)
  pure (zwQueryValueKey a.refused (s.cells k) length)

/-- `ZwSetValueKey` -/
def setValueKey (k : List UInt16) (type : ValueType) (data : List UInt8) : OnRegistry Status := do
  let a ← ask
  modify (·.happen (.others a.meanwhile))
  match a.refused with
  | some code => pure (.error code)
  | none =>
    if fits : 12 + data.length < 2 ^ 32 then
      modify (·.happen (.wrote k (some ⟨type, data, fits⟩)))
      pure .success
    else pure .invalidParameter

/-- `ZwDeleteValueKey` -/
def deleteValueKey (k : List UInt16) : OnRegistry Status := do
  let a ← ask
  modify (·.happen (.others a.meanwhile))
  let s ← get
  match a.refused with
  | some code => pure (.error code)
  | none =>
    if s.cells k = none then
      modify (·.happen (.saw k none))
      pure .objectNameNotFound
    else
      modify (·.happen (.wrote k none))
      pure .success

/-! ## 3. The functions -/

def REG_BINARY : ValueType := .other 3

def REG_DWORD : ValueType := .other 4

def REG_QWORD : ValueType := .other 11

section Functions

variable {α : Type} (cp : CodePage) (upcase : List UInt16 → List UInt16)

/-- What the queries have in common: `take` makes the answer of `Partial`, a block of `Size` bytes. -/
def registryQueryValue (name : List UInt8) (take : Nat → Value → OnRegistry (Except Status α)) :
    OnRegistry (Except Status α) := do
  match ← newUnicode cp name with
  -- fail1
  | .error status => pure (.error status)
  | .ok (unicode, text) =>
    let (status, size, _) ← queryValueKey (upcase text) 0
    if status ≠ .success ∧ status ≠ .bufferOverflow ∧ status ≠ .bufferTooSmall then
      -- fail2
      free .unicode unicode
      pure (.error status)
    else
      match ← registryAllocate size with
      | none =>
        -- fail3
        free .unicode unicode
        pure (.error .noMemory)
      | some block =>
        match ← queryValueKey (upcase text) size with
        | (.success, _, some v) =>
          let r ← take size v
          free .block block
          free .unicode unicode
          pure r
        | (status, _, _) =>
          -- fail4
          free .block block
          free .unicode unicode
          pure (.error status)

/-- A number of so many bytes. -/
def takeNumber (type : ValueType) (w size : Nat) (v : Value) :
    OnRegistry (Except Status (BitVec (8 * w))) := do
  if v.type ≠ type ∨ v.data.length ≠ w then pure (.error .invalidParameter)
  else
    modify (·.touch (12 + w ≤ size))
    pure (.ok (BitVec.ofNat _ (fromBytes v.data)))

/-- The switch of `RegistryQueryBinaryValue`: `*Buffer` and what is copied there. -/
def takeBinary (size : Nat) (v : Value) : OnRegistry (Except Status (Nat × List UInt8)) := do
  if v.type = REG_BINARY then
    match ← registryAllocate v.data.length with
    | none => pure (.error .noMemory)
    | some buffer =>
      modify (·.touch (12 + v.data.length ≤ size))
      pure (.ok (buffer, v.data))
  else pure (.error .invalidParameter)

/-- `RegistryQueryDwordValue` -/
def registryQueryDwordValue (name : List UInt8) : OnRegistry (Except Status ULONG) :=
  registryQueryValue cp upcase name (takeNumber REG_DWORD 4)

/-- `RegistryQueryQwordValue` -/
def registryQueryQwordValue (name : List UInt8) : OnRegistry (Except Status (BitVec 64)) :=
  registryQueryValue cp upcase name (takeNumber REG_QWORD 8)

/-- `RegistryQueryBinaryValue` -/
def registryQueryBinaryValue (name : List UInt8) :
    OnRegistry (Except Status (Nat × List UInt8)) :=
  registryQueryValue cp upcase name takeBinary

/-- What the updates have in common: `Partial` is a block with room for the data. -/
def registryUpdateValue (name : List UInt8) (type : ValueType) (data : List UInt8) :
    OnRegistry Status := do
  match ← newUnicode cp name with
  -- fail1
  | .error status => pure status
  | .ok (unicode, text) =>
    let size := (12 + data.length) % 2 ^ 32
    match ← registryAllocate size with
    | none =>
      -- fail2
      free .unicode unicode
      pure .noMemory
    | some block =>
      modify (·.touch (12 + data.length ≤ size))
      let status ← setValueKey (upcase text) type data
      free .block block
      free .unicode unicode
      pure status

/-- `RegistryUpdateDwordValue` -/
def registryUpdateDwordValue (name : List UInt8) (value : ULONG) : OnRegistry Status :=
  registryUpdateValue cp upcase name REG_DWORD (toBytes 4 value.toNat)

/-- `RegistryUpdateBinaryValue` -/
def registryUpdateBinaryValue (name : List UInt8) (data : List UInt8) : OnRegistry Status :=
  registryUpdateValue cp upcase name REG_BINARY data

/-- `RegistryDeleteValue` -/
def registryDeleteValue (name : List UInt8) : OnRegistry Status := do
  match ← newUnicode cp name with
  | .error status => pure status
  | .ok (unicode, text) =>
    let status ← deleteValueKey (upcase text)
    free .unicode unicode
    pure status

end Functions

/-! ## 4. What a call leaves -/

section Leaves

variable {α : Type} {s s' s'' : RegSys} {kept kept' : List (RegObject × Nat)}
  {ms ms' : List (Moment (List UInt16) Value)} {k : List UInt16} {n size : Nat}

/-- **What a call leaves**: so much has been taken from the pool, so much has been done and seen,
    what has been seen was there, and nothing outside of a block has been touched. -/
structure Comes (s : RegSys) (kept : List (RegObject × Nat))
    (ms : List (Moment (List UInt16) Value)) (s' : RegSys) : Prop where
  heap : s.heap.Has kept s'.heap
  cells : s'.cells = behind ms s.cells
  history : s'.history = s.history ++ ms
  faithful : Faithful ms s.cells
  faults : s'.faults = s.faults

namespace Comes

theorem refl (s : RegSys) : Comes s [] [] s := ⟨.refl _, rfl, by simp, trivial, rfl⟩

theorem trans (h : Comes s kept ms s') (h' : Comes s' kept' ms' s'') :
    Comes s (kept' ++ kept) (ms ++ ms') s'' := by
  refine ⟨h.heap.trans h'.heap, ?_, ?_, ?_, h'.faults.trans h.faults⟩
  · rw [behind_append, ← h.cells]
    exact h'.cells
  · rw [h'.history, h.history, List.append_assoc]
  · refine faithful_append.mpr ⟨h.faithful, ?_⟩
    rw [← h.cells]
    exact h'.faithful

/-- The pool only. -/
theorem withHeap {heap : Heap RegObject} (h : Comes s kept ms s') (hheap : s.heap.Has kept' heap) :
    Comes s kept' ms (s'.withHeap heap) := ⟨hheap, h.cells, h.history, h.faithful, h.faults⟩

theorem take (h : Comes s kept ms s') (o : RegObject) :
    Comes s ((o, s'.heap.next) :: kept) ms (s'.withHeap (s'.heap.take o)) :=
  h.withHeap (h.heap.take o)

theorem give (front : List (RegObject × Nat)) {o : RegObject}
    (h : Comes s (front ++ (o, n) :: kept) ms s') (hfront : (o, n) ∉ front) :
    Comes s (front ++ kept) ms (s'.withHeap (s'.heap.give o (.object n))) :=
  h.withHeap (h.heap.giveBehind hfront)

/-- A moment more. -/
theorem happen {m : Moment (List UInt16) Value} (h : Comes s kept ms s') (hm : m.Holds s'.cells) :
    Comes s kept (ms ++ [m]) (s'.happen m) := by
  refine ⟨h.heap, ?_, ?_, h.faithful.snoc (by rwa [← h.cells]), h.faults⟩
  · rw [behind_append, ← h.cells]
    rfl
  · rw [RegSys.happen_history, h.history, List.append_assoc]

theorem others (h : Comes s kept ms s') (f : Values → Values) :
    Comes s kept (ms ++ [.others f]) (s'.happen (.others f)) := h.happen trivial

theorem saw (h : Comes s kept ms s') {v : Option Value} (hv : s'.cells k = v) :
    Comes s kept (ms ++ [.saw k v]) (s'.happen (.saw k v)) := h.happen hv

theorem touch (h : Comes s kept ms s') {inside : Bool} (hinside : inside = true) :
    Comes s kept ms (s'.touch inside) := by
  rw [hinside]
  exact h

end Comes

end Leaves

/-! ## 5. Of each function -/

section Functions

open Proc

variable {α : Type} {s : RegSys} {cp : CodePage} {upcase : List UInt16 → List UInt16}
  {name : List UInt8} {k : List UInt16} {size length : Nat}

theorem newUnicode_yields {Q : Except Status (Nat × List UInt16) → RegSys → Prop}
    (hno : ∀ status, status ≠ .success → Q (.error status) s)
    (hyes : Q (.ok (s.heap.next, cp.toUnicode name)) (s.withHeap (s.heap.take .unicode))) :
    (newUnicode cp name).Yields Q s := by
  refine .ite (fun _ => .pure (hno _ nofun)) fun _ => ?_
  refine .ask_bind fun _ => ?_
  refine .get_bind (.ite (fun _ => ?_) fun _ => .pure (hno _ nofun))
  refine .modify_bind ?_
  exact .pure hyes

theorem registryAllocate_yields {Q : Option Nat → RegSys → Prop} (hno : Q none s)
    (hyes : size % 2 ^ 32 ≠ 0 → Q (some s.heap.next) (s.withHeap (s.heap.take .block))) :
    (registryAllocate size).Yields Q s := by
  refine .ask_bind fun _ => ?_
  refine .get_bind (.ite (fun h => ?_) fun _ => .pure hno)
  refine .modify_bind ?_
  exact .pure (hyes h.2)

/-- The kernel is asked for a value: it refuses, or there is none, or it says what `zwQueryValueKey`
    says of the one that is there. -/
theorem queryValueKey_yields {Q : Status × Nat × Option Value → RegSys → Prop}
    (hrefused : ∀ f code, Q (.error code, 0, none) (s.happen (.others f)))
    (habsent : ∀ f, f s.cells k = none → Q (.objectNameNotFound, 0, none)
      ((s.happen (.others f)).happen (.saw k none)))
    (hthere : ∀ f v, f s.cells k = some v → Q (zwQueryValueKey none (some v) length)
      ((s.happen (.others f)).happen (.saw k (some v)))) :
    (queryValueKey k length).Yields Q s := by
  refine .ask_bind fun a => ?_
  refine .modify_bind ?_
  refine .get_bind ?_
  refine .modify_bind ?_
  refine .pure ?_
  cases hr : a.refused with
  | some code => exact hrefused _ _
  | none =>
      show Q (zwQueryValueKey none (a.meanwhile s.cells k) length)
        ((s.happen (.others a.meanwhile)).happen (.saw k (a.meanwhile s.cells k)))
      cases hv : a.meanwhile s.cells k with
      | none => exact habsent _ hv
      | some v => exact hthere _ _ hv

theorem zwQueryValueKey_size (v : Value) :
    zwQueryValueKey none (some v) 0 = (.bufferTooSmall, 12 + v.data.length, none) := rfl

/-- In a block for `w` there is room for what is not longer. -/
theorem zwQueryValueKey_block (v w : Value) :
    zwQueryValueKey none (some v) (12 + w.data.length) =
      if v.data.length ≤ w.data.length then (.success, 12 + v.data.length, some v)
      else (.bufferOverflow, 12 + v.data.length, none) := by
  unfold zwQueryValueKey
  dsimp only
  rw [if_neg (by omega)]
  by_cases h : v.data.length ≤ w.data.length
  · rw [if_neg (by omega), if_pos h]
  · rw [if_pos (by omega), if_neg h]

/-- **What a query has done**, what it returns and what it keeps; `T` says what is made of a value
    that is there both times and has not grown. -/
inductive Asked (k : List UInt16) (T : Value → Except Status α → List (RegObject × Nat) → Prop) :
    List (Moment (List UInt16) Value) → Except Status α → List (RegObject × Nat) → Prop
  /-- there is no `Unicode` -/
  | noName (status : Status) (h : status ≠ .success) : Asked k T [] (.error status) []
  | refused (f : Values → Values) (code : Nat) :
      Asked k T [.others f] (.error (.error code)) []
  | absent (f : Values → Values) :
      Asked k T [.others f, .saw k none] (.error .objectNameNotFound) []
  | noMemory (f : Values → Values) (w : Value) :
      Asked k T [.others f, .saw k (some w)] (.error .noMemory) []
  | refusedThen (f g : Values → Values) (w : Value) (code : Nat) :
      Asked k T [.others f, .saw k (some w), .others g] (.error (.error code)) []
  | gone (f g : Values → Values) (w : Value) :
      Asked k T [.others f, .saw k (some w), .others g, .saw k none]
        (.error .objectNameNotFound) []
  | grown (f g : Values → Values) (w v : Value) (h : w.data.length < v.data.length) :
      Asked k T [.others f, .saw k (some w), .others g, .saw k (some v)]
        (.error .bufferOverflow) []
  | found (f g : Values → Values) (w v : Value) (h : v.data.length ≤ w.data.length)
      {r : Except Status α} {kept : List (RegObject × Nat)} (hT : T v r kept) :
      Asked k T [.others f, .saw k (some w), .others g, .saw k (some v)] r kept

/-- What `take` does with a block that has room for the value. -/
def Takes (T : Value → Except Status α → List (RegObject × Nat) → Prop)
    (take : Nat → Value → OnRegistry (Except Status α)) : Prop :=
  ∀ size v s, 12 + v.data.length ≤ size → (take size v).Yields
    (fun r s' => ∃ kept, Comes s kept [] s' ∧ T v r kept ∧ ∀ x ∈ kept, s.heap.next ≤ x.2) s

theorem registryQueryValue_comes {T : Value → Except Status α → List (RegObject × Nat) → Prop}
    {take : Nat → Value → OnRegistry (Except Status α)} (htake : Takes T take) (s : RegSys) :
    (registryQueryValue cp upcase name take).Yields
      (fun r s' => ∃ ms kept, Comes s kept ms s' ∧ Asked (upcase (cp.toUnicode name)) T ms r kept)
      s := by
  have h := Comes.refl s
  refine .bind (newUnicode_yields (fun status hs => .pure ⟨_, _, h, .noName status hs⟩) ?_)
  have h := h.take .unicode
  -- what is left to do where `Unicode.Buffer` is all that has been taken, and where `Partial` is too
  have hfree {r : Except Status α} {ms : List (Moment (List UInt16) Value)} {s' : RegSys}
      (h : Comes s [(.unicode, s.heap.next)] ms s')
      (hr : Asked (upcase (cp.toUnicode name)) T ms r []) :
      (free .unicode s.heap.next >>= fun _ => Pure.pure r : OnRegistry _).Yields
        (fun r s' => ∃ ms kept, Comes s kept ms s' ∧ Asked (upcase (cp.toUnicode name)) T ms r kept)
        s' := by
    refine .modify_bind ?_
    exact .pure ⟨_, _, h.give [] nofun, hr⟩
  have hfreeBoth {r : Except Status α} {ms : List (Moment (List UInt16) Value)} {s' : RegSys}
      (kept : List (RegObject × Nat))
      (h : Comes s (kept ++ [(.block, s.heap.next + 1), (.unicode, s.heap.next)]) ms s')
      (hkept : ∀ x ∈ kept, s.heap.next + 1 < x.2)
      (hr : Asked (upcase (cp.toUnicode name)) T ms r kept) :
      (free .block (s.heap.next + 1) >>= fun _ => free .unicode s.heap.next >>= fun _ =>
        Pure.pure r : OnRegistry _).Yields
        (fun r s' => ∃ ms kept, Comes s kept ms s' ∧ Asked (upcase (cp.toUnicode name)) T ms r kept)
        s' := by
    have hblock := h.give kept (fun hm => absurd (hkept _ hm) (Nat.lt_irrefl _))
    have hunicode := hblock.give kept
      (fun hm => absurd (hkept _ hm) (Nat.not_lt_of_lt (Nat.lt_succ_self _)))
    rw [List.append_nil] at hunicode
    refine .modify_bind ?_
    refine .modify_bind ?_
    exact .pure ⟨_, _, hunicode, hr⟩
  refine .bind (queryValueKey_yields (fun f code => ?_) (fun f hf => ?_) fun f w hf => ?_)
  · exact .ite (fun _ => hfree (h.others f) (.refused f code)) fun hno => absurd (by simp) hno
  · exact .ite (fun _ => hfree ((h.others f).saw hf) (.absent f)) fun hno => absurd (by simp) hno
  have h := (h.others f).saw hf
  rw [zwQueryValueKey_size]
  refine .ite (fun hno => absurd rfl hno.2.2) fun _ => ?_
  refine .bind (registryAllocate_yields (hfree h (.noMemory f w)) fun _ => ?_)
  have h := h.take .block
  refine .bind (queryValueKey_yields (fun g code => ?_) (fun g hg => ?_) fun g v hg => ?_)
  · exact hfreeBoth [] (h.others g) nofun (.refusedThen f g w code)
  · exact hfreeBoth [] ((h.others g).saw hg) nofun (.gone f g w)
  have h := (h.others g).saw hg
  rw [zwQueryValueKey_block]
  by_cases hle : v.data.length ≤ w.data.length
  · rw [if_pos hle]
    refine .bind ((htake _ v _ (Nat.add_le_add_left hle 12)).mono fun r s' hr => ?_)
    obtain ⟨kept, hcomes, hT, hkept⟩ := hr
    have h := h.trans hcomes
    rw [List.append_nil] at h
    exact hfreeBoth kept h hkept (.found f g w v hle hT)
  · rw [if_neg hle]
    exact hfreeBoth [] h nofun (.grown f g w v (Nat.lt_of_not_le hle))

/-- A number of the right size, or `STATUS_INVALID_PARAMETER`. -/
def acceptNumber (type : ValueType) (w : Nat) (v : Value) : Except Status (BitVec (8 * w)) :=
  if v.type ≠ type ∨ v.data.length ≠ w then .error .invalidParameter
  else .ok (BitVec.ofNat _ (fromBytes v.data))

theorem takeNumber_takes (type : ValueType) (w : Nat) :
    Takes (fun v r kept => r = acceptNumber type w v ∧ kept = []) (takeNumber type w) := by
  intro size v s hsize
  unfold takeNumber acceptNumber
  refine .ite (fun h => .pure ⟨[], .refl s, ⟨(if_pos h).symm, rfl⟩, nofun⟩) fun h => ?_
  have hw : v.data.length = w := by simpa using (not_or.mp h).2
  have hinside : decide (12 + w ≤ size) = true := decide_eq_true (hw ▸ hsize)
  refine .modify_bind ?_
  exact .pure ⟨[], (Comes.refl s).touch hinside, ⟨(if_neg h).symm, rfl⟩, nofun⟩

/-- What is made of a value of `REG_BINARY`: a buffer that the caller has from now on. -/
inductive Copied (v : Value) : Except Status (Nat × List UInt8) → List (RegObject × Nat) → Prop
  | wrongType (h : v.type ≠ REG_BINARY) : Copied v (.error .invalidParameter) []
  | noMemory (h : v.type = REG_BINARY) : Copied v (.error .noMemory) []
  | copied (n : Nat) (h : v.type = REG_BINARY) (hne : v.data ≠ []) :
      Copied v (.ok (n, v.data)) [(.block, n)]

theorem takeBinary_takes : Takes Copied takeBinary := by
  intro size v s hsize
  unfold takeBinary
  refine .ite (fun h => ?_) fun h => .pure ⟨[], .refl s, .wrongType h, nofun⟩
  refine .bind (registryAllocate_yields (.pure ⟨[], .refl s, .noMemory h, nofun⟩) fun hne => ?_)
  have hdata : v.data ≠ [] := by
    intro hnil
    rw [hnil] at hne
    exact hne rfl
  have hcomes := ((Comes.refl s).take .block).touch (decide_eq_true hsize)
  refine .modify_bind ?_
  refine .pure ⟨_, hcomes, .copied _ h hdata, fun x hx => ?_⟩
  rw [List.mem_singleton.mp hx]

/-- **What an update has done**, and what it returns. -/
inductive Updated (k : List UInt16) (type : ValueType) (data : List UInt8) :
    List (Moment (List UInt16) Value) → Status → Prop
  | noMemory (status : Status) (h : status ≠ .success) : Updated k type data [] status
  | refused (f : Values → Values) (code : Nat) : Updated k type data [.others f] (.error code)
  | done (f : Values → Values) (v : Value) (htype : v.type = type) (hdata : v.data = data) :
      Updated k type data [.others f, .wrote k (some v)] .success

theorem registryUpdateValue_comes {type : ValueType} {data : List UInt8}
    (hfits : 12 + data.length < 2 ^ 32) (s : RegSys) :
    (registryUpdateValue cp upcase name type data).Yields
      (fun r s' => ∃ ms, Comes s [] ms s' ∧ Updated (upcase (cp.toUnicode name)) type data ms r)
      s := by
  have h := Comes.refl s
  refine .bind (newUnicode_yields (fun status hs => .pure ⟨_, h, .noMemory status hs⟩) ?_)
  have h := h.take .unicode
  refine .bind (registryAllocate_yields ?_ fun _ => ?_)
  · refine .modify_bind ?_
    exact .pure ⟨_, h.give [] nofun, .noMemory _ nofun⟩
  have hinside : decide (12 + data.length ≤ (12 + data.length) % 2 ^ 32) = true :=
    decide_eq_true (Nat.mod_eq_of_lt hfits).ge
  have h := (h.take .block).touch hinside
  refine .modify_bind ?_
  have hfree {status : Status} {ms : List (Moment (List UInt16) Value)} {s' : RegSys}
      (h : Comes s [(.block, s.heap.next + 1), (.unicode, s.heap.next)] ms s')
      (hr : Updated (upcase (cp.toUnicode name)) type data ms status) :
      (free .block (s.heap.next + 1) >>= fun _ => free .unicode s.heap.next >>= fun _ =>
        Pure.pure status : OnRegistry _).Yields
        (fun r s' => ∃ ms, Comes s [] ms s' ∧ Updated (upcase (cp.toUnicode name)) type data ms r)
        s' := by
    refine .modify_bind ?_
    refine .modify_bind ?_
    exact .pure ⟨_, (h.give [] nofun).give [] nofun, hr⟩
  refine .bind ?_
  refine .ask_bind fun a => ?_
  refine .modify_bind ?_
  have h := h.others a.meanwhile
  cases hr : a.refused with
  | some code => exact .pure (hfree h (.refused _ code))
  | none =>
      rw [dif_pos hfits]
      refine .modify_bind ?_
      exact .pure (hfree (h.happen trivial) (.done _ _ rfl rfl))

/-- **What a deletion has done**, and what it returns. -/
inductive Deleted (k : List UInt16) : List (Moment (List UInt16) Value) → Status → Prop
  | noName (status : Status) (h : status ≠ .success) : Deleted k [] status
  | refused (f : Values → Values) (code : Nat) : Deleted k [.others f] (.error code)
  | absent (f : Values → Values) : Deleted k [.others f, .saw k none] .objectNameNotFound
  | done (f : Values → Values) : Deleted k [.others f, .wrote k none] .success

theorem registryDeleteValue_comes (s : RegSys) :
    (registryDeleteValue cp upcase name).Yields
      (fun r s' => ∃ ms, Comes s [] ms s' ∧ Deleted (upcase (cp.toUnicode name)) ms r) s := by
  have h := Comes.refl s
  refine .bind (newUnicode_yields (fun status hs => .pure ⟨_, h, .noName status hs⟩) ?_)
  have h := h.take .unicode
  have hfree {status : Status} {ms : List (Moment (List UInt16) Value)} {s' : RegSys}
      (h : Comes s [(.unicode, s.heap.next)] ms s')
      (hr : Deleted (upcase (cp.toUnicode name)) ms status) :
      (free .unicode s.heap.next >>= fun _ => Pure.pure status : OnRegistry _).Yields
        (fun r s' => ∃ ms, Comes s [] ms s' ∧ Deleted (upcase (cp.toUnicode name)) ms r) s' := by
    refine .modify_bind ?_
    exact .pure ⟨_, h.give [] nofun, hr⟩
  refine .bind ?_
  refine .ask_bind fun a => ?_
  refine .modify_bind ?_
  refine .get_bind ?_
  have h := h.others a.meanwhile
  cases hr : a.refused with
  | some code => exact .pure (hfree h (.refused _ code))
  | none =>
      refine .ite (fun hv => ?_) fun _ => ?_
      · refine .modify_bind ?_
        exact .pure (hfree (h.saw hv) (.absent _))
      · refine .modify_bind ?_
        exact .pure (hfree (h.happen trivial) (.done _))

end Functions

/-! ## 6. Where nothing is refused and nobody else is there -/

section Calm

open Proc

variable {α : Type} {s : RegSys} {cp : CodePage} {upcase : List UInt16 → List UInt16}
  {name : List UInt8} {k : List UInt16} {size length : Nat}

end Calm

/-! ## 7. Any calls, one after the other -/

/-- A call. -/
inductive RegCall where
  | queryDword (name : List UInt8)
  | queryQword (name : List UInt8)
  | queryBinary (name : List UInt8)
  | updateDword (name : List UInt8) (value : ULONG)
  | updateBinary (name data : List UInt8)
  | deleteValue (name : List UInt8)
  /-- `RegistryFreeBinaryValue` -/
  | freeBinary (n : Nat)

/-- What a call returns: a status, or success with what has been asked for. -/
inductive RegResult where
  | status (status : Status)
  | dword (value : ULONG)
  | qword (value : BitVec 64)
  | binary (n : Nat) (data : List UInt8)
deriving DecidableEq

def RegResult.of {α : Type} (f : α → RegResult) : Except Status α → RegResult
  | .error e => .status e
  | .ok a => f a

/-- `*Buffer` and what is there. -/
def RegResult.ofBinary : Except Status (Nat × List UInt8) → RegResult :=
  .of fun r => .binary r.1 r.2

/-- A call that has returned, and what was done and seen in it. -/
structure Done where
  call : RegCall
  result : RegResult
  moments : List (Moment (List UInt16) Value)

/-- The registry, the buffers that the callers have, and the calls that have returned. -/
structure ValueRun where
  reg : RegSys
  held : List Nat
  done : List Done

def ValueRun.init (cells : Values) : ValueRun := ⟨⟨.empty, cells, [], 0⟩, [], []⟩

section Runs

open Proc

variable (cp : CodePage) (upcase : List UInt16 → List UInt16)

def RegCall.run : RegCall → OnRegistry RegResult
  | .queryDword name => do return .of .dword (← registryQueryDwordValue cp upcase name)
  | .queryQword name => do return .of .qword (← registryQueryQwordValue cp upcase name)
  | .queryBinary name => do return .ofBinary (← registryQueryBinaryValue cp upcase name)
  | .updateDword name value => do
    return .status (← registryUpdateDwordValue cp upcase name value)
  | .updateBinary name data => do
    return .status (← registryUpdateBinaryValue cp upcase name data)
  | .deleteValue name => do return .status (← registryDeleteValue cp upcase name)
  | .freeBinary n => do
    free .block n
    return .status .success

/-- The buffers that the callers have behind a call. -/
def RegCall.leaves (held : List Nat) : RegCall → RegResult → List Nat
  | .freeBinary n, _ => held.erase n
  | _, .binary n _ => n :: held
  | _, _ => held

def ValueRun.take (s : ValueRun) (call : RegCall) (tape : Nat → RegAnswer) : ValueRun :=
  match call.run cp upcase tape 0 s.reg with
  | .returns (result, _, reg) =>
    ⟨reg, call.leaves s.held result,
      s.done ++ [⟨call, result, reg.history.drop s.reg.history.length⟩]⟩
  | _ => s

/-- What a caller may do: a buffer is freed by whoever has it. -/
def valueSystem : System ValueRun (RegCall × (Nat → RegAnswer)) where
  enabled s l := ∀ n, l.1 = .freeBinary n → n ∈ s.held
  next s l := s.take cp upcase l.1 l.2

/-- The length of data and of what goes in front of it is a `ULONG`. -/
def Sized (_ : ValueRun) (l : RegCall × (Nat → RegAnswer)) : Prop :=
  ∀ name data, l.1 = .updateBinary name data → 12 + data.length < 2 ^ 32

/-- **A call has done what it is to do.** -/
def Done.Right (d : Done) : Prop :=
  match d.call with
  | .queryDword name => ∃ r, d.result = .of .dword r ∧
    Asked (upcase (cp.toUnicode name)) (fun v r kept => r = acceptNumber REG_DWORD 4 v ∧ kept = [])
      d.moments r []
  | .queryQword name => ∃ r, d.result = .of .qword r ∧
    Asked (upcase (cp.toUnicode name)) (fun v r kept => r = acceptNumber REG_QWORD 8 v ∧ kept = [])
      d.moments r []
  | .queryBinary name => ∃ r kept, d.result = .ofBinary r ∧
    Asked (upcase (cp.toUnicode name)) Copied d.moments r kept
  | .updateDword name value => ∃ status, d.result = .status status ∧
    Updated (upcase (cp.toUnicode name)) REG_DWORD (toBytes 4 value.toNat) d.moments status
  | .updateBinary name data => ∃ status, d.result = .status status ∧
    Updated (upcase (cp.toUnicode name)) REG_BINARY data d.moments status
  | .deleteValue name => ∃ status, d.result = .status status ∧
    Deleted (upcase (cp.toUnicode name)) d.moments status
  | .freeBinary _ => d.moments = []

end Runs

section Invariant

open Proc

variable {cp : CodePage} {upcase : List UInt16 → List UInt16} {α : Type}
  {T : Value → Except Status α → List (RegObject × Nat) → Prop} {k : List UInt16}
  {ms : List (Moment (List UInt16) Value)} {kept : List (RegObject × Nat)} {call : RegCall}
  {cells : Values} {s : ValueRun}

/-- A query of a number keeps nothing. -/
theorem Asked.kept_nil {r : Except Status α} (hT : ∀ v r kept, T v r kept → kept = [])
    (h : Asked k T ms r kept) : kept = [] := by
  cases h with
  | found f g w v hle hT' => exact hT _ _ _ hT'
  | noName | refused | absent | noMemory | refusedThen | gone | grown => rfl

/-- A query of a value of `REG_BINARY` keeps what it returns. -/
theorem Asked.kept_binary {name : List UInt8} {r : Except Status (Nat × List UInt8)}
    (h : Asked k Copied ms r kept) : ∃ ns : List Nat, kept = ns.map (RegObject.block, ·) ∧
      ∀ held, (RegCall.queryBinary name).leaves held (.ofBinary r) = ns ++ held := by
  cases h with
  | found f g w v hle hT =>
      cases hT with
      | wrongType | noMemory => exact ⟨[], rfl, fun _ => rfl⟩
      | copied n => exact ⟨[n], rfl, fun _ => rfl⟩
  | noName | refused | absent | noMemory | refusedThen | gone | grown =>
      exact ⟨[], rfl, fun _ => rfl⟩

/-- **What a call leaves**, if it does not free a buffer. -/
theorem RegCall.run_comes (s : RegSys) (hfree : ∀ n, call ≠ .freeBinary n)
    (hsized : ∀ name data, call = .updateBinary name data → 12 + data.length < 2 ^ 32) :
    (call.run cp upcase).Yields (fun r s' => ∃ ms, ∃ ns : List Nat,
      Comes s (ns.map (RegObject.block, ·)) ms s' ∧ Done.Right cp upcase ⟨call, r, ms⟩ ∧
      ∀ held, call.leaves held r = ns ++ held) s := by
  cases call with
  | queryDword name =>
      refine .bind ((registryQueryValue_comes (takeNumber_takes _ _) s).mono fun r s' hr => ?_)
      obtain ⟨ms, kept, hcomes, hasked⟩ := hr
      obtain rfl := hasked.kept_nil fun _ _ _ h => h.2
      exact .pure ⟨ms, [], hcomes, ⟨r, rfl, hasked⟩, fun held => by cases r <;> rfl⟩
  | queryQword name =>
      refine .bind ((registryQueryValue_comes (takeNumber_takes _ _) s).mono fun r s' hr => ?_)
      obtain ⟨ms, kept, hcomes, hasked⟩ := hr
      obtain rfl := hasked.kept_nil fun _ _ _ h => h.2
      exact .pure ⟨ms, [], hcomes, ⟨r, rfl, hasked⟩, fun held => by cases r <;> rfl⟩
  | queryBinary name =>
      refine .bind ((registryQueryValue_comes takeBinary_takes s).mono fun r s' hr => ?_)
      obtain ⟨ms, kept, hcomes, hasked⟩ := hr
      obtain ⟨ns, rfl, hheld⟩ := hasked.kept_binary
      exact .pure ⟨ms, ns, hcomes, ⟨r, _, rfl, hasked⟩, hheld⟩
  | updateDword name value =>
      have hnumber : 12 + (toBytes 4 value.toNat).length < 2 ^ 32 := by
        rw [length_toBytes]
        decide
      refine .bind ((registryUpdateValue_comes hnumber s).mono fun status s' hr => ?_)
      obtain ⟨ms, hcomes, hupdated⟩ := hr
      exact .pure ⟨ms, [], hcomes, ⟨status, rfl, hupdated⟩, fun _ => rfl⟩
  | updateBinary name data =>
      have hdata := hsized name data rfl
      refine .bind ((registryUpdateValue_comes hdata s).mono fun status s' hr => ?_)
      obtain ⟨ms, hcomes, hupdated⟩ := hr
      exact .pure ⟨ms, [], hcomes, ⟨status, rfl, hupdated⟩, fun _ => rfl⟩
  | deleteValue name =>
      refine .bind ((registryDeleteValue_comes s).mono fun status s' hr => ?_)
      obtain ⟨ms, hcomes, hdeleted⟩ := hr
      exact .pure ⟨ms, [], hcomes, ⟨status, rfl, hdeleted⟩, fun _ => rfl⟩
  | freeBinary n => exact absurd rfl (hfree n)

/-- **What holds between the calls.** -/
structure ValuesInv (cp : CodePage) (upcase : List UInt16 → List UInt16) (cells : Values)
    (s : ValueRun) : Prop where
  live : s.reg.heap.live = s.held.map (RegObject.block, ·)
  astray : s.reg.heap.astray = []
  faults : s.reg.faults = 0
  history : s.reg.history = s.done.flatMap (·.moments)
  faithful : Faithful s.reg.history cells
  cells : s.reg.cells = behind s.reg.history cells
  right : ∀ d ∈ s.done, d.Right cp upcase

theorem ValuesInv.init (cells : Values) : ValuesInv cp upcase cells (.init cells) :=
  ⟨rfl, rfl, rfl, rfl, trivial, rfl, nofun⟩

/-- A buffer less. -/
theorem ValuesInv.freeBinary (h : ValuesInv cp upcase cells s) {n : Nat} (hn : n ∈ s.held)
    (tape : Nat → RegAnswer) : ValuesInv cp upcase cells (s.take cp upcase (.freeBinary n) tape) := by
  have hlive : (RegObject.block, n) ∈ s.reg.heap.live := by
    rw [h.live]
    exact List.mem_map_of_mem hn
  have hgive : s.reg.heap.give .block (.object n) = _ := if_pos hlive
  have hdone : (s.take cp upcase (.freeBinary n) tape).done =
      s.done ++ [⟨.freeBinary n, .status .success, []⟩] :=
    congrArg (fun ms => s.done ++ [(⟨.freeBinary n, .status .success, ms⟩ : Done)]) List.drop_length
  refine ⟨?_, ?_, h.faults, ?_, h.faithful, h.cells, ?_⟩
  · show (s.reg.heap.give .block (.object n)).live = (s.held.erase n).map _
    rw [hgive, List.map_erase (fun a b e => (Prod.mk.inj e).2), ← h.live]
  · show (s.reg.heap.give .block (.object n)).astray = []
    rw [hgive]
    exact h.astray
  · rw [hdone, List.flatMap_append, ← h.history]
    exact (List.append_nil _).symm
  · intro d hd
    rw [hdone] at hd
    rcases List.mem_append.mp hd with hd | hd
    · exact h.right d hd
    · rw [List.mem_singleton.mp hd]
      exact rfl

/-- What one call has written a later one has seen, if nobody has written it in between. -/
theorem ValuesInv.seen (h : ValuesInv cp upcase cells s) {pre mid post : List Done} {d d' : Done}
    (hdone : s.done = pre ++ d :: (mid ++ d' :: post)) {v v' : Option Value}
    (hwrote : ∃ front, d.moments = front ++ [.wrote k v])
    (hsaw : ∃ front, d'.moments = front ++ [.saw k v'])
    (hleaves : ∀ m ∈ mid.flatMap (·.moments) ++ d'.moments, m.Leaves k) : v' = v := by
  obtain ⟨front, hwrote⟩ := hwrote
  obtain ⟨front', hsaw⟩ := hsaw
  have hfaithful := h.faithful
  rw [h.history, hdone, List.flatMap_append, List.flatMap_cons, List.flatMap_append,
    List.flatMap_cons, hwrote, hsaw] at hfaithful
  have hsplit : pre.flatMap (·.moments) ++ (front ++ [.wrote k v] ++
      (mid.flatMap (·.moments) ++ (front' ++ [.saw k v'] ++ post.flatMap (·.moments)))) =
      (pre.flatMap (·.moments) ++ front) ++ .wrote k v ::
        ((mid.flatMap (·.moments) ++ front') ++ .saw k v' :: post.flatMap (·.moments)) := by
    simp
  rw [hsplit] at hfaithful
  refine hfaithful.seen fun m hm => hleaves m ?_
  rcases List.mem_append.mp hm with hm | hm
  · exact List.mem_append_left _ hm
  · rw [hsaw]
    exact List.mem_append_right _ (List.mem_append_left _ hm)

theorem Updated.wrote {type : ValueType} {data : List UInt8} (h : Updated k type data ms .success) :
    ∃ v : Value, v.type = type ∧ v.data = data ∧ ∃ front, ms = front ++ [.wrote k (some v)] := by
  cases h with
  | done f v htype hdata => exact ⟨v, htype, hdata, [.others f], rfl⟩
  | noMemory status h => exact absurd rfl h

theorem Asked.saw {a : α} (h : Asked k T ms (.ok a) kept) :
    ∃ v, T v (.ok a) kept ∧ ∃ front, ms = front ++ [.saw k (some v)] := by
  cases h with
  | found f g w v hle hT => exact ⟨v, hT, [.others f, .saw k (some w), .others g], rfl⟩

/-- A call that may be made returns. -/
theorem take_returns {tape : Nat → RegAnswer} (he : (valueSystem cp upcase).enabled s (call, tape))
    (hp : Sized s (call, tape)) : ∃ result reg n, call.run cp upcase tape 0 s.reg =
      .returns (result, n, reg) := by
  by_cases hfree : ∃ n, call = .freeBinary n
  · obtain ⟨n, rfl⟩ := hfree
    exact ⟨_, _, _, rfl⟩
  · have hyields : (call.run cp upcase).Yields _ s.reg :=
      RegCall.run_comes s.reg (fun n hn => hfree ⟨n, hn⟩) hp
    obtain ⟨result, n, reg, hrun, -⟩ := hyields tape 0
    exact ⟨result, reg, n, hrun⟩

end Invariant

end Xencons.Registry
