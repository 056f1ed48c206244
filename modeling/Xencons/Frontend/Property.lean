import Xencons.Driver.QueryId
import Xencons.Lib.Transition

/-!
# What a console is called (frontend.c, console.c, monitor.c)

A device control request asks for a text of the frontend's: it takes the pointer, measures the text
and copies it. It does not take the lock. Meanwhile `FrontendConnect` may be about to fill the buffer
that the pointer points to, and `FrontendDisconnect` to free it.

* `Request`, `Answer`, `frontendGetProperty`, `consoleDeviceControl` -- the functions, for a text
  that stays as it is;
* `Buffer` -- what becomes of a buffer; `Reply` -- what the store has returned to `FrontendConnect`,
  and `PropertySys.due` -- the text that a request is to have then;
* `PropertySys`, `propertySystem` -- any requests, and the frontend;
* `Sound` -- the invariant of every run: `sound_next`; `Settled` -- of those in which the requests
  and the frontend take turns: `settled_next`;
* `monitorName` -- what the monitor calls the console;
* **`property_answers`** -- the result.
-/

namespace Xencons.Property

open Lib Dispatch QueryId

/-! ## 1. The functions -/

/-- `IOCTL_XENCONS_GET_...` -/
inductive IoControlCode where
  | getInstance
  | getName
  | getProtocol
  | other
deriving DecidableEq

/-- An `IRP_MJ_DEVICE_CONTROL`, with what is in its `SystemBuffer`. -/
structure Request where
  code : IoControlCode
  inputBufferLength : Nat
  outputBufferLength : Nat
  buffer : List Char

/-- `Irp->IoStatus`, and the `SystemBuffer` then. -/
structure Answer where
  status : NTSTATUS
  information : Nat
  buffer : List Char
deriving DecidableEq

def STATUS_INVALID_BUFFER_SIZE : NTSTATUS := 0xC0000206#32

/-- `(ULONG)strlen(Value) + 1` -/
def ulongLength (strlen : Nat) : Nat := (strlen % 2 ^ 32 + 1) % 2 ^ 32

namespace Request

variable (r : Request)

/-- `fail1` and `fail2`, ahead of the text. -/
def look {α : Type} (value : Option α) : Answer ⊕ α :=
  match value with
  | none => .inl ⟨STATUS_NOT_SUPPORTED, 0, r.buffer⟩
  | some value =>
    if r.inputBufferLength ≠ 0 then .inl ⟨STATUS_INVALID_PARAMETER, 0, r.buffer⟩ else .inr value

/-- `RtlZeroMemory(Buffer, OutputBufferLength)` -/
def zeroed : List Char :=
  List.replicate r.outputBufferLength NUL ++ r.buffer.drop r.outputBufferLength

/-- `fail3` and `fail4`, behind `strlen`; or `Length`. -/
def measure (strlen : Nat) : Answer ⊕ Nat :=
  let length := ulongLength strlen
  if r.outputBufferLength = 0 then .inl ⟨STATUS_INVALID_BUFFER_SIZE, length, r.buffer⟩
  else if r.outputBufferLength < length then .inl ⟨STATUS_INVALID_BUFFER_SIZE, length, r.zeroed⟩
  else .inr length

/-- `RtlCopyMemory(Buffer, Value, Length)` -/
def copy (length : Nat) (data : List Char) : Answer :=
  ⟨STATUS_SUCCESS, length, data ++ r.zeroed.drop length⟩

end Request

/-- What `FrontendGetProperty` and `__ConsoleDeviceControl` have in common, for a text that stays as
    it is. -/
def getProperty (r : Request) (value : Option (List Char)) : Answer :=
  match r.look value with
  | .inl answer => answer
  | .inr text =>
    match r.measure text.length with
    | .inl answer => answer
    | .inr length => r.copy length ((text ++ [NUL]).take length)

/-- The switch of `FrontendGetProperty`. -/
def frontendValue {α : Type} (pdoName name protocol : Option α) : IoControlCode → Option α
  | .getInstance => pdoName
  | .getName => name
  | .getProtocol => protocol
  | .other => none

/-- `FrontendGetProperty` -/
def frontendGetProperty (pdoName : List Char) (name protocol : Option (List Char)) (r : Request) :
    Answer := getProperty r (frontendValue (some pdoName) name protocol r.code)

/-- `__ConsoleDeviceControl`, with what `WdmlibIoValidateDeviceIoControlAccess` returns. -/
def consoleDeviceControl (access : NTSTATUS) (r : Request) : Answer :=
  if access ≠ STATUS_SUCCESS then ⟨access, 0, r.buffer⟩
  else getProperty r (frontendValue (some "0".toList) (some "default".toList)
    (some "vt100".toList) r.code)

/-- `MAX_PATH` -/
def MAX_PATH : Nat := 260

/-- `DeviceIoControl`, of a request that has been answered: what is in the caller's buffer then. -/
def deviceIoControl (answer : Answer) (output : List Char) : Option (List Char) :=
  if answer.status = STATUS_SUCCESS then
    some (answer.buffer.take answer.information ++ output.drop answer.information)
  else none

/-- `Console->DeviceName`, of a `DeviceName` that has not been set; nothing for `fail4`. -/
def monitorName (answer : Answer) (deviceName : List Char) : Option (List Char) :=
  (deviceIoControl answer deviceName).bind fun m => cString (m.set (MAX_PATH - 1) NUL)

/-- The request of `ConsoleCreate`, with a `SystemBuffer` that has not been set either. -/
structure AsksName (r : Request) : Prop where
  code : r.code = .getName
  input : r.inputBufferLength = 0
  output : r.outputBufferLength = MAX_PATH
  buffer : r.buffer.length = MAX_PATH

/-! ## 2. The frontend and the requests -/

/-- A buffer that has been allocated for a text. -/
inductive Buffer where
  /-- it is being filled: what is in it is not known -/
  | filling (text : List Char)
  | holds (text : List Char)
  | freed
deriving DecidableEq

/-- The text that a buffer is for. -/
def Buffer.content : Buffer → List Char
  | .filling text | .holds text => text
  | .freed => []

/-- Where `FrontendConnect` and `FrontendDisconnect` stand, one of which is called at a time. -/
inductive Stage where
  | disconnected
  | copiesName (n : Nat)
  | hasName
  | copiesProtocol (n : Nat)
  | connected
  | freedProtocol
  | clearedProtocol
  | freedName
deriving DecidableEq

/-- `Value`: a text of the PDO's, or one of the frontend's buffers. -/
inductive Value where
  | pdoName (text : List Char)
  | buffer (n : Nat)

/-- What the store has returned to `FrontendConnect`, and whether there was memory for it. -/
structure Reply where
  text : Option (List Char)
  granted : Bool

/-- The text that the console is to have then. -/
def Reply.given (reply : Reply) : Option (List Char) := if reply.granted then reply.text else none

/-- A request behind its look at the pointer, with the text that is due to it, what it has found of
    its text so far and, behind `strlen`, `Length`. -/
structure Underway where
  request : Request
  due : Option (List Char)
  value : Value
  text : List Char
  length : Option Nat
  found : List Buffer
  astray : Bool

/-- A request that has been answered: the text that was due to it when it looked, the one that it was
    for, and what it has found of that; `astray` is whether it has read what is not a live buffer. -/
structure Done where
  request : Request
  due : Option (List Char)
  text : Option (List Char)
  found : List Buffer
  astray : Bool
  answer : Answer

structure PropertySys where
  pdoName : List Char
  /-- `Frontend->Name`, if it is not `NULL` -/
  name : Option Nat
  /-- `Frontend->Protocol` -/
  protocol : Option Nat
  buffers : List Buffer
  stage : Stage
  asked : Nat → Option Underway
  done : List Done
  /-- what the store has returned for the name, and for the protocol, since the frontend has been
      disconnected -/
  nameReply : Option Reply
  protocolReply : Option Reply

inductive PropertyLabel where
  /-- the steps of `FrontendConnect`: what the store returns, and whether there is memory for it -/
  | readName (text : Option (List Char)) (granted : Bool)
  | copyName
  | readProtocol (text : Option (List Char)) (granted : Bool)
  | copyProtocol
  /-- those of `FrontendDisconnect` -/
  | freeProtocol
  | clearProtocol
  | freeName
  | clearName
  /-- a request looks at its pointer, measures and copies; `seen` is what it finds in a buffer that
      is being filled, or in one that has been freed -/
  | look (i : Nat) (r : Request)
  | strlen (i seen : Nat)
  | rtlCopyMemory (i : Nat) (seen : List Char)

namespace PropertySys

def init (pdoName : List Char) : PropertySys :=
  ⟨pdoName, none, none, [], .disconnected, fun _ => none, [], none, none⟩

/-- The buffer of a value. -/
def bufferOf (s : PropertySys) : Value → Buffer
  | .pdoName text => .holds text
  | .buffer n => s.buffers.getD n .freed

/-- A buffer is allocated for a text, and the pointer to it is there before the text is. -/
def allocate (s : PropertySys) (text : List Char) : PropertySys :=
  { s with buffers := s.buffers ++ [.filling text] }

/-- `RtlCopyMemory(Frontend->Name, Buffer, Length)` -/
def fill (s : PropertySys) (n : Nat) : PropertySys :=
  { s with buffers := s.buffers.set n (.holds (s.bufferOf (.buffer n)).content) }

/-- `__FrontendFree` -/
def free (s : PropertySys) : Option Nat → PropertySys
  | none => s
  | some n => { s with buffers := s.buffers.set n .freed }

def readName (s : PropertySys) (granted : Bool) : Option (List Char) → PropertySys
  | none => { s with stage := .hasName }
  | some text =>
    if granted then
      { s.allocate text with name := some s.buffers.length, stage := .copiesName s.buffers.length }
    else { s with name := none, stage := .hasName }

def readProtocol (s : PropertySys) (granted : Bool) : Option (List Char) → PropertySys
  | none => { s with stage := .connected }
  | some text =>
    if granted then
      { s.allocate text with
        protocol := some s.buffers.length
        stage := .copiesProtocol s.buffers.length }
    else { s with protocol := none, stage := .connected }

/-- `Value`, which may be `NULL`. -/
def valueOf (s : PropertySys) : IoControlCode → Option Value :=
  frontendValue (some (.pdoName s.pdoName)) (s.name.map .buffer) (s.protocol.map .buffer)

/-- The text that is due to a request: the PDO's, or what the store has returned. -/
def due (s : PropertySys) : IoControlCode → Option (List Char) :=
  frontendValue (some s.pdoName) (s.nameReply.bind Reply.given) (s.protocolReply.bind Reply.given)

/-- `FrontendGetProperty`, up to the text. -/
def look (s : PropertySys) (i : Nat) (r : Request) : PropertySys :=
  match r.look (s.valueOf r.code) with
  | .inl answer =>
    { s with
      done := s.done ++
        [⟨r, s.due r.code, (s.valueOf r.code).map fun v => (s.bufferOf v).content, [], false,
          answer⟩] }
  | .inr value =>
    { s with
      asked := Function.update s.asked i
        (some ⟨r, s.due r.code, value, (s.bufferOf value).content, none, [], false⟩) }

/-- The request is answered. -/
def finish (s : PropertySys) (i : Nat) (u : Underway) (answer : Answer) : PropertySys :=
  { s with
    asked := Function.update s.asked i none
    done := s.done ++ [⟨u.request, u.due, some u.text, u.found, u.astray, answer⟩] }

end PropertySys

namespace Buffer

/-- What `strlen` finds, which stays inside of a buffer that is being filled: there is a NUL at its
    end. -/
def strlen (seen : Nat) : Buffer → Nat
  | .filling text => min seen text.length
  | .holds text => text.length
  | .freed => seen

/-- So many characters of it. -/
def read (length : Nat) (seen : List Char) : Buffer → List Char
  | .holds text => (text ++ [NUL]).take length
  | .filling _ | .freed => (seen ++ List.replicate length NUL).take length

/-- Whether so many characters are not all there. -/
def outside (length : Nat) : Buffer → Bool
  | .filling text | .holds text => decide (text.length + 1 < length)
  | .freed => true

end Buffer

namespace Underway

/-- A look at the buffer. -/
def find (u : Underway) (b : Buffer) (astray : Bool) : Underway :=
  { u with found := u.found ++ [b], astray := u.astray || astray }

end Underway

namespace PropertySys

def strlen (s : PropertySys) (i seen : Nat) (u : Underway) : PropertySys :=
  let b := s.bufferOf u.value
  let u := u.find b (b == .freed)
  match u.request.measure (b.strlen seen) with
  | .inl answer => s.finish i u answer
  | .inr length =>
    { s with asked := Function.update s.asked i (some { u with length := some length }) }

def rtlCopyMemory (s : PropertySys) (i : Nat) (seen : List Char) (u : Underway) (length : Nat) :
    PropertySys :=
  let b := s.bufferOf u.value
  s.finish i (u.find b (b.outside length)) (u.request.copy length (b.read length seen))

end PropertySys

/-- A text of the store's. -/
structure Text (text : List Char) : Prop where
  clean : NUL ∉ text
  fits : text.length + 1 < 2 ^ 32

open PropertySys in
/-- **The frontend and the requests.** -/
def propertySystem : System PropertySys PropertyLabel where
  enabled s
    | .readName text _ => s.stage = .disconnected ∧ ∀ t, text = some t → Text t
    | .copyName => ∃ n, s.stage = .copiesName n
    | .readProtocol text _ => s.stage = .hasName ∧ ∀ t, text = some t → Text t
    | .copyProtocol => ∃ n, s.stage = .copiesProtocol n
    | .freeProtocol => s.stage = .connected
    | .clearProtocol => s.stage = .freedProtocol
    | .freeName => s.stage = .clearedProtocol
    | .clearName => s.stage = .freedName
    | .look i _ => s.asked i = none
    | .strlen i _ => ∃ u, s.asked i = some u ∧ u.length = none
    | .rtlCopyMemory i _ => ∃ u length, s.asked i = some u ∧ u.length = some length
  next s
    | .readName text granted => { s.readName granted text with nameReply := some ⟨text, granted⟩ }
    | .copyName =>
      match s.stage with
      | .copiesName n => { s.fill n with stage := .hasName }
      | _ => s
    | .readProtocol text granted =>
      { s.readProtocol granted text with protocolReply := some ⟨text, granted⟩ }
    | .copyProtocol =>
      match s.stage with
      | .copiesProtocol n => { s.fill n with stage := .connected }
      | _ => s
    | .freeProtocol => { s.free s.protocol with stage := .freedProtocol }
    | .clearProtocol =>
      { s with protocol := none, stage := .clearedProtocol, protocolReply := none }
    | .freeName => { s.free s.name with stage := .freedName }
    | .clearName => { s with name := none, stage := .disconnected, nameReply := none }
    | .look i r => s.look i r
    | .strlen i seen =>
      match s.asked i with
      | some u => s.strlen i seen u
      | none => s
    | .rtlCopyMemory i seen =>
      match s.asked i with
      | some u =>
        match u.length with
        | some length => s.rtlCopyMemory i seen u length
        | none => s
      | none => s

/-- What the frontend does. -/
def PropertyLabel.ofFrontend : PropertyLabel → Bool
  | .look _ _ | .strlen _ _ | .rtlCopyMemory _ _ => false
  | _ => true

/-- **The requests and the frontend take turns**, as they would under a lock. -/
def TakesTurns (s : PropertySys) (l : PropertyLabel) : Prop :=
  (l.ofFrontend = true → ∀ i, s.asked i = none) ∧
  ∀ i r, l = .look i r → s.stage = .disconnected ∨ s.stage = .connected

/-! ## 3. Buffers -/

namespace Buffer

/-- What may become of a buffer. -/
inductive Later : Buffer → Buffer → Prop
  | same (b : Buffer) : Later b b
  | filled (text : List Char) : Later (.filling text) (.holds text)
  | freed (b : Buffer) : Later b .freed

variable {b b' : Buffer} {text : List Char}

/-- It keeps its text, as long as it is there. -/
theorem Later.content (h : b.Later b') (hb : b = .freed ∨ b.content = text) :
    b' = .freed ∨ b'.content = text := by
  cases h with
  | same => exact hb
  | filled t =>
      rcases hb with hb | hb
      · cases hb
      · exact .inr hb
  | freed => exact .inl rfl

theorem Later.of_freed (h : Buffer.freed.Later b') : b' = .freed := by cases h <;> rfl

end Buffer

/-- What may become of all buffers. -/
structure Grows (s s' : PropertySys) : Prop where
  length : s.buffers.length ≤ s'.buffers.length
  later : ∀ n < s.buffers.length,
    (s.bufferOf (.buffer n)).Later (s'.bufferOf (.buffer n))

section Buffers

variable {s s' : PropertySys} {n : Nat} {p : Option Nat} {text : List Char}

theorem grows_of_eq (h : s'.buffers = s.buffers) : Grows s s' := by
  refine ⟨h ▸ Nat.le_refl _, fun n _ => ?_⟩
  simp only [PropertySys.bufferOf, h]
  exact .same _

theorem bufferOf_allocate (hn : n < s.buffers.length) :
    (s.allocate text).bufferOf (.buffer n) = s.bufferOf (.buffer n) := by
  simp [PropertySys.bufferOf, PropertySys.allocate, List.getElem?_append_left hn]

theorem bufferOf_allocated :
    (s.allocate text).bufferOf (.buffer s.buffers.length) = .filling text := by
  simp [PropertySys.bufferOf, PropertySys.allocate]

theorem grows_allocate (text : List Char) : Grows s (s.allocate text) := by
  refine ⟨by simp [PropertySys.allocate], fun n hn => ?_⟩
  rw [bufferOf_allocate hn]
  exact .same _

theorem bufferOf_set {b : Buffer} {m : Nat} (hm : m < s.buffers.length) :
    PropertySys.bufferOf { s with buffers := s.buffers.set n b } (.buffer m) =
      if n = m then b else s.bufferOf (.buffer m) := by
  simp only [PropertySys.bufferOf, List.getD_eq_getElem?_getD]
  split
  · rename_i h
    subst h
    rw [List.getElem?_set_self hm]
    rfl
  · rename_i h
    rw [List.getElem?_set_ne h]

/-- What is being filled has its text from now on. -/
theorem bufferOf_fill (hn : n < s.buffers.length) (h : s.bufferOf (.buffer n) = .filling text) :
    (s.fill n).bufferOf (.buffer n) = .holds text := by
  have hset := bufferOf_set (b := .holds (s.bufferOf (.buffer n)).content) (n := n) hn
  rw [if_pos rfl, h] at hset
  rw [PropertySys.fill, h]
  exact hset

theorem grows_fill (hn : n < s.buffers.length) (h : s.bufferOf (.buffer n) = .filling text) :
    Grows s (s.fill n) := by
  refine ⟨by simp [PropertySys.fill], fun m hm => ?_⟩
  by_cases hnm : n = m
  · subst hnm
    rw [bufferOf_fill hn h, h]
    exact .filled text
  · rw [PropertySys.fill, bufferOf_set hm, if_neg hnm]
    exact .same _

theorem grows_free (p : Option Nat) : Grows s (s.free p) := by
  cases p with
  | none => exact grows_of_eq rfl
  | some n =>
      refine ⟨by simp [PropertySys.free], fun m hm => ?_⟩
      rw [PropertySys.free, bufferOf_set hm]
      split
      · exact .freed _
      · exact .same _

end Buffers

/-! ## 4. Every run -/

/-- **What is to be answered**: where all that has been found is the text as it is, that text; and
    nothing is read astray, unless the buffer has been freed. No more is written than there is room
    for. -/
structure Done.Right (d : Done) : Prop where
  whole : (∀ b ∈ d.found, d.text.map .holds = some b) → d.answer = getProperty d.request d.text
  astray : d.astray = true ↔ .freed ∈ d.found
  room : d.request.outputBufferLength ≤ d.request.buffer.length →
    d.answer.buffer.length = d.request.buffer.length

/-- A request that is underway. -/
structure UnderwayOk (s : PropertySys) (u : Underway) : Prop where
  bound : ∀ n, u.value = .buffer n → n < s.buffers.length
  input : u.request.inputBufferLength = 0
  text : s.bufferOf u.value = .freed ∨ (s.bufferOf u.value).content = u.text
  found : ∀ b ∈ u.found, b = .freed ∨ b.content = u.text
  gone : .freed ∈ u.found → s.bufferOf u.value = .freed
  astray : u.astray = true ↔ .freed ∈ u.found

/-- Behind `strlen`. -/
structure Measured (u : Underway) (length : Nat) : Prop where
  inside : .freed ∉ u.found → length ≤ u.text.length + 1
  whole : (∀ b ∈ u.found, b = .holds u.text) → u.request.measure u.text.length = .inr length
  room : length ≤ u.request.outputBufferLength

/-- **The invariant.** -/
structure Sound (s : PropertySys) : Prop where
  pointers : ∀ n, s.name = some n ∨ s.protocol = some n → n < s.buffers.length
  copies : ∀ n, s.stage = .copiesName n ∨ s.stage = .copiesProtocol n →
    n < s.buffers.length ∧ ∃ text, s.bufferOf (.buffer n) = .filling text
  asked : ∀ i u, s.asked i = some u → UnderwayOk s u
  measured : ∀ i u, s.asked i = some u → ∀ length, u.length = some length → Measured u length
  done : ∀ d ∈ s.done, d.Right

section Requests

variable {s s' : PropertySys} {u : Underway} {r : Request} {answer : Answer} {length n : Nat}
  {text : List Char}

theorem ulongLength_le (n : Nat) : ulongLength n ≤ n + 1 :=
  Nat.le_trans (Nat.mod_le _ _) (Nat.succ_le_succ (Nat.mod_le _ _))

/-- The text that a look is for is the one that `FrontendGetProperty` answers with. -/
theorem frontendGetProperty_eq (s : PropertySys) (r : Request) :
    frontendGetProperty s.pdoName (s.name.map fun n => (s.bufferOf (.buffer n)).content)
      (s.protocol.map fun n => (s.bufferOf (.buffer n)).content) r =
      getProperty r ((s.valueOf r.code).map fun v => (s.bufferOf v).content) := by
  unfold frontendGetProperty PropertySys.valueOf
  cases r.code with
  | getInstance | other => rfl
  | getName =>
      simp only [frontendValue, Option.map_map]
      rfl
  | getProtocol =>
      simp only [frontendValue, Option.map_map]
      rfl

/-- `fail1` and `fail2` are the same for every text. -/
theorem getProperty_look {α : Type} {value : Option α} (h : r.look value = .inl answer)
    (f : α → List Char) : getProperty r (value.map f) = answer := by
  unfold Request.look at h
  split at h
  · obtain rfl := Sum.inl.inj h
    rfl
  · split at h
    · rename_i hinput
      obtain rfl := Sum.inl.inj h
      simp only [getProperty, Request.look, Option.map_some, if_pos hinput]
    · cases h

theorem look_inr {α : Type} {value : Option α} {v : α} (h : r.look value = .inr v) :
    value = some v ∧ r.inputBufferLength = 0 := by
  unfold Request.look at h
  split at h
  · cases h
  · split at h
    · cases h
    · rename_i hinput
      exact ⟨congrArg some (Sum.inr.inj h), Classical.not_not.mp hinput⟩

/-- Behind the look, it is the text that decides. -/
theorem getProperty_some (hinput : r.inputBufferLength = 0) (text : List Char) :
    getProperty r (some text) = match r.measure text.length with
      | .inl answer => answer
      | .inr length => r.copy length ((text ++ [NUL]).take length) := by
  simp only [getProperty, Request.look, hinput, ne_eq, not_true_eq_false, if_false]

theorem length_zeroed (h : r.outputBufferLength ≤ r.buffer.length) :
    r.zeroed.length = r.buffer.length := by
  unfold Request.zeroed
  rw [List.length_append, List.length_replicate, List.length_drop]
  omega

theorem measure_inl (h : r.measure n = .inl answer)
    (hroom : r.outputBufferLength ≤ r.buffer.length) :
    answer.buffer.length = r.buffer.length := by
  unfold Request.measure at h
  simp only at h
  split at h
  · obtain rfl := Sum.inl.inj h
    rfl
  · split at h
    · obtain rfl := Sum.inl.inj h
      exact length_zeroed hroom
    · cases h

theorem measure_inr (h : r.measure n = .inr length) :
    length = ulongLength n ∧ length ≤ r.outputBufferLength := by
  unfold Request.measure at h
  simp only at h
  split at h
  · cases h
  · split at h
    · cases h
    · rename_i hlt
      obtain rfl := Sum.inr.inj h
      exact ⟨rfl, Nat.le_of_not_lt hlt⟩

theorem copy_room {data : List Char} (hdata : data.length = length)
    (hlength : length ≤ r.outputBufferLength)
    (hroom : r.outputBufferLength ≤ r.buffer.length) :
    (r.copy length data).buffer.length = r.buffer.length := by
  unfold Request.copy
  rw [List.length_append, List.length_drop, length_zeroed hroom, hdata]
  omega

/-- A buffer has as much of its text as there is to be read. -/
theorem length_read {b : Buffer} (seen : List Char) (h : b.outside length = true → b = .freed) :
    (b.read length seen).length = length := by
  have hseen : ((seen ++ List.replicate length NUL).take length).length = length := by
    rw [List.length_take, List.length_append, List.length_replicate]
    omega
  cases b with
  | filling text | freed => exact hseen
  | holds text =>
      have hinside : ¬text.length + 1 < length := by
        intro hlt
        have hfreed := h (decide_eq_true hlt)
        cases hfreed
      show ((text ++ [NUL]).take length).length = length
      rw [List.length_take, List.length_append, List.length_singleton]
      omega

/-- **What comes behind a look.** -/
theorem UnderwayOk.grows (h : UnderwayOk s u) (hg : Grows s s') : UnderwayOk s' u := by
  have hlater : (s.bufferOf u.value).Later (s'.bufferOf u.value) := by
    cases hv : u.value with
    | pdoName text => exact .same _
    | buffer n => exact hg.later n (h.bound n hv)
  refine ⟨fun n hn => Nat.lt_of_lt_of_le (h.bound n hn) hg.length, h.input,
    hlater.content h.text, h.found, fun hfreed => ?_, h.astray⟩
  rw [h.gone hfreed] at hlater
  exact hlater.of_freed

/-- A look more. -/
theorem UnderwayOk.find (h : UnderwayOk s u) {astray : Bool}
    (hastray : .freed ∉ u.found → (astray = true ↔ s.bufferOf u.value = .freed)) :
    UnderwayOk s (u.find (s.bufferOf u.value) astray) := by
  have hmem {b : Buffer} : b ∈ (u.find (s.bufferOf u.value) astray).found ↔
      b ∈ u.found ∨ b = s.bufferOf u.value := by
    simp [Underway.find]
  refine ⟨h.bound, h.input, h.text, fun b hb => ?_, fun hfreed => ?_, ?_⟩
  · rcases hmem.mp hb with hb | rfl
    · exact h.found b hb
    · exact h.text
  · rcases hmem.mp hfreed with hfreed | hfreed
    · exact h.gone hfreed
    · exact hfreed.symm
  · rw [hmem]
    by_cases hfreed : .freed ∈ u.found
    · simp [Underway.find, h.astray.mpr hfreed, hfreed]
    · have hno : u.astray = false := by
        rw [← Bool.not_eq_true, h.astray]
        exact hfreed
      simp only [Underway.find, hno, Bool.false_or, hastray hfreed, hfreed, false_or]
      exact eq_comm

end Requests

/-! ## 5. The steps -/

/-- A request, behind a step of one of them. -/
theorem update_some {α : Type} {f : Nat → Option α} {i j : Nat} {p : Option α} {v : α}
    (h : Function.update f i p j = some v) : p = some v ∨ f j = some v := by
  by_cases hji : j = i
  · subst hji
    exact .inl (Function.update_self j p f ▸ h)
  · exact .inr (Function.update_of_ne hji p f ▸ h)

namespace Sound

section

variable {s s' : PropertySys} {i n : Nat} {u : Underway} {d : Done} {r : Request}
  {answer : Answer} {b : Buffer}

/-- Buffers are allocated, filled and freed, and no request goes on. -/
theorem grows (h : Sound s) (hg : Grows s s') (hasked : s'.asked = s.asked)
    (hdone : s'.done = s.done)
    (hpointers : ∀ n, s'.name = some n ∨ s'.protocol = some n → n < s'.buffers.length)
    (hcopies : ∀ n, s'.stage = .copiesName n ∨ s'.stage = .copiesProtocol n →
      n < s'.buffers.length ∧ ∃ text, s'.bufferOf (.buffer n) = .filling text) : Sound s' where
  pointers := hpointers
  copies := hcopies
  asked i u hu := (h.asked i u (hasked ▸ hu)).grows hg
  measured i u hu := h.measured i u (hasked ▸ hu)
  done d hd := h.done d (hdone ▸ hd)

/-- A request goes on, and is still underway. -/
theorem update (h : Sound s) (hu : UnderwayOk s u)
    (hmeasured : ∀ length, u.length = some length → Measured u length) :
    Sound { s with asked := Function.update s.asked i (some u) } where
  pointers := h.pointers
  copies := h.copies
  asked j v hv := by
    have hok : UnderwayOk s v := by
      rcases update_some hv with hv | hv
      · exact Option.some.inj hv ▸ hu
      · exact h.asked j v hv
    exact hok.grows (grows_of_eq rfl)
  measured j v hv := by
    rcases update_some hv with hv | hv
    · exact Option.some.inj hv ▸ hmeasured
    · exact h.measured j v hv
  done := h.done

/-- Another answer. -/
theorem answered (h : Sound s) (hd : d.Right) : Sound { s with done := s.done ++ [d] } where
  pointers := h.pointers
  copies := h.copies
  asked i u hu := (h.asked i u hu).grows (grows_of_eq rfl)
  measured := h.measured
  done e he := by
    rcases List.mem_append.mp he with he | he
    · exact h.done e he
    · exact List.mem_singleton.mp he ▸ hd

theorem finish (h : Sound s)
    (hd : Done.Right ⟨u.request, u.due, some u.text, u.found, u.astray, answer⟩) :
    Sound (s.finish i u answer) := by
  have hrest : Sound { s with asked := Function.update s.asked i none } := by
    refine ⟨h.pointers, h.copies, fun j v hv => ?_, fun j v hv => ?_, h.done⟩
    · rcases update_some hv with hv | hv
      · cases hv
      · exact (h.asked j v hv).grows (grows_of_eq rfl)
    · rcases update_some hv with hv | hv
      · cases hv
      · exact h.measured j v hv
  exact hrest.answered hd

/-- `Frontend->Name`, `Frontend->Protocol` -/
theorem bound_of_valueOf (h : Sound s) {code : IoControlCode} {v : Value}
    (hv : s.valueOf code = some v) (hn : v = .buffer n) : n < s.buffers.length := by
  subst hn
  cases code with
  | getInstance => cases hv
  | getName =>
      obtain ⟨m, hm, hmn⟩ := Option.map_eq_some_iff.mp hv
      cases hmn
      exact h.pointers _ (.inl hm)
  | getProtocol =>
      obtain ⟨m, hm, hmn⟩ := Option.map_eq_some_iff.mp hv
      cases hmn
      exact h.pointers _ (.inr hm)
  | other => cases hv

/-- The look at the pointer. -/
theorem look (h : Sound s) (i : Nat) (r : Request) : Sound (s.look i r) := by
  unfold PropertySys.look
  split
  · rename_i answer hanswer
    refine h.answered ⟨fun _ => ?_, by simp, fun _ => ?_⟩
    · exact (getProperty_look hanswer _).symm
    · -- `fail1` and `fail2` leave the buffer alone
      unfold Request.look at hanswer
      split at hanswer
      · obtain rfl := Sum.inl.inj hanswer
        rfl
      · split at hanswer
        · obtain rfl := Sum.inl.inj hanswer
          rfl
        · cases hanswer
  · rename_i v hv
    obtain ⟨hvalue, hinput⟩ := look_inr hv
    refine h.update ?_ nofun
    exact
      { bound := fun n hn => h.bound_of_valueOf hvalue hn
        input := hinput
        text := .inr rfl
        found := nofun
        gone := nofun
        astray := by simp }

end

end Sound

/-- What `strlen` finds of a text. -/
theorem strlen_content {b : Buffer} (seen : Nat) {text : List Char}
    (hb : b = .freed ∨ b.content = text) (hfreed : b ≠ .freed) : b.strlen seen ≤ text.length := by
  have hcontent : b.content = text := hb.resolve_left hfreed
  subst hcontent
  cases b with
  | filling text => exact Nat.min_le_right _ _
  | holds text => exact Nat.le_refl _
  | freed => exact absurd rfl hfreed

/-- A text that is all there. -/
theorem holds_of_map {text : List Char} {found : List Buffer}
    (h : ∀ b ∈ found, (some text).map .holds = some b) : ∀ b ∈ found, b = .holds text := by
  intro b hb
  exact (Option.some.inj (h b hb)).symm

/-- `strlen(Value)`, and what follows it. -/
theorem Sound.strlen {s : PropertySys} {i : Nat} {u : Underway} (h : Sound s) (seen : Nat)
    (hu : s.asked i = some u) : Sound (s.strlen i seen u) := by
  have hok := h.asked i u hu
  have hfind : UnderwayOk s (u.find (s.bufferOf u.value) (s.bufferOf u.value == .freed)) :=
    hok.find fun _ => by simp
  have hmem : s.bufferOf u.value ∈
      (u.find (s.bufferOf u.value) (s.bufferOf u.value == .freed)).found := by
    simp [Underway.find]
  unfold PropertySys.strlen
  simp only
  split
  · rename_i answer hanswer
    refine h.finish ⟨fun hwhole => ?_, hfind.astray, fun hroom => measure_inl hanswer hroom⟩
    have hb := holds_of_map hwhole _ hmem
    rw [hb] at hanswer
    simp only [Buffer.strlen] at hanswer
    have hmeasure : u.request.measure u.text.length = .inl answer := hanswer
    show answer = getProperty u.request (some u.text)
    rw [getProperty_some hok.input, hmeasure]
  · rename_i length hlength
    refine h.update ?_ fun length' hlength' => ?_
    · exact ⟨hfind.bound, hfind.input, hfind.text, hfind.found, hfind.gone, hfind.astray⟩
    · obtain rfl := Option.some.inj hlength'
      obtain ⟨hulong, hroom⟩ := measure_inr hlength
      refine ⟨fun hfreed => ?_, fun hwhole => ?_, hroom⟩
      · have hne : s.bufferOf u.value ≠ .freed := fun hb => hfreed (hb ▸ hmem)
        rw [hulong]
        exact Nat.le_trans (ulongLength_le _)
          (Nat.succ_le_succ (strlen_content seen hok.text hne))
      · have hb := hwhole _ hmem
        rw [hb] at hlength
        exact hlength

/-- What is read of a buffer that is there. -/
theorem outside_iff {b : Buffer} {text : List Char} {length : Nat}
    (hb : b = .freed ∨ b.content = text) (hlength : length ≤ text.length + 1) :
    b.outside length = true ↔ b = .freed := by
  rcases hb with rfl | hcontent
  · simp [Buffer.outside]
  · subst hcontent
    cases b with
    | filling text | holds text =>
        simp only [Buffer.content] at hlength
        simp [Buffer.outside]
        omega
    | freed => simp [Buffer.outside]

/-- `RtlCopyMemory(Buffer, Value, Length)`. -/
theorem Sound.rtlCopyMemory {s : PropertySys} {i length : Nat} {u : Underway} (h : Sound s)
    (seen : List Char) (hu : s.asked i = some u) (hlength : u.length = some length) :
    Sound (s.rtlCopyMemory i seen u length) := by
  have hok := h.asked i u hu
  have hm := h.measured i u hu length hlength
  have houtside : .freed ∉ u.found →
      ((s.bufferOf u.value).outside length = true ↔ s.bufferOf u.value = .freed) :=
    fun hfreed => outside_iff hok.text (hm.inside hfreed)
  have hfind : UnderwayOk s
      (u.find (s.bufferOf u.value) ((s.bufferOf u.value).outside length)) := hok.find houtside
  refine h.finish ⟨fun hwhole => ?_, hfind.astray, fun hroom => ?_⟩
  · have hall := holds_of_map hwhole
    have hb : s.bufferOf u.value = .holds u.text := hall _ (by simp [Underway.find])
    have hmeasure : u.request.measure u.text.length = .inr length :=
      hm.whole fun b hb => hall b (by simp [Underway.find, hb])
    show u.request.copy length ((s.bufferOf u.value).read length seen) =
      getProperty u.request (some u.text)
    rw [getProperty_some hok.input, hmeasure, hb]
    rfl
  · refine copy_room (length_read seen fun hout => ?_) hm.room hroom
    by_cases hfreed : .freed ∈ u.found
    · exact hok.gone hfreed
    · exact (houtside hfreed).mp hout

/-- `__FrontendFree` -/
theorem Sound.free {s : PropertySys} (h : Sound s) (p : Option Nat) (stage : Stage)
    (hstage : ∀ n, stage ≠ .copiesName n ∧ stage ≠ .copiesProtocol n) :
    Sound { s.free p with stage := stage } := by
  have hg := grows_free (s := s) p
  have hsame : (s.free p).name = s.name ∧ (s.free p).protocol = s.protocol ∧
      (s.free p).asked = s.asked ∧ (s.free p).done = s.done := by
    cases p <;> exact ⟨rfl, rfl, rfl, rfl⟩
  obtain ⟨hname, hprotocol, hasked, hdone⟩ := hsame
  refine h.grows ⟨hg.length, hg.later⟩ hasked hdone (fun n hn => ?_) fun n hn => ?_
  · simp only [hname, hprotocol] at hn
    exact Nat.lt_of_lt_of_le (h.pointers n hn) hg.length
  · rcases hn with hn | hn
    · exact absurd hn (hstage n).1
    · exact absurd hn (hstage n).2

/-- `FrontendConnect` reads a text. -/
theorem Sound.allocate {s s' : PropertySys} {text : List Char} (h : Sound s)
    (hbuffers : s'.buffers = (s.allocate text).buffers) (hasked : s'.asked = s.asked)
    (hdone : s'.done = s.done)
    (hpointers : ∀ n, s'.name = some n ∨ s'.protocol = some n →
      n = s.buffers.length ∨ s.name = some n ∨ s.protocol = some n)
    (hcopies : ∀ n, s'.stage = .copiesName n ∨ s'.stage = .copiesProtocol n →
      n = s.buffers.length) : Sound s' := by
  have hlength : s'.buffers.length = s.buffers.length + 1 := by
    simp [hbuffers, PropertySys.allocate]
  have hbuffer (v : Value) : s'.bufferOf v = (s.allocate text).bufferOf v := by
    cases v <;> simp only [PropertySys.bufferOf, hbuffers]
  refine h.grows ⟨by omega, fun n hn => ?_⟩ hasked hdone (fun n hn => ?_) fun n hn => ?_
  · rw [hbuffer]
    exact (grows_allocate text).later n hn
  · rcases hpointers n hn with rfl | hn
    · omega
    · have := h.pointers n hn
      omega
  · obtain rfl := hcopies n hn
    exact ⟨by omega, text, by rw [hbuffer, bufferOf_allocated]⟩

/-- **Every step keeps it.** -/
theorem sound_next {s : PropertySys} {l : PropertyLabel} (h : Sound s)
    (he : propertySystem.enabled s l) : Sound (propertySystem.next s l) := by
  cases l with
  | readName text granted =>
      cases text with
      | none => exact h.grows (grows_of_eq rfl) rfl rfl h.pointers nofun
      | some text =>
          cases granted with
          | true =>
              refine h.allocate rfl rfl rfl (fun n hn => ?_) fun n hn => ?_
              · rcases hn with hn | hn
                · exact .inl (Option.some.inj hn).symm
                · exact .inr (.inr hn)
              · rcases hn with hn | hn
                · cases hn
                  rfl
                · cases hn
          | false =>
              refine h.grows (grows_of_eq rfl) rfl rfl (fun n hn => ?_) nofun
              rcases hn with hn | hn
              · cases hn
              · exact h.pointers n (.inr hn)
  | readProtocol text granted =>
      cases text with
      | none => exact h.grows (grows_of_eq rfl) rfl rfl h.pointers nofun
      | some text =>
          cases granted with
          | true =>
              refine h.allocate rfl rfl rfl (fun n hn => ?_) fun n hn => ?_
              · rcases hn with hn | hn
                · exact .inr (.inl hn)
                · exact .inl (Option.some.inj hn).symm
              · rcases hn with hn | hn
                · cases hn
                · cases hn
                  rfl
          | false =>
              refine h.grows (grows_of_eq rfl) rfl rfl (fun n hn => ?_) nofun
              rcases hn with hn | hn
              · exact h.pointers n (.inl hn)
              · cases hn
  | copyName =>
      obtain ⟨n, hn⟩ := he
      obtain ⟨hbound, text, htext⟩ := h.copies n (.inl hn)
      have hg := grows_fill hbound htext
      simp only [propertySystem, hn]
      refine h.grows ⟨hg.length, hg.later⟩ rfl rfl (fun m hm => ?_) nofun
      exact Nat.lt_of_lt_of_le (h.pointers m hm) hg.length
  | copyProtocol =>
      obtain ⟨n, hn⟩ := he
      obtain ⟨hbound, text, htext⟩ := h.copies n (.inr hn)
      have hg := grows_fill hbound htext
      simp only [propertySystem, hn]
      refine h.grows ⟨hg.length, hg.later⟩ rfl rfl (fun m hm => ?_) nofun
      exact Nat.lt_of_lt_of_le (h.pointers m hm) hg.length
  | freeProtocol => exact h.free s.protocol .freedProtocol (by simp)
  | freeName => exact h.free s.name .freedName (by simp)
  | clearProtocol =>
      refine h.grows (grows_of_eq rfl) rfl rfl (fun n hn => ?_) nofun
      rcases hn with hn | hn
      · exact h.pointers n (.inl hn)
      · cases hn
  | clearName =>
      refine h.grows (grows_of_eq rfl) rfl rfl (fun n hn => ?_) nofun
      rcases hn with hn | hn
      · cases hn
      · exact h.pointers n (.inr hn)
  | look i r => exact h.look i r
  | strlen i seen =>
      obtain ⟨u, hu, -⟩ := he
      simp only [propertySystem, hu]
      exact h.strlen seen hu
  | rtlCopyMemory i seen =>
      obtain ⟨u, length, hu, hlength⟩ := he
      simp only [propertySystem, hu, hlength]
      exact h.rtlCopyMemory seen hu hlength

theorem sound_init (pdoName : List Char) : Sound (.init pdoName) where
  pointers := by simp [PropertySys.init]
  copies := by simp [PropertySys.init]
  asked := nofun
  measured := nofun
  done := nofun

/-! ## 6. Runs in which they take turns -/

/-- There is a buffer where there is a text, and it holds it. -/
def Stored (s : PropertySys) (p : Option Nat) (text : Option (List Char)) : Prop :=
  p.map (fun n => s.bufferOf (.buffer n)) = text.map .holds

/-- It is being filled with it. -/
def Filling (s : PropertySys) (n : Nat) (text : Option (List Char)) : Prop :=
  ∃ t, s.bufferOf (.buffer n) = .filling t ∧ text = some t

/-- What the frontend has. -/
def Kept (s : PropertySys) : Prop :=
  match s.stage with
  | .disconnected => (s.name = none ∧ s.nameReply = none) ∧ s.protocol = none ∧ s.protocolReply = none
  | .copiesName n => (s.name = some n ∧ Filling s n (s.due .getName)) ∧
      s.protocol = none ∧ s.protocolReply = none
  | .hasName => Stored s s.name (s.due .getName) ∧ s.protocol = none ∧ s.protocolReply = none
  | .copiesProtocol n => Stored s s.name (s.due .getName) ∧
      s.protocol = some n ∧ Filling s n (s.due .getProtocol)
  | .connected => Stored s s.name (s.due .getName) ∧ Stored s s.protocol (s.due .getProtocol)
  | .freedProtocol => True
  | .clearedProtocol | .freedName => s.protocol = none ∧ s.protocolReply = none

/-- **The invariant of these runs.** -/
structure Settled (s : PropertySys) : Prop where
  kept : Kept s
  turns : ∀ i u, s.asked i = some u → s.stage = .disconnected ∨ s.stage = .connected
  asked : ∀ i u, s.asked i = some u → u.due = some u.text ∧
    s.bufferOf u.value = .holds u.text ∧ ∀ b ∈ u.found, b = .holds u.text
  done : ∀ d ∈ s.done, d.text = d.due ∧ ∀ b ∈ d.found, d.text.map .holds = some b

section Turns

variable {s s' : PropertySys} {i n : Nat} {u : Underway} {p : Option Nat} {text : List Char}
  {due : Option (List Char)}

theorem stored_none : Stored s none none := rfl

/-- The buffer of a pointer. -/
theorem Stored.holds (h : Stored s p due) (hn : p = some n) :
    ∃ text, due = some text ∧ s.bufferOf (.buffer n) = .holds text := by
  subst hn
  obtain ⟨text, htext, he⟩ := Option.map_eq_some_iff.mp h.symm
  exact ⟨text, htext, he.symm⟩

theorem Stored.bound (h : Stored s p due) (hn : p = some n) : n < s.buffers.length := by
  obtain ⟨text, -, htext⟩ := h.holds hn
  by_contra hge
  simp only [PropertySys.bufferOf, List.getD_eq_getElem?_getD,
    List.getElem?_eq_none (Nat.le_of_not_lt hge), Option.getD_none] at htext
  cases htext

/-- A pointer whose buffer stays. -/
theorem Stored.congr (h : Stored s p due)
    (hsame : ∀ n, p = some n → s'.bufferOf (.buffer n) = s.bufferOf (.buffer n)) :
    Stored s' p due := by
  cases p with
  | none => exact h
  | some n =>
      refine Eq.trans ?_ h
      simp only [Option.map_some, hsame n rfl]

/-- The buffers that there are stay. -/
theorem Stored.allocate (h : Stored s p due)
    (hbuffers : s'.buffers = (s.allocate text).buffers) : Stored s' p due := by
  refine h.congr ?_
  intro n hn
  have hstays : (s.allocate text).bufferOf (.buffer n) = s.bufferOf (.buffer n) :=
    bufferOf_allocate (h.bound hn)
  rw [← hstays]
  simp only [PropertySys.bufferOf, hbuffers]

/-- So does every other one, when one of them is filled. -/
theorem Stored.fill (h : Stored s p due) (htext : s.bufferOf (.buffer n) = .filling text)
    (hbuffers : s'.buffers = (s.fill n).buffers) : Stored s' p due := by
  refine h.congr ?_
  intro m hm
  obtain ⟨t, -, ht⟩ := h.holds hm
  have hnm : n ≠ m := by
    intro hnm
    rw [hnm, ht] at htext
    cases htext
  have hfill : (s.fill n).bufferOf (.buffer m) = s.bufferOf (.buffer m) := by
    rw [PropertySys.fill, bufferOf_set (h.bound hm), if_neg hnm]
  rw [← hfill]
  simp only [PropertySys.bufferOf, hbuffers]

/-- The one that is filled. -/
theorem Filling.filled (h : Filling s n due) (hn : n < s.buffers.length)
    (hbuffers : s'.buffers = (s.fill n).buffers) : Stored s' (some n) due := by
  obtain ⟨text, htext, rfl⟩ := h
  have hsame : s'.bufferOf (.buffer n) = (s.fill n).bufferOf (.buffer n) := by
    simp only [PropertySys.bufferOf, hbuffers]
  simp only [Stored, Option.map_some, hsame, bufferOf_fill hn htext]

/-- One that has just been allocated. -/
theorem filling_allocated (hbuffers : s'.buffers = (s.allocate text).buffers) :
    Filling s' s.buffers.length (some text) := by
  refine ⟨text, ?_, rfl⟩
  rw [← bufferOf_allocated (s := s)]
  simp only [PropertySys.bufferOf, hbuffers]

namespace Settled

/-- It is the frontend's turn. -/
theorem frontend (h : Settled s) (hquiet : ∀ i, s.asked i = none) (hasked : s'.asked = s.asked)
    (hdone : s'.done = s.done) (hkept : Kept s') : Settled s' := by
  have hnone {i : Nat} {u : Underway} : s'.asked i ≠ some u := by
    rw [hasked, hquiet i]
    nofun
  exact ⟨hkept, fun i u hu => absurd hu hnone, fun i u hu => absurd hu hnone,
    fun d hd => h.done d (hdone ▸ hd)⟩

/-- **What is pointed to is the text that is due**, when it is the requests' turn. -/
theorem stored_valueOf (h : Settled s) (hturn : s.stage = .disconnected ∨ s.stage = .connected)
    (code : IoControlCode) : (s.valueOf code).map s.bufferOf = (s.due code).map .holds := by
  have hstored : Stored s s.name (s.due .getName) ∧ Stored s s.protocol (s.due .getProtocol) := by
    have hkept := h.kept
    rcases hturn with hturn | hturn
    · simp only [Kept, hturn] at hkept
      obtain ⟨⟨hname, hreply⟩, hprotocol, hreply'⟩ := hkept
      simp only [PropertySys.due, frontendValue, hname, hprotocol, hreply, hreply']
      exact ⟨stored_none, stored_none⟩
    · simp only [Kept, hturn] at hkept
      exact hkept
  cases code with
  | getInstance | other => rfl
  | getName =>
      simp only [PropertySys.valueOf, frontendValue, Option.map_map]
      exact hstored.1
  | getProtocol =>
      simp only [PropertySys.valueOf, frontendValue, Option.map_map]
      exact hstored.2

/-- A request goes on. -/
theorem update (h : Settled s) (hturn : s.stage = .disconnected ∨ s.stage = .connected)
    (hu : u.due = some u.text ∧ s.bufferOf u.value = .holds u.text ∧
      ∀ b ∈ u.found, b = .holds u.text) :
    Settled { s with asked := Function.update s.asked i (some u) } where
  kept := h.kept
  turns _ _ _ := hturn
  asked j v hv := by
    have hv' : v.due = some v.text ∧ s.bufferOf v.value = .holds v.text ∧
        ∀ b ∈ v.found, b = .holds v.text := by
      rcases update_some hv with hv | hv
      · exact Option.some.inj hv ▸ hu
      · exact h.asked j v hv
    have hsame : ∀ w : Value, PropertySys.bufferOf
        { s with asked := Function.update s.asked i (some u) } w = s.bufferOf w := by
      intro w
      cases w <;> rfl
    exact ⟨hv'.1, (hsame v.value).trans hv'.2.1, hv'.2.2⟩
  done := h.done

/-- A request is answered. -/
theorem finish (h : Settled s) {answer : Answer} (hdue : u.due = some u.text)
    (hfound : ∀ b ∈ u.found, b = .holds u.text) : Settled (s.finish i u answer) where
  kept := h.kept
  turns j v hv := by
    rcases update_some hv with hv | hv
    · cases hv
    · exact h.turns j v hv
  asked j v hv := by
    rcases update_some hv with hv | hv
    · cases hv
    · have hsame : (s.finish i u answer).bufferOf v.value = s.bufferOf v.value := by
        cases v.value <;> rfl
      obtain ⟨hdue', hvalue, hfound'⟩ := h.asked j v hv
      exact ⟨hdue', hsame.trans hvalue, hfound'⟩
  done d hd := by
    rcases List.mem_append.mp hd with hd | hd
    · exact h.done d hd
    · obtain rfl := List.mem_singleton.mp hd
      refine ⟨hdue.symm, ?_⟩
      intro b hb
      rw [hfound b hb]
      rfl

/-- It finds what it has found before. -/
theorem found (h : Settled s) (hu : s.asked i = some u) (astray : Bool) :
    ∀ b ∈ (u.find (s.bufferOf u.value) astray).found, b = .holds u.text := by
  obtain ⟨-, hvalue, hfound⟩ := h.asked i u hu
  intro b hb
  rcases List.mem_append.mp hb with hb | hb
  · exact hfound b hb
  · rw [List.mem_singleton.mp hb, hvalue]

end Settled

/-- **Every step of such a run keeps it.** -/
theorem settled_next {l : PropertyLabel} (hs : Sound s) (h : Settled s)
    (he : propertySystem.enabled s l) (ht : TakesTurns s l) :
    Settled (propertySystem.next s l) := by
  have hkept := h.kept
  cases l with
  | readName text granted =>
      have hstage : s.stage = .disconnected := he.1
      simp only [Kept, hstage] at hkept
      obtain ⟨⟨hname, -⟩, hprotocol⟩ := hkept
      cases text with
      | none =>
          refine h.frontend (ht.1 rfl) rfl rfl ⟨?_, hprotocol⟩
          show Stored _ s.name _
          rw [hname]
          cases granted <;> exact stored_none
      | some text =>
          cases granted with
          | true => exact h.frontend (ht.1 rfl) rfl rfl ⟨⟨rfl, filling_allocated rfl⟩, hprotocol⟩
          | false => exact h.frontend (ht.1 rfl) rfl rfl ⟨stored_none, hprotocol⟩
  | copyName =>
      obtain ⟨n, hn⟩ := he
      obtain ⟨hbound, -⟩ := hs.copies n (.inl hn)
      simp only [Kept, hn] at hkept
      obtain ⟨⟨hname, hfilling⟩, hprotocol⟩ := hkept
      simp only [propertySystem, hn]
      refine h.frontend (ht.1 rfl) rfl rfl ⟨?_, hprotocol⟩
      show Stored _ s.name (s.due .getName)
      rw [hname]
      exact hfilling.filled hbound rfl
  | readProtocol text granted =>
      have hstage : s.stage = .hasName := he.1
      simp only [Kept, hstage] at hkept
      obtain ⟨hname, hprotocol, -⟩ := hkept
      cases text with
      | none =>
          refine h.frontend (ht.1 rfl) rfl rfl ⟨hname, ?_⟩
          show Stored _ s.protocol _
          rw [hprotocol]
          cases granted <;> exact stored_none
      | some text =>
          cases granted with
          | true =>
              exact h.frontend (ht.1 rfl) rfl rfl
                ⟨hname.allocate rfl, rfl, filling_allocated rfl⟩
          | false => exact h.frontend (ht.1 rfl) rfl rfl ⟨hname, stored_none⟩
  | copyProtocol =>
      obtain ⟨n, hn⟩ := he
      obtain ⟨hbound, text, htext⟩ := hs.copies n (.inr hn)
      simp only [Kept, hn] at hkept
      obtain ⟨hname, hprotocol, hfilling⟩ := hkept
      simp only [propertySystem, hn]
      refine h.frontend (ht.1 rfl) rfl rfl ⟨hname.fill htext rfl, ?_⟩
      show Stored _ s.protocol (s.due .getProtocol)
      rw [hprotocol]
      exact hfilling.filled hbound rfl
  | freeProtocol =>
      have hsame : (s.free s.protocol).asked = s.asked ∧ (s.free s.protocol).done = s.done := by
        cases s.protocol <;> exact ⟨rfl, rfl⟩
      exact h.frontend (ht.1 rfl) hsame.1 hsame.2 trivial
  | clearProtocol => exact h.frontend (ht.1 rfl) rfl rfl ⟨rfl, rfl⟩
  | freeName =>
      have hsame : (s.free s.name).asked = s.asked ∧ (s.free s.name).done = s.done ∧
          (s.free s.name).protocol = s.protocol ∧
          (s.free s.name).protocolReply = s.protocolReply := by
        cases s.name <;> exact ⟨rfl, rfl, rfl, rfl⟩
      obtain ⟨hasked, hdone, hprotocol, hreply⟩ := hsame
      have hstage : s.stage = .clearedProtocol := he
      simp only [Kept, hstage] at hkept
      exact h.frontend (ht.1 rfl) hasked hdone
        ⟨hprotocol.trans hkept.1, hreply.trans hkept.2⟩
  | clearName =>
      have hstage : s.stage = .freedName := he
      simp only [Kept, hstage] at hkept
      exact h.frontend (ht.1 rfl) rfl rfl ⟨⟨rfl, rfl⟩, hkept⟩
  | look i r =>
      have hturn := ht.2 i r rfl
      have hvalue := h.stored_valueOf hturn r.code
      simp only [propertySystem, PropertySys.look]
      split
      · refine ⟨h.kept, h.turns, fun j v hv => ?_, fun d hd => ?_⟩
        · have hsame : ∀ (done : List Done) (w : Value),
              PropertySys.bufferOf { s with done := done } w = s.bufferOf w := by
            intro done w
            cases w <;> rfl
          obtain ⟨hdue, hbuffer, hfound⟩ := h.asked j v hv
          exact ⟨hdue, (hsame _ _).trans hbuffer, hfound⟩
        · rcases List.mem_append.mp hd with hd | hd
          · exact h.done d hd
          · obtain rfl := List.mem_singleton.mp hd
            refine ⟨?_, nofun⟩
            have hcontent := congrArg (Option.map Buffer.content) hvalue
            rw [Option.map_map, Option.map_map] at hcontent
            exact hcontent.trans Option.map_id'
      · rename_i v hv
        rw [(look_inr hv).1, Option.map_some] at hvalue
        obtain ⟨text, hdue, hholds⟩ := Option.map_eq_some_iff.mp hvalue.symm
        refine h.update hturn ⟨?_, ?_, nofun⟩
        · rw [hdue, ← hholds]
          rfl
        · rw [← hholds]
          rfl
  | strlen i seen =>
      obtain ⟨u, hu, -⟩ := he
      have hfound := h.found hu (s.bufferOf u.value == .freed)
      obtain ⟨hdue, hvalue, -⟩ := h.asked i u hu
      simp only [propertySystem, hu, PropertySys.strlen]
      split
      · exact h.finish hdue hfound
      · exact h.update (h.turns i u hu) ⟨hdue, hvalue, hfound⟩
  | rtlCopyMemory i seen =>
      obtain ⟨u, length, hu, hlength⟩ := he
      simp only [propertySystem, hu, hlength]
      exact h.finish (h.asked i u hu).1 (h.found hu _)

theorem settled_init (pdoName : List Char) : Settled (.init pdoName) where
  kept := ⟨⟨rfl, rfl⟩, rfl, rfl⟩
  turns := nofun
  asked := nofun
  done := nofun

end Turns

/-! ## 7. What the monitor calls a console -/

/-- Every text is one of the store's. -/
structure Clean (s : PropertySys) : Prop where
  pdoName : Text s.pdoName
  buffers : ∀ b ∈ s.buffers, Text b.content
  asked : ∀ i u, s.asked i = some u → Text u.text
  done : ∀ d ∈ s.done, ∀ text, d.text = some text → Text text

theorem text_nil : Text [] := ⟨List.not_mem_nil, by decide⟩

section Names

variable {s s' : PropertySys} {i : Nat} {u : Underway} {r : Request} {text : List Char}

theorem Clean.bufferOf (h : Clean s) (v : Value) (hv : ∀ t, v = .pdoName t → t = s.pdoName) :
    Text (s.bufferOf v).content := by
  cases v with
  | pdoName t => exact hv t rfl ▸ h.pdoName
  | buffer n =>
      simp only [PropertySys.bufferOf, List.getD_eq_getElem?_getD]
      cases hn : s.buffers[n]? with
      | none => exact text_nil
      | some b => exact h.buffers b (List.mem_of_getElem? hn)

theorem Clean.set (h : Clean s) {n : Nat} {b : Buffer} (hb : Text b.content) :
    ∀ b' ∈ s.buffers.set n b, Text b'.content := by
  intro b' hb'
  rcases List.mem_or_eq_of_mem_set hb' with hb' | rfl
  · exact h.buffers b' hb'
  · exact hb

theorem Clean.free (h : Clean s) (p : Option Nat) : Clean (s.free p) := by
  cases p with
  | none => exact h
  | some n => exact ⟨h.pdoName, h.set text_nil, h.asked, h.done⟩

theorem Clean.fill (h : Clean s) (n : Nat) : Clean (s.fill n) :=
  ⟨h.pdoName, h.set (h.bufferOf (.buffer n) nofun), h.asked, h.done⟩

theorem Clean.allocate (h : Clean s) (htext : Text text) : Clean (s.allocate text) := by
  refine ⟨h.pdoName, fun b hb => ?_, h.asked, h.done⟩
  rcases List.mem_append.mp hb with hb | hb
  · exact h.buffers b hb
  · obtain rfl := List.mem_singleton.mp hb
    exact htext

theorem Clean.update (h : Clean s) (htext : Text u.text) :
    Clean { s with asked := Function.update s.asked i (some u) } := by
  refine ⟨h.pdoName, h.buffers, fun j v hv => ?_, h.done⟩
  rcases update_some hv with hv | hv
  · exact Option.some.inj hv ▸ htext
  · exact h.asked j v hv

theorem Clean.answered (h : Clean s) {d : Done} (hd : ∀ text, d.text = some text → Text text) :
    Clean { s with done := s.done ++ [d] } := by
  refine ⟨h.pdoName, h.buffers, h.asked, fun e he => ?_⟩
  rcases List.mem_append.mp he with he | he
  · exact h.done e he
  · obtain rfl := List.mem_singleton.mp he
    exact hd

theorem Clean.finish (h : Clean s) {answer : Answer} (hu : Text u.text) :
    Clean (s.finish i u answer) := by
  have hrest : Clean { s with asked := Function.update s.asked i none } := by
    refine ⟨h.pdoName, h.buffers, fun j v hv => ?_, h.done⟩
    rcases update_some hv with hv | hv
    · cases hv
    · exact h.asked j v hv
  exact hrest.answered fun text htext => Option.some.inj htext ▸ hu

/-- A text that the frontend has, or the PDO. -/
theorem Clean.valueOf (h : Clean s) {code : IoControlCode} {v : Value}
    (hv : s.valueOf code = some v) : Text (s.bufferOf v).content := by
  refine h.bufferOf v fun t ht => ?_
  subst ht
  cases code with
  | getInstance =>
      cases hv
      rfl
  | getName =>
      obtain ⟨n, -, hn⟩ := Option.map_eq_some_iff.mp hv
      cases hn
  | getProtocol =>
      obtain ⟨n, -, hn⟩ := Option.map_eq_some_iff.mp hv
      cases hn
  | other => cases hv

theorem clean_next {l : PropertyLabel} (h : Clean s) (he : propertySystem.enabled s l) :
    Clean (propertySystem.next s l) := by
  have hstage {s : PropertySys} (h : Clean s) (name protocol : Option Nat) (stage : Stage)
      (nameReply protocolReply : Option Reply) :
      Clean { s with
        name := name
        protocol := protocol
        stage := stage
        nameReply := nameReply
        protocolReply := protocolReply } := ⟨h.pdoName, h.buffers, h.asked, h.done⟩
  cases l with
  | readName text granted =>
      cases text with
      | none => exact hstage h _ _ _ _ _
      | some text =>
          cases granted with
          | true => exact hstage (h.allocate (he.2 text rfl)) _ _ _ _ _
          | false => exact hstage h _ _ _ _ _
  | readProtocol text granted =>
      cases text with
      | none => exact hstage h _ _ _ _ _
      | some text =>
          cases granted with
          | true => exact hstage (h.allocate (he.2 text rfl)) _ _ _ _ _
          | false => exact hstage h _ _ _ _ _
  | copyName =>
      obtain ⟨n, hn⟩ := he
      simp only [propertySystem, hn]
      exact hstage (h.fill n) _ _ _ _ _
  | copyProtocol =>
      obtain ⟨n, hn⟩ := he
      simp only [propertySystem, hn]
      exact hstage (h.fill n) _ _ _ _ _
  | freeProtocol => exact hstage (h.free s.protocol) _ _ _ _ _
  | freeName => exact hstage (h.free s.name) _ _ _ _ _
  | clearProtocol => exact hstage h _ _ _ _ _
  | clearName => exact hstage h _ _ _ _ _
  | look i r =>
      simp only [propertySystem, PropertySys.look]
      split
      · refine h.answered fun text htext => ?_
        obtain ⟨v, hv, rfl⟩ := Option.map_eq_some_iff.mp htext
        exact h.valueOf hv
      · rename_i v hv
        exact h.update (h.valueOf (look_inr hv).1)
  | strlen i seen =>
      obtain ⟨u, hu, -⟩ := he
      simp only [propertySystem, hu, PropertySys.strlen]
      split
      · exact h.finish (h.asked i u hu)
      · exact h.update (h.asked i u hu)
  | rtlCopyMemory i seen =>
      obtain ⟨u, length, hu, hlength⟩ := he
      simp only [propertySystem, hu, hlength]
      exact h.finish (h.asked i u hu)

theorem clean_init {pdoName : List Char} (hpdo : Text pdoName) : Clean (.init pdoName) where
  pdoName := hpdo
  buffers := by simp [PropertySys.init]
  asked := nofun
  done := nofun

/-- The name, if there is room for it. -/
theorem monitorName_text (hr : AsksName r) (ht : Text text) (deviceName : List Char) :
    monitorName (getProperty r (some text)) deviceName =
      if text.length < MAX_PATH then some text else none := by
  have hulong : ulongLength text.length = text.length + 1 := by
    have hfits := ht.fits
    unfold ulongLength
    rw [Nat.mod_eq_of_lt (by omega : text.length < 2 ^ 32), Nat.mod_eq_of_lt hfits]
  rw [getProperty_some hr.input]
  by_cases hroom : text.length < MAX_PATH
  · have hmeasure : r.measure text.length = .inr (text.length + 1) := by
      unfold Request.measure
      simp only [hulong, hr.output]
      rw [if_neg (by decide), if_neg (by omega)]
    -- what is copied ends with a NUL, so that neither the rest of the buffer nor the NUL at its
    -- end is looked at
    have htake : (text ++ [NUL]).take (text.length + 1) = text ++ [NUL] :=
      List.take_of_length_le (by simp)
    have hcopied : deviceIoControl (r.copy (text.length + 1) (text ++ [NUL])) deviceName =
        some (text ++ NUL :: deviceName.drop (text.length + 1)) := by
      unfold deviceIoControl Request.copy
      rw [if_pos rfl]
      simp only
      rw [List.take_left' (by simp), List.append_assoc]
      rfl
    have hset : ∃ rest, (text ++ NUL :: deviceName.drop (text.length + 1)).set (MAX_PATH - 1) NUL =
        text ++ NUL :: rest := by
      rw [List.set_append_right _ _ (by omega)]
      cases hk : MAX_PATH - 1 - text.length with
      | zero => exact ⟨_, rfl⟩
      | succ k => exact ⟨_, rfl⟩
    obtain ⟨rest, hrest⟩ := hset
    rw [hmeasure, if_pos hroom]
    simp only [monitorName, htake, hcopied, Option.bind_some, hrest]
    have hat : lengthAt NUL 0 (text ++ NUL :: rest) = some text.length :=
      lengthAt_of_drop rest ht.clean rfl
    rw [cString, hat, Option.map_some, List.take_left]
  · have hmeasure : r.measure text.length =
        .inl ⟨STATUS_INVALID_BUFFER_SIZE, text.length + 1, r.zeroed⟩ := by
      unfold Request.measure
      simp only [hulong, hr.output]
      rw [if_neg (by decide), if_pos (by omega)]
    rw [hmeasure, if_neg hroom]
    rfl

/-- **What the monitor calls a console**: its text, if there is one and it has less than `MAX_PATH`
    characters. -/
def nameOf (text : Option (List Char)) : Option (List Char) :=
  text.filter fun text => decide (text.length < MAX_PATH)

theorem monitorName_getProperty (hr : AsksName r) {text : Option (List Char)}
    (ht : ∀ t, text = some t → Text t) (deviceName : List Char) :
    monitorName (getProperty r text) deviceName = nameOf text := by
  cases text with
  | none => rfl
  | some text =>
      rw [monitorName_text hr (ht text rfl) deviceName, nameOf, Option.filter_some]
      by_cases hroom : text.length < MAX_PATH
      · rw [if_pos hroom, if_pos (decide_eq_true hroom)]
      · rw [if_neg hroom, if_neg (by simpa using hroom)]

end Names

/-! ## 8. The result -/

section Result

variable {s : PropertySys} {pdoName : List Char}

theorem sound_reach {P : PropertySys → PropertyLabel → Prop}
    (h : Reach propertySystem P (.init pdoName) s) : Sound s :=
  h.invariant (sound_init pdoName) fun _ _ hs he _ => sound_next hs he

theorem clean_reach {P : PropertySys → PropertyLabel → Prop} (hpdo : Text pdoName)
    (h : Reach propertySystem P (.init pdoName) s) : Clean s :=
  h.invariant (clean_init hpdo) fun _ _ hs he _ => clean_next hs he

theorem settled_reach (h : Reach propertySystem TakesTurns (.init pdoName) s) : Settled s :=
  h.invariant_using (fun _ => sound_reach) (settled_init pdoName)
    fun _ _ hs h he ht => settled_next hs h he ht

/-- An answer of such a run is that of the text that is due. -/
theorem answer_of_turns (h : Reach propertySystem TakesTurns (.init pdoName) s) {d : Done}
    (hd : d ∈ s.done) :
    d.astray = false ∧ d.text = d.due ∧ d.answer = getProperty d.request d.due := by
  have hright := (sound_reach h).done d hd
  obtain ⟨hdue, hfound⟩ := (settled_reach h).done d hd
  refine ⟨?_, hdue, hdue ▸ hright.whole hfound⟩
  rw [← Bool.not_eq_true, hright.astray]
  intro hfreed
  have htext := hfound _ hfreed
  cases hd : d.text with
  | none => simp [hd] at htext
  | some text => simp [hd] at htext

/-- A console is disconnected between the look at its name and `strlen`. -/
def unplugged : List PropertyLabel :=
  [.readName (some "a".toList) true, .copyName, .readProtocol none true,
    .look 0 ⟨.getName, 0, 2, "xy".toList⟩, .freeProtocol, .clearProtocol, .freeName, .strlen 0 5]

theorem unplugged_astray (pdoName : List Char) :
    ∃ s, Reach propertySystem (fun _ _ => True) (.init pdoName) s ∧ ∃ d ∈ s.done, d.astray = true := by
  have htext : Text "a".toList := ⟨by decide, by decide⟩
  have hadmits : Admits propertySystem (fun _ _ => True) (.init pdoName) unplugged := by
    refine ⟨⟨rfl, fun t ht => ?_⟩, trivial, ⟨0, rfl⟩, trivial, ⟨rfl, nofun⟩, trivial, rfl, trivial,
      rfl, trivial, rfl, trivial, rfl, trivial, ⟨_, rfl, rfl⟩, trivial, trivial⟩
    exact Option.some.inj ht ▸ htext
  exact ⟨_, Reach.of_admits unplugged .start hadmits, _, List.mem_singleton.mpr rfl, rfl⟩

/-- The request of `ConsoleCreate`. -/
def nameRequest : Request := ⟨.getName, 0, MAX_PATH, List.replicate MAX_PATH 'x'⟩

theorem asksName_nameRequest : AsksName nameRequest := ⟨rfl, rfl, rfl, List.length_replicate⟩

/-- What a console is called is read from the store, and the monitor asks for it. -/
def named : List PropertyLabel :=
  [.readName (some "con".toList) true, .copyName, .readProtocol none true,
    .look 0 nameRequest, .strlen 0 0, .rtlCopyMemory 0 []]

theorem named_turns (pdoName : List Char) :
    Admits propertySystem TakesTurns (.init pdoName) named := by
  have htext : ∀ t, some "con".toList = some t → Text t := by
    rintro t ⟨⟩
    exact ⟨by decide, by decide⟩
  have hquiet {s : PropertySys} (h : ∀ i, s.asked i = none) {l : PropertyLabel}
      (hl : ∀ i r, l ≠ .look i r) : TakesTurns s l :=
    ⟨fun _ => h, fun i r e => absurd e (hl i r)⟩
  have hrequest {s : PropertySys} {l : PropertyLabel} (hl : l.ofFrontend = false)
      (hlook : ∀ i r, l ≠ .look i r) : TakesTurns s l :=
    ⟨fun h => absurd (hl.symm.trans h) Bool.false_ne_true, fun i r e => absurd e (hlook i r)⟩
  refine ⟨⟨rfl, htext⟩, hquiet (fun _ => rfl) nofun, ⟨0, rfl⟩, hquiet (fun _ => rfl) nofun,
    ⟨rfl, nofun⟩, hquiet (fun _ => rfl) nofun, rfl, ⟨nofun, fun _ _ _ => .inr rfl⟩, ⟨_, rfl, rfl⟩,
    hrequest rfl nofun, ⟨_, _, rfl, rfl⟩, hrequest rfl nofun, trivial⟩

/-- **What a console is called.** In every run a request that has found its whole text is answered
    with that, and none writes more than there is room for. Where they take turns, it is the text
    that the store has returned, and the monitor calls the console that. -/
theorem property_answers (hpdo : Text pdoName) :
    (∀ s, Reach propertySystem (fun _ _ => True) (.init pdoName) s → ∀ d ∈ s.done, d.Right) ∧
    (∀ s, Reach propertySystem TakesTurns (.init pdoName) s → ∀ d ∈ s.done,
      d.astray = false ∧ d.text = d.due ∧ d.answer = getProperty d.request d.due ∧
      (AsksName d.request → ∀ deviceName, monitorName d.answer deviceName = nameOf d.due)) ∧
    (∀ r, AsksName r → ∀ deviceName,
      monitorName (consoleDeviceControl STATUS_SUCCESS r) deviceName = some "default".toList) ∧
    ∃ s, Reach propertySystem (fun _ _ => True) (.init pdoName) s ∧
      ∃ d ∈ s.done, d.astray = true := by
  refine ⟨fun s h => (sound_reach h).done, fun s h d hd => ?_, fun r hr deviceName => ?_,
    unplugged_astray pdoName⟩
  · obtain ⟨hastray, hdue, hanswer⟩ := answer_of_turns h hd
    refine ⟨hastray, hdue, hanswer, ?_⟩
    intro hr deviceName
    have htext : ∀ t, d.due = some t → Text t :=
      fun t ht => (clean_reach hpdo h).done d hd t (hdue.trans ht)
    rw [hanswer]
    exact monitorName_getProperty hr htext deviceName
  · have hdefault : Text "default".toList := ⟨by decide, by decide⟩
    have hname : consoleDeviceControl STATUS_SUCCESS r = getProperty r (some "default".toList) := by
      unfold consoleDeviceControl
      rw [if_neg (by decide), hr.code]
      rfl
    rw [hname, monitorName_text hr hdefault deviceName, if_pos (by decide)]

/-- The monitor reads the name that the store has; without turns, a freed buffer is read. -/
theorem property_answers_zero :
    (∃ s, Reach propertySystem TakesTurns (.init "0".toList) s ∧
      ∃ d ∈ s.done, AsksName d.request ∧ d.text = some "con".toList ∧
        ∀ deviceName, monitorName d.answer deviceName = some "con".toList) ∧
    ∃ s, Reach propertySystem (fun _ _ => True) (.init "0".toList) s ∧
      ∃ d ∈ s.done, d.astray = true := by
  have hpdo : Text "0".toList := ⟨by decide, by decide⟩
  refine ⟨?_, (property_answers hpdo).2.2.2⟩
  have hreach := Reach.of_admits named .start (named_turns "0".toList)
  refine ⟨_, hreach, _, List.mem_singleton.mpr rfl, asksName_nameRequest, rfl, ?_⟩
  intro deviceName
  exact ((property_answers hpdo).2.1 _ hreach _ (List.mem_singleton.mpr rfl)).2.2.2
    asksName_nameRequest deviceName

end Result

end Xencons.Property
