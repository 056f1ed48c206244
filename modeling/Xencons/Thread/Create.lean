import Xencons.Lib.Heap
import Xencons.Nt

/-!
# Making a thread (thread.c)

`ThreadCreate` allocates the structure, creates the system thread and takes a reference on its
object. Where the reference cannot be had the thread is there already and is told to end; the
structure is freed by whoever drops its `References` to zero.

* `Object` -- what the constructors of the driver take;
* `threadCreate`, `threadAlertAndJoin` -- the code;
* `threadCreate_spec` -- a thread, with its structure and the reference on its object, or nothing:
  `threadCreate_succeeds`, `threadCreate_fails`;
* `threadAlertAndJoin_has` -- the thread and its structure are given back; the reference is not.
-/

namespace Xencons

open Lib

/-- What is taken and given back. -/
inductive Object where
  /-- pool memory -/
  | pool
  /-- device objects, and attachments of theirs to a stack -/
  | device
  | attachment
  /-- references on the bus interface of the lower driver -/
  | busInterface
  /-- system threads, handles to them, references on their objects -/
  | thread
  | threadHandle
  | threadObject
deriving DecidableEq

/-- `XENCONS_THREAD`, by where it is, and the thread it is for. -/
structure XenconsThread where
  block : Nat
  thread : Nat
deriving DecidableEq

/-- What `ThreadCreate` meets. -/
structure ThreadOutcome where
  /-- `__ThreadAllocate` -/
  allocated : Bool
  /-- `PsCreateSystemThread` -/
  created : NtStatus
  /-- `ObReferenceObjectByHandle` -/
  referenced : NtStatus
  /-- the thread drops its reference on the structure before `ThreadCreate` drops its own -/
  endsFirst : Bool

/-- `InterlockedDecrement(&Thread->References) == 0`, and `__ThreadFree`. -/
def threadDereference (block : Pointer) (references : Nat) (h : Heap Object) :
    Nat × Heap Object :=
  (references - 1, if references - 1 = 0 then h.give .pool block else h)

/-- The end of `ThreadFunction`. -/
def threadFunctionEnd (block : Pointer) (thread : Nat) (references : Nat) (h : Heap Object) :
    Nat × Heap Object :=
  let (references, h) := threadDereference block references h
  (references, h.give .thread (.object thread))

/-- `fail3` of `ThreadCreate`, and `fail2`, in the order in which the two come to their
    references. -/
def threadCreateFail3 (o : ThreadOutcome) (block : Pointer) (thread handle references : Nat)
    (h : Heap Object) : Heap Object :=
  let h := h.give .threadHandle (.object handle)
  if o.endsFirst then
    let (references, h) := threadFunctionEnd block thread references h
    (threadDereference block references h).2
  else
    let (references, h) := threadDereference block references h
    (threadFunctionEnd block thread references h).2

/-- `ThreadCreate`: the status, `*Thread`, and what is live when a thread it has told to end has
    ended. -/
def threadCreate (o : ThreadOutcome) (h : Heap Object) :
    NtStatus × Option XenconsThread × Heap Object :=
  match h.allocate .pool o.allocated with
  | (.object block, h) =>
    -- one for us, one for the thread function
    let references := 2
    if !o.created.ntSuccess then
      -- fake thread function termination
      (o.created, none, (threadDereference (.object block) (references - 1) h).2)
    else
      let thread := h.next
      let h := h.take .thread
      let handle := h.next
      let h := h.take .threadHandle
      if !o.referenced.ntSuccess then
        (o.referenced, none, threadCreateFail3 o (.object block) thread handle references h)
      else
        let h := h.take .threadObject
        (.success, some ⟨block, thread⟩, h.give .threadHandle (.object handle))
  | (_, h) => (.noMemory, none, h)

/-- `ThreadAlert` and `ThreadJoin`: the thread ends, and whatever `References` says the structure is
    freed. Nothing drops the reference on the thread object. -/
def threadAlertAndJoin (t : XenconsThread) (h : Heap Object) : Heap Object :=
  (h.give .thread (.object t.thread)).give .pool (.object t.block)

/-! ## What it leaves -/

@[simp] theorem ntSuccess_success : NtStatus.success.ntSuccess = true := rfl

@[simp] theorem ntSuccess_noMemory : NtStatus.noMemory.ntSuccess = false := rfl

@[simp] theorem ntSuccess_unsuccessful : NtStatus.unsuccessful.ntSuccess = false := rfl

/-- What a thread comes to. -/
def XenconsThread.holds (t : XenconsThread) (object : Nat) : List (Object × Nat) :=
  [(.threadObject, object), (.thread, t.thread), (.pool, t.block)]

/-- Every step of `ThreadCreate` succeeds. -/
def ThreadOutcome.succeeds (o : ThreadOutcome) : Bool :=
  o.allocated && o.created.ntSuccess && o.referenced.ntSuccess

/-- A thread with all that comes with it, or nothing. -/
def ThreadCreated (o : ThreadOutcome) (h : Heap Object)
    (r : NtStatus × Option XenconsThread × Heap Object) : Prop :=
  if o.succeeds then r.1.ntSuccess = true ∧ ∃ t object, r.2.1 = some t ∧ h.Has (t.holds object) r.2.2
  else r.1.ntSuccess = false ∧ r.2.1 = none ∧ h.Same r.2.2

variable {o : ThreadOutcome} {h h₀ : Heap Object}

theorem threadCreateFail3_same {block thread handle : Nat}
    (hk : h₀.Has [(.threadHandle, handle), (.thread, thread), (.pool, block)] h) :
    h₀.Same (threadCreateFail3 o (.object block) thread handle 2 h) := by
  have hclosed := hk.giveHead
  unfold threadCreateFail3
  cases o.endsFirst with
  | true => exact hclosed.giveHead.giveHead
  | false =>
      have hfreed : h₀.Has [(.thread, thread)]
          ((h.give .threadHandle (.object handle)).give .pool (.object block)) := by
        simpa using hclosed.give (k := .pool) (n := block) (by simp)
      exact hfreed.giveHead

/-- **`ThreadCreate` leaves a thread with its structure, or nothing.** -/
theorem threadCreate_spec (o : ThreadOutcome) (h : Heap Object) :
    ThreadCreated o h (threadCreate o h) := by
  unfold ThreadCreated ThreadOutcome.succeeds threadCreate Heap.allocate
  have hblock : h.Has [(.pool, h.next)] (h.take .pool) := (Heap.Has.refl h).take .pool
  cases o.allocated with
  | false => exact ⟨rfl, rfl, .refl h⟩
  | true =>
      cases hc : o.created.ntSuccess with
      | false => exact ⟨by simpa using hc, rfl, hblock.giveHead⟩
      | true =>
          have hthread := (hblock.take .thread).take .threadHandle
          cases hr : o.referenced.ntSuccess with
          | false => exact ⟨by simpa using hr, rfl, threadCreateFail3_same hthread⟩
          | true =>
              have hobject := (hthread.take .threadObject).give (k := .threadHandle)
                (n := ((h.take .pool).take .thread).next) (by simp)
              refine ⟨rfl, ⟨h.next, (h.take .pool).next⟩,
                (((h.take .pool).take .thread).take .threadHandle).next, rfl, ?_⟩
              simpa [XenconsThread.holds] using hobject

/-- A thread that is created. -/
theorem threadCreate_succeeds (h : Heap Object) (hs : o.succeeds = true) :
    ∃ status t object h', threadCreate o h = (status, some t, h') ∧ status.ntSuccess = true ∧
      h.Has (t.holds object) h' := by
  have hspec := threadCreate_spec o h
  rcases hc : threadCreate o h with ⟨status, t, h'⟩
  rw [hc, ThreadCreated, if_pos hs] at hspec
  obtain ⟨hst, t, object, rfl, hheap⟩ := hspec
  exact ⟨status, t, object, h', rfl, hst, hheap⟩

/-- One that is not. -/
theorem threadCreate_fails (h : Heap Object) (hs : o.succeeds = false) :
    ∃ status h', threadCreate o h = (status, none, h') ∧ status.ntSuccess = false ∧ h.Same h' := by
  have hspec := threadCreate_spec o h
  rcases hc : threadCreate o h with ⟨status, t, h'⟩
  rw [hc, ThreadCreated, if_neg (by simp [hs])] at hspec
  obtain ⟨hst, rfl, hsame⟩ := hspec
  exact ⟨status, h', rfl, hst, hsame⟩

/-- There are only references on thread objects among these. -/
def ThreadObjects (kept : List (Object × Nat)) : Prop := ∀ x ∈ kept, x.1 = .threadObject

theorem ThreadObjects.nil : ThreadObjects [] := fun _ hx => absurd hx List.not_mem_nil

theorem ThreadObjects.notMem {kept : List (Object × Nat)} (hk : ThreadObjects kept) {k : Object}
    (hne : k ≠ .threadObject) (n : Nat) : (k, n) ∉ kept := fun hm => hne (hk _ hm)

/-- **Alerted and joined, a thread and its structure are gone.** The reference on the thread object
    is still there. -/
theorem threadAlertAndJoin_has {t : XenconsThread} {object : Nat}
    {front kept : List (Object × Nat)} (hf : ThreadObjects front)
    (hk : h₀.Has (front ++ (t.holds object ++ kept)) h) :
    h₀.Has (front ++ (.threadObject, object) :: kept) (threadAlertAndJoin t h) := by
  have hsplit : front ++ (t.holds object ++ kept) = (front ++ [(.threadObject, object)]) ++
      (.thread, t.thread) :: (.pool, t.block) :: kept := by
    simp [XenconsThread.holds]
  have hf' : ThreadObjects (front ++ [(.threadObject, object)]) := by
    intro x hx
    rcases List.mem_append.mp hx with hx | hx
    · exact hf x hx
    · rw [List.mem_singleton.mp hx]
  rw [hsplit] at hk
  have hthread := hk.giveBehind (hf'.notMem (k := .thread) nofun t.thread)
  have hpool := hthread.giveBehind (hf'.notMem (k := .pool) nofun t.block)
  rwa [List.append_assoc] at hpool

end Xencons
