import Xencons.Thread.Create

/-!
# An open of the default console that fails (console.c, stream.c)

`ConsoleOpen` makes a handle, the handle a stream and the stream a thread, each through an
out-parameter of the one above. Where `StreamCreate` fails, `__ConsoleCreateHandle` frees `Handle`,
which is the address of its caller's variable, and not `*Handle`, which is what it allocated.

* `streamCreate`, `consoleCreateHandle`, `consoleOpen` -- the code;
* `streamCreate_spec` -- a stream with all that comes with it, or nothing;
* `ChangesNothing` -- what a failing open is to leave;
* **`consoleOpen_changes_nothing_iff`** -- it leaves that just where the handle itself could not be
  allocated.
-/

namespace Xencons

open Lib

/-! ## 1. The code -/

/-- What `StreamCreate` meets. -/
structure StreamOutcome where
  /-- `__StreamAllocate` -/
  allocated : Bool
  /-- `IoCsqInitializeEx` -/
  csq : NtStatus
  thread : ThreadOutcome

/-- What `ConsoleOpen` meets. -/
structure OpenOutcome where
  /-- `__ConsoleAllocate` -/
  allocated : Bool
  stream : StreamOutcome

/-- `XENCONS_CONSOLE`, its list of handles, and what is live. -/
structure ConsoleHeap where
  heap : Heap Object
  handles : List (Pointer × FileObject)

/-- `StreamCreate`: the status, `*Stream`, which a failure leaves pointing where the stream was, and
    the heap. -/
def streamCreate (o : StreamOutcome) (h : Heap Object) : NtStatus × Pointer × Heap Object :=
  let (stream, h) := h.allocate .pool o.allocated
  if stream = .null then (.noMemory, stream, h)
  else if !o.csq.ntSuccess then (o.csq, stream, h.give .pool stream)
  else
    let (status, _, h) := threadCreate o.thread h
    if !status.ntSuccess then (status, stream, h.give .pool stream)
    else (.success, stream, h)

/-- `__ConsoleCreateHandle`: the status, `*Handle` and the heap. -/
def consoleCreateHandle (o : OpenOutcome) (h : Heap Object) : NtStatus × Pointer × Heap Object :=
  let (handle, h) := h.allocate .pool o.allocated
  if handle = .null then (.noMemory, handle, h)
  else
    let (status, _, h) := streamCreate o.stream h
    -- __ConsoleFree(Handle): a PCONSOLE_HANDLE *, and so where ConsoleOpen keeps the handle
    if !status.ntSuccess then (status, handle, h.give .pool .variable)
    else (.success, handle, h)

/-- `ConsoleOpen` -/
def consoleOpen (o : OpenOutcome) (file : FileObject) (s : ConsoleHeap) : NtStatus × ConsoleHeap :=
  let (status, handle, h) := consoleCreateHandle o s.heap
  if !status.ntSuccess then (status, { s with heap := h })
  else (.success, ⟨h, s.handles ++ [(handle, file)]⟩)

/-! ## 2. What it leaves -/

/-- Every step of `StreamCreate` succeeds. -/
def StreamOutcome.succeeds (o : StreamOutcome) : Bool :=
  o.allocated && o.csq.ntSuccess && o.thread.succeeds

variable {o : StreamOutcome} {h : Heap Object}

/-- **`StreamCreate` undoes its own work**, and fails where a step of it does. -/
theorem streamCreate_spec (o : StreamOutcome) (h : Heap Object) :
    (streamCreate o h).1.ntSuccess = o.succeeds ∧
      (o.succeeds = false → h.Same (streamCreate o h).2.2) := by
  unfold streamCreate StreamOutcome.succeeds Heap.allocate
  have hstream : h.Has [(.pool, h.next)] (h.take .pool) := (Heap.Has.refl h).take .pool
  cases o.allocated with
  | false => exact ⟨rfl, fun _ => .refl h⟩
  | true =>
      cases hcsq : o.csq.ntSuccess with
      | false => exact ⟨by simpa using hcsq, fun _ => hstream.giveHead⟩
      | true =>
          simp only [if_true, reduceCtorEq, if_false, Bool.not_true, Bool.false_eq_true]
          cases hs : o.thread.succeeds with
          | true =>
              obtain ⟨status, t, object, h₁, hc, hst, -⟩ :=
                threadCreate_succeeds (h.take .pool) hs
              rw [hc]
              simp [hst]
          | false =>
              obtain ⟨status, h₁, hc, hst, hsame⟩ := threadCreate_fails (h.take .pool) hs
              have hback := (hstream.trans hsame).giveHead
              rw [hc]
              simpa [hst] using hback

/-- **`__ConsoleCreateHandle` undoes nothing** of what it has done when `StreamCreate` fails. -/
theorem consoleCreateHandle_spec (o : OpenOutcome) (h : Heap Object) :
    (consoleCreateHandle o h).1.ntSuccess = (o.allocated && o.stream.succeeds) ∧
      (o.allocated = false → h.Same (consoleCreateHandle o h).2.2) ∧
      (o.allocated = true → o.stream.succeeds = false →
        (.pool, h.next) ∈ (consoleCreateHandle o h).2.2.live ∧
        (consoleCreateHandle o h).2.2.astray = (.pool, .variable) :: h.astray) := by
  unfold consoleCreateHandle Heap.allocate
  cases o.allocated with
  | false => exact ⟨rfl, fun _ => .refl h, nofun⟩
  | true =>
      have hstream := streamCreate_spec o.stream (h.take .pool)
      simp only [if_true, reduceCtorEq, if_false]
      revert hstream
      generalize streamCreate o.stream (h.take .pool) = r
      obtain ⟨status, stream, h₁⟩ := r
      rintro ⟨hst : status.ntSuccess = o.stream.succeeds, hsame⟩
      cases hsucc : o.stream.succeeds with
      | true =>
          rw [hsucc] at hst
          simp [hst]
      | false =>
          rw [hsucc] at hst
          have hhandle := ((Heap.Has.refl h).take .pool).trans (hsame hsucc)
          have hlive := hhandle.mem_live (k := .pool) (n := h.next) (by simp)
          simp only [hst, Bool.not_false, if_true, Bool.and_false]
          exact ⟨trivial, nofun, fun _ _ => ⟨hlive, congrArg _ hhandle.astray⟩⟩

/-- **What a failing open is to leave**: the list of handles and what is live as they were, with
    nothing freed that was not allocated. -/
structure ChangesNothing (s s' : ConsoleHeap) : Prop where
  handles : s'.handles = s.handles
  heap : s.heap.Same s'.heap

/-- An open succeeds where every step of it does. -/
theorem consoleOpen_success (o : OpenOutcome) (file : FileObject) (s : ConsoleHeap) :
    (consoleOpen o file s).1.ntSuccess = (o.allocated && o.stream.succeeds) := by
  have hcreate := (consoleCreateHandle_spec o s.heap).1
  unfold consoleOpen
  cases hst : (consoleCreateHandle o s.heap).1.ntSuccess with
  | true =>
      rw [hst] at hcreate
      simpa [hst] using hcreate
  | false =>
      rw [hst] at hcreate
      simpa [hst] using hcreate

/-- **A failing open changes nothing just where it fails for want of a handle.** -/
theorem consoleOpen_changes_nothing_iff {o : OpenOutcome} {file : FileObject} {s : ConsoleHeap}
    (hf : (consoleOpen o file s).1.ntSuccess = false) :
    ChangesNothing s (consoleOpen o file s).2 ↔ o.allocated = false := by
  have hsucc := hf
  rw [consoleOpen_success] at hsucc
  obtain ⟨hst, hsame, hlost⟩ := consoleCreateHandle_spec o s.heap
  have hheap : (consoleOpen o file s).2 = { s with heap := (consoleCreateHandle o s.heap).2.2 } := by
    unfold consoleOpen
    rw [hsucc] at hst
    simp [hst]
  rw [hheap]
  constructor
  · intro h
    by_contra ha
    rw [Bool.not_eq_false] at ha
    rw [ha, Bool.true_and] at hsucc
    have hastray := (hlost ha hsucc).2.symm.trans h.heap.astray
    exact absurd hastray (List.cons_ne_self _ _)
  · intro ha
    exact ⟨rfl, hsame ha⟩

/-- The console with nobody at it. -/
def ConsoleHeap.created : ConsoleHeap := ⟨.empty, []⟩

/-- No handle can be allocated. -/
def noHandle : OpenOutcome := ⟨false, true, .success, true, .success, .success, false⟩

theorem consoleOpen_noHandle :
    ChangesNothing .created (consoleOpen noHandle 0 .created).2 ↔ noHandle.allocated = false :=
  consoleOpen_changes_nothing_iff rfl

/-- No stream can be allocated. -/
def noStream : OpenOutcome := ⟨true, false, .success, true, .success, .success, false⟩

/-- With a handle and no stream the handle stays, and a variable of `ConsoleOpen` is freed. -/
theorem consoleOpen_noStream :
    (consoleOpen noStream 0 .created).1.ntSuccess = false ∧
      ¬ChangesNothing .created (consoleOpen noStream 0 .created).2 :=
  ⟨rfl, fun h => absurd h.heap.live (by decide)⟩

end Xencons
