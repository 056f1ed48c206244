import Xencons.Ring.Shared

/-!
# Read and write requests, and the cancel-safe queues that hold them (ring.c)

An IRP is what ring.c reads of it: the major function, the file object, the length and the system
buffer the I/O manager allocated for that length. `seq` is the identity of the request -- the place
it has among all requests put on the ring, so an IRP that is used again is another request.

A queue (`XENCONS_QUEUE`) is its list, head first. `RingCsqInsertIrpEx` puts at the tail, or at the
head where the DPC puts back what it took off; `RingCsqPeekNextIrp` looks for a file object.
`IoCsqRemoveNextIrp` is the documented use of these callbacks under the queue's lock.
-/

namespace Xencons

open Lib

/-- The two major functions `FrontendAbiPutQueue` hands to the ring, and the queue each goes to. -/
inductive MajorFunction where
  | read
  | write
deriving DecidableEq, Repr

/-- A read or write request. -/
structure Irp where
  seq : Nat
  major : MajorFunction
  fileObject : FileObject
  /-- `Parameters.Read.Length`, `Parameters.Write.Length` -/
  length : ULONG
  /-- `AssociatedIrp.SystemBuffer` -/
  systemBuffer : List UInt8
  /-- The I/O manager allocates the buffer for the length (`DO_BUFFERED_IO`). -/
  size : systemBuffer.length = length.toNat
deriving DecidableEq

/-- The request with other bytes in its buffer. -/
def Irp.setBuffer (irp : Irp) (data : List UInt8) (h : data.length = irp.systemBuffer.length) :
    Irp :=
  { irp with systemBuffer := data, size := h.trans irp.size }

theorem Irp.setBuffer_self (irp : Irp) (h : irp.systemBuffer.length = irp.systemBuffer.length) :
    irp.setBuffer irp.systemBuffer h = irp := rfl

/-- A request for one byte. -/
def Irp.oneByte (seq : Nat) (major : MajorFunction) (fileObject : FileObject) (b : UInt8) : Irp :=
  ⟨seq, major, fileObject, 1, [b], rfl⟩

/-! ## 1. The queue callbacks -/

/-- `RingCsqInsertIrpEx`. It always answers `STATUS_PENDING`. -/
def ringCsqInsertIrpEx (list : List Irp) (irp : Irp) (reInsert : Bool) : NtStatus × List Irp :=
  -- re-insertion: the DPC took the IRP off the queue and found the console blocked
  if reInsert then (.pending, irp :: list) else (.pending, list ++ [irp])

/-- `RingCsqRemoveIrp`. -/
def ringCsqRemoveIrp (list : List Irp) (irp : Irp) : List Irp :=
  list.eraseP fun other : Irp => other.seq == irp.seq

/-- What `RingCsqPeekNextIrp` accepts: anything, or the requests of one file. -/
def peekMatches (peekContext : Option FileObject) (irp : Irp) : Bool :=
  peekContext.all fun file => irp.fileObject == file

/-- `RingCsqPeekNextIrp`: the next accepted request behind `irp`, or from the head on. -/
def ringCsqPeekNextIrp (list : List Irp) (irp : Option Irp) (peekContext : Option FileObject) :
    Option Irp :=
  let rest := match irp with
    | none => list
    | some irp => (list.dropWhile fun other : Irp => other.seq != irp.seq).drop 1
  rest.find? (peekMatches peekContext)

/-- `IoCsqRemoveNextIrp`: peek from the head and remove, one step under the queue's lock. -/
def ioCsqRemoveNextIrp (list : List Irp) (peekContext : Option FileObject) :
    Option (Irp × List Irp) :=
  (ringCsqPeekNextIrp list none peekContext).map fun irp => (irp, ringCsqRemoveIrp list irp)

/-! ## 2. What they do -/

@[simp] theorem ringCsqInsertIrpEx_status (list : List Irp) (irp : Irp) (reInsert : Bool) :
    (ringCsqInsertIrpEx list irp reInsert).1 = .pending := by
  cases reInsert <;> rfl

@[simp] theorem peekMatches_none (irp : Irp) : peekMatches none irp = true := rfl

@[simp] theorem peekMatches_some (file : FileObject) (irp : Irp) :
    peekMatches (some file) irp = true ↔ irp.fileObject = file := by
  simp [peekMatches]

theorem ringCsqRemoveIrp_sublist (list : List Irp) (irp : Irp) :
    (ringCsqRemoveIrp list irp).Sublist list :=
  List.eraseP_sublist

/-- With no context the head goes. -/
@[simp] theorem ioCsqRemoveNextIrp_none (list : List Irp) :
    ioCsqRemoveNextIrp list none = match list with
      | [] => none
      | irp :: rest => some (irp, rest) := by
  cases list with
  | nil => rfl
  | cons irp rest => simp [ioCsqRemoveNextIrp, ringCsqPeekNextIrp, ringCsqRemoveIrp]

/-- **Nothing accepted is in the queue where `IoCsqRemoveNextIrp` finds nothing.** -/
theorem ioCsqRemoveNextIrp_eq_none {list : List Irp} {ctx : Option FileObject}
    (h : ioCsqRemoveNextIrp list ctx = none) : ∀ irp ∈ list, peekMatches ctx irp = false := by
  intro irp hirp
  have hfind : list.find? (peekMatches ctx) = none := by
    simpa [ioCsqRemoveNextIrp, ringCsqPeekNextIrp] using h
  simpa using List.find?_eq_none.mp hfind irp hirp

/-- What it finds was in the queue and accepted; the rest is what a removal leaves. -/
theorem ioCsqRemoveNextIrp_eq_some {list rest : List Irp} {ctx : Option FileObject} {irp : Irp}
    (h : ioCsqRemoveNextIrp list ctx = some (irp, rest)) :
    irp ∈ list ∧ peekMatches ctx irp = true ∧ rest = ringCsqRemoveIrp list irp := by
  simp only [ioCsqRemoveNextIrp, ringCsqPeekNextIrp, Option.map_eq_some_iff, Prod.mk.injEq] at h
  obtain ⟨found, hfind, rfl, rfl⟩ := h
  exact ⟨List.mem_of_find?_eq_some hfind, List.find?_some hfind, rfl⟩

/-- Where identities differ, a removal takes out that request and no other. -/
theorem perm_ringCsqRemoveIrp {list : List Irp} {irp : Irp} (hn : (list.map Irp.seq).Nodup)
    (hmem : irp ∈ list) : list.Perm (irp :: ringCsqRemoveIrp list irp) := by
  induction list with
  | nil => exact absurd hmem List.not_mem_nil
  | cons head tail ih =>
      rw [List.map_cons, List.nodup_cons] at hn
      by_cases he : head.seq = irp.seq
      · have hhead : irp = head := by
          rcases List.mem_cons.mp hmem with h | h
          · exact h
          · exact absurd (he ▸ List.mem_map_of_mem h) hn.1
        rw [ringCsqRemoveIrp, List.eraseP_cons_of_pos (by simpa using he), hhead]
      · have htail : irp ∈ tail := by
          rcases List.mem_cons.mp hmem with h | h
          · exact absurd (congrArg Irp.seq h.symm) he
          · exact h
        rw [ringCsqRemoveIrp, List.eraseP_cons_of_neg (by simpa using he)]
        exact ((ih hn.2 htail).cons head).trans (List.Perm.swap irp head _)

end Xencons
