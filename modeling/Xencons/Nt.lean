import Mathlib.Order.Defs.LinearOrder

/-!
# Kernel types the driver is written in

`ULONG` and the ring indices are 32-bit words that wrap. `NTSTATUS` codes are an enumeration: the
driver compares a status with a named code or asks `NT_SUCCESS`, and does nothing else with it.
-/

namespace Xencons

/-- `ULONG`, `uint32_t`. -/
abbrev ULONG := BitVec 32

/-- `__min(a, b)` on unsigned words. -/
def ulongMin (a b : ULONG) : ULONG := if a < b then a else b

@[simp] theorem toNat_ulongMin (a b : ULONG) : (ulongMin a b).toNat = min a.toNat b.toNat := by
  unfold ulongMin
  split
  · rename_i h
    rw [BitVec.lt_def] at h
    omega
  · rename_i h
    rw [BitVec.lt_def] at h
    omega

/-- The status codes the driver returns or tests for. -/
inductive NtStatus where
  | success
  | pending
  | cancelled
  | unsuccessful
  | noMemory
  | notSupported
  | retry
deriving DecidableEq, Repr

/-- `NT_SUCCESS`: `STATUS_PENDING` (0x103) counts as success, every other code here but
    `STATUS_SUCCESS` is an error. -/
def NtStatus.ntSuccess : NtStatus → Bool
  | .success | .pending => true
  | _ => false

/-- A `PFILE_OBJECT`, compared by address. -/
abbrev FileObject := Nat

end Xencons
