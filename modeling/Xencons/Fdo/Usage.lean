import Mathlib.Data.Fintype.Basic
import Mathlib.Data.List.Count
import Mathlib.Logic.Function.Basic
import Xencons.Lib.Transition
import Xencons.Nt

/-!
# Device usage notifications (fdo.c)

For each type of use (paging, hibernation, dump file) the FDO counts the devices below it that are
used so, and while some count is not zero the device may not be disabled. The count is changed
before the lower driver is asked.

* `FdoUsage`, `fdoDeviceUsageNotification`, `fdoQueryPnpDeviceState` -- the code;
* `UsageSys`, `usageSystem` -- notifications one after the other, and which there have been;
* `UsageCounts`, `NotificationRight` -- what each of them is to leave behind;
* `UsageCounted` -- the notifications after which it is so: `notificationRight_iff`, for a single
  one;
* **`usage_right_iff`** -- all of a run's notifications are right just where all are `UsageCounted`.
-/

namespace Xencons

open Lib

/-! ## 1. The code -/

/-- `DeviceUsageTypeDumpFile`, the last of the types there is a count for. `DeviceUsageTypeBoot` and
    those the I/O manager got later are above it. -/
def DeviceUsageTypeDumpFile : Nat := 3

/-- The index of a count, `Usage[DeviceUsageTypeDumpFile + 1]`. -/
abbrev UsageIndex := Fin (DeviceUsageTypeDumpFile + 1)

/-- What the FDO keeps for them. -/
structure FdoUsage where
  usage : UsageIndex → ULONG
  notDisableable : Bool
  /-- `Usage[Type]` was accessed behind the array: what was read and changed there is somebody
      else's -/
  outside : Bool
deriving DecidableEq

/-- The parameters of an `IRP_MN_DEVICE_USAGE_NOTIFICATION`, and what the lower driver makes of
    it. -/
structure UsageNotification where
  type : Nat
  inPath : Bool
  status : NtStatus
deriving DecidableEq

/-- The part before the lower driver is asked. -/
def FdoUsage.change (fdo : FdoUsage) (type : Nat) (inPath : Bool) : FdoUsage :=
  if h : type < DeviceUsageTypeDumpFile + 1 then
    let t : UsageIndex := ⟨type, h⟩
    if inPath then { fdo with usage := Function.update fdo.usage t (fdo.usage t + 1) }
    else if fdo.usage t ≠ 0 then
      { fdo with usage := Function.update fdo.usage t (fdo.usage t - 1) }
    else fdo
  else { fdo with outside := true }

/-- The loop over the counts. -/
def FdoUsage.used (fdo : FdoUsage) : Bool := decide (∃ t, fdo.usage t ≠ 0)

/-- `FdoDeviceUsageNotification`: the status the IRP completes with, whether it calls
    `IoInvalidateDeviceState`, and the FDO as it leaves it. -/
def fdoDeviceUsageNotification (fdo : FdoUsage) (n : UsageNotification) :
    NtStatus × Bool × FdoUsage :=
  let fdo := fdo.change n.type n.inPath
  if n.status.ntSuccess then
    if fdo.notDisableable ≠ fdo.used then (n.status, true, { fdo with notDisableable := fdo.used })
    else (n.status, false, fdo)
  else (n.status, false, fdo)

/-- `PNP_DEVICE_NOT_DISABLEABLE` -/
def PNP_DEVICE_NOT_DISABLEABLE : BitVec 64 := 0x20

/-- `FdoQueryPnpDeviceState`, up to the lower driver: the `IoStatus` it passes on. -/
def fdoQueryPnpDeviceState (fdo : FdoUsage) (status : NtStatus) (information : BitVec 64) :
    NtStatus × BitVec 64 :=
  let answer := fun state : BitVec 64 =>
    (NtStatus.success, if fdo.notDisableable then state ||| PNP_DEVICE_NOT_DISABLEABLE else state)
  if status = .success then answer information
  else if status = .notSupported then answer 0
  else (status, information)

/-! ## 2. Runs of notifications -/

/-- The FDO and the notifications there have been, the last of them first. -/
structure UsageSys where
  fdo : FdoUsage
  seen : List UsageNotification
deriving DecidableEq

/-- As `FdoCreate` leaves it. -/
def UsageSys.initial : UsageSys := ⟨⟨fun _ => 0, false, false⟩, []⟩

/-- The PnP manager may send any of them at any time, one after the other. -/
def usageSystem : System UsageSys UsageNotification where
  enabled _ _ := True
  next s n := ⟨(fdoDeviceUsageNotification s.fdo n).2.2, n :: s.seen⟩

/-- The additions (the removals, for `false`) of a type that the lower driver agreed to. -/
def agreed (inPath : Bool) (t : UsageIndex) (seen : List UsageNotification) : Nat :=
  seen.countP fun n => n.type = t.val ∧ n.inPath = inPath ∧ n.status.ntSuccess

/-- **Each count is the additions less the removals.** -/
def UsageCounts (s : UsageSys) : Prop :=
  ∀ t, ((s.fdo.usage t).toNat : Int) = agreed true t s.seen - agreed false t s.seen

/-- What a notification is to leave behind. -/
structure NotificationRight (s : UsageSys) (n : UsageNotification) : Prop where
  /-- it stays inside the array -/
  inside : (usageSystem.next s n).fdo.outside = false
  /-- where the lower driver fails it, the counts are as before -/
  failed : n.status.ntSuccess = false → (usageSystem.next s n).fdo.usage = s.fdo.usage
  counts : UsageCounts (usageSystem.next s n)
  flag : n.status.ntSuccess = true →
    ((usageSystem.next s n).fdo.notDisableable = true ↔
      ∃ t, (usageSystem.next s n).fdo.usage t ≠ 0)

/-- **Where it does.** There is a count for the type; what the lower driver fails changes no count,
    being a removal at zero; and an addition it agrees to does not come at the last value of a
    `ULONG`, nor a removal at zero. -/
structure UsageCounted (s : UsageSys) (n : UsageNotification) : Prop where
  inside : n.type ≤ DeviceUsageTypeDumpFile
  failed : ∀ t : UsageIndex, t.val = n.type → n.status.ntSuccess = false →
    n.inPath = false ∧ s.fdo.usage t = 0
  added : ∀ t : UsageIndex, t.val = n.type → n.status.ntSuccess = true → n.inPath = true →
    s.fdo.usage t ≠ BitVec.allOnes 32
  removed : ∀ t : UsageIndex, t.val = n.type → n.status.ntSuccess = true → n.inPath = false →
    s.fdo.usage t ≠ 0

/-! ## 3. One notification -/

/-- What the change leaves in the count it is about. -/
def changed (count : ULONG) (inPath : Bool) : ULONG :=
  if inPath then count + 1 else if count ≠ 0 then count - 1 else count

theorem changed_sub {count : ULONG} (h : count ≠ 0) : changed count false = count - 1 := if_pos h

theorem change_inside (fdo : FdoUsage) (t : UsageIndex) (inPath : Bool) :
    fdo.change t.val inPath =
      { fdo with usage := Function.update fdo.usage t (changed (fdo.usage t) inPath) } := by
  unfold FdoUsage.change changed
  rw [dif_pos t.isLt]
  cases inPath with
  | true => rfl
  | false =>
      by_cases h0 : fdo.usage t = 0
      · have hself : Function.update fdo.usage t (fdo.usage t) = fdo.usage :=
          Function.update_eq_self t fdo.usage
        simp only [Bool.false_eq_true, if_false, h0, ne_eq, not_true_eq_false] at hself ⊢
        rw [hself]
      · simp only [Bool.false_eq_true, if_false, ne_eq, h0, not_false_eq_true, if_true]

theorem change_outside {fdo : FdoUsage} {type : Nat} (h : ¬type ≤ DeviceUsageTypeDumpFile)
    (inPath : Bool) : (fdo.change type inPath).outside = true := by
  rw [FdoUsage.change, dif_neg (by omega)]

/-- The lower driver and what comes behind it leave counts and accesses alone. -/
theorem notification_change (fdo : FdoUsage) (n : UsageNotification) :
    (fdoDeviceUsageNotification fdo n).2.2.usage = (fdo.change n.type n.inPath).usage ∧
      (fdoDeviceUsageNotification fdo n).2.2.outside = (fdo.change n.type n.inPath).outside := by
  unfold fdoDeviceUsageNotification
  dsimp only
  split
  · split <;> exact ⟨rfl, rfl⟩
  · exact ⟨rfl, rfl⟩

/-- **Behind a notification that succeeds the flag is what the counts say.** -/
theorem notification_flag (fdo : FdoUsage) {n : UsageNotification}
    (h : n.status.ntSuccess = true) :
    (fdoDeviceUsageNotification fdo n).2.2.notDisableable = true ↔
      ∃ t, (fdoDeviceUsageNotification fdo n).2.2.usage t ≠ 0 := by
  have hflag : (fdoDeviceUsageNotification fdo n).2.2.notDisableable =
      (fdo.change n.type n.inPath).used := by
    unfold fdoDeviceUsageNotification
    dsimp only
    rw [if_pos h]
    split
    · rfl
    · rename_i hsame
      exact not_not.mp hsame
  rw [hflag, (notification_change fdo n).1, FdoUsage.used, decide_eq_true_iff]

/-- Only what the lower driver agreed to is counted. -/
theorem agreed_cons (inPath : Bool) (t : UsageIndex) (n : UsageNotification)
    (seen : List UsageNotification) :
    agreed inPath t (n :: seen) = agreed inPath t seen +
      if n.type = t.val ∧ n.inPath = inPath ∧ n.status.ntSuccess then 1 else 0 := by
  rw [agreed, List.countP_cons, ← agreed]
  simp

/-- By how much a notification is to change its count. -/
def UsageNotification.delta (n : UsageNotification) : Int :=
  if n.status.ntSuccess then (if n.inPath then 1 else -1) else 0

theorem agreed_next (t : UsageIndex) (n : UsageNotification) (seen : List UsageNotification) :
    (agreed true t (n :: seen) - agreed false t (n :: seen) : Int) =
      agreed true t seen - agreed false t seen + if n.type = t.val then n.delta else 0 := by
  rw [agreed_cons, agreed_cons, UsageNotification.delta]
  by_cases ht : n.type = t.val
  · cases n.inPath <;> cases n.status.ntSuccess <;> simp [ht] <;> omega
  · simp [ht]

variable {s : UsageSys} {n : UsageNotification}

theorem usage_next {t : UsageIndex} (ht : t.val = n.type) : (usageSystem.next s n).fdo.usage =
    Function.update s.fdo.usage t (changed (s.fdo.usage t) n.inPath) := by
  show (fdoDeviceUsageNotification s.fdo n).2.2.usage = _
  rw [(notification_change s.fdo n).1, ← ht, change_inside]

theorem outside_next {t : UsageIndex} (ht : t.val = n.type) :
    (usageSystem.next s n).fdo.outside = s.fdo.outside := by
  show (fdoDeviceUsageNotification s.fdo n).2.2.outside = _
  rw [(notification_change s.fdo n).2, ← ht, change_inside]

/-- The counts stay right just where the one it is about changes by that much. -/
theorem counts_next (hc : UsageCounts s) {t : UsageIndex} (ht : t.val = n.type) :
    UsageCounts (usageSystem.next s n) ↔
      ((changed (s.fdo.usage t) n.inPath).toNat : Int) = (s.fdo.usage t).toNat + n.delta := by
  have hseen : (usageSystem.next s n).seen = n :: s.seen := rfl
  unfold UsageCounts
  rw [usage_next ht, hseen]
  constructor
  · intro h
    have ht' := h t
    rw [Function.update_self, agreed_next, if_pos ht.symm, ← hc t] at ht'
    exact ht'
  · intro h t'
    rw [agreed_next, ← hc t']
    by_cases e : t' = t
    · subst e
      rw [Function.update_self, if_pos ht.symm]
      exact h
    · rw [Function.update_of_ne e, if_neg fun h' => e (Fin.ext (h'.symm.trans ht.symm)),
        Int.add_zero]

/-- Adding one does, unless the word is full. -/
theorem changed_add_iff (c : ULONG) :
    ((changed c true).toNat : Int) = c.toNat + 1 ↔ c ≠ BitVec.allOnes 32 := by
  rw [show BitVec.allOnes 32 = 4294967295#32 from rfl]
  show ((c + 1).toNat : Int) = c.toNat + 1 ↔ _
  bv_omega

/-- Taking one away does, unless there is none. -/
theorem changed_sub_iff (c : ULONG) :
    ((changed c false).toNat : Int) = c.toNat + -1 ↔ c ≠ 0 := by
  by_cases h0 : c = 0
  · subst h0
    decide
  · rw [changed_sub h0]
    bv_omega

theorem changed_add_ne (c : ULONG) : changed c true ≠ c := by
  show c + 1 ≠ c
  bv_omega

theorem changed_sub_eq (c : ULONG) : changed c false = c ↔ c = 0 := by
  by_cases h0 : c = 0
  · subst h0
    decide
  · rw [changed_sub h0]
    bv_omega

/-- A notification inside the array is right just where its count changes by what it is to. -/
theorem right_iff_changed (hc : UsageCounts s) (ho : s.fdo.outside = false) {t : UsageIndex}
    (ht : t.val = n.type) :
    NotificationRight s n ↔
      (n.status.ntSuccess = false → changed (s.fdo.usage t) n.inPath = s.fdo.usage t) ∧
        ((changed (s.fdo.usage t) n.inPath).toNat : Int) = (s.fdo.usage t).toNat + n.delta := by
  constructor
  · intro h
    refine ⟨fun hf => ?_, (counts_next hc ht).mp h.counts⟩
    have hsame := congrFun (h.failed hf) t
    rwa [usage_next ht, Function.update_self] at hsame
  · rintro ⟨hf, hd⟩
    refine ⟨(outside_next ht).trans ho, fun h => ?_, (counts_next hc ht).mpr hd,
      fun h => notification_flag s.fdo h⟩
    rw [usage_next ht, hf h, Function.update_eq_self]

theorem counted_iff {t : UsageIndex} (ht : t.val = n.type) :
    UsageCounted s n ↔
      (n.status.ntSuccess = false → n.inPath = false ∧ s.fdo.usage t = 0) ∧
        (n.status.ntSuccess = true → n.inPath = true → s.fdo.usage t ≠ BitVec.allOnes 32) ∧
        (n.status.ntSuccess = true → n.inPath = false → s.fdo.usage t ≠ 0) := by
  have hone : ∀ t' : UsageIndex, t'.val = n.type → t' = t := fun t' h => Fin.ext (h.trans ht.symm)
  constructor
  · intro h
    exact ⟨h.failed t ht, h.added t ht, h.removed t ht⟩
  · rintro ⟨hf, ha, hr⟩
    refine ⟨?_, ?_, ?_, ?_⟩
    · rw [← ht]
      exact Nat.le_of_lt_succ t.isLt
    · rintro t' ht'
      rwa [hone t' ht']
    · rintro t' ht'
      rwa [hone t' ht']
    · rintro t' ht'
      rwa [hone t' ht']

/-- **One notification is right just where it is `UsageCounted`.** -/
theorem notificationRight_iff (hc : UsageCounts s) (ho : s.fdo.outside = false) :
    NotificationRight s n ↔ UsageCounted s n := by
  by_cases htype : n.type ≤ DeviceUsageTypeDumpFile
  · obtain ⟨t, ht⟩ : ∃ t : UsageIndex, t.val = n.type := ⟨⟨n.type, by omega⟩, rfl⟩
    rw [right_iff_changed hc ho ht, counted_iff ht]
    unfold UsageNotification.delta
    generalize s.fdo.usage t = c
    cases n.status.ntSuccess with
    | true =>
        cases n.inPath with
        | true => simpa using changed_add_iff c
        | false => simpa using changed_sub_iff c
    | false =>
        cases n.inPath with
        | true => simp [changed_add_ne c]
        | false =>
            have hkept : changed c false = c → ((changed c false).toNat : Int) = c.toNat :=
              congrArg fun c : ULONG => (c.toNat : Int)
            simpa [changed_sub_eq c] using hkept
  · refine iff_of_false (fun h => ?_) fun h => htype h.inside
    have hout : (usageSystem.next s n).fdo.outside = true :=
      (notification_change s.fdo n).2.trans (change_outside htype n.inPath)
    rw [h.inside] at hout
    exact Bool.false_ne_true hout

/-! ## 4. Runs -/

/-- **In every run, all notifications are right just where all are `UsageCounted`.** -/
theorem usage_right_iff (ns : List UsageNotification) :
    Admits usageSystem NotificationRight .initial ns ↔
      Admits usageSystem UsageCounted .initial ns := by
  refine Admits.congr (I := fun s => UsageCounts s ∧ s.fdo.outside = false)
    ⟨fun _ => rfl, rfl⟩ (fun s n h _ => notificationRight_iff h.1 h.2) ?_ ns
  intro s n _ _ hr
  exact ⟨hr.counts, hr.inside⟩

/-- **What the PnP manager is told behind a notification that is right and succeeds**: not
    disableable just where some type has been added more often than removed. -/
theorem query_next (h : NotificationRight s n) (hs : n.status.ntSuccess = true)
    (information : BitVec 64) :
    (fdoQueryPnpDeviceState (usageSystem.next s n).fdo .notSupported information).2 =
        PNP_DEVICE_NOT_DISABLEABLE ↔
      ∃ t, agreed true t (n :: s.seen) ≠ agreed false t (n :: s.seen) := by
  have hcount : ∀ t, (usageSystem.next s n).fdo.usage t ≠ 0 ↔
      agreed true t (n :: s.seen) ≠ agreed false t (n :: s.seen) := by
    intro t
    have hc := h.counts t
    have hseen : (usageSystem.next s n).seen = n :: s.seen := rfl
    rw [hseen] at hc
    have hzero : (0 : ULONG).toNat = 0 := rfl
    rw [Ne, ← BitVec.toNat_inj, hzero]
    omega
  have hanswer : (fdoQueryPnpDeviceState (usageSystem.next s n).fdo .notSupported information).2 =
      if (usageSystem.next s n).fdo.notDisableable then 0 ||| PNP_DEVICE_NOT_DISABLEABLE else 0 :=
    rfl
  rw [← exists_congr hcount, ← h.flag hs, hanswer]
  cases (usageSystem.next s n).fdo.notDisableable <;> decide

/-- An addition the lower driver fails is counted, and the next one that succeeds leaves the device
    not disableable for it. -/
theorem usage_failed_addition :
    ¬Admits usageSystem NotificationRight .initial [⟨1, true, .unsuccessful⟩] := fun h =>
  absurd (congrFun (h.2.1.failed rfl) 1) (by decide)

end Xencons
