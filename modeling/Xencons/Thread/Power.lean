import Xencons.Lib.Mailbox

/-!
# Power IRPs on their way to the power threads (fdo.c, pdo.c)

`FdoDispatchPower` and `PdoSetPower` leave an IRP in `DevicePowerIrp` or `SystemPowerIrp` and wake a
thread, which takes it from there. Each of these is a mailbox with one slot: the dispatcher is a
sender, `FdoDevicePower`, `FdoSystemPower`, `PdoDevicePower` or `PdoSystemPower` is the receiver,
and a message is finished when its IRP is completed.

* `fdoDispatchPower`, `pdoDispatchPower` -- which IRP goes to which slot;
* `powerHandler` -- what the thread does with it;
* `powerSystem` -- the slots of the FDO and of all the PDOs, with any number of dispatchers;
* `power_irps` -- an IRP that has been stored is processed, once.
-/

namespace Xencons

open Function Lib

/-! ## 1. The IRPs and where they go -/

/-- The minor functions of `IRP_MJ_POWER` -/
inductive PowerMinorFunction where
  | waitWake
  | powerSequence
  | setPower
  | queryPower
deriving DecidableEq

/-- `POWER_STATE_TYPE` -/
inductive PowerStateType where
  | systemPowerState
  | devicePowerState
  /-- any other value -/
  | unknown
deriving DecidableEq

/-- `POWER_ACTION` -/
inductive PowerAction where
  | none
  | reserved
  | sleep
  | hibernate
  | shutdown
  | shutdownReset
  | shutdownOff
  | warmEject
  | displayOff
deriving DecidableEq

/-- `PowerAction >= PowerActionShutdown` -/
def PowerAction.atLeastShutdown : PowerAction → Bool
  | .none | .reserved | .sleep | .hibernate => false
  | .shutdown | .shutdownReset | .shutdownOff | .warmEject | .displayOff => true

/-- A power IRP; `seq` tells one dispatch from another. -/
structure PowerIrp where
  seq : Nat
  minorFunction : PowerMinorFunction
  powerType : PowerStateType
  shutdownType : PowerAction
deriving DecidableEq

/-- The slots of a device object. -/
inductive PowerSlot where
  | devicePowerIrp
  | systemPowerIrp
deriving DecidableEq

/-- The device objects: the FDO and its PDOs. -/
inductive PowerTarget where
  | fdo
  | pdo (i : Nat)
deriving DecidableEq

/-- `switch (PowerType)` -/
def powerSlotOf : PowerStateType → Option PowerSlot
  | .devicePowerState => some .devicePowerIrp
  | .systemPowerState => some .systemPowerIrp
  | .unknown => none

/-- `FdoDispatchPower`: the slot, or `none` for an IRP that goes on to the lower device. -/
def fdoDispatchPower (irp : PowerIrp) : Option PowerSlot :=
  if irp.minorFunction ≠ .queryPower ∧ irp.minorFunction ≠ .setPower then none
  else if irp.shutdownType.atLeastShutdown then none
  else powerSlotOf irp.powerType

/-- `PdoSetPower`: the slot, or `none` for an IRP that is completed at once. -/
def pdoSetPower (irp : PowerIrp) : Option PowerSlot :=
  if irp.shutdownType.atLeastShutdown then none else powerSlotOf irp.powerType

/-- `PdoDispatchPower`; `PdoQueryPower` completes the IRP. -/
def pdoDispatchPower (irp : PowerIrp) : Option PowerSlot :=
  match irp.minorFunction with
  | .setPower => pdoSetPower irp
  | .queryPower => none
  | _ => none

def dispatchPower : PowerTarget → PowerIrp → Option PowerSlot
  | .fdo => fdoDispatchPower
  | .pdo _ => pdoDispatchPower

/-- The functions the threads hand an IRP to. -/
inductive PowerHandler where
  | setDevicePower
  | queryDevicePower
  | setSystemPower
  | querySystemPower
deriving DecidableEq

/-- `switch (StackLocation->MinorFunction)` in `FdoDevicePower` and `FdoSystemPower`, and the call
    in `PdoDevicePower` and `PdoSystemPower`; `none` is `ASSERT(FALSE)`. -/
def powerHandler : PowerTarget → PowerSlot → PowerMinorFunction → Option PowerHandler
  | .fdo, .devicePowerIrp, .setPower => some .setDevicePower
  | .fdo, .devicePowerIrp, .queryPower => some .queryDevicePower
  | .fdo, .systemPowerIrp, .setPower => some .setSystemPower
  | .fdo, .systemPowerIrp, .queryPower => some .querySystemPower
  | .fdo, _, _ => none
  | .pdo _, .devicePowerIrp, _ => some .setDevicePower
  | .pdo _, .systemPowerIrp, _ => some .setSystemPower

/-- Whatever is dispatched to a slot, its thread knows what to do with. -/
theorem powerHandler_isSome {o : PowerTarget} {k : PowerSlot} {irp : PowerIrp}
    (h : dispatchPower o irp = some k) : (powerHandler o k irp.minorFunction).isSome := by
  cases o with
  | pdo i => cases k <;> rfl
  | fdo =>
      simp only [dispatchPower, fdoDispatchPower] at h
      split at h
      · cases h
      · rename_i hminor
        cases hm : irp.minorFunction <;> cases k <;> simp_all [powerHandler]

/-! ## 2. The machine -/

/-- Every slot, with its thread and its dispatchers. -/
abbrev PowerSys := PowerTarget → PowerSlot → Mailbox PowerIrp

inductive PowerLabel where
  /-- dispatcher `t` is called with an IRP -/
  | dispatch (o : PowerTarget) (t : Nat) (irp : PowerIrp)
  | dispatcher (o : PowerTarget) (k : PowerSlot) (t : Nat)
  | thread (o : PowerTarget) (k : PowerSlot)
  /-- an IRP that has been processed is completed -/
  | complete (o : PowerTarget) (k : PowerSlot) (irp : PowerIrp)

namespace PowerSys

/-- The device objects as they are created. -/
def init : PowerSys := fun _ _ => .init

/-- One step at one slot. -/
def onSlot (s : PowerSys) (o : PowerTarget) (k : PowerSlot) (l : MailboxLabel PowerIrp) :
    PowerSys :=
  update s o (update (s o) k ((s o k).next l))

def Enabled (s : PowerSys) : PowerLabel → Prop
  | .dispatch o t irp => ∀ k, dispatchPower o irp = some k → (s o k).Enabled (.send t irp)
  | .dispatcher o k t => (s o k).Enabled (.sender t)
  | .thread o k => (s o k).Enabled .receiver
  | .complete o k irp => (s o k).Enabled (.finish irp)

def next (s : PowerSys) : PowerLabel → PowerSys
  | .dispatch o t irp =>
    match dispatchPower o irp with
    | some k => s.onSlot o k (.send t irp)
    | none => s
  | .dispatcher o k t => s.onSlot o k (.sender t)
  | .thread o k => s.onSlot o k .receiver
  | .complete o k irp => s.onSlot o k (.finish irp)

end PowerSys

/-- **The power IRPs**: any number of dispatchers on every device object, one thread a slot, and a
    power manager that has one IRP a slot outstanding at most. -/
def powerSystem : System PowerSys PowerLabel where
  enabled := PowerSys.Enabled
  next := PowerSys.next

/-! ## 3. Every slot keeps its invariant -/

/-- The invariant, slot by slot: the mailbox's own, and only what belongs there is sent there. -/
structure PowerSlotInv (m : Mailbox PowerIrp) (o : PowerTarget) (k : PowerSlot) : Prop where
  mailbox : m.Inv
  sent : ∀ irp ∈ m.sent, dispatchPower o irp = some k

section Steps

variable {s : PowerSys}

theorem onSlot_inv {o : PowerTarget} {k : PowerSlot} {l : MailboxLabel PowerIrp}
    (h : ∀ o k, PowerSlotInv (s o k) o k) (hl : PowerSlotInv ((s o k).next l) o k) :
    ∀ o' k', PowerSlotInv (s.onSlot o k l o' k') o' k' := by
  intro o' k'
  by_cases ho : o' = o
  · subst ho
    by_cases hk : k' = k
    · subst hk
      simpa [PowerSys.onSlot] using hl
    · simpa [PowerSys.onSlot, hk] using h o' k'
  · simpa [PowerSys.onSlot, ho] using h o' k'

/-- A step that sends nothing keeps a slot's invariant. -/
theorem PowerSlotInv.next {m : Mailbox PowerIrp} {o : PowerTarget} {k : PowerSlot}
    {l : MailboxLabel PowerIrp} (h : PowerSlotInv m o k) (he : m.Enabled l)
    (hsent : (m.next l).sent = m.sent) : PowerSlotInv (m.next l) o k :=
  ⟨Mailbox.inv_next h.mailbox he, fun irp hirp => h.sent irp (hsent ▸ hirp)⟩

theorem power_next {l : PowerLabel} (h : ∀ o k, PowerSlotInv (s o k) o k) (he : s.Enabled l) :
    ∀ o k, PowerSlotInv (s.next l o k) o k := by
  cases l with
  | dispatch o t irp =>
      simp only [PowerSys.next]
      cases hk : dispatchPower o irp with
      | none => exact h
      | some k =>
          refine onSlot_inv h ⟨Mailbox.inv_next (h o k).mailbox (he k hk), fun x hx => ?_⟩
          rcases List.mem_append.mp hx with hx | hx
          · exact (h o k).sent x hx
          · exact List.mem_singleton.mp hx ▸ hk
  | dispatcher o k t => exact onSlot_inv h ((h o k).next he (Mailbox.senderNext_sent t))
  | thread o k => exact onSlot_inv h ((h o k).next he Mailbox.receiverNext_sent)
  | complete o k irp => exact onSlot_inv h ((h o k).next he rfl)

end Steps

theorem power_init (o : PowerTarget) (k : PowerSlot) : PowerSlotInv (PowerSys.init o k) o k :=
  ⟨Mailbox.inv_init, fun _ h => absurd h List.not_mem_nil⟩

theorem reach_power {s : PowerSys} {P : PowerSys → PowerLabel → Prop}
    (h : Reach powerSystem P .init s) (o : PowerTarget) (k : PowerSlot) :
    PowerSlotInv (s o k) o k :=
  h.invariant (I := fun s => ∀ o k, PowerSlotInv (s o k) o k) power_init
    (fun s _ hs he _ => power_next (s := s) hs he) o k

/-- What the receiver of one slot does on its own, its thread does in the whole. -/
theorem reach_thread {s : PowerSys} {o : PowerTarget} {k : PowerSlot} {m : Mailbox PowerIrp}
    (h : Reach (mailbox PowerIrp) (fun _ l => l = .receiver) (s o k) m) :
    ∃ s', Reach powerSystem (fun _ l => l = .thread o k) s s' ∧ s' o k = m := by
  induction h with
  | start => exact ⟨s, .start, rfl⟩
  | step l _ he hl ih =>
      obtain ⟨s', hs', rfl⟩ := ih
      cases hl
      exact ⟨_, .step (S := powerSystem) (.thread o k) hs' he rfl, by
        simp [powerSystem, PowerSys.next, PowerSys.onSlot, mailbox]⟩

/-! ## 4. What becomes of an IRP -/

/-- **Every power IRP that is stored is processed, once.** A dispatcher finds its slot empty when it
    asserts so and when it stores; what has been stored has been processed, but for what is in the
    slot or in the thread's hands, and the thread knows what to do with it; a slot is full while its
    thread is blocked only until a dispatcher that has stored wakes it; and apart from that the
    thread on its own processes all that is stored. -/
theorem power_irps {s : PowerSys} (h : Reach powerSystem (fun _ _ => True) .init s)
    (o : PowerTarget) (k : PowerSlot) :
    (∀ t, (s o k).sender t ≠ .failed) ∧
    (∀ t irp, (s o k).sender t = .check irp ∨ (s o k).sender t = .store irp →
      (s o k).slot = none) ∧
    (s o k).stored.Nodup ∧
    (s o k).stored = (s o k).handled ++ (s o k).receiver.holds.toList ++ (s o k).slot.toList ∧
    (∀ irp ∈ (s o k).stored, dispatchPower o irp = some k ∧
      (powerHandler o k irp.minorFunction).isSome) ∧
    ((s o k).slot ≠ none → (s o k).Blocked → (s o k).Waking) ∧
    (¬(s o k).Waking → ∃ s', Reach powerSystem (fun _ l => l = .thread o k) s s' ∧
      (s' o k).handled = (s o k).stored) := by
  have hinv := (reach_power h o k).mailbox
  refine ⟨hinv.failed, fun t irp ht => hinv.slot_empty ht, hinv.stored_nodup, hinv.stored_eq,
    fun irp hirp => ?_, hinv.waking, fun hw => ?_⟩
  · have hk := (reach_power h o k).sent irp (hinv.stored_sent hirp)
    exact ⟨hk, powerHandler_isSome hk⟩
  · obtain ⟨m, hm, hall⟩ := Mailbox.handles_all hinv hw
    obtain ⟨s', hs', rfl⟩ := reach_thread hm
    exact ⟨s', hs', hall⟩

/-- `FdoDevicePower` waits; `FdoDispatchPower` stores an IRP and has not woken it yet. -/
def storedNotWoken : List PowerLabel :=
  [.thread .fdo .devicePowerIrp, .dispatch .fdo 0 ⟨0, .setPower, .devicePowerState, .sleep⟩,
    .dispatcher .fdo .devicePowerIrp 0, .dispatcher .fdo .devicePowerIrp 0]

theorem reach_storedNotWoken : Reach powerSystem (fun _ _ => True) .init
    (runs powerSystem .init storedNotWoken) :=
  .of_admits _ .start ⟨nofun, trivial,
    fun k hk => by cases hk; exact ⟨rfl, nofun, nofun⟩, trivial, ⟨nofun, nofun⟩, trivial,
    ⟨nofun, nofun⟩, trivial, trivial⟩

theorem power_irps_storedNotWoken :
    (runs powerSystem .init storedNotWoken .fdo .devicePowerIrp).Waking :=
  (power_irps (reach_storedNotWoken) .fdo .devicePowerIrp).2.2.2.2.2.1 nofun ⟨rfl, rfl⟩

/-- Until it is woken, a thread is blocked although its slot is full. -/
theorem blocked_with_full_slot : ∃ s, Reach powerSystem (fun _ _ => True) .init s ∧
    (s .fdo .devicePowerIrp).slot ≠ none ∧ (s .fdo .devicePowerIrp).Blocked :=
  ⟨_, reach_storedNotWoken, nofun, rfl, rfl⟩

end Xencons
