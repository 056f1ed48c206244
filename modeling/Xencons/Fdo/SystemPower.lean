import Xencons.Fdo.Holding
import Xencons.Lib.Crossing
import Xencons.Thread.Power

/-!
# The system goes to sleep and wakes up (fdo.c, pdo.c)

A system power IRP makes its thread ask the power manager for a device power IRP and wait until that
one has been completed: on the way up when the lower driver is through with its own, on the way down
before the lower driver gets it. A system that goes to hibernation, or comes back, does so by way of
S3, and a hook asserts from where it is called.

* `PowerEvent`, `SystemPower` -- what is done for an IRP, and what a device knows of its power;
* `fdoSetSystemPower`, `fdoQuerySystemPower`, `pdoSetSystemPower` -- what the threads do;
* `fdoSystemPower`, `pdoSystemPower` -- any IRPs one after the other, and anything else that comes
  to the device between them or while a thread waits;
* `FdoCourse`, `PdoCourse` -- how an IRP may go: `fdoSetSystemPower_spec` and its companions;
* **`fdo_system_power`**, **`pdo_system_power`** -- what holds of every run of them.
-/

namespace Xencons

open Lib Proc

/-! ## 1. States, and what is done for an IRP -/

/-- `SYSTEM_POWER_STATE`; `PowerSystemMaximum` is none. -/
inductive SystemPowerState where
  | unspecified
  | working
  | sleeping1
  | sleeping2
  | sleeping3
  | hibernate
  | shutdown
deriving DecidableEq

def SystemPowerState.ordinal : SystemPowerState → Nat
  | .unspecified => 0
  | .working => 1
  | .sleeping1 => 2
  | .sleeping2 => 3
  | .sleeping3 => 4
  | .hibernate => 5
  | .shutdown => 6

/-- From hibernation on. -/
def SystemPowerState.deep (state : SystemPowerState) : Bool :=
  decide (SystemPowerState.hibernate.ordinal ≤ state.ordinal)

/-- One thing that is done for a system power IRP. -/
inductive PowerEvent where
  /-- the lower driver gets it, and gives it back -/
  | forwarded
  /-- the lower driver gets it for good -/
  | passed
  | completed (status : NtStatus)
  /-- a device power IRP has been asked for and completed -/
  | requested (minor : PowerMinorFunction) (state : RequestedPowerState)
  /-- the hooks, with the system power state that they find -/
  | s4ToS3 (found : SystemPowerState)
  | s3ToS4 (found : SystemPowerState)
deriving DecidableEq

/-- The IRP is somebody else's from here on. -/
def PowerEvent.leaves : PowerEvent → Bool
  | .passed | .completed _ => true
  | _ => false

def PowerEvent.isHook : PowerEvent → Bool
  | .s4ToS3 _ | .s3ToS4 _ => true
  | _ => false

def PowerEvent.isRequest : PowerEvent → Bool
  | .requested _ _ => true
  | _ => false

/-- The IRP has failed. -/
def PowerEvent.refuses : PowerEvent → Bool
  | .completed status => !status.ntSuccess
  | _ => false

/-- A device, its `Dx->SystemPowerState`, and what has been done for the IRP at hand. -/
structure SystemPower (δ : Type) where
  device : δ
  systemPowerState : SystemPowerState
  events : List PowerEvent

/-- What the lower driver answers, how the device power IRP turns out, and what else comes to the
    device before and behind it. -/
structure SystemAnswer (ℓ : Type) where
  status : NtStatus
  tape : Nat → PowerAnswer
  before : List ℓ
  after : List ℓ

/-- The device behind all that. -/
def SystemAnswer.around {δ ℓ : Type} (a : SystemAnswer ℓ) (next : δ → ℓ → δ) (g : δ → δ) (d : δ) :
    δ := a.after.foldl next (g (a.before.foldl next d))

/-! ## 2. What the two threads have in common -/

/-- A program for a system power IRP. -/
abbrev OnSystemPower (δ ℓ α : Type) := Proc (SystemAnswer ℓ) (SystemPower δ) α

section Common

variable {δ ℓ : Type}

def note (e : PowerEvent) : OnSystemPower δ ℓ Unit :=
  modify fun s => { s with events := s.events ++ [e] }

/-- `__FdoSetSystemPowerState`, `__PdoSetSystemPowerState` -/
def setSystemPowerState (state : SystemPowerState) : OnSystemPower δ ℓ Unit :=
  modify fun s => { s with systemPowerState := state }

/-- `IoCompleteRequest` -/
def completeIrp (status : NtStatus) : OnSystemPower δ ℓ NtStatus := do
  note (.completed status)
  return status

/-- `IoSkipCurrentIrpStackLocation` and `IoCallDriver`. -/
def passDown : OnSystemPower δ ℓ NtStatus := do
  note .passed
  let a ← ask
  return a.status

/-- `FdoForwardIrpSynchronously` -/
def forwardIrpSynchronously (next : δ → ℓ → δ) : OnSystemPower δ ℓ NtStatus := do
  note .forwarded
  let a ← ask
  modify fun s => { s with device := a.around next id s.device }
  return a.status

/-- `FdoS4ToS3`, `PdoS4ToS3` -/
def s4ToS3 : OnSystemPower δ ℓ Unit := do
  let s ← get
  note (.s4ToS3 s.systemPowerState)
  setSystemPowerState .sleeping3

/-- `FdoS3ToS4`, `PdoS3ToS4` -/
def s3ToS4 : OnSystemPower δ ℓ Unit := do
  let s ← get
  note (.s3ToS4 s.systemPowerState)
  setSystemPowerState .hibernate

/-- The way out of hibernation, if it is one. -/
def leaveHibernate (state : SystemPowerState) : OnSystemPower δ ℓ Unit := do
  let s ← get
  if state.ordinal < SystemPowerState.hibernate.ordinal ∧
      SystemPowerState.hibernate.ordinal ≤ s.systemPowerState.ordinal then
    setSystemPowerState .hibernate
    s4ToS3

/-- The way into hibernation, if it is one. -/
def enterHibernate (state : SystemPowerState) : OnSystemPower δ ℓ Unit := do
  let s ← get
  if SystemPowerState.hibernate.ordinal ≤ state.ordinal ∧
      s.systemPowerState.ordinal < SystemPowerState.hibernate.ordinal then
    setSystemPowerState .sleeping3
    s3ToS4

/-- `FdoRequestSetDevicePower`, `PdoRequestSetDevicePower`: `setDevice` is what the other thread
    does. -/
def requestSetDevicePower (next : δ → ℓ → δ)
    (setDevice : RequestedPowerState → (Nat → PowerAnswer) → δ → δ) (state : RequestedPowerState) :
    OnSystemPower δ ℓ Unit := do
  note (.requested .setPower state)
  let a ← ask
  modify fun s => { s with device := a.around next (setDevice state a.tape) s.device }

/-- `FdoRequestQueryDevicePower`; the other thread leaves the device as it is. -/
def requestQueryDevicePower (next : δ → ℓ → δ) (state : RequestedPowerState) :
    OnSystemPower δ ℓ Unit := do
  note (.requested .queryPower state)
  let a ← ask
  modify fun s => { s with device := a.around next id s.device }

end Common

/-! ## 3. The FDO -/

/-- The FDO with its bus, and `LowerDeviceCapabilities.DeviceState`. -/
structure FdoPower where
  bus : PowerBus
  deviceStates : SystemPowerState → RequestedPowerState

/-- What else comes to it. -/
inductive FdoPowerLabel where
  | bus (l : DeviceLabel)
  /-- the lower driver has answered with these capabilities -/
  | queryCapabilities (status : NtStatus) (deviceStates : SystemPowerState → RequestedPowerState)

namespace FdoPower

/-- `FdoQueryCapabilities` -/
def queryCapabilities (d : FdoPower) (status : NtStatus)
    (deviceStates : SystemPowerState → RequestedPowerState) : FdoPower :=
  if !status.ntSuccess then d else { d with deviceStates := deviceStates }

def next (d : FdoPower) : FdoPowerLabel → FdoPower
  | .bus l => { d with bus := deviceNext d.bus l }
  | .queryCapabilities status deviceStates => d.queryCapabilities status deviceStates

/-- `FdoDevicePower`, with an `IRP_MN_SET_POWER`. -/
def setDevice (state : RequestedPowerState) (tape : Nat → PowerAnswer) (d : FdoPower) : FdoPower :=
  { d with bus := d.bus.behind (.setDevicePower state) tape }

end FdoPower

abbrev OnFdoPower (α : Type) := OnSystemPower FdoPower FdoPowerLabel α

/-- `__FdoSetSystemPowerUp` -/
def fdoSetSystemPowerUp (state : SystemPowerState) : OnFdoPower NtStatus := do
  let status ← forwardIrpSynchronously FdoPower.next
  if !status.ntSuccess then return ← completeIrp status
  leaveHibernate state
  setSystemPowerState state
  let s ← get
  requestSetDevicePower FdoPower.next FdoPower.setDevice (s.device.deviceStates state)
  completeIrp status

/-- `__FdoSetSystemPowerDown` -/
def fdoSetSystemPowerDown (state : SystemPowerState) : OnFdoPower NtStatus := do
  let s ← get
  requestSetDevicePower FdoPower.next FdoPower.setDevice (s.device.deviceStates state)
  enterHibernate state
  setSystemPowerState state
  passDown

/-- `__FdoSetSystemPower` -/
def fdoSetSystemPower (state : SystemPowerState) : OnFdoPower NtStatus := do
  let s ← get
  if state = s.systemPowerState then passDown
  else if state.ordinal < s.systemPowerState.ordinal then fdoSetSystemPowerUp state
  else fdoSetSystemPowerDown state

/-- `__FdoQuerySystemPowerUp` -/
def fdoQuerySystemPowerUp (state : SystemPowerState) : OnFdoPower NtStatus := do
  let status ← forwardIrpSynchronously FdoPower.next
  if !status.ntSuccess then return ← completeIrp status
  let s ← get
  requestQueryDevicePower FdoPower.next (s.device.deviceStates state)
  completeIrp status

/-- `__FdoQuerySystemPowerDown` -/
def fdoQuerySystemPowerDown (state : SystemPowerState) : OnFdoPower NtStatus := do
  let s ← get
  requestQueryDevicePower FdoPower.next (s.device.deviceStates state)
  passDown

/-- `__FdoQuerySystemPower` -/
def fdoQuerySystemPower (state : SystemPowerState) : OnFdoPower NtStatus := do
  let s ← get
  if state = s.systemPowerState then passDown
  else if state.ordinal < s.systemPowerState.ordinal then fdoQuerySystemPowerUp state
  else fdoQuerySystemPowerDown state

/-! ## 4. A PDO -/

/-- What else comes to a PDO. -/
abbrev PdoPowerLabel := PdoPowerOp × (Nat → PowerAnswer)

namespace PdoDevice

/-- A PDO that a power IRP is for is not destroyed. -/
def next (p : PdoDevice) (l : PdoPowerLabel) : PdoDevice := (p.behind l.1 l.2).getD p

/-- `PdoDevicePower` -/
def setDevice (state : RequestedPowerState) (tape : Nat → PowerAnswer) (p : PdoDevice) :
    PdoDevice := p.next (.setDevicePower state, tape)

end PdoDevice

abbrev OnPdoPower (α : Type) := OnSystemPower PdoDevice PdoPowerLabel α

/-- `DevicePowerStateMap` -/
def devicePowerStateMap : SystemPowerState → RequestedPowerState
  | .unspecified => .unspecified
  | .working => .d0
  | .sleeping1 | .sleeping2 | .sleeping3 | .hibernate | .shutdown => .d3

/-- `PdoRequestSetDevicePower` -/
def pdoRequestSetDevicePower (state : RequestedPowerState) : OnPdoPower Unit :=
  requestSetDevicePower PdoDevice.next PdoDevice.setDevice state

/-- `__PdoSetSystemPower` -/
def pdoSetSystemPower (state : SystemPowerState) : OnPdoPower NtStatus := do
  let s ← get
  if state.ordinal < s.systemPowerState.ordinal then
    leaveHibernate state
    pdoRequestSetDevicePower (devicePowerStateMap state)
  else if s.systemPowerState.ordinal < state.ordinal then
    pdoRequestSetDevicePower (devicePowerStateMap state)
    enterHibernate state
  setSystemPowerState state
  completeIrp .success

/-- `PdoQueryPower` -/
def pdoQueryPower (_ : SystemPowerState) : OnPdoPower NtStatus := completeIrp .success

/-! ## 5. Any IRPs, one after the other -/

/-- What has become of an IRP: what it asked for, the system power state before and behind it, and
    what has been done. -/
structure Course where
  minor : PowerMinorFunction
  state : SystemPowerState
  was : SystemPowerState
  became : SystemPowerState
  events : List PowerEvent

/-- A device, and the IRPs that it has had. -/
structure SystemRun (δ : Type) where
  power : SystemPower δ
  courses : List Course

inductive SystemLabel (ℓ : Type) where
  | setPower (state : SystemPowerState) (tape : Nat → SystemAnswer ℓ)
  | queryPower (state : SystemPowerState) (tape : Nat → SystemAnswer ℓ)
  | other (l : ℓ)

section Runs

variable {δ ℓ : Type}

/-- The thread takes an IRP and does `p` with it. -/
def SystemRun.take (s : SystemRun δ) (minor : PowerMinorFunction) (state : SystemPowerState)
    (p : OnSystemPower δ ℓ NtStatus) (tape : Nat → SystemAnswer ℓ) : SystemRun δ :=
  match p tape 0 { s.power with events := [] } with
  | .returns (_, _, power) =>
    ⟨power, s.courses ++
      [⟨minor, state, s.power.systemPowerState, power.systemPowerState, power.events⟩]⟩
  | _ => s

def SystemRun.next (next : δ → ℓ → δ) (set query : SystemPowerState → OnSystemPower δ ℓ NtStatus)
    (s : SystemRun δ) : SystemLabel ℓ → SystemRun δ
  | .setPower state tape => s.take .setPower state (set state) tape
  | .queryPower state tape => s.take .queryPower state (query state) tape
  | .other l => { s with power := { s.power with device := next s.power.device l } }

/-- The system of the IRPs to one device object. -/
def systemPower (next : δ → ℓ → δ) (set query : SystemPowerState → OnSystemPower δ ℓ NtStatus) :
    System (SystemRun δ) (SystemLabel ℓ) where
  enabled _ _ := True
  next := SystemRun.next next set query

/-- A device as it is created. -/
def SystemRun.init (d : δ) : SystemRun δ := ⟨⟨d, .working, []⟩, []⟩

/-- The hooks that have been called. -/
def SystemRun.hooks (s : SystemRun δ) : List PowerEvent :=
  s.courses.flatMap fun c => c.events.filter PowerEvent.isHook

end Runs

/-- **The system power IRPs of the FDO.** -/
def fdoSystemPower : System (SystemRun FdoPower) (SystemLabel FdoPowerLabel) :=
  systemPower FdoPower.next fdoSetSystemPower fdoQuerySystemPower

/-- **And those of a PDO.** -/
def pdoSystemPower : System (SystemRun PdoDevice) (SystemLabel PdoPowerLabel) :=
  systemPower PdoDevice.next pdoSetSystemPower pdoQueryPower

/-! ## 6. How an IRP may go -/

/-- The hook for a change of sides, as it finds the device where it asserts it to be. -/
def hookOf : Bool → PowerEvent
  | true => .s3ToS4 .sleeping3
  | false => .s4ToS3 .hibernate

/-- The hooks that an IRP has called; a query has none. -/
def hooksOf (minor : PowerMinorFunction) (was state : SystemPowerState) : List PowerEvent :=
  if minor = .setPower then (crossing SystemPowerState.deep was state).map hookOf else []

/-- The state behind an IRP that has not failed. -/
def becomes (minor : PowerMinorFunction) (was state : SystemPowerState) : SystemPowerState :=
  if minor = .setPower then state else was

/-- What becomes of an IRP to the FDO. -/
inductive FdoCourse : Course → Prop where
  | same (minor : PowerMinorFunction) (was : SystemPowerState) :
      FdoCourse ⟨minor, was, was, was, [.passed]⟩
  | refused {minor : PowerMinorFunction} {state was : SystemPowerState} {status : NtStatus}
      (h : state.ordinal < was.ordinal) (hs : status.ntSuccess = false) :
      FdoCourse ⟨minor, state, was, was, [.forwarded, .completed status]⟩
  | up {minor : PowerMinorFunction} {state was : SystemPowerState} {status : NtStatus}
      (d : RequestedPowerState) (h : state.ordinal < was.ordinal) (hs : status.ntSuccess = true) :
      FdoCourse ⟨minor, state, was, becomes minor was state,
        .forwarded :: hooksOf minor was state ++ [.requested minor d, .completed status]⟩
  | down {minor : PowerMinorFunction} {state was : SystemPowerState} (d : RequestedPowerState)
      (h : was.ordinal < state.ordinal) :
      FdoCourse ⟨minor, state, was, becomes minor was state,
        .requested minor d :: hooksOf minor was state ++ [.passed]⟩

/-- What becomes of an IRP to a PDO. -/
inductive PdoCourse : Course → Prop where
  | query (state was : SystemPowerState) :
      PdoCourse ⟨.queryPower, state, was, was, [.completed .success]⟩
  | same (was : SystemPowerState) : PdoCourse ⟨.setPower, was, was, was, [.completed .success]⟩
  | up {state was : SystemPowerState} (d : RequestedPowerState) (h : state.ordinal < was.ordinal) :
      PdoCourse ⟨.setPower, state, was, state, hooksOf .setPower was state ++
        [.requested .setPower d, .completed .success]⟩
  | down {state was : SystemPowerState} (d : RequestedPowerState)
      (h : was.ordinal < state.ordinal) :
      PdoCourse ⟨.setPower, state, was, state, .requested .setPower d ::
        hooksOf .setPower was state ++ [.completed .success]⟩

section Courses

variable {δ ℓ : Type} {state : SystemPowerState} {s : SystemPower δ}

theorem ordinal_inj {a b : SystemPowerState} (h : a.ordinal = b.ordinal) : a = b := by
  cases a <;> cases b <;> first | rfl | cases h

/-- Whoever goes up leaves hibernation just where the sides change. -/
theorem hooksOf_up {was : SystemPowerState} (h : state.ordinal < was.ordinal) :
    hooksOf .setPower was state =
      if state.ordinal < SystemPowerState.hibernate.ordinal ∧
        SystemPowerState.hibernate.ordinal ≤ was.ordinal then [.s4ToS3 .hibernate] else [] := by
  cases state <;> cases was <;> first | rfl | exact absurd h (by decide)

theorem hooksOf_down {was : SystemPowerState} (h : was.ordinal < state.ordinal) :
    hooksOf .setPower was state =
      if SystemPowerState.hibernate.ordinal ≤ state.ordinal ∧
        was.ordinal < SystemPowerState.hibernate.ordinal then [.s3ToS4 .sleeping3] else [] := by
  cases state <;> cases was <;> first | rfl | exact absurd h (by decide)

theorem leaveHibernate_spec (h : state.ordinal < s.systemPowerState.ordinal) :
    (leaveHibernate state : OnSystemPower δ ℓ Unit).Ensures (fun _ s' => s'.device = s.device ∧
      s'.events = s.events ++ hooksOf .setPower s.systemPowerState state) s := by
  rw [hooksOf_up h]
  refine .get_bind (.ite (fun hc => ?_) fun hc => ?_)
  · rw [if_pos hc]
    refine .modify_bind ?_
    refine .get_bind ?_
    refine .modify_bind ?_
    exact .modify ⟨rfl, rfl⟩
  · rw [if_neg hc]
    exact .pure ⟨rfl, (List.append_nil _).symm⟩

theorem enterHibernate_spec (h : s.systemPowerState.ordinal < state.ordinal) :
    (enterHibernate state : OnSystemPower δ ℓ Unit).Ensures (fun _ s' => s'.device = s.device ∧
      s'.events = s.events ++ hooksOf .setPower s.systemPowerState state) s := by
  rw [hooksOf_down h]
  refine .get_bind (.ite (fun hc => ?_) fun hc => ?_)
  · rw [if_pos hc]
    refine .modify_bind ?_
    refine .get_bind ?_
    refine .modify_bind ?_
    exact .modify ⟨rfl, rfl⟩
  · rw [if_neg hc]
    exact .pure ⟨rfl, (List.append_nil _).symm⟩

end Courses

/-- The IRP at hand has gone this way. -/
def SystemPower.Went {δ : Type} (C : Course → Prop) (minor : PowerMinorFunction)
    (state was : SystemPowerState) (s' : SystemPower δ) : Prop :=
  C ⟨minor, state, was, s'.systemPowerState, s'.events⟩

section Steps

variable {δ ℓ : Type} {s : SystemPower δ} {next : δ → ℓ → δ}

theorem completeIrp_ensures {status : NtStatus} {Q : NtStatus → SystemPower δ → Prop}
    (h : Q status { s with events := s.events ++ [.completed status] }) :
    (completeIrp status : OnSystemPower δ ℓ NtStatus).Ensures Q s := by
  refine .modify_bind ?_
  exact .pure h

theorem passDown_ensures {Q : NtStatus → SystemPower δ → Prop}
    (h : ∀ status, Q status { s with events := s.events ++ [.passed] }) :
    (passDown : OnSystemPower δ ℓ NtStatus).Ensures Q s := by
  refine .modify_bind ?_
  refine .ask_bind fun a => ?_
  exact .pure (h a.status)

theorem forwardIrpSynchronously_ensures {Q : NtStatus → SystemPower δ → Prop}
    (h : ∀ status device, Q status { s with
      device := device, events := s.events ++ [.forwarded] }) :
    (forwardIrpSynchronously next).Ensures Q s := by
  refine .modify_bind ?_
  refine .ask_bind fun a => ?_
  refine .modify_bind ?_
  exact .pure (h a.status _)

theorem requestSetDevicePower_ensures
    {setDevice : RequestedPowerState → (Nat → PowerAnswer) → δ → δ} {state : RequestedPowerState}
    {Q : Unit → SystemPower δ → Prop}
    (h : ∀ device, Q () { s with
      device := device, events := s.events ++ [.requested .setPower state] }) :
    (requestSetDevicePower next setDevice state).Ensures Q s := by
  refine .modify_bind ?_
  refine .ask_bind fun a => ?_
  exact .modify (h _)

theorem requestQueryDevicePower_ensures {state : RequestedPowerState}
    {Q : Unit → SystemPower δ → Prop}
    (h : ∀ device, Q () { s with
      device := device, events := s.events ++ [.requested .queryPower state] }) :
    (requestQueryDevicePower next state).Ensures Q s := by
  refine .modify_bind ?_
  refine .ask_bind fun a => ?_
  exact .modify (h _)

end Steps

section Specs

variable {state : SystemPowerState}

theorem fdoSetSystemPowerUp_spec {s : SystemPower FdoPower} (h0 : s.events = [])
    (h : state.ordinal < s.systemPowerState.ordinal) :
    (fdoSetSystemPowerUp state).Ensures
      (fun _ s' => s'.Went FdoCourse .setPower state s.systemPowerState) s := by
  refine .bind (forwardIrpSynchronously_ensures fun status device => ?_)
  refine .ite (fun hno => ?_) fun hyes => ?_
  · refine completeIrp_ensures ?_
    simp only [SystemPower.Went, h0, List.nil_append]
    exact .refused h (by simpa using hno)
  · refine .bind (Ensures.mono (leaveHibernate_spec h) fun _ s₁ h₁ => ?_)
    refine .modify_bind ?_
    refine .get_bind ?_
    refine .bind (requestSetDevicePower_ensures fun device => ?_)
    refine completeIrp_ensures ?_
    simp only [SystemPower.Went, h₁.2, h0, List.nil_append, List.append_assoc]
    exact .up _ h (by simpa using hyes)

theorem fdoSetSystemPowerDown_spec {s : SystemPower FdoPower} (h0 : s.events = [])
    (h : s.systemPowerState.ordinal < state.ordinal) :
    (fdoSetSystemPowerDown state).Ensures
      (fun _ s' => s'.Went FdoCourse .setPower state s.systemPowerState) s := by
  refine .get_bind ?_
  refine .bind (requestSetDevicePower_ensures fun device => ?_)
  refine .bind (Ensures.mono (enterHibernate_spec h) fun _ s₁ h₁ => ?_)
  refine .modify_bind ?_
  refine passDown_ensures fun status => ?_
  simp only [SystemPower.Went, h₁.2, h0, List.nil_append, List.singleton_append]
  exact .down _ h

theorem fdoSetSystemPower_spec {s : SystemPower FdoPower} (h0 : s.events = []) :
    (fdoSetSystemPower state).Ensures
      (fun _ s' => s'.Went FdoCourse .setPower state s.systemPowerState) s := by
  refine .get_bind (.ite (fun he => ?_) fun hne => .ite (fun h => ?_) fun h => ?_)
  · refine passDown_ensures fun status => ?_
    simp only [SystemPower.Went, h0, List.nil_append, he]
    exact .same _ _
  · exact fdoSetSystemPowerUp_spec h0 h
  · refine fdoSetSystemPowerDown_spec h0 ?_
    have hord : state.ordinal ≠ s.systemPowerState.ordinal := fun e => hne (ordinal_inj e)
    omega

theorem fdoQuerySystemPowerUp_spec {s : SystemPower FdoPower} (h0 : s.events = [])
    (h : state.ordinal < s.systemPowerState.ordinal) :
    (fdoQuerySystemPowerUp state).Ensures
      (fun _ s' => s'.Went FdoCourse .queryPower state s.systemPowerState) s := by
  refine .bind (forwardIrpSynchronously_ensures fun status device => ?_)
  refine .ite (fun hno => ?_) fun hyes => ?_
  · refine completeIrp_ensures ?_
    simp only [SystemPower.Went, h0, List.nil_append]
    exact .refused h (by simpa using hno)
  · refine .get_bind ?_
    refine .bind (requestQueryDevicePower_ensures fun device => ?_)
    refine completeIrp_ensures ?_
    simp only [SystemPower.Went, h0, List.nil_append, List.append_assoc]
    exact .up _ h (by simpa using hyes)

theorem fdoQuerySystemPowerDown_spec {s : SystemPower FdoPower} (h0 : s.events = [])
    (h : s.systemPowerState.ordinal < state.ordinal) :
    (fdoQuerySystemPowerDown state).Ensures
      (fun _ s' => s'.Went FdoCourse .queryPower state s.systemPowerState) s := by
  refine .get_bind ?_
  refine .bind (requestQueryDevicePower_ensures fun device => ?_)
  refine passDown_ensures fun status => ?_
  simp only [SystemPower.Went, h0, List.nil_append]
  exact .down _ h

theorem fdoQuerySystemPower_spec {s : SystemPower FdoPower} (h0 : s.events = []) :
    (fdoQuerySystemPower state).Ensures
      (fun _ s' => s'.Went FdoCourse .queryPower state s.systemPowerState) s := by
  refine .get_bind (.ite (fun he => ?_) fun hne => .ite (fun h => ?_) fun h => ?_)
  · refine passDown_ensures fun status => ?_
    simp only [SystemPower.Went, h0, List.nil_append, he]
    exact .same _ _
  · exact fdoQuerySystemPowerUp_spec h0 h
  · refine fdoQuerySystemPowerDown_spec h0 ?_
    have hord : state.ordinal ≠ s.systemPowerState.ordinal := fun e => hne (ordinal_inj e)
    omega

theorem pdoSetSystemPower_spec {s : SystemPower PdoDevice} (h0 : s.events = []) :
    (pdoSetSystemPower state).Ensures
      (fun _ s' => s'.Went PdoCourse .setPower state s.systemPowerState) s := by
  refine .get_bind (.ite (fun hup => ?_) fun hup => .ite (fun hdown => ?_) fun hdown => ?_)
  · refine .bind (Ensures.mono (leaveHibernate_spec hup) fun _ s₁ h₁ => ?_)
    refine .bind (requestSetDevicePower_ensures fun device => ?_)
    refine .modify_bind ?_
    refine completeIrp_ensures ?_
    simp only [SystemPower.Went, h₁.2, h0, List.nil_append, List.append_assoc]
    exact .up _ hup
  · refine .bind (requestSetDevicePower_ensures fun device => ?_)
    refine .bind (Ensures.mono (enterHibernate_spec hdown) fun _ s₁ h₁ => ?_)
    refine .modify_bind ?_
    refine completeIrp_ensures ?_
    simp only [SystemPower.Went, h₁.2, h0, List.nil_append, List.singleton_append]
    exact .down _ hdown
  · obtain rfl : state = s.systemPowerState := ordinal_inj (by omega)
    refine .modify_bind ?_
    refine completeIrp_ensures ?_
    simp only [SystemPower.Went, h0, List.nil_append]
    exact .same _

theorem pdoQueryPower_spec {s : SystemPower PdoDevice} (h0 : s.events = []) :
    (pdoQueryPower state).Ensures
      (fun _ s' => s'.Went PdoCourse .queryPower state s.systemPowerState) s := by
  refine completeIrp_ensures ?_
  simp only [SystemPower.Went, h0, List.nil_append]
  exact .query _ _

end Specs

/-! ## 7. Runs -/

/-- The IRP has failed. -/
def Course.refused (c : Course) : Bool := c.events.any PowerEvent.refuses

/-- The device power IRPs that have been asked for. -/
def Course.requests (c : Course) : List PowerEvent := c.events.filter PowerEvent.isRequest

/-- What is done for an IRP, whatever device it is for: it goes to somebody else once, in the end,
    and the hooks are called while the device has been put to sleep, before the request on the way
    up and behind it on the way down. -/
structure Course.Orderly (c : Course) : Prop where
  leaves : ∃ front last, c.events = front ++ [last] ∧ last.leaves = true ∧
    ∀ e ∈ front, e.leaves = false
  up : c.state.ordinal < c.was.ordinal → ∀ front e back, c.events = front ++ e :: back →
    e.isRequest = true → ∀ h ∈ back, h.isHook = false
  down : c.was.ordinal < c.state.ordinal → ∀ front e back, c.events = front ++ e :: back →
    e.isRequest = true → ∀ h ∈ front, h.isHook = false

/-- And by the FDO: a device power IRP of its kind is asked for once, unless it has failed or asks
    for nothing new; and the lower driver has it first on the way up, and last otherwise. -/
structure Course.FdoOrderly (c : Course) : Prop extends c.Orderly where
  requests : if c.state = c.was ∨ c.refused = true then c.requests = []
    else ∃ d, c.requests = [.requested c.minor d]
  became : c.became = if c.minor = .setPower ∧ c.refused = false then c.state else c.was
  forwards : c.state.ordinal < c.was.ordinal → c.events.head? = some .forwarded ∧
    .passed ∉ c.events
  passes : ¬c.state.ordinal < c.was.ordinal → c.events.getLast? = some .passed ∧
    .forwarded ∉ c.events

/-- And by a PDO, which completes it, and answers a query at once. -/
structure Course.PdoOrderly (c : Course) : Prop extends c.Orderly where
  requests : if c.state = c.was ∨ c.minor = .queryPower then c.requests = []
    else ∃ d, c.requests = [.requested .setPower d]
  became : c.became = if c.minor = .setPower then c.state else c.was
  completes : c.events.getLast? = some (.completed .success)

/-- The invariant: the IRPs come one after the other, and the hooks are the changes of sides. -/
structure SystemRun.Inv {δ : Type} (C : Course → Prop) (s : SystemRun δ) : Prop where
  courses : ∀ pre c post, s.courses = pre ++ c :: post →
    c.was = endOf .working (pre.map Course.became) ∧ C c
  state : s.power.systemPowerState = endOf .working (s.courses.map Course.became)
  hooks : s.hooks = (crossings SystemPowerState.deep .working (s.courses.map Course.became)).map
    hookOf

section Invariant

variable {δ ℓ : Type} {C : Course → Prop} {s : SystemRun δ}

theorem SystemRun.inv_init (d : δ) : (SystemRun.init d).Inv C where
  courses pre c post h := by simp [SystemRun.init] at h
  state := rfl
  hooks := rfl

/-- **One IRP more**, if it goes as it may. -/
theorem SystemRun.Inv.take (h : s.Inv C)
    (hC : ∀ c, C c → c.events.filter PowerEvent.isHook =
      (crossing SystemPowerState.deep c.was c.became).map hookOf)
    {minor : PowerMinorFunction} {state : SystemPowerState} {p : OnSystemPower δ ℓ NtStatus}
    (hp : ∀ s₀ : SystemPower δ, s₀.events = [] →
      p.Ensures (fun _ s' => s'.Went C minor state s₀.systemPowerState) s₀)
    (tape : Nat → SystemAnswer ℓ) : (s.take minor state p tape).Inv C := by
  have hspec := hp { s.power with events := [] } rfl tape 0
  unfold SystemRun.take
  cases hrun : p tape 0 { s.power with events := [] } with
  | waits | deadlocks | loops => exact h
  | returns r =>
      obtain ⟨status, n, power⟩ := r
      rw [hrun] at hspec
      refine ⟨fun pre c post hc => ?_, ?_, ?_⟩
      · rcases List.append_eq_append_iff.mp hc with ⟨front, hpre, hlast⟩ | ⟨back, hcs, hlast⟩
        · obtain ⟨rfl, hcp⟩ : front = [] ∧ [_] = c :: post := by
            cases front with
            | nil => exact ⟨rfl, hlast⟩
            | cons c' front => simp at hlast
          rw [List.append_nil] at hpre
          obtain ⟨rfl, rfl⟩ := List.cons_eq_cons.mp hcp
          rw [hpre]
          exact ⟨h.state, hspec⟩
        · cases back with
          | nil =>
              obtain ⟨rfl, rfl⟩ := List.cons_eq_cons.mp hlast
              rw [List.append_nil] at hcs
              rw [← hcs]
              exact ⟨h.state, hspec⟩
          | cons c' back =>
              obtain ⟨rfl, -⟩ := List.cons_eq_cons.mp hlast
              exact h.courses pre c back hcs
      · simp only [List.map_append, List.map_cons, List.map_nil, endOf_append]
      · have hlast := hC _ hspec
        simp only [SystemRun.hooks, List.flatMap_append, List.flatMap_cons, List.flatMap_nil,
          List.append_nil, List.map_append, List.map_cons, List.map_nil, crossings_append]
        rw [← h.state, ← hlast, ← h.hooks]
        rfl

/-- Every run of them. -/
theorem reach_systemPower {next : δ → ℓ → δ}
    {set query : SystemPowerState → OnSystemPower δ ℓ NtStatus}
    (hC : ∀ c, C c → c.events.filter PowerEvent.isHook =
      (crossing SystemPowerState.deep c.was c.became).map hookOf)
    (hset : ∀ state (s₀ : SystemPower δ), s₀.events = [] →
      (set state).Ensures (fun _ s' => s'.Went C .setPower state s₀.systemPowerState) s₀)
    (hquery : ∀ state (s₀ : SystemPower δ), s₀.events = [] →
      (query state).Ensures (fun _ s' => s'.Went C .queryPower state s₀.systemPowerState) s₀)
    {d : δ} {P : SystemRun δ → SystemLabel ℓ → Prop}
    (h : Reach (systemPower next set query) P (.init d) s) : s.Inv C := by
  refine h.invariant (SystemRun.inv_init d) fun s l hs _ _ => ?_
  cases l with
  | setPower state tape => exact hs.take hC (hset state) tape
  | queryPower state tape => exact hs.take hC (hquery state) tape
  | other l => exact ⟨hs.courses, hs.state, hs.hooks⟩

/-- **The hooks come by turns**, and how many there have been says on which side the system is. -/
theorem SystemRun.Inv.turns (h : s.Inv C) :
    (∀ i e, s.hooks[i]? = some e →
      e = if i % 2 = 0 then .s3ToS4 .sleeping3 else .s4ToS3 .hibernate) ∧
    (s.power.systemPowerState.deep = true ↔ s.hooks.length % 2 = 1) := by
  have hside := @side_endOf _ SystemPowerState.deep .working (s.courses.map Course.became)
  rw [← h.state] at hside
  rw [h.hooks, List.length_map, hside]
  refine ⟨fun i e he => ?_, by simp [SystemPowerState.deep, SystemPowerState.ordinal]⟩
  rw [List.getElem?_map] at he
  obtain ⟨b, hb, rfl⟩ := Option.map_eq_some_iff.mp he
  rw [crossings_turns _ _ _ _ hb]
  by_cases hi : i % 2 = 0 <;> simp [hi, hookOf, SystemPowerState.deep, SystemPowerState.ordinal]

end Invariant

/-! ## 8. What holds of every run -/

/-- A hook is nothing else. -/
theorem PowerEvent.isHook_only {e : PowerEvent} (h : e.isHook = true) :
    e.leaves = false ∧ e.isRequest = false ∧ e.refuses = false := by
  cases e with
  | s4ToS3 found | s3ToS4 found => exact ⟨rfl, rfl, rfl⟩
  | forwarded | passed | completed status | requested minor state => cases h

section Shapes

variable {minor : PowerMinorFunction} {was state : SystemPowerState} {e : PowerEvent}
  {front back : List PowerEvent}

theorem isHook_hooksOf (he : e ∈ hooksOf minor was state) : e.isHook = true := by
  unfold hooksOf at he
  split at he
  · obtain ⟨b, -, rfl⟩ := List.mem_map.mp he
    cases b <;> rfl
  · cases he

theorem filter_hooksOf :
    (hooksOf minor was state).filter PowerEvent.isHook = hooksOf minor was state :=
  List.filter_eq_self.mpr fun _ he => isHook_hooksOf he

theorem requests_hooksOf : (hooksOf minor was state).filter PowerEvent.isRequest = [] :=
  List.filter_eq_nil_iff.mpr fun _ he => by simp [(PowerEvent.isHook_only (isHook_hooksOf he)).2.1]

theorem refuses_hooksOf : (hooksOf minor was state).any PowerEvent.refuses = false :=
  List.any_eq_false.mpr fun _ he => by simp [(PowerEvent.isHook_only (isHook_hooksOf he)).2.2]

/-- What a course of this shape calls of the hooks, it calls before the request. -/
theorem hooks_first {d : RequestedPowerState} {ahead behind : List PowerEvent}
    (hahead : ∀ e ∈ ahead, e.isRequest = false) (hbehind : ∀ e ∈ behind, e.isHook = false)
    (h : ahead ++ .requested minor d :: behind = front ++ e :: back) (he : e.isRequest = true) :
    ∀ e' ∈ back, e'.isHook = false := by
  rcases List.append_eq_append_iff.mp h with ⟨mid, hfront, hmid⟩ | ⟨mid, hahead', hmid⟩
  · cases mid with
    | nil =>
        obtain ⟨-, rfl⟩ := List.cons_eq_cons.mp hmid
        exact hbehind
    | cons e' mid =>
        obtain ⟨-, rfl⟩ := List.cons_eq_cons.mp hmid
        exact fun e' he' => hbehind e' (by simp [he'])
  · cases mid with
    | nil =>
        obtain ⟨-, rfl⟩ := List.cons_eq_cons.mp hmid
        exact hbehind
    | cons e' mid =>
        obtain ⟨rfl, -⟩ := List.cons_eq_cons.mp hmid
        rw [hahead e (by simp [hahead'])] at he
        cases he

/-- And behind the request. -/
theorem hooks_last {d : RequestedPowerState} {ahead behind : List PowerEvent}
    (hahead : ∀ e ∈ ahead, e.isHook = false) (hbehind : ∀ e ∈ behind, e.isRequest = false)
    (h : ahead ++ .requested minor d :: behind = front ++ e :: back) (he : e.isRequest = true) :
    ∀ e' ∈ front, e'.isHook = false := by
  rcases List.append_eq_append_iff.mp h with ⟨mid, hfront, hmid⟩ | ⟨mid, hahead', hmid⟩
  · cases mid with
    | nil =>
        rw [List.append_nil] at hfront
        rwa [hfront]
    | cons e' mid =>
        obtain ⟨-, rfl⟩ := List.cons_eq_cons.mp hmid
        rw [hbehind e (by simp)] at he
        cases he
  · exact fun e' he' => hahead e' (by simp [hahead', he'])

/-- Nothing is asked for. -/
theorem orderly_none {c : Course} (front : List PowerEvent) {last : PowerEvent}
    (he : c.events = front ++ [last])
    (hfront : ∀ e ∈ front, e.leaves = false ∧ e.isRequest = false) (hlast : last.leaves = true)
    (hno : last.isRequest = false) : c.Orderly := by
  have hreq : ∀ e ∈ c.events, e.isRequest = false := by
    intro e hmem
    rw [he] at hmem
    rcases List.mem_append.mp hmem with hmem | hmem
    · exact (hfront e hmem).2
    · rwa [List.mem_singleton.mp hmem]
  refine ⟨⟨front, last, he, hlast, fun e hmem => (hfront e hmem).1⟩, ?_, ?_⟩
  · intro _ front' e back h hr
    rw [hreq e (by simp [h])] at hr
    cases hr
  · intro _ front' e back h hr
    rw [hreq e (by simp [h])] at hr
    cases hr

/-- On the way up. -/
theorem orderly_up {c : Course} {d : RequestedPowerState} (front : List PowerEvent)
    (last : PowerEvent)
    (h : c.state.ordinal < c.was.ordinal)
    (he : c.events = (front ++ hooksOf minor was state) ++ [.requested minor d, last])
    (hfront : ∀ e ∈ front, e.leaves = false ∧ e.isRequest = false) (hlast : last.leaves = true)
    (hno : last.isHook = false) : c.Orderly := by
  have hahead : ∀ e ∈ front ++ hooksOf minor was state, e.leaves = false ∧ e.isRequest = false := by
    intro e hmem
    rcases List.mem_append.mp hmem with hmem | hmem
    · exact hfront e hmem
    · have honly := PowerEvent.isHook_only (isHook_hooksOf hmem)
      exact ⟨honly.1, honly.2.1⟩
  refine ⟨⟨(front ++ hooksOf minor was state) ++ [.requested minor d], last, ?_, hlast, ?_⟩, ?_,
    fun hdown => absurd h (Nat.lt_asymm hdown)⟩
  · rw [he, List.append_assoc _ [_] [_]]
    rfl
  · intro e hmem
    rcases List.mem_append.mp hmem with hmem | hmem
    · exact (hahead e hmem).1
    · rw [List.mem_singleton.mp hmem]
      rfl
  · intro _ front' e back hc hreq
    refine hooks_first (fun e hmem => (hahead e hmem).2) (fun e hmem => ?_) (he.symm.trans hc) hreq
    rwa [List.mem_singleton.mp hmem]

/-- On the way down. -/
theorem orderly_down {c : Course} {d : RequestedPowerState} {last : PowerEvent}
    (h : c.was.ordinal < c.state.ordinal)
    (he : c.events = (.requested minor d :: hooksOf minor was state) ++ [last])
    (hlast : last.leaves = true) (hno : last.isRequest = false) : c.Orderly := by
  refine ⟨⟨.requested minor d :: hooksOf minor was state, last, he, hlast, ?_⟩,
    fun hup => absurd h (Nat.lt_asymm hup), ?_⟩
  · intro e hmem
    rcases List.mem_cons.mp hmem with rfl | hmem
    · rfl
    · exact (PowerEvent.isHook_only (isHook_hooksOf hmem)).1
  · intro _ front' e back hc hreq
    have hshape : [] ++ .requested minor d :: (hooksOf minor was state ++ [last]) =
        front' ++ e :: back := he.symm.trans hc
    refine hooks_last (fun _ h => absurd h List.not_mem_nil) (fun e hmem => ?_) hshape hreq
    rcases List.mem_append.mp hmem with hmem | hmem
    · exact (PowerEvent.isHook_only (isHook_hooksOf hmem)).2.1
    · rwa [List.mem_singleton.mp hmem]

end Shapes

/-- **How an IRP to the FDO goes, it goes orderly.** -/
theorem FdoCourse.orderly {c : Course} (h : FdoCourse c) : c.FdoOrderly := by
  cases h with
  | same minor was =>
      have hbase : Course.Orderly ⟨minor, was, was, was, [.passed]⟩ :=
        orderly_none [] rfl nofun rfl rfl
      exact ⟨hbase, by rw [if_pos (.inl rfl)]; rfl, (ite_self _).symm,
        fun hup => absurd hup (Nat.lt_irrefl _), fun _ => ⟨rfl, by simp⟩⟩
  | @refused minor state was status h hs =>
      have hrefused : Course.refused ⟨minor, state, was, was, [.forwarded, .completed status]⟩ =
          true := by simp [Course.refused, PowerEvent.refuses, hs]
      refine ⟨orderly_none [.forwarded] rfl ?_ rfl rfl, ?_, ?_, ?_, ?_⟩
      · intro e he
        rw [List.mem_singleton.mp he]
        exact ⟨rfl, rfl⟩
      · rw [if_pos (.inr hrefused)]
        rfl
      · rw [hrefused, if_neg (by simp)]
      · exact fun _ => ⟨rfl, by simp⟩
      · exact fun hno => absurd h hno
  | @up minor state was status d h hs =>
      have hne : state ≠ was := fun e => Nat.lt_irrefl _ (e ▸ h)
      have hrefused : Course.refused ⟨minor, state, was, becomes minor was state,
          .forwarded :: hooksOf minor was state ++ [.requested minor d, .completed status]⟩ =
          false := by simp [Course.refused, PowerEvent.refuses, hs, refuses_hooksOf]
      refine ⟨orderly_up [.forwarded] (.completed status) h rfl ?_ rfl rfl, ?_, ?_, ?_, ?_⟩
      · intro e he
        rw [List.mem_singleton.mp he]
        exact ⟨rfl, rfl⟩
      · rw [hrefused, if_neg (by simp [hne])]
        refine ⟨d, ?_⟩
        rw [Course.requests, List.cons_append,
          List.filter_cons_of_neg (by simp [PowerEvent.isRequest]), List.filter_append,
          requests_hooksOf]
        rfl
      · rw [hrefused]
        simp [becomes]
      · refine fun _ => ⟨rfl, fun hmem => ?_⟩
        simp only [List.cons_append, List.mem_cons, List.mem_append, reduceCtorEq, false_or,
          List.not_mem_nil, or_false] at hmem
        cases isHook_hooksOf hmem
      · exact fun hno => absurd h hno
  | @down minor state was d h =>
      have hne : state ≠ was := fun e => Nat.lt_irrefl _ (e ▸ h)
      have hrefused : Course.refused ⟨minor, state, was, becomes minor was state,
          .requested minor d :: hooksOf minor was state ++ [.passed]⟩ = false := by
        simp [Course.refused, PowerEvent.refuses, refuses_hooksOf]
      refine ⟨orderly_down h rfl rfl rfl, ?_, ?_, ?_, ?_⟩
      · rw [hrefused, if_neg (by simp [hne])]
        refine ⟨d, ?_⟩
        rw [Course.requests, List.cons_append, List.filter_cons_of_pos rfl, List.filter_append,
          requests_hooksOf]
        rfl
      · rw [hrefused]
        simp [becomes]
      · exact fun hup => absurd h (Nat.lt_asymm hup)
      · refine fun _ => ⟨by simp [List.getLast?_cons], fun hmem => ?_⟩
        simp only [List.cons_append, List.mem_cons, List.mem_append, reduceCtorEq, false_or,
          List.not_mem_nil, or_false] at hmem
        cases isHook_hooksOf hmem

/-- **And one to a PDO.** -/
theorem PdoCourse.orderly {c : Course} (h : PdoCourse c) : c.PdoOrderly := by
  cases h with
  | query state was =>
      exact ⟨orderly_none [] rfl nofun rfl rfl, by rw [if_pos (.inr rfl)]; rfl, rfl, rfl⟩
  | same was =>
      exact ⟨orderly_none [] rfl nofun rfl rfl, by rw [if_pos (.inl rfl)]; rfl, rfl, rfl⟩
  | @up state was d h =>
      have hne : state ≠ was := fun e => Nat.lt_irrefl _ (e ▸ h)
      have hevents : hooksOf .setPower was state ++ [.requested .setPower d, .completed .success] =
          ([] ++ hooksOf .setPower was state) ++
            [.requested .setPower d, .completed .success] := rfl
      refine ⟨orderly_up [] (.completed .success) h hevents nofun rfl rfl, ?_, rfl, by simp⟩
      rw [if_neg (by simp [hne])]
      refine ⟨d, ?_⟩
      rw [Course.requests, List.filter_append, requests_hooksOf]
      rfl
  | @down state was d h =>
      have hne : state ≠ was := fun e => Nat.lt_irrefl _ (e ▸ h)
      refine ⟨orderly_down h rfl rfl rfl, ?_, rfl, by simp [List.getLast?_cons]⟩
      rw [if_neg (by simp [hne])]
      refine ⟨d, ?_⟩
      rw [Course.requests, List.cons_append, List.filter_cons_of_pos rfl, List.filter_append,
        requests_hooksOf]
      rfl

/-- The hooks of an IRP are the changes of sides. -/
theorem FdoCourse.hooks {c : Course} (h : FdoCourse c) : c.events.filter PowerEvent.isHook =
    (crossing SystemPowerState.deep c.was c.became).map hookOf := by
  have hnone (was : SystemPowerState) : crossing SystemPowerState.deep was was = [] :=
    crossing_same rfl
  have hsome {minor : PowerMinorFunction} {was state : SystemPowerState} :
      hooksOf minor was state =
        (crossing SystemPowerState.deep was (becomes minor was state)).map hookOf := by
    unfold hooksOf becomes
    split
    · rfl
    · rw [hnone]
      rfl
  cases h with
  | same minor was => rw [hnone]; rfl
  | refused h hs => rw [hnone]; rfl
  | up d h hs =>
      rw [← hsome, List.cons_append, List.filter_cons_of_neg (by simp [PowerEvent.isHook]),
        List.filter_append, filter_hooksOf]
      exact List.append_nil _
  | down d h =>
      rw [← hsome, List.cons_append, List.filter_cons_of_neg (by simp [PowerEvent.isHook]),
        List.filter_append, filter_hooksOf]
      exact List.append_nil _

theorem PdoCourse.hooks {c : Course} (h : PdoCourse c) : c.events.filter PowerEvent.isHook =
    (crossing SystemPowerState.deep c.was c.became).map hookOf := by
  have hnone (was : SystemPowerState) : crossing SystemPowerState.deep was was = [] :=
    crossing_same rfl
  cases h with
  | query state was => rw [hnone]; rfl
  | same was => rw [hnone]; rfl
  | up d h =>
      rw [List.filter_append, filter_hooksOf]
      exact List.append_nil _
  | down d h =>
      rw [List.cons_append, List.filter_cons_of_neg (by simp [PowerEvent.isHook]),
        List.filter_append, filter_hooksOf]
      exact List.append_nil _

/-- **The system power IRPs of the FDO.** In every run, whatever the lower driver answers and
    whatever comes to the devices meanwhile: each IRP finds the state that the one before it has
    left, and goes orderly; the state is that of the last IRP that set it and did not fail; and the
    hooks for hibernation are called by turns, each from the state that it asserts, so many of them
    that the system is in hibernation or beyond just where their number is odd. -/
theorem fdo_system_power {d : FdoPower} {s : SystemRun FdoPower}
    (h : Reach fdoSystemPower (fun _ _ => True) (.init d) s) :
    (∀ pre c post, s.courses = pre ++ c :: post →
      c.was = endOf .working (pre.map Course.became) ∧ c.FdoOrderly) ∧
    s.power.systemPowerState = endOf .working (s.courses.map Course.became) ∧
    (∀ i e, s.hooks[i]? = some e →
      e = if i % 2 = 0 then .s3ToS4 .sleeping3 else .s4ToS3 .hibernate) ∧
    (s.power.systemPowerState.deep = true ↔ s.hooks.length % 2 = 1) := by
  have hinv := reach_systemPower (fun _ hc => hc.hooks) (fun _ _ h0 => fdoSetSystemPower_spec h0)
    (fun _ _ h0 => fdoQuerySystemPower_spec h0) h
  refine ⟨fun pre c post hc => ?_, hinv.state, hinv.turns⟩
  exact ⟨(hinv.courses pre c post hc).1, (hinv.courses pre c post hc).2.orderly⟩

/-- Everything is granted, and nothing else happens. -/
def granted (ℓ : Type) (_ : Nat) : SystemAnswer ℓ := ⟨.success, obliging, [], []⟩

/-- The FDO above a driver that has D0 for a system that works, and D3 for one that sleeps. -/
def FdoPower.init : FdoPower := ⟨.init, devicePowerStateMap⟩

/-- The system hibernates, and works again. -/
def hibernatesAndWorks (ℓ : Type) : List (SystemLabel ℓ) :=
  [.queryPower .hibernate (granted ℓ), .setPower .hibernate (granted ℓ),
    .setPower .working (granted ℓ)]

theorem reach_hibernatesAndWorks {δ ℓ : Type} (next : δ → ℓ → δ)
    (set query : SystemPowerState → OnSystemPower δ ℓ NtStatus) (d : δ) :
    Reach (systemPower next set query) (fun _ _ => True) (.init d)
      (runs (systemPower next set query) (.init d) (hibernatesAndWorks ℓ)) :=
  .of_admits _ .start ⟨trivial, trivial, trivial, trivial, trivial, trivial, trivial⟩

theorem fdo_system_power_hibernatesAndWorks :
    (runs fdoSystemPower (.init .init) (hibernatesAndWorks _)).hooks =
      [.s3ToS4 .sleeping3, .s4ToS3 .hibernate] ∧
    (∀ i e, (runs fdoSystemPower (.init .init) (hibernatesAndWorks _)).hooks[i]? = some e →
      e = if i % 2 = 0 then .s3ToS4 .sleeping3 else .s4ToS3 .hibernate) :=
  ⟨by decide +kernel, (fdo_system_power (reach_hibernatesAndWorks _ _ _ _)).2.2.1⟩

/-- **And those of a PDO**, which sets its state for every IRP. -/
theorem pdo_system_power {p : PdoDevice} {s : SystemRun PdoDevice}
    (h : Reach pdoSystemPower (fun _ _ => True) (.init p) s) :
    (∀ pre c post, s.courses = pre ++ c :: post →
      c.was = endOf .working (pre.map Course.became) ∧ c.PdoOrderly) ∧
    s.power.systemPowerState = endOf .working (s.courses.map Course.became) ∧
    (∀ i e, s.hooks[i]? = some e →
      e = if i % 2 = 0 then .s3ToS4 .sleeping3 else .s4ToS3 .hibernate) ∧
    (s.power.systemPowerState.deep = true ↔ s.hooks.length % 2 = 1) := by
  have hinv := reach_systemPower (fun _ hc => hc.hooks) (fun _ _ h0 => pdoSetSystemPower_spec h0)
    (fun _ _ h0 => pdoQueryPower_spec h0) h
  refine ⟨fun pre c post hc => ?_, hinv.state, hinv.turns⟩
  exact ⟨(hinv.courses pre c post hc).1, (hinv.courses pre c post hc).2.orderly⟩

theorem pdo_system_power_hibernatesAndWorks :
    (runs pdoSystemPower (.init (.create none)) (hibernatesAndWorks _)).hooks =
      [.s3ToS4 .sleeping3, .s4ToS3 .hibernate] ∧
    (∀ i e, (runs pdoSystemPower (.init (.create none)) (hibernatesAndWorks _)).hooks[i]? =
      some e → e = if i % 2 = 0 then .s3ToS4 .sleeping3 else .s4ToS3 .hibernate) :=
  ⟨by decide +kernel, (pdo_system_power (reach_hibernatesAndWorks _ _ _ _)).2.2.1⟩

end Xencons
