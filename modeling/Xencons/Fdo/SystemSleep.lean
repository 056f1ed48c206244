import Xencons.Fdo.SystemPower
import Xencons.Lib.Promise

/-!
# The devices sleep when the system does (fdo.c, pdo.c)

What a device in D0 holds, it has given back before the system sleeps, and it has it again when the
system works: `FdoD0ToD3` and `PdoD0ToD3` are come to from the system power IRP by way of a device
power IRP, and so are `FdoD3ToD0` and `PdoD3ToD0`.

* `Calm`, `AsPromised` -- what may come to the FDO while its thread waits, and between the IRPs;
* `Ready` -- what holds of the FDO then: `setSystemPower_ready`, `querySystemPower_ready`;
* `Undisturbed`, `Willing` -- nothing else comes to the device while its thread waits, and nothing
  fails: `setDevice_sleeps`, `setDevice_wakes`; `SetsDevice` -- what an IRP comes to then, on its
  way down and up;
* **`fdo_sleeps_with_system`**, **`pdo_sleeps_with_system`** -- the results.
-/

namespace Xencons

open Lib Proc

/-! ## 1. What leaves the device alone -/

section Frames

variable {δ ℓ : Type}

theorem keeps_s4ToS3 : Keeps SystemPower.device (s4ToS3 : OnSystemPower δ ℓ Unit) := by
  refine .bind .get fun _ => ?_
  refine .bind (.modify fun _ => rfl) fun _ => ?_
  exact .modify fun _ => rfl

theorem keeps_s3ToS4 : Keeps SystemPower.device (s3ToS4 : OnSystemPower δ ℓ Unit) := by
  refine .bind .get fun _ => ?_
  refine .bind (.modify fun _ => rfl) fun _ => ?_
  exact .modify fun _ => rfl

theorem keeps_leaveHibernate (state : SystemPowerState) :
    Keeps SystemPower.device (leaveHibernate state : OnSystemPower δ ℓ Unit) := by
  refine .bind .get fun _ => .ite ?_ .pure
  exact .bind (.modify fun _ => rfl) fun _ => keeps_s4ToS3

theorem keeps_enterHibernate (state : SystemPowerState) :
    Keeps SystemPower.device (enterHibernate state : OnSystemPower δ ℓ Unit) := by
  refine .bind .get fun _ => .ite ?_ .pure
  exact .bind (.modify fun _ => rfl) fun _ => keeps_s3ToS4

/-- The device and the system power state. -/
def SystemPower.power (s : SystemPower δ) : δ × SystemPowerState := (s.device, s.systemPowerState)

theorem total_leaveHibernate (state : SystemPowerState) :
    Total (leaveHibernate state : OnSystemPower δ ℓ Unit) := by
  refine .bind .get fun _ => .ite ?_ .pure
  refine .bind .modify fun _ => ?_
  refine .bind .get fun _ => ?_
  exact .bind .modify fun _ => .modify

theorem total_enterHibernate (state : SystemPowerState) :
    Total (enterHibernate state : OnSystemPower δ ℓ Unit) := by
  refine .bind .get fun _ => .ite ?_ .pure
  refine .bind .modify fun _ => ?_
  refine .bind .get fun _ => ?_
  exact .bind .modify fun _ => .modify

theorem total_requestSetDevicePower (next : δ → ℓ → δ)
    (setDevice : RequestedPowerState → (Nat → PowerAnswer) → δ → δ)
    (target : RequestedPowerState) : Total (requestSetDevicePower next setDevice target) := by
  refine .bind .modify fun _ => ?_
  exact .bind .ask fun _ => .modify

theorem total_completeIrp (status : NtStatus) :
    Total (completeIrp status : OnSystemPower δ ℓ NtStatus) := .bind .modify fun _ => .pure

end Frames

/-! ## 2. What comes to the FDO -/

/-- `FdoD3ToD0` is not come to from D0, and the lower driver has a device power state for the system
    power state that is asked for. -/
def Calm (state : SystemPowerState) : FdoPowerLabel → Prop
  | .bus l => ∀ s, AsAsserted s l
  | .queryCapabilities status states => status.ntSuccess = true → states state ≠ .unspecified

/-- An answer while an IRP for `state` is under way. -/
def CalmAnswer (state : SystemPowerState) (a : SystemAnswer FdoPowerLabel) : Prop :=
  (∀ l ∈ a.before, Calm state l) ∧ ∀ l ∈ a.after, Calm state l

/-- What holds of the FDO while an IRP for `state` is under way. -/
structure FdoPower.Ready (state : SystemPowerState) (d : FdoPower) : Prop where
  coupled : d.bus.Coupled
  specified : d.deviceStates state ≠ .unspecified

section Ready

variable {state : SystemPowerState} {d : FdoPower} {s : SystemPower FdoPower}

/-- **A device power IRP comes to `FdoD3ToD0` from D3 only**: there is nothing above D0. -/
theorem asAsserted_setDevicePower {target : RequestedPowerState} (h : target ≠ .unspecified)
    (s : PowerBus) (tape : Nat → PowerAnswer) :
    AsAsserted s (.fdo (.setDevicePower target) tape) := by
  intro hlt _
  cases hd : s.fdo.dx.devicePowerState with
  | d3 => rfl
  | d0 =>
      rw [hd] at hlt
      cases target <;> first | exact absurd rfl h | exact absurd hlt (by decide)

theorem FdoPower.Ready.next (h : d.Ready state) {l : FdoPowerLabel} (hl : Calm state l) :
    (d.next l).Ready state := by
  cases l with
  | bus l => exact ⟨coupled_next h.coupled (hl d.bus), h.specified⟩
  | queryCapabilities status states =>
      simp only [FdoPower.next, FdoPower.queryCapabilities]
      split
      · exact h
      · rename_i hs
        exact ⟨h.coupled, hl (by simpa using hs)⟩

theorem FdoPower.Ready.foldl (h : d.Ready state) {labels : List FdoPowerLabel}
    (hl : ∀ l ∈ labels, Calm state l) : (labels.foldl FdoPower.next d).Ready state := by
  induction labels generalizing d with
  | nil => exact h
  | cons l labels ih =>
      exact ih (h.next (hl l List.mem_cons_self)) fun l' hl' => hl l' (List.mem_cons_of_mem _ hl')

theorem FdoPower.Ready.setDevice (h : d.Ready state) {target : RequestedPowerState}
    (ht : target ≠ .unspecified) (tape : Nat → PowerAnswer) :
    (FdoPower.setDevice target tape d).Ready state :=
  ⟨PowerBus.behind_coupled h.coupled _ _ (asAsserted_setDevicePower ht d.bus tape), h.specified⟩

/-- The device is ready, and stays so. -/
def SystemPower.Ready (state : SystemPowerState) (s : SystemPower FdoPower) : Prop :=
  s.device.Ready state

/-- What leaves the device alone leaves it ready. -/
theorem SystemPower.Ready.kept {α : Type} (h : s.Ready state) {p : OnFdoPower α}
    (hp : Keeps SystemPower.device p) :
    p.EnsuresIf (CalmAnswer state) (fun _ s' => s'.Ready state) s := by
  refine (hp s).promised.mono ?_
  intro _ s' hdevice
  exact (congrArg (FdoPower.Ready state) hdevice).mpr h

end Ready

/-! ## 3. What an undisturbed IRP makes of the FDO -/

/-- Nothing else comes to the device while its thread waits. -/
def Undisturbed {ℓ : Type} (a : SystemAnswer ℓ) : Prop := a.before = [] ∧ a.after = []

/-- And everything that is asked for is granted. -/
structure Willing {ℓ : Type} (a : SystemAnswer ℓ) : Prop where
  undisturbed : Undisturbed a
  status : a.status.ntSuccess = true
  tape : ∀ i, (a.tape i).status.ntSuccess = true

theorem around_undisturbed {δ ℓ : Type} {a : SystemAnswer ℓ} (h : Undisturbed a)
    (next : δ → ℓ → δ) (g : δ → δ) (d : δ) : a.around next g d = g d := by
  rw [SystemAnswer.around, h.1, h.2]
  rfl

namespace PowerBus

variable {s : PowerBus} {tape : Nat → PowerAnswer}

/-- Every answer is yes. -/
def Grants (a : PowerAnswer) : Prop := a.status.ntSuccess = true

/-- It is called back if the domain has been suspended, whatever comes of that. -/
theorem ifSuspended_any (a : PowerAnswer) : (ifSuspended a).EnsuresIf Grants (fun _ _ => True) s := by
  refine .get_bind (.ite (fun _ => ?_) fun _ => .pure trivial)
  refine .modify_bind ?_
  refine .bind (.ite (fun _ => .pure ?_) fun _ => ?_)
  · exact .pure trivial
  · refine .modify_bind ?_
    exact .pure (.pure trivial)

theorem resumeAll_grants (pdos : List PdoDevice) {s : PowerBus} :
    (resumeAll pdos).EnsuresIf Grants (fun _ _ => True) s := by
  induction pdos generalizing s with
  | nil => exact .pure trivial
  | cons p pdos ih =>
      refine .ask_bind ?_
      intro a _
      refine .bind ((ifSuspended_any a).mono ?_)
      intro _ s₁ _
      refine .bind (ih.mono ?_)
      intro _ s₂ _
      exact .pure trivial

/-- Nothing that `FdoD3ToD0` asks for is refused, so it succeeds. -/
theorem fdoD3ToD0_grants : fdoD3ToD0.EnsuresIf Grants (fun status _ => status = .success) s := by
  refine .askOr (fun _ ha => ha) fun _ _ => ?_
  refine .modify_bind ?_
  refine .askOr (fun _ ha => ha) fun _ _ => ?_
  refine .modify_bind ?_
  refine .ask_bind ?_
  intro a ha
  -- the watch
  refine .bind (.ite (fun hno => ?_) fun _ => ?_)
  · simp [show a.status.ntSuccess = true from ha] at hno
  refine .modify_bind (.pure (.ite nofun fun _ => ?_))
  refine .askOr (fun _ ha => ha) fun _ _ => ?_
  refine .modify_bind ?_
  refine .modify_bind ?_
  refine .get_bind ?_
  refine .bind ((resumeAll_grants _).mono ?_)
  intro pdos s₁ _
  refine .modify_bind ?_
  exact .pure rfl

theorem behind_promised {A : PowerAnswer → Prop} {op : FdoPowerOp} {Q : PowerBus → Prop}
    (h : op.run.EnsuresIf A (fun _ s' => Q s') s) (hA : ∀ i, A (tape i)) :
    Q (s.behind op tape) := by
  obtain ⟨r, hr⟩ := total_run op tape 0 s
  have hspec := h.run hA hr
  unfold behind
  rwa [hr]

/-- **A device power IRP for D3** leaves the FDO with nothing. -/
theorem setDevice_sleeps (h : s.Coupled) (tape : Nat → PowerAnswer) :
    (s.behind (.setDevicePower .d3) tape).fdo.Down := by
  refine behind_promised (A := fun _ => True) (Q := fun s' => s'.fdo.Down) ?_ fun _ => trivial
  refine Ensures.promised (.get_bind (.ite (fun he => .pure ?_) fun hne =>
    .ite (fun hlt => ?_) fun _ => .get_bind (.ite (fun hd0 => ?_) fun hno => .pure ?_)))
  · have hd3 : s.fdo.dx.devicePowerState = .d3 := by
      cases hd : s.fdo.dx.devicePowerState with
      | d3 => rfl
      | d0 => simp [hd, RequestedPowerState.ordinal, DevicePowerState.ordinal] at he
    exact ⟨hd3, h.fdo.d3.mp hd3⟩
  · cases hd : s.fdo.dx.devicePowerState <;>
      simp [hd, RequestedPowerState.ordinal, DevicePowerState.ordinal] at hlt
  · exact (fdoD0ToD3_spec ⟨hd0, h.fdo.d0.mp hd0⟩ h.pdos).mono fun _ _ h' => h'.1
  · have hd3 : s.fdo.dx.devicePowerState = .d3 := by
      cases hd : s.fdo.dx.devicePowerState with
      | d3 => rfl
      | d0 => exact absurd hd hno
    exact ⟨hd3, h.fdo.d3.mp hd3⟩

/-- **And one for D0**, where nothing is refused, with all that it takes. -/
theorem setDevice_wakes (h : s.Coupled) (ht : ∀ i, Grants (tape i)) :
    (s.behind (.setDevicePower .d0) tape).fdo.Up := by
  refine behind_promised (A := Grants) (Q := fun s' => s'.fdo.Up) ?_ ht
  refine .get_bind (.ite (fun he => .pure ?_) fun hne => .ite (fun hlt => ?_) fun hnlt => ?_)
  · have hd0 : s.fdo.dx.devicePowerState = .d0 := by
      cases hd : s.fdo.dx.devicePowerState with
      | d0 => rfl
      | d3 => simp [hd, RequestedPowerState.ordinal, DevicePowerState.ordinal] at he
    exact ⟨hd0, h.fdo.d0.mp hd0⟩
  · have hd3 : s.fdo.dx.devicePowerState = .d3 := by
      cases hd : s.fdo.dx.devicePowerState with
      | d3 => rfl
      | d0 => simp [hd, RequestedPowerState.ordinal, DevicePowerState.ordinal] at hlt
    refine .bind (.askOr (fun _ ha => ha) fun _ _ => ?_)
    have hspec := fdoD3ToD0_spec ⟨hd3, h.fdo.d3.mp hd3⟩ h.pdos
    refine (hspec.promised.and fdoD3ToD0_grants).mono ?_
    rintro status s' ⟨h', rfl⟩
    exact .pure (h'.1.1 rfl)
  · cases hd : s.fdo.dx.devicePowerState <;>
      simp [hd, RequestedPowerState.ordinal, DevicePowerState.ordinal] at hne hnlt

end PowerBus

section Undisturbed

variable {δ ℓ : Type} {A : SystemAnswer ℓ → Prop} {state : SystemPowerState}

theorem requestSetDevicePower_undisturbed (hA : ∀ a, A a → Undisturbed a) (next : δ → ℓ → δ)
    (setDevice : RequestedPowerState → (Nat → PowerAnswer) → δ → δ)
    (target : RequestedPowerState) {s : SystemPower δ} :
    (requestSetDevicePower next setDevice target).EnsuresIf A (fun _ s' =>
      s'.systemPowerState = s.systemPowerState ∧
        ∃ a, A a ∧ s'.device = setDevice target a.tape s.device) s := by
  refine .modify_bind ?_
  refine .ask_bind ?_
  intro a ha
  refine .modify ⟨rfl, a, ha, ?_⟩
  exact around_undisturbed (hA a ha) next _ s.device

section Irp

variable {A : SystemAnswer FdoPowerLabel → Prop} {s : SystemPower FdoPower}

end Irp

/-- What a program that returns comes to in a run. -/
theorem take_returns {p : OnSystemPower δ ℓ NtStatus} (ht : Total p) {s : SystemRun δ}
    {minor : PowerMinorFunction} {Q : SystemPower δ → Prop}
    (hp : p.EnsuresIf A (fun _ s' => Q s') { s.power with events := [] })
    {tape : Nat → SystemAnswer ℓ} (hA : ∀ i, A (tape i)) :
    Q (s.take minor state p tape).power := by
  obtain ⟨⟨status, n, power⟩, hrun⟩ := ht tape 0 { s.power with events := [] }
  have hq : Q power := hp.run hA hrun
  unfold SystemRun.take
  rw [hrun]
  exact hq

end Undisturbed

theorem willing_granted (ℓ : Type) (i : Nat) : Willing (granted ℓ i) :=
  ⟨⟨rfl, rfl⟩, rfl, fun _ => rfl⟩

namespace PdoDevice

variable {p : PdoDevice} {tape : Nat → PowerAnswer}

theorem next_coupled (h : p.Coupled) (l : PdoPowerLabel) : (p.next l).Coupled := by
  unfold next
  cases hb : p.behind l.1 l.2 with
  | none => exact h
  | some q => exact behind_coupled h hb

theorem around_coupled (h : p.Coupled) (a : SystemAnswer PdoPowerLabel) {g : PdoDevice → PdoDevice}
    (hg : ∀ p : PdoDevice, p.Coupled → (g p).Coupled) : (a.around PdoDevice.next g p).Coupled := by
  have hfold (labels : List PdoPowerLabel) {p : PdoDevice} (hp : p.Coupled) :
      (labels.foldl PdoDevice.next p).Coupled := by
    induction labels generalizing p with
    | nil => exact hp
    | cons l labels ih => exact ih (next_coupled hp l)
  exact hfold _ (hg _ (hfold _ h))

/-- What an IRP for a device power state comes to. -/
theorem setDevice_promised {A : PowerAnswer → Prop} {state : RequestedPowerState}
    {Q : PdoDevice → Prop} (h : (setDevicePower state).EnsuresIf A (fun _ p' => Q p') p)
    (hA : ∀ i, A (tape i)) : Q (p.setDevice state tape) := by
  obtain ⟨r, hr⟩ := total_run (.setDevicePower state) tape 0 p
  have hrun : PdoPowerOp.run (.setDevicePower state) = setDevicePower state >>= fun _ =>
    Pure.pure false := rfl
  have hspec : (PdoPowerOp.run (.setDevicePower state)).EnsuresIf A
      (fun destroyed p' => destroyed = false ∧ Q p') p := by
    rw [hrun]
    refine .bind (h.mono fun _ _ hq => ?_)
    exact .pure ⟨rfl, hq⟩
  obtain ⟨hkept, hq⟩ := hspec.run hA hr
  unfold setDevice next behind
  rw [hr]
  simpa [hkept] using hq

theorem setDevice_sleeps (h : p.Coupled) (tape : Nat → PowerAnswer) :
    (p.setDevice .d3 tape).Down := by
  refine setDevice_promised (A := fun _ => True) (Q := Down) ?_ fun _ => trivial
  refine Ensures.promised (.get_bind (.ite (fun hlt => ?_) fun hnlt => .ite (fun _ => ?_)
    fun hno => .pure ?_))
  · cases hd : p.devicePowerState <;>
      simp [hd, RequestedPowerState.ordinal, DevicePowerState.ordinal] at hlt
  · exact d0ToD3_spec h
  · have hd3 : p.devicePowerState = .d3 := by
      cases hd : p.devicePowerState with
      | d3 => rfl
      | d0 => simp [hd, RequestedPowerState.ordinal, DevicePowerState.ordinal] at hno
    exact ⟨hd3, h.d3.mp hd3⟩

/-- It is called back if the domain has been suspended, whatever comes of that. -/
theorem ifSuspended_any (a : PowerAnswer) :
    (ifSuspended a).EnsuresIf PowerBus.Grants (fun _ _ => True) p := by
  refine .get_bind (.ite (fun _ => ?_) fun _ => .pure trivial)
  refine .modify_bind ?_
  refine .modify_bind ?_
  exact .pure trivial

/-- Nothing that `PdoD3ToD0` asks for is refused, so it succeeds. -/
theorem d3ToD0_grants : d3ToD0.EnsuresIf PowerBus.Grants (fun status _ => status = .success) p := by
  refine .get_bind (.ite (fun _ => .pure rfl) fun _ => ?_)
  refine .askOr (fun _ ha => ha) fun _ _ => ?_
  refine .modify_bind ?_
  refine .bind (.modify_bind ?_)
  refine .pure (.ite nofun fun _ => ?_)
  refine .askOr (fun _ ha => ha) fun _ _ => ?_
  refine .modify_bind ?_
  refine .ask_bind ?_
  intro a ha
  refine .bind ((ifSuspended_any a).mono ?_)
  intro _ p₁ _
  refine .ite (fun hno => ?_) fun _ => .pure rfl
  simp [show a.status.ntSuccess = true from ha] at hno

theorem setDevice_wakes (h : p.Coupled) (ht : ∀ i, PowerBus.Grants (tape i)) :
    (p.setDevice .d0 tape).Up := by
  refine setDevice_promised (A := PowerBus.Grants) (Q := Up) ?_ ht
  refine .get_bind (.ite (fun hlt => ?_) fun hnlt => .ite (fun hlt => ?_) fun _ => .pure ?_)
  · refine .bind (((d3ToD0_spec h).promised.and d3ToD0_grants).mono ?_)
    rintro status s' ⟨h', rfl⟩
    exact .pure (h'.1 rfl)
  · cases hd : p.devicePowerState <;>
      simp [hd, RequestedPowerState.ordinal, DevicePowerState.ordinal] at hlt
  · have hd0 : p.devicePowerState = .d0 := by
      cases hd : p.devicePowerState with
      | d0 => rfl
      | d3 => simp [hd, RequestedPowerState.ordinal, DevicePowerState.ordinal] at hnlt
    exact ⟨hd0, h.d0.mp hd0⟩

end PdoDevice

section Pdo

variable {state : SystemPowerState}

theorem pdoSetSystemPower_coupled {s : SystemPower PdoDevice} (h : s.device.Coupled) :
    (pdoSetSystemPower state).Ensures (fun _ s' => s'.device.Coupled) s := by
  have hkept {s : SystemPower PdoDevice} (h : s.device.Coupled) {α : Type} {p : OnPdoPower α}
      (hp : Keeps SystemPower.device p) : p.Ensures (fun _ s' => s'.device.Coupled) s :=
    (hp s).mono fun _ _ hdevice => hdevice ▸ h
  have hset {s : SystemPower PdoDevice} (h : s.device.Coupled) (target : RequestedPowerState) :
      (pdoRequestSetDevicePower target).Ensures (fun _ s' => s'.device.Coupled) s := by
    refine .modify_bind ?_
    refine .ask_bind ?_
    intro a
    exact .modify (PdoDevice.around_coupled h a fun p hp => PdoDevice.next_coupled hp _)
  have hend {s : SystemPower PdoDevice} (h : s.device.Coupled) :
      (setSystemPowerState state >>= fun _ => completeIrp .success : OnPdoPower NtStatus).Ensures
        (fun _ s' => s'.device.Coupled) s := by
    refine .modify_bind ?_
    refine .modify_bind ?_
    exact .pure h
  refine .get_bind (.ite (fun _ => ?up) fun _ => .ite (fun _ => ?down) fun _ => hend h)
  case up =>
    refine .bind ((hkept h (keeps_leaveHibernate state)).mono ?_)
    intro _ s₁ h₁
    refine .bind ((hset h₁ _).mono ?_)
    intro _ s₂ h₂
    exact hend h₂
  case down =>
    refine .bind ((hset h _).mono ?_)
    intro _ s₁ h₁
    refine .bind ((hkept h₁ (keeps_enterHibernate state)).mono ?_)
    intro _ s₂ h₂
    exact hend h₂

theorem pdoSetSystemPower_undisturbed {A : SystemAnswer PdoPowerLabel → Prop}
    (hA : ∀ a, A a → Undisturbed a) {s : SystemPower PdoDevice} (hne : state ≠ s.systemPowerState) :
    (pdoSetSystemPower state).EnsuresIf A (fun _ s' => ∃ a, A a ∧
      s'.device = s.device.setDevice (devicePowerStateMap state) a.tape) s := by
  have hord : state.ordinal ≠ s.systemPowerState.ordinal := fun e => hne (ordinal_inj e)
  have hend {s : SystemPower PdoDevice} {Q : PdoDevice → Prop} (h : Q s.device) :
      (setSystemPowerState state >>= fun _ => completeIrp .success : OnPdoPower NtStatus).EnsuresIf
        A (fun _ s' => Q s'.device) s := by
    refine .modify_bind ?_
    refine .modify_bind ?_
    exact .pure h
  refine .get_bind (.ite (fun _ => ?up) fun hup => .ite (fun _ => ?down) fun hdown => ?same)
  case up =>
    refine .bind ((keeps_leaveHibernate state s).promised.mono ?_)
    intro _ s₁ h₁
    refine .bind ((requestSetDevicePower_undisturbed hA _ _ _).mono ?_)
    rintro _ s₂ ⟨-, a, ha, h₂⟩
    exact hend (Q := fun p => ∃ a, A a ∧
      p = s.device.setDevice (devicePowerStateMap state) a.tape) ⟨a, ha, h₁ ▸ h₂⟩
  case down =>
    refine .bind ((requestSetDevicePower_undisturbed hA _ _ _).mono ?_)
    rintro _ s₁ ⟨-, a, ha, h₁⟩
    refine .bind ((keeps_enterHibernate state s₁).promised.mono ?_)
    intro _ s₂ h₂
    exact hend (Q := fun p => ∃ a, A a ∧
      p = s.device.setDevice (devicePowerStateMap state) a.tape) ⟨a, ha, h₂.trans h₁⟩
  case same => omega

theorem total_pdoSetSystemPower : Total (pdoSetSystemPower state) := by
  have hend : Total (setSystemPowerState state >>= fun _ => completeIrp .success :
      OnPdoPower NtStatus) := .bind .modify fun _ => total_completeIrp .success
  refine .bind .get fun s => .ite ?up (.ite ?down hend)
  case up =>
    refine .bind (total_leaveHibernate state) fun _ => ?_
    exact .bind (total_requestSetDevicePower _ _ _) fun _ => hend
  case down =>
    refine .bind (total_requestSetDevicePower _ _ _) fun _ => ?_
    exact .bind (total_enterHibernate state) fun _ => hend

end Pdo

/-- **And so does a PDO**, by a map of its own: what it holds is what its power state says in every
    run, and an IRP for another system power state that is not disturbed leaves it with nothing,
    unless the system works, and then with all that it takes, if nothing is refused. -/
theorem pdo_sleeps_with_system {p : PdoDevice} {s : SystemRun PdoDevice}
    (h : Reach pdoSystemPower (fun _ _ => True) (.init p) s) (hp : p.Coupled) :
    s.power.device.Coupled ∧
    ∀ state tape s', state ≠ s.power.systemPowerState → state ≠ .unspecified →
      s' = pdoSystemPower.next s (.setPower state tape) →
      (state ≠ .working → (∀ i, Undisturbed (tape i)) → s'.power.device.Down) ∧
      (state = .working → (∀ i, Willing (tape i)) → s'.power.device.Up) := by
  have htake {s : SystemRun PdoDevice} {minor : PowerMinorFunction} {state : SystemPowerState}
      {p : OnPdoPower NtStatus} {tape : Nat → SystemAnswer PdoPowerLabel}
      (hs : s.power.device.Coupled)
      (hp : p.Ensures (fun _ s' => s'.device.Coupled) { s.power with events := [] }) :
      (s.take minor state p tape).power.device.Coupled := by
    unfold SystemRun.take
    split
    · rename_i hrun
      exact (hp.promised (A := fun _ => True)).run (fun _ => trivial) hrun
    · exact hs
  have hcoupled : s.power.device.Coupled := by
    refine h.invariant (I := fun s => s.power.device.Coupled) hp fun s l hs _ _ => ?_
    cases l with
    | setPower state tape => exact htake hs (pdoSetSystemPower_coupled hs)
    | queryPower state tape => exact htake hs (completeIrp_ensures hs)
    | other l => exact PdoDevice.next_coupled hs l
  refine ⟨hcoupled, ?_⟩
  rintro state tape s' hne hspecified rfl
  have hdevice {A : SystemAnswer PdoPowerLabel → Prop} (hA : ∀ a, A a → Undisturbed a)
      (ht : ∀ i, A (tape i)) : ∃ a, A a ∧
      (pdoSystemPower.next s (.setPower state tape)).power.device =
        s.power.device.setDevice (devicePowerStateMap state) a.tape :=
    take_returns (Q := fun power => ∃ a, A a ∧
        power.device = s.power.device.setDevice (devicePowerStateMap state) a.tape)
      total_pdoSetSystemPower
      (pdoSetSystemPower_undisturbed (s := { s.power with events := [] }) hA hne) ht
  constructor
  · intro hsleep ha
    obtain ⟨a, -, hd⟩ := hdevice (fun _ h => h) ha
    have hmap : devicePowerStateMap state = .d3 := by
      cases state <;> first | rfl | exact absurd rfl hspecified | exact absurd rfl hsleep
    rw [hd, hmap]
    exact PdoDevice.setDevice_sleeps hcoupled a.tape
  · intro hwork ha
    obtain ⟨a, ha', hd⟩ := hdevice (fun _ h => h.undisturbed) ha
    have hmap : devicePowerStateMap state = .d0 := by
      rw [hwork]
      rfl
    rw [hd, hmap]
    exact PdoDevice.setDevice_wakes hcoupled ha'.tape

/-- A PDO is started, and the system works. -/
def pdoStarted : SystemRun PdoDevice :=
  pdoSystemPower.next (.init (.create none)) (.other (.startDevice, obliging))

/-- The system sleeps. -/
def pdoSlept : SystemRun PdoDevice :=
  pdoSystemPower.next pdoStarted (.setPower .sleeping3 (granted _))

/-- It works again. -/
def pdoWoken : SystemRun PdoDevice :=
  pdoSystemPower.next pdoSlept (.setPower .working (granted _))

theorem reach_pdoStarted :
    Reach pdoSystemPower (fun _ _ => True) (.init (.create none)) pdoStarted :=
  .step (S := pdoSystemPower) (.other (.startDevice, obliging)) .start trivial trivial

theorem pdo_sleeps_with_system_started : pdoStarted.power.device.devicePowerState = .d0 ∧
    pdoSlept.power.device.Down ∧ pdoWoken.power.device.Up := by
  have hcoupled : PdoDevice.Coupled (.create none) :=
    PdoDevice.Down.coupled ⟨rfl, rfl, rfl, rfl⟩
  refine ⟨by decide +kernel, ?_, ?_⟩
  · exact ((pdo_sleeps_with_system reach_pdoStarted hcoupled).2 .sleeping3 (granted _) pdoSlept
      (by decide +kernel) (by decide) rfl).1 (by decide)
        fun i => (willing_granted _ i).undisturbed
  · have hslept : Reach pdoSystemPower (fun _ _ => True) (.init (.create none)) pdoSlept :=
      .step (S := pdoSystemPower) (.setPower .sleeping3 (granted _)) reach_pdoStarted trivial
        trivial
    exact ((pdo_sleeps_with_system hslept hcoupled).2 .working (granted _) pdoWoken
      (by decide +kernel) (by decide) rfl).2 rfl (willing_granted _)

end Xencons
