import Xencons.Fdo.DevicePower
import Xencons.Lib.Fuel

/-!
# What a device in D0 holds (fdo.c, pdo.c)

* `PdoDevice.HoldsAll`, `PdoDevice.HoldsNothing`, and the same of the FDO; `Coupled` -- the power
  state is what is held;
* `PdoDevice.d3ToD0_spec`, `PdoDevice.d0ToD3_spec`, ... -- what the functions of a PDO make of it;
* `FdoDevice.Taken` -- how far `FdoD3ToD0` has come: `PowerBus.fdoD3ToD0_spec` and its companions;
* `fdoD3ToD0_dx`, `fdoD0ToD3_dx` -- the FDO of the PnP machine does the same;
* **`power_state_holds`** -- the result.
-/

namespace Xencons

open Lib Proc

/-! ## 1. What is held -/

/-- A device that cannot hold all and nothing is coupled to its power state just where it is in D0
    with all of it or in D3 with nothing. -/
theorem coupled_iff_up_or_down (power : DevicePowerState) {all nothing : Prop}
    (hne : all → ¬nothing) :
    ((power = .d0 ↔ all) ∧ (power = .d3 ↔ nothing)) ↔
      (power = .d0 ∧ all) ∨ (power = .d3 ∧ nothing) := by
  constructor
  · intro ⟨hd0, hd3⟩
    cases hp : power with
    | d0 => exact .inl ⟨rfl, hd0.mp hp⟩
    | d3 => exact .inr ⟨rfl, hd3.mp hp⟩
  · rintro (⟨rfl, hall⟩ | ⟨rfl, hnothing⟩)
    · exact ⟨iff_of_true rfl hall, iff_of_false nofun (hne hall)⟩
    · exact ⟨iff_of_false nofun fun hall => hne hall hnothing, iff_of_true rfl hnothing⟩

namespace PdoDevice

/-- One reference on the suspend interface, and a callback registered with it. -/
structure HoldsAll (p : PdoDevice) : Prop where
  suspendRefs : p.suspendRefs = 1
  lateCallbacks : p.lateCallbacks = 1
  suspendCallbackLate : p.suspendCallbackLate = true

structure HoldsNothing (p : PdoDevice) : Prop where
  suspendRefs : p.suspendRefs = 0
  lateCallbacks : p.lateCallbacks = 0
  suspendCallbackLate : p.suspendCallbackLate = false

structure Up (p : PdoDevice) : Prop where
  power : p.devicePowerState = .d0
  holds : p.HoldsAll

structure Down (p : PdoDevice) : Prop where
  power : p.devicePowerState = .d3
  holds : p.HoldsNothing

/-- **Its power state is what it holds.** -/
structure Coupled (p : PdoDevice) : Prop where
  d0 : p.devicePowerState = .d0 ↔ p.HoldsAll
  d3 : p.devicePowerState = .d3 ↔ p.HoldsNothing

variable {p : PdoDevice}

theorem HoldsAll.not_nothing (h : p.HoldsAll) : ¬p.HoldsNothing := fun h' => by
  have := h.suspendRefs.symm.trans h'.suspendRefs
  omega

theorem coupled_iff : p.Coupled ↔ p.Up ∨ p.Down := by
  have hiff := coupled_iff_up_or_down p.devicePowerState (HoldsAll.not_nothing (p := p))
  constructor
  · intro h
    exact (hiff.mp ⟨h.d0, h.d3⟩).imp (fun h => ⟨h.1, h.2⟩) fun h => ⟨h.1, h.2⟩
  · intro h
    have hcoupled := hiff.mpr (h.imp (fun h => ⟨h.power, h.holds⟩) fun h => ⟨h.power, h.holds⟩)
    exact ⟨hcoupled.1, hcoupled.2⟩

theorem Up.coupled (h : p.Up) : p.Coupled := coupled_iff.mpr (.inl h)

theorem Down.coupled (h : p.Down) : p.Coupled := coupled_iff.mpr (.inr h)

/-- What is not about power is no part of it. -/
theorem Coupled.of_eq {q : PdoDevice} (h : p.Coupled)
    (hp : q.devicePowerState = p.devicePowerState) (hr : q.suspendRefs = p.suspendRefs)
    (hc : q.lateCallbacks = p.lateCallbacks)
    (hl : q.suspendCallbackLate = p.suspendCallbackLate) : q.Coupled := by
  rcases coupled_iff.mp h with ⟨hpower, hrefs, hcallbacks, hlate⟩ | hdown
  · exact Up.coupled ⟨hp.trans hpower, hr.trans hrefs, hc.trans hcallbacks, hl.trans hlate⟩
  · obtain ⟨hpower, hrefs, hcallbacks, hlate⟩ := hdown
    exact Down.coupled ⟨hp.trans hpower, hr.trans hrefs, hc.trans hcallbacks, hl.trans hlate⟩

/-- Its PnP state, for one. -/
theorem Coupled.withPnp (h : p.Coupled) (pnp : Pdo) : ({ p with pnp := pnp }).Coupled :=
  h.of_eq rfl rfl rfl rfl

/-- **A suspend** leaves it as it was. -/
theorem ifSuspended_spec (h : p.Coupled) (a : PowerAnswer) :
    (ifSuspended a).Ensures (fun _ p' => p' = p) p := by
  refine .get_bind (.ite (fun hs => ?_) fun _ => .pure rfl)
  have hcallbacks : 0 < p.lateCallbacks := of_decide_eq_true ((Bool.and_eq_true _ _).mp hs).2
  rcases coupled_iff.mp h with hup | hdown
  · refine .modify_bind ?_
    refine .bind ?_
    refine .modify_bind ?_
    refine .pure (.pure ?_)
    obtain ⟨pnp, power, refs, callbacks, late, link⟩ := p
    obtain rfl : power = .d0 := hup.power
    rfl
  · have := hdown.holds.lateCallbacks
    omega

section Labels

variable {status : NtStatus} (hs : status.ntSuccess = false)

include hs

/-- The labels give back what has been taken, and return what has failed. -/
theorem fail2_spec (hp : p.devicePowerState = .d3) (hr : p.suspendRefs = 1)
    (hc : p.lateCallbacks = 0) (hl : p.suspendCallbackLate = false) :
    (fail2 status).Ensures (fun st p' => st.ntSuccess = false ∧ p'.Down) p := by
  refine .modify_bind ?_
  exact .pure ⟨hs, hp, by simp [hr], hc, hl⟩

theorem fail3_spec (hr : p.suspendRefs = 1) (hc : p.lateCallbacks = 0)
    (hl : p.suspendCallbackLate = false) :
    (fail3 status).Ensures (fun st p' => st.ntSuccess = false ∧ p'.Down) p := by
  refine .modify_bind ?_
  exact fail2_spec hs rfl hr hc hl

theorem fail4_spec (h : p.HoldsAll) :
    (fail4 status).Ensures (fun st p' => st.ntSuccess = false ∧ p'.Down) p := by
  refine .modify_bind ?_
  exact fail3_spec hs h.suspendRefs (by simp [h.lateCallbacks]) rfl

end Labels

/-- What `PdoD3ToD0` leaves: the device in D0 with all it takes, or in D3 with nothing. -/
def WakeLeaves (status : NtStatus) (p : PdoDevice) : Prop :=
  (status.ntSuccess = true → p.Up) ∧ (status.ntSuccess = false → p.Down)

theorem WakeLeaves.failed {status : NtStatus} (h : status.ntSuccess = false ∧ p.Down) :
    WakeLeaves status p := ⟨fun ok => absurd (h.1.symm.trans ok) nofun, fun _ => h.2⟩

/-- **`PdoD3ToD0`**: what fails leaves the device in D3 with nothing. -/
theorem d3ToD0_spec (h : p.Coupled) : d3ToD0.Ensures WakeLeaves p := by
  refine .get_bind (.ite (fun hd0 => .pure ⟨fun _ => ⟨hd0, h.d0.mp hd0⟩, nofun⟩) fun hno => ?_)
  have hdown : p.Down := (coupled_iff.mp h).resolve_left fun hup => hno hup.power
  obtain ⟨hpower, hrefs, hcallbacks, hlate⟩ := hdown
  refine .askOr (fun a no => .pure (.failed ⟨no, hpower, hrefs, hcallbacks, hlate⟩)) fun a _ => ?_
  have href : p.suspendRefs + 1 = 1 := by omega
  refine .modify_bind ?_
  refine .bind ?_
  refine .modify_bind ?_
  refine .pure (.ite nofun fun _ => ?_)
  refine .askOr (fun a no => ?_) fun a _ => ?_
  · let q : PdoDevice := { p with devicePowerState := .d0, suspendRefs := p.suspendRefs + 1 }
    have hfail : (fail3 a.status).Ensures (fun st p' => st.ntSuccess = false ∧ p'.Down) q :=
      fail3_spec no href hcallbacks hlate
    exact hfail.mono fun _ _ => WakeLeaves.failed
  · let q : PdoDevice := { p with devicePowerState := .d0, suspendRefs := p.suspendRefs + 1,
                                  lateCallbacks := p.lateCallbacks + 1,
                                  suspendCallbackLate := true }
    have hup : q.Up := ⟨rfl, href, by show p.lateCallbacks + 1 = 1; omega, rfl⟩
    refine .modify_bind ?_
    refine .ask_bind fun a => ?_
    refine .bind ?_
    refine (ifSuspended_spec hup.coupled a).mono fun _ p' hp' => ?_
    subst hp'
    refine .ite (fun no => ?_) fun yes => .pure ⟨fun _ => hup, nofun⟩
    have hfail : (fail4 a.status).Ensures (fun st p' => st.ntSuccess = false ∧ p'.Down) q :=
      fail4_spec (by simpa using no) hup.holds
    exact hfail.mono fun _ _ => WakeLeaves.failed

/-- **`PdoD0ToD3`** leaves it in D3 with nothing. -/
theorem d0ToD3_spec (h : p.Coupled) : d0ToD3.Ensures (fun _ p' => p'.Down) p := by
  refine .get_bind (.ite (fun hd3 => .pure ⟨hd3, h.d3.mp hd3⟩) fun hno => ?_)
  have hup : p.Up := (coupled_iff.mp h).resolve_right fun hdown => hno hdown.power
  refine .ask_bind fun a => ?_
  refine .bind ((ifSuspended_spec h a).mono fun _ p' hp' => ?_)
  subst hp'
  refine .modify_bind ?_
  refine .modify_bind ?_
  refine .modify ⟨rfl, ?_, ?_, rfl⟩
  · simp [hup.holds.suspendRefs]
  · simp [hup.holds.lateCallbacks]

/-! What comes to a PDO keeps the coupling. -/

theorem pnpOp_spec (h : p.Coupled) (op : PdoOp) :
    (pnpOp op).Ensures (fun _ p' => p'.Coupled) p := by
  refine .get_bind ?_
  refine .modify_bind ?_
  exact .pure (h.withPnp _)

theorem registerInterface_spec (h : p.Coupled) :
    registerInterface.Ensures (fun _ p' => p'.Coupled) p := by
  refine .get_bind (.ite (fun _ => .pure h) fun _ => ?_)
  refine .askOr (fun _ _ => .pure h) fun _ _ => ?_
  refine .modify_bind ?_
  refine .pure ?_
  exact h.of_eq rfl rfl rfl rfl

theorem WakeLeaves.coupled {status : NtStatus} (h : WakeLeaves status p) : p.Coupled := by
  cases hs : status.ntSuccess with
  | true => exact (h.1 hs).coupled
  | false => exact (h.2 hs).coupled

theorem startDevice_spec (h : p.Coupled) : startDevice.Ensures (fun _ p' => p'.Coupled) p := by
  refine .bind ((registerInterface_spec h).mono fun _ p₁ h₁ => .ite (fun _ => .pure h₁) fun _ => ?_)
  refine .bind ((d3ToD0_spec h₁).mono fun _ p₂ h₂ => .ite (fun _ => .pure h₂.coupled) fun _ => ?_)
  refine .bind ((pnpOp_spec h₂.coupled .startDevice).mono fun _ _ h₃ => ?_)
  exact .pure h₃

theorem powerDown_spec (h : p.Coupled) : powerDown.Ensures (fun _ p' => p'.Coupled) p := by
  refine .get_bind (.ite (fun _ => ?_) fun _ => .pure h)
  exact (d0ToD3_spec h).mono fun _ _ h' => h'.coupled

theorem setDevicePower_spec (h : p.Coupled) (state : RequestedPowerState) :
    (setDevicePower state).Ensures (fun _ p' => p'.Coupled) p := by
  refine .get_bind (.ite (fun _ => ?_) fun _ => .ite (fun _ => ?_) fun _ => .pure h)
  · refine .bind ((d3ToD0_spec h).mono fun _ _ h' => ?_)
    exact .pure h'.coupled
  · exact (d0ToD3_spec h).mono fun _ _ h' => h'.coupled

/-- **Whatever comes to a PDO.** -/
theorem run_coupled (h : p.Coupled) (op : PdoPowerOp) :
    op.run.Ensures (fun _ p' => p'.Coupled) p := by
  cases op with
  | startDevice =>
      refine .bind ((startDevice_spec h).mono fun _ _ h' => ?_)
      exact .pure h'
  | stopDevice => exact .bind ((powerDown_spec h).mono fun _ _ h' => pnpOp_spec h' _)
  | removeDevice => exact .bind ((powerDown_spec h).mono fun _ _ h' => pnpOp_spec h' _)
  | setDevicePower state =>
      refine .bind ((setDevicePower_spec h state).mono fun _ _ h' => ?_)
      exact .pure h'
  | suspend =>
      refine .ask_bind fun a => ?_
      refine .bind ((ifSuspended_spec h a).mono fun _ p' hp' => ?_)
      refine .pure ?_
      rw [hp']
      exact h
  | other op => exact pnpOp_spec h op

/-! All of it returns. -/

theorem total_ifSuspended (a : PowerAnswer) : Total (ifSuspended a) := by
  refine .bind .get fun _ => .ite ?_ .pure
  refine .bind .modify fun _ => ?_
  exact .bind (.bind .modify fun _ => .pure) fun _ => .pure

theorem total_d3ToD0 : Total d3ToD0 := by
  have fail2 (status : NtStatus) : Total (fail2 status) := .bind .modify fun _ => .pure
  have fail3 (status : NtStatus) : Total (fail3 status) := .bind .modify fun _ => fail2 status
  have fail4 (status : NtStatus) : Total (fail4 status) := .bind .modify fun _ => fail3 status
  refine .bind .get fun _ => .ite .pure ?_
  refine .bind .ask fun _ => .ite .pure ?_
  refine .bind .modify fun _ => ?_
  refine .bind (.bind .modify fun _ => .pure) fun _ => .ite (fail2 _) ?_
  refine .bind .ask fun _ => ?_
  refine .ite (fail3 _) ?_
  refine .bind .modify fun _ => ?_
  refine .bind .ask fun _ => ?_
  exact .bind (total_ifSuspended _) fun _ => .ite (fail4 _) .pure

theorem total_d0ToD3 : Total d0ToD3 := by
  refine .bind .get fun _ => .ite .pure ?_
  refine .bind .ask fun _ => ?_
  refine .bind (total_ifSuspended _) fun _ => ?_
  refine .bind .modify fun _ => ?_
  exact .bind .modify fun _ => .modify

theorem total_run (op : PdoPowerOp) : Total op.run := by
  have pnpOp (op : PdoOp) : Total (pnpOp op) := .bind .get fun _ => .bind .modify fun _ => .pure
  have powerDown : Total powerDown := .bind .get fun _ => .ite total_d0ToD3 .pure
  have register : Total registerInterface := by
    refine .bind .get fun _ => .ite .pure ?_
    refine .bind .ask fun _ => .ite .pure ?_
    exact .bind .modify fun _ => .pure
  cases op with
  | startDevice =>
      refine .bind (.bind register fun _ => .ite .pure ?_) fun _ => .pure
      refine .bind total_d3ToD0 fun _ => .ite .pure ?_
      exact .bind (pnpOp _) fun _ => .pure
  | stopDevice | removeDevice => exact .bind powerDown fun _ => pnpOp _
  | setDevicePower state =>
      refine .bind (.bind .get fun _ => .ite ?_ (.ite total_d0ToD3 .pure)) fun _ => .pure
      exact .bind total_d3ToD0 fun _ => .pure
  | suspend =>
      refine .bind .ask fun _ => ?_
      exact .bind (total_ifSuspended _) fun _ => .pure
  | other op => exact pnpOp op

theorem behind_coupled {p' : PdoDevice} {op : PdoPowerOp} {tape : Nat → PowerAnswer}
    (h : p.Coupled) (hp : p.behind op tape = some p') : p'.Coupled := by
  obtain ⟨r, hr⟩ := total_run op tape 0 p
  have hrun := run_coupled h op tape 0
  unfold behind at hp
  rw [hr] at hrun hp
  dsimp only at hp
  split at hp
  · cases hp
  · obtain rfl := Option.some.inj hp
    exact hrun

end PdoDevice

/-! ## 2. What the FDO holds -/

namespace FdoDevice

/-- One reference on the suspend interface and one on the store, the scan watch, and a callback
    registered. -/
structure HoldsAll (f : FdoDevice) : Prop where
  suspendRefs : f.suspendRefs = 1
  storeRefs : f.storeRefs = 1
  watches : f.watches = 1
  lateCallbacks : f.lateCallbacks = 1
  scanWatch : f.dx.scanWatch = true
  suspendCallbackLate : f.dx.suspendCallbackLate = true

structure HoldsNothing (f : FdoDevice) : Prop where
  suspendRefs : f.suspendRefs = 0
  storeRefs : f.storeRefs = 0
  watches : f.watches = 0
  lateCallbacks : f.lateCallbacks = 0
  scanWatch : f.dx.scanWatch = false
  suspendCallbackLate : f.dx.suspendCallbackLate = false

structure Up (f : FdoDevice) : Prop where
  power : f.dx.devicePowerState = .d0
  holds : f.HoldsAll

structure Down (f : FdoDevice) : Prop where
  power : f.dx.devicePowerState = .d3
  holds : f.HoldsNothing

/-- **Its power state is what it holds.** -/
structure Coupled (f : FdoDevice) : Prop where
  d0 : f.dx.devicePowerState = .d0 ↔ f.HoldsAll
  d3 : f.dx.devicePowerState = .d3 ↔ f.HoldsNothing

variable {f : FdoDevice}

theorem HoldsAll.not_nothing (h : f.HoldsAll) : ¬f.HoldsNothing := fun h' => by
  have := h.suspendRefs.symm.trans h'.suspendRefs
  omega

theorem coupled_iff : f.Coupled ↔ f.Up ∨ f.Down := by
  have hiff :=
    coupled_iff_up_or_down f.dx.devicePowerState (HoldsAll.not_nothing (f := f))
  constructor
  · intro h
    exact (hiff.mp ⟨h.d0, h.d3⟩).imp (fun h => ⟨h.1, h.2⟩) fun h => ⟨h.1, h.2⟩
  · intro h
    have hcoupled := hiff.mpr (h.imp (fun h => ⟨h.power, h.holds⟩) fun h => ⟨h.power, h.holds⟩)
    exact ⟨hcoupled.1, hcoupled.2⟩

theorem Up.coupled (h : f.Up) : f.Coupled := coupled_iff.mpr (.inl h)

theorem Down.coupled (h : f.Down) : f.Coupled := coupled_iff.mpr (.inr h)

/-- What is not about power is no part of it. -/
theorem Coupled.withDx (h : f.Coupled) {dx : FdoDx}
    (hp : dx.devicePowerState = f.dx.devicePowerState) (hw : dx.scanWatch = f.dx.scanWatch)
    (hl : dx.suspendCallbackLate = f.dx.suspendCallbackLate) :
    ({ f with dx := dx }).Coupled := by
  rcases coupled_iff.mp h with ⟨hpower, hs, ht, hc, hr, hscan, hlate⟩ | hdown
  · exact Up.coupled ⟨hp.trans hpower, hs, ht, hc, hr, hw.trans hscan, hl.trans hlate⟩
  · obtain ⟨hpower, hs, ht, hc, hr, hscan, hlate⟩ := hdown
    exact Down.coupled ⟨hp.trans hpower, hs, ht, hc, hr, hw.trans hscan, hl.trans hlate⟩

/-- What is held when `FdoD3ToD0` has come so far: the suspend interface, the store, the watch, the
    callback. -/
structure Taken (n : Nat) (f : FdoDevice) : Prop where
  suspendRefs : f.suspendRefs = if 1 ≤ n then 1 else 0
  storeRefs : f.storeRefs = if 2 ≤ n then 1 else 0
  watches : f.watches = if 3 ≤ n then 1 else 0
  scanWatch : f.dx.scanWatch = decide (3 ≤ n)
  lateCallbacks : f.lateCallbacks = if 4 ≤ n then 1 else 0
  suspendCallbackLate : f.dx.suspendCallbackLate = decide (4 ≤ n)

theorem taken_nothing : f.Taken 0 ↔ f.HoldsNothing :=
  ⟨fun ⟨hs, ht, hw, hscan, hc, hl⟩ => ⟨hs, ht, hw, hc, hscan, hl⟩,
    fun ⟨hs, ht, hw, hc, hscan, hl⟩ => ⟨hs, ht, hw, hscan, hc, hl⟩⟩

/-- What `FdoD3ToD0` leaves. -/
def WakeLeaves (status : NtStatus) (f : FdoDevice) : Prop :=
  (status.ntSuccess = true → f.Up) ∧ (status.ntSuccess = false → f.Down)

theorem WakeLeaves.coupled {status : NtStatus} (h : WakeLeaves status f) : f.Coupled := by
  cases hs : status.ntSuccess with
  | true => exact (h.1 hs).coupled
  | false => exact (h.2 hs).coupled

end FdoDevice

namespace PowerBus

/-- **Every device's power state is what it holds.** -/
structure Coupled (s : PowerBus) : Prop where
  fdo : s.fdo.Coupled
  pdos : ∀ p ∈ s.pdos, p.Coupled

variable {s : PowerBus}

theorem onFdo_spec {g : FdoDevice → FdoDevice} {Q : Unit → PowerBus → Prop}
    (h : Q () { s with fdo := g s.fdo }) : (onFdo g).Ensures Q s := .modify h

theorem onDx_spec {g : FdoDx → FdoDx} {Q : Unit → PowerBus → Prop}
    (h : Q () { s with fdo := { s.fdo with dx := g s.fdo.dx } }) : (onDx g).Ensures Q s := .modify h

theorem fdoSleep_spec {Q : Unit → PowerBus → Prop}
    (h : Q () { s with fdo := { s.fdo with watches := s.fdo.watches - 1,
                                           dx := { s.fdo.dx with scanWatch := false } } }) :
    fdoSleep.Ensures Q s := .modify h

theorem fdoWake_spec {status : NtStatus} {Q : NtStatus → PowerBus → Prop}
    (hno : status.ntSuccess = false → Q status s)
    (hyes : status.ntSuccess = true → Q .success
      { s with fdo := { s.fdo with watches := s.fdo.watches + 1,
                                   dx := { s.fdo.dx with scanWatch := true } } }) :
    (fdoWake status).Ensures Q s := by
  refine .ite (fun no => .pure (hno ?_)) fun yes => .bind (onFdo_spec (.pure (hyes ?_)))
  · simpa using no
  · simpa using yes

/-- **A suspend** leaves all as it was. -/
theorem ifSuspended_spec (h : s.fdo.HoldsAll ∨ s.fdo.HoldsNothing) (a : PowerAnswer) :
    (ifSuspended a).Ensures (fun _ s' => s' = s) s := by
  refine .get_bind (.ite (fun hs => ?_) fun _ => .pure rfl)
  have hcallbacks : 0 < s.fdo.lateCallbacks := of_decide_eq_true ((Bool.and_eq_true _ _).mp hs).2
  rcases h with h | h
  · refine .bind (fdoSleep_spec ?_)
    refine .bind (fdoWake_spec (fun no => ?_) fun _ => .pure ?_)
    · rw [a.asserted] at no
      cases no
    · obtain ⟨⟨⟨state, previous, power, thread, watch, late⟩, refs, storeRefs, callbacks, watches⟩,
        pdos⟩ := s
      obtain rfl : watch = true := h.scanWatch
      simp
  · have := h.lateCallbacks
    omega

section Labels

variable {status : NtStatus} (hs : status.ntSuccess = false) {pdos : List PdoDevice}

include hs

/-- The labels give back what has been taken, and return what has failed. -/
theorem fdoFail2_spec (h : s.fdo.Taken 1) (hd : s.fdo.dx.devicePowerState = .d3)
    (hp : s.pdos = pdos) :
    (fdoFail2 status).Ensures
      (fun st s' => st.ntSuccess = false ∧ s'.fdo.Down ∧ s'.pdos = pdos) s := by
  refine .bind (onFdo_spec ?_)
  refine .pure ⟨hs, ⟨hd, FdoDevice.taken_nothing.mp ?_⟩, hp⟩
  exact ⟨by simp [h.suspendRefs], h.storeRefs, h.watches, h.scanWatch, h.lateCallbacks,
    h.suspendCallbackLate⟩

theorem fdoFail3_spec (h : s.fdo.Taken 2) (hd : s.fdo.dx.devicePowerState = .d3)
    (hp : s.pdos = pdos) :
    (fdoFail3 status).Ensures
      (fun st s' => st.ntSuccess = false ∧ s'.fdo.Down ∧ s'.pdos = pdos) s := by
  refine .bind (onFdo_spec (fdoFail2_spec hs ?_ hd hp))
  exact ⟨h.suspendRefs, by simp [h.storeRefs], h.watches, h.scanWatch, h.lateCallbacks,
    h.suspendCallbackLate⟩

theorem fdoFail4_spec (h : s.fdo.Taken 3) (hd : s.fdo.dx.devicePowerState = .d3)
    (hp : s.pdos = pdos) :
    (fdoFail4 status).Ensures
      (fun st s' => st.ntSuccess = false ∧ s'.fdo.Down ∧ s'.pdos = pdos) s := by
  refine .bind (fdoSleep_spec (fdoFail3_spec hs ?_ hd hp))
  exact ⟨h.suspendRefs, h.storeRefs, by simp [h.watches], rfl, h.lateCallbacks,
    h.suspendCallbackLate⟩

end Labels

/-- The walk of `FdoD3ToD0`. -/
theorem resumeAll_spec (h : s.fdo.HoldsAll) {pdos : List PdoDevice} (hp : ∀ p ∈ pdos, p.Coupled) :
    (resumeAll pdos).Ensures (fun pdos' s' => s' = s ∧ ∀ p ∈ pdos', p.Coupled) s := by
  induction pdos with
  | nil => exact .pure ⟨rfl, hp⟩
  | cons p pdos ih =>
      refine .ask_bind fun a => ?_
      refine .bind ((ifSuspended_spec (.inl h) a).mono fun _ s' hs' => ?_)
      subst hs'
      refine .bind ((ih fun p hp' => hp p (List.mem_cons_of_mem _ hp')).mono fun pdos' s' h' => ?_)
      refine .pure ⟨h'.1, fun p' hp' => ?_⟩
      rcases List.mem_cons.mp hp' with rfl | hp'
      · exact (hp p List.mem_cons_self).withPnp _
      · exact h'.2 p' hp'

/-- **`FdoD3ToD0`**, from the power state that it asserts. -/
theorem fdoD3ToD0_spec (hd : s.fdo.Down) (hp : ∀ p ∈ s.pdos, p.Coupled) :
    fdoD3ToD0.Ensures (fun st s' => FdoDevice.WakeLeaves st s'.fdo ∧ ∀ p ∈ s'.pdos, p.Coupled)
      s := by
  have hfails {st : NtStatus} {s' : PowerBus}
      (h : st.ntSuccess = false ∧ s'.fdo.Down ∧ s'.pdos = s.pdos) :
      FdoDevice.WakeLeaves st s'.fdo ∧ ∀ p ∈ s'.pdos, p.Coupled := by
    refine ⟨⟨fun ok => absurd (h.1.symm.trans ok) nofun, fun _ => h.2.1⟩, ?_⟩
    rw [h.2.2]
    exact hp
  have hpower := hd.power
  obtain ⟨hs, ht, hw, hscan, hc, hl⟩ := FdoDevice.taken_nothing.mpr hd.holds
  refine .askOr (fun a no => .pure (hfails ⟨no, hd, rfl⟩)) fun a _ => ?_
  refine .bind (onFdo_spec ?_)
  have hs₁ : s.fdo.suspendRefs + 1 = 1 := by simp [hs]
  refine .askOr (fun a no => ?_) fun a _ => ?_
  · refine Ensures.mono (fdoFail2_spec no ?_ ?_ ?_) fun _ _ => hfails
    · exact ⟨hs₁, ht, hw, hscan, hc, hl⟩
    · exact hpower
    · rfl
  refine .bind (onFdo_spec ?_)
  have ht₂ : s.fdo.storeRefs + 1 = 1 := by simp [ht]
  refine .ask_bind fun a => ?_
  refine .bind ?_
  refine fdoWake_spec (fun no => .ite (fun _ => ?_) fun yes => ?_) fun _ => .ite nofun fun _ => ?_
  · refine Ensures.mono (fdoFail3_spec no ?_ ?_ ?_) fun _ _ => hfails
    · exact ⟨hs₁, ht₂, hw, hscan, hc, hl⟩
    · exact hpower
    · rfl
  · rw [no] at yes
    exact absurd rfl yes
  have hw₃ : s.fdo.watches + 1 = 1 := by simp [hw]
  refine .askOr (fun a no => ?_) fun a _ => ?_
  · refine Ensures.mono (fdoFail4_spec no ?_ ?_ ?_) fun _ _ => hfails
    · exact ⟨hs₁, ht₂, hw₃, rfl, hc, hl⟩
    · exact hpower
    · rfl
  refine .bind (onFdo_spec ?_)
  refine .bind (onDx_spec ?_)
  refine .get_bind ?_
  have hc₄ : s.fdo.lateCallbacks + 1 = 1 := by simp [hc]
  have hall : (FdoDevice.mk { s.fdo.dx with devicePowerState := .d0, scanWatch := true,
                                            suspendCallbackLate := true }
      (s.fdo.suspendRefs + 1) (s.fdo.storeRefs + 1) (s.fdo.lateCallbacks + 1)
      (s.fdo.watches + 1)).HoldsAll := ⟨hs₁, ht₂, hw₃, hc₄, rfl, rfl⟩
  refine .bind ((resumeAll_spec hall hp).mono fun pdos s' h' => ?_)
  refine .modify_bind ?_
  refine .pure ?_
  obtain ⟨rfl, hpdos⟩ := h'
  exact ⟨⟨fun _ => ⟨rfl, hall⟩, nofun⟩, hpdos⟩

/-- **`FdoD0ToD3`**, from the power state that it asserts. -/
theorem fdoD0ToD3_spec (hu : s.fdo.Up) (hp : ∀ p ∈ s.pdos, p.Coupled) :
    fdoD0ToD3.Ensures (fun _ s' => s'.fdo.Down ∧ ∀ p ∈ s'.pdos, p.Coupled) s := by
  obtain ⟨hs, ht, hw, hc, hscan, hl⟩ := hu.holds
  have hpdos : ∀ p ∈ (suspendAll s).pdos, p.Coupled := by
    intro p hmem
    obtain ⟨q, hq, rfl⟩ := List.mem_map.mp hmem
    split
    · exact hp q hq
    · exact (hp q hq).withPnp _
  refine .modify_bind ?_
  refine .ask_bind fun a => ?_
  refine .bind ?_
  refine (ifSuspended_spec (s := suspendAll s) (.inl hu.holds) a).mono fun _ s₁ h₁ => ?_
  subst h₁
  refine .bind (onDx_spec ?_)
  refine .ask_bind fun a => ?_
  refine .bind ?_
  refine Ensures.mono (ifSuspended_spec (.inl ?_) a) fun _ s₂ h₂ => ?_
  · exact ⟨hs, ht, hw, hc, hscan, hl⟩
  subst h₂
  refine .bind (onFdo_spec ?_)
  refine .bind (fdoSleep_spec ?_)
  refine .bind (onFdo_spec (onFdo_spec ?_))
  refine ⟨⟨rfl, ?_, ?_, ?_, ?_, rfl, rfl⟩, hpdos⟩
  · show s.fdo.suspendRefs - 1 = 0
    omega
  · show s.fdo.storeRefs - 1 = 0
    omega
  · show s.fdo.watches - 1 = 0
    omega
  · show s.fdo.lateCallbacks - 1 = 0
    omega

/-! What comes to the FDO keeps the coupling. -/

/-- What is not about power. -/
theorem onDx_coupled (h : s.Coupled) {g : FdoDx → FdoDx}
    (hp : (g s.fdo.dx).devicePowerState = s.fdo.dx.devicePowerState)
    (hw : (g s.fdo.dx).scanWatch = s.fdo.dx.scanWatch)
    (hl : (g s.fdo.dx).suspendCallbackLate = s.fdo.dx.suspendCallbackLate) :
    (onDx g).Ensures (fun _ s' => s'.Coupled) s := onDx_spec ⟨h.fdo.withDx hp hw hl, h.pdos⟩

theorem setPnp_coupled (h : s.Coupled) (state : FdoPnpState) :
    (onDx (·.setDevicePnpState state)).Ensures (fun _ s' => s'.Coupled) s :=
  onDx_coupled h rfl rfl rfl

theorem restorePnp_coupled (h : s.Coupled) (state : FdoPnpState) :
    (onDx (·.restoreDevicePnpState state)).Ensures (fun _ s' => s'.Coupled) s := by
  have hrest (f : FdoDx) : f.restoreDevicePnpState state = f ∨
      f.restoreDevicePnpState state = { f with devicePnpState := f.previousDevicePnpState } := by
    unfold FdoDx.restoreDevicePnpState
    split
    · exact .inr rfl
    · exact .inl rfl
  rcases hrest s.fdo.dx with e | e
  · exact onDx_coupled h (by rw [e]) (by rw [e]) (by rw [e])
  · exact onDx_coupled h (by rw [e]) (by rw [e]) (by rw [e])

theorem fdoPowerDown_spec (h : s.Coupled) : fdoPowerDown.Ensures (fun _ s' => s'.Coupled) s := by
  refine .get_bind (.ite (fun hd0 => ?_) fun _ => .pure h)
  exact (fdoD0ToD3_spec ⟨hd0, h.fdo.d0.mp hd0⟩ h.pdos).mono fun _ _ h' => ⟨h'.1.coupled, h'.2⟩

theorem fdoEndScan_spec (h : s.Coupled) : fdoEndScan.Ensures (fun _ s' => s'.Coupled) s :=
  onDx_coupled h rfl rfl rfl

theorem fdoStartDevice_spec (h : s.Coupled) (hd3 : s.fdo.dx.devicePowerState = .d3) :
    fdoStartDevice.Ensures (fun _ s' => s'.Coupled) s := by
  refine .askOr (fun _ _ => .pure h) fun _ _ => .askOr (fun _ _ => .pure h) fun _ _ => ?_
  refine .bind (onDx_spec ?_)
  refine .bind ?_
  have hdown : ({ s.fdo with dx := { s.fdo.dx with scanThread := true } }).Down := by
    obtain ⟨hs, ht, hw, hc, hscan, hl⟩ := h.fdo.d3.mp hd3
    exact ⟨hd3, hs, ht, hw, hc, hscan, hl⟩
  refine Ensures.mono (fdoD3ToD0_spec hdown h.pdos) fun st s₁ h₁ => ?_
  have hcoupled : s₁.Coupled := ⟨h₁.1.coupled, h₁.2⟩
  refine .ite (fun _ => .bind ?_) fun _ => .bind ?_
  · exact (onDx_coupled (g := fun f => { f with scanThread := false }) hcoupled rfl rfl rfl).mono
      fun _ _ h' => .pure h'
  · exact (setPnp_coupled hcoupled .started).mono fun _ _ h' => .pure h'

theorem fdoRemoveDevice_spec (h : s.Coupled) :
    fdoRemoveDevice.Ensures (fun _ s' => s'.Coupled) s := by
  have hremove : fdoRemoveStarted.Ensures (fun _ s' => s'.Coupled) s := by
    have hpdos : ({ s with pdos := removeAll s.pdos }).Coupled := by
      refine ⟨h.fdo, fun p hp => ?_⟩
      obtain ⟨q, hq, rfl⟩ := List.mem_map.mp hp
      exact (h.pdos q (List.mem_of_mem_filter hq)).withPnp _
    refine .modify_bind ?_
    exact .bind ((fdoPowerDown_spec hpdos).mono fun _ _ h' => fdoEndScan_spec h')
  refine .get_bind (.ite (fun _ => ?_) fun _ => setPnp_coupled h _)
  exact .bind (hremove.mono fun _ _ h' => setPnp_coupled h' _)

theorem fdoSetDevicePower_spec (h : s.Coupled) (state : RequestedPowerState)
    (hd3 : state.ordinal < s.fdo.dx.devicePowerState.ordinal → s.fdo.dx.devicePowerState = .d3) :
    (fdoSetDevicePower state).Ensures (fun _ s' => s'.Coupled) s := by
  refine .get_bind (.ite (fun _ => .pure h) fun _ => .ite (fun hup => ?_) fun _ => ?_)
  · refine .bind (.askOr (fun _ _ => .pure (.pure h)) fun _ _ => ?_)
    have hpower := hd3 hup
    exact (fdoD3ToD0_spec ⟨hpower, h.fdo.d3.mp hpower⟩ h.pdos).mono fun _ _ h' =>
      .pure ⟨h'.1.coupled, h'.2⟩
  · exact fdoPowerDown_spec h

/-! All of it returns. -/

theorem total_ifSuspended (a : PowerAnswer) : Total (ifSuspended a) := by
  have wake (status : NtStatus) : Total (fdoWake status) :=
    .ite .pure (.bind .modify fun _ => .pure)
  refine .bind .get fun _ => .ite ?_ .pure
  refine .bind .modify fun _ => ?_
  exact .bind (wake _) fun _ => .pure

theorem total_fdoD3ToD0 : Total fdoD3ToD0 := by
  have fail2 (status : NtStatus) : Total (fdoFail2 status) := .bind .modify fun _ => .pure
  have fail3 (status : NtStatus) : Total (fdoFail3 status) := .bind .modify fun _ => fail2 status
  have fail4 (status : NtStatus) : Total (fdoFail4 status) := .bind .modify fun _ => fail3 status
  have resumes (pdos : List PdoDevice) : Total (resumeAll pdos) := by
    induction pdos with
    | nil => exact .pure
    | cons p pdos ih =>
        refine .bind .ask fun _ => ?_
        refine .bind (total_ifSuspended _) fun _ => ?_
        exact .bind ih fun _ => .pure
  refine .bind .ask fun _ => .ite .pure ?_
  refine .bind .modify fun _ => ?_
  refine .bind .ask fun _ => ?_
  refine .ite (fail2 _) ?_
  refine .bind .modify fun _ => ?_
  refine .bind .ask fun _ => ?_
  refine .bind ?_ fun _ => ?_
  · refine .ite .pure ?_
    exact .bind .modify fun _ => .pure
  refine .ite (fail3 _) ?_
  refine .bind .ask fun _ => .ite (fail4 _) ?_
  refine .bind .modify fun _ => ?_
  refine .bind .modify fun _ => ?_
  refine .bind .get fun _ => ?_
  refine .bind (resumes _) fun _ => ?_
  exact .bind .modify fun _ => .pure

theorem total_fdoPowerDown : Total fdoPowerDown := by
  refine .bind .get fun _ => .ite ?_ .pure
  refine .bind .modify fun _ => ?_
  refine .bind .ask fun _ => ?_
  refine .bind (total_ifSuspended _) fun _ => ?_
  refine .bind .modify fun _ => ?_
  refine .bind .ask fun _ => ?_
  refine .bind (total_ifSuspended _) fun _ => ?_
  refine .bind .modify fun _ => ?_
  refine .bind .modify fun _ => ?_
  exact .bind .modify fun _ => .modify

theorem total_run (op : FdoPowerOp) : Total op.run := by
  cases op with
  | startDevice =>
      refine .bind (.bind .ask fun _ => .ite .pure ?_) fun _ => .pure
      refine .bind .ask fun _ => .ite .pure ?_
      refine .bind .modify fun _ => ?_
      refine .bind total_fdoD3ToD0 fun _ => ?_
      refine .ite ?_ ?_
      · exact .bind .modify fun _ => .pure
      · exact .bind .modify fun _ => .pure
  | stopDevice =>
      refine .bind total_fdoPowerDown fun _ => ?_
      exact .bind .modify fun _ => .modify
  | removeDevice =>
      refine .bind .get fun _ => .ite ?_ .modify
      refine .bind ?_ fun _ => .modify
      refine .bind .modify fun _ => ?_
      exact .bind total_fdoPowerDown fun _ => .modify
  | setDevicePower state =>
      refine .bind .get fun _ => .ite .pure (.ite ?_ total_fdoPowerDown)
      refine .bind ?_ fun _ => .pure
      exact .bind .ask fun _ => .ite .pure total_fdoD3ToD0
  | suspend => exact .bind .ask fun _ => total_ifSuspended _
  | queryStopDevice | cancelStopDevice | queryRemoveDevice | cancelRemoveDevice => exact .modify
  | surpriseRemoval => exact .bind .modify fun _ => .modify

/-- **Whatever comes to the FDO**, where `FdoD3ToD0` finds it in D3. -/
theorem behind_coupled (h : s.Coupled) (op : FdoPowerOp) (tape : Nat → PowerAnswer)
    (hp : AsAsserted s (.fdo op tape)) : (s.behind op tape).Coupled := by
  have of_spec (hspec : op.run.Ensures (fun _ s' => s'.Coupled) s) :
      (s.behind op tape).Coupled := by
    obtain ⟨r, hr⟩ := total_run op tape 0 s
    have hrun := hspec tape 0
    unfold behind
    rw [hr] at hrun ⊢
    exact hrun
  -- an IRP that the lower device fails, or no scan thread: `FdoD3ToD0` is not come to
  have of_run {n : Nat} (hrun : op.run tape 0 s = .returns ((), n, s)) :
      (s.behind op tape).Coupled := by
    unfold behind
    rw [hrun]
    exact h
  cases op with
  | startDevice =>
      by_cases hd3 : s.fdo.dx.devicePowerState = .d3
      · exact of_spec (.bind ((fdoStartDevice_spec h hd3).mono fun _ _ h' => .pure h'))
      · cases h0 : (tape 0).status.ntSuccess with
        | false =>
            exact of_run (n := 1) (by simp [FdoPowerOp.run, fdoStartDevice, h0])
        | true =>
            have h1 : (tape 1).status.ntSuccess = false := by
              cases h1 : (tape 1).status.ntSuccess with
              | false => rfl
              | true => exact absurd (hp h0 h1) hd3
            exact of_run (n := 2) (by simp [FdoPowerOp.run, fdoStartDevice, h0, h1])
  | stopDevice =>
      exact of_spec (.bind ((fdoPowerDown_spec h).mono fun _ _ h₁ =>
        .bind ((fdoEndScan_spec h₁).mono fun _ _ h₂ => setPnp_coupled h₂ _)))
  | removeDevice => exact of_spec (fdoRemoveDevice_spec h)
  | setDevicePower state =>
      by_cases hd3 : state.ordinal < s.fdo.dx.devicePowerState.ordinal →
          s.fdo.dx.devicePowerState = .d3
      · exact of_spec (fdoSetDevicePower_spec h state hd3)
      · obtain ⟨hup, hd0⟩ := Classical.not_imp.mp hd3
        have h0 : (tape 0).status.ntSuccess = false := by
          cases h0 : (tape 0).status.ntSuccess with
          | false => rfl
          | true => exact absurd (hp hup h0) hd0
        refine of_run (n := 1) ?_
        simp [FdoPowerOp.run, fdoSetDevicePower, fdoSetDevicePowerUp, h0, hup, Nat.ne_of_lt hup]
  | suspend =>
      refine of_spec (.bind (.ask fun a => ?_))
      have hholds := (FdoDevice.coupled_iff.mp h.fdo).imp (·.holds) (·.holds)
      exact (ifSuspended_spec hholds a).mono fun _ s' hs' => hs' ▸ h
  | queryStopDevice => exact of_spec (setPnp_coupled h _)
  | cancelStopDevice => exact of_spec (restorePnp_coupled h _)
  | queryRemoveDevice => exact of_spec (setPnp_coupled h _)
  | cancelRemoveDevice => exact of_spec (restorePnp_coupled h _)
  | surpriseRemoval =>
      refine of_spec (.bind ((setPnp_coupled h _).mono fun _ s₁ h₁ => .modify ⟨h₁.fdo, ?_⟩))
      intro p hmem
      obtain ⟨q, hq, rfl⟩ := List.mem_map.mp hmem
      exact (h₁.pdos q hq).withPnp _

end PowerBus

/-! ## 3. The FDO of the PnP machine -/

/-- What the FDO knows of itself, power apart. -/
def FdoDx.unpowered (f : FdoDx) : FdoDx :=
  { f with devicePowerState := .d3, scanWatch := false, suspendCallbackLate := false }

namespace PowerBus

section Frames

/-- `s.fdo.dx.unpowered` -/
def unpowered (s : PowerBus) : FdoDx := s.fdo.dx.unpowered

theorem keeps_onFdo {g : FdoDevice → FdoDevice}
    (hg : ∀ f, (g f).dx.unpowered = f.dx.unpowered) : Keeps unpowered (onFdo g) :=
  .modify fun s => hg s.fdo

theorem keeps_fdoWake (status : NtStatus) : Keeps unpowered (fdoWake status) :=
  .ite .pure (.bind (keeps_onFdo fun _ => rfl) fun _ => .pure)

theorem keeps_fdoSleep : Keeps unpowered fdoSleep := keeps_onFdo fun _ => rfl

theorem keeps_ifSuspended (a : PowerAnswer) : Keeps unpowered (ifSuspended a) := by
  refine .bind .get fun _ => .ite ?_ .pure
  refine .bind keeps_fdoSleep fun _ => ?_
  exact .bind (keeps_fdoWake _) fun _ => .pure

theorem keeps_resumeAll (pdos : List PdoDevice) : Keeps unpowered (resumeAll pdos) := by
  induction pdos with
  | nil => exact .pure
  | cons p pdos ih =>
      refine .bind .ask fun a => ?_
      refine .bind (keeps_ifSuspended a) fun _ => ?_
      exact .bind ih fun _ => .pure

theorem keeps_fdoD3ToD0 : Keeps unpowered fdoD3ToD0 := by
  have fail2 (status : NtStatus) : Keeps unpowered (fdoFail2 status) :=
    .bind (keeps_onFdo fun _ => rfl) fun _ => .pure
  have fail3 (status : NtStatus) : Keeps unpowered (fdoFail3 status) :=
    .bind (keeps_onFdo fun _ => rfl) fun _ => fail2 status
  have fail4 (status : NtStatus) : Keeps unpowered (fdoFail4 status) :=
    .bind keeps_fdoSleep fun _ => fail3 status
  refine .bind .ask fun _ => .ite .pure ?_
  refine .bind (keeps_onFdo fun _ => rfl) fun _ => ?_
  refine .bind .ask fun _ => .ite (fail2 _) ?_
  refine .bind (keeps_onFdo fun _ => rfl) fun _ => ?_
  refine .bind .ask fun _ => ?_
  refine .bind (keeps_fdoWake _) fun _ => .ite (fail3 _) ?_
  refine .bind .ask fun _ => .ite (fail4 _) ?_
  refine .bind (keeps_onFdo fun _ => rfl) fun _ => ?_
  refine .bind (keeps_onFdo fun _ => rfl) fun _ => ?_
  refine .bind .get fun _ => ?_
  refine .bind (keeps_resumeAll _) fun _ => ?_
  exact .bind (.modify fun _ => rfl) fun _ => .pure

theorem keeps_fdoD0ToD3 : Keeps unpowered fdoD0ToD3 := by
  refine .bind (.modify fun _ => rfl) fun _ => ?_
  refine .bind .ask fun _ => ?_
  refine .bind (keeps_ifSuspended _) fun _ => ?_
  refine .bind (keeps_onFdo fun _ => rfl) fun _ => ?_
  refine .bind .ask fun _ => ?_
  refine .bind (keeps_ifSuspended _) fun _ => ?_
  refine .bind (keeps_onFdo fun _ => rfl) fun _ => ?_
  refine .bind keeps_fdoSleep fun _ => ?_
  exact .bind (keeps_onFdo fun _ => rfl) fun _ => keeps_onFdo fun _ => rfl

end Frames

variable {s s' : PowerBus}

/-- The power state, what is held and the rest make up what the FDO knows of itself. -/
theorem dx_of_rest (hrest : s'.unpowered = s.unpowered) :
    s'.fdo.dx = { s.fdo.dx with devicePowerState := s'.fdo.dx.devicePowerState,
                                scanWatch := s'.fdo.dx.scanWatch,
                                suspendCallbackLate := s'.fdo.dx.suspendCallbackLate } :=
  calc s'.fdo.dx
      = { s'.unpowered with devicePowerState := s'.fdo.dx.devicePowerState,
                            scanWatch := s'.fdo.dx.scanWatch,
                            suspendCallbackLate := s'.fdo.dx.suspendCallbackLate } := rfl
    _ = { s.unpowered with devicePowerState := s'.fdo.dx.devicePowerState,
                           scanWatch := s'.fdo.dx.scanWatch,
                           suspendCallbackLate := s'.fdo.dx.suspendCallbackLate } := by rw [hrest]
    _ = _ := rfl

theorem dx_of_down (h : s'.fdo.Down) (hrest : s'.unpowered = s.unpowered) :
    s'.fdo.dx = s.fdo.dx.d0ToD3 := by
  rw [dx_of_rest hrest, h.power, h.holds.scanWatch, h.holds.suspendCallbackLate]
  rfl

/-- **`FdoD3ToD0`** is what the PnP machine has for it, with some outcome. -/
theorem fdoD3ToD0_dx (hd : s.fdo.Down) (hp : ∀ p ∈ s.pdos, p.Coupled) :
    fdoD3ToD0.Ensures
      (fun st s' => ∃ wake, s.fdo.dx.d3ToD0 wake = (st.ntSuccess, s'.fdo.dx)) s := by
  refine ((fdoD3ToD0_spec hd hp).and (keeps_fdoD3ToD0 s)).mono fun st s' h => ?_
  cases hs : st.ntSuccess with
  | true =>
      refine ⟨.success, ?_⟩
      have hup := h.1.1.1 hs
      rw [dx_of_rest h.2, hup.power, hup.holds.scanWatch, hup.holds.suspendCallbackLate]
      rfl
  | false =>
      refine ⟨.failed, ?_⟩
      -- in D3 there was nothing to give back
      rw [dx_of_down (h.1.1.2 hs) h.2, ← dx_of_down hd rfl]
      rfl

/-- So is **`FdoD0ToD3`**. -/
theorem fdoD0ToD3_dx (hu : s.fdo.Up) (hp : ∀ p ∈ s.pdos, p.Coupled) :
    fdoD0ToD3.Ensures (fun _ s' => s'.fdo.dx = s.fdo.dx.d0ToD3) s :=
  ((fdoD0ToD3_spec hu hp).and (keeps_fdoD0ToD3 s)).mono fun _ _ h => dx_of_down h.1.1 h.2

end PowerBus

/-! ## 4. Runs -/

theorem powerBus_init : PowerBus.init.Coupled where
  fdo := FdoDevice.Down.coupled ⟨rfl, rfl, rfl, rfl, rfl, rfl, rfl⟩
  pdos p hp := by
    rw [List.mem_singleton.mp hp]
    exact PdoDevice.Down.coupled ⟨rfl, rfl, rfl, rfl⟩

/-- **A step keeps the coupling.** -/
theorem coupled_next {s : PowerBus} {l : DeviceLabel} (h : s.Coupled) (hl : AsAsserted s l) :
    (deviceNext s l).Coupled := by
  cases l with
  | pdo i op tape =>
      cases hi : s.pdos[i]? with
      | none =>
          have hnext : deviceNext s (.pdo i op tape) = s := by simp only [deviceNext, hi]
          rwa [hnext]
      | some p =>
          have hp : p.Coupled := h.pdos p (List.mem_of_getElem? hi)
          have hnext : deviceNext s (.pdo i op tape) = s.put i (p.behind op tape) := by
            simp only [deviceNext, hi]
          rw [hnext]
          cases hb : p.behind op tape with
          | none => exact ⟨h.fdo, fun q hq => h.pdos q (List.mem_of_mem_eraseIdx hq)⟩
          | some p' =>
              refine ⟨h.fdo, fun q hq => ?_⟩
              rcases List.mem_or_eq_of_mem_set hq with hq | rfl
              · exact h.pdos q hq
              · exact PdoDevice.behind_coupled hp hb
  | fdo op tape => exact PowerBus.behind_coupled h op tape hl
  | create name =>
      refine ⟨h.fdo, fun p hp => ?_⟩
      rcases List.mem_append.mp hp with hp | hp
      · exact h.pdos p hp
      · rw [List.mem_singleton.mp hp]
        exact PdoDevice.Down.coupled ⟨rfl, rfl, rfl, rfl⟩

/-- **A device is in D0 exactly while it holds what D0 takes.** In every run of operations on the
    devices, with any outcome of what they call, a PDO is in D0 exactly while it holds one reference
    on the suspend interface and a registered callback, and the FDO exactly while it holds one on
    the suspend interface and one on the store, the scan watch and a registered callback; and a
    transition to D0 that fails leaves the device in D3 with none of it. -/
theorem power_state_holds {s : PowerBus} (h : Reach deviceSystem AsAsserted .init s) :
    (∀ p ∈ s.pdos, p.Coupled) ∧ s.fdo.Coupled ∧
    (∀ p ∈ s.pdos, ∀ tape n, ∃ status n' p',
      PdoDevice.d3ToD0 tape n p = .returns (status, n', p') ∧ (status.ntSuccess = false →
        p'.devicePowerState = .d3 ∧ p'.HoldsNothing)) ∧
    (s.fdo.dx.devicePowerState = .d3 → ∀ tape n, ∃ status n' s',
      PowerBus.fdoD3ToD0 tape n s = .returns (status, n', s') ∧ (status.ntSuccess = false →
        s'.fdo.dx.devicePowerState = .d3 ∧ s'.fdo.HoldsNothing)) := by
  have hinv : s.Coupled := h.invariant powerBus_init fun _ _ hs _ hl => coupled_next hs hl
  refine ⟨hinv.pdos, hinv.fdo, fun p hp tape n => ?_, fun hd3 tape n => ?_⟩
  · obtain ⟨⟨status, n', p'⟩, hrun⟩ := PdoDevice.total_d3ToD0 tape n p
    have hspec := PdoDevice.d3ToD0_spec (hinv.pdos p hp) tape n
    refine ⟨status, n', p', hrun, fun hs => ?_⟩
    have hdown := (hspec.of_returns hrun).2 hs
    exact ⟨hdown.power, hdown.holds⟩
  · obtain ⟨⟨status, n', s'⟩, hrun⟩ := PowerBus.total_fdoD3ToD0 tape n s
    have hspec := PowerBus.fdoD3ToD0_spec ⟨hd3, hinv.fdo.d3.mp hd3⟩ hinv.pdos tape n
    refine ⟨status, n', s', hrun, fun hs => ?_⟩
    have hdown := (hspec.of_returns hrun).1.2 hs
    exact ⟨hdown.power, hdown.holds⟩

/-- Everything succeeds, and the domain is suspended all the time. -/
def obliging (_ : Nat) : PowerAnswer := ⟨.success, true, .success, rfl⟩

/-- The FDO starts, and so does a console; the domain is suspended, the console is started again,
    put to sleep and woken, and then the FDO stops. -/
def startsAndSleeps : List DeviceLabel :=
  [.fdo .startDevice obliging, .create (some "1"), .pdo 1 .startDevice obliging,
    .fdo .suspend obliging, .pdo 1 .suspend obliging, .pdo 1 .startDevice obliging,
    .pdo 1 (.setDevicePower .d3) obliging, .pdo 1 (.setDevicePower .d0) obliging,
    .fdo .stopDevice obliging]

theorem reach_startsAndSleeps : Reach deviceSystem AsAsserted .init
    (runs deviceSystem .init startsAndSleeps) :=
  .of_admits startsAndSleeps .start
    ⟨trivial, fun _ _ => rfl, trivial, trivial, trivial, trivial, trivial, trivial, trivial,
      trivial, trivial, trivial, trivial, trivial, trivial, trivial, trivial, trivial, trivial⟩

theorem power_state_holds_startsAndSleeps :
    ((runs deviceSystem .init startsAndSleeps).pdos.map (·.devicePowerState) = [.d3, .d0]) ∧
    (∀ p ∈ (runs deviceSystem .init startsAndSleeps).pdos, p.Coupled) :=
  ⟨by decide +kernel, (power_state_holds reach_startsAndSleeps).1⟩

end Xencons
