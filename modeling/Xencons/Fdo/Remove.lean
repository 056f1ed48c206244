import Xencons.Fdo.Objects

/-!
# What is left behind a REMOVE_DEVICE (fdo.c)

`FdoRemoveDevice` takes the bus down only where the state before the last one was Started. It is
asked at the end of any history, and a second IRP behind the one that left Started is enough to make
it forget.

* `FdoDx.admits`, `Admissible` -- the orders in which a PnP manager sends the FDO its IRPs;
* `Orderly` -- the FDO is up as a whole or down as a whole, and what its states say of that:
  `orderly_next`;
* `Owned` -- the FDO's own reference is counted, and the FDO is there: `owned_next`;
* `walk_removed` -- the loop of `FdoRemoveDevice` leaves PDOs in SurpriseRemovePending, and no
  others;
* `remove_cleans_up` -- the result.
-/

namespace Xencons

open Lib PnpSys

/-! ## 1. The FDO by itself -/

/-- In which state of the FDO an IRP may come. -/
def FdoDx.admits (f : FdoDx) : FdoIrp → Bool
  | .startDevice _ _ _ => f.devicePnpState = .added || f.devicePnpState = .stopped
  | .queryStopDevice => f.devicePnpState = .started
  | .stopDevice => f.devicePnpState = .stopPending
  | .queryRemoveDevice =>
    f.devicePnpState = .added || f.devicePnpState = .started || f.devicePnpState = .stopped
  | .cancelStopDevice | .cancelRemoveDevice | .surpriseRemoval | .removeDevice
  | .queryDeviceRelations _ _ => true

/-- The IRPs to the FDO come in order; anything else comes at any time. -/
def Admissible (s : PnpSys) : PnpLabel → Prop
  | .fdo irp => s.fdo.admits irp
  | _ => True

instance (s : PnpSys) : (l : PnpLabel) → Decidable (Admissible s l)
  | .fdo _ => inferInstanceAs (Decidable (_ = true))
  | .pdo _ _ | .scan _ | .requestEject _ => .isTrue trivial

/-- `up`: a state in which the FDO is in D0. -/
def FdoPnpState.up : FdoPnpState → Bool
  | .started | .stopPending => true
  | _ => false

/-- ... and one in which it is in D3. -/
def FdoPnpState.down : FdoPnpState → Bool
  | .added | .stopped => true
  | _ => false

/-- **What holds of the FDO** before its REMOVE_DEVICE. -/
structure Orderly (f : FdoDx) : Prop where
  thread : f.scanThread = decide (f.devicePowerState = .d0)
  watch : f.scanWatch = decide (f.devicePowerState = .d0)
  callback : f.suspendCallbackLate = decide (f.devicePowerState = .d0)
  up : f.devicePnpState.up = true → f.devicePowerState = .d0
  started : f.previousDevicePnpState = .started → f.devicePowerState = .d0
  down : f.devicePnpState.down = true → f.devicePowerState = .d3
  /-- what a cancel goes back to -/
  stopPending : f.devicePnpState = .stopPending → f.previousDevicePnpState = .started
  removePending : f.devicePnpState = .removePending → f.previousDevicePnpState = .started ∨
    f.previousDevicePnpState.down = true ∧ f.devicePowerState = .d3

section Alone

variable {f : FdoDx}

/-- A state is set, and the power state stays. -/
theorem Orderly.set (h : Orderly f) {state : FdoPnpState}
    (hup : state.up = true → f.devicePowerState = .d0) (hdown : state.down = false)
    (hstop : state = .stopPending → f.devicePnpState = .started)
    (hremove : state = .removePending →
      f.devicePnpState = .started ∨ f.devicePnpState.down = true) :
    Orderly (f.setDevicePnpState state) where
  thread := h.thread
  watch := h.watch
  callback := h.callback
  up := hup
  started hs := h.up (by rw [show f.devicePnpState = .started from hs]; rfl)
  down hd := by rw [show state.down = true from hd] at hdown; cases hdown
  stopPending := hstop
  removePending hr := (hremove hr).imp_right fun hd => ⟨hd, h.down hd⟩

/-- A start that fails leaves what was there, where nothing was. -/
theorem startDevice_cases (ht : f.scanThread = false) (hw : f.scanWatch = false)
    (forwarded threadCreated : Bool) (wake : WakeOutcome) :
    f.startDevice forwarded threadCreated wake = f ∨
      f.startDevice forwarded threadCreated wake =
        ⟨.started, f.devicePnpState, .d0, true, true, true⟩ := by
  obtain ⟨state, previous, power, thread, watch, callback⟩ := f
  obtain rfl : thread = false := ht
  obtain rfl : watch = false := hw
  unfold FdoDx.startDevice
  split
  · cases wake with
    | success => exact .inr rfl
    | failed | registerFailed => exact .inl rfl
  · exact .inl rfl

/-- **A start**, from a state in which the FDO is down. -/
theorem Orderly.startDevice (h : Orderly f) (hf : f.devicePnpState.down = true)
    (forwarded threadCreated : Bool) (wake : WakeOutcome) :
    Orderly (f.startDevice forwarded threadCreated wake) := by
  have hd3 : f.devicePowerState = .d3 := h.down hf
  have ht : f.scanThread = false := by rw [h.thread, hd3]; rfl
  have hw : f.scanWatch = false := by rw [h.watch, hd3]; rfl
  rcases startDevice_cases ht hw forwarded threadCreated wake with e | e
  · rw [e]
    exact h
  · rw [e]
    exact ⟨rfl, rfl, rfl, fun _ => rfl, fun _ => rfl, nofun, nofun, nofun⟩

theorem FdoPnpState.down_iff {state : FdoPnpState} :
    state.down = true ↔ state = .added ∨ state = .stopped := by
  cases state <;> simp [FdoPnpState.down]

/-- **A cancel** goes back to a state that the power state agrees with. -/
theorem Orderly.restore (h : Orderly f) {state : FdoPnpState}
    (hs : state = .stopPending ∨ state = .removePending) :
    Orderly (f.restoreDevicePnpState state) := by
  unfold FdoDx.restoreDevicePnpState
  split
  · rename_i hf
    have hback : f.previousDevicePnpState = .started ∨
        f.previousDevicePnpState.down = true ∧ f.devicePowerState = .d3 := by
      rcases hs with rfl | rfl
      · exact .inl (h.stopPending hf)
      · exact h.removePending hf
    rcases hback with e | ⟨hd, hd3⟩
    · exact ⟨h.thread, h.watch, h.callback, fun _ => h.started e, h.started, by rw [e]; nofun,
        fun _ => e, fun _ => .inl e⟩
    · rcases FdoPnpState.down_iff.mp hd with e | e <;>
        exact ⟨h.thread, h.watch, h.callback, by rw [e]; nofun, h.started, fun _ => hd3,
          by rw [e]; nofun, fun _ => .inr ⟨hd, hd3⟩⟩
  · exact h

/-- `FdoD0ToD3` and the join, whatever is up. -/
theorem Orderly.powerDown (h : Orderly f) : f.powerDown =
    ⟨f.devicePnpState, f.previousDevicePnpState, .d3, false, false, false⟩ := by
  have hw := h.watch
  have hc := h.callback
  obtain ⟨state, previous, power, thread, watch, callback⟩ := f
  dsimp only at hw hc
  cases power with
  | d0 => rfl
  | d3 =>
      rw [hw, hc]
      rfl

end Alone

/-! ## 2. The FDO in its bus -/

section Steps

variable {s : PnpSys} {i : Nat} {op : PdoOp}

theorem fdo_pdoDispatchPnp : (s.pdoDispatchPnp i op).fdo = s.fdo := by
  unfold pdoDispatchPnp
  split
  · rfl
  · split
    · exact testReferences_frame.1.trans (sameFdo_onPdo s i op).fdo
    · exact (sameFdo_onPdo s i op).fdo

theorem fdo_fdoQueryDeviceRelations (allocated forwarded : Bool) :
    (s.fdoQueryDeviceRelations allocated forwarded).fdo = s.fdo := by
  unfold fdoQueryDeviceRelations
  split
  · dsimp only
    split
    · exact sameFdo_walk.fdo.trans sameFdo_walk.fdo
    · exact sameFdo_walk.fdo
  · rfl

/-- Nothing but an IRP to the FDO changes what is known of it. -/
theorem fdo_untouched {l : PnpLabel} (hl : ∀ irp, l ≠ .fdo irp) : (pnpNext s l).fdo = s.fdo := by
  cases l with
  | fdo irp => exact absurd rfl (hl irp)
  | pdo i op => exact fdo_pdoDispatchPnp
  | scan c => exact (fdoScan_frame c).1
  | requestEject i => exact (sameFdo_onPdo s i _).fdo

theorem fdoRemoveDevice_deleted : s.fdoRemoveDevice.fdo.devicePnpState = .deleted := by
  unfold fdoRemoveDevice
  rw [testReferences_frame.1]
  rfl

/-- The FDO does not leave Deleted. -/
theorem deleted_next {l : PnpLabel} (h : s.fdo.devicePnpState = .deleted) :
    (pnpNext s l).fdo.devicePnpState = .deleted := by
  cases l with
  | fdo irp =>
      simp only [pnpNext, fdoDispatchPnp]
      rwa [if_pos h]
  | pdo | scan | requestEject =>
      rw [fdo_untouched]
      · exact h
      · exact nofun

/-- **A step that is in order** leaves the FDO in order, or in Deleted. -/
theorem orderly_next {l : PnpLabel} (h : Orderly s.fdo) (hs : s.fdo.devicePnpState ≠ .deleted)
    (ha : Admissible s l) :
    Orderly (pnpNext s l).fdo ∨ (pnpNext s l).fdo.devicePnpState = .deleted := by
  cases l with
  | pdo | scan | requestEject =>
      rw [fdo_untouched]
      · exact .inl h
      · exact nofun
  | fdo irp =>
      simp only [pnpNext, fdoDispatchPnp]
      rw [if_neg hs]
      cases irp with
      | startDevice forwarded threadCreated wake =>
          have hdown : s.fdo.devicePnpState.down = true := by
            rw [FdoPnpState.down_iff]
            simpa [Admissible, FdoDx.admits] using ha
          exact .inl (h.startDevice hdown _ _ _)
      | queryStopDevice =>
          have hstarted : s.fdo.devicePnpState = .started := of_decide_eq_true ha
          exact .inl (h.set (fun _ => h.up (by rw [hstarted]; rfl)) rfl (fun _ => hstarted) nofun)
      | cancelStopDevice => exact .inl (h.restore (.inl rfl))
      | stopDevice =>
          dsimp only
          rw [h.powerDown]
          have hpending : s.fdo.devicePnpState = .stopPending := of_decide_eq_true ha
          refine .inl ⟨rfl, rfl, rfl, nofun, fun e => ?_, fun _ => rfl, nofun, nofun⟩
          have e' : s.fdo.devicePnpState = .started := e
          rw [hpending] at e'
          cases e'
      | queryRemoveDevice =>
          refine .inl (h.set nofun rfl nofun fun _ => ?_)
          rw [FdoPnpState.down_iff]
          simp only [Admissible, FdoDx.admits, Bool.or_eq_true, decide_eq_true_eq] at ha
          exact or_assoc.mp (ha.imp_left Or.symm)
      | cancelRemoveDevice => exact .inl (h.restore (.inr rfl))
      | surpriseRemoval =>
          refine .inl ?_
          rw [show (s.fdoSurpriseRemoval).fdo = _ from sameFdo_walk.fdo]
          exact h.set nofun rfl nofun nofun
      | removeDevice => exact .inr fdoRemoveDevice_deleted
      | queryDeviceRelations allocated forwarded =>
          dsimp only
          rw [fdo_fdoQueryDeviceRelations]
          exact .inl h

/-! ## 3. The count -/

/-- The PDOs of the list are counted, and `n` references beside them. -/
def Referenced (n : Nat) (s : PnpSys) : Prop := s.references = s.list.length + n

/-- **What holds of the count** before the REMOVE_DEVICE. -/
def Owned (s : PnpSys) : Prop := Referenced 1 s ∧ s.fdoDestroyed = 0

theorem Referenced.onPdo {n : Nat} (h : Referenced n s) (hi : i ∈ s.list) :
    Referenced n (s.onPdo i op) := by
  unfold PnpSys.onPdo
  split
  · have hlen := List.length_erase_of_mem hi
    have hpos := List.length_pos_of_mem hi
    simp only [Referenced, pdoDestroy] at h ⊢
    omega
  · exact h

theorem Referenced.walk {β : Type} {f : β → Pdo → Option PdoOp × β} {b : β} {n : Nat}
    (h : Referenced n s) (hnd : s.list.Nodup) : Referenced n (s.walk f b).1 := by
  refine walk_keeps (I := fun _ acc => Referenced n acc.1) hnd h fun done i rest acc _ hi h => ?_
  rcases visit_cases f acc i with ⟨-, e⟩ | ⟨op, -, e⟩
  · rw [e]
    exact h
  · rw [e]
    exact h.onPdo hi

theorem Owned.walk {β : Type} {f : β → Pdo → Option PdoOp × β} {b : β} (h : Owned s)
    (hnd : s.list.Nodup) : Owned (s.walk f b).1 :=
  ⟨h.1.walk hnd, sameFdo_walk.fdoDestroyed.trans h.2⟩

theorem Owned.createAll (h : Owned s) (granted : Nat → Bool) (devices : List (AnsiString × Nat)) :
    Owned (devices.foldl (createVisit granted) s) := by
  refine List.foldlRecOn (motive := Owned) _ _ h ?_
  rintro s' ⟨h, hd⟩ d -
  unfold createVisit
  split
  · refine ⟨?_, hd⟩
    simp only [Referenced, pdoCreate, List.length_append, List.length_singleton] at h ⊢
    omega
  · exact ⟨h, hd⟩

theorem Owned.scan (h : Owned s) (hnd : s.list.Nodup) (c : ScanInput) : Owned (s.fdoScan c) := by
  unfold fdoScan
  split
  · split
    · split
      · exact (h.walk hnd).createAll _ _
      · exact h
    · exact h
  · exact h

/-- With the FDO's own reference the count is not zero. -/
theorem Owned.testReferences (h : Owned s) : s.testReferences = s := by
  have href : s.references = s.list.length + 1 := h.1
  unfold PnpSys.testReferences
  rw [if_neg (by omega)]

/-- **A step keeps the count**, short of the REMOVE_DEVICE. -/
theorem owned_next {l : PnpLabel} (h : Owned s) (ho : Objects s) (he : pnpEnabled s l)
    (hd : (pnpNext s l).fdo.devicePnpState ≠ .deleted) : Owned (pnpNext s l) := by
  cases l with
  | scan c => exact h.scan ho.nodup c
  | requestEject i => exact ⟨h.1.onPdo he, (sameFdo_onPdo s i _).fdoDestroyed.trans h.2⟩
  | pdo i op =>
      simp only [pnpNext, pdoDispatchPnp]
      split
      · exact h
      · rename_i hdel
        have hi : i ∈ s.list := by
          by_contra hn
          exact hdel (ho.gone i he.1 hn)
        have hon : Owned (s.onPdo i op) :=
          ⟨h.1.onPdo hi, (sameFdo_onPdo s i op).fdoDestroyed.trans h.2⟩
        split
        · rw [hon.testReferences]
          exact hon
        · exact hon
  | fdo irp =>
      simp only [pnpNext, fdoDispatchPnp] at hd ⊢
      split
      · exact h
      · rename_i hs
        rw [if_neg hs] at hd
        cases irp with
        | surpriseRemoval =>
            let s₁ : PnpSys := { s with fdo := s.fdo.setDevicePnpState .surpriseRemovePending }
            have hs₁ : Owned s₁ := h
            exact hs₁.walk ho.nodup
        | removeDevice => exact absurd fdoRemoveDevice_deleted hd
        | queryDeviceRelations allocated forwarded =>
            have hwalk : Owned (s.walk relationsVisit []).1 := h.walk ho.nodup
            simp only [fdoQueryDeviceRelations]
            split
            · split
              · let s₁ : PnpSys := { (s.walk relationsVisit []).1 with
                  reports := (s.walk relationsVisit []).1.reports ++
                    [(s.walk relationsVisit []).2] }
                have hs₁ : Owned s₁ := hwalk
                exact hs₁.walk (ho.walk noIrp_relationsVisit).nodup
              · exact hwalk
            · exact h
        | _ => exact h

/-! ## 4. The REMOVE_DEVICE -/

/-- The loop destroys whatever it does not find in SurpriseRemovePending. -/
theorem run_fdoRemoveDevice {p : Pdo} (h : (PdoOp.fdoRemoveDevice.run p).2 = false) :
    (PdoOp.fdoRemoveDevice.run p).1.devicePnpState = .surpriseRemovePending := by
  simp only [PdoOp.run] at h ⊢
  split at h
  · cases h
  · rename_i hs
    rw [if_neg hs]
    exact not_not.mp hs

/-- **What the loop leaves in the list** is in SurpriseRemovePending. -/
theorem walk_removed (h : Objects s) : ∀ i ∈ (s.walk (always .fdoRemoveDevice) ()).1.list,
    ((s.walk (always .fdoRemoveDevice) ()).1.pdo i).devicePnpState = .surpriseRemovePending := by
  have hvisited : ∀ j ∈ s.list, j ∈ (s.walk (always .fdoRemoveDevice) ()).1.list →
      ((s.walk (always .fdoRemoveDevice) ()).1.pdo j).devicePnpState = .surpriseRemovePending := by
    refine (walk_keeps (I := fun done acc => Objects acc.1 ∧ ∀ j ∈ done, j ∈ acc.1.list →
      (acc.1.pdo j).devicePnpState = .surpriseRemovePending) h.nodup ⟨h, nofun⟩ ?_).2
    rintro done i rest acc hl hi ⟨hacc, hdone⟩
    refine ⟨hacc.visit (noIrp_always .fdoRemoveDevice rfl) hi, fun j hj hmem => ?_⟩
    have e : visit (always .fdoRemoveDevice) acc i = (acc.1.onPdo i .fdoRemoveDevice, ()) := rfl
    rw [e] at hmem ⊢
    rcases List.mem_append.mp hj with hj | hj
    · have hne : j ≠ i := fun e => not_mem_done h.nodup hl (e ▸ hj)
      rw [show (acc.1.onPdo i .fdoRemoveDevice, ()).1.pdo j = _ from onPdo_pdo_of_ne hne]
      exact hdone j hj (mem_of_mem_onPdo hmem)
    · obtain rfl := List.mem_singleton.mp hj
      obtain ⟨hd, hp⟩ := self_mem_onPdo hacc.nodup hmem
      rw [show (acc.1.onPdo j .fdoRemoveDevice, ()).1.pdo j = _ from hp]
      exact run_fdoRemoveDevice hd
  intro i hi
  exact hvisited i (walk_subset hi) hi

/-- The FDO is taken down, and destroyed unless a PDO keeps it. -/
structure CleanedUp (s : PnpSys) : Prop where
  power : s.fdo.devicePowerState = .d3
  callback : s.fdo.suspendCallbackLate = false
  watch : s.fdo.scanWatch = false
  thread : s.fdo.scanThread = false
  list : ∀ i ∈ s.list, (s.pdo i).devicePnpState = .surpriseRemovePending
  destroyed : s.list = [] → s.fdoDestroyed = 1

/-- The last section of `FdoRemoveDevice`, and its test, which destroys the FDO where no PDO is
    left. -/
theorem cleanedUp_drop (h : Owned s) :
    CleanedUp ({ s with references := s.references - 1 } : PnpSys).testReferences ↔
      s.fdo.devicePowerState = .d3 ∧ s.fdo.suspendCallbackLate = false ∧ s.fdo.scanWatch = false ∧
        s.fdo.scanThread = false ∧
          ∀ i ∈ s.list, (s.pdo i).devicePnpState = .surpriseRemovePending := by
  let s₁ : PnpSys := { s with references := s.references - 1 }
  have hfdo : s₁.testReferences.fdo = s.fdo := testReferences_frame.1
  have hlist : s₁.testReferences.list = s.list := testReferences_pdos.1
  have hpdo : s₁.testReferences.pdo = s.pdo := testReferences_pdos.2
  have hdestroyed : s.list = [] → s₁.testReferences.fdoDestroyed = 1 := by
    intro hl
    have href : s.references = s.list.length + 1 := h.1
    have h0 : s₁.references = 0 := by
      show s.references - 1 = 0
      rw [href, hl]
      rfl
    rw [testReferences, if_pos h0]
    exact congrArg (· + 1) h.2
  show CleanedUp s₁.testReferences ↔ _
  rw [← hfdo, ← hlist, ← hpdo]
  constructor
  · intro hc
    exact ⟨hc.power, hc.callback, hc.watch, hc.thread, hc.list⟩
  · rintro ⟨hd3, hcallback, hwatch, hthread, hs⟩
    exact ⟨hd3, hcallback, hwatch, hthread, hs, fun hl => hdestroyed (hlist.symm.trans hl)⟩

/-- **What `FdoRemoveDevice` leaves** is what it has taken down, or was down already. -/
theorem cleanedUp_iff (ho : Objects s) (hf : Orderly s.fdo) (hw : Owned s) :
    CleanedUp s.fdoRemoveDevice ↔ s.fdo.previousDevicePnpState = .started ∨
      s.fdo.devicePowerState = .d3 ∧
        ∀ i ∈ s.list, (s.pdo i).devicePnpState = .surpriseRemovePending := by
  by_cases hp : s.fdo.previousDevicePnpState = .started
  · let s₁ : PnpSys := (s.walk (always .fdoRemoveDevice) ()).1
    let s₂ : PnpSys := { s₁ with fdo := s₁.fdo.powerDown.setDevicePnpState .deleted }
    have e : s.fdoRemoveDevice = { s₂ with references := s₂.references - 1 }.testReferences := by
      unfold fdoRemoveDevice
      rw [if_pos hp]
    have hs₂ : Owned s₂ := hw.walk ho.nodup
    have hdown : s₁.fdo.powerDown =
        ⟨s.fdo.devicePnpState, s.fdo.previousDevicePnpState, .d3, false, false, false⟩ := by
      rw [show s₁.fdo = s.fdo from sameFdo_walk.fdo]
      exact hf.powerDown
    rw [e, cleanedUp_drop hs₂]
    refine iff_of_true ⟨?_, ?_, ?_, ?_, walk_removed ho⟩ (.inl hp)
    · exact (congrArg FdoDx.devicePowerState hdown : s₁.fdo.powerDown.devicePowerState = _)
    · exact (congrArg FdoDx.suspendCallbackLate hdown : s₁.fdo.powerDown.suspendCallbackLate = _)
    · exact (congrArg FdoDx.scanWatch hdown : s₁.fdo.powerDown.scanWatch = _)
    · exact (congrArg FdoDx.scanThread hdown : s₁.fdo.powerDown.scanThread = _)
  · let s₁ : PnpSys := { s with fdo := s.fdo.setDevicePnpState .deleted }
    have e : s.fdoRemoveDevice = { s₁ with references := s₁.references - 1 }.testReferences := by
      unfold fdoRemoveDevice
      rw [if_neg hp]
    have hs₁ : Owned s₁ := hw
    rw [e, cleanedUp_drop hs₁, or_iff_right hp]
    constructor
    · rintro ⟨hd3, -, -, -, hs⟩
      exact ⟨hd3, hs⟩
    · rintro ⟨hd3, hs⟩
      have hd0 : decide (s.fdo.devicePowerState = .d0) = false := by rw [hd3]; rfl
      exact ⟨hd3, hf.callback.trans hd0, hf.watch.trans hd0, hf.thread.trans hd0, hs⟩

end Steps

/-! ## 5. Runs -/

theorem orderly_init : Orderly PnpSys.init.fdo :=
  ⟨rfl, rfl, rfl, nofun, nofun, fun _ => rfl, nofun, nofun⟩

/-- What is known of every state before the REMOVE_DEVICE. -/
structure BeforeRemove (s : PnpSys) : Prop where
  objects : Objects s
  orderly : Orderly s.fdo
  owned : Owned s

theorem reach_beforeRemove {s : PnpSys} (h : Reach pnpSystem Admissible .init s) :
    Objects s ∧ (BeforeRemove s ∨ s.fdo.devicePnpState = .deleted) := by
  refine h.invariant (I := fun s => Objects s ∧ (BeforeRemove s ∨ s.fdo.devicePnpState = .deleted))
    ⟨objects_init, .inl ⟨objects_init, orderly_init, rfl, rfl⟩⟩ ?_
  rintro s l ⟨ho, hb⟩ he ha
  have ho' : Objects (pnpNext s l) := objects_next ho he
  refine ⟨ho', ?_⟩
  by_cases hd : (pnpNext s l).fdo.devicePnpState = .deleted
  · exact .inr hd
  · have hs : s.fdo.devicePnpState ≠ .deleted := fun hs => hd (deleted_next hs)
    obtain ⟨-, horderly, howned⟩ := hb.resolve_right hs
    exact .inl ⟨ho', (orderly_next horderly hs ha).resolve_right hd, owned_next howned ho he hd⟩

/-- **Behind a REMOVE_DEVICE, at the end of any history in order**, the bus is cleaned up if and
    only if the state before the last one was Started, or it was down with no PDO left to clean up.
    It returns in either case: there is a scan thread where one is asked for. -/
theorem remove_cleans_up {s : PnpSys} (h : Reach pnpSystem Admissible .init s)
    (hd : s.fdo.devicePnpState ≠ .deleted) :
    pnpEnabled s (.fdo .removeDevice) ∧
    (CleanedUp (pnpNext s (.fdo .removeDevice)) ↔
      s.fdo.previousDevicePnpState = .started ∨
        s.fdo.devicePowerState = .d3 ∧
          ∀ i ∈ s.list, (s.pdo i).devicePnpState = .surpriseRemovePending) := by
  obtain ⟨ho, hf, hw⟩ := (reach_beforeRemove h).2.resolve_right hd
  refine ⟨fun _ hneeds => ?_, ?_⟩
  · have hstarted : s.fdo.previousDevicePnpState = .started := of_decide_eq_true hneeds
    show s.fdo.scanThread = true
    rw [hf.thread, hf.started hstarted]
    rfl
  · have e : pnpNext s (.fdo .removeDevice) = s.fdoRemoveDevice := by
      simp only [pnpNext, fdoDispatchPnp]
      exact if_neg hd
    rw [e]
    exact cleanedUp_iff ho hf hw

/-- A start, a scan that finds a console, and a removal that is asked for. -/
def startedAndRemoved : List PnpLabel :=
  [.fdo (.startDevice true true .success), .scan (scanFinds ["1"]), .fdo .queryRemoveDevice]

theorem reach_startedAndRemoved :
    Reach pnpSystem Admissible .init (runs pnpSystem .init startedAndRemoved) :=
  .of_admits startedAndRemoved .start ⟨nofun, rfl, rfl, trivial, nofun, rfl, trivial⟩

theorem remove_cleans_up_startedAndRemoved :
    CleanedUp (pnpNext (runs pnpSystem .init startedAndRemoved) (.fdo .removeDevice)) :=
  (remove_cleans_up reach_startedAndRemoved (by decide)).2.mpr (.inl rfl)

/-- A stop that has been asked for, and a surprise removal. -/
def stopPendingAndGone : List PnpLabel :=
  [.fdo (.startDevice true true .success), .fdo .queryStopDevice, .fdo .surpriseRemoval]

/-- The FDO stays in D0, with its watch and its thread, and its default PDO stays in the list; and
    an FDO that has never been started keeps its default PDO. -/
theorem removed_and_still_up :
    (∃ s, Reach pnpSystem Admissible .init s ∧
      ¬CleanedUp (pnpNext s (.fdo .removeDevice)) ∧
      (pnpNext s (.fdo .removeDevice)).fdo =
        ⟨.deleted, .surpriseRemovePending, .d0, true, true, true⟩ ∧
      (pnpNext s (.fdo .removeDevice)).list = [0]) ∧
    ¬CleanedUp (pnpNext .init (.fdo .removeDevice)) := by
  refine ⟨⟨_, .of_admits stopPendingAndGone .start ⟨nofun, rfl, nofun, rfl, nofun, rfl, trivial⟩,
    fun h => ?_, rfl, rfl⟩, fun h => ?_⟩
  · exact absurd h.power (by decide)
  · exact absurd (h.list 0 (by decide)) (by decide)

end Xencons
