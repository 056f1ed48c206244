import Xencons.Fdo.Pnp

/-!
# What becomes of a PDO (fdo.c, pdo.c)

A PDO is made Deleted by its own REMOVE_DEVICE or EJECT, by a scan that does not find it, or by the
removal of the FDO. Whoever does it marks it missing, or has found it so; and only a PDO that is
both is destroyed, by whoever unlinks it.

* `PdoOk` -- what holds of a PDO of the list; `PdoOk.run`, `run_destroys`, `run_deleted`: what any
  operation makes of one;
* `Objects` -- what holds of the bus: `Objects.onPdo`, `Objects.walk`, `objects_next`;
* `Between` -- what holds across whatever comes to the PDOs, if it holds across what comes to one;
* `Later` -- Deleted is for good: `later_next`;
* `deleted_for_good` -- the result.
-/

namespace Xencons

open Lib Function

/-! ## 1. One PDO -/

/-- What holds of a PDO of the list. -/
structure PdoOk (p : Pdo) : Prop where
  missing : p.devicePnpState = .deleted → p.missing = true
  previous : p.previousDevicePnpState = .deleted → p.devicePnpState = .deleted

section One

variable {p : Pdo} {op : PdoOp}

theorem PdoOk.new (name : Option String) : PdoOk (.new name) := ⟨nofun, nofun⟩

/-- A state is set on a PDO that is not in Deleted. -/
theorem PdoOk.set {state : DevicePnpState} (hd : p.devicePnpState ≠ .deleted)
    (hs : state = .deleted → p.missing = true) : PdoOk (p.setDevicePnpState state) :=
  ⟨hs, fun h => absurd h hd⟩

/-- What is restored is not Deleted. -/
theorem PdoOk.restore (h : PdoOk p) (hd : p.devicePnpState ≠ .deleted) (state : DevicePnpState) :
    PdoOk (p.restoreDevicePnpState state) := by
  unfold Pdo.restoreDevicePnpState
  split
  · exact ⟨fun hp => absurd (h.previous hp) hd, fun hp => absurd (h.previous hp) hd⟩
  · exact h

/-- A PDO in Deleted is set to Deleted, or is not. -/
theorem PdoOk.setDeleted (hm : p.missing = true) : PdoOk (p.setDevicePnpState .deleted) :=
  ⟨fun _ => hm, fun _ => rfl⟩

/-- To be missing harms nothing. -/
theorem PdoOk.setMissing (h : PdoOk p) : PdoOk { p with missing := true } :=
  ⟨fun _ => rfl, h.previous⟩

/-- **Whatever comes to a PDO** leaves it so, if `Dispatch` keeps the IRPs from one in Deleted. -/
theorem PdoOk.run (h : PdoOk p) (hop : op.isIrp = true → p.devicePnpState ≠ .deleted) :
    PdoOk (op.run p).1 := by
  cases op with
  | enumerate listed =>
      simp only [PdoOp.run]
      split
      · exact h
      · split
        · exact .setDeleted rfl
        · exact h.setMissing
  | fdoSurpriseRemoval => exact h.setMissing
  | fdoRemoveDevice =>
      simp only [PdoOp.run]
      split
      · exact .setDeleted rfl
      · exact h.setMissing
  | queryDeviceRelations =>
      simp only [PdoOp.run]
      split
      · rename_i hp
        have hpresent : p.devicePnpState = .present :=
          of_decide_eq_true (Bool.and_eq_true _ _ ▸ hp).2
        exact .set (by rw [hpresent]; decide) nofun
      · exact h
  | collectDeleted => exact h
  | removeDevice =>
      simp only [PdoOp.run]
      split
      · rename_i hm
        exact .setDeleted hm
      · exact .set (hop rfl) nofun
  | eject => exact ⟨fun _ => rfl, fun _ => rfl⟩
  | startDevice | queryStopDevice | stopDevice | queryRemoveDevice | surpriseRemoval =>
      exact .set (hop rfl) nofun
  | cancelStopDevice => exact h.restore (hop rfl) _
  | cancelRemoveDevice =>
      have h' : PdoOk { p with ejectRequested := false } := ⟨h.missing, h.previous⟩
      exact h'.restore (hop rfl) _
  | requestEject => exact ⟨h.missing, h.previous⟩

/-- **Only a PDO that is Deleted and missing is destroyed.** -/
theorem run_destroys (h : (op.run p).2 = true) :
    (op.run p).1.devicePnpState = .deleted ∧ (op.run p).1.missing = true := by
  cases op with
  | enumerate listed =>
      simp only [PdoOp.run] at h ⊢
      split at h
      · cases h
      · split at h
        · rename_i hp
          rw [if_neg (by assumption), if_pos hp]
          exact ⟨rfl, rfl⟩
        · cases h
  | fdoRemoveDevice =>
      simp only [PdoOp.run] at h ⊢
      refine ⟨of_decide_eq_true h, ?_⟩
      split <;> rfl
  | collectDeleted =>
      obtain ⟨hd, hm⟩ := Bool.and_eq_true _ _ ▸ h
      exact ⟨of_decide_eq_true hd, hm⟩
  | removeDevice =>
      simp only [PdoOp.run] at h ⊢
      split at h
      · rename_i hm
        rw [if_pos hm]
        exact ⟨rfl, hm⟩
      · cases h
  | queryDeviceRelations =>
      simp only [PdoOp.run] at h
      split at h <;> cases h
  | _ => cases h

/-- **Nothing but an IRP takes a PDO out of Deleted.** -/
theorem run_deleted (hop : op.isIrp = false) (h : p.devicePnpState = .deleted) :
    (op.run p).1.devicePnpState = .deleted := by
  cases op with
  | enumerate listed =>
      simp only [PdoOp.run]
      rw [if_pos (by simp [h])]
      exact h
  | fdoSurpriseRemoval | collectDeleted | requestEject => exact h
  | fdoRemoveDevice =>
      simp only [PdoOp.run]
      rw [if_pos (by rw [h]; decide)]
      rfl
  | queryDeviceRelations =>
      simp only [PdoOp.run]
      rw [if_neg (by simp [h])]
      exact h
  | _ => cases hop

end One

/-! ## 2. The bus -/

/-- **The invariant.** -/
structure Objects (s : PnpSys) : Prop where
  nodup : s.list.Nodup
  created : ∀ i ∈ s.list, i < s.created
  ok : ∀ i ∈ s.list, PdoOk (s.pdo i)
  /-- a destroyed PDO stays in Deleted -/
  gone : ∀ i < s.created, i ∉ s.list → (s.pdo i).devicePnpState = .deleted
  destroyed : ∀ d ∈ s.destroyed, d.devicePnpState = .deleted ∧ d.missing = true ∧ d.listed = true
  once : (s.destroyed.map (·.id)).Nodup
  unlisted : ∀ d ∈ s.destroyed, d.id ∉ s.list ∧ d.id < s.created
  reports : ∀ r ∈ s.reports, ∀ p ∈ r, p.missing = false ∧ p.devicePnpState ≠ .deleted

section Steps

open PnpSys

variable {s : PnpSys} {i : Nat} {op : PdoOp}

/-- It says nothing of the FDO. -/
theorem Objects.congr (h : Objects s) {s' : PnpSys} (hlist : s'.list = s.list)
    (hpdo : s'.pdo = s.pdo) (hcreated : s'.created = s.created) (hreports : s'.reports = s.reports)
    (hdestroyed : s'.destroyed = s.destroyed) : Objects s' := by
  refine ⟨?_, ?_, ?_, ?_, ?_, ?_, ?_, ?_⟩ <;>
    simp only [hlist, hpdo, hcreated, hreports, hdestroyed]
  exacts [h.nodup, h.created, h.ok, h.gone, h.destroyed, h.once, h.unlisted, h.reports]

/-- `PdoDestroy` runs on a PDO of the list that is Deleted and missing. -/
theorem Objects.destroy (h : Objects s) {p : Pdo} (hi : i ∈ s.list)
    (hp : p.devicePnpState = .deleted ∧ p.missing = true) : Objects (s.pdoDestroy i p) where
  nodup := h.nodup.erase i
  created j hj := h.created j (List.mem_of_mem_erase hj)
  ok j hj := by
    obtain ⟨hne, hj⟩ := h.nodup.mem_erase_iff.mp hj
    simp only [pdoDestroy, update_of_ne hne]
    exact h.ok j hj
  gone j hlt hj := by
    by_cases hji : j = i
    · subst hji
      simpa [pdoDestroy] using hp.1
    · simp only [pdoDestroy, update_of_ne hji]
      exact h.gone j hlt fun hmem => hj ((List.mem_erase_of_ne hji).mpr hmem)
  destroyed d hd := by
    rcases List.mem_append.mp hd with hd | hd
    · exact h.destroyed d hd
    · obtain rfl := List.mem_singleton.mp hd
      exact ⟨hp.1, hp.2, decide_eq_true hi⟩
  once := by
    have hnew : i ∉ s.destroyed.map (·.id) := by
      intro hmem
      obtain ⟨d, hd, rfl⟩ := List.mem_map.mp hmem
      exact (h.unlisted d hd).1 hi
    simpa [pdoDestroy, List.nodup_append] using
      ⟨h.once, fun d hd e => hnew (e ▸ List.mem_map_of_mem hd)⟩
  unlisted d hd := by
    rcases List.mem_append.mp hd with hd | hd
    · exact ⟨fun hmem => (h.unlisted d hd).1 (List.mem_of_mem_erase hmem), (h.unlisted d hd).2⟩
    · obtain rfl := List.mem_singleton.mp hd
      exact ⟨fun hmem => (h.nodup.mem_erase_iff.mp hmem).1 rfl, h.created i hi⟩
  reports := h.reports

/-- What is known of a PDO of the list changes. -/
theorem Objects.update (h : Objects s) {p : Pdo} (hi : i ∈ s.list) (hp : PdoOk p) :
    Objects { s with pdo := update s.pdo i p } := by
  refine ⟨h.nodup, h.created, fun j hj => ?_, fun j hlt hj => ?_, h.destroyed, h.once, h.unlisted,
    h.reports⟩
  · by_cases hji : j = i
    · subst hji
      simpa using hp
    · simpa [hji] using h.ok j hj
  · have hji : j ≠ i := by
      rintro rfl
      exact hj hi
    simpa [hji] using h.gone j hlt hj

/-- **Something comes to a PDO of the list.** -/
theorem Objects.onPdo (h : Objects s) (hi : i ∈ s.list)
    (hop : op.isIrp = true → (s.pdo i).devicePnpState ≠ .deleted) : Objects (s.onPdo i op) := by
  unfold PnpSys.onPdo
  split
  · rename_i hd
    exact h.destroy hi (run_destroys hd)
  · exact h.update hi ((h.ok i hi).run hop)

/-- **`PdoCreate` adds a PDO that is not Deleted.** -/
theorem Objects.create (h : Objects s) (d : AnsiString) : Objects (s.pdoCreate d) := by
  have hnew : s.created ∉ s.list := fun hmem => Nat.lt_irrefl _ (h.created _ hmem)
  have hmem : ∀ {j}, j ∈ (s.pdoCreate d).list → j ∈ s.list ∨ j = s.created := fun hj =>
    (List.mem_append.mp hj).imp_right List.mem_singleton.mp
  refine ⟨?_, fun j hj => ?_, fun j hj => ?_, fun j hlt hj => ?_, h.destroyed, h.once,
    fun d' hd' => ⟨fun hj => ?_, ?_⟩, h.reports⟩
  · refine List.nodup_append.mpr ⟨h.nodup, List.nodup_singleton _, fun x hx y hy e => hnew ?_⟩
    rwa [← List.mem_singleton.mp hy, ← e]
  · rcases hmem hj with hj | rfl
    · exact Nat.lt_succ_of_lt (h.created j hj)
    · exact Nat.lt_succ_self _
  · rcases hmem hj with hj | rfl
    · have hne : j ≠ s.created := fun e => hnew (e ▸ hj)
      simpa [pdoCreate, hne] using h.ok j hj
    · simpa [pdoCreate] using PdoOk.new _
  · have hj' : j ∉ s.list ∧ j ≠ s.created := by simpa [pdoCreate] using hj
    have hlt' : j < s.created + 1 := hlt
    simpa [pdoCreate, hj'.2] using h.gone j (by omega) hj'.1
  · rcases hmem hj with hj | hj
    · exact (h.unlisted d' hd').1 hj
    · exact Nat.lt_irrefl _ (hj ▸ (h.unlisted d' hd').2)
  · exact Nat.lt_succ_of_lt (h.unlisted d' hd').2

/-- No loop does to a PDO what an IRP does. -/
def NoIrp {β : Type} (f : β → Pdo → Option PdoOp × β) : Prop :=
  ∀ b p op, (f b p).1 = some op → op.isIrp = false

theorem noIrp_always (op : PdoOp) (hop : op.isIrp = false) : NoIrp (always op) := by
  rintro _ _ _ h
  cases h
  exact hop

theorem noIrp_enumerateVisit : NoIrp enumerateVisit := by
  intro devices p op h
  unfold enumerateVisit at h
  split at h <;> cases h
  rfl

theorem noIrp_relationsVisit : NoIrp relationsVisit := by
  intro relations p op h
  unfold relationsVisit at h
  split at h <;> cases h
  rfl

section Walks

variable {β : Type} {f : β → Pdo → Option PdoOp × β} {b : β}

theorem Objects.visit {acc : PnpSys × β} (h : Objects acc.1) (hf : NoIrp f) (hi : i ∈ acc.1.list) :
    Objects (visit f acc i).1 := by
  rcases visit_cases f acc i with ⟨-, e⟩ | ⟨op, hop, e⟩
  · rw [e]
    exact h
  · rw [e]
    exact h.onPdo hi fun hirp => by rw [hf _ _ op hop] at hirp; cases hirp

/-- **A loop over the list.** -/
theorem Objects.walk (h : Objects s) (hf : NoIrp f) : Objects (s.walk f b).1 :=
  walk_keeps (I := fun _ acc => Objects acc.1) h.nodup h fun _ _ _ _ _ hi h => h.visit hf hi

end Walks

/-- Only PDOs that are neither missing nor Deleted get into the relations. -/
theorem relations_ok (h : Objects s) : ∀ p ∈ (s.walk relationsVisit []).2,
    p.missing = false ∧ p.devicePnpState ≠ .deleted := by
  refine (walk_keeps (I := fun _ acc => Objects acc.1 ∧
    ∀ p ∈ (acc.2 : List Pdo), p.missing = false ∧ p.devicePnpState ≠ .deleted) h.nodup
    ⟨h, fun _ hp => absurd hp List.not_mem_nil⟩ ?_).2
  rintro done i rest acc - hi ⟨hacc, hrel⟩
  refine ⟨hacc.visit noIrp_relationsVisit hi, ?_⟩
  unfold PnpSys.visit relationsVisit
  by_cases hm : (acc.1.pdo i).missing = true
  · rw [if_pos hm]
    exact hrel
  · rw [if_neg hm]
    intro p hp
    rcases List.mem_append.mp hp with hp | hp
    · exact hrel p hp
    · obtain rfl := List.mem_singleton.mp hp
      have hd : (acc.1.pdo i).devicePnpState ≠ .deleted := fun hd => hm ((hacc.ok i hi).missing hd)
      simp only [PdoOp.run]
      split
      · exact ⟨Bool.not_eq_true _ ▸ hm, nofun⟩
      · exact ⟨Bool.not_eq_true _ ▸ hm, hd⟩

theorem Objects.enumerate (h : Objects s) (devices : List AnsiString) (granted : Nat → Bool) :
    Objects (s.fdoEnumerate devices granted) := by
  refine List.foldlRecOn (motive := Objects) _ _ (h.walk noIrp_enumerateVisit) ?_
  intro s' h' d _
  unfold createVisit
  split
  · exact h'.create d.1
  · exact h'

theorem Objects.scan (h : Objects s) (c : ScanInput) : Objects (s.fdoScan c) := by
  unfold fdoScan
  split
  · split
    · split
      · exact h.enumerate _ _
      · exact h
    · exact h
  · exact h

theorem Objects.testReferences (h : Objects s) : Objects s.testReferences := by
  unfold PnpSys.testReferences
  split
  · exact h.congr rfl rfl rfl rfl rfl
  · exact h

theorem Objects.fdoRemoveDevice (h : Objects s) : Objects s.fdoRemoveDevice := by
  unfold PnpSys.fdoRemoveDevice
  refine Objects.testReferences ?_
  split
  · exact (h.walk (b := ()) (noIrp_always .fdoRemoveDevice rfl)).congr rfl rfl rfl rfl rfl
  · exact h.congr rfl rfl rfl rfl rfl

theorem Objects.fdoQueryDeviceRelations (h : Objects s) (allocated forwarded : Bool) :
    Objects (s.fdoQueryDeviceRelations allocated forwarded) := by
  unfold PnpSys.fdoQueryDeviceRelations
  split
  · have hwalk : Objects (s.walk relationsVisit []).1 := h.walk noIrp_relationsVisit
    have hreport : Objects { (s.walk relationsVisit []).1 with
        reports := (s.walk relationsVisit []).1.reports ++ [(s.walk relationsVisit []).2] } := by
      refine ⟨hwalk.nodup, hwalk.created, hwalk.ok, hwalk.gone, hwalk.destroyed, hwalk.once,
        hwalk.unlisted, fun r hr => ?_⟩
      rcases List.mem_append.mp hr with hr | hr
      · exact hwalk.reports r hr
      · rw [List.mem_singleton.mp hr]
        exact relations_ok h
    dsimp only
    split
    · exact hreport.walk (noIrp_always .collectDeleted rfl)
    · exact hreport
  · exact h

theorem Objects.fdoDispatchPnp (h : Objects s) (irp : FdoIrp) : Objects (s.fdoDispatchPnp irp) := by
  unfold PnpSys.fdoDispatchPnp
  split
  · exact h
  · cases irp with
    | surpriseRemoval =>
        exact Objects.walk (s := { s with fdo := _ }) (h.congr rfl rfl rfl rfl rfl)
          (noIrp_always .fdoSurpriseRemoval rfl)
    | removeDevice => exact h.fdoRemoveDevice
    | queryDeviceRelations allocated forwarded => exact h.fdoQueryDeviceRelations _ _
    | _ => exact h.congr rfl rfl rfl rfl rfl

/-- An IRP that `Dispatch` lets through is to a PDO of the list. -/
theorem Objects.pdoDispatchPnp (h : Objects s) (hi : i < s.created) :
    Objects (s.pdoDispatchPnp i op) := by
  unfold PnpSys.pdoDispatchPnp
  split
  · exact h
  · rename_i hd
    have hmem : i ∈ s.list := by
      by_contra hn
      exact hd (h.gone i hi hn)
    have hon : Objects (s.onPdo i op) := h.onPdo hmem fun _ => hd
    split
    · exact hon.testReferences
    · exact hon

/-- **A step keeps the invariant.** -/
theorem objects_next {l : PnpLabel} (h : Objects s) (he : pnpEnabled s l) :
    Objects (pnpNext s l) := by
  cases l with
  | fdo irp => exact h.fdoDispatchPnp irp
  | pdo i op => exact h.pdoDispatchPnp he.1
  | scan c => exact h.scan c
  | requestEject i => exact h.onPdo he nofun

end Steps

theorem objects_init : Objects .init where
  nodup := List.nodup_singleton _
  created i hi := by rw [List.mem_singleton.mp hi]; exact Nat.one_pos
  ok _ _ := PdoOk.new none
  gone i hi hn := absurd (List.mem_singleton.mpr (Nat.lt_one_iff.mp hi)) hn
  destroyed := nofun
  once := List.nodup_nil
  unlisted := nofun
  reports := nofun

/-! ## 3. Before and after -/

/-- **What may be said of the PDOs before and after** whatever comes to them: it goes on from step
    to step, says nothing of the FDO, and holds across what comes to one PDO. -/
structure Between (R : PnpSys → PnpSys → Prop) : Prop where
  trans : ∀ {s s' s''}, R s s' → R s' s'' → R s s''
  congr : ∀ {s s' : PnpSys}, s'.list = s.list → s'.pdo = s.pdo → s'.created = s.created → R s s'
  onPdo : ∀ {s : PnpSys} {i op}, s.list.Nodup →
    (op.isIrp = true → (s.pdo i).devicePnpState ≠ .deleted) → R s (s.onPdo i op)

section Between

open PnpSys

variable {R : PnpSys → PnpSys → Prop} {s : PnpSys} {i : Nat} {op : PdoOp}

theorem nodup_onPdo (hnd : s.list.Nodup) : (s.onPdo i op).list.Nodup := by
  unfold PnpSys.onPdo
  split
  · exact hnd.erase i
  · exact hnd

theorem Between.refl (hR : Between R) (s : PnpSys) : R s s := hR.congr rfl rfl rfl

theorem Between.testReferences (hR : Between R) : R s s.testReferences := by
  unfold PnpSys.testReferences
  split <;> exact hR.congr rfl rfl rfl

section Walks

variable {β : Type} {f : β → Pdo → Option PdoOp × β} {b : β}

theorem Between.visit (hR : Between R) (hf : NoIrp f) {acc : PnpSys × β} (hnd : acc.1.list.Nodup) :
    R acc.1 (visit f acc i).1 := by
  rcases visit_cases f acc i with ⟨-, e⟩ | ⟨op, hop, e⟩
  · rw [e]
    exact hR.refl _
  · rw [e]
    exact hR.onPdo hnd fun hirp => by rw [hf _ _ op hop] at hirp; cases hirp

theorem nodup_visit {acc : PnpSys × β} (hnd : acc.1.list.Nodup) :
    (PnpSys.visit f acc i).1.list.Nodup := by
  rcases visit_cases f acc i with ⟨-, e⟩ | ⟨op, -, e⟩
  · rw [e]
    exact hnd
  · rw [e]
    exact nodup_onPdo hnd

/-- **It holds across a loop over the list**, ... -/
theorem Between.walk (hR : Between R) (hf : NoIrp f) (hnd : s.list.Nodup) :
    R s (s.walk f b).1 ∧ (s.walk f b).1.list.Nodup := by
  refine List.foldlRecOn (motive := fun acc : PnpSys × β => R s acc.1 ∧ acc.1.list.Nodup) _ _
    ⟨hR.refl s, hnd⟩ ?_
  rintro acc ⟨h, hacc⟩ i -
  exact ⟨hR.trans h (hR.visit hf hacc), nodup_visit hacc⟩

end Walks

/-- ... across an IRP to a PDO, ... -/
theorem Between.pdoDispatchPnp (hR : Between R) (hnd : s.list.Nodup) :
    R s (s.pdoDispatchPnp i op) := by
  unfold PnpSys.pdoDispatchPnp
  split
  · exact hR.refl s
  · rename_i hd
    have hon : R s (s.onPdo i op) := hR.onPdo hnd fun _ => hd
    split
    · exact hR.trans hon hR.testReferences
    · exact hon

/-- ... and across one to the FDO. -/
theorem Between.fdoDispatchPnp (hR : Between R) (hnd : s.list.Nodup) (irp : FdoIrp) :
    R s (s.fdoDispatchPnp irp) := by
  unfold PnpSys.fdoDispatchPnp
  split
  · exact hR.refl s
  · cases irp with
    | surpriseRemoval =>
        let s₁ : PnpSys := { s with fdo := s.fdo.setDevicePnpState .surpriseRemovePending }
        have h₁ : R s s₁ := hR.congr rfl rfl rfl
        have hnd₁ : s₁.list.Nodup := hnd
        exact hR.trans h₁ (hR.walk (noIrp_always .fdoSurpriseRemoval rfl) hnd₁).1
    | removeDevice =>
        unfold fdoRemoveDevice
        refine hR.trans ?_ hR.testReferences
        split
        · have hwalk : R s (s.walk (always .fdoRemoveDevice) ()).1 :=
            (hR.walk (noIrp_always .fdoRemoveDevice rfl) hnd).1
          exact hR.trans hwalk (hR.congr rfl rfl rfl)
        · exact hR.congr rfl rfl rfl
    | queryDeviceRelations allocated forwarded =>
        obtain ⟨hwalk, hnd'⟩ := hR.walk (b := []) noIrp_relationsVisit hnd
        let s₁ : PnpSys := { (s.walk relationsVisit []).1 with
          reports := (s.walk relationsVisit []).1.reports ++ [(s.walk relationsVisit []).2] }
        have h₁ : R s s₁ := hR.trans hwalk (hR.congr rfl rfl rfl)
        have hnd₁ : s₁.list.Nodup := hnd'
        simp only [fdoQueryDeviceRelations]
        split
        · split
          · exact hR.trans h₁ (hR.walk (noIrp_always .collectDeleted rfl) hnd₁).1
          · exact h₁
        · exact hR.refl s
    | _ => exact hR.congr rfl rfl rfl

end Between

/-! ## 4. Deleted is for good -/

/-- No PDO has left Deleted between the one and the other. -/
def Later (s s' : PnpSys) : Prop :=
  s.created ≤ s'.created ∧
    ∀ i < s.created, (s.pdo i).devicePnpState = .deleted → (s'.pdo i).devicePnpState = .deleted

section Steps

open PnpSys

variable {s s' s'' : PnpSys} {i : Nat} {op : PdoOp}

theorem Later.refl (s : PnpSys) : Later s s := ⟨Nat.le_refl _, fun _ _ h => h⟩

theorem Later.trans (h : Later s s') (h' : Later s' s'') : Later s s'' :=
  ⟨Nat.le_trans h.1 h'.1, fun i hi hd => h'.2 i (Nat.lt_of_lt_of_le hi h.1) (h.2 i hi hd)⟩

/-- What comes to a PDO in Deleted leaves it there; what comes to another leaves it alone. -/
theorem Later.onPdo (hop : op.isIrp = true → (s.pdo i).devicePnpState ≠ .deleted) :
    Later s (s.onPdo i op) := by
  refine ⟨Nat.le_of_eq (sameFdo_onPdo s i op).created.symm, fun j _ hd => ?_⟩
  by_cases hji : j = i
  · subst hji
    have hirp : op.isIrp = false := Bool.eq_false_iff.mpr fun h => hop h hd
    unfold PnpSys.onPdo
    split <;> simpa [pdoDestroy] using run_deleted hirp hd
  · rw [onPdo_pdo_of_ne hji]
    exact hd

theorem between_later : Between Later where
  trans := Later.trans
  congr _ hpdo hcreated := ⟨Nat.le_of_eq hcreated.symm, fun _ _ hd => by rwa [hpdo]⟩
  onPdo _ hop := .onPdo hop

theorem Later.create (d : AnsiString) : Later s (s.pdoCreate d) := by
  refine ⟨Nat.le_succ _, fun j hj hd => ?_⟩
  simpa [pdoCreate, Nat.ne_of_lt hj] using hd

theorem Later.enumerate (hnd : s.list.Nodup) (devices : List AnsiString) (granted : Nat → Bool) :
    Later s (s.fdoEnumerate devices granted) := by
  refine List.foldlRecOn (motive := Later s) _ _ (between_later.walk noIrp_enumerateVisit hnd).1 ?_
  intro s' h d _
  unfold createVisit
  split
  · exact h.trans (.create d.1)
  · exact h

theorem Later.scan (hnd : s.list.Nodup) (c : ScanInput) : Later s (s.fdoScan c) := by
  unfold fdoScan
  split
  · split
    · split
      · exact .enumerate hnd _ _
      · exact .refl s
    · exact .refl s
  · exact .refl s

/-- **No step takes a PDO out of Deleted.** -/
theorem later_next (hnd : s.list.Nodup) (l : PnpLabel) : Later s (pnpNext s l) := by
  cases l with
  | fdo irp => exact between_later.fdoDispatchPnp hnd irp
  | pdo i op => exact between_later.pdoDispatchPnp hnd
  | scan c => exact .scan hnd c
  | requestEject i => exact .onPdo nofun

end Steps

/-! ## 5. Runs -/

/-- **Whatever comes in whatever order**, a PDO of the list that is in Deleted is missing, and no
    step takes one out of Deleted; none that is missing or in Deleted is ever reported; and what is
    destroyed is in Deleted, missing and in the list, and destroyed once. -/
theorem deleted_for_good {s : PnpSys} (h : Reach pnpSystem (fun _ _ => True) .init s) :
    (∀ i ∈ s.list, (s.pdo i).devicePnpState = .deleted → (s.pdo i).missing = true) ∧
    (∀ l, pnpEnabled s l → ∀ i < s.created, (s.pdo i).devicePnpState = .deleted →
      ((pnpNext s l).pdo i).devicePnpState = .deleted) ∧
    (∀ r ∈ s.reports, ∀ p ∈ r, p.missing = false ∧ p.devicePnpState ≠ .deleted) ∧
    (∀ d ∈ s.destroyed, d.devicePnpState = .deleted ∧ d.missing = true ∧ d.listed = true) ∧
    (s.destroyed.map (·.id)).Nodup := by
  have hinv : Objects s := h.invariant objects_init fun _ _ h he _ => objects_next h he
  exact ⟨fun i hi => (hinv.ok i hi).missing, fun l _ => (later_next hinv.nodup l).2, hinv.reports,
    hinv.destroyed, hinv.once⟩

/-- A scan finds these keys, and everything succeeds. -/
def scanFinds (keys : List String) : ScanInput where
  keys := some (keys.map String.toList)
  allocated := true
  unsupportedDevices := []
  enumerate := true
  granted _ := true

/-- A console appears, is reported, goes, and is collected. -/
def appearsAndGoes : List PnpLabel :=
  [.fdo (.startDevice true true .success), .scan (scanFinds ["1"]),
    .fdo (.queryDeviceRelations true true), .pdo 1 .startDevice, .scan (scanFinds []),
    .pdo 1 .removeDevice, .fdo (.queryDeviceRelations true true)]

theorem reach_appearsAndGoes : Reach pnpSystem (fun _ _ => True) .init
    (runs pnpSystem .init appearsAndGoes) :=
  .of_admits appearsAndGoes .start
    ⟨nofun, trivial, rfl, trivial, fun _ _ => rfl, trivial, ⟨by decide, rfl⟩, trivial, rfl, trivial,
      ⟨by decide, rfl⟩, trivial, fun _ _ => rfl, trivial, trivial⟩

theorem deleted_for_good_appearsAndGoes :
    (((runs pnpSystem .init appearsAndGoes).destroyed.map (·.id)) = [1]) ∧
    ((runs pnpSystem .init appearsAndGoes).destroyed.map (·.id)).Nodup :=
  ⟨by decide, (deleted_for_good reach_appearsAndGoes).2.2.2.2⟩

end Xencons
