import Xencons.Fdo.Names

/-!
# What a scan makes of the bus (fdo.c)

`__FdoEnumerate` goes through the list of PDOs, which it unlinks some of on its way, and crosses the
names that it finds out of the device list; then it creates a PDO for each name that is left there.
The outcome is that of comparing two sets.

* `enumeratePdo`, `enumerateDevice`, `fdoEnumerateNoted` -- the function, with what it returns and
  the calls of `PdoCreate`: `fdoEnumerateNoted_bus`, the bus behind it is that of `fdoEnumerate`;
* `Fate`, `fate` -- what becomes of a PDO by the set of the names that are listed:
  `enumeratePdo_eq`;
* `Visited` -- the invariant of the first loop: `visited_next`, `visited_all`;
* `Extended` -- what the second loop adds: `enumerateDevices_extended`;
* `Reconciled` -- the outcome; **`fdoEnumerate_reconciles`**.
-/

namespace Xencons

open Lib PnpSys Function

/-! ## 1. The function -/

/-- A call of `PdoCreate`. -/
structure PdoCreateCall where
  device : AnsiString
  success : Bool
deriving DecidableEq

/-- `__FdoEnumerate`, on its way. -/
structure Enumeration where
  bus : PnpSys
  devices : List AnsiString
  needInvalidate : Bool
  pdoCreates : List PdoCreateCall

/-- The first loop comes to a PDO. -/
def enumeratePdo (e : Enumeration) (i : Nat) : Enumeration :=
  let p := e.bus.pdo i
  if p.isDefault then e
  else if p.devicePnpState ≠ .deleted then
    let (found, devices) := consume p.name.toList e.devices
    let e := { e with devices := devices }
    if !p.missing then
      -- with an `IoRequestDeviceEject`
      if p.ejectRequested then e
      else if !found then
        let p := { p with missing := true }
        if p.devicePnpState = .present then
          { e with bus := e.bus.pdoDestroy i (p.setDevicePnpState .deleted) }
        else { e with bus := { e.bus with pdo := update e.bus.pdo i p }, needInvalidate := true }
      else e
    else e
  else e

/-- The second loop comes to a device. -/
def enumerateDevice (granted : Nat → Bool) (e : Enumeration) (d : AnsiString × Nat) :
    Enumeration :=
  if d.1.length = 0 then e
  else
    let e := { e with pdoCreates := e.pdoCreates ++ [⟨d.1, granted d.2⟩] }
    if granted d.2 then { e with bus := e.bus.pdoCreate d.1, needInvalidate := true } else e

/-- The first loop, from the head of the list on. -/
def firstLoop (s : PnpSys) (devices : List AnsiString) : Enumeration :=
  chase (·.bus.list) enumeratePdo s.list.length s.list.head? ⟨s, devices, false, []⟩

/-- `__FdoEnumerate`, with the registry value `Enumerate`, if there is one. -/
def fdoEnumerateNoted (s : PnpSys) (enumerate : Option ULONG) (devices : List AnsiString)
    (granted : Nat → Bool) : Enumeration :=
  if enumerate.getD 1 = 0 then ⟨s, devices, false, []⟩
  else
    let e := firstLoop s devices
    e.devices.zipIdx.foldl (enumerateDevice granted) e

/-! ## 2. What becomes of a PDO -/

inductive Fate where
  | stays
  | marked
  | destroyed
deriving DecidableEq

/-- What becomes of a PDO in a scan with these names listed. -/
def fate (listed : List (List Char)) (p : Pdo) : Fate :=
  if p.isDefault ∨ p.devicePnpState = .deleted ∨ p.missing ∨ p.ejectRequested then .stays
  else if p.name.toList ∈ listed then .stays
  else if p.devicePnpState = .present then .destroyed
  else .marked

/-- What that is on the bus. -/
def Fate.onBus (s : PnpSys) (i : Nat) : Fate → PnpSys
  | .stays => s
  | .marked => { s with pdo := update s.pdo i { s.pdo i with missing := true } }
  | .destroyed => s.pdoDestroy i ({ s.pdo i with missing := true }.setDevicePnpState .deleted)

section Step

variable {s : PnpSys} {e : Enumeration} {i : Nat}

/-- A name is listed where the search of the loop finds it. -/
theorem fate_liveKeys (devices : List AnsiString) (p : Pdo) :
    fate (liveKeys devices) p =
      if p.isDefault ∨ p.devicePnpState = .deleted ∨ p.missing ∨ p.ejectRequested then .stays
      else if (consume p.name.toList devices).1 then .stays
      else if p.devicePnpState = .present then .destroyed
      else .marked := by
  simp only [fate, consume_found]

/-- **What the first loop does with a PDO** is its fate, by the names that are still listed. -/
theorem enumeratePdo_eq (e : Enumeration) (i : Nat) :
    enumeratePdo e i =
      { bus := (fate (liveKeys e.devices) (e.bus.pdo i)).onBus e.bus i
        devices := (enumerateVisit e.devices (e.bus.pdo i)).2
        needInvalidate :=
          e.needInvalidate || decide (fate (liveKeys e.devices) (e.bus.pdo i) = .marked)
        pdoCreates := e.pdoCreates } := by
  rw [fate_liveKeys]
  unfold enumeratePdo enumerateVisit
  by_cases hdefault : (e.bus.pdo i).isDefault = true
  · simp [hdefault, Fate.onBus]
  by_cases hdeleted : (e.bus.pdo i).devicePnpState = .deleted
  · simp [hdefault, hdeleted, Fate.onBus]
  by_cases hmissing : (e.bus.pdo i).missing = true
  · simp [hdefault, hdeleted, hmissing, Fate.onBus]
  by_cases heject : (e.bus.pdo i).ejectRequested = true
  · simp [hdefault, hdeleted, hmissing, heject, Fate.onBus]
  by_cases hfound : (consume (e.bus.pdo i).name.toList e.devices).1 = true
  · simp [hdefault, hdeleted, hmissing, heject, hfound, Fate.onBus]
  by_cases hpresent : (e.bus.pdo i).devicePnpState = .present
  · simp [hdefault, hmissing, heject, hfound, hpresent, Fate.onBus]
  · simp [hdefault, hdeleted, hmissing, heject, hfound, hpresent, Fate.onBus]

/-- What the machine's loop does with it is the same. -/
theorem visit_enumerateVisit (acc : PnpSys × List AnsiString) (i : Nat) :
    visit enumerateVisit acc i =
      ((fate (liveKeys acc.2) (acc.1.pdo i)).onBus acc.1 i,
        (enumerateVisit acc.2 (acc.1.pdo i)).2) := by
  rw [fate_liveKeys]
  unfold visit enumerateVisit onPdo
  by_cases hdefault : (acc.1.pdo i).isDefault = true
  · simp [hdefault, Fate.onBus]
  by_cases hdeleted : (acc.1.pdo i).devicePnpState = .deleted
  · simp [hdefault, hdeleted, Fate.onBus]
  by_cases hkeeps : (acc.1.pdo i).missing = true ∨ (acc.1.pdo i).ejectRequested = true
  · rcases hkeeps with h | h <;> simp [hdefault, hdeleted, h, PdoOp.run, Fate.onBus]
  obtain ⟨hmissing, heject⟩ := not_or.mp hkeeps
  by_cases hfound : (consume (acc.1.pdo i).name.toList acc.2).1 = true
  · simp [hdefault, hdeleted, hmissing, heject, hfound, PdoOp.run, Fate.onBus]
  by_cases hpresent : (acc.1.pdo i).devicePnpState = .present
  · simp [hdefault, hmissing, heject, hfound, hpresent, PdoOp.run, Fate.onBus]
  · simp [hdefault, hdeleted, hmissing, heject, hfound, hpresent, PdoOp.run, Fate.onBus]

/-- No other PDO is concerned. -/
theorem onBus_pdo_of_ne {j : Nat} (h : j ≠ i) (fate : Fate) : (fate.onBus s i).pdo j = s.pdo j := by
  cases fate with
  | stays => rfl
  | marked | destroyed => exact update_of_ne h _ _

theorem onBus_created (fate : Fate) : (fate.onBus s i).created = s.created := by
  cases fate <;> rfl

end Step

/-! ## 3. The first loop -/

/-- Each PDO is in the list once, and the ones there will be are none of them. -/
structure PnpSys.Linked (s : PnpSys) : Prop where
  nodup : s.list.Nodup
  created : ∀ i ∈ s.list, i < s.created

theorem Objects.linked {s : PnpSys} (h : Objects s) : s.Linked := ⟨h.nodup, h.created⟩

/-- The fate of a PDO of the bus in a scan with this device list. -/
def PnpSys.fateOf (s : PnpSys) (devices : List AnsiString) (i : Nat) : Fate :=
  fate (liveKeys devices) (s.pdo i)

/-- What is noted of a PDO that a scan destroys. -/
def destroyedByScan (i : Nat) : DestroyedPdo := ⟨i, .deleted, true, true⟩

/-- What has been visited, when `done` has. -/
structure Visited (s : PnpSys) (devices : List AnsiString) (done : List Nat) (e : Enumeration) :
    Prop where
  list : e.bus.list = linkedStill s.list done fun j => s.fateOf devices j = .destroyed
  same : ∀ j, j ∉ done → e.bus.pdo j = s.pdo j
  stays : ∀ j ∈ done, s.fateOf devices j = .stays → e.bus.pdo j = s.pdo j
  marked : ∀ j ∈ done, s.fateOf devices j = .marked →
    e.bus.pdo j = { s.pdo j with missing := true }
  destroyed : e.bus.destroyed = s.destroyed ++
    (done.filter fun j => s.fateOf devices j = .destroyed).map destroyedByScan
  created : e.bus.created = s.created
  keys : liveKeys e.devices = (liveKeys devices).diff (taken s done)
  needInvalidate : e.needInvalidate = true ↔ ∃ j ∈ done, s.fateOf devices j = .marked
  pdoCreates : e.pdoCreates = []

section Walk

variable {s : PnpSys} {devices : List AnsiString} {e : Enumeration} {i : Nat}
  {done rest : List Nat}

/-- Where no two PDOs have one name, each finds its own name as the scan found it. -/
theorem fate_diff (hnames : (taken s s.list).Nodup) (hdevices : (liveKeys devices).Nodup)
    (hl : s.list = done ++ i :: rest) :
    fate ((liveKeys devices).diff (taken s done)) (s.pdo i) = s.fateOf devices i := by
  unfold PnpSys.fateOf fate
  by_cases hskip : (s.pdo i).isDefault = true ∨ (s.pdo i).devicePnpState = .deleted
  · have hkeeps : (s.pdo i).isDefault = true ∨ (s.pdo i).devicePnpState = .deleted ∨
        (s.pdo i).missing = true ∨ (s.pdo i).ejectRequested = true := by
      rcases hskip with h | h
      · exact .inl h
      · exact .inr (.inl h)
    rw [if_pos hkeeps, if_pos hkeeps]
  · have hnew : (s.pdo i).name.toList ∉ taken s done := by
      have hprefix : (taken s (done ++ [i])).Nodup := by
        have hsplit : s.list = done ++ [i] ++ rest := by rw [hl, List.append_cons]
        have hsub : (taken s (done ++ [i])).Sublist (taken s s.list) := by
          rw [hsplit]
          exact ((List.sublist_append_left (done ++ [i]) rest).filter _).map _
        exact hnames.sublist hsub
      rw [taken_append, if_neg (by simpa using hskip)] at hprefix
      exact fun h => (List.nodup_append.mp hprefix).2.2 _ h _ (List.mem_singleton_self _) rfl
    simp only [hdevices.mem_sdiff_iff, hnew, not_false_eq_true, and_true]

theorem visited_next (hs : s.Linked) (hnames : (taken s s.list).Nodup)
    (hdevices : (liveKeys devices).Nodup) (hl : s.list = done ++ i :: rest)
    (hi : i ∈ e.bus.list) (h : Visited s devices done e) :
    Visited s devices (done ++ [i]) (enumeratePdo e i) := by
  have hdone : i ∉ done := not_mem_done hs.nodup hl
  have hpdo : e.bus.pdo i = s.pdo i := h.same i hdone
  have hfate : fate (liveKeys e.devices) (e.bus.pdo i) = s.fateOf devices i := by
    rw [h.keys, hpdo]
    exact fate_diff hnames hdevices hl
  have hkeys : liveKeys (enumerateVisit e.devices (e.bus.pdo i)).2 =
      (liveKeys devices).diff (taken s (done ++ [i])) := by
    have hvisit := liveKeys_visit (e.bus, e.devices) i
    rw [visit_enumerateVisit] at hvisit
    rw [hvisit, h.keys, hpdo, taken_append, List.diff_append]
  have hother {j : Nat} (hj : j ∈ done) : j ≠ i := fun hji => hdone (hji ▸ hj)
  have hof {P : Prop} {j : Nat} (hj : j ∈ done ++ [i]) (hmem : j ∈ done → P) (hself : j = i → P) :
      P := (List.mem_append.mp hj).elim hmem fun hj => hself (List.mem_singleton.mp hj)
  have hmarked : (∃ j ∈ done ++ [i], s.fateOf devices j = .marked) ↔
      (∃ j ∈ done, s.fateOf devices j = .marked) ∨ s.fateOf devices i = .marked := by
    simp [or_and_right, exists_or]
  rw [enumeratePdo_eq, hfate]
  refine ⟨?_, fun j hj => ?_, fun j hj hf => ?_, fun j hj hf => ?_, ?_, ?_, hkeys, ?_, h.pdoCreates⟩
  · -- the list
    cases hf : s.fateOf devices i with
    | stays | marked =>
        rw [linkedStill_keep (by simp [hf])]
        exact h.list
    | destroyed =>
        rw [linkedStill_erase hs.nodup hf, ← h.list]
        rfl
  · have hj' : j ∉ done ∧ j ≠ i := by simpa using hj
    rw [onBus_pdo_of_ne hj'.2]
    exact h.same j hj'.1
  · refine hof hj (fun hj => ?_) fun hji => ?_
    · rw [onBus_pdo_of_ne (hother hj)]
      exact h.stays j hj hf
    · subst hji
      rw [hf]
      exact hpdo
  · refine hof hj (fun hj => ?_) fun hji => ?_
    · rw [onBus_pdo_of_ne (hother hj)]
      exact h.marked j hj hf
    · subst hji
      rw [hf]
      exact (update_self ..).trans (by rw [hpdo])
  · -- what is destroyed
    rw [List.filter_append, List.map_append, ← List.append_assoc, ← h.destroyed]
    cases hf : s.fateOf devices i with
    | stays | marked => simp [hf, Fate.onBus]
    | destroyed => simp [hf, Fate.onBus, pdoDestroy, Pdo.setDevicePnpState, hi, destroyedByScan]
  · exact (onBus_created _).trans h.created
  · rw [Bool.or_eq_true, decide_eq_true_eq, h.needInvalidate, hmarked]

/-- A visit unlinks the PDO at hand, or none. -/
theorem enumeratePdo_list (e : Enumeration) (i : Nat) :
    (enumeratePdo e i).bus.list = e.bus.list ∨
      (enumeratePdo e i).bus.list = e.bus.list.erase i := by
  rw [enumeratePdo_eq]
  cases fate (liveKeys e.devices) (e.bus.pdo i) with
  | stays | marked => exact .inl rfl
  | destroyed => exact .inr rfl

/-- The loop comes to each PDO once. -/
theorem firstLoop_eq (hnd : s.list.Nodup) :
    firstLoop s devices = s.list.foldl enumeratePdo ⟨s, devices, false, []⟩ :=
  chase_eq_foldl (fun e : Enumeration => e.bus.list) enumeratePdo_list ⟨s, devices, false, []⟩ hnd
    (Nat.le_refl _)

/-- **The first loop.** -/
theorem visited_all (hs : s.Linked) (hnames : (taken s s.list).Nodup)
    (hdevices : (liveKeys devices).Nodup) :
    Visited s devices s.list (firstLoop s devices) := by
  rw [firstLoop_eq hs.nodup]
  refine walk_rule (fun e : Enumeration => e.bus.list) (fun e i j hj hne => ?_) hs.nodup
    (fun done i rest e hl hi h => visited_next hs hnames hdevices hl hi h) (fun _ h => h) ?_
  · rcases enumeratePdo_list e i with hl | hl
    · exact hl ▸ hj
    · rw [hl]
      exact (List.mem_erase_of_ne hne).mpr hj
  · exact ⟨by simp [linkedStill], fun _ _ => rfl, nofun, nofun, by simp, rfl, by simp [taken],
      by simp, rfl⟩

end Walk

/-! ## 4. The second loop -/

/-- The calls of `PdoCreate` for the devices that are left. -/
def pdoCreatesFor (granted : Nat → Bool) (devices : List (AnsiString × Nat)) : List PdoCreateCall :=
  (devices.filter fun d => d.1.length ≠ 0).map fun d => ⟨d.1, granted d.2⟩

/-- These calls of `PdoCreate` have been made. -/
structure Extended (e : Enumeration) (calls : List PdoCreateCall) (e' : Enumeration) : Prop where
  pdoCreates : e'.pdoCreates = e.pdoCreates ++ calls
  needInvalidate : e'.needInvalidate = true ↔
    e.needInvalidate = true ∨ ∃ c ∈ calls, c.success = true
  created : e'.bus.created = e.bus.created + calls.countP (·.success)
  list : e'.bus.list = e.bus.list ++ List.range' e.bus.created (calls.countP (·.success))
  pdo : ∀ j < e.bus.created, e'.bus.pdo j = e.bus.pdo j
  destroyed : e'.bus.destroyed = e.bus.destroyed

section Create

variable {e e' e'' : Enumeration} {calls calls' : List PdoCreateCall}

theorem pdoCreatesFor_buffers (granted : Nat → Bool) (devices : List AnsiString) :
    (pdoCreatesFor granted devices.zipIdx).map (·.device.buffer) = liveKeys devices := by
  have hfst : liveKeys devices = liveKeys (devices.zipIdx.map Prod.fst) := by
    rw [List.zipIdx_map_fst]
  rw [hfst]
  simp only [pdoCreatesFor, liveKeys, List.map_map, List.filter_map]
  rfl

theorem Extended.refl (e : Enumeration) : Extended e [] e :=
  ⟨by simp, by simp, rfl, by simp, fun _ _ => rfl, rfl⟩

theorem Extended.trans (h : Extended e calls e') (h' : Extended e' calls' e'') :
    Extended e (calls ++ calls') e'' where
  pdoCreates := by rw [h'.pdoCreates, h.pdoCreates, List.append_assoc]
  needInvalidate := by
    rw [h'.needInvalidate, h.needInvalidate]
    simp [or_and_right, exists_or, or_assoc]
  created := by
    rw [h'.created, h.created, List.countP_append]
    omega
  list := by
    rw [h'.list, h.list, h.created, List.countP_append, List.append_assoc, List.range'_append_1]
  pdo j hj := (h'.pdo j (by rw [h.created]; omega)).trans (h.pdo j hj)
  destroyed := h'.destroyed.trans h.destroyed

/-- One device. -/
theorem enumerateDevice_extended (granted : Nat → Bool) (e : Enumeration) (d : AnsiString × Nat) :
    Extended e (pdoCreatesFor granted [d]) (enumerateDevice granted e d) := by
  unfold enumerateDevice pdoCreatesFor
  by_cases h0 : d.1.length = 0
  · simp only [h0, if_true, ne_eq, not_true_eq_false, decide_false, List.filter_cons_of_neg,
      List.filter_nil, List.map_nil, Bool.false_eq_true, not_false_eq_true]
    exact .refl e
  · have hleft : [d].filter (fun d => d.1.length ≠ 0) = [d] := by simp [h0]
    rw [if_neg h0, hleft]
    cases hg : granted d.2 with
    | true =>
        refine ⟨by simp [hg], by simp [hg], by simp [hg, pdoCreate], by simp [hg, pdoCreate],
          fun j hj => ?_, by simp [pdoCreate]⟩
        exact update_of_ne (Nat.ne_of_lt hj) _ _
    | false => exact ⟨by simp [hg], by simp [hg], by simp [hg], by simp [hg], fun _ _ => rfl, rfl⟩

/-- **The second loop.** -/
theorem enumerateDevices_extended (granted : Nat → Bool) (devices : List (AnsiString × Nat))
    (e : Enumeration) :
    Extended e (pdoCreatesFor granted devices) (devices.foldl (enumerateDevice granted) e) := by
  induction devices generalizing e with
  | nil => exact .refl e
  | cons d devices ih =>
      have hcalls : pdoCreatesFor granted (d :: devices) =
          pdoCreatesFor granted [d] ++ pdoCreatesFor granted devices := by
        unfold pdoCreatesFor
        rw [← List.map_append, ← List.filter_append, List.singleton_append]
      rw [hcalls]
      exact (enumerateDevice_extended granted e d).trans (ih _)

end Create

/-! ## 5. The outcome -/

/-- What a scan with this device list makes of the bus. -/
structure Reconciled (s : PnpSys) (devices : List AnsiString) (e : Enumeration) : Prop where
  /-- the default PDO, those Deleted, missing or to be ejected, and those whose name is listed -/
  stays : ∀ i ∈ s.list, s.fateOf devices i = .stays →
    i ∈ e.bus.list ∧ e.bus.pdo i = s.pdo i
  marked : ∀ i ∈ s.list, s.fateOf devices i = .marked →
    i ∈ e.bus.list ∧ e.bus.pdo i = { s.pdo i with missing := true }
  destroyed : ∀ i ∈ s.list, s.fateOf devices i = .destroyed → i ∉ e.bus.list
  /-- these and no others, each of them once -/
  destructions : e.bus.destroyed = s.destroyed ++
    (s.list.filter fun i => s.fateOf devices i = .destroyed).map destroyedByScan
  /-- once for each name that is listed and that no PDO has, and for no other -/
  pdoCreates : ∀ name, (e.pdoCreates.map (·.device.buffer)).count name =
    if name ∈ liveKeys devices ∧ name ∉ taken s s.list then 1 else 0
  needInvalidate : e.needInvalidate = true ↔
    (∃ c ∈ e.pdoCreates, c.success = true) ∨ ∃ i ∈ s.list, s.fateOf devices i = .marked

section Outcome

variable {s : PnpSys} {enumerate : Option ULONG} {devices : List AnsiString} {granted : Nat → Bool}

/-- The bus behind it is the one that a scan makes in the PnP machine. -/
theorem fdoEnumerateNoted_bus (hnd : s.list.Nodup) (hen : enumerate.getD 1 ≠ 0) :
    (fdoEnumerateNoted s enumerate devices granted).bus = s.fdoEnumerate devices granted := by
  have first (l : List Nat) (e : Enumeration) :
      ((l.foldl enumeratePdo e).bus, (l.foldl enumeratePdo e).devices) =
        l.foldl (visit enumerateVisit) (e.bus, e.devices) := by
    induction l generalizing e with
    | nil => rfl
    | cons i l ih =>
        rw [List.foldl_cons, List.foldl_cons, ih, visit_enumerateVisit, enumeratePdo_eq]
  have second (l : List (AnsiString × Nat)) (e : Enumeration) :
      (l.foldl (enumerateDevice granted) e).bus = l.foldl (createVisit granted) e.bus := by
    induction l generalizing e with
    | nil => rfl
    | cons d l ih =>
        have hone : (enumerateDevice granted e d).bus = createVisit granted e.bus d := by
          unfold enumerateDevice createVisit
          by_cases h0 : d.1.length = 0
          · simp [h0]
          · cases hg : granted d.2 <;> simp [h0]
        rw [List.foldl_cons, List.foldl_cons, ih, hone]
  have hwalk : ((firstLoop s devices).bus, (firstLoop s devices).devices) =
      s.walk enumerateVisit devices := by
    rw [firstLoop_eq hnd]
    exact first _ _
  rw [show fdoEnumerateNoted s enumerate devices granted = _ from if_neg hen, second]
  unfold fdoEnumerate
  rw [← hwalk]

/-- What the two loops leave. -/
theorem Visited.reconciled {e e' : Enumeration} (hs : s.Linked)
    (hdevices : (liveKeys devices).Nodup) (h : Visited s devices s.list e)
    (h' : Extended e (pdoCreatesFor granted e.devices.zipIdx) e') : Reconciled s devices e' := by
  have hold {i : Nat} (hi : i ∈ s.list) : e'.bus.pdo i = e.bus.pdo i :=
    h'.pdo i (by rw [h.created]; exact hs.created i hi)
  have hlisted {i : Nat} (hi : i ∈ s.list) :
      i ∈ e'.bus.list ↔ s.fateOf devices i ≠ .destroyed := by
    have hnew : i ∉ List.range' e.bus.created
        ((pdoCreatesFor granted e.devices.zipIdx).countP (·.success)) := by
      have hlt := hs.created i hi
      rw [h.created, List.mem_range'_1]
      omega
    rw [h'.list, List.mem_append, or_iff_left hnew, h.list, mem_linkedStill]
    simp [hi]
  have hcalls : e'.pdoCreates = pdoCreatesFor granted e.devices.zipIdx := by
    rw [h'.pdoCreates, h.pdoCreates, List.nil_append]
  refine ⟨fun i hi hf => ⟨(hlisted hi).mpr (by simp [hf]), (hold hi).trans (h.stays i hi hf)⟩,
    fun i hi hf => ⟨(hlisted hi).mpr (by simp [hf]), (hold hi).trans (h.marked i hi hf)⟩,
    fun i hi hf hmem => (hlisted hi).mp hmem hf, h'.destroyed.trans h.destroyed, fun name => ?_, ?_⟩
  · rw [hcalls, pdoCreatesFor_buffers, h.keys]
    have hleft : ((liveKeys devices).diff (taken s s.list)).Nodup := hdevices.diff
    rw [hleft.count]
    simp only [hdevices.mem_sdiff_iff]
  · rw [h'.needInvalidate, h.needInvalidate, ← hcalls]
    exact or_comm

/-- **`__FdoEnumerate` reconciles the list of PDOs with the device list.** For every list whose
    PDOs, the default one and those Deleted apart, have names of their own, and every device list
    where no name is listed twice, with any of the calls of `PdoCreate` succeeding. -/
theorem fdoEnumerate_reconciles (hs : s.Linked) (hnames : (taken s s.list).Nodup)
    (hdevices : (liveKeys devices).Nodup) (hen : enumerate.getD 1 ≠ 0) :
    Reconciled s devices (fdoEnumerateNoted s enumerate devices granted) := by
  rw [show fdoEnumerateNoted s enumerate devices granted = _ from if_neg hen]
  exact (visited_all hs hnames hdevices).reconciled hs hdevices (enumerateDevices_extended ..)

end Outcome

/-- The default PDO, and others in this state. -/
def busOf (others : List Pdo) : PnpSys :=
  { PnpSys.init with
    list := List.range (others.length + 1)
    pdo := fun i => match i with
      | 0 => .new none
      | i + 1 => others.getD i (.new none)
    created := others.length + 1
    references := others.length + 2 }

/-- Four PDOs that have been enumerated or not, one of which is listed, and one to be ejected. -/
def fourPdos : PnpSys :=
  busOf [.new (some "A"), .new (some "B"), (Pdo.new (some "C")).setDevicePnpState .started,
    { Pdo.new (some "D") with ejectRequested := true }]

/-- A device that is listed, a new one, and one that is not supported. -/
def threeDevices : List AnsiString := [⟨['A'], 1⟩, ⟨['E'], 1⟩, ⟨['F'], 0⟩]

theorem fdoEnumerate_reconciles_fourPdos :
    (fdoEnumerateNoted fourPdos none threeDevices fun _ => true).bus.list = [0, 1, 3, 4, 5] ∧
    Reconciled fourPdos threeDevices (fdoEnumerateNoted fourPdos none threeDevices fun _ => true) :=
  ⟨by decide +kernel, fdoEnumerate_reconciles ⟨by decide, by decide⟩ (by decide) (by decide)
    (by decide)⟩

end Xencons
