import Xencons.Lib.Watched
import Xencons.Fdo.Enumerate

/-!
# The bus follows the store (fdo.c, pdo.c)

The scan thread waits on an event that a watch on `device/console` sets, and so does whoever asks for
the relations. In each round it clears the event, reads the directory and compares the bus with it,
while the store changes, IRPs come to the FDO and its PDOs, and devices are ejected.

* `listed` -- the keys that a round looks for: `liveKeys_devices`;
* `Mirrors` -- the PDOs are those of the keys, but for the ones that a round spares and those that
  have gone since: `Mirrors.shrinks`, whatever happens between rounds; `enumerate_mirrors`, a round;
* `ScanSys`, `scanSystem` -- the store, the thread and the bus;
* `Following` -- the invariant: `following_next`;
* **`bus_follows_store`** -- the result.
-/

namespace Xencons

open Lib PnpSys Function

/-! ## 1. The keys -/

/-- Keys that a round takes as they are: each of them fits a device ID, and none is there twice. -/
structure Tidy (keys : List (List Char)) : Prop where
  key : ∀ k ∈ keys, k ≠ [] ∧ NUL ∉ k ∧ k.length < MAX_DEVICE_ID_LEN
  apart : (keys.map (·.map toupper)).Nodup

/-- The names of the devices that are there and that `UnsupportedDevices` does not blank. -/
def listed (unsupported keys : List (List Char)) : List (List Char) :=
  (keys.map (·.map toupper)).filter fun name => !(AnsiString.ofName name).unsupported unsupported

/-- What a round is told: the allocations of the device list succeed, the registry values
    `UnsupportedDevices` and `Enumerate`, and which calls of `PdoCreate` succeed. -/
structure ScanAnswers where
  allocated : Bool
  unsupportedDevices : List (List Char)
  enumerate : Option ULONG
  granted : Nat → Bool

/-- The device list that `FdoScan` hands to `__FdoEnumerate`. -/
def ScanAnswers.devices (a : ScanAnswers) (keys : List (List Char)) : Option (List AnsiString) :=
  (fdoMultiSzToUpcaseAnsi (multiSz keys) a.allocated).map (dropUnsupported a.unsupportedDevices)

section Keys

variable {keys : List (List Char)} {a : ScanAnswers} {devices : List AnsiString}

theorem Tidy.listed (h : Tidy keys) (unsupported : List (List Char)) :
    (listed unsupported keys).Nodup := h.apart.filter _

theorem Tidy.length (h : Tidy keys) {unsupported : List (List Char)} {name : List Char}
    (hname : name ∈ Xencons.listed unsupported keys) : name.length < MAX_DEVICE_ID_LEN := by
  obtain ⟨k, hk, rfl⟩ := List.mem_map.mp (List.mem_of_mem_filter hname)
  rw [List.length_map]
  exact (h.key k hk).2.2

theorem liveKeys_dropUnsupported (unsupported names : List (List Char))
    (hnames : ∀ name ∈ names, name.length % 2 ^ 16 ≠ 0) :
    liveKeys (dropUnsupported unsupported (names.map .ofName)) =
      names.filter fun name => !(AnsiString.ofName name).unsupported unsupported := by
  induction names with
  | nil => rfl
  | cons name names ih =>
      have hrest := ih fun name' h => hnames name' (List.mem_cons_of_mem _ h)
      have hlength : (AnsiString.ofName name).length ≠ 0 := hnames name List.mem_cons_self
      unfold dropUnsupported at hrest ⊢
      rw [List.map_cons, List.map_cons, liveKeys_cons, hrest]
      by_cases hu : (AnsiString.ofName name).unsupported unsupported = true
      · rw [if_pos hu, if_pos rfl, List.filter_cons_of_neg (by simp [hu])]
      · rw [if_neg hu, if_neg hlength, List.filter_cons_of_pos (by simp [hu])]
        rfl

/-- **What a round looks for.** -/
theorem liveKeys_devices (h : Tidy keys) (hd : a.devices keys = some devices) :
    liveKeys devices = listed a.unsupportedDevices keys := by
  obtain ⟨ansi, hansi, rfl⟩ := Option.map_eq_some_iff.mp hd
  have hallocated : a.allocated = true := by
    unfold fdoMultiSzToUpcaseAnsi at hansi
    split at hansi
    · split at hansi
      · assumption
      · cases hansi
    · cases hansi
  rw [hallocated] at hansi
  by_cases hne : keys = []
  · -- a directory that is empty makes one entry, which is blank
    subst hne
    have hblank : ansi = [⟨[], 0⟩] := Option.some.inj (hansi.symm.trans rfl)
    subst hblank
    simp only [liveKeys, dropUnsupported, Xencons.listed, List.map_cons, List.map_nil]
    split <;> rfl
  · rw [fdoMultiSzToUpcaseAnsi_multiSz hne fun k hk => ⟨(h.key k hk).1, (h.key k hk).2.1⟩] at hansi
    obtain rfl := Option.some.inj hansi
    have hmap : (keys.map fun k => AnsiString.ofName (k.map toupper)) =
        (keys.map (·.map toupper)).map .ofName := by
      rw [List.map_map]
      rfl
    rw [hmap, liveKeys_dropUnsupported]
    · rfl
    · intro name hname
      obtain ⟨k, hk, rfl⟩ := List.mem_map.mp hname
      obtain ⟨hk0, -, hlt⟩ := h.key k hk
      have hpos := List.length_pos_iff.mpr hk0
      rw [List.length_map]
      unfold MAX_DEVICE_ID_LEN at hlt
      omega

/-- The name of a PDO is the whole key. -/
theorem toList_setName {name : List Char} (h : name.length < MAX_DEVICE_ID_LEN) :
    (setName name).toList = name := by
  unfold MAX_DEVICE_ID_LEN at h
  have hmod : name.length % 2 ^ 16 = name.length := Nat.mod_eq_of_lt (by omega)
  unfold setName pdoSetName AnsiString.ofName
  rw [String.toList_ofList]
  dsimp only
  rw [hmod, List.take_length, MAX_DEVICE_ID_LEN, List.take_of_length_le (by omega)]

end Keys

/-! ## 2. The bus against the keys -/

/-- **The PDOs are those of these keys**, but for those in `spared`, which are there without a key,
    and the names in `gone`, which no PDO has any more. -/
structure Mirrors (s : PnpSys) (keys : List (List Char)) (spared : List Nat)
    (gone : List (List Char)) : Prop where
  only : ∀ i ∈ s.list, (s.pdo i).missing = false → (s.pdo i).isDefault = true ∨ i ∈ spared ∨
    (s.pdo i).name.toList ∈ keys
  all : ∀ key ∈ keys, key ∈ taken s s.list ∨ key ∈ gone

/-- PDOs have gone, or are missing, or have been deleted. -/
structure Shrinks (s s' : PnpSys) : Prop where
  fades : Fades s s'
  isDefault : ∀ i ∈ s'.list, (s'.pdo i).isDefault = (s.pdo i).isDefault
  deleted : ∀ i ∈ s'.list, (s.pdo i).devicePnpState = .deleted → (s'.pdo i).devicePnpState = .deleted

/-- The names that PDOs have had, and have no more. -/
def lost (s s' : PnpSys) : List (List Char) :=
  (taken s s.list).filter fun name => decide (name ∉ taken s' s'.list)

section Bus

variable {s s' s'' : PnpSys} {i : Nat} {op : PdoOp} {p : Pdo} {keys gone : List (List Char)}
  {spared : List Nat}

theorem mem_taken {name : List Char} : name ∈ taken s s.list ↔ ∃ i ∈ s.list,
    (s.pdo i).isDefault = false ∧ (s.pdo i).devicePnpState ≠ .deleted ∧
      (s.pdo i).name.toList = name := by
  simp [taken, and_assoc]

theorem Shrinks.refl (s : PnpSys) : Shrinks s s := ⟨.refl s, fun _ _ => rfl, fun _ _ h => h⟩

theorem Shrinks.trans (h : Shrinks s s') (h' : Shrinks s' s'') : Shrinks s s'' where
  fades := h.fades.trans h'.fades
  isDefault i hi := (h'.isDefault i hi).trans (h.isDefault i (h'.fades.list.subset hi))
  deleted i hi hd := h'.deleted i hi (h.deleted i (h'.fades.list.subset hi) hd)

theorem run_isDefault : (op.run p).1.isDefault = p.isDefault := by
  cases op with
  | enumerate | fdoRemoveDevice | queryDeviceRelations | removeDevice =>
      simp only [PdoOp.run, Pdo.setDevicePnpState]
      split_ifs <;> rfl
  | cancelStopDevice | cancelRemoveDevice =>
      simp only [PdoOp.run, Pdo.restoreDevicePnpState]
      split_ifs <;> rfl
  | _ => rfl

theorem Shrinks.onPdo (hnd : s.list.Nodup)
    (hop : op.isIrp = true → (s.pdo i).devicePnpState ≠ .deleted) : Shrinks s (s.onPdo i op) := by
  refine ⟨.onPdo hnd, fun j hj => ?_, fun j hj hd => ?_⟩
  · by_cases hji : j = i
    · subst hji
      rw [(self_mem_onPdo hnd hj).2, run_isDefault]
    · rw [onPdo_pdo_of_ne hji]
  · by_cases hji : j = i
    · subst hji
      have hirp : op.isIrp = false := Bool.eq_false_iff.mpr fun h => hop h hd
      rw [(self_mem_onPdo hnd hj).2]
      exact run_deleted hirp hd
    · rwa [onPdo_pdo_of_ne hji]

/-- **Nothing that comes to the PDOs does more.** -/
theorem between_shrinks : Between Shrinks where
  trans := Shrinks.trans
  congr hlist hpdo hcreated := ⟨between_fades.congr hlist hpdo hcreated, fun i _ => by rw [hpdo],
    fun i _ h => by rwa [hpdo]⟩
  onPdo := .onPdo

/-- Whatever comes, but for a scan. -/
theorem shrinks_next (hnd : s.list.Nodup) {l : PnpLabel} (hl : ∀ c, l ≠ .scan c) :
    Shrinks s (pnpNext s l) := by
  cases l with
  | fdo irp => exact between_shrinks.fdoDispatchPnp hnd irp
  | pdo i op => exact between_shrinks.pdoDispatchPnp hnd
  | scan c => exact absurd rfl (hl c)
  | requestEject i => exact .onPdo hnd nofun

theorem Shrinks.taken (h : Shrinks s s') :
    (taken s' s'.list).Sublist (Xencons.taken s s.list) := by
  have hsub : (s'.list.filter fun i => !((s'.pdo i).isDefault ||
      (s'.pdo i).devicePnpState = .deleted)).Sublist (s.list.filter fun i => !((s.pdo i).isDefault ||
        (s.pdo i).devicePnpState = .deleted)) := by
    have hmono : s'.list.filter (fun i => !((s'.pdo i).isDefault ||
        (s'.pdo i).devicePnpState = .deleted)) = (s'.list.filter fun i => !((s.pdo i).isDefault ||
          (s.pdo i).devicePnpState = .deleted)).filter fun i => !((s'.pdo i).isDefault ||
            (s'.pdo i).devicePnpState = .deleted) := by
      rw [List.filter_filter]
      refine List.filter_congr fun i hi => ?_
      rw [h.isDefault i hi]
      by_cases hd : (s.pdo i).devicePnpState = .deleted
      · simp [hd, h.deleted i hi hd]
      · cases hdefault : (s.pdo i).isDefault <;> simp [hd]
    rw [hmono]
    exact List.filter_sublist.trans (h.fades.list.filter _)
  unfold Xencons.taken
  rw [show (fun i => (s'.pdo i).name.toList) = fun i => (s.pdo i).name.toList from
    funext fun i => by rw [h.fades.name i]]
  exact hsub.map _

/-- **Between rounds**, the bus goes on mirroring the keys, but for the names it loses. -/
theorem Mirrors.shrinks (hm : Mirrors s keys spared gone) (h : Shrinks s s') :
    Mirrors s' keys spared (gone ++ lost s s') := by
  refine ⟨fun i hi hmissing => ?_, fun key hkey => ?_⟩
  · rw [h.isDefault i hi, h.fades.name i]
    exact hm.only i (h.fades.list.subset hi) (h.fades.missing i hi hmissing)
  · rcases hm.all key hkey with htaken | hgone
    · by_cases hstill : key ∈ taken s' s'.list
      · exact .inl hstill
      · refine .inr (List.mem_append_right _ (List.mem_filter.mpr ⟨htaken, ?_⟩))
        exact decide_eq_true hstill
    · exact .inr (List.mem_append_left _ hgone)

end Bus

/-! ## 3. A round -/

section Round

variable {s : PnpSys} {devices : List AnsiString} {granted : Nat → Bool}

theorem Linked.create (h : s.Linked) (d : AnsiString) : (s.pdoCreate d).Linked := by
  refine ⟨?_, fun i hi => ?_⟩
  · refine List.nodup_append.mpr ⟨h.nodup, List.nodup_singleton _, fun i hi j hj hij => ?_⟩
    obtain rfl := List.mem_singleton.mp hj
    exact Nat.lt_irrefl _ (hij ▸ h.created i hi)
  · show i < s.created + 1
    rcases List.mem_append.mp hi with hi | hi
    · exact Nat.lt_succ_of_lt (h.created i hi)
    · exact List.mem_singleton.mp hi ▸ Nat.lt_succ_self _

/-- A new PDO takes its name. -/
theorem taken_create (h : s.Linked) (d : AnsiString) :
    taken (s.pdoCreate d) (s.pdoCreate d).list =
      taken s s.list ++ [(pdoSetName (some d)).toList] := by
  have hold : ∀ j ∈ s.list, (s.pdoCreate d).pdo j = s.pdo j := fun j hj => by
    simp [pdoCreate, Nat.ne_of_lt (h.created j hj)]
  have hnew : (s.pdoCreate d).pdo s.created = .new (some (pdoSetName (some d))) := by
    simp [pdoCreate]
  have hlist : (s.pdoCreate d).list = s.list ++ [s.created] := rfl
  have hsame : taken (s.pdoCreate d) s.list = taken s s.list := by
    unfold taken
    rw [List.filter_congr fun j hj => by rw [hold j hj]]
    exact List.map_congr_left fun j hj => by rw [hold j (List.mem_of_mem_filter hj)]
  rw [hlist, taken_append, hsame, hnew]
  rfl

/-- **The second loop**, by the names that it takes and by the PDOs that it makes. -/
theorem enumerateDevices_taken (granted : Nat → Bool) (devices : List (AnsiString × Nat))
    {e : Enumeration} (h : e.bus.Linked) :
    taken (devices.foldl (enumerateDevice granted) e).bus
        (devices.foldl (enumerateDevice granted) e).bus.list =
      taken e.bus e.bus.list ++ (createdNames granted devices).map String.toList ∧
    ∀ i ∈ (devices.foldl (enumerateDevice granted) e).bus.list, i ∈ e.bus.list ∨
      ∃ name ∈ createdNames granted devices,
        (devices.foldl (enumerateDevice granted) e).bus.pdo i = .new (some name) := by
  induction devices generalizing e with
  | nil => exact ⟨by simp [createdNames], fun i hi => .inl hi⟩
  | cons d devices ih =>
      rw [List.foldl_cons, createdNames_cons]
      by_cases hd : d.1.length ≠ 0 ∧ granted d.2 = true
      · have hone : (enumerateDevice granted e d).bus = e.bus.pdoCreate d.1 := by
          unfold enumerateDevice
          rw [if_neg hd.1, if_pos hd.2]
        have hlinked : (enumerateDevice granted e d).bus.Linked := hone ▸ Linked.create h d.1
        obtain ⟨htaken, hpdos⟩ := ih hlinked
        rw [if_pos hd, htaken, hone, taken_create h]
        refine ⟨by simp, fun i hi => ?_⟩
        rcases hpdos i hi with hi' | ⟨name, hname, hpdo⟩
        · have hmem : i ∈ e.bus.list ++ [e.bus.created] := by
            rw [hone] at hi'
            exact hi'
          rcases List.mem_append.mp hmem with hmem | hmem
          · exact .inl hmem
          · refine .inr ⟨_, List.mem_cons_self, ?_⟩
            obtain rfl := List.mem_singleton.mp hmem
            have hlt : e.bus.created < (enumerateDevice granted e d).bus.created := by
              rw [hone]
              exact Nat.lt_succ_self _
            rw [(enumerateDevices_extended granted devices _).pdo _ hlt, hone]
            simp [pdoCreate]
        · exact .inr ⟨name, List.mem_cons_of_mem _ hname, hpdo⟩
      · have hone : (enumerateDevice granted e d).bus = e.bus := by
          unfold enumerateDevice
          by_cases h0 : d.1.length = 0
          · rw [if_pos h0]
          · rw [if_neg h0, if_neg fun hg => hd ⟨h0, hg⟩]
        have hlinked : (enumerateDevice granted e d).bus.Linked := hone ▸ h
        rw [if_neg hd, ← hone]
        exact ih hlinked

/-- What the first loop leaves of a PDO that it does not destroy. -/
theorem Visited.pdo {e : Enumeration} (h : Visited s devices s.list e) {i : Nat}
    (hi : i ∈ e.bus.list) : i ∈ s.list ∧ s.fateOf devices i ≠ .destroyed ∧
      (e.bus.pdo i = s.pdo i ∨ e.bus.pdo i = { s.pdo i with missing := true }) := by
  rw [h.list, mem_linkedStill] at hi
  obtain ⟨hmem, hleft⟩ := hi
  have hfate : s.fateOf devices i ≠ .destroyed := fun hf => hleft ⟨hmem, hf⟩
  refine ⟨hmem, hfate, ?_⟩
  cases hf : s.fateOf devices i with
  | stays => exact .inl (h.stays i hmem hf)
  | marked => exact .inr (h.marked i hmem hf)
  | destroyed => exact absurd hf hfate

/-- **A PDO that the first loop destroys has none of the keys.** -/
theorem Visited.taken {e : Enumeration} (h : Visited s devices s.list e) :
    (taken e.bus e.bus.list).Sublist (Xencons.taken s s.list) ∧
      ∀ key ∈ liveKeys devices, key ∈ Xencons.taken s s.list →
        key ∈ Xencons.taken e.bus e.bus.list := by
  have hpdo {i : Nat} (hi : i ∈ e.bus.list) : (e.bus.pdo i).isDefault = (s.pdo i).isDefault ∧
      (e.bus.pdo i).devicePnpState = (s.pdo i).devicePnpState ∧
        (e.bus.pdo i).name = (s.pdo i).name := by
    rcases (h.pdo hi).2.2 with heq | heq <;> rw [heq] <;> exact ⟨rfl, rfl, rfl⟩
  refine ⟨?_, fun key hkey htaken => ?_⟩
  · have hsame : Xencons.taken e.bus e.bus.list = Xencons.taken s e.bus.list := by
      unfold Xencons.taken
      rw [List.filter_congr fun i hi => by rw [(hpdo hi).1, (hpdo hi).2.1]]
      exact List.map_congr_left fun i hi => by rw [(hpdo (List.mem_of_mem_filter hi)).2.2]
    have hlist : e.bus.list.Sublist s.list := by
      rw [h.list]
      exact List.filter_sublist
    rw [hsame]
    exact (hlist.filter _).map _
  · obtain ⟨i, hi, hdefault, hdeleted, rfl⟩ := mem_taken.mp htaken
    have hstays : s.fateOf devices i = .stays := by
      simp only [PnpSys.fateOf, fate, if_pos hkey, ite_self]
    have hlisted : i ∈ e.bus.list := by
      rw [h.list, mem_linkedStill]
      exact ⟨hi, fun hgone => by rw [hstays] at hgone; cases hgone.2⟩
    have heq := h.stays i hi hstays
    exact mem_taken.mpr ⟨i, hlisted, by rw [heq]; exact hdefault, by rw [heq]; exact hdeleted,
      by rw [heq]⟩

theorem lengthsOk_firstLoop (hnd : s.list.Nodup) (h : LengthsOk devices) :
    LengthsOk (firstLoop s devices).devices := by
  rw [firstLoop_eq hnd]
  refine List.foldlRecOn (motive := fun e : Enumeration => LengthsOk e.devices) _ _ h ?_
  intro e he i _
  have hvisit := @lengthsOk_visit (e.bus, e.devices) he i
  rw [visit_enumerateVisit] at hvisit
  rw [enumeratePdo_eq]
  exact hvisit

/-- What a round is to find: PDOs that have names of their own, and keys that fit. -/
structure RoundReady (s : PnpSys) (devices : List AnsiString) : Prop where
  objects : Objects s
  apart : (taken s s.list).Nodup
  keys : (liveKeys devices).Nodup
  length : ∀ key ∈ liveKeys devices, key.length < MAX_DEVICE_ID_LEN
  lengths : LengthsOk devices

namespace RoundReady

variable (h : RoundReady s devices) (granted)
include h

/-- **The names that the second loop takes** are the keys that no PDO has, less the calls of
    `PdoCreate` that fail. -/
theorem created : ((createdNames granted (firstLoop s devices).devices.zipIdx).map
      String.toList).Sublist ((liveKeys devices).diff (taken s s.list)) ∧
    ((∀ n, granted n = true) →
      (createdNames granted (firstLoop s devices).devices.zipIdx).map String.toList =
        (liveKeys devices).diff (taken s s.list)) := by
  have hlengths : LengthsOk ((firstLoop s devices).devices.zipIdx.map Prod.fst) := by
    rw [List.zipIdx_map_fst]
    exact lengthsOk_firstLoop h.objects.nodup h.lengths
  obtain ⟨hsub, heq⟩ := createdNames_sublist granted hlengths
  rw [List.zipIdx_map_fst, (visited_all h.objects.linked h.apart h.keys).keys] at hsub heq
  have hround : (((liveKeys devices).diff (taken s s.list)).map setName).map String.toList =
      (liveKeys devices).diff (taken s s.list) := by
    rw [List.map_map]
    refine (List.map_congr_left fun key hkey => ?_).trans (List.map_id _)
    exact toList_setName (h.length key (List.diff_subset _ _ hkey))
  exact ⟨hround ▸ hsub.map _, fun hall => by rw [heq hall, hround]⟩

theorem linked_firstLoop : (firstLoop s devices).bus.Linked := by
  have hvisited := visited_all h.objects.linked h.apart h.keys
  refine ⟨?_, fun i hi => ?_⟩
  · rw [hvisited.list]
    exact h.objects.nodup.filter _
  · rw [hvisited.created]
    exact h.objects.created i (hvisited.pdo hi).1

/-- **A round leaves no name twice.** -/
theorem enumerate_apart (enumerate : Option ULONG) :
    (taken (fdoEnumerateNoted s enumerate devices granted).bus
      (fdoEnumerateNoted s enumerate devices granted).bus.list).Nodup := by
  unfold fdoEnumerateNoted
  split
  · exact h.apart
  · obtain ⟨hold, -⟩ := (visited_all h.objects.linked h.apart h.keys).taken
    obtain ⟨hnew, -⟩ := h.created granted
    dsimp only
    rw [(enumerateDevices_taken granted _ h.linked_firstLoop).1]
    refine List.nodup_append.mpr ⟨h.apart.sublist hold, h.keys.diff.sublist hnew, ?_⟩
    rintro name hname _ hname' rfl
    exact (h.keys.mem_sdiff_iff.mp (hnew.subset hname')).2 (hold.subset hname)

/-- The PDOs that the first loop leaves as they are. -/
theorem firstLoop_only {e : Enumeration} (he : Visited s devices s.list e) {i : Nat}
    (hi : i ∈ e.bus.list) (hmissing : (e.bus.pdo i).missing = false) :
    (e.bus.pdo i).isDefault = true ∨ (s.pdo i).ejectRequested = true ∨
      (e.bus.pdo i).name.toList ∈ liveKeys devices := by
  obtain ⟨hmem, hfate, heq | heq⟩ := he.pdo hi
  · have hstays : s.fateOf devices i = .stays := by
      cases hf : s.fateOf devices i with
      | stays => rfl
      | marked =>
          rw [he.marked i hmem hf] at hmissing
          cases hmissing
      | destroyed => exact absurd hf hfate
    rw [heq] at hmissing ⊢
    have hdeleted : (s.pdo i).devicePnpState ≠ .deleted := fun hd =>
      absurd (hmissing.symm.trans ((h.objects.ok i hmem).missing hd)) nofun
    by_contra hnone
    simp only [not_or, Bool.not_eq_true] at hnone
    obtain ⟨hdefault, heject, hkey⟩ := hnone
    unfold PnpSys.fateOf fate at hstays
    rw [if_neg (by simp [hdefault, heject, hmissing, hdeleted]), if_neg hkey] at hstays
    split at hstays <;> cases hstays
  · rw [heq] at hmissing
    cases hmissing

/-- **A round that is whole** makes the bus mirror the keys. -/
theorem enumerate_mirrors {enumerate : Option ULONG} (hen : enumerate.getD 1 ≠ 0)
    (hall : ∀ c ∈ (fdoEnumerateNoted s enumerate devices granted).pdoCreates, c.success = true) :
    Mirrors (fdoEnumerateNoted s enumerate devices granted).bus (liveKeys devices)
      (s.list.filter fun i => (s.pdo i).ejectRequested) [] := by
  have hnoted : fdoEnumerateNoted s enumerate devices granted =
      (firstLoop s devices).devices.zipIdx.foldl (enumerateDevice granted) (firstLoop s devices) :=
    if_neg hen
  have hvisited := visited_all h.objects.linked h.apart h.keys
  have hextended := enumerateDevices_extended granted (firstLoop s devices).devices.zipIdx
    (firstLoop s devices)
  obtain ⟨htaken, hpdos⟩ := enumerateDevices_taken granted (firstLoop s devices).devices.zipIdx
    h.linked_firstLoop
  rw [hnoted] at hall ⊢
  refine ⟨fun i hi hmissing => ?_, fun key hkey => .inl ?_⟩
  · rcases hpdos i hi with hold | ⟨name, hname, hpdo⟩
    · have heq := hextended.pdo i (h.linked_firstLoop.created i hold)
      rw [heq] at hmissing ⊢
      refine (h.firstLoop_only hvisited hold hmissing).imp_right fun hor => ?_
      exact hor.imp_left fun heject =>
        List.mem_filter.mpr ⟨(hvisited.pdo hold).1, heject⟩
    · have hmem := (h.created granted).1.subset (List.mem_map_of_mem hname)
      refine .inr (.inr ?_)
      rw [hpdo]
      exact List.diff_subset _ _ hmem
  · rw [htaken]
    by_cases hold : key ∈ taken s s.list
    · exact List.mem_append_left _ (hvisited.taken.2 key hkey hold)
    · -- a key that no PDO has, and every `PdoCreate` has succeeded
      have hgranted : createdNames granted (firstLoop s devices).devices.zipIdx =
          createdNames (fun _ => true) (firstLoop s devices).devices.zipIdx := by
        unfold createdNames
        rw [List.filter_congr fun d hd => ?_]
        rw [hextended.pdoCreates] at hall
        by_cases h0 : d.1.length = 0
        · simp [h0]
        · have hcall := hall ⟨d.1, granted d.2⟩ (List.mem_append_right _
            (List.mem_map.mpr ⟨d, List.mem_filter.mpr ⟨hd, by simpa using h0⟩, rfl⟩))
          have hsuccess : granted d.2 = true := hcall
          simp [h0, hsuccess]
      rw [hgranted, (h.created fun _ => true).2 fun _ => rfl]
      exact List.mem_append_right _ (h.keys.mem_sdiff_iff.mpr ⟨hkey, hold⟩)

end RoundReady

/-- A round is no concern of the FDO's, and reports nothing. -/
theorem fdoEnumerateNoted_frame (hnd : s.list.Nodup) (enumerate : Option ULONG) :
    (fdoEnumerateNoted s enumerate devices granted).bus.fdo = s.fdo ∧
      (fdoEnumerateNoted s enumerate devices granted).bus.reports = s.reports := by
  have hfate (e : Enumeration) (i : Nat) : (enumeratePdo e i).bus.fdo = e.bus.fdo ∧
      (enumeratePdo e i).bus.reports = e.bus.reports := by
    rw [enumeratePdo_eq]
    cases fate (liveKeys e.devices) (e.bus.pdo i) <;> exact ⟨rfl, rfl⟩
  have hdevice (e : Enumeration) (d : AnsiString × Nat) :
      (enumerateDevice granted e d).bus.fdo = e.bus.fdo ∧
        (enumerateDevice granted e d).bus.reports = e.bus.reports := by
    unfold enumerateDevice
    split_ifs <;> exact ⟨rfl, rfl⟩
  let Frame (e : Enumeration) : Prop := e.bus.fdo = s.fdo ∧ e.bus.reports = s.reports
  unfold fdoEnumerateNoted
  split
  · exact ⟨rfl, rfl⟩
  · rw [firstLoop_eq hnd]
    refine List.foldlRecOn (motive := Frame) _ _ ?_ ?_
    · refine List.foldlRecOn (motive := Frame) _ _ ⟨rfl, rfl⟩ ?_
      intro e he i _
      exact ⟨(hfate e i).1.trans he.1, (hfate e i).2.trans he.2⟩
    · intro e he d _
      exact ⟨(hdevice e d).1.trans he.1, (hdevice e d).2.trans he.2⟩

theorem Objects.enumerateNoted (h : Objects s) (enumerate : Option ULONG) :
    Objects (fdoEnumerateNoted s enumerate devices granted).bus := by
  by_cases hen : enumerate.getD 1 = 0
  · rw [show fdoEnumerateNoted s enumerate devices granted = _ from if_pos hen]
    exact h
  · rw [fdoEnumerateNoted_bus h.nodup hen]
    exact h.enumerate devices granted

end Round

/-! ## 4. The store, the thread and the bus -/

/-- A round that has compared the bus with the directory, and has made every PDO that it wanted. -/
structure Round where
  unsupportedDevices : List (List Char)
  /-- the PDOs that were to be ejected then -/
  spared : List Nat
  /-- the names that PDOs have lost since then -/
  gone : List (List Char)
deriving DecidableEq

structure ScanSys where
  bus : PnpSys
  /-- the keys of `device/console` and `FdoScan`; without the directory, none -/
  scan : Watched (Option (List (List Char)))
  /-- the last round, if it has got that far -/
  round : Option Round

inductive ScanLabel where
  /-- an IRP or a request to eject, behind its wait for the scan thread -/
  | pnp (l : PnpLabel)
  | change (store : Option (List (List Char)))
  /-- `ThreadWake`, of whoever asks for the relations -/
  | threadWake
  /-- the steps of `FdoScan` -/
  | keWaitForSingleObject
  | directory (granted : Bool)
  | fdoEnumerate (a : ScanAnswers)

/-- The ones that join the thread. -/
def PnpLabel.joins : PnpLabel → Bool
  | .fdo (.startDevice _ _ _) | .fdo .stopDevice | .fdo .removeDevice => true
  | _ => false

/-- `FdoStartDevice` wakes the thread when it is through. -/
def PnpLabel.wakes (s : PnpSys) : PnpLabel → Bool
  | .fdo (.startDevice forwarded threadCreated wake) =>
    s.fdo.devicePnpState ≠ .deleted && (forwarded && threadCreated && wake = .success)
  | _ => false

namespace ScanSys

def init (store : Option (List (List Char))) : ScanSys := ⟨.init, .init store, none⟩

/-- Something comes to the bus. -/
def onBus (s : ScanSys) (l : PnpLabel) : ScanSys where
  bus := pnpNext s.bus l
  scan := s.scan.rearm (pnpNext s.bus l).fdo.scanWatch (l.wakes s.bus)
  round := s.round.map fun r => { r with gone := r.gone ++ lost s.bus (pnpNext s.bus l) }

/-- The round ends early. -/
def giveUp (s : ScanSys) : ScanSys := { s with scan := s.scan.giveUp, round := none }

/-- `XENBUS_STORE(Directory, ...)`, behind the look at the state of the FDO -/
def directory (s : ScanSys) (granted : Bool) : ScanSys :=
  if s.bus.fdo.devicePnpState = .started ∧ granted ∧ s.scan.source.isSome then
    { s with scan := s.scan.read }
  else s.giveUp

/-- `__FdoEnumerate`, with the device list there is. -/
def enumerated (s : ScanSys) (a : ScanAnswers) (keys : List (List Char))
    (devices : List AnsiString) : ScanSys :=
  let e := fdoEnumerateNoted s.bus a.enumerate devices a.granted
  if a.enumerate.getD 1 ≠ 0 ∧ e.pdoCreates.all (·.success) then
    { bus := e.bus
      scan := s.scan.finish (some keys)
      round := some ⟨a.unsupportedDevices,
        s.bus.list.filter fun i => (s.bus.pdo i).ejectRequested, []⟩ }
  else { s.giveUp with bus := e.bus }

/-- The rest of the round. -/
def fdoEnumerate (s : ScanSys) (a : ScanAnswers) : ScanSys :=
  match s.scan.reader with
  | .holds (some keys) =>
    match a.devices keys with
    | some devices => s.enumerated a keys devices
    | none => s.giveUp
  | _ => s.giveUp

end ScanSys

def scanEnabled (s : ScanSys) : ScanLabel → Prop
  | .pnp l => pnpEnabled s.bus l ∧ (∀ c, l ≠ .scan c) ∧ (l.joins = true → s.scan.reader = .waits)
  | .change _ => True
  | .threadWake => s.bus.fdo.scanThread = true
  | .keWaitForSingleObject =>
    s.bus.fdo.scanThread = true ∧ s.scan.reader = .waits ∧ s.scan.event = true
  | .directory _ => s.scan.reader = .awake
  | .fdoEnumerate _ => ∃ store, s.scan.reader = .holds store

def scanNext (s : ScanSys) : ScanLabel → ScanSys
  | .pnp l => s.onBus l
  | .change store => { s with scan := s.scan.change store }
  | .threadWake => { s with scan := s.scan.signal }
  | .keWaitForSingleObject => { s with scan := s.scan.wake }
  | .directory granted => s.directory granted
  | .fdoEnumerate a => s.fdoEnumerate a

/-- **The store, the scan thread and the bus.** -/
def scanSystem : System ScanSys ScanLabel where
  enabled := scanEnabled
  next := scanNext

/-- The toolstack leaves no keys there that a round would not take as they are. -/
def TidyStore (_ : ScanSys) : ScanLabel → Prop
  | .change (some keys) => Tidy keys
  | _ => True

/-! ## 5. The invariant -/

structure Following (s : ScanSys) : Prop where
  objects : Objects s.bus
  apart : (taken s.bus s.bus.list).Nodup
  armed : s.scan.armed = s.bus.fdo.scanWatch
  current : s.scan.Current
  source : ∀ keys, s.scan.source = some keys → Tidy keys
  holds : ∀ store, s.scan.reader = .holds store → ∃ keys, store = some keys ∧ Tidy keys
  round : ∀ r, s.round = some r → ∃ keys, s.scan.seen = some (some keys) ∧
    Mirrors s.bus (listed r.unsupportedDevices keys) r.spared r.gone

theorem following_init {store : Option (List (List Char))}
    (h : ∀ keys, store = some keys → Tidy keys) : Following (.init store) where
  objects := objects_init
  apart := List.nodup_nil
  armed := rfl
  current := .init _
  source := h
  holds _ h := by cases h
  round _ h := by cases h

section Steps

variable {s : ScanSys} {l : ScanLabel}

/-- Only a start arms the watch, and it wakes the thread. -/
theorem scanWatch_next {s : PnpSys} {l : PnpLabel} (hl : ∀ c, l ≠ .scan c)
    (h : (pnpNext s l).fdo.scanWatch = true) : s.fdo.scanWatch = true ∨ l.wakes s = true := by
  cases l with
  | scan c => exact absurd rfl (hl c)
  | requestEject i => exact .inl ((sameFdo_onPdo s i _).fdo ▸ h)
  | pdo i op =>
      left
      have hfdo : (s.pdoDispatchPnp i op).fdo = s.fdo := by
        unfold PnpSys.pdoDispatchPnp
        split
        · rfl
        · split
          · exact testReferences_frame.1.trans (sameFdo_onPdo s i op).fdo
          · exact (sameFdo_onPdo s i op).fdo
      exact hfdo ▸ h
  | fdo irp =>
      have hdispatch : (s.fdoDispatchPnp irp).fdo.scanWatch = true := h
      unfold fdoDispatchPnp at hdispatch
      split at hdispatch
      · exact .inl hdispatch
      · rename_i hdeleted
        cases irp with
        | startDevice forwarded threadCreated wake =>
            cases forwarded <;> cases threadCreated <;> cases wake <;>
              simp_all [FdoDx.startDevice, FdoDx.d3ToD0, PnpLabel.wakes]
        | queryStopDevice | queryRemoveDevice => exact .inl hdispatch
        | cancelStopDevice | cancelRemoveDevice =>
            simp only [FdoDx.restoreDevicePnpState] at hdispatch
            split at hdispatch <;> exact .inl hdispatch
        | stopDevice =>
            left
            simp only [FdoDx.powerDown, FdoDx.setDevicePnpState] at hdispatch
            split at hdispatch
            · cases hdispatch
            · exact hdispatch
        | surpriseRemoval =>
            left
            simp only [fdoSurpriseRemoval, sameFdo_walk.fdo] at hdispatch
            exact hdispatch
        | removeDevice =>
            left
            simp only [fdoRemoveDevice, testReferences_frame.1] at hdispatch
            split at hdispatch
            · simp only [FdoDx.powerDown, FdoDx.setDevicePnpState, sameFdo_walk.fdo] at hdispatch
              split at hdispatch
              · cases hdispatch
              · exact hdispatch
            · exact hdispatch
        | queryDeviceRelations allocated forwarded =>
            left
            simp only [fdoQueryDeviceRelations] at hdispatch
            split at hdispatch
            · split at hdispatch
              · simpa only [sameFdo_walk.fdo] using hdispatch
              · simpa only [sameFdo_walk.fdo] using hdispatch
            · exact hdispatch

theorem Following.giveUp (h : Following s) : Following s.giveUp :=
  ⟨h.objects, h.apart, h.armed, .giveUp _, h.source, nofun, nofun⟩

theorem Following.ready (h : Following s) {a : ScanAnswers} {keys : List (List Char)}
    (hkeys : Tidy keys) {devices : List AnsiString} (hd : a.devices keys = some devices) :
    RoundReady s.bus devices := by
  have hlive := liveKeys_devices hkeys hd
  refine ⟨h.objects, h.apart, hlive ▸ hkeys.listed _, fun key hkey => hkeys.length (hlive ▸ hkey), ?_⟩
  obtain ⟨ansi, hansi, rfl⟩ := Option.map_eq_some_iff.mp hd
  refine LengthsOk.dropUnsupported ?_ _
  unfold fdoMultiSzToUpcaseAnsi at hansi
  split at hansi
  · split at hansi
    · obtain rfl := Option.some.inj hansi
      exact .ansiLoop _ _
    · cases hansi
  · cases hansi

/-- **The rest of the round.** -/
theorem Following.fdoEnumerate (h : Following s) (a : ScanAnswers) : Following (s.fdoEnumerate a) := by
  unfold ScanSys.fdoEnumerate
  split
  · rename_i keys hreader
    split
    · rename_i devices hd
      obtain ⟨keys', heq, hkeys⟩ := h.holds _ hreader
      obtain rfl : keys = keys' := Option.some.inj heq
      have hready := h.ready hkeys hd
      have hobjects : Objects (fdoEnumerateNoted s.bus a.enumerate devices a.granted).bus :=
        h.objects.enumerateNoted a.enumerate
      have hapart := hready.enumerate_apart a.granted a.enumerate
      have hfdo : (fdoEnumerateNoted s.bus a.enumerate devices a.granted).bus.fdo = s.bus.fdo :=
        (fdoEnumerateNoted_frame h.objects.nodup a.enumerate).1
      unfold ScanSys.enumerated
      dsimp only
      split
      · rename_i hwhole
        refine ⟨hobjects, hapart, h.armed.trans (congrArg FdoDx.scanWatch hfdo).symm,
          h.current.finish hreader, h.source, nofun, fun r hr => ?_⟩
        obtain rfl := Option.some.inj hr
        refine ⟨keys, rfl, ?_⟩
        have hmirrors := hready.enumerate_mirrors a.granted hwhole.1 fun c hc =>
          List.all_eq_true.mp hwhole.2 c hc
        rwa [liveKeys_devices hkeys hd] at hmirrors
      · exact ⟨hobjects, hapart, h.armed.trans (congrArg FdoDx.scanWatch hfdo).symm, .giveUp _,
          h.source, nofun, nofun⟩
    · exact h.giveUp
  · exact h.giveUp

theorem following_next (h : Following s) (he : scanSystem.enabled s l) (hp : TidyStore s l) :
    Following (scanSystem.next s l) := by
  cases l with
  | pnp l =>
      obtain ⟨henabled, hscan, -⟩ := he
      have hshrinks := shrinks_next h.objects.nodup hscan
      refine ⟨objects_next h.objects henabled, h.apart.sublist hshrinks.taken, rfl, ?_, h.source,
        h.holds, fun r hr => ?_⟩
      · refine h.current.rearm fun harmed => ?_
        rw [h.armed]
        exact scanWatch_next hscan harmed
      · obtain ⟨r', hr', rfl⟩ := Option.map_eq_some_iff.mp hr
        obtain ⟨keys, hseen, hmirrors⟩ := h.round r' hr'
        exact ⟨keys, hseen, hmirrors.shrinks hshrinks⟩
  | change store =>
      refine ⟨h.objects, h.apart, h.armed, .change _ _, fun keys hkeys => ?_, h.holds, h.round⟩
      obtain rfl : store = some keys := hkeys
      exact hp
  | threadWake =>
      exact ⟨h.objects, h.apart, h.armed, .signal _, h.source, h.holds, h.round⟩
  | keWaitForSingleObject =>
      exact ⟨h.objects, h.apart, h.armed, .wake _, h.source, nofun, h.round⟩
  | directory granted =>
      show Following (s.directory granted)
      unfold ScanSys.directory
      split
      · rename_i hreads
        refine ⟨h.objects, h.apart, h.armed, .read _, h.source, fun store hholds => ?_, h.round⟩
        obtain ⟨keys, hkeys⟩ := Option.isSome_iff_exists.mp hreads.2.2
        exact ⟨keys, (Reader.holds.inj hholds).symm.trans hkeys, h.source keys hkeys⟩
      · exact h.giveUp
  | fdoEnumerate a => exact h.fdoEnumerate a

end Steps

theorem reach_following {store : Option (List (List Char))} {s : ScanSys}
    (hstore : ∀ keys, store = some keys → Tidy keys)
    (h : Reach scanSystem TidyStore (.init store) s) : Following s :=
  h.invariant (following_init hstore) fun _ _ => following_next

/-! ## 6. The thread alone -/

section Progress

variable {s : ScanSys} {keys : List (List Char)}

/-- The registry and the memory are there for a round. -/
def ScanAnswers.all (unsupportedDevices : List (List Char)) : ScanAnswers where
  allocated := true
  unsupportedDevices := unsupportedDevices
  enumerate := none
  granted _ := true

theorem Tidy.devices (h : Tidy keys) (unsupportedDevices : List (List Char)) :
    ∃ devices, (ScanAnswers.all unsupportedDevices).devices keys = some devices := by
  unfold ScanAnswers.devices
  by_cases hne : keys = []
  · subst hne
    exact ⟨_, rfl⟩
  · rw [show (ScanAnswers.all unsupportedDevices).allocated = true from rfl,
      fdoMultiSzToUpcaseAnsi_multiSz hne fun k hk => ⟨(h.key k hk).1, (h.key k hk).2.1⟩]
    exact ⟨_, rfl⟩

end Progress

/-- Two devices, one of which is not supported. -/
def twoKeys : List (List Char) := [['a'], ['b']]

theorem tidy_twoKeys : Tidy twoKeys := ⟨by decide, by decide⟩

/-- The FDO starts, and the thread has its first round. -/
def firstRound : List ScanLabel :=
  [.pnp (.fdo (.startDevice true true .success)), .keWaitForSingleObject, .directory true,
    .fdoEnumerate (.all [['B']])]

/-- The state behind it. -/
def behindFirstRound : ScanSys := runs scanSystem (.init (some twoKeys)) firstRound

end Xencons
