import Xencons.Driver.QueryId
import Xencons.Fdo.Follow

/-!
# The PnP manager tells the PDOs apart (fdo.c, pdo.c)

A key of the store becomes the name of a PDO, the name becomes the instance ID, and the PnP manager,
which looks at no letter case, must not find one ID twice in one answer of the FDO's. What may come
between: a round that upcases the keys, cuts them off at `MAX_DEVICE_ID_LEN` and compares them with
the names there are; the default PDO, which is named without a key; and the blocks that the IDs are
printed into.

* `Nameable` -- keys that make IDs;
* `Called` -- a name that such a key makes: `called_key`;
* `Identified` -- the names of the PDOs: `Identified.names_nodup`;
* **`reports_identify`** -- the result.
-/

namespace Xencons

open Lib PnpSys QueryId
open Dispatch (BusQueryIdType)

/-! ## 1. Names -/

/-- Keys that a round takes as they are, in ASCII, and none that is named as the default PDO is. -/
structure Nameable (keys : List (List Char)) : Prop where
  tidy : Tidy keys
  ascii : ∀ k ∈ keys, ∀ c ∈ k, c.toNat < 128
  other : ∀ k ∈ keys, k ≠ "0".toList

/-- **A name that makes an ID**: in upper case it is the same. -/
structure Called (name : List Char) : Prop where
  fits : Fits name
  upper : name.map toupper = name

theorem toupper_ascii {c : Char} (h : c.toNat < 128) :
    (toupper c).toNat < 128 ∧ (toupper c = NUL ↔ c = NUL) ∧ toupper (toupper c) = toupper c ∧
      (toupper c = '0' → c = '0') := by
  have hall : ∀ n < 128, (toupper (Char.ofNat n)).toNat < 128 ∧
      (toupper (Char.ofNat n) = NUL ↔ Char.ofNat n = NUL) ∧
      toupper (toupper (Char.ofNat n)) = toupper (Char.ofNat n) ∧
      (toupper (Char.ofNat n) = '0' → Char.ofNat n = '0') := by
    decide
  have hc := hall c.toNat h
  rwa [Char.ofNat_toNat] at hc

theorem called_default : Called "0".toList where
  fits := ⟨.of_all (by decide), by decide, by decide⟩
  upper := by decide

section Keys

variable {keys : List (List Char)} {name : List Char}

/-- **The name that a key makes.** -/
theorem called_key (h : Nameable keys) {k : List Char} (hk : k ∈ keys) :
    Called (k.map toupper) ∧ k.map toupper ≠ "0".toList := by
  obtain ⟨hne, hclean, hlength⟩ := h.tidy.key k hk
  have hascii {c : Char} (hc : c ∈ k) := toupper_ascii (h.ascii k hk c hc)
  refine ⟨⟨⟨⟨fun hnul => ?_, fun c hc => ?_⟩, ?_, ?_⟩, ?_⟩, fun hzero => ?_⟩
  · obtain ⟨c, hc, hnul⟩ := List.mem_map.mp hnul
    exact hclean ((hascii hc).2.1.mp hnul ▸ hc)
  · obtain ⟨c', hc', rfl⟩ := List.mem_map.mp hc
    exact (hascii hc').1
  · exact fun hnil => hne (List.map_eq_nil_iff.mp hnil)
  · rwa [List.length_map]
  · rw [List.map_map]
    exact List.map_congr_left fun c hc => (hascii hc).2.2.1
  · -- no other character is a zero in upper case
    obtain ⟨c, rest, rfl, hc, hrest⟩ := List.map_eq_cons_iff.mp hzero
    obtain rfl := List.map_eq_nil_iff.mp hrest
    exact h.other _ hk (congrArg (fun c => [c]) ((hascii List.mem_cons_self).2.2.2 hc))

theorem called_listed (h : Nameable keys) {unsupported : List (List Char)}
    (hname : name ∈ listed unsupported keys) : Called name ∧ name ≠ "0".toList := by
  obtain ⟨k, hk, rfl⟩ := List.mem_map.mp (List.mem_of_mem_filter hname)
  exact called_key h hk

end Keys

/-! ## 2. The names of the PDOs -/

/-- The default PDO is the first, and has a name that no other has. -/
structure Identified (s : PnpSys) : Prop where
  called : ∀ i ∈ s.list, Called (s.pdo i).name.toList
  default : ∀ i ∈ s.list, (s.pdo i).isDefault = true → i = 0 ∧ (s.pdo i).name.toList = "0".toList
  other : ∀ i ∈ s.list, (s.pdo i).isDefault = false → (s.pdo i).name.toList ≠ "0".toList

/-- What the PnP manager has been told. -/
structure Reported (r : List Pdo) : Prop where
  nodup : (r.map (·.name)).Nodup
  called : ∀ p ∈ r, Called p.name.toList

section Bus

variable {s s' : PnpSys} {devices : List AnsiString} {keys : List (List Char)}

theorem identified_init : Identified .init where
  called _ _ := called_default
  default i hi _ := ⟨List.mem_singleton.mp hi, rfl⟩
  other _ _ h := by cases h

/-- **No two PDOs that are to be reported have one name.** -/
theorem Identified.names_nodup (h : Identified s) (ho : Objects s)
    (hapart : (taken s s.list).Nodup) : (names s).Nodup := by
  refine (ho.nodup.filter _).map_on fun i hi j hj hname => ?_
  obtain ⟨hi, hmissing⟩ := List.mem_filter.mp hi
  obtain ⟨hj, hmissing'⟩ := List.mem_filter.mp hj
  have hthere {i : Nat} (hi : i ∈ s.list) (hmissing : (!(s.pdo i).missing) = true)
      (hdefault : (s.pdo i).isDefault = false) :
      i ∈ s.list.filter fun i => !((s.pdo i).isDefault || (s.pdo i).devicePnpState = .deleted) := by
    have hdeleted : (s.pdo i).devicePnpState ≠ .deleted := by
      intro hd
      rw [(ho.ok i hi).missing hd] at hmissing
      cases hmissing
    exact List.mem_filter.mpr ⟨hi, by simp [hdefault, hdeleted]⟩
  cases hdefault : (s.pdo i).isDefault with
  | true =>
      obtain ⟨rfl, hzero⟩ := h.default i hi hdefault
      cases hdefault' : (s.pdo j).isDefault with
      | true => exact (h.default j hj hdefault').1.symm
      | false => exact absurd (hname ▸ hzero) (h.other j hj hdefault')
  | false =>
      cases hdefault' : (s.pdo j).isDefault with
      | true =>
          exact absurd ((congrArg String.toList hname).trans (h.default j hj hdefault').2)
            (h.other i hi hdefault)
      | false =>
          exact List.inj_on_of_nodup_map hapart (hthere hi hmissing hdefault)
            (hthere hj hmissing' hdefault') (congrArg String.toList hname)

/-- What is reported has been named. -/
theorem Identified.reported (h : Identified s) (ho : Objects s) (hapart : (taken s s.list).Nodup)
    {r : List Pdo} (hr : r.map (·.name) = names s) : Reported r := by
  refine ⟨hr ▸ h.names_nodup ho hapart, fun p hp => ?_⟩
  have hname : p.name ∈ names s := hr ▸ List.mem_map_of_mem hp
  obtain ⟨i, hi, -, heq⟩ := mem_names.mp hname
  exact heq ▸ h.called i hi

/-- Between rounds nothing is named. -/
theorem Identified.shrinks (h : Identified s) (hs : Shrinks s s') : Identified s' where
  called i hi := by
    rw [hs.fades.name i]
    exact h.called i (hs.fades.list.subset hi)
  default i hi hdefault := by
    rw [hs.isDefault i hi] at hdefault
    rw [hs.fades.name i]
    exact h.default i (hs.fades.list.subset hi) hdefault
  other i hi hdefault := by
    rw [hs.isDefault i hi] at hdefault
    rw [hs.fades.name i]
    exact h.other i (hs.fades.list.subset hi) hdefault

/-- **A round** names the PDOs that it makes after the keys. -/
theorem Identified.enumerate (h : Identified s) (hready : RoundReady s devices)
    (hkeys : ∀ key ∈ liveKeys devices, Called key ∧ key ≠ "0".toList) (granted : Nat → Bool)
    (enumerate : Option ULONG) :
    Identified (fdoEnumerateNoted s enumerate devices granted).bus := by
  unfold fdoEnumerateNoted
  split
  · exact h
  · have hvisited := visited_all hready.objects.linked hready.apart hready.keys
    have hextended := enumerateDevices_extended granted (firstLoop s devices).devices.zipIdx
      (firstLoop s devices)
    have hpdos := (enumerateDevices_taken granted (firstLoop s devices).devices.zipIdx
      hready.linked_firstLoop).2
    dsimp only
    -- a PDO was there before, or is new and has one of the keys
    have hpdo {i : Nat} (hi : i ∈ ((firstLoop s devices).devices.zipIdx.foldl
        (enumerateDevice granted) (firstLoop s devices)).bus.list) :
        (i ∈ s.list ∧ (((firstLoop s devices).devices.zipIdx.foldl (enumerateDevice granted)
          (firstLoop s devices)).bus.pdo i).name = (s.pdo i).name ∧
          (((firstLoop s devices).devices.zipIdx.foldl (enumerateDevice granted)
            (firstLoop s devices)).bus.pdo i).isDefault = (s.pdo i).isDefault) ∨
        ∃ name : String, name.toList ∈ liveKeys devices ∧
          ((firstLoop s devices).devices.zipIdx.foldl (enumerateDevice granted)
            (firstLoop s devices)).bus.pdo i = .new (some name) := by
      rcases hpdos i hi with hold | ⟨name, hname, hnew⟩
      · left
        obtain ⟨hmem, -, heq⟩ := hvisited.pdo hold
        rw [hextended.pdo i (hready.linked_firstLoop.created i hold)]
        rcases heq with heq | heq <;> rw [heq] <;> exact ⟨hmem, rfl, rfl⟩
      · right
        have hmem := (hready.created granted).1.subset (List.mem_map_of_mem hname)
        exact ⟨name, List.diff_subset _ _ hmem, hnew⟩
    refine ⟨fun i hi => ?_, fun i hi hdefault => ?_, fun i hi hdefault => ?_⟩
    · rcases hpdo hi with ⟨hmem, hname, -⟩ | ⟨name, hname, hnew⟩
      · rw [hname]
        exact h.called i hmem
      · rw [hnew]
        exact (hkeys _ hname).1
    · rcases hpdo hi with ⟨hmem, hname, hsame⟩ | ⟨name, -, hnew⟩
      · rw [hname]
        exact h.default i hmem (hsame ▸ hdefault)
      · rw [hnew] at hdefault
        cases hdefault
    · rcases hpdo hi with ⟨hmem, hname, hsame⟩ | ⟨name, hname, hnew⟩
      · rw [hname]
        exact h.other i hmem (hsame ▸ hdefault)
      · rw [hnew]
        exact (hkeys _ hname).2

end Bus

/-! ## 3. Runs -/

/-- The toolstack leaves no keys there that would not make IDs. -/
def NameableStore (_ : ScanSys) : ScanLabel → Prop
  | .change (some keys) => Nameable keys
  | _ => True

/-- **The invariant.** -/
structure Told (s : ScanSys) : Prop where
  identified : Identified s.bus
  reports : ∀ r ∈ s.bus.reports, Reported r
  source : ∀ keys, s.scan.source = some keys → Nameable keys
  holds : ∀ keys, s.scan.reader = .holds (some keys) → Nameable keys

section Steps

variable {s : ScanSys} {l : ScanLabel}

theorem tidyStore_of_nameableStore (h : NameableStore s l) : TidyStore s l := by
  cases l with
  | change store =>
      cases store with
      | none => trivial
      | some keys => exact (show Nameable keys from h).tidy
  | _ => trivial

theorem told_init {store : Option (List (List Char))}
    (h : ∀ keys, store = some keys → Nameable keys) : Told (.init store) where
  identified := identified_init
  reports _ hr := absurd hr List.not_mem_nil
  source := h
  holds _ h := by cases h

theorem Told.giveUp (h : Told s) : Told s.giveUp := ⟨h.identified, h.reports, h.source, nofun⟩

/-- The rest of a round. -/
theorem Told.fdoEnumerate (h : Told s) (hf : Following s) (a : ScanAnswers) :
    Told (s.fdoEnumerate a) := by
  unfold ScanSys.fdoEnumerate
  split
  · rename_i keys hreader
    split
    · rename_i devices hd
      have hkeys := h.holds keys hreader
      have hlive := liveKeys_devices hkeys.tidy hd
      have hnames : ∀ key ∈ liveKeys devices, Called key ∧ key ≠ "0".toList := by
        intro key hkey
        rw [hlive] at hkey
        exact called_listed hkeys hkey
      have hbus := h.identified.enumerate (hf.ready hkeys.tidy hd) hnames a.granted a.enumerate
      have hreports : (fdoEnumerateNoted s.bus a.enumerate devices a.granted).bus.reports =
          s.bus.reports := (fdoEnumerateNoted_frame hf.objects.nodup a.enumerate).2
      have hreported := h.reports
      rw [← hreports] at hreported
      unfold ScanSys.enumerated
      dsimp only
      split
      · exact ⟨hbus, hreported, h.source, nofun⟩
      · exact ⟨hbus, hreported, h.source, nofun⟩
    · exact h.giveUp
  · exact h.giveUp

theorem told_next (hf : Following s) (h : Told s) (he : scanSystem.enabled s l)
    (hp : NameableStore s l) : Told (scanSystem.next s l) := by
  cases l with
  | pnp l =>
      obtain ⟨-, hscan, -⟩ := he
      refine ⟨h.identified.shrinks (shrinks_next hf.objects.nodup hscan), fun r hr => ?_, h.source,
        h.holds⟩
      rcases reports_next hf.objects.nodup l hr with hr | hr
      · exact h.reports r hr
      · exact h.identified.reported hf.objects hf.apart hr
  | change store =>
      refine ⟨h.identified, h.reports, fun keys hkeys => ?_, h.holds⟩
      obtain rfl : store = some keys := hkeys
      exact hp
  | threadWake => exact ⟨h.identified, h.reports, h.source, h.holds⟩
  | keWaitForSingleObject => exact ⟨h.identified, h.reports, h.source, nofun⟩
  | directory granted =>
      show Told (s.directory granted)
      unfold ScanSys.directory
      split
      · refine ⟨h.identified, h.reports, h.source, fun keys hholds => h.source keys ?_⟩
        exact Reader.holds.inj hholds
      · exact h.giveUp
  | fdoEnumerate a => exact h.fdoEnumerate hf a

end Steps

/-- The strings that the PnP manager reads when it asks a PDO, which is granted a block. -/
def readFrom (widen : List Char → List Char) (brand : Brand) (vendorName : List Char)
    (type : BusQueryIdType) (p : Pdo) : Option (List (List Char)) := do
  let (_, information) ← pdoQueryId widen brand true p.name.toList vendorName type
  readId (← information) type

/-- **The PnP manager tells the PDOs apart**, for every order of changes of the store, IRPs, ejects
    and steps of the scan thread: of each PDO of an answer it reads the IDs of that PDO, whatever
    kind it asks for, and no two instance IDs of one answer are the same in upper case. -/
theorem reports_identify {store : Option (List (List Char))} {s : ScanSys}
    {widen : List Char → List Char} {brand : Brand} {deviceID : BitVec 16} {vendorName : List Char}
    (hstore : ∀ keys, store = some keys → Nameable keys)
    (h : Reach scanSystem NameableStore (.init store) s) (hw : Widens widen) (hb : brand.Fits)
    (hvendor : fdoSetVendorName brand deviceID = some vendorName) :
    ∀ r ∈ s.bus.reports,
      (∀ type ≠ .unknown, ∀ p ∈ r, readFrom widen brand vendorName type p =
        some (idsOf brand p.name.toList (brand.vendorPrefix ++ hex4 deviceID) type)) ∧
      ∃ ids : List (List Char),
        r.map (readFrom widen brand vendorName .busQueryInstanceID) =
          ids.map (fun id => some [id]) ∧
        (ids.map (·.map toupper)).Nodup := by
  have htold : Told s := by
    refine h.invariant_using (J := Following) (fun s hs => ?_) (told_init hstore) ?_
    · exact reach_following (fun keys hk => (hstore keys hk).tidy)
        (hs.mono fun _ _ => tidyStore_of_nameableStore)
    · exact fun s l hf ht he hp => told_next hf ht he hp
  intro r hr
  have hreported := htold.reports r hr
  have hread : ∀ type ≠ .unknown, ∀ p ∈ r, readFrom widen brand vendorName type p =
      some (idsOf brand p.name.toList (brand.vendorPrefix ++ hex4 deviceID) type) := by
    intro type htype p hp
    obtain ⟨m, left, hquery, -, hids⟩ :=
      pdoQueryId_printed hw hb (hreported.called p hp).fits hvendor htype
    unfold readFrom
    rw [hquery]
    exact hids
  refine ⟨hread, r.map (·.name.toList), ?_, ?_⟩
  · rw [List.map_map]
    exact List.map_congr_left fun p hp => hread .busQueryInstanceID (by simp) p hp
  · have hupper : (r.map (·.name.toList)).map (·.map toupper) =
        (r.map (·.name)).map String.toList := by
      rw [List.map_map, List.map_map]
      exact List.map_congr_left fun p hp => (hreported.called p hp).upper
    rw [hupper]
    exact hreported.nodup.map fun _ _ => String.toList_inj.mp

/-- The answer behind the first round, in which a device has been found. -/
def firstAnswer : ScanSys :=
  scanSystem.next behindFirstRound (.pnp (.fdo (.queryDeviceRelations true true)))

theorem nameable_twoKeys : Nameable twoKeys := ⟨tidy_twoKeys, by simp [twoKeys], by decide⟩

theorem reach_firstAnswer : Reach scanSystem NameableStore (.init (some twoKeys)) firstAnswer := by
  have hround : Reach scanSystem NameableStore (.init (some twoKeys)) behindFirstRound :=
    .of_admits _ .start ⟨⟨nofun, nofun, fun _ => rfl⟩, trivial, ⟨rfl, rfl, rfl⟩, trivial, rfl,
      trivial, ⟨some twoKeys, rfl⟩, trivial, trivial⟩
  exact .step _ hround ⟨fun _ _ => rfl, nofun, nofun⟩ trivial

/-- A build, and the device it is for. -/
def xenBrand : Brand := ⟨"XP".toList, "Xen".toList⟩

theorem xenBrand_fits : xenBrand.Fits :=
  ⟨.of_all (by decide), by decide, .of_all (by decide), by decide⟩

theorem reports_identify_firstAnswer : ∃ vendorName, fdoSetVendorName xenBrand 2 = some vendorName ∧
    ∃ r ∈ firstAnswer.bus.reports, r.map (·.name) = ["0", "A"] ∧
      ∃ ids : List (List Char), r.map (readFrom id xenBrand vendorName .busQueryInstanceID) =
        ids.map (fun id => some [id]) ∧ (ids.map (·.map toupper)).Nodup := by
  obtain ⟨vendorName, hvendor, -⟩ := cString_fdoSetVendorName xenBrand_fits 2
  obtain ⟨r, hr, hnames⟩ : ∃ r ∈ firstAnswer.bus.reports, r.map (·.name) = ["0", "A"] :=
    ⟨_, List.mem_singleton_self _, by decide +kernel⟩
  exact ⟨vendorName, hvendor, r, hr, hnames, (reports_identify
    (fun _ h => Option.some.inj h ▸ nameable_twoKeys) reach_firstAnswer (fun _ _ => rfl)
    xenBrand_fits hvendor r hr).2⟩

end Xencons
