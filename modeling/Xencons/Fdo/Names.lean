import Xencons.Fdo.Objects
import Mathlib.Tactic.SplitIfs

/-!
# The names of the PDOs that are reported (fdo.c, pdo.c)

The name of a PDO is its instance ID. A scan creates a PDO for every key that no PDO of the list
accounts for, and compares names with keys to find out which: but two keys may be one when they are
upcased, the default PDO accounts for no key, and a name is cut off where its key goes on.

* `names` -- the names that the next `FdoQueryDeviceRelations` reports: `relations_names`;
* `Fades` -- PDOs go, or go missing: everything but a scan does no more than that;
* `enumerate_walk` -- which keys a scan is left with, and which PDOs stay;
* `FreshNames` -- the names of those keys are new: `names_scan`, `freshNames_of_nodup`;
* `reported_names_differ` -- the result.
-/

namespace Xencons

open Lib PnpSys

/-! ## 1. The names to be reported -/

/-- The PDOs of the list that are not missing, by name. -/
def names (s : PnpSys) : List String :=
  (s.list.filter fun i => !(s.pdo i).missing).map fun i => (s.pdo i).name

/-- PDOs have gone from the list, or are missing. -/
structure Fades (s s' : PnpSys) : Prop where
  list : s'.list.Sublist s.list
  name : ∀ i, (s'.pdo i).name = (s.pdo i).name
  missing : ∀ i ∈ s'.list, (s'.pdo i).missing = false → (s.pdo i).missing = false

section Fade

variable {s s' s'' : PnpSys} {i : Nat} {op : PdoOp} {p : Pdo}

theorem mem_names {name : String} :
    name ∈ names s ↔ ∃ i ∈ s.list, (s.pdo i).missing = false ∧ (s.pdo i).name = name := by
  simp [names, and_assoc]

theorem Fades.refl (s : PnpSys) : Fades s s := ⟨.refl _, fun _ => rfl, fun _ _ h => h⟩

theorem Fades.trans (h : Fades s s') (h' : Fades s' s'') : Fades s s'' where
  list := h'.list.trans h.list
  name i := (h'.name i).trans (h.name i)
  missing i hi hm := h.missing i (h'.list.subset hi) (h'.missing i hi hm)

/-- **What fades brings no name back.** -/
theorem Fades.names (h : Fades s s') : (names s').Sublist (names s) := by
  have hmissing : s'.list.filter (fun i => !(s'.pdo i).missing) =
      (s'.list.filter fun i => !(s.pdo i).missing).filter fun i => !(s'.pdo i).missing := by
    rw [List.filter_filter]
    refine List.filter_congr fun i hi => ?_
    cases hm : (s'.pdo i).missing with
    | true => rfl
    | false => rw [h.missing i hi hm]; rfl
  unfold Xencons.names
  rw [hmissing, show (fun i => (s'.pdo i).name) = fun i => (s.pdo i).name from funext h.name]
  exact (List.filter_sublist.trans (h.list.filter _)).map _

/-- Nothing renames a PDO, or finds it again. -/
theorem run_name : (op.run p).1.name = p.name := by
  cases op with
  | enumerate | fdoRemoveDevice | queryDeviceRelations | removeDevice =>
      simp only [PdoOp.run, Pdo.setDevicePnpState]
      split_ifs <;> rfl
  | cancelStopDevice | cancelRemoveDevice =>
      simp only [PdoOp.run, Pdo.restoreDevicePnpState]
      split_ifs <;> rfl
  | _ => rfl

theorem run_missing (h : (op.run p).1.missing = false) : p.missing = false := by
  cases op with
  | enumerate | fdoRemoveDevice | queryDeviceRelations | removeDevice =>
      simp only [PdoOp.run, Pdo.setDevicePnpState] at h
      split_ifs at h <;> exact h
  | cancelStopDevice | cancelRemoveDevice =>
      simp only [PdoOp.run, Pdo.restoreDevicePnpState] at h
      split_ifs at h <;> exact h
  | fdoSurpriseRemoval | eject => cases h
  | _ => exact h

theorem Fades.onPdo (hnd : s.list.Nodup) : Fades s (s.onPdo i op) := by
  refine ⟨?_, fun j => ?_, fun j hj hm => ?_⟩
  · unfold PnpSys.onPdo
    split
    · exact List.erase_sublist
    · exact .refl _
  · by_cases hji : j = i
    · subst hji
      unfold PnpSys.onPdo
      split <;> simpa [pdoDestroy] using run_name
    · rw [onPdo_pdo_of_ne hji]
  · by_cases hji : j = i
    · subst hji
      rw [(self_mem_onPdo hnd hj).2] at hm
      exact run_missing hm
    · rwa [onPdo_pdo_of_ne hji] at hm

/-- **Nothing that comes to the PDOs brings a name back.** -/
theorem between_fades : Between Fades where
  trans := Fades.trans
  congr hlist hpdo _ :=
    ⟨hlist ▸ .refl _, fun i => by rw [hpdo], fun i _ h => by rwa [hpdo] at h⟩
  onPdo hnd _ := .onPdo hnd

/-- **What is reported is what is not missing.** -/
theorem relations_names (hnd : s.list.Nodup) :
    (s.walk relationsVisit []).2.map (·.name) = names s := by
  refine (walk_keeps (I := fun done acc => (∀ j, j ∉ done → acc.1.pdo j = s.pdo j) ∧
    (acc.2 : List Pdo).map (·.name) =
      (done.filter fun i => !(s.pdo i).missing).map fun i => (s.pdo i).name) hnd
    ⟨fun _ _ => rfl, rfl⟩ ?_).2
  rintro done i rest acc hl - ⟨hsame, hnames⟩
  refine ⟨fun j hj => ?_, ?_⟩
  · have hj' : j ∉ done ∧ j ≠ i := by simpa using hj
    rw [visit_pdo_of_ne hj'.2]
    exact hsame j hj'.1
  · have hi := hsame i (not_mem_done hnd hl)
    unfold visit relationsVisit
    rw [hi, List.filter_append, List.map_append, ← hnames]
    by_cases hm : (s.pdo i).missing = true
    · simp [hm]
    · simp [hm, run_name]

end Fade

/-! ## 2. A scan -/

/-- The name of a PDO that is created for a key. -/
def setName (key : List Char) : String := pdoSetName (some (.ofName key))

/-- The keys that PDOs of the list account for. -/
def taken (s : PnpSys) (l : List Nat) : List (List Char) :=
  (l.filter fun i => !((s.pdo i).isDefault || (s.pdo i).devicePnpState = .deleted)).map
    fun i => (s.pdo i).name.toList

/-- A scan that finds these keys leaves the PDO behind `done` in the list, and not missing. -/
def Stays (s : PnpSys) (keys : List (List Char)) (done : List Nat) (i : Nat) : Prop :=
  (s.pdo i).missing = false ∧ ((s.pdo i).isDefault = true ∨ (s.pdo i).ejectRequested = true ∨
    (s.pdo i).name.toList ∈ keys.diff (taken s done))

section Scan

variable {s : PnpSys} {i : Nat}

theorem taken_append (s : PnpSys) (done : List Nat) (i : Nat) :
    taken s (done ++ [i]) = taken s done ++
      if (s.pdo i).isDefault || (s.pdo i).devicePnpState = .deleted then []
      else [(s.pdo i).name.toList] := by
  unfold taken
  rw [List.filter_append, List.map_append]
  congr 1
  by_cases h : ((s.pdo i).isDefault || decide ((s.pdo i).devicePnpState = .deleted)) = true
  · rw [if_pos h, List.filter_cons_of_neg (by simp [h])]
    rfl
  · rw [if_neg h, List.filter_cons_of_pos (by simp [h])]
    rfl

/-- What has been visited, when `done` has. -/
structure Walked (s : PnpSys) (devices : List AnsiString) (done : List Nat)
    (acc : PnpSys × List AnsiString) : Prop where
  objects : Objects acc.1
  fades : Fades s acc.1
  lengths : LengthsOk acc.2
  keys : liveKeys acc.2 = (liveKeys devices).diff (taken s done)
  same : ∀ j, j ∉ done → acc.1.pdo j = s.pdo j
  stays : ∀ done₁ j rest₁, s.list = done₁ ++ j :: rest₁ → j ∈ done →
    (Stays s (liveKeys devices) done₁ j ↔ j ∈ acc.1.list ∧ (acc.1.pdo j).missing = false)

/-- What a scan leaves alone, ... -/
theorem run_enumerate_of {p : Pdo} {listed : Bool} (h : p.isDefault = true ∨
    p.devicePnpState = .deleted ∨ p.missing = true ∨ p.ejectRequested = true ∨ listed = true) :
    PdoOp.run p (.enumerate listed) = (p, false) := by
  simp only [PdoOp.run]
  refine if_pos ?_
  rcases h with h | h | h | h | h <;> simp [h]

/-- ... and what it does not find. -/
theorem run_enumerate_missing {p : Pdo} {listed : Bool} (hdefault : p.isDefault = false)
    (hdeleted : p.devicePnpState ≠ .deleted) (hmissing : p.missing = false)
    (heject : p.ejectRequested = false) (hlisted : listed = false) :
    (PdoOp.run p (.enumerate listed)).1.missing = true := by
  simp only [PdoOp.run]
  rw [if_neg (by simp [hdefault, hdeleted, hmissing, heject, hlisted])]
  split <;> rfl

/-- What the loop does to the PDO it comes to. -/
theorem enumerate_self {acc : PnpSys × List AnsiString} (ho : Objects acc.1) (hi : i ∈ acc.1.list) :
    (i ∈ (visit enumerateVisit acc i).1.list ∧
        ((visit enumerateVisit acc i).1.pdo i).missing = false) ↔
      (acc.1.pdo i).missing = false ∧ ((acc.1.pdo i).isDefault = true ∨
        (acc.1.pdo i).ejectRequested = true ∨ (acc.1.pdo i).name.toList ∈ liveKeys acc.2) := by
  rw [← consume_found]
  rcases visit_cases enumerateVisit acc i with ⟨hop, e⟩ | ⟨op, hop, e⟩ <;> rw [e] <;>
    unfold enumerateVisit at hop <;> split at hop
  · -- it is not looked for
    rename_i hskip
    rcases (Bool.or_eq_true _ _).mp hskip with hd | hd
    · exact ⟨fun h => ⟨h.2, .inl hd⟩, fun h => ⟨hi, h.1⟩⟩
    · have hm := (ho.ok i hi).missing (of_decide_eq_true hd)
      exact ⟨fun h => absurd (h.2.symm.trans hm) nofun, fun h => absurd (h.1.symm.trans hm) nofun⟩
  · cases hop
  · cases hop
  · rename_i hskip
    simp only [Bool.or_eq_true, decide_eq_true_eq, not_or, Bool.not_eq_true] at hskip
    obtain rfl := Option.some.inj hop
    by_cases hkeep : (acc.1.pdo i).missing = true ∨ (acc.1.pdo i).ejectRequested = true ∨
        (consume (acc.1.pdo i).name.toList acc.2).1 = true
    · have hrun := run_enumerate_of (.inr (.inr hkeep))
      have hlist : (acc.1.onPdo i (.enumerate (consume (acc.1.pdo i).name.toList acc.2).1)).list =
          acc.1.list := by
        unfold onPdo
        rw [hrun]
        rfl
      have hpdo : (acc.1.onPdo i (.enumerate (consume (acc.1.pdo i).name.toList acc.2).1)).pdo i =
          acc.1.pdo i := by
        unfold onPdo
        rw [hrun]
        exact Function.update_self ..
      dsimp only
      rw [hlist, hpdo]
      refine ⟨fun h => ⟨h.2, .inr (hkeep.resolve_left ?_)⟩, fun h => ⟨hi, h.1⟩⟩
      rw [h.2]
      nofun
    · simp only [not_or, Bool.not_eq_true] at hkeep
      have hmissing := run_enumerate_missing hskip.1 hskip.2 hkeep.1 hkeep.2.1 hkeep.2.2
      refine ⟨fun h => ?_, fun h => ?_⟩
      · have hpdo := (self_mem_onPdo ho.nodup h.1).2
        rw [hpdo, hmissing] at h
        exact absurd h.2 nofun
      · simp [hskip.1, hkeep.2.1, hkeep.2.2] at h

theorem liveKeys_visit (acc : PnpSys × List AnsiString) (i : Nat) :
    liveKeys (visit enumerateVisit acc i).2 = (liveKeys acc.2).diff
      (if (acc.1.pdo i).isDefault || (acc.1.pdo i).devicePnpState = .deleted then []
        else [(acc.1.pdo i).name.toList]) := by
  unfold visit enumerateVisit
  by_cases h : ((acc.1.pdo i).isDefault || decide ((acc.1.pdo i).devicePnpState = .deleted)) = true
  · rw [if_pos h, if_pos h, List.diff_nil]
  · rw [if_neg h, if_neg h, List.diff_cons, List.diff_nil]
    exact liveKeys_consume _ _

theorem lengthsOk_visit {acc : PnpSys × List AnsiString} (h : LengthsOk acc.2) (i : Nat) :
    LengthsOk (visit enumerateVisit acc i).2 := by
  unfold visit enumerateVisit
  by_cases hskip : ((acc.1.pdo i).isDefault ||
      decide ((acc.1.pdo i).devicePnpState = .deleted)) = true
  · rw [if_pos hskip]
    exact h
  · rw [if_neg hskip]
    exact h.consume _

/-- **A visit.** -/
theorem walked_next {devices : List AnsiString} {done rest : List Nat}
    {acc : PnpSys × List AnsiString} (hnd : s.list.Nodup) (hl : s.list = done ++ i :: rest)
    (hi : i ∈ acc.1.list) (h : Walked s devices done acc) :
    Walked s devices (done ++ [i]) (visit enumerateVisit acc i) := by
  have hdone : i ∉ done := not_mem_done hnd hl
  have hpdo : acc.1.pdo i = s.pdo i := h.same i hdone
  have hfades : Fades acc.1 (visit enumerateVisit acc i).1 :=
    between_fades.visit noIrp_enumerateVisit h.objects.nodup
  refine ⟨h.objects.visit noIrp_enumerateVisit hi, h.fades.trans hfades, ?_, ?_, fun j hj => ?_,
    fun done₁ j rest₁ hl₁ hj => ?_⟩
  · exact lengthsOk_visit h.lengths i
  · rw [liveKeys_visit, h.keys, hpdo, taken_append, List.diff_append]
  · have hj' : j ∉ done ∧ j ≠ i := by simpa using hj
    rw [visit_pdo_of_ne hj'.2]
    exact h.same j hj'.1
  · by_cases hji : j = i
    · subst hji
      obtain rfl := done_eq hnd hl₁ hl
      rw [enumerate_self h.objects hi, hpdo, h.keys]
      exact Iff.rfl
    · have hj' : j ∈ done := by simpa [hji] using hj
      rw [h.stays done₁ j rest₁ hl₁ hj', visit_pdo_of_ne hji]
      exact and_congr_left fun _ => ⟨fun hmem => mem_visit hmem hji, fun hmem =>
        hfades.list.subset hmem⟩

/-- **The keys a scan is left with, and the PDOs that stay.** -/
theorem enumerate_walk (h : Objects s) {devices : List AnsiString} (hd : LengthsOk devices) :
    Walked s devices s.list (s.walk enumerateVisit devices) :=
  walk_keeps (I := Walked s devices) h.nodup
    ⟨h, .refl s, hd, by simp [taken], fun _ _ => rfl, fun _ _ _ _ hj => absurd hj List.not_mem_nil⟩
    fun _ _ _ _ hl hi hw => walked_next h.nodup hl hi hw

/-- A new PDO is reported last. -/
theorem names_create (h : Objects s) (d : AnsiString) :
    names (s.pdoCreate d) = names s ++ [pdoSetName (some d)] := by
  have hne : ∀ j ∈ s.list, j ≠ s.created := fun j hj => Nat.ne_of_lt (h.created j hj)
  have hold : ∀ j ∈ s.list, (s.pdoCreate d).pdo j = s.pdo j := fun j hj => by
    simp [pdoCreate, hne j hj]
  have hnew : (s.pdoCreate d).pdo s.created = .new (some (pdoSetName (some d))) := by
    simp [pdoCreate]
  have hlist : (s.pdoCreate d).list = s.list ++ [s.created] := rfl
  unfold names
  rw [hlist, List.filter_append, List.map_append]
  congr 1
  · rw [List.filter_congr fun j hj => by rw [hold j hj]]
    exact List.map_congr_left fun j hj => by rw [hold j (List.mem_of_mem_filter hj)]
  · simp [hnew, Pdo.new]

/-- The names of the PDOs that the second loop creates. -/
def createdNames (granted : Nat → Bool) (devices : List (AnsiString × Nat)) : List String :=
  (devices.filter fun d => decide (d.1.length ≠ 0 ∧ granted d.2 = true)).map
    fun d => pdoSetName (some d.1)

theorem createdNames_cons (granted : Nat → Bool) (d : AnsiString × Nat)
    (devices : List (AnsiString × Nat)) : createdNames granted (d :: devices) =
      if d.1.length ≠ 0 ∧ granted d.2 = true then
        pdoSetName (some d.1) :: createdNames granted devices
      else createdNames granted devices := by
  unfold createdNames
  split
  · rename_i h
    rw [List.filter_cons_of_pos (by simpa using h), List.map_cons]
  · rename_i h
    rw [List.filter_cons_of_neg (by simpa using h)]

theorem names_createAll (h : Objects s) (granted : Nat → Bool) (devices : List (AnsiString × Nat)) :
    names (devices.foldl (createVisit granted) s) = names s ++ createdNames granted devices := by
  induction devices generalizing s with
  | nil => exact (List.append_nil _).symm
  | cons d devices ih =>
      rw [List.foldl_cons, createdNames_cons]
      by_cases hd : d.1.length ≠ 0 ∧ granted d.2 = true
      · have hvisit : createVisit granted s d = s.pdoCreate d.1 := if_pos hd
        rw [if_pos hd, hvisit, ih (h.create d.1), names_create h, List.append_assoc]
        rfl
      · have hvisit : createVisit granted s d = s := if_neg hd
        rw [if_neg hd, hvisit, ih h]

/-- They are the names of the keys that are left, less the `PdoCreate`s that fail. -/
theorem createdNames_sublist (granted : Nat → Bool) {devices : List (AnsiString × Nat)}
    (h : LengthsOk (devices.map Prod.fst)) :
    (createdNames granted devices).Sublist ((liveKeys (devices.map Prod.fst)).map setName) ∧
      ((∀ n, granted n = true) →
        createdNames granted devices = (liveKeys (devices.map Prod.fst)).map setName) := by
  induction devices with
  | nil => exact ⟨.refl _, fun _ => rfl⟩
  | cons d devices ih =>
      obtain ⟨hsub, heq⟩ := ih fun d' hd' => h d' (List.mem_cons_of_mem _ hd')
      rw [List.map_cons, liveKeys_cons, createdNames_cons]
      by_cases h0 : d.1.length = 0
      · rw [if_pos h0, if_neg (by simp [h0])]
        exact ⟨hsub, heq⟩
      · have hname : pdoSetName (some d.1) = setName d.1.buffer :=
          congrArg (fun d => pdoSetName (some d)) (h d.1 List.mem_cons_self h0)
        rw [if_neg h0, List.map_cons]
        by_cases hg : granted d.2 = true
        · rw [if_pos ⟨h0, hg⟩, hname]
          exact ⟨hsub.cons_cons _, fun hall => by rw [heq hall]⟩
        · rw [if_neg fun hc => hg hc.2]
          exact ⟨hsub.cons _, fun hall => absurd (hall d.2) hg⟩

/-- **What a scan creates has a name of its own**: no two keys that are left make the same name, and
    whoever has that name goes missing in this scan, being neither the default PDO, nor wanted for
    an eject, nor accounted for by a key. -/
structure FreshNames (s : PnpSys) (keys : List (List Char)) : Prop where
  distinct : ((keys.diff (taken s s.list)).map setName).Nodup
  fresh : ∀ key ∈ keys.diff (taken s s.list), ∀ done i rest, s.list = done ++ i :: rest →
    (s.pdo i).missing = false → (s.pdo i).name = setName key → (s.pdo i).isDefault = false ∧
      (s.pdo i).ejectRequested = false ∧ (s.pdo i).name.toList ∉ keys.diff (taken s done)

/-- Its condition is that nobody with the name stays. -/
theorem freshNames_iff {keys : List (List Char)} : FreshNames s keys ↔
    ((keys.diff (taken s s.list)).map setName).Nodup ∧
    ∀ key ∈ keys.diff (taken s s.list), ∀ done i rest, s.list = done ++ i :: rest →
      Stays s keys done i → (s.pdo i).name ≠ setName key := by
  constructor
  · rintro ⟨hdistinct, hfresh⟩
    refine ⟨hdistinct, fun key hk done i rest hl ⟨hm, hstays⟩ hn => ?_⟩
    obtain ⟨hdefault, heject, hkey⟩ := hfresh key hk done i rest hl hm hn
    rcases hstays with h | h | h
    · rw [hdefault] at h; cases h
    · rw [heject] at h; cases h
    · exact hkey h
  · rintro ⟨hdistinct, hfresh⟩
    refine ⟨hdistinct, fun key hk done i rest hl hm hn => ?_⟩
    have hstays : ¬Stays s keys done i := fun h => hfresh key hk done i rest hl h hn
    simp only [Stays, hm, true_and, not_or, Bool.not_eq_true] at hstays
    exact hstays

/-- **A scan keeps the names apart if they are new, and, where every `PdoCreate` succeeds, only
    then.** -/
theorem nodup_enumerate (h : Objects s) (hn : (names s).Nodup) {devices : List AnsiString}
    (hd : LengthsOk devices) (granted : Nat → Bool) :
    (FreshNames s (liveKeys devices) → (names (s.fdoEnumerate devices granted)).Nodup) ∧
    ((∀ n, granted n = true) → (names (s.fdoEnumerate devices granted)).Nodup →
      FreshNames s (liveKeys devices)) := by
  have hw := enumerate_walk h hd
  have hlengths : LengthsOk ((s.walk enumerateVisit devices).2.zipIdx.map Prod.fst) := by
    rw [List.zipIdx_map_fst]
    exact hw.lengths
  obtain ⟨hsub, heq⟩ := createdNames_sublist granted hlengths
  rw [List.zipIdx_map_fst, hw.keys] at hsub heq
  have hnames : names (s.fdoEnumerate devices granted) = names (s.walk enumerateVisit devices).1 ++
      createdNames granted (s.walk enumerateVisit devices).2.zipIdx :=
    names_createAll hw.objects granted _
  -- a name that stays is the name of a PDO that does
  have hstays : ∀ name, name ∈ names (s.walk enumerateVisit devices).1 ↔ ∃ done i rest,
      s.list = done ++ i :: rest ∧ Stays s (liveKeys devices) done i ∧ (s.pdo i).name = name := by
    intro name
    rw [mem_names]
    constructor
    · rintro ⟨i, hi, hm, hname⟩
      obtain ⟨done, rest, hl⟩ := List.append_of_mem (hw.fades.list.subset hi)
      have hmem : i ∈ s.list := hw.fades.list.subset hi
      exact ⟨done, i, rest, hl, (hw.stays done i rest hl hmem).mpr ⟨hi, hm⟩,
        (hw.fades.name i).symm.trans hname⟩
    · rintro ⟨done, i, rest, hl, hs, hname⟩
      obtain ⟨hi, hm⟩ := (hw.stays done i rest hl (by rw [hl]; simp)).mp hs
      exact ⟨i, hi, hm, (hw.fades.name i).trans hname⟩
  rw [freshNames_iff]
  constructor
  · rintro ⟨hdistinct, hfresh⟩
    rw [hnames]
    refine List.nodup_append.mpr ⟨hn.sublist hw.fades.names, hdistinct.sublist hsub, ?_⟩
    intro name hold name' hnew
    obtain ⟨done, i, rest, hl, hs, rfl⟩ := (hstays name).mp hold
    obtain ⟨key, hk, rfl⟩ := List.mem_map.mp (hsub.subset hnew)
    exact hfresh key hk done i rest hl hs
  · intro hall hnd
    rw [hnames, heq hall] at hnd
    obtain ⟨-, hdistinct, hdisjoint⟩ := List.nodup_append.mp hnd
    refine ⟨hdistinct, fun key hk done i rest hl hs => ?_⟩
    exact hdisjoint _ ((hstays _).mpr ⟨done, i, rest, hl, hs, rfl⟩) _ (List.mem_map_of_mem hk)

end Scan

/-! ## 3. Runs -/

/-- Every scan that gets as far as its device list finds new names. -/
def FreshScans (s : PnpSys) : PnpLabel → Prop
  | .scan c => s.fdo.devicePnpState = .started → c.enumerate = true →
      ∀ devices, c.devices = some devices → FreshNames s (liveKeys devices)
  | _ => True

section Steps

variable {s : PnpSys}

theorem ScanInput.lengthsOk {c : ScanInput} {devices : List AnsiString}
    (h : c.devices = some devices) : LengthsOk devices := by
  obtain ⟨ansi, hansi, rfl⟩ := Option.map_eq_some_iff.mp h
  obtain ⟨keys, -, hkeys⟩ := Option.bind_eq_some_iff.mp hansi
  refine LengthsOk.dropUnsupported ?_ _
  unfold fdoMultiSzToUpcaseAnsi at hkeys
  split at hkeys
  · split at hkeys
    · obtain rfl := Option.some.inj hkeys
      exact .ansiLoop _ _
    · cases hkeys
  · cases hkeys

theorem nodup_scan (h : Objects s) (hn : (names s).Nodup) {c : ScanInput}
    (hf : FreshScans s (.scan c)) : (names (s.fdoScan c)).Nodup := by
  unfold fdoScan
  split
  · rename_i hstarted
    split
    · rename_i devices hd
      split
      · rename_i henum
        exact (nodup_enumerate h hn (ScanInput.lengthsOk hd) _).1 (hf hstarted henum devices hd)
      · exact hn
    · exact hn
  · exact hn

/-- **A scan that does not find new names**, and has them all, makes a name twice. -/
theorem not_nodup_scan (h : Objects s) (hn : (names s).Nodup) {c : ScanInput}
    (hf : ¬FreshScans s (.scan c)) (hall : ∀ n, c.granted n = true) :
    s.fdo.devicePnpState = .started ∧ ¬(names (s.fdoScan c)).Nodup := by
  simp only [FreshScans, not_forall] at hf
  obtain ⟨hstarted, henum, devices, hd, hf⟩ := hf
  refine ⟨hstarted, fun hnd => hf ?_⟩
  have e : s.fdoScan c = s.fdoEnumerate devices c.granted := by
    unfold fdoScan
    rw [if_pos hstarted, hd]
    exact if_pos henum
  rw [e] at hnd
  exact (nodup_enumerate h hn (ScanInput.lengthsOk hd) _).2 hall hnd

/-- An answer that is forwarded or not. -/
theorem reports_fdoQueryDeviceRelations (forwarded : Bool) :
    (s.fdoQueryDeviceRelations true forwarded).reports =
      s.reports ++ [(s.walk relationsVisit []).2] := by
  have hwalk : (s.walk relationsVisit []).1.reports = s.reports := sameFdo_walk.reports
  cases forwarded with
  | true => exact sameFdo_walk.reports.trans (congrArg (· ++ _) hwalk)
  | false => exact congrArg (· ++ _) hwalk

/-- **Every answer is as the names are when it is given.** -/
theorem reports_next (hnd : s.list.Nodup) (l : PnpLabel) {r : List Pdo}
    (hr : r ∈ (pnpNext s l).reports) : r ∈ s.reports ∨ r.map (·.name) = names s := by
  cases l with
  | scan c =>
      rw [show (pnpNext s (.scan c)).reports = _ from (fdoScan_frame c).2] at hr
      exact .inl hr
  | requestEject i =>
      rw [show (pnpNext s (.requestEject i)).reports = _ from (sameFdo_onPdo s i _).reports] at hr
      exact .inl hr
  | pdo i op =>
      have e : (pnpNext s (.pdo i op)).reports = s.reports := by
        simp only [pnpNext, pdoDispatchPnp]
        split
        · rfl
        · split
          · exact testReferences_frame.2.trans (sameFdo_onPdo s i op).reports
          · exact (sameFdo_onPdo s i op).reports
      rw [e] at hr
      exact .inl hr
  | fdo irp =>
      simp only [pnpNext, fdoDispatchPnp] at hr
      split at hr
      · exact .inl hr
      · cases irp with
        | surpriseRemoval =>
            rw [show s.fdoSurpriseRemoval.reports = _ from sameFdo_walk.reports] at hr
            exact .inl hr
        | removeDevice =>
            refine .inl ?_
            rw [show s.fdoRemoveDevice.reports = _ from testReferences_frame.2] at hr
            dsimp only at hr
            split at hr
            · rwa [show ∀ f : FdoDx, ({ (s.walk (always .fdoRemoveDevice) ()).1 with
                fdo := f } : PnpSys).reports = s.reports from fun _ => sameFdo_walk.reports] at hr
            · exact hr
        | queryDeviceRelations allocated forwarded =>
            cases allocated with
            | false => exact .inl hr
            | true =>
                dsimp only at hr
                rw [reports_fdoQueryDeviceRelations] at hr
                refine (List.mem_append.mp hr).imp_right fun h => ?_
                rw [List.mem_singleton.mp h]
                exact relations_names hnd
        | _ => exact .inl hr

theorem nodup_next {l : PnpLabel} (h : Objects s) (hn : (names s).Nodup) (hf : FreshScans s l) :
    (names (pnpNext s l)).Nodup := by
  cases l with
  | scan c => exact nodup_scan h hn hf
  | fdo irp => exact hn.sublist (between_fades.fdoDispatchPnp h.nodup irp).names
  | pdo i op => exact hn.sublist (between_fades.pdoDispatchPnp h.nodup).names
  | requestEject i => exact hn.sublist (Fades.onPdo h.nodup).names

end Steps

/-- The names are apart, and always have been. -/
structure NamesApart (s : PnpSys) : Prop where
  objects : Objects s
  nodup : (names s).Nodup
  reports : ∀ r ∈ s.reports, (r.map (·.name)).Nodup

theorem reach_namesApart {s : PnpSys} (h : Reach pnpSystem FreshScans .init s) : NamesApart s := by
  refine h.invariant ⟨objects_init, List.nodup_singleton _, nofun⟩ fun s l h he hf => ?_
  refine ⟨objects_next h.objects he, nodup_next h.objects h.nodup hf, fun r hr => ?_⟩
  rcases reports_next h.objects.nodup l hr with hr | hr
  · exact h.reports r hr
  · rw [hr]
    exact h.nodup

/-- **As long as every scan finds new names, no two PDOs are reported together under one name.** And
    a scan that does not, and whose `PdoCreate`s all succeed, leaves PDOs that the next answer
    reports under one name. -/
theorem reported_names_differ {s : PnpSys} (h : Reach pnpSystem FreshScans .init s) :
    (∀ r ∈ s.reports, (r.map (·.name)).Nodup) ∧
    ∀ c : ScanInput, pnpEnabled s (.scan c) → ¬FreshScans s (.scan c) → (∀ n, c.granted n = true) →
      pnpEnabled (pnpNext s (.scan c)) (.fdo (.queryDeviceRelations true true)) ∧
      ∃ r ∈ (pnpNext (pnpNext s (.scan c)) (.fdo (.queryDeviceRelations true true))).reports,
        ¬(r.map (·.name)).Nodup := by
  obtain ⟨ho, hn, hr⟩ := reach_namesApart h
  refine ⟨hr, fun c he hf hall => ?_⟩
  obtain ⟨hstarted, hnd⟩ := not_nodup_scan ho hn hf hall
  have hfdo : (s.fdoScan c).fdo = s.fdo := (fdoScan_frame c).1
  refine ⟨fun _ _ => (congrArg FdoDx.scanThread hfdo).trans he,
    ((s.fdoScan c).walk relationsVisit []).2, ?_, ?_⟩
  · have e : pnpNext (s.fdoScan c) (.fdo (.queryDeviceRelations true true)) =
        (s.fdoScan c).fdoQueryDeviceRelations true true := by
      simp only [pnpNext, fdoDispatchPnp]
      exact if_neg (by rw [hfdo, hstarted]; nofun)
    rw [show pnpNext s (.scan c) = s.fdoScan c from rfl, e, reports_fdoQueryDeviceRelations]
    simp
  · rw [relations_names (ho.scan c).nodup]
    exact hnd

/-- The first scan behind a start finds these keys, and what it makes of them is reported. -/
def scanned (keys : List String) : List PnpLabel :=
  [.fdo (.startDevice true true .success), .scan (scanFinds keys),
    .fdo (.queryDeviceRelations true true)]

theorem freshScans_oneConsole :
    FreshScans (pnpNext .init (.fdo (.startDevice true true .success)))
      (.scan (scanFinds ["1"])) := by
  intro _ _ devices hd
  obtain rfl : [AnsiString.ofName ['1']] = devices := Option.some.inj (Eq.trans (by decide) hd)
  have hleft : (liveKeys [AnsiString.ofName ['1']]).diff
      (taken (pnpNext .init (.fdo (.startDevice true true .success))) [0]) = [['1']] := by decide
  refine ⟨?_, fun key hk done i rest hl _ hn => ?_⟩
  · rw [show PnpSys.list _ = [0] from rfl, hleft]
    exact List.nodup_singleton _
  · rw [show PnpSys.list _ = [0] from rfl, hleft] at hk
    obtain rfl := List.mem_singleton.mp hk
    have hname : (Pdo.new none).name = setName ['1'] := hn
    exact absurd hname (by decide)

theorem reach_oneConsole :
    Reach pnpSystem FreshScans .init (runs pnpSystem .init (scanned ["1"])) :=
  .of_admits (scanned ["1"]) .start
    ⟨nofun, trivial, rfl, freshScans_oneConsole, fun _ _ => rfl, trivial, trivial⟩

theorem reported_names_differ_oneConsole :
    (runs pnpSystem .init (scanned ["1"])).reports.map (·.map (·.name)) = [["0", "1"]] ∧
      ∀ r ∈ (runs pnpSystem .init (scanned ["1"])).reports, (r.map (·.name)).Nodup :=
  ⟨by decide, (reported_names_differ reach_oneConsole).1⟩

theorem reach_scanned (keys : List String) :
    Reach pnpSystem (fun _ _ => True) .init (runs pnpSystem .init (scanned keys)) := by
  refine .of_admits (scanned keys) .start
    ⟨nofun, trivial, rfl, trivial, fun _ _ => ?_, trivial, trivial⟩
  exact congrArg FdoDx.scanThread (fdoScan_frame (scanFinds keys)).1

/-- Two keys that differ in letter case make two PDOs of one name; and a key "0" makes one of the
    name that the default PDO has. -/
theorem reported_names_same :
    (∃ s, Reach pnpSystem (fun _ _ => True) .init s ∧
      s.reports.map (·.map (·.name)) = [["0", "A", "A"]]) ∧
    ∃ s, Reach pnpSystem (fun _ _ => True) .init s ∧
      s.reports.map (·.map (·.name)) = [["0", "0"]] :=
  ⟨⟨_, reach_scanned ["a", "A"], by decide⟩, _, reach_scanned ["0"], by decide⟩

end Xencons
