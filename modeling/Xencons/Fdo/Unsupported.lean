import Xencons.Fdo.Directory

/-!
# Devices the registry says not to make (fdo.c)

"NULL out anything in the Devices list that is in the UnsupportedDevices list": `FdoScan` compares
a device with an entry by `strncmp`, and the bound is the `Length` of the device. So an entry need
not be the name of the device, it need only begin with it.

* `FiltersExactly` -- what the comment asks for;
* `Mistaken` -- a name that is not on the list and blanked all the same;
* `unsupported_ofName`, `blanked_iff` -- which devices are blanked;
* **`dropUnsupported_exactly`** -- the filter does what the comment says just where no name is
  mistaken for an entry; `mistaken_iff` says what that is for a name that fits a `USHORT`.
-/

namespace Xencons

/-! ## 1. What the comment asks for -/

/-- What is left of a device by a filter that goes by whole names. -/
def exactly (entries : List (List Char)) (name : List Char) : AnsiString :=
  if name ∈ entries then { AnsiString.ofName name with length := 0 } else .ofName name

/-- **The filter goes by whole names**: exactly the devices on the list are blanked, and whoever
    is not on it is there for `__FdoEnumerate`. -/
structure FiltersExactly (entries names : List (List Char)) : Prop where
  blanks : dropUnsupported entries (names.map .ofName) = names.map (exactly entries)
  leaves : liveKeys (dropUnsupported entries (names.map .ofName)) =
    (liveKeys (names.map .ofName)).filter (· ∉ entries)

/-- A name that is not on the list, of which an entry has all that `Length` covers. -/
def Mistaken (entries : List (List Char)) (name : List Char) : Prop :=
  name.length % 2 ^ 16 ≠ 0 ∧ name ∉ entries ∧
    ∃ entry ∈ entries, name.take (name.length % 2 ^ 16) <+: entry

instance (entries : List (List Char)) (name : List Char) : Decidable (Mistaken entries name) :=
  inferInstanceAs (Decidable (_ ∧ _ ∧ ∃ entry ∈ entries, _))

/-- A name that fits its `Length` is mistaken where it is a proper prefix of an entry. -/
theorem mistaken_iff {entries : List (List Char)} {name : List Char} (hfit : name.length < 2 ^ 16) :
    Mistaken entries name ↔
      name ≠ [] ∧ name ∉ entries ∧ ∃ entry ∈ entries, name <+: entry ∧ name ≠ entry := by
  unfold Mistaken
  rw [Nat.mod_eq_of_lt hfit, List.take_length, ← List.length_pos_iff, Nat.pos_iff_ne_zero]
  refine and_congr_right fun _ => and_congr_right fun hout => ?_
  constructor
  · rintro ⟨entry, he, hp⟩
    exact ⟨entry, he, hp, fun e => hout (e ▸ he)⟩
  · rintro ⟨entry, he, hp, _⟩
    exact ⟨entry, he, hp⟩

/-! ## 2. What is blanked -/

/-- `strncmp` asks whether the entry begins with what `Length` covers. -/
theorem unsupported_ofName (entries : List (List Char)) (name : List Char) :
    (AnsiString.ofName name).unsupported entries = true ↔
      ∃ entry ∈ entries, name.take (name.length % 2 ^ 16) <+: entry := by
  have hlen : (name.take (name.length % 2 ^ 16)).length = name.length % 2 ^ 16 := by
    rw [List.length_take]
    exact Nat.min_eq_left (Nat.mod_le _ _)
  rw [AnsiString.unsupported, List.any_eq_true]
  refine exists_congr fun entry => and_congr_right fun _ => ?_
  rw [decide_eq_true_iff, List.prefix_iff_eq_take, hlen]
  rfl

/-- Whoever is on the list is blanked. -/
theorem unsupported_of_mem {entries : List (List Char)} {name : List Char} (h : name ∈ entries) :
    (AnsiString.ofName name).unsupported entries = true :=
  (unsupported_ofName entries name).mpr ⟨name, h, List.take_prefix _ _⟩

/-- **One device comes out right just where it is not mistaken.** -/
theorem blanked_iff (entries : List (List Char)) (name : List Char) :
    (if (AnsiString.ofName name).unsupported entries then { AnsiString.ofName name with length := 0 }
      else AnsiString.ofName name) = exactly entries name ↔ ¬Mistaken entries name := by
  unfold exactly
  by_cases hin : name ∈ entries
  · rw [if_pos (unsupported_of_mem hin), if_pos hin]
    exact iff_of_true rfl fun h => h.2.1 hin
  · rw [if_neg hin]
    by_cases hu : (AnsiString.ofName name).unsupported entries = true
    · -- blanked although it is not on the list: only a `Length` that is zero already hides it
      rw [if_pos hu]
      have hentry := (unsupported_ofName entries name).mp hu
      constructor
      · intro e h
        exact h.1 (congrArg AnsiString.length e).symm
      · intro h
        have h0 : name.length % 2 ^ 16 = 0 := by
          by_contra h0
          exact h ⟨h0, hin, hentry⟩
        rw [AnsiString.ofName, h0]
    · rw [if_neg hu]
      exact iff_of_true rfl fun h => hu ((unsupported_ofName entries name).mpr h.2.2)

/-- The devices a filter by whole names leaves. -/
theorem liveKeys_exactly (entries names : List (List Char)) :
    liveKeys (names.map (exactly entries)) =
      (liveKeys (names.map .ofName)).filter (· ∉ entries) := by
  induction names with
  | nil => rfl
  | cons name names ih =>
      rw [List.map_cons, List.map_cons, liveKeys_cons, liveKeys_cons, ih]
      by_cases hin : name ∈ entries
      · have hblank : exactly entries name = { AnsiString.ofName name with length := 0 } :=
          if_pos hin
        rw [hblank, if_pos rfl]
        split
        · rfl
        · simp [AnsiString.ofName, hin]
      · have hleft : exactly entries name = .ofName name := if_neg hin
        rw [hleft]
        split
        · rfl
        · simp [AnsiString.ofName, hin]

/-! ## 3. The filter -/

/-- The list comes out right just where every device does. -/
theorem dropUnsupported_eq_iff (entries names : List (List Char)) :
    dropUnsupported entries (names.map .ofName) = names.map (exactly entries) ↔
      ∀ name ∈ names, ¬Mistaken entries name := by
  rw [dropUnsupported, List.map_map, List.map_inj_left]
  exact forall_congr' fun name => imp_congr_right fun _ => blanked_iff entries name

/-- **The filter goes by whole names just where no name is mistaken for an entry.** -/
theorem dropUnsupported_exactly (entries names : List (List Char)) :
    FiltersExactly entries names ↔ ∀ name ∈ names, ¬Mistaken entries name := by
  constructor
  · intro h
    exact (dropUnsupported_eq_iff entries names).mp h.blanks
  · intro h
    have hblanks := (dropUnsupported_eq_iff entries names).mpr h
    exact ⟨hblanks, by rw [hblanks, liveKeys_exactly]⟩

/-- Console 1 is not made where console 10 is not to be. -/
theorem dropUnsupported_prefix : ¬FiltersExactly ["10".toList] ["1".toList] := fun h =>
  absurd h.blanks (by decide)

end Xencons
