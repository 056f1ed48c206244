import Mathlib.Data.List.Nodup
import Xencons.Lib.Tokens
import Xencons.Fdo.Directory

/-!
# The driver's entry among the distributions (fdo.c)

`FdoSetDistribution` writes the vendor, the product and the version under the first free number of
the directory `drivers`; `FdoClearDistribution` goes through the directory and removes what
`__FdoMatchDistribution` takes for such an entry. That one compares the vendor up to the end of its
own name, so it also takes a vendor whose name goes on.

* `Drivers` -- the directory, with numbers for keys; `Answers` -- which of the calls succeed;
* `fdoMatchDistribution`, `fdoClearDistribution`, `fdoSetDistribution` -- as the code has them;
* `Own`, `Extended` -- what is the vendor's own, and what is only taken for it:
  `fdoMatchDistribution_iff`;
* `entries_clear` -- what is left, whichever calls fail; `tokens_distribution` -- what is written;
* `Clears`; **`clears_iff`**; `other_vendor_removed`.
-/

namespace Xencons.Distribution

open Lib

/-! ## 1. The directory -/

/-- The directory `drivers`: its keys and what is under them. -/
structure Drivers where
  entries : List (List Char × List Char)
  nodup : (entries.map Prod.fst).Nodup
  numeric : ∀ e ∈ entries, e.1 ≠ [] ∧ ∀ c ∈ e.1, c.isDigit = true

@[ext] theorem Drivers.ext {d d' : Drivers} (h : d.entries = d'.entries) : d = d' := by
  cases d
  cases d'
  cases h
  rfl

/-- `"%u"` -/
def decimal (n : Nat) : List Char := Nat.toDigits 10 n

theorem decimal_numeric (n : Nat) : decimal n ≠ [] ∧ ∀ c ∈ decimal n, c.isDigit = true :=
  ⟨Nat.toDigits_ne_nil, fun _ hc => Nat.isDigit_of_mem_toDigits (by decide) (by decide) hc⟩

/-- Which of the calls of the store and of the pool succeed. -/
structure Answers where
  directory : Bool
  allocated : Bool
  read : List Char → Bool
  remove : List Char → Bool
  printf : Bool

/-- All of them. -/
def succeeding : Answers := ⟨true, true, fun _ => true, fun _ => true, true⟩

inductive ReadStatus where
  | success (value : List Char)
  | objectNameNotFound
  | failure
deriving DecidableEq

namespace Drivers

/-- `XENBUS_STORE(Read, …)` -/
def read (answers : Answers) (key : List Char) (d : Drivers) : ReadStatus :=
  if answers.read key then
    match d.entries.lookup key with
    | some value => .success value
    | none => .objectNameNotFound
  else .failure

/-- `XENBUS_STORE(Remove, …)` -/
def remove (answers : Answers) (key : List Char) (d : Drivers) : Drivers :=
  if answers.remove key then
    { entries := d.entries.filter fun e => e.1 ≠ key
      nodup := d.nodup.sublist (List.filter_sublist.map _)
      numeric := fun e he => d.numeric e (List.mem_of_mem_filter he) }
  else d

theorem nodup_concat {keys : List (List Char)} {key : List Char} (h : keys.Nodup)
    (hkey : key ∉ keys) : (keys ++ [key]).Nodup := by
  refine List.nodup_append.mpr ⟨h, List.pairwise_singleton _ _, fun k hk k' hk' e => hkey ?_⟩
  rwa [← List.mem_singleton.mp hk', ← e]

/-- `XENBUS_STORE(Printf, …)` under a key that there is not. -/
def printf (answers : Answers) (index : Nat) (value : List Char) (d : Drivers)
    (h : decimal index ∉ d.entries.map Prod.fst) : Drivers :=
  if answers.printf then
    { entries := d.entries ++ [(decimal index, value)]
      nodup := by
        rw [List.map_append, List.map_singleton]
        exact nodup_concat d.nodup h
      numeric := fun e he => by
        rcases List.mem_append.mp he with he | he
        · exact d.numeric e he
        · rw [List.mem_singleton.mp he]
          exact decimal_numeric index }
  else d

end Drivers

/-! ## 2. The functions -/

def MAXNAMELEN : Nat := 128

def MAXIMUM_INDEX : Nat := 255

/-- `isalnum`, of the C locale. -/
def isalnum (c : Char) : Bool := c.isAlphanum

/-- `_stricmp(…) == 0` -/
def stricmp (a b : List Char) : Bool := a.map Char.toLower = b.map Char.toLower

/-- `__strtok_r`: the token, and `*Context` behind it. -/
def strtokR (delimiter context : List Char) : Option (List Char × List Char) :=
  nextToken (delimiter.contains ·) context

/-- What a buffer has ahead of its NUL. -/
def cstring (buffer : List Char) : List Char := buffer.takeWhile (· ≠ NUL)

def product : List Char := ['X', 'E', 'N', 'C', 'O', 'N', 'S']

/-- The loop of `__FdoMatchDistribution` over `VENDOR_NAME_STR`; the NUL of the token is neither a
    letter nor an underscore. -/
def matchVendor : List Char → List Char → Bool
  | [], _ => true
  | _ :: _, [] => false
  | t :: text, v :: vendor =>
    if !isalnum t then if v ≠ '_' then false else matchVendor text vendor
    else if v ≠ t then false
    else matchVendor text vendor

/-- `__FdoMatchDistribution` -/
def fdoMatchDistribution (vendorName buffer : List Char) : Bool :=
  match strtokR [' '] (cstring buffer) with
  | none => false
  | some (vendor, context) =>
    match strtokR [' '] context with
    | none => false
    | some (product', _) =>
      if stricmp product' product then matchVendor vendorName vendor else false

/-- The loop of `FdoClearDistribution`: one pass, and all of them. -/
def clearOne (answers : Answers) (vendorName key : List Char) (d : Drivers) : Drivers :=
  match d.read answers key with
  | .success buffer =>
    if fdoMatchDistribution vendorName buffer then d.remove answers key else d
  | _ => d

def clearLoop (answers : Answers) (vendorName : List Char) : List AnsiString → Drivers → Drivers
  | [], d => d
  | distribution :: distributions, d =>
    clearLoop answers vendorName distributions
      (clearOne answers vendorName distribution.buffer d)

/-- `FdoClearDistribution` -/
def fdoClearDistribution (answers : Answers) (vendorName : List Char) (d : Drivers) : Drivers :=
  if answers.directory then
    match fdoMultiSzToUpcaseAnsi (multiSz (d.entries.map Prod.fst)) answers.allocated with
    | some distributions => clearLoop answers vendorName distributions d
    | none => d
  else d

/-- The vendor of an entry. -/
def normalise (vendorName : List Char) : List Char :=
  vendorName.map fun c => if isalnum c then c else '_'

/-- What the entry says besides. -/
structure Version where
  major : Nat
  minor : Nat
  micro : Nat
  build : Nat
  attributes : List Char

/-- `"%s %s %u.%u.%u.%u %s"` -/
def distribution (vendorName : List Char) (v : Version) : List Char :=
  normalise (vendorName.take (MAXNAMELEN - 1)) ++ ' ' :: product ++ ' ' ::
    (decimal v.major ++ '.' :: decimal v.minor ++ '.' :: decimal v.micro ++ '.' ::
      decimal v.build ++ ' ' :: v.attributes)

/-- The loop of `FdoSetDistribution`, with how many numbers it still has; the one to write under,
    and `none` where it fails. -/
def findIndex (answers : Answers) (d : Drivers) : Nat → Nat → Option Nat
  | 0, _ => none
  | left + 1, index =>
    match d.read answers (decimal index) with
    | .objectNameNotFound => some index
    | .failure => none
    | .success _ => findIndex answers d left (index + 1)

theorem findIndex_notMem {answers : Answers} {d : Drivers} {left index index' : Nat}
    (h : findIndex answers d left index = some index') :
    decimal index' ∉ d.entries.map Prod.fst := by
  induction left generalizing index with
  | zero => cases h
  | succ left ih =>
      rw [findIndex] at h
      split at h
      case h_1 hread =>
        cases h
        rw [Drivers.read] at hread
        split at hread
        · split at hread
          · cases hread
          · rename_i hlookup
            intro hmem
            obtain ⟨e, he, hkey⟩ := List.mem_map.mp hmem
            have := List.lookup_eq_none_iff.mp hlookup e he
            simp [hkey] at this
        · cases hread
      case h_2 => cases h
      case h_3 => exact ih h

/-- `FdoSetDistribution` -/
def fdoSetDistribution (answers : Answers) (vendorName : List Char) (v : Version) (d : Drivers) :
    Drivers :=
  match h : findIndex answers d (MAXIMUM_INDEX + 1) 0 with
  | some index => d.printf answers index (distribution vendorName v) (findIndex_notMem h)
  | none => d

/-! ## 3. What is taken for an entry of the vendor -/

/-- What is between the spaces. -/
def fields (buffer : List Char) : List (List Char) := tokens ([' '].contains ·) (cstring buffer)

/-- **The vendor's own entry**: its name, with an underscore for each other character, and the
    product in whatever case. -/
def Own (vendorName buffer : List Char) : Prop :=
  match fields buffer with
  | vendor :: product' :: _ => vendor = normalise vendorName ∧ stricmp product' product = true
  | _ => False

instance (vendorName buffer : List Char) : Decidable (Own vendorName buffer) := by
  unfold Own
  split
  · exact inferInstance
  · exact inferInstance

/-- The same of a vendor whose name goes on behind it. -/
def Extended (vendorName buffer : List Char) : Prop :=
  match fields buffer with
  | vendor :: product' :: _ => normalise vendorName <+: vendor ∧ vendor ≠ normalise vendorName ∧
      stricmp product' product = true
  | _ => False

section Match

variable {vendorName buffer : List Char}

theorem ite_ne_iff {a b : Char} {m : Bool} :
    (if a ≠ b then false else m) = true ↔ b = a ∧ m = true := by
  by_cases h : a = b
  · rw [if_neg (not_not_intro h)]
    exact ⟨fun hm => ⟨h.symm, hm⟩, And.right⟩
  · rw [if_pos h]
    exact iff_of_false Bool.false_ne_true fun hm => h hm.1.symm

/-- The loop looks for the name at the beginning of the token. -/
theorem matchVendor_iff {vendor : List Char} :
    matchVendor vendorName vendor = true ↔ normalise vendorName <+: vendor := by
  induction vendorName generalizing vendor with
  | nil => exact iff_of_true rfl List.nil_prefix
  | cons t text ih =>
      cases vendor with
      | nil =>
          refine iff_of_false Bool.false_ne_true fun h => ?_
          exact absurd (List.prefix_nil.mp h) (by simp [normalise])
      | cons v vendor =>
          rw [normalise, List.map_cons, List.cons_prefix_cons, ← normalise, ← ih, matchVendor]
          cases isalnum t with
          | true => exact ite_ne_iff
          | false => exact ite_ne_iff

/-- **What `__FdoMatchDistribution` takes**: the vendor's own, and what extends it. -/
theorem fdoMatchDistribution_iff :
    fdoMatchDistribution vendorName buffer = true ↔
      Own vendorName buffer ∨ Extended vendorName buffer := by
  unfold fdoMatchDistribution Own Extended fields strtokR
  rcases nextToken_eq (p := ([' '].contains ·)) (cstring buffer) with
    ⟨hnone, hnil⟩ | ⟨vendor, context, hsome, hcons⟩
  · rw [hnone, hnil]
    simp
  · rw [hsome, hcons]
    rcases nextToken_eq (p := ([' '].contains ·)) context with
      ⟨hnone, hnil⟩ | ⟨product', rest, hsome', hcons'⟩
    · simp only [hnone, hnil]
      simp
    · simp only [hsome', hcons']
      by_cases hproduct : stricmp product' product = true
      · rw [if_pos hproduct, matchVendor_iff]
        constructor
        · intro h
          by_cases he : vendor = normalise vendorName
          · exact .inl ⟨he, hproduct⟩
          · exact .inr ⟨h, he, hproduct⟩
        · rintro (⟨rfl, -⟩ | ⟨h, -⟩)
          · exact List.prefix_refl _
          · exact h
      · rw [if_neg hproduct]
        exact iff_of_false Bool.false_ne_true fun h =>
          h.elim (fun h => hproduct h.2) fun h => hproduct h.2.2

theorem Extended.not_own (h : Extended vendorName buffer) : ¬ Own vendorName buffer := by
  unfold Extended at h
  unfold Own
  split at h
  · exact fun hown => h.2.1 hown.1
  · exact h.elim

end Match

/-! ## 4. What is left -/

section Clear

variable {answers : Answers} {vendorName key value : List Char} {d : Drivers}

theorem read_success (h : d.read answers key = .success value) :
    answers.read key = true ∧ (key, value) ∈ d.entries := by
  unfold Drivers.read at h
  split at h
  · rename_i hread
    refine ⟨hread, ?_⟩
    split at h
    · rename_i hlookup
      cases h
      obtain ⟨l, l', he, -⟩ := List.lookup_eq_some_iff.mp hlookup
      rw [he]
      exact List.mem_append_right _ List.mem_cons_self
    · cases h
  · cases h

/-- What is under a key is read, if anything is. -/
theorem read_of_mem (hread : answers.read key = true) (h : (key, value) ∈ d.entries) :
    d.read answers key = .success value := by
  unfold Drivers.read
  rw [if_pos hread]
  cases hlookup : d.entries.lookup key with
  | none =>
      have := List.lookup_eq_none_iff.mp hlookup _ h
      simp at this
  | some value' =>
      obtain ⟨l, l', he, -⟩ := List.lookup_eq_some_iff.mp hlookup
      have hmem : (key, value') ∈ d.entries := by
        rw [he]; exact List.mem_append_right _ List.mem_cons_self
      have := List.inj_on_of_nodup_map d.nodup hmem h rfl
      cases this
      rfl

/-- What the loop takes away from under a key. -/
def taken (answers : Answers) (vendorName : List Char) (e : List Char × List Char) : Bool :=
  answers.read e.1 && answers.remove e.1 && fdoMatchDistribution vendorName e.2

/-- One pass takes away what is under its key, if it is to be taken. -/
theorem entries_clearOne (answers : Answers) (vendorName key : List Char) (d : Drivers) :
    (clearOne answers vendorName key d).entries =
      d.entries.filter fun e => !(e.1 == key && taken answers vendorName e) := by
  -- nothing goes, where nothing under the key is to be taken
  have hkeep (h : ∀ e ∈ d.entries, e.1 = key → taken answers vendorName e = false) :
      d.entries = d.entries.filter fun e => !(e.1 == key && taken answers vendorName e) := by
    refine (List.filter_eq_self.mpr fun e he => ?_).symm
    by_cases hkey : e.1 = key
    · rw [h e he hkey, Bool.and_false]; rfl
    · rw [beq_false_of_ne hkey]; rfl
  unfold clearOne
  cases hread : d.read answers key with
  | success buffer =>
      obtain ⟨hanswer, hmem⟩ := read_success hread
      have hunder : ∀ e ∈ d.entries, e.1 = key → e = (key, buffer) := fun e he hkey =>
        List.inj_on_of_nodup_map d.nodup he hmem hkey
      show (if fdoMatchDistribution vendorName buffer = true then d.remove answers key
        else d).entries = _
      by_cases hmatch : fdoMatchDistribution vendorName buffer = true
      · rw [if_pos hmatch]
        unfold Drivers.remove
        split
        case isTrue hremove =>
          refine List.filter_congr fun e he => ?_
          by_cases hkey : e.1 = key
          · have htaken : taken answers vendorName e = true := by
              rw [hunder e he hkey]
              simp only [taken, hanswer, hremove, hmatch, Bool.and_self]
            rw [htaken, hkey]
            simp
          · rw [beq_false_of_ne hkey]
            simpa using hkey
        case isFalse hremove =>
          refine hkeep fun e he hkey => ?_
          rw [hunder e he hkey]
          simp only [taken, Bool.eq_false_iff.mpr hremove, Bool.and_false, Bool.false_and]
      · rw [if_neg hmatch]
        refine hkeep fun e he hkey => ?_
        rw [hunder e he hkey]
        simp only [taken, Bool.eq_false_iff.mpr hmatch, Bool.and_false]
  | objectNameNotFound | failure =>
      refine hkeep fun e he hkey => ?_
      cases hanswer : answers.read e.1 with
      | false => simp only [taken, hanswer, Bool.false_and]
      | true =>
          subst hkey
          rw [read_of_mem hanswer he] at hread
          cases hread

/-- **The loop takes away what is to be taken**, under each of its keys. -/
theorem entries_clearLoop (keys : List (List Char)) (d : Drivers) :
    (clearLoop answers vendorName (keys.map .ofName) d).entries =
      d.entries.filter fun e => !(keys.contains e.1 && taken answers vendorName e) := by
  induction keys generalizing d with
  | nil => exact (List.filter_eq_self.mpr fun _ _ => rfl).symm
  | cons key keys ih =>
      rw [List.map_cons, clearLoop, ih, entries_clearOne, List.filter_filter]
      refine List.filter_congr fun e _ => ?_
      show (!(keys.contains e.1 && taken answers vendorName e) &&
        !(e.1 == key && taken answers vendorName e)) =
          !((key :: keys).contains e.1 && taken answers vendorName e)
      rw [List.contains_cons]
      cases e.1 == key <;> cases keys.contains e.1 <;> cases taken answers vendorName e <;> rfl

/-- A digit is no letter. -/
theorem toupper_digit {c : Char} (h : c.isDigit = true) : toupper c = c := by
  have hle : c ≤ '9' := by
    simp only [Char.isDigit, Bool.and_eq_true, decide_eq_true_eq] at h
    exact h.2
  have hlt : c < 'a' := Std.lt_of_le_of_lt hle (by decide)
  rw [toupper, decide_eq_true hlt, Bool.true_or, if_pos rfl]

theorem keys_numeric (d : Drivers) :
    ∀ k ∈ d.entries.map Prod.fst, k ≠ [] ∧ NUL ∉ k ∧ k.map toupper = k := by
  intro k hk
  obtain ⟨e, he, rfl⟩ := List.mem_map.mp hk
  obtain ⟨hne, hdigits⟩ := d.numeric e he
  refine ⟨hne, fun hnul => absurd (hdigits NUL hnul) (by decide), ?_⟩
  exact (List.map_congr_left fun c hc => toupper_digit (hdigits c hc)).trans (List.map_id' _)

/-- What `FdoClearDistribution` goes through are the keys; a directory without any has one name of
    no characters. -/
theorem fdoMultiSzToUpcaseAnsi_keys (d : Drivers) :
    fdoMultiSzToUpcaseAnsi (multiSz (d.entries.map Prod.fst)) true =
      some ((if d.entries = [] then [[]] else d.entries.map Prod.fst).map .ofName) := by
  cases hentries : d.entries with
  | nil => decide
  | cons e es =>
      rw [← hentries, if_neg (by rw [hentries]; nofun)]
      rw [fdoMultiSzToUpcaseAnsi_multiSz (by rw [hentries]; nofun)
        fun k hk => ⟨(keys_numeric d k hk).1, (keys_numeric d k hk).2.1⟩]
      refine congrArg some (List.map_congr_left fun k hk => ?_)
      rw [(keys_numeric d k hk).2.2]

/-- **What is left**, whichever calls fail. -/
theorem entries_clear (answers : Answers) (vendorName : List Char) (d : Drivers) :
    (fdoClearDistribution answers vendorName d).entries =
      d.entries.filter fun e =>
        !(answers.directory && answers.allocated && taken answers vendorName e) := by
  unfold fdoClearDistribution
  cases hdirectory : answers.directory with
  | false => exact (List.filter_eq_self.mpr fun _ _ => rfl).symm
  | true =>
      cases hallocated : answers.allocated with
      | false =>
          have hnone : fdoMultiSzToUpcaseAnsi (multiSz (d.entries.map Prod.fst)) false = none := by
            unfold fdoMultiSzToUpcaseAnsi
            split <;> rfl
          rw [hnone]
          exact (List.filter_eq_self.mpr fun _ _ => rfl).symm
      | true =>
          rw [fdoMultiSzToUpcaseAnsi_keys]
          show (clearLoop answers vendorName _ d).entries = _
          rw [entries_clearLoop]
          refine List.filter_congr fun e he => ?_
          have hmem : (if d.entries = [] then [[]] else d.entries.map Prod.fst).contains e.1 =
              true := by
            rw [if_neg (List.ne_nil_of_mem he)]
            exact List.contains_iff_mem.mpr (List.mem_map_of_mem he)
          rw [hmem]
          rfl

end Clear

/-! ## 5. What is written -/

section Set

variable {answers : Answers} {vendorName : List Char} {v : Version} {d : Drivers}

theorem normalise_ne_space {c : Char} (hc : c ∈ normalise vendorName) : c ≠ ' ' ∧ c ≠ NUL := by
  obtain ⟨c', -, rfl⟩ := List.mem_map.mp hc
  split
  case isTrue h =>
    constructor
    · rintro rfl
      exact absurd h (by decide)
    · rintro rfl
      exact absurd h (by decide)
  case isFalse => decide

/-- **The vendor and the product come first** in what is written. -/
theorem fields_distribution (hne : vendorName ≠ []) (hlength : vendorName.length < MAXNAMELEN)
    (v : Version) :
    ∃ rest, fields (distribution vendorName v) = normalise vendorName :: product :: rest := by
  have htake : vendorName.take (MAXNAMELEN - 1) = vendorName :=
    List.take_of_length_le (Nat.le_pred_of_lt hlength)
  have hvendor : normalise vendorName ≠ [] := by simpa [normalise] using hne
  have hall : product.all (fun c => c ≠ NUL && !([' '].contains c)) = true := by decide
  have hproduct (c : Char) (hc : c ∈ product) : c ≠ NUL ∧ [' '].contains c = false := by
    simpa using List.all_eq_true.mp hall c hc
  unfold fields distribution cstring
  rw [htake, List.append_assoc, List.takeWhile_append_of_pos fun c hc =>
    decide_eq_true (normalise_ne_space hc).2, List.cons_append,
    List.takeWhile_cons_of_pos (by decide), List.takeWhile_append_of_pos fun c hc =>
    decide_eq_true (hproduct c hc).1, List.takeWhile_cons_of_pos (by decide),
    tokens_append_sep hvendor (fun c hc => by simpa using (normalise_ne_space hc).1) (by decide),
    tokens_append_sep (by decide) (fun c hc => (hproduct c hc).2) (by decide)]
  exact ⟨_, rfl⟩

theorem own_distribution (hne : vendorName ≠ []) (hlength : vendorName.length < MAXNAMELEN)
    (v : Version) : Own vendorName (distribution vendorName v) := by
  obtain ⟨rest, hfields⟩ := fields_distribution hne hlength v
  unfold Own
  rw [hfields]
  exact ⟨rfl, by decide⟩

/-- **One entry is written, or none.** -/
theorem entries_set (answers : Answers) (vendorName : List Char) (v : Version) (d : Drivers) :
    (fdoSetDistribution answers vendorName v d).entries = d.entries ∨
      ∃ index, (fdoSetDistribution answers vendorName v d).entries =
        d.entries ++ [(decimal index, distribution vendorName v)] := by
  unfold fdoSetDistribution
  split
  · unfold Drivers.printf
    split
    · exact .inr ⟨_, rfl⟩
    · exact .inl rfl
  · exact .inl rfl

end Set

/-! ## 6. The two together -/

/-- **What the two functions are to do**: what goes is what is the vendor's own, so also what has
    just been written; and where there was nothing of the vendor's, nothing has changed. -/
structure Clears (vendorName : List Char) (v : Version) (d : Drivers) : Prop where
  removes : (fdoClearDistribution succeeding vendorName d).entries =
    d.entries.filter fun e => ¬ Own vendorName e.2
  written : ∀ e ∈ (fdoSetDistribution succeeding vendorName v d).entries, e ∉ d.entries →
    e ∉ (fdoClearDistribution succeeding vendorName
      (fdoSetDistribution succeeding vendorName v d)).entries
  restores : (∀ e ∈ d.entries, ¬ Own vendorName e.2) →
    fdoClearDistribution succeeding vendorName
      (fdoSetDistribution succeeding vendorName v d) = d

section Together

variable {vendorName : List Char} {v : Version} {d : Drivers}

theorem entries_clear_succeeding (vendorName : List Char) (d : Drivers) :
    (fdoClearDistribution succeeding vendorName d).entries =
      d.entries.filter fun e => !fdoMatchDistribution vendorName e.2 :=
  entries_clear succeeding vendorName d

theorem match_of_own {buffer : List Char} (h : Own vendorName buffer) :
    fdoMatchDistribution vendorName buffer = true :=
  fdoMatchDistribution_iff.mpr (.inl h)

/-- Where nothing extends the name, what is taken is the vendor's own. -/
theorem match_eq_own {buffer : List Char} (h : ¬ Extended vendorName buffer) :
    fdoMatchDistribution vendorName buffer = decide (Own vendorName buffer) := by
  rw [Bool.eq_iff_iff, fdoMatchDistribution_iff, decide_eq_true_iff]
  exact or_iff_left h

theorem clears_removes (h : ∀ e ∈ d.entries, ¬ Extended vendorName e.2) :
    (fdoClearDistribution succeeding vendorName d).entries =
      d.entries.filter fun e => ¬ Own vendorName e.2 := by
  rw [entries_clear_succeeding]
  refine List.filter_congr fun e he => ?_
  rw [match_eq_own (h e he), decide_not]

/-- **The entry that has been written goes**, whatever else there is. -/
theorem clears_written (hne : vendorName ≠ []) (hlength : vendorName.length < MAXNAMELEN)
    {e : List Char × List Char}
    (he : e ∈ (fdoSetDistribution succeeding vendorName v d).entries) (hnew : e ∉ d.entries) :
    e ∉ (fdoClearDistribution succeeding vendorName
      (fdoSetDistribution succeeding vendorName v d)).entries := by
  rcases entries_set succeeding vendorName v d with hset | ⟨index, hset⟩
  · rw [hset] at he
    exact absurd he hnew
  · rw [hset] at he
    obtain rfl := List.mem_singleton.mp ((List.mem_append.mp he).resolve_left hnew)
    rw [entries_clear_succeeding, List.mem_filter]
    rintro ⟨-, hkept⟩
    rw [match_of_own (own_distribution hne hlength v)] at hkept
    cases hkept

/-- A directory without entries that are taken for the vendor's comes back. -/
theorem clears_restores (hne : vendorName ≠ []) (hlength : vendorName.length < MAXNAMELEN)
    (h : ∀ e ∈ d.entries, ¬ Extended vendorName e.2)
    (hown : ∀ e ∈ d.entries, ¬ Own vendorName e.2) :
    fdoClearDistribution succeeding vendorName
      (fdoSetDistribution succeeding vendorName v d) = d := by
  have hkept : d.entries.filter (fun e => !fdoMatchDistribution vendorName e.2) = d.entries := by
    refine List.filter_eq_self.mpr fun e he => ?_
    rw [match_eq_own (h e he), decide_eq_false (hown e he)]
    rfl
  apply Drivers.ext
  rw [entries_clear_succeeding]
  rcases entries_set succeeding vendorName v d with hset | ⟨index, hset⟩
  · rw [hset, hkept]
  · rw [hset, List.filter_append, hkept, List.filter_cons_of_neg, List.filter_nil,
      List.append_nil]
    rw [match_of_own (own_distribution hne hlength v)]
    exact Bool.false_ne_true

end Together

/-- **The two functions do what they are to do just where no other vendor's name goes on behind the
    driver's own.** -/
theorem clears_iff (vendorName : List Char) (v : Version) (d : Drivers) (hne : vendorName ≠ [])
    (hlength : vendorName.length < MAXNAMELEN) :
    Clears vendorName v d ↔ ∀ e ∈ d.entries, ¬ Extended vendorName e.2 := by
  constructor
  · intro h e he hextended
    have hmem : e ∈ d.entries.filter fun e => ¬ Own vendorName e.2 :=
      List.mem_filter.mpr ⟨he, decide_eq_true hextended.not_own⟩
    rw [← h.removes, entries_clear_succeeding, List.mem_filter,
      fdoMatchDistribution_iff.mpr (.inr hextended)] at hmem
    cases hmem.2
  · exact fun h => ⟨clears_removes h, fun e => clears_written hne hlength,
      clears_restores hne hlength h⟩

theorem numeric_zero (value : List Char) :
    ∀ e ∈ [("0".toList, value)], e.1 ≠ [] ∧ ∀ c ∈ e.1, c.isDigit = true := by
  intro e he
  rw [List.mem_singleton.mp he]
  show "0".toList ≠ [] ∧ ∀ c ∈ "0".toList, c.isDigit = true
  exact ⟨by decide, List.all_eq_true.mp (by decide)⟩

/-- A directory with another driver of the vendor. -/
def otherDriver : Drivers where
  entries := [("0".toList, "Xen_Project XENVIF 9.1.0.7 ".toList)]
  nodup := List.nodup_singleton _
  numeric := numeric_zero _

theorem clears_iff_otherDriver :
    Clears "Xen Project".toList ⟨9, 1, 0, 5, []⟩ otherDriver ↔
      ∀ e ∈ otherDriver.entries, ¬ Extended "Xen Project".toList e.2 :=
  clears_iff _ _ _ (by decide) (by decide)

/-- A directory with the entry of another vendor. -/
def otherVendor : Drivers where
  entries := [("0".toList, "Xen_Project XENCONS 9.1.0.7 ".toList)]
  nodup := List.nodup_singleton _
  numeric := numeric_zero _

/-- The vendor `Xen` takes the entry away. -/
theorem other_vendor_removed :
    ¬ ∀ (vendorName : List Char) (v : Version) (d : Drivers), vendorName ≠ [] →
      vendorName.length < MAXNAMELEN → Clears vendorName v d := by
  intro h
  have hremoves := (h "Xen".toList ⟨9, 1, 0, 5, []⟩ otherVendor (by decide) (by decide)).removes
  have hgone : (fdoClearDistribution succeeding "Xen".toList otherVendor).entries = [] := by
    decide +kernel
  have hown : ¬ Own "Xen".toList "Xen_Project XENCONS 9.1.0.7 ".toList := by decide +kernel
  rw [hgone] at hremoves
  have hkept : otherVendor.entries.filter (fun e => ¬ Own "Xen".toList e.2) =
      otherVendor.entries := List.filter_eq_self.mpr fun e he => by
    rw [List.mem_singleton.mp he]
    exact decide_eq_true hown
  rw [hkept] at hremoves
  cases hremoves

end Xencons.Distribution
