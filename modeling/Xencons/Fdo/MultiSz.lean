import Mathlib.Data.List.Basic
import Mathlib.Data.List.Range
import Xencons.Fdo.Directory

/-!
# What a scan makes of the names, in memory (fdo.c)

`__FdoMultiSzToUpcaseAnsi` goes twice through what the store has returned: it upcases the names and
counts them, and it copies each of them into a block of its own. The array of the `ANSI_STRING`s has
one entry more than there are names, and nobody writes that one.

* `upcaseLoop`, `ansiLoop`, `fdoMultiSzToUpcaseAnsi` -- the two loops, over a buffer that ends with
  the last NUL and a pool that may refuse any block; what is read or written outside is `none`;
* `upcaseLoop_multiSz`, `Filled`, `ansiLoop_names` -- what the loops have done behind each name;
* `Listed`, `Correct` -- what is to come of it; `Fits` -- the buffers that `LONG` and `ULONG` have
  room for;
* **`correct_iff_fits`**; `incorrect_of_many_names`;
* `Listed.free`, `Listed.directory` -- `__FdoFreeAnsi` gives all of it back, and a scan reads it.
-/

namespace Xencons.MultiSz

/-! ## 1. The function -/

/-- `__toupper`; a `CHAR` above 127 is negative, and no letter. -/
def toupper (c : UInt8) : UInt8 := if c < 97 ∨ 122 < c then c else 65 + c - 97

/-- What the store returns: the names, each with its NUL, and one more NUL. -/
def multiSz (names : List (List UInt8)) : List UInt8 := names.flatMap (· ++ [0]) ++ [0]

/-- `++` of a `LONG`. -/
def increment (i : Nat) : Option Nat := if i + 1 < 2 ^ 31 then some (i + 1) else none

/-- The first loop, with what the buffer has from `Buffer[Index]` on; the same as it leaves it, and
    `Count`. -/
def upcaseLoop : List UInt8 → Nat → Nat → Option (List UInt8 × Nat)
  | [], _, _ => none
  | c :: buffer, index, count =>
    if c = 0 then do
      let count ← increment count
      let index ← increment index
      -- Check for double NUL
      let c' ← buffer.head?
      if c' = 0 then some (c :: buffer, count)
      else (upcaseLoop buffer index count).map fun (buffer, count) => (c :: buffer, count)
    else do
      let index ← increment index
      (upcaseLoop buffer index count).map fun (buffer, count) => (toupper c :: buffer, count)

/-- An `ANSI_STRING`; `Buffer` is the number of its block, or `NULL`. -/
structure AnsiString where
  length : Nat
  maximumLength : Nat
  buffer : Option Nat
deriving DecidableEq

/-- What can be freed. -/
inductive Block where
  | ansi
  | buffer (k : Nat)
deriving DecidableEq

/-- The pool: the array, the blocks of characters in the order they were taken, and what has not
    been freed. -/
structure Pool where
  ansi : List AnsiString
  buffers : List (List UInt8)
  live : List Block
  /-- the calls that have come to the pool -/
  asked : Nat
  /-- one of them has got nothing -/
  failed : Bool
deriving DecidableEq

namespace Pool

def init : Pool := ⟨[], [], [], 0, false⟩

/-- `__FdoAllocate`: how much there is of what has been asked for. -/
def allocate (answers : Nat → Bool) (length : Nat) (p : Pool) : Option Nat × Pool :=
  -- ULONG Length
  let length := length % 2 ^ 32
  if length = 0 then (none, { p with failed := true })
  else if answers p.asked then (some length, { p with asked := p.asked + 1 })
  else (none, { p with asked := p.asked + 1, failed := true })

/-- `RtlZeroMemory` behind it; `sizeof (ANSI_STRING)` is 16. -/
def newAnsi (size : Nat) (p : Pool) : Pool :=
  { p with ansi := List.replicate (size / 16) ⟨0, 0, none⟩, live := .ansi :: p.live }

def newBuffer (size : Nat) (p : Pool) : Pool :=
  { p with
    buffers := p.buffers ++ [List.replicate size 0]
    live := .buffer p.buffers.length :: p.live }

/-- `__FdoFree` -/
def free (b : Block) (p : Pool) : Option Pool :=
  if b ∈ p.live then some { p with live := p.live.erase b } else none

/-- `Ansi[Index]` -/
def get (index : Nat) (p : Pool) : Option AnsiString :=
  if .ansi ∈ p.live then p.ansi[index]? else none

def set (index : Nat) (e : AnsiString) (p : Pool) : Option Pool :=
  if .ansi ∈ p.live ∧ index < p.ansi.length then some { p with ansi := p.ansi.set index e }
  else none

/-- `RtlCopyMemory` to the beginning of a block. -/
def copy (k : Nat) (text : List UInt8) (p : Pool) : Option Pool := do
  let block ← p.buffers[k]?
  if .buffer k ∈ p.live ∧ text.length ≤ block.length then
    some { p with buffers := p.buffers.set k (text ++ block.drop text.length) }
  else none

/-- The characters of an entry. -/
def text (p : Pool) (e : AnsiString) : Option (List UInt8) := e.buffer.bind (p.buffers[·]?)

end Pool

def strlen (buffer : List UInt8) : Option Nat := buffer.findIdx? (· = 0)

/-- `fail2`: `while (--Index >= 0)` -/
def unwind : Nat → Pool → Option Pool
  | 0, p => p.free .ansi
  | index + 1, p => do
    let e ← p.get index
    let k ← e.buffer
    let p ← p.free (.buffer k)
    unwind index p

/-- The second loop, with how many entries it still has to fill; whether `Ansi` is returned. -/
def ansiLoop (answers : Nat → Bool) : Nat → Nat → List UInt8 → Pool → Option (Bool × Pool)
  | 0, _, _, p => some (true, p)
  | left + 1, index, buffer, p => do
    let length := (← strlen buffer) % 2 ^ 32
    let e := { ← p.get index with maximumLength := (length + 1) % 2 ^ 16 }
    let p ← p.set index e
    match p.allocate answers e.maximumLength with
    | (none, p) => (unwind index p).map fun p => (false, p)
    | (some size, p) =>
      let k := p.buffers.length
      let p := p.newBuffer size
      let p ← p.set index { e with buffer := some k }
      let p ← p.copy k (buffer.take length)
      let p ← p.set index { e with buffer := some k, length := length % 2 ^ 16 }
      ansiLoop answers left (index + 1) (buffer.drop ((length + 1) % 2 ^ 32)) p

/-- `__FdoMultiSzToUpcaseAnsi` -/
def fdoMultiSzToUpcaseAnsi (answers : Nat → Bool) (buffer : List UInt8) : Option (Bool × Pool) := do
  let (buffer, count) ← upcaseLoop buffer 0 0
  match Pool.init.allocate answers (16 * (count + 1)) with
  | (none, p) => some (false, p)
  | (some size, p) => ansiLoop answers count 0 buffer (p.newAnsi size)

/-! ## 2. The first loop -/

section Upcase

variable {k : List UInt8} {names : List (List UInt8)} {index count : Nat}

theorem multiSz_cons (k : List UInt8) (names : List (List UInt8)) :
    multiSz (k :: names) = k ++ 0 :: multiSz names := by
  simp [multiSz]

/-- Upcasing makes no end of a string. -/
theorem toupper_ne_zero {c : UInt8} (h : c ≠ 0) : toupper c ≠ 0 := by
  unfold toupper
  split
  · exact h
  · rename_i hc
    simp only [not_or, UInt8.not_lt, UInt8.le_iff_toNat_le] at hc
    intro e
    have e' : (256 - 97 + (65 + c.toNat) % 256) % 256 = 0 := by
      have := congrArg UInt8.toNat e
      rwa [UInt8.toNat_sub, UInt8.toNat_add] at this
    have h97 : (97 : UInt8).toNat = 97 := rfl
    have h122 : (122 : UInt8).toNat = 122 := rfl
    omega

theorem zero_notMem_upcase (hk : 0 ∉ k) : 0 ∉ k.map toupper := by
  intro h
  obtain ⟨c, hc, e⟩ := List.mem_map.mp h
  exact toupper_ne_zero (fun e' => hk (e' ▸ hc)) e

/-- It goes through one name. -/
theorem upcaseLoop_append (hk : 0 ∉ k) (buffer : List UInt8) (hindex : index < 2 ^ 31) :
    upcaseLoop (k ++ buffer) index count =
      if index + k.length < 2 ^ 31 then
        (upcaseLoop buffer (index + k.length) count).map fun (b, n) => (k.map toupper ++ b, n)
      else none := by
  induction k generalizing index with
  | nil =>
      rw [List.length_nil, Nat.add_zero, if_pos hindex, List.nil_append]
      cases upcaseLoop buffer index count <;> rfl
  | cons c k ih =>
      obtain ⟨hc, hk⟩ := not_or.mp (mt List.mem_cons.mpr hk)
      rw [List.cons_append, upcaseLoop, if_neg (Ne.symm hc), increment]
      split
      case isTrue hnext =>
        rw [Option.bind_eq_bind, Option.bind_some, ih hk hnext, List.length_cons,
          show index + 1 + k.length = index + (k.length + 1) by omega]
        split
        · cases upcaseLoop buffer (index + (k.length + 1)) count <;> rfl
        · rfl
      case isFalse hnext =>
        rw [List.length_cons, if_neg (by omega)]
        rfl

/-- At the NUL of a name, with another name behind it or the last NUL. -/
theorem upcaseLoop_zero {c : UInt8} {buffer : List UInt8} (hcount : count ≤ index) :
    upcaseLoop (0 :: c :: buffer) index count =
      if index + 1 < 2 ^ 31 then
        if c = 0 then some (0 :: c :: buffer, count + 1)
        else (upcaseLoop (c :: buffer) (index + 1) (count + 1)).map fun (b, n) => (0 :: b, n)
      else none := by
  rw [upcaseLoop, if_pos rfl, increment, increment]
  by_cases hnext : index + 1 < 2 ^ 31
  · rw [if_pos hnext, if_pos hnext, if_pos (Nat.lt_of_le_of_lt (by omega) hnext)]
    rfl
  · rw [if_neg hnext, if_neg hnext]
    split <;> rfl

/-- It stops behind the last name. -/
theorem upcaseLoop_last (hk : 0 ∉ k) (hindex : index < 2 ^ 31) (hcount : count ≤ index) :
    upcaseLoop (k ++ [0, 0]) index count =
      if index + k.length + 1 < 2 ^ 31 then some (k.map toupper ++ [0, 0], count + 1)
      else none := by
  rw [upcaseLoop_append hk _ hindex, upcaseLoop_zero (by omega)]
  by_cases hnext : index + k.length + 1 < 2 ^ 31
  · rw [if_pos (by omega), if_pos hnext, if_pos hnext, if_pos rfl]
    rfl
  · rw [if_neg hnext, if_neg hnext, Option.map_none, ite_self]

/-- It goes on behind every other name. -/
theorem upcaseLoop_name (hk : 0 ∉ k) (hindex : index < 2 ^ 31) (hcount : count ≤ index) {c : UInt8}
    {buffer : List UInt8} (hc : c ≠ 0) :
    upcaseLoop (k ++ 0 :: c :: buffer) index count =
      if index + k.length + 1 < 2 ^ 31 then
        (upcaseLoop (c :: buffer) (index + k.length + 1) (count + 1)).map
          fun (b, n) => (k.map toupper ++ 0 :: b, n)
      else none := by
  rw [upcaseLoop_append hk _ hindex, upcaseLoop_zero (by omega)]
  by_cases hnext : index + k.length + 1 < 2 ^ 31
  · rw [if_pos (by omega), if_pos hnext, if_pos hnext, if_neg hc, Option.map_map]
    rfl
  · rw [if_neg hnext, if_neg hnext, Option.map_none, ite_self]

theorem length_multiSz_pos (names : List (List UInt8)) : 0 < (multiSz names).length := by
  simp [multiSz]

/-- **The first loop upcases the names and counts them**, if `LONG` has room for the buffer. -/
theorem upcaseLoop_multiSz (hne : names ≠ []) (h : ∀ k ∈ names, k ≠ [] ∧ 0 ∉ k)
    (hindex : index < 2 ^ 31) (hcount : count ≤ index) :
    upcaseLoop (multiSz names) index count =
      if index + (multiSz names).length ≤ 2 ^ 31 then
        some (multiSz (names.map (·.map toupper)), count + names.length)
      else none := by
  induction names generalizing index count with
  | nil => exact absurd rfl hne
  | cons k names ih =>
      have hk : 0 ∉ k := (h k List.mem_cons_self).2
      have hlength : (multiSz (k :: names)).length = k.length + 1 + (multiSz names).length := by
        rw [multiSz_cons, List.length_append, List.length_cons]; omega
      cases names with
      | nil =>
          have hroom : index + (multiSz [k]).length ≤ 2 ^ 31 ↔ index + k.length + 1 < 2 ^ 31 := by
            rw [hlength, show (multiSz []).length = 1 from rfl]
            omega
          have hbuffer : multiSz [k] = k ++ [0, 0] := multiSz_cons k []
          rw [if_congr hroom rfl rfl, hbuffer, upcaseLoop_last hk hindex hcount, List.map_singleton,
            multiSz_cons]
          rfl
      | cons k' names =>
          obtain ⟨hne', hk'⟩ := h k' (List.mem_cons_of_mem _ List.mem_cons_self)
          obtain ⟨c, k'', rfl⟩ := List.exists_cons_of_ne_nil hne'
          have hc : c ≠ 0 := fun e => hk' (e ▸ List.mem_cons_self)
          have hbuffer : multiSz ((c :: k'') :: names) = c :: (k'' ++ 0 :: multiSz names) :=
            multiSz_cons (c :: k'') names
          have hrest := length_multiSz_pos ((c :: k'') :: names)
          rw [hlength, multiSz_cons, hbuffer, upcaseLoop_name hk hindex hcount hc, ← hbuffer]
          by_cases hnext : index + k.length + 1 < 2 ^ 31
          · rw [if_pos hnext, ih nofun (fun k hk => h k (List.mem_cons_of_mem _ hk)) hnext
              (by omega), List.map_cons (a := k), multiSz_cons (k.map toupper),
              List.length_cons (a := k), ← Nat.add_assoc, ← Nat.add_assoc, Nat.add_right_comm count]
            split <;> rfl
          · rw [if_neg hnext, if_neg (by omega)]

end Upcase

/-! ## 3. The second loop -/

/-- What is live once the first `k` names have been copied. -/
def blocks : Nat → List Block
  | 0 => [.ansi]
  | k + 1 => .buffer k :: blocks k

/-- The entries of these names. -/
def entries (names : List (List UInt8)) : List AnsiString :=
  names.zipIdx.map fun (k, i) => ⟨k.length, k.length + 1, some i⟩

/-- **What the second loop has done** once it has copied these names, with `left` entries to go. -/
structure Filled (names : List (List UInt8)) (left : Nat) (p : Pool) : Prop where
  ansi : p.ansi = entries names ++ List.replicate left ⟨0, 0, none⟩
  buffers : p.buffers = names.map (· ++ [0])
  live : p.live = blocks names.length
  failed : p.failed = false

section Split

variable {k : List UInt8} {names done : List (List UInt8)} {left : Nat} {p : Pool}
  {answers : Nat → Bool}

theorem ansi_mem_blocks (k : Nat) : .ansi ∈ blocks k := by
  induction k with
  | zero => exact List.mem_cons_self
  | succ k ih => exact List.mem_cons_of_mem _ ih

theorem entries_append (k : List UInt8) :
    entries (names ++ [k]) = entries names ++ [⟨k.length, k.length + 1, some names.length⟩] := by
  simp [entries, List.zipIdx_append]

theorem length_entries : (entries names).length = names.length := by simp [entries]

theorem getElem?_entries {i : Nat} (hi : i < names.length) :
    ∃ e, (entries names)[i]? = some e ∧ e.buffer = some i := by
  refine ⟨_, by simp [entries, hi]; rfl, rfl⟩

theorem strlen_append (hk : 0 ∉ k) (buffer : List UInt8) :
    strlen (k ++ 0 :: buffer) = some k.length := by
  unfold strlen
  rw [List.findIdx?_append, List.findIdx?_eq_none_iff.mpr]
  · simp [List.findIdx?_cons]
  · intro c hc
    exact decide_eq_false fun e => hk (e ▸ hc)

/-- **The unwinding frees each block once**, and the array last. -/
theorem unwind_blocks {j : Nat} (hlive : p.live = blocks j)
    (h : ∀ i < j, ∃ e, p.ansi[i]? = some e ∧ e.buffer = some i) :
    unwind j p = some { p with live := [] } := by
  induction j generalizing p with
  | zero => simp [unwind, Pool.free, hlive, blocks]
  | succ j ih =>
      obtain ⟨e, he, hbuffer⟩ := h j (Nat.lt_succ_self j)
      have hget : p.get j = some e := by
        rw [Pool.get, hlive, if_pos (ansi_mem_blocks _), he]
      have hfree : p.free (.buffer j) = some { p with live := blocks j } := by
        rw [Pool.free, hlive, blocks, if_pos List.mem_cons_self, List.erase_cons_head]
      simp only [unwind, hget, hbuffer, hfree, Option.bind_eq_bind, Option.bind_some]
      exact ih rfl fun i hi => h i (Nat.lt_succ_of_lt hi)

/-- What is ahead of the entries that have no block is given back. -/
theorem unwind_append {front tail : List AnsiString} {j : Nat} (hlive : p.live = blocks j)
    (hansi : p.ansi = front ++ tail) (hj : j = front.length)
    (hown : ∀ i < j, ∃ e, front[i]? = some e ∧ e.buffer = some i) :
    unwind j p = some { p with live := [] } := by
  refine unwind_blocks hlive fun i hi => ?_
  obtain ⟨e, he, hbuffer⟩ := hown i hi
  refine ⟨e, ?_, hbuffer⟩
  rw [hansi, List.getElem?_append_left (hj ▸ hi), he]

/-- An entry is read. -/
theorem get_append {front tail : List AnsiString} {x : AnsiString} {i : Nat}
    (hlive : .ansi ∈ p.live) (hansi : p.ansi = front ++ x :: tail) (hi : i = front.length) :
    p.get i = some x := by
  subst hi
  rw [Pool.get, if_pos hlive, hansi, List.getElem?_append_right (Nat.le_refl _), Nat.sub_self]
  rfl

/-- An entry is written. -/
theorem set_append {front tail : List AnsiString} {x : AnsiString} {i : Nat} (e : AnsiString)
    (hlive : .ansi ∈ p.live) (hansi : p.ansi = front ++ x :: tail) (hi : i = front.length) :
    p.set i e = some { p with ansi := front ++ e :: tail } := by
  subst hi
  have hlt : front.length < p.ansi.length := by
    rw [hansi, List.length_append, List.length_cons]; omega
  rw [Pool.set, if_pos ⟨hlive, hlt⟩, hansi, List.set_append_right _ _ (Nat.le_refl _),
    Nat.sub_self, List.set_cons_zero]

/-- A block that has been zeroed gets what fits. -/
theorem copy_append {front : List (List UInt8)} {text : List UInt8} {i size : Nat}
    (hlive : .buffer i ∈ p.live) (hbuffers : p.buffers = front ++ [List.replicate size 0])
    (hi : i = front.length) (hroom : text.length ≤ size) : p.copy i text =
      some { p with buffers := front ++ [text ++ List.replicate (size - text.length) 0] } := by
  subst hi
  have hblock : p.buffers[front.length]? = some (List.replicate size 0) := by
    rw [hbuffers, List.getElem?_append_right (Nat.le_refl _), Nat.sub_self]
    rfl
  have hroom' : text.length ≤ (List.replicate size (0 : UInt8)).length := by
    rwa [List.length_replicate]
  rw [Pool.copy, hblock, Option.bind_eq_bind, Option.bind_some, if_pos ⟨hlive, hroom'⟩,
    List.drop_replicate, hbuffers, List.set_append_right _ _ (Nat.le_refl _), Nat.sub_self,
    List.set_cons_zero]

/-- The pool with one more block, and an entry for it. -/
def Pool.withEntry (front tail : List AnsiString) (e : AnsiString) (block : List UInt8) (p : Pool) :
    Pool :=
  { p with
    ansi := front ++ e :: tail
    buffers := p.buffers ++ [block]
    live := .buffer p.buffers.length :: p.live }

/-- **A block is taken for an entry, gets its text, and the entry its length.** -/
theorem withEntry_steps {front tail : List AnsiString} {x : AnsiString} {text : List UInt8}
    {i size : Nat} (hlive : .ansi ∈ p.live) (hansi : p.ansi = front ++ x :: tail)
    (hi : i = front.length) (hroom : text.length ≤ size) (e e' : AnsiString) :
    (p.newBuffer size).set i e = some (p.withEntry front tail e (List.replicate size 0)) ∧
      (p.withEntry front tail e (List.replicate size 0)).copy p.buffers.length text =
        some (p.withEntry front tail e (text ++ List.replicate (size - text.length) 0)) ∧
      (p.withEntry front tail e (text ++ List.replicate (size - text.length) 0)).set i e' =
        some (p.withEntry front tail e' (text ++ List.replicate (size - text.length) 0)) := by
  have hansi' : Block.ansi ∈ (p.newBuffer size).live := List.mem_cons_of_mem _ hlive
  refine ⟨set_append e hansi' hansi hi, ?_, set_append e' hansi' rfl hi⟩
  exact copy_append (p := p.withEntry front tail e (List.replicate size 0)) List.mem_cons_self rfl
    rfl hroom

theorem Filled.get (h : Filled done (left + 1) p) : p.get done.length = some ⟨0, 0, none⟩ :=
  get_append (h.live ▸ ansi_mem_blocks _) h.ansi length_entries.symm

theorem unwind_entries {tail : List AnsiString} (hlive : p.live = blocks done.length)
    (hansi : p.ansi = entries done ++ tail) :
    unwind done.length p = some { p with live := [] } :=
  unwind_append hlive hansi length_entries.symm fun _ hi => getElem?_entries hi

theorem Filled.set (h : Filled done (left + 1) p) (e : AnsiString) : p.set done.length e =
    some { p with ansi := entries done ++ e :: List.replicate left ⟨0, 0, none⟩ } :=
  set_append e (h.live ▸ ansi_mem_blocks _) h.ansi length_entries.symm

/-- A name fits a `USHORT`, with its NUL. -/
theorem length_mod (hlength : k.length < 65535) :
    k.length % 2 ^ 32 = k.length ∧ (k.length + 1) % 2 ^ 32 = k.length + 1 ∧
      k.length % 2 ^ 16 = k.length ∧ (k.length + 1) % 2 ^ 16 = k.length + 1 := by
  omega

/-- There is no block for a name: everything is given back. -/
theorem ansiLoop_refused (h : Filled done (left + 1) p) (hk : 0 ∉ k) (hlength : k.length < 65535)
    (hanswer : answers p.asked = false) (m : Nat) (buffer : List UInt8) :
    ∃ p', ansiLoop answers (m + 1) done.length (k ++ 0 :: buffer) p = some (false, p') ∧
      p'.live = [] ∧ p'.failed = true := by
  obtain ⟨h32, hsize, -, h16⟩ := length_mod hlength
  rw [ansiLoop, strlen_append hk]
  simp only [Option.bind_eq_bind, Option.bind_some, h.get, h.set, h32, h16, Pool.allocate, hsize,
    Nat.add_one_ne_zero, if_false, hanswer, Bool.false_eq_true]
  refine ⟨_, congrArg (Option.map _) (unwind_entries ?_ rfl), ?_, ?_⟩
  · exact h.live
  · rfl
  · rfl

/-- There is one: it has the name and its NUL. -/
theorem ansiLoop_granted (h : Filled done (left + 1) p) (hk : 0 ∉ k) (hlength : k.length < 65535)
    (hanswer : answers p.asked = true) (m : Nat) (buffer : List UInt8) :
    ∃ p', ansiLoop answers (m + 1) done.length (k ++ 0 :: buffer) p =
        ansiLoop answers m (done ++ [k]).length buffer p' ∧ Filled (done ++ [k]) left p' := by
  obtain ⟨h32, hsize, hlen16, h16⟩ := length_mod hlength
  have htext : (k ++ 0 :: buffer).take k.length = k := List.take_left
  have hdrop : (k ++ 0 :: buffer).drop (k.length + 1) = buffer := by
    rw [List.append_cons]; exact List.drop_left' (by simp)
  have hcount : p.buffers.length = done.length := by rw [h.buffers, List.length_map]
  have hlive : p.live = blocks done.length := h.live
  rw [ansiLoop, strlen_append hk]
  simp only [Option.bind_eq_bind, Option.bind_some, h.get, h.set, h32, h16, Pool.allocate, hsize,
    Nat.add_one_ne_zero, if_false, hanswer, if_true, htext, hdrop, hlen16]
  generalize hq : Pool.mk (entries done ++ _ :: _) p.buffers p.live (p.asked + 1) p.failed = q
  have hansi : q.ansi =
      entries done ++ ⟨0, k.length + 1, none⟩ :: List.replicate left ⟨0, 0, none⟩ := by rw [← hq]
  have hmem : Block.ansi ∈ q.live := by
    rw [← hq]
    exact hlive ▸ ansi_mem_blocks _
  have hroom : k.length ≤ k.length + 1 := Nat.le_succ _
  obtain ⟨hbuffer, hcopy, hset⟩ := withEntry_steps hmem hansi length_entries.symm hroom
    ⟨0, k.length + 1, some p.buffers.length⟩ ⟨k.length, k.length + 1, some p.buffers.length⟩
  have hbuffers : q.buffers = p.buffers := by rw [← hq]
  rw [hbuffers] at hcopy
  rw [hbuffer, Option.bind_some, hcopy, Option.bind_some, hset, Option.bind_some,
    List.length_append, Nat.add_sub_cancel_left]
  refine ⟨_, rfl, ?_, ?_, ?_, ?_⟩
  · rw [entries_append, ← hcount, List.append_assoc]
    rfl
  · show q.buffers ++ _ = _
    rw [hbuffers, h.buffers, List.map_append]
    rfl
  · show Block.buffer q.buffers.length :: q.live = _
    rw [hbuffers, hcount, ← hq, List.length_append, hlive]
    rfl
  · show q.failed = false
    rw [← hq]
    exact h.failed

/-- **The second loop copies all the names**, or gives everything back. -/
theorem ansiLoop_names (answers : Nat → Bool) (names : List (List UInt8)) (left : Nat)
    (h : Filled done (names.length + left) p)
    (hnames : ∀ k ∈ names, 0 ∉ k ∧ k.length < 65535) (buffer : List UInt8) :
    ∃ ok p', ansiLoop answers names.length done.length (names.flatMap (· ++ [0]) ++ buffer) p =
        some (ok, p') ∧
      (ok = true → Filled (done ++ names) left p') ∧
      (ok = false → p'.live = [] ∧ p'.failed = true) := by
  induction names generalizing done p with
  | nil =>
      refine ⟨true, p, rfl, fun _ => ?_, nofun⟩
      rw [List.append_nil]
      rwa [List.length_nil, Nat.zero_add] at h
  | cons k names ih =>
      obtain ⟨hk, hlength⟩ := hnames k List.mem_cons_self
      rw [List.length_cons, Nat.add_right_comm] at h
      have hbuffer : (k :: names).flatMap (· ++ [0]) ++ buffer =
          k ++ 0 :: (names.flatMap (· ++ [0]) ++ buffer) := by simp
      rw [hbuffer, List.length_cons]
      cases hanswer : answers p.asked with
      | false =>
          obtain ⟨p', hp', hback⟩ := ansiLoop_refused h hk hlength hanswer names.length
            (names.flatMap (· ++ [0]) ++ buffer)
          exact ⟨false, p', hp', nofun, fun _ => hback⟩
      | true =>
          obtain ⟨p', hp', hfilled⟩ := ansiLoop_granted h hk hlength hanswer names.length
            (names.flatMap (· ++ [0]) ++ buffer)
          rw [hp']
          obtain ⟨ok, p'', hrun, hrest⟩ :=
            ih hfilled fun k hk => hnames k (List.mem_cons_of_mem _ hk)
          rw [List.append_assoc] at hrest
          exact ⟨ok, p'', hrun, hrest⟩

/-- An array that is too short is overrun. -/
theorem ansiLoop_overrun (answers : Nat → Bool) (h : Filled done left p)
    (hanswers : ∀ n, answers n = true) (hnames : ∀ k ∈ names, 0 ∉ k ∧ k.length < 65535)
    (hleft : left < names.length) (buffer : List UInt8) :
    ansiLoop answers names.length done.length (names.flatMap (· ++ [0]) ++ buffer) p = none := by
  induction names generalizing done p left with
  | nil => exact absurd hleft (Nat.not_lt_zero _)
  | cons k names ih =>
      obtain ⟨hk, hlength⟩ := hnames k List.mem_cons_self
      have hbuffer : (k :: names).flatMap (· ++ [0]) ++ buffer =
          k ++ 0 :: (names.flatMap (· ++ [0]) ++ buffer) := by simp
      rw [hbuffer, List.length_cons]
      cases left with
      | zero =>
          have hget : p.get done.length = none := by
            rw [Pool.get, h.ansi, List.replicate_zero, List.append_nil,
              List.getElem?_eq_none (Nat.le_of_eq length_entries), ite_self]
          rw [ansiLoop, strlen_append hk, hget]
          rfl
      | succ left =>
          obtain ⟨p', hp', hfilled⟩ := ansiLoop_granted h hk hlength (hanswers _) names.length
            (names.flatMap (· ++ [0]) ++ buffer)
          rw [hp']
          exact ih hfilled (fun k hk => hnames k (List.mem_cons_of_mem _ hk))
            (Nat.lt_of_succ_lt_succ hleft)

end Split

/-! ## 4. What comes of it -/

/-- **What is returned for these names**: an entry for each of them, with a block of its own, and
    an entry with a `NULL` buffer behind them. -/
structure Listed (names : List (List UInt8)) (p : Pool) : Prop where
  entries : p.ansi.map (fun e => (e.length, e.maximumLength, p.text e)) =
    names.map (fun k => (k.length, k.length + 1, some (k.map toupper ++ [0]))) ++ [(0, 0, none)]
  own : p.ansi.map (·.buffer) = (List.range names.length).map some ++ [none]
  live : p.live = blocks names.length

/-- **However the allocations come out**, the function ends without reading or writing outside; it
    returns what is to be returned just where no allocation has failed, and has given everything
    back where one has. -/
def Correct (names : List (List UInt8)) : Prop :=
  ∀ answers, ∃ ok p, fdoMultiSzToUpcaseAnsi answers (multiSz names) = some (ok, p) ∧
    (ok = true ↔ p.failed = false) ∧ (ok = true → Listed names p) ∧ (ok = false → p.live = [])

/-- `LONG Index` comes to the last NUL, and the size of the array to `ULONG Length`; an array of no
    bytes is refused. -/
def Fits (names : List (List UInt8)) : Prop :=
  (multiSz names).length ≤ 2 ^ 31 ∧
    (16 * (names.length + 1) < 2 ^ 32 ∨ 16 * (names.length + 1) % 2 ^ 32 = 0)

section Whole

variable {names : List (List UInt8)} {p : Pool}

theorem Filled.listed (h : Filled (names.map (·.map toupper)) 1 p) : Listed names p where
  entries := by
    have htext (e : List UInt8 × Nat) (he : e ∈ (names.map (·.map toupper)).zipIdx) :
        (e.1.length, e.1.length + 1, p.text ⟨e.1.length, e.1.length + 1, some e.2⟩) =
          (e.1.length, e.1.length + 1, some (e.1 ++ [0])) := by
      have hget := List.mem_zipIdx_iff_getElem?.mp he
      rw [Pool.text, Option.bind_some, h.buffers, List.getElem?_map, hget]
      rfl
    rw [h.ansi, List.map_append, MultiSz.entries, List.map_map]
    refine congrArg₂ (· ++ ·) ((List.map_congr_left htext).trans ?_) rfl
    rw [show (fun e : List UInt8 × Nat => (e.1.length, e.1.length + 1, some (e.1 ++ [0]))) =
      (fun k => (k.length, k.length + 1, some (k ++ [0]))) ∘ Prod.fst from rfl, ← List.map_map,
      List.zipIdx_map_fst, List.map_map]
    exact List.map_congr_left fun k _ => by simp
  own := by
    rw [h.ansi, List.map_append, MultiSz.entries, List.map_map]
    refine congrArg₂ (· ++ ·) ?_ rfl
    rw [show ((·.buffer) ∘ fun x : List UInt8 × Nat =>
      (⟨x.1.length, x.1.length + 1, some x.2⟩ : AnsiString)) = some ∘ Prod.snd from rfl,
      ← List.map_map, List.zipIdx_map_snd, List.length_map, List.range_eq_range']
  live := by rw [h.live, List.length_map]

/-- Names that are copied have no NUL, and fit with one. -/
theorem upcase_ok (h : ∀ k ∈ names, k ≠ [] ∧ 0 ∉ k ∧ k.length < 65535) :
    ∀ k ∈ names.map (·.map toupper), 0 ∉ k ∧ k.length < 65535 := by
  intro k' hk'
  obtain ⟨k, hk, rfl⟩ := List.mem_map.mp hk'
  obtain ⟨-, hnul, hlength⟩ := h k hk
  exact ⟨zero_notMem_upcase hnul, by rwa [List.length_map]⟩

/-- The first loop, over the whole buffer. -/
theorem upcaseLoop_whole (hne : names ≠ []) (h : ∀ k ∈ names, k ≠ [] ∧ 0 ∉ k ∧ k.length < 65535) :
    upcaseLoop (multiSz names) 0 0 =
      if (multiSz names).length ≤ 2 ^ 31 then
        some (multiSz (names.map (·.map toupper)), names.length)
      else none := by
  rw [upcaseLoop_multiSz hne (fun k hk => ⟨(h k hk).1, (h k hk).2.1⟩) (by omega) (Nat.le_refl 0),
    Nat.zero_add, Nat.zero_add]

/-- The array that has been zeroed. -/
theorem filled_newAnsi (size asked : Nat) :
    Filled [] (size / 16) (Pool.newAnsi size ⟨[], [], [], asked, false⟩) :=
  ⟨rfl, rfl, rfl, rfl⟩

/-- **What fits comes out right.** -/
theorem Fits.correct (hfits : Fits names) (hne : names ≠ [])
    (h : ∀ k ∈ names, k ≠ [] ∧ 0 ∉ k ∧ k.length < 65535) : Correct names := by
  intro answers
  rw [fdoMultiSzToUpcaseAnsi, upcaseLoop_whole hne h, if_pos hfits.1]
  simp only [Option.bind_eq_bind, Option.bind_some, Pool.allocate]
  by_cases hzero : 16 * (names.length + 1) % 2 ^ 32 = 0
  · rw [if_pos hzero]
    exact ⟨false, _, rfl, by decide, nofun, fun _ => rfl⟩
  · have hsize : 16 * (names.length + 1) % 2 ^ 32 = 16 * (names.length + 1) :=
      Nat.mod_eq_of_lt (hfits.2.resolve_right hzero)
    rw [if_neg hzero, hsize]
    cases hanswer : answers Pool.init.asked with
    | false => exact ⟨false, _, rfl, by decide, nofun, fun _ => rfl⟩
    | true =>
        have hfilled := filled_newAnsi (16 * (names.length + 1)) 1
        rw [Nat.mul_div_cancel_left _ (by decide)] at hfilled
        obtain ⟨ok, p, hrun, hlisted, hback⟩ := ansiLoop_names answers (names.map (·.map toupper)) 1
          (by rwa [List.length_map]) (upcase_ok h) [0]
        rw [List.length_map] at hrun
        refine ⟨ok, p, hrun, ?_, fun hok => (hlisted hok).listed, fun hok => (hback hok).1⟩
        cases ok with
        | true => exact iff_of_true rfl (hlisted rfl).failed
        | false => exact iff_of_false nofun (by rw [(hback rfl).2]; nofun)

/-- **What does not fit goes wrong** where every allocation succeeds: `LONG Index` overflows, or
    the array is overrun. -/
theorem Correct.fits (hcorrect : Correct names) (hne : names ≠ [])
    (h : ∀ k ∈ names, k ≠ [] ∧ 0 ∉ k ∧ k.length < 65535) : Fits names := by
  obtain ⟨ok, p, hrun, -⟩ := hcorrect fun _ => true
  rw [fdoMultiSzToUpcaseAnsi, upcaseLoop_whole hne h] at hrun
  by_cases hroom : (multiSz names).length ≤ 2 ^ 31
  · refine ⟨hroom, ?_⟩
    by_contra hnot
    obtain ⟨hlarge, hsize⟩ := not_or.mp hnot
    rw [if_pos hroom] at hrun
    simp only [Option.bind_eq_bind, Option.bind_some, Pool.allocate, if_neg hsize, if_true] at hrun
    have hover := ansiLoop_overrun (fun _ => true)
      (filled_newAnsi (16 * (names.length + 1) % 2 ^ 32) 1) (fun _ => rfl) (upcase_ok h)
      (by rw [List.length_map]; omega) [0]
    rw [List.length_map] at hover
    exact absurd (hover.symm.trans hrun) nofun
  · rw [if_neg hroom] at hrun
    cases hrun

end Whole

/-- **The buffers that come out right are those that fit**: the loops agree about the names, and
    the array has its last entry, as long as `LONG` and `ULONG` have room for them. -/
theorem correct_iff_fits (names : List (List UInt8)) (hne : names ≠ [])
    (h : ∀ k ∈ names, k ≠ [] ∧ 0 ∉ k ∧ k.length < 65535) : Correct names ↔ Fits names :=
  ⟨fun hcorrect => hcorrect.fits hne h, fun hfits => hfits.correct hne h⟩

theorem correct_iff_fits_two :
    Correct [[99, 111, 110], [48]] ↔ Fits [[99, 111, 110], [48]] :=
  correct_iff_fits [[99, 111, 110], [48]] (by decide) (by decide)

/-- The array of 2²⁸ + 1 entries gets 16 bytes. -/
theorem incorrect_of_many_names :
    ¬ ∀ names : List (List UInt8), names ≠ [] →
      (∀ k ∈ names, k ≠ [] ∧ 0 ∉ k ∧ k.length < 65535) → Correct names := by
  intro hall
  have h : ∀ k ∈ List.replicate (2 ^ 28) [(97 : UInt8)], k ≠ [] ∧ 0 ∉ k ∧ k.length < 65535 := by
    intro k hk
    rw [List.eq_of_mem_replicate hk]
    decide
  have hne : List.replicate (2 ^ 28) [(97 : UInt8)] ≠ [] := by
    intro e
    have := congrArg List.length e
    rw [List.length_replicate] at this
    cases this
  have hfits := ((hall _ hne h).fits hne h).2
  rw [List.length_replicate] at hfits
  omega

/-! ## 5. What the scan goes on with -/

/-- `__FdoFreeAnsi`, with how many entries the array still has. -/
def freeLoop : Nat → Nat → Pool → Option Pool
  | 0, _, _ => none
  | left + 1, index, p => do
    let e ← p.get index
    match e.buffer with
    | none => p.free .ansi
    | some k => do
      let p ← p.free (.buffer k)
      freeLoop left (index + 1) p

def fdoFreeAnsi (p : Pool) : Option Pool := freeLoop p.ansi.length 0 p

section Free

variable {names : List (List UInt8)} {p : Pool}

/-- What is live while the blocks from `index` on have not been freed. -/
def blocksFrom (index left : Nat) : List Block :=
  (List.range' index left).reverse.map .buffer ++ [.ansi]

theorem blocks_eq (k : Nat) : blocks k = blocksFrom 0 k := by
  induction k with
  | zero => rfl
  | succ k ih =>
      rw [blocks, ih, blocksFrom, blocksFrom, List.range'_concat, List.reverse_append]
      simp

theorem erase_blocksFrom (index left : Nat) :
    (blocksFrom index (left + 1)).erase (.buffer index) = blocksFrom (index + 1) left := by
  have hnot : Block.buffer index ∉ (List.range' (index + 1) left).reverse.map Block.buffer := by
    intro h
    obtain ⟨k, hk, e⟩ := List.mem_map.mp h
    obtain rfl := Block.buffer.inj e
    have := (List.mem_range'_1.mp (List.mem_reverse.mp hk)).1
    omega
  rw [blocksFrom, List.range'_succ, List.reverse_cons, List.map_append, List.append_assoc,
    List.erase_append_right _ hnot, List.map_singleton, List.singleton_append,
    List.erase_cons_head]
  rfl

theorem freeLoop_blocks (left : Nat) {index : Nat} (hlive : p.live = blocksFrom index left)
    (hblocks : ∀ k < left, (p.ansi[index + k]?).map (·.buffer) = some (some (index + k)))
    (hlast : (p.ansi[index + left]?).map (·.buffer) = some none) :
    freeLoop (left + 1) index p = some { p with live := [] } := by
  have hansi : Block.ansi ∈ p.live := by
    rw [hlive]; exact List.mem_append_right _ List.mem_cons_self
  induction left generalizing index p with
  | zero =>
      obtain ⟨e, he, hbuffer⟩ := Option.map_eq_some_iff.mp hlast
      have hget : p.get index = some e := by rw [Pool.get, if_pos hansi]; exact he
      rw [freeLoop, hget, Option.bind_eq_bind, Option.bind_some, hbuffer]
      simp [Pool.free, hlive, blocksFrom]
  | succ left ih =>
      obtain ⟨e, he, hbuffer⟩ := Option.map_eq_some_iff.mp (hblocks 0 (Nat.succ_pos left))
      have hget : p.get index = some e := by rw [Pool.get, if_pos hansi]; exact he
      have hmem : Block.buffer index ∈ p.live := by
        rw [hlive]
        refine List.mem_append_left _ (List.mem_map_of_mem ?_)
        exact List.mem_reverse.mpr (List.mem_range'_1.mpr ⟨Nat.le_refl _, by omega⟩)
      have hfree : p.free (.buffer index) =
          some { p with live := blocksFrom (index + 1) left } := by
        rw [Pool.free, if_pos hmem, hlive, erase_blocksFrom]
      rw [freeLoop, hget, Option.bind_eq_bind, Option.bind_some, hbuffer]
      show (p.free (.buffer index)).bind _ = _
      rw [hfree, Option.bind_some]
      refine ih rfl (fun k hk => ?_) ?_ (List.mem_append_right _ List.mem_cons_self)
      · rw [Nat.add_right_comm]; exact hblocks (k + 1) (Nat.succ_lt_succ hk)
      · rw [Nat.add_right_comm]; exact hlast

/-- **The entry that nobody has written ends `__FdoFreeAnsi`**: it gives back every block once. -/
theorem Listed.free (h : Listed names p) : fdoFreeAnsi p = some { p with live := [] } := by
  have hlength : p.ansi.length = names.length + 1 := by
    have := congrArg List.length h.own
    simpa using this
  have hget (i : Nat) : (p.ansi[i]?).map (·.buffer) =
      ((List.range names.length).map some ++ [none])[i]? := by
    rw [← h.own, List.getElem?_map]
  rw [fdoFreeAnsi, hlength]
  refine freeLoop_blocks names.length (h.live.trans (blocks_eq _)) (fun k hk => ?_) ?_
  · rw [hget, List.getElem?_append_left (by simpa using hk)]
    simp [hk]
  · rw [hget, List.getElem?_append_right (by simp)]
    simp

end Free

section Directory

variable {names : List (List UInt8)} {p : Pool}

def toChar (c : UInt8) : Char := Char.ofNat c.toNat

/-- An entry with its characters, up to the NUL. -/
def Pool.view (p : Pool) (e : AnsiString) : Xencons.AnsiString :=
  ⟨((p.text e).getD []).dropLast.map toChar, e.length⟩

theorem toChar_toupper (c : UInt8) : toChar (toupper c) = Xencons.toupper (toChar c) := by
  have hall : ∀ n < 256, toChar (toupper (UInt8.ofNat n)) =
      Xencons.toupper (toChar (UInt8.ofNat n)) := by decide +kernel
  have h := hall c.toNat c.toNat_lt
  rwa [UInt8.ofNat_toNat] at h

theorem toChar_ne_NUL {c : UInt8} (h : c ≠ 0) : toChar c ≠ NUL := by
  have hall : ∀ n < 256, n ≠ 0 → Char.ofNat n ≠ NUL := by decide +kernel
  exact hall c.toNat c.toNat_lt fun e => h (UInt8.toNat_inj.mp e)

/-- **What is returned is what a scan reads.** -/
theorem Listed.directory (h : Listed names p) (hne : names ≠ [])
    (hnames : ∀ k ∈ names, k ≠ [] ∧ 0 ∉ k ∧ k.length < 65535) :
    Xencons.fdoMultiSzToUpcaseAnsi (Xencons.multiSz (names.map (·.map toChar))) true =
      some (p.ansi.dropLast.map p.view) := by
  have hkeys : ∀ k ∈ names.map (·.map toChar), k ≠ [] ∧ NUL ∉ k := by
    intro k' hk'
    obtain ⟨k, hk, rfl⟩ := List.mem_map.mp hk'
    obtain ⟨hne', hnul, -⟩ := hnames k hk
    refine ⟨by simpa using hne', fun hmem => ?_⟩
    obtain ⟨c, hc, e⟩ := List.mem_map.mp hmem
    exact toChar_ne_NUL (fun e' => hnul (e' ▸ hc)) e
  rw [fdoMultiSzToUpcaseAnsi_multiSz (by simpa using hne) hkeys, Option.some.injEq, List.map_map]
  -- both are read off the triples
  let read : Nat × Nat × Option (List UInt8) → Xencons.AnsiString :=
    fun x => ⟨(x.2.2.getD []).dropLast.map toChar, x.1⟩
  have hview : p.ansi.map p.view =
      (p.ansi.map fun e => (e.length, e.maximumLength, p.text e)).map read := by
    rw [List.map_map]; rfl
  rw [List.map_dropLast, hview, h.entries, List.map_append, List.map_singleton,
    List.dropLast_concat, List.map_map]
  refine List.map_congr_left fun k hk => ?_
  have h16 : k.length % 2 ^ 16 = k.length :=
    Nat.mod_eq_of_lt (Nat.lt_trans (hnames k hk).2.2 (by decide))
  have hchars : (k.map toChar).map Xencons.toupper = (k.map toupper).map toChar := by
    rw [List.map_map, List.map_map]
    exact List.map_congr_left fun c _ => (toChar_toupper c).symm
  show Xencons.AnsiString.ofName _ = ⟨((k.map toupper ++ [0]).dropLast).map toChar, k.length⟩
  rw [Xencons.AnsiString.ofName, hchars, List.dropLast_concat, List.length_map, List.length_map,
    h16]

end Directory

end Xencons.MultiSz
