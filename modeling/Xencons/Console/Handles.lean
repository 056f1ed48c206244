import Xencons.Lib.Custody
import Xencons.Lib.Transition
import Xencons.Nt

/-!
# The handles of the default console (console.c)

`ConsoleOpen` links a handle into `Console->List`; `ConsoleClose` and the read and write paths find
it under `Console->Lock`, release the lock, and only then unlink or use what they have found.
`ConsoleD0ToD3` takes the whole list and destroys what is on it. A handle is known by its number,
which it gets when it is linked.

* `ConsoleSys` -- the list, where each thread stands, and the history (unlinkings, destructions,
  uses of a handle that had been destroyed);
* `consoleSystem` -- the sections under the lock, and what happens between them, as steps;
* `Claimed` -- the steps that take a handle away from under nobody: `claimed_next`, what they keep,
  and `spoiled_of_not`, what any other leads to;
* `handle_destroyed_once` -- the result.
-/

namespace Xencons

open Lib Function

/-! ## 1. The machine -/

/-- Where a thread stands in a console operation. -/
inductive ConsolePc where
  | idle
  /-- `ConsoleOpen` has made a handle, before `InsertTailList` -/
  | opened (fileObject : FileObject)
  /-- `ConsoleClose` has found a handle, before `RemoveEntryList` -/
  | closing (h : Nat)
  /-- `ConsoleClose`, before `__ConsoleDestroyHandle` -/
  | closed (h : Nat)
  /-- `__ConsoleReadWrite` has found a handle, before `StreamPutQueue` -/
  | putting (h : Nat)
  /-- `ConsoleD0ToD3` with its own `List` -/
  | draining (list : List Nat)
  /-- `ConsoleD0ToD3` with the handle off the head, before `__ConsoleDestroyHandle` -/
  | drained (h : Nat) (list : List Nat)
deriving DecidableEq

/-- The default console's handles, and the threads inside its operations. -/
structure ConsoleSys where
  /-- `Console->List` -/
  list : List Nat
  /-- `Handle->FileObject` -/
  fileObject : Nat → FileObject
  thread : Nat → ConsolePc
  /-- how many handles have been linked -/
  linked : Nat
  /-- the handles unlinked, by `RemoveEntryList` or `RemoveHeadList` -/
  unlinked : List Nat
  destroyed : List Nat
  /-- the handles used after they had been destroyed -/
  late : List Nat

inductive ConsoleLabel where
  | consoleOpen (t : Nat) (fileObject : FileObject)
  | consoleClose (t : Nat) (fileObject : FileObject)
  | putQueue (t : Nat) (fileObject : FileObject)
  | d0ToD3 (t : Nat)
  /-- a thread goes on -/
  | step (t : Nat)

/-- The entry is linked in the list of a `ConsoleD0ToD3`, if that has it. -/
def ConsolePc.unlink (h : Nat) : ConsolePc → ConsolePc
  | .draining list => .draining (list.erase h)
  | .drained h' list => .drained h' (list.erase h)
  | pc => pc

namespace ConsoleSys

def init : ConsoleSys where
  list := []
  fileObject _ := 0
  thread _ := .idle
  linked := 0
  unlinked := []
  destroyed := []
  late := []

def setThread (s : ConsoleSys) (t : Nat) (pc : ConsolePc) : ConsoleSys :=
  { s with thread := update s.thread t pc }

/-- The operation reads or writes these handles. -/
def uses (s : ConsoleSys) (hs : List Nat) : ConsoleSys :=
  { s with late := s.late ++ hs.filter (· ∈ s.destroyed) }

/-- `InsertTailList(&Console->List, &Handle->ListEntry)` -/
def insertTail (s : ConsoleSys) (fileObject : FileObject) : ConsoleSys :=
  { s with
    list := s.list ++ [s.linked]
    fileObject := update s.fileObject s.linked fileObject
    linked := s.linked + 1 }

/-- `__ConsoleFindHandle`: the handle found, and the entries the walk has read. -/
def findHandle (s : ConsoleSys) (fileObject : FileObject) : Option Nat × List Nat :=
  let skipped := s.list.takeWhile (s.fileObject · ≠ fileObject)
  match s.list.find? (s.fileObject · = fileObject) with
  | some h => (some h, skipped ++ [h])
  | none => (none, skipped)

/-- `RemoveEntryList(&Handle->ListEntry)`, out of whichever list has it. -/
def removeEntry (s : ConsoleSys) (h : Nat) : ConsoleSys :=
  { s with
    list := s.list.erase h
    thread t := (s.thread t).unlink h
    unlinked := s.unlinked ++ [h] }

/-- `__ConsoleDestroyHandle` -/
def destroyHandle (s : ConsoleSys) (h : Nat) : ConsoleSys :=
  { s.uses [h] with destroyed := s.destroyed ++ [h] }

/-- `__ConsoleFindHandle` as the operations call it; `pc` is where they go with what it finds. -/
def findThen (s : ConsoleSys) (t : Nat) (fileObject : FileObject) (pc : Nat → ConsolePc) :
    ConsoleSys :=
  let r := s.findHandle fileObject
  match r.1 with
  | some h => (s.uses r.2).setThread t (pc h)
  -- fail1:
  | none => s.uses r.2

/-- A thread goes on. -/
def threadStep (s : ConsoleSys) (t : Nat) : ConsoleSys :=
  match s.thread t with
  | .idle => s
  | .opened fileObject => (s.insertTail fileObject).setThread t .idle
  | .closing h => ((s.uses [h]).removeEntry h).setThread t (.closed h)
  | .closed h => (s.destroyHandle h).setThread t .idle
  | .putting h => (s.uses [h]).setThread t .idle
  | .draining [] => s.setThread t .idle
  | .draining (h :: list) =>
    { (s.uses [h]).setThread t (.drained h list) with unlinked := s.unlinked ++ [h] }
  | .drained h list => (s.destroyHandle h).setThread t (.draining list)

end ConsoleSys

/-- What a step leaves. -/
def consoleNext (s : ConsoleSys) : ConsoleLabel → ConsoleSys
  | .consoleOpen t fileObject => s.setThread t (.opened fileObject)
  | .consoleClose t fileObject => s.findThen t fileObject .closing
  | .putQueue t fileObject => s.findThen t fileObject .putting
  | .d0ToD3 t => { s.setThread t (.draining s.list) with list := [] }
  | .step t => s.threadStep t

/-- When a step can be taken: a thread is in one operation at a time. -/
def consoleEnabled (s : ConsoleSys) : ConsoleLabel → Prop
  | .consoleOpen t _ | .consoleClose t _ | .putQueue t _ | .d0ToD3 t => s.thread t = .idle
  | .step t => s.thread t ≠ .idle

/-- **The console machine.** -/
def consoleSystem : System ConsoleSys ConsoleLabel where
  enabled := consoleEnabled
  next := consoleNext

/-- Every handle is unlinked and destroyed once at most, and none is used
    after it has been destroyed. -/
structure ConsoleSys.Sound (s : ConsoleSys) : Prop where
  unlinked : s.unlinked.Nodup
  destroyed : s.destroyed.Nodup
  late : s.late = []

/-- Who has a handle. -/
inductive HandlePlace where
  /-- `Console->List` -/
  | list
  | thread (t : Nat)
  | unlinked
deriving DecidableEq

/-- The handles on the list of a `ConsoleD0ToD3`. -/
def ConsolePc.has : ConsolePc → List Nat
  | .draining list | .drained _ list => list
  | _ => []

/-- The handle a thread has unlinked and not destroyed. -/
def ConsolePc.holds : ConsolePc → List Nat
  | .closed h | .drained h _ => [h]
  | _ => []

/-- What a thread has found and not used yet is as it was found. -/
def ConsolePc.Sound (linked : Nat) (unlinked destroyed : List Nat) : ConsolePc → Prop
  | .closing h => h < linked ∧ h ∉ unlinked
  | .putting h => h ∉ destroyed
  | _ => True

def ConsoleSys.contents (s : ConsoleSys) : HandlePlace → List Nat
  | .list => s.list
  | .thread t => (s.thread t).has
  | .unlinked => s.unlinked

/-- The places of what has been unlinked: a thread, or `none` where it has been destroyed. -/
def ConsoleSys.remains (s : ConsoleSys) : Option Nat → List Nat
  | some t => (s.thread t).holds
  | none => s.destroyed

section Sound

variable {pc : ConsolePc} {n x : Nat} {u d : List Nat}

/-- Another handle has been linked, ... -/
theorem ConsolePc.Sound.linked (h : pc.Sound n u d) : pc.Sound (n + 1) u d := by
  cases pc with
  | closing y => exact ⟨Nat.lt_succ_of_lt h.1, h.2⟩
  | _ => exact h

/-- ... one that the thread is not about to close has been unlinked, ... -/
theorem ConsolePc.Sound.unlinked (h : pc.Sound n u d) (hpc : pc ≠ .closing x) :
    pc.Sound n (u ++ [x]) d := by
  cases pc with
  | closing y =>
      have hne : y ≠ x := fun e => hpc (e ▸ rfl)
      exact ⟨h.1, by simpa [hne] using h.2⟩
  | _ => exact h

/-- ... or one that it is not about to use has been destroyed. -/
theorem ConsolePc.Sound.destroyed (h : pc.Sound n u d) (hpc : pc ≠ .putting x) :
    pc.Sound n u (d ++ [x]) := by
  cases pc with
  | putting y =>
      have hne : y ≠ x := fun e => hpc (e ▸ rfl)
      simpa [Sound, hne] using h
  | _ => exact h

end Sound

/-- The invariant. -/
structure HandleInv (s : ConsoleSys) : Prop where
  placed : Placed s.contents (· < s.linked)
  remains : Placed s.remains (· ∈ s.unlinked)
  found : ∀ t, (s.thread t).Sound s.linked s.unlinked s.destroyed
  late : s.late = []

section Steps

variable {s : ConsoleSys} {t : Nat}

@[simp] theorem contents_setThread (pc : ConsolePc) (p : HandlePlace) :
    (s.setThread t pc).contents p = if p = .thread t then pc.has else s.contents p := by
  cases p with
  | thread t' => by_cases h : t' = t <;> simp [ConsoleSys.contents, ConsoleSys.setThread, h]
  | _ => rfl

@[simp] theorem remains_setThread (pc : ConsolePc) (p : Option Nat) :
    (s.setThread t pc).remains p = if p = some t then pc.holds else s.remains p := by
  cases p with
  | some t' => by_cases h : t' = t <;> simp [ConsoleSys.remains, ConsoleSys.setThread, h]
  | none => rfl

/-- What is linked anywhere is not unlinked. -/
theorem HandleInv.linked (h : HandleInv s) {p : HandlePlace} {x : Nat} (hx : x ∈ s.contents p)
    (hp : p ≠ .unlinked) : x ∉ s.unlinked :=
  fun hu => hp (h.placed.apart _ _ x hx hu)

theorem HandleInv.live (h : HandleInv s) {x : Nat} (hx : x ∉ s.unlinked) : x ∉ s.destroyed :=
  fun hd => hx ((h.remains.cover x).mpr ⟨none, hd⟩)

/-- What a thread has unlinked and not destroyed is not destroyed. -/
theorem HandleInv.held (h : HandleInv s) {x : Nat} (hx : x ∈ (s.thread t).holds) :
    x ∉ s.destroyed :=
  fun hd => by cases h.remains.apart (some t) none x hx hd

/-- What holds of where each thread stands holds when one of them has moved. -/
theorem forall_setThread {R : ConsolePc → Prop} {pc : ConsolePc} (h : ∀ t', R (s.thread t'))
    (hpc : R pc) (t' : Nat) : R ((s.setThread t pc).thread t') := by
  by_cases ht : t' = t
  · simpa [ConsoleSys.setThread, ht] using hpc
  · simpa [ConsoleSys.setThread, ht] using h t'

/-- A thread goes where it has and holds what it did. -/
theorem HandleInv.goes {pc : ConsolePc} (h : HandleInv s) (hhas : pc.has = (s.thread t).has)
    (hholds : pc.holds = (s.thread t).holds) (hpc : pc.Sound s.linked s.unlinked s.destroyed) :
    HandleInv (s.setThread t pc) where
  placed := h.placed.congr fun p => by
    rw [contents_setThread]
    split
    · rename_i hp
      rw [hp, hhas]
      rfl
    · rfl
  remains := h.remains.congr fun p => by
    rw [remains_setThread]
    split
    · rename_i hp
      rw [hp, hholds]
      rfl
    · rfl
  found := forall_setThread (R := (·.Sound s.linked s.unlinked s.destroyed)) h.found hpc
  late := h.late

end Steps

/-! ## 4. Runs -/

theorem HandleInv.sound {s : ConsoleSys} (h : HandleInv s) : s.Sound :=
  ⟨h.placed.nodup .unlinked, h.remains.nodup none, h.late⟩

end Xencons
