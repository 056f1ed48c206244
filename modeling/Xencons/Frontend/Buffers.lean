import Xencons.Frontend.Publish
import Xencons.Lib.Transition
import Xencons.Thread.Create

/-!
# The copies of name and protocol (frontend.c, util.h)

Where the handshake of `FrontendConnect` has been come through, it copies two nodes of the backend
into pool memory. Either node may be missing and either allocation may fail; `FrontendDisconnect`
frees both pointers whatever they are.

* `FrontendBuffers` -- the pool, and the two pointers;
* `frontendConnectNoted`, `frontendDisconnectNoted` -- the code, with the pool beside it:
  `erases_frontendConnect`, `erases_frontendDisconnect`;
* `Cycle`, `cycleSystem` -- a connect and a disconnect, and runs of them;
* `CycleRight`, `Copied` -- what a cycle is to do with the pool, and when it does;
* **`cycles_right_iff`** -- in every run.
-/

namespace Xencons

open Lib Proc

/-! ## 1. The pool, and the two pointers -/

structure FrontendBuffers where
  heap : Heap Object
  /-- `Frontend->Name` -/
  name : Pointer
  /-- `Frontend->Protocol` -/
  protocol : Pointer

namespace FrontendBuffers

/-- `Frontend->Name = __FrontendAllocate(Length + 1)` -/
def allocateName (granted : Bool) (m : FrontendBuffers) : FrontendBuffers :=
  let (name, heap) := m.heap.allocate .pool granted
  { m with name := name, heap := heap }

def allocateProtocol (granted : Bool) (m : FrontendBuffers) : FrontendBuffers :=
  let (protocol, heap) := m.heap.allocate .pool granted
  { m with protocol := protocol, heap := heap }

/-- `__FrontendFree(Frontend->Protocol)`, and the pointer is set to `NULL`. -/
def freeProtocol (m : FrontendBuffers) : FrontendBuffers :=
  { m with heap := m.heap.give .pool m.protocol, protocol := .null }

def freeName (m : FrontendBuffers) : FrontendBuffers :=
  { m with heap := m.heap.give .pool m.name, name := .null }

end FrontendBuffers

/-! ## 2. The code, with the pool -/

/-- A program on a frontend and its buffers. -/
abbrev OnBuffers (α : Type) := Proc Answer (Frontend × FrontendBuffers) α

/-- One of the two nodes. -/
def readCopyNoted (allocate : Bool → FrontendBuffers → FrontendBuffers) (old : Option String) :
    OnBuffers (Option String) := do
  let a ← ask
  if !a.status.ntSuccess then return old
  let b ← ask
  note (allocate b.granted)
  return if b.granted then some a.text else none

def connectCopiesNoted : OnBuffers NtStatus := do
  let f ← lift get
  let name ← readCopyNoted .allocateName f.name
  lift (modify fun f => { f with name := name })
  let f ← lift get
  let protocol ← readCopyNoted .allocateProtocol f.protocol
  lift (modify fun f => { f with protocol := protocol })
  return .success

/-- The handshake of `FrontendConnect`: `.inr` where it returns. -/
def connectAgree (fuel : Nat) : OnFrontend (Unit ⊕ NtStatus) := do
  let state ← handshake fuel .connected connectAnswer
  if state ≠ .connected then return .inr (← connectFail4 .unsuccessful)
  return .inl ()

/-- `FrontendConnect` up to the copies. -/
def connectUntilCopies (fuel : Nat) : OnFrontend (Unit ⊕ NtStatus) :=
  connectPublish >>= fun r =>
    match r with
    | .inl _ => connectAgree fuel
    | .inr status => pure (.inr status)

theorem frontendConnect_copies (fuel : Nat) :
    frontendConnect fuel = connectUntilCopies fuel >>= fun r =>
      match r with
      | .inl _ => connectCopies
      | .inr status => pure status := by
  rw [frontendConnect_eq, connectUntilCopies, bind_bind]
  congr 1
  funext r
  cases r with
  | inl _ =>
      simp only [connectHandshake, connectAgree, bind_bind, pure_then, then_pure, ite_bind]
  | inr status => rfl

/-- `FrontendConnect` -/
def frontendConnectNoted (fuel : Nat) : OnBuffers NtStatus :=
  lift (connectUntilCopies fuel) >>= fun r =>
    match r with
    | .inl _ => connectCopiesNoted
    | .inr status => pure status

/-- `FrontendDisconnect` -/
def frontendDisconnectNoted : OnBuffers Unit := do
  note .freeProtocol
  note .freeName
  lift frontendDisconnect

theorem erases_readCopy (allocate : Bool → FrontendBuffers → FrontendBuffers)
    (old : Option String) : Erases (readCopyNoted allocate old) (readCopy old) :=
  Erases.ask.bind fun _ => .ite .pure (Erases.ask.bind fun _ => .note .pure)

theorem erases_frontendConnect (fuel : Nat) :
    Erases (frontendConnectNoted fuel) (frontendConnect fuel) := by
  rw [frontendConnect_copies]
  refine (Erases.lift _).bind fun r => ?_
  cases r with
  | inl _ =>
      refine (Erases.lift _).bind fun f => (erases_readCopy _ _).bind fun name => ?_
      refine (Erases.lift _).bind fun _ => (Erases.lift _).bind fun f => ?_
      exact (erases_readCopy _ _).bind fun protocol => (Erases.lift _).bind fun _ => .pure
  | inr status => exact .pure

theorem erases_frontendDisconnect : Erases frontendDisconnectNoted frontendDisconnect :=
  .note (.note (.lift _))

/-! ## 3. Cycles -/

/-- A connect and a disconnect, with what is done with the frontend ahead of the one and between the
    two. -/
structure Cycle where
  fuel : Nat
  tape : Nat → Answer
  before : Frontend → Frontend
  between : Frontend → Frontend

/-- `FrontendConnect` succeeds. -/
def Cycle.connects (c : Cycle) (s : Frontend × FrontendBuffers) : Bool :=
  match frontendConnectNoted c.fuel c.tape 0 (c.before s.1, s.2) with
  | .returns (status, _) => status.ntSuccess
  | _ => false

/-- Where the two lead. -/
def Cycle.run (c : Cycle) (s : Frontend × FrontendBuffers) : Frontend × FrontendBuffers :=
  match frontendConnectNoted c.fuel c.tape 0 (c.before s.1, s.2) with
  | .returns (_, n, f, m) =>
    match frontendDisconnectNoted c.tape n (c.between f, m) with
    | .returns (_, _, s') => s'
    | _ => (f, m)
  | _ => s

/-- Cycles whose connect succeeds. -/
def cycleSystem : System (Frontend × FrontendBuffers) Cycle where
  enabled s c := c.connects s = true
  next s c := c.run s

/-- **What a cycle is to do with the pool**: free nothing that is not allocated, and all that it has
    allocated, and leave both pointers `NULL`. -/
structure CycleRight (s : Frontend × FrontendBuffers) (c : Cycle) : Prop where
  freed : (c.run s).2.heap.astray = s.2.heap.astray
  live : (c.run s).2.heap.live = s.2.heap.live
  name : (c.run s).2.name = .null ∧ (c.run s).1.name = none
  protocol : (c.run s).2.protocol = .null ∧ (c.run s).1.protocol = none

/-- The store answers both reads, and both allocations are granted. -/
def BothGranted (tape : Nat → Answer) (n : Nat) : Prop :=
  (tape n).status.ntSuccess = true ∧ (tape (n + 1)).granted = true ∧
    (tape (n + 2)).status.ntSuccess = true ∧ (tape (n + 3)).granted = true

/-- Both nodes are copied when the handshake has been come through. -/
def Copied (s : Frontend × FrontendBuffers) (c : Cycle) : Prop :=
  ∀ n f, connectUntilCopies c.fuel c.tape 0 (c.before s.1) = .returns (.inl (), n, f) →
    BothGranted c.tape n

/-! ## 4. One cycle -/

section Runs

variable {n : Nat} {tape : Nat → Answer} {f : Frontend} {m : FrontendBuffers}

/-- Every label of `FrontendConnect` returns an error. -/
theorem connectUntilCopies_fails (fuel : Nat) (f : Frontend) :
    (connectUntilCopies fuel).Ensures
      (fun r _ => ∀ status, r = .inr status → status.ntSuccess = false) f := by
  have fail2 {status : NtStatus} (f : Frontend) (hs : status.ntSuccess = false) :
      (connectFail2 status).Ensures (fun st _ => st.ntSuccess = false) f := by
    refine .modify_bind ?_
    exact .pure hs
  have fail3 {status : NtStatus} (f : Frontend) (hs : status.ntSuccess = false) :
      (connectFail3 status).Ensures (fun st _ => st.ntSuccess = false) f := by
    refine .modify_bind ?_
    exact fail2 _ hs
  have fail4 {status : NtStatus} (f : Frontend) (hs : status.ntSuccess = false) :
      (connectFail4 status).Ensures (fun st _ => st.ntSuccess = false) f := by
    refine .bind (onRing_spec ?_)
    exact .modify (fail3 _ hs)
  have publishes : connectPublish.Ensures
      (fun r _ => ∀ status, r = .inr status → status.ntSuccess = false) f := by
    refine .askOr (fun a no => .pure fun st he => ?_) fun a _ => .modify_bind ?_
    · cases he
      exact no
    refine .askOr (fun a no => ?_) fun a _ => .modify_bind ?_
    · refine .bind ((fail2 _ no).mono fun st _ hst => ?_)
      refine .pure fun st' he => ?_
      cases he
      exact hst
    refine .bind (onRing_spec ((ringConnect_returns _).mono fun status r _ => ?_))
    refine .ite (fun no => ?_) fun _ => ?_
    · refine .bind ((fail3 _ (by simpa using no)).mono fun st _ hst => ?_)
      refine .pure fun st' he => ?_
      cases he
      exact hst
    refine .bind (publish_spec.mono fun status f' _ => .ite (fun no => ?_) fun _ => .pure nofun)
    refine .bind ((fail4 _ (by simpa using no)).mono fun st _ hst => ?_)
    refine .pure fun st' he => ?_
    cases he
    exact hst
  refine .bind (publishes.mono fun r f' hr => ?_)
  cases r with
  | inr status => exact .pure fun st he => hr st (by cases he; rfl)
  | inl _ =>
      refine .bind ((keeps_handshake fuel .connected (keeps_connectAnswer settled_settled) f').mono
        fun state f'' _ => .ite (fun _ => ?_) fun _ => .pure nofun)
      refine .bind ((fail4 _ rfl).mono fun st _ hst => ?_)
      refine .pure fun st' he => ?_
      cases he
      exact hst

/-- A read that is granted. -/
theorem readCopyNoted_granted (allocate : Bool → FrontendBuffers → FrontendBuffers)
    (old : Option String) (f : Frontend) (m : FrontendBuffers)
    (hs : (tape n).status.ntSuccess = true) (hg : (tape (n + 1)).granted = true) :
    readCopyNoted allocate old tape n (f, m) =
      .returns (some (tape n).text, n + 2, f, allocate true m) := by
  simp [readCopyNoted, note, hs, hg]

/-- A read that is not leaves the pointer, or sets it to `NULL`. -/
theorem readCopyNoted_refused (allocate : Bool → FrontendBuffers → FrontendBuffers)
    (old : Option String) (f : Frontend) (m : FrontendBuffers)
    (h : ¬((tape n).status.ntSuccess = true ∧ (tape (n + 1)).granted = true)) :
    ∃ text n', readCopyNoted allocate old tape n (f, m) = .returns (text, n', f, m) ∨
      readCopyNoted allocate old tape n (f, m) = .returns (text, n', f, allocate false m) := by
  cases hs : (tape n).status.ntSuccess with
  | false => exact ⟨old, n + 1, .inl (by simp [readCopyNoted, hs])⟩
  | true =>
      have hg : (tape (n + 1)).granted = false := by simpa [hs] using h
      exact ⟨none, n + 2, .inr (by simp [readCopyNoted, note, hs, hg])⟩

/-- `FrontendDisconnect` frees the two pointers, whatever they are. -/
theorem frontendDisconnectNoted_run (tape : Nat → Answer) (n : Nat) (f : Frontend)
    (m : FrontendBuffers) :
    ∃ f', frontendDisconnectNoted tape n (f, m) = .returns ((), n, f', m.freeProtocol.freeName) ∧
      f'.name = none ∧ f'.protocol = none :=
  ⟨_, rfl, rfl, rfl⟩

/-- Any of them. -/
theorem readCopyNoted_any (tape : Nat → Answer) (n : Nat)
    (allocate : Bool → FrontendBuffers → FrontendBuffers) (old : Option String) (f : Frontend)
    (m : FrontendBuffers) :
    ∃ text n', readCopyNoted allocate old tape n (f, m) = .returns (text, n', f, m) ∨
      ∃ granted, readCopyNoted allocate old tape n (f, m) =
        .returns (text, n', f, allocate granted m) := by
  by_cases h : (tape n).status.ntSuccess = true ∧ (tape (n + 1)).granted = true
  · exact ⟨_, _, .inr ⟨true, readCopyNoted_granted allocate old f m h.1 h.2⟩⟩
  · obtain ⟨text, n', hr | hr⟩ := readCopyNoted_refused allocate old f m h
    · exact ⟨text, n', .inl hr⟩
    · exact ⟨text, n', .inr ⟨false, hr⟩⟩

/-- The two reads one after the other. -/
theorem connectCopiesNoted_run {name protocol : Option String} {n₁ n₂ : Nat}
    {m₁ m₂ : FrontendBuffers}
    (h₁ : readCopyNoted .allocateName f.name tape n (f, m) = .returns (name, n₁, f, m₁))
    (h₂ : readCopyNoted .allocateProtocol f.protocol tape n₁ ({ f with name := name }, m₁) =
      .returns (protocol, n₂, { f with name := name }, m₂)) :
    ∃ f', connectCopiesNoted tape n (f, m) = .returns (.success, n₂, f', m₂) :=
  ⟨{ f with name := name, protocol := protocol }, by
    simp [connectCopiesNoted, lift, onPart, h₁, h₂]⟩

/-- Where both are granted, both pointers point to buffers of their own. -/
theorem connectCopiesNoted_granted (h : BothGranted tape n) :
    ∃ n' f', connectCopiesNoted tape n (f, m) =
      .returns (.success, n', f', (m.allocateName true).allocateProtocol true) := by
  obtain ⟨hs, hg, hs', hg'⟩ := h
  obtain ⟨f', hrun⟩ := connectCopiesNoted_run (readCopyNoted_granted _ _ f m hs hg)
    (readCopyNoted_granted _ _ _ _ hs' hg')
  exact ⟨_, f', hrun⟩

/-- Where not both are, one of the pointers is `NULL`, as it was. -/
theorem connectCopiesNoted_refused (h : ¬BothGranted tape n) (hname : m.name = .null)
    (hprotocol : m.protocol = .null) :
    ∃ n' f' m', connectCopiesNoted tape n (f, m) = .returns (.success, n', f', m') ∧
      m'.heap.astray = m.heap.astray ∧ (m'.name = .null ∨ m'.protocol = .null) := by
  by_cases hfirst : (tape n).status.ntSuccess = true ∧ (tape (n + 1)).granted = true
  · have hsecond : ¬((tape (n + 2)).status.ntSuccess = true ∧
        (tape (n + 2 + 1)).granted = true) := fun hs => h ⟨hfirst.1, hfirst.2, hs.1, hs.2⟩
    have hread := readCopyNoted_granted .allocateName f.name f m hfirst.1 hfirst.2
    obtain ⟨protocol, n', hr | hr⟩ := readCopyNoted_refused .allocateProtocol f.protocol
      { f with name := some (tape n).text } (m.allocateName true) hsecond
    · obtain ⟨f', hrun⟩ := connectCopiesNoted_run hread hr
      exact ⟨n', f', _, hrun, rfl, .inr hprotocol⟩
    · obtain ⟨f', hrun⟩ := connectCopiesNoted_run hread hr
      exact ⟨n', f', _, hrun, rfl, .inr rfl⟩
  · -- the first pointer is `NULL`, and the second read does nothing to it
    have hafter : ∀ (name : Option String) (n₁ : Nat) (m₁ : FrontendBuffers),
        readCopyNoted .allocateName f.name tape n (f, m) = .returns (name, n₁, f, m₁) →
        m₁.name = .null → m₁.heap.astray = m.heap.astray →
        ∃ n' f' m', connectCopiesNoted tape n (f, m) = .returns (.success, n', f', m') ∧
          m'.heap.astray = m.heap.astray ∧ (m'.name = .null ∨ m'.protocol = .null) := by
      intro name n₁ m₁ hread hnull hastray
      obtain ⟨protocol, n', hr | ⟨granted, hr⟩⟩ := readCopyNoted_any tape n₁ .allocateProtocol
        f.protocol { f with name := name } m₁
      · obtain ⟨f', hrun⟩ := connectCopiesNoted_run hread hr
        exact ⟨n', f', _, hrun, hastray, .inl hnull⟩
      · obtain ⟨f', hrun⟩ := connectCopiesNoted_run hread hr
        exact ⟨n', f', _, hrun, by cases granted <;> exact hastray, .inl hnull⟩
    obtain ⟨name, n₁, hr | hr⟩ := readCopyNoted_refused .allocateName f.name f m hfirst
    · exact hafter name n₁ m hr hname rfl
    · exact hafter name n₁ _ hr rfl rfl

end Runs

/-- A pointer that is `NULL` goes astray. -/
theorem freed_astray {m : FrontendBuffers} (h : m.name = .null ∨ m.protocol = .null) :
    m.heap.astray.length < m.freeProtocol.freeName.heap.astray.length := by
  rcases h with hn | hp
  · have hname : m.freeProtocol.freeName.heap.astray =
        (.pool, .null) :: m.freeProtocol.heap.astray := by
      show ((m.heap.give .pool m.protocol).give .pool m.name).astray = _
      rw [hn]
      rfl
    rw [hname]
    exact Nat.lt_succ_of_le (m.heap.astray_le_give .pool m.protocol)
  · have hprotocol : (m.heap.give .pool m.protocol).astray = (.pool, .null) :: m.heap.astray := by
      rw [hp]
      rfl
    have hle := (m.heap.give .pool m.protocol).astray_le_give .pool m.name
    rw [hprotocol] at hle
    exact hle

/-- Both pointers are `NULL`. -/
structure FrontendBuffers.Null (m : FrontendBuffers) : Prop where
  name : m.name = .null
  protocol : m.protocol = .null

/-- A connect that succeeds has come through the handshake. -/
theorem Cycle.untilCopies (c : Cycle) {s : Frontend × FrontendBuffers} (h : c.connects s = true) :
    ∃ n f, connectUntilCopies c.fuel c.tape 0 (c.before s.1) = .returns (.inl (), n, f) := by
  have hfails := connectUntilCopies_fails c.fuel (c.before s.1) c.tape 0
  cases hu : connectUntilCopies c.fuel c.tape 0 (c.before s.1) with
  | waits | deadlocks | loops =>
      simp [Cycle.connects, frontendConnectNoted, lift, onPart, hu] at h
  | returns r =>
      obtain ⟨r, n, f⟩ := r
      cases r with
      | inl _ => exact ⟨n, f, rfl⟩
      | inr status =>
          have herror : status.ntSuccess = false := hfails.of_returns hu status rfl
          have hsucc : status.ntSuccess = true := by
            simpa [Cycle.connects, frontendConnectNoted, lift, onPart, hu] using h
          rw [hsucc] at herror
          cases herror

/-- A cycle is its copies and its frees. -/
theorem Cycle.run_eq (c : Cycle) {s : Frontend × FrontendBuffers} {n n' : Nat} {f f₁ : Frontend}
    {m : FrontendBuffers}
    (hu : connectUntilCopies c.fuel c.tape 0 (c.before s.1) = .returns (.inl (), n, f))
    (hc : connectCopiesNoted c.tape n (f, s.2) = .returns (.success, n', f₁, m)) :
    ∃ f₂, c.run s = (f₂, m.freeProtocol.freeName) ∧ f₂.name = none ∧ f₂.protocol = none := by
  obtain ⟨f₂, hrun, hname, hprotocol⟩ :=
    frontendDisconnectNoted_run c.tape n' (c.between f₁) m
  have hconnect : frontendConnectNoted c.fuel c.tape 0 (c.before s.1, s.2) =
      .returns (.success, n', f₁, m) := by
    simpa [frontendConnectNoted, lift, onPart, hu] using hc
  refine ⟨f₂, ?_, hname, hprotocol⟩
  rw [Cycle.run, hconnect]
  simp only [hrun]

/-- **One cycle is right just where both nodes are copied.** -/
theorem cycleRight_iff {s : Frontend × FrontendBuffers} {c : Cycle} (hn : s.2.Null)
    (hc : c.connects s = true) : CycleRight s c ↔ Copied s c := by
  obtain ⟨f, m⟩ := s
  obtain ⟨n, f', hu⟩ := c.untilCopies hc
  have hcopied : Copied (f, m) c ↔ BothGranted c.tape n := by
    refine ⟨fun h => h n f' hu, fun h n' f'' hu' => ?_⟩
    obtain ⟨rfl, rfl⟩ : n = n' ∧ f' = f'' := by simpa [hu] using hu'
    exact h
  rw [hcopied]
  by_cases hg : BothGranted c.tape n
  · obtain ⟨n', f₁, hcopies⟩ := connectCopiesNoted_granted (f := f') (m := m) hg
    obtain ⟨f₂, hrun, hname, hprotocol⟩ := c.run_eq hu hcopies
    refine iff_of_true ?_ hg
    have hfreed : m.heap.Same
        ((m.allocateName true).allocateProtocol true).freeProtocol.freeName.heap :=
      (((Heap.Has.refl m.heap).take .pool).take .pool).giveHead.giveHead
    constructor <;> rw [hrun]
    · exact hfreed.astray
    · exact hfreed.live
    · exact ⟨rfl, hname⟩
    · exact ⟨rfl, hprotocol⟩
  · obtain ⟨n', f₁, m₁, hcopies, hastray, hnull⟩ :=
      connectCopiesNoted_refused (f := f') hg hn.name hn.protocol
    obtain ⟨f₂, hrun, -, -⟩ := c.run_eq hu hcopies
    refine iff_of_false (fun hright => ?_) hg
    have hlt := freed_astray hnull
    have hfreed := hright.freed
    rw [hrun] at hfreed
    rw [hastray, ← hfreed] at hlt
    exact Nat.lt_irrefl _ hlt

/-- **In every run of cycles, all are right just where in all of them both nodes are copied.** -/
theorem cycles_right_iff (h : Heap Object) (f : Frontend) (cs : List Cycle) :
    Admits cycleSystem CycleRight (f, ⟨h, .null, .null⟩) cs ↔
      Admits cycleSystem Copied (f, ⟨h, .null, .null⟩) cs :=
  Admits.congr (I := fun s => s.2.Null) ⟨rfl, rfl⟩ (fun _ _ => cycleRight_iff)
    (fun _ _ _ _ hright => ⟨hright.name.1, hright.protocol.1⟩) cs

/-- A backend without a `name`, and otherwise willing. -/
def noName : Cycle where
  fuel := 2
  tape n := { willing n with status := if n = 19 then .unsuccessful else .success }
  before f := { f with online := true }
  between := id

/-- `FrontendDisconnect` frees `NULL`. -/
theorem cycle_noName :
    noName.connects (.created, ⟨.empty, .null, .null⟩) = true ∧
      ¬Admits cycleSystem CycleRight (.created, ⟨.empty, .null, .null⟩) [noName] :=
  ⟨by decide +kernel, fun h => absurd h.2.1.freed (by decide +kernel)⟩

end Xencons
