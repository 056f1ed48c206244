import Mathlib.Data.List.Basic
import Xencons.Frontend.SetState
import Xencons.Lib.Ghost

/-!
# Publishing the ring (frontend.c, ring.c)

`FrontendConnect` writes the port and the grant reference of its ring into the store, in a
transaction, and does so again where the transaction has to be retried. Only then does it tell the
backend that it is connected.

* `Transaction` -- what has been written in a transaction, and how it has been ended;
* `publishRoundNoted`, `publishNoted`, `connectPublishNoted` -- the code, with a note of every
  transaction: `erases_connectPublish`;
* `connectPublish`, `connectHandshake` -- `FrontendConnect` up to the handshake, and from there on:
  `frontendConnect_eq`;
* `publishRoundNoted_spec` -- one transaction, `publishNoted_spec` -- all of them;
* **`frontendConnect_publishes`** -- the handshake is come to only behind a commit of both nodes.
-/

namespace Xencons

open Lib Proc

/-! ## 1. Transactions -/

/-- A call of `TransactionEnd`. -/
inductive TransactionEnd where
  | commit (status : NtStatus)
  | abort
deriving DecidableEq

/-- A store transaction, from its `TransactionStart` on. -/
structure Transaction where
  /-- `port` has been written in it -/
  port : Bool
  /-- `ring-ref` has been written in it -/
  ringRef : Bool
  ends : List TransactionEnd
deriving DecidableEq

/-- A program on a frontend that notes its transactions, in the order of their starts. -/
abbrev OnNoted (α : Type) := Proc Answer (Frontend × List Transaction) α

/-- What happens in the transaction that was started as number `transaction`. -/
def noteIn (transaction : Nat) (g : Transaction → Transaction) : OnNoted Unit :=
  note fun log => log.modify transaction g

/-- `TransactionStart` has succeeded. -/
def noteStart : OnNoted Nat := do
  let s ← get
  note fun log => log ++ [⟨false, false, []⟩]
  return s.2.length

def noteEnd (transaction : Nat) (how : TransactionEnd) : OnNoted Unit :=
  noteIn transaction fun t => { t with ends := t.ends ++ [how] }

/-! ## 2. The code, with its notes -/

/-- `RingStoreWrite` -/
def ringStoreWriteNoted (transaction : Nat) : OnNoted NtStatus := do
  let a ← ask
  if !a.status.ntSuccess then return a.status
  noteIn transaction fun t => { t with port := true }
  let a ← ask
  if !a.status.ntSuccess then return a.status
  noteIn transaction fun t => { t with ringRef := true }
  return .success

/-- One round of the `do` loop. -/
def publishRoundNoted (attempt : Nat) : OnNoted (Nat ⊕ NtStatus) := do
  let a ← ask
  if !a.status.ntSuccess then return .inr a.status
  let transaction ← noteStart
  lift (modify fun f => { f with transactions := f.transactions + 1 })
  let status ← ringStoreWriteNoted transaction
  lift (modify fun f => { f with transactions := f.transactions - 1 })
  if !status.ntSuccess then
    noteEnd transaction .abort
    return .inr status
  let b ← ask
  noteEnd transaction (.commit b.status)
  if b.status ≠ .retry ∨ attempt + 1 > 10 then return .inr b.status
  return .inl (attempt + 1)

def publishNoted : OnNoted NtStatus := repeatUntil .loops publishRoundNoted 11 0

/-- `FrontendConnect` up to the handshake: `.inr` where it returns. -/
def connectPublish : OnFrontend (Unit ⊕ NtStatus) := do
  let a ← ask
  if !a.status.ntSuccess then return .inr a.status
  modify fun f => { f with debugRefs := f.debugRefs + 1 }
  let a ← ask
  if !a.status.ntSuccess then return .inr (← connectFail2 a.status)
  modify fun f => { f with debugCallback := true }
  let status ← onRing ringConnect
  if !status.ntSuccess then return .inr (← connectFail3 status)
  let status ← publish
  if !status.ntSuccess then return .inr (← connectFail4 status)
  return .inl ()

def connectPublishNoted : OnNoted (Unit ⊕ NtStatus) := do
  let a ← ask
  if !a.status.ntSuccess then return .inr a.status
  lift (modify fun f => { f with debugRefs := f.debugRefs + 1 })
  let a ← ask
  if !a.status.ntSuccess then return .inr (← lift (connectFail2 a.status))
  lift (modify fun f => { f with debugCallback := true })
  let status ← lift (onRing ringConnect)
  if !status.ntSuccess then return .inr (← lift (connectFail3 status))
  let status ← publishNoted
  if !status.ntSuccess then return .inr (← lift (connectFail4 status))
  return .inl ()

/-- The reads of `name` and `protocol`. -/
def connectCopies : OnFrontend NtStatus := do
  let f ← get
  let name ← readCopy f.name
  modify fun f => { f with name := name }
  let f ← get
  let protocol ← readCopy f.protocol
  modify fun f => { f with protocol := protocol }
  return .success

/-- `FrontendConnect` from the handshake on. -/
def connectHandshake (fuel : Nat) : OnFrontend NtStatus := do
  let state ← handshake fuel .connected connectAnswer
  if state ≠ .connected then return ← connectFail4 .unsuccessful
  connectCopies

/-- `FrontendConnect` is the two, one after the other. -/
theorem frontendConnect_eq (fuel : Nat) :
    frontendConnect fuel = connectPublish >>= fun r =>
      match r with
      | .inl _ => connectHandshake fuel
      | .inr status => pure status := by
  simp only [frontendConnect, connectPublish, connectHandshake, connectCopies, bind_bind,
    pure_then, then_pure, ite_bind]

/-! ## 3. Without the notes -/

theorem erases_ringStoreWrite (transaction : Nat) :
    Erases (ringStoreWriteNoted transaction) (onRing ringStoreWrite) := by
  intro tape n f log
  unfold ringStoreWriteNoted ringStoreWrite onRing onPart
  simp only [run_bind, run_ask, Call.returns_bind, run_ite, run_pure]
  cases (tape n).status.ntSuccess with
  | false => rfl
  | true =>
      simp only [noteIn, note, run_modify, Call.returns_bind, Bool.not_true, Bool.false_eq_true,
        if_false]
      cases (tape (n + 1)).status.ntSuccess <;> rfl

theorem erases_publishRound (attempt : Nat) :
    Erases (publishRoundNoted attempt) (publishRound attempt) := by
  refine Erases.ask.bind fun a => .ite .pure ?_
  unfold noteStart
  rw [bind_bind]
  refine .look fun s => ?_
  rw [bind_bind]
  refine .note ?_
  rw [pure_then]
  refine (Erases.lift _).bind fun _ => (erases_ringStoreWrite _).bind fun status => ?_
  refine (Erases.lift _).bind fun _ => .ite (.note .pure) (Erases.ask.bind fun b => ?_)
  exact .note (.ite .pure .pure)

theorem erases_publish : Erases publishNoted publish :=
  .repeatUntil erases_publishRound 11 0

/-- **The notes change nothing.** -/
theorem erases_connectPublish : Erases connectPublishNoted connectPublish := by
  refine Erases.ask.bind fun a => .ite .pure ((Erases.lift _).bind fun _ => ?_)
  refine Erases.ask.bind fun a => .ite ((Erases.lift _).bind fun _ => .pure)
    ((Erases.lift _).bind fun _ => ?_)
  refine (Erases.lift _).bind fun status => .ite ((Erases.lift _).bind fun _ => .pure) ?_
  exact erases_publish.bind fun status => .ite ((Erases.lift _).bind fun _ => .pure) .pure

/-! ## 4. All of it returns -/

theorem prompt_ringConnect : Prompt ringConnect := by
  have fails (label : XenconsRing → XenconsRing) (status : NtStatus) :
      Prompt (failsWith label status) := .bind .modify fun _ => .pure
  refine .bind .ask fun _ => .ite .pure ?_
  refine .bind .modify fun _ => ?_
  refine .bind .ask fun _ => .ite (fails _ _) ?_
  refine .bind .modify fun _ => ?_
  refine .bind .ask fun _ => .ite (fails _ _) ?_
  refine .bind .modify fun _ => ?_
  refine .bind .ask fun _ => .ite (fails _ _) ?_
  refine .bind .modify fun _ => ?_
  refine .bind .ask fun _ => .ite (fails _ _) ?_
  refine .bind .ask fun _ => ?_
  refine .ite (fails _ _) ?_
  refine .bind .modify fun _ => ?_
  refine .bind .ask fun _ => .ite (fails _ _) ?_
  refine .bind .modify fun _ => ?_
  refine .bind .ask fun _ => .ite (fails _ _) ?_
  refine .bind .modify fun _ => ?_
  refine .bind .ask fun _ => .ite (fails _ _) ?_
  refine .bind .modify fun _ => ?_
  refine .bind .ask fun _ => .ite (fails _ _) ?_
  exact .bind .modify fun _ => .pure

theorem prompt_publishRoundNoted (attempt : Nat) : Prompt (publishRoundNoted attempt) := by
  refine .bind .ask fun _ => .ite .pure ?_
  refine .bind (.bind .get fun _ => .bind .modify fun _ => .pure) fun _ => ?_
  refine .bind (.onPart .modify) fun _ => ?_
  refine .bind ?_ fun status => ?_
  · refine .bind .ask fun _ => .ite .pure ?_
    refine .bind .modify fun _ => ?_
    refine .bind .ask fun _ => .ite .pure ?_
    exact .bind .modify fun _ => .pure
  · refine .bind (.onPart .modify) fun _ => .ite (.bind .modify fun _ => .pure) ?_
    refine .bind .ask fun _ => ?_
    exact .bind .modify fun _ => .ite .pure .pure

theorem prompt_connectPublishNoted : Prompt connectPublishNoted := by
  have fail2 (status : NtStatus) : Prompt (connectFail2 status) := .bind .modify fun _ => .pure
  have fail3 (status : NtStatus) : Prompt (connectFail3 status) := .bind .modify fun _ => fail2 _
  have fail4 (status : NtStatus) : Prompt (connectFail4 status) :=
    .bind (.onPart .modify) fun _ => fail3 _
  refine .bind .ask fun _ => .ite .pure ?_
  refine .bind (.onPart .modify) fun _ => ?_
  refine .bind .ask fun _ => .ite (.bind (.onPart (fail2 _)) fun _ => .pure) ?_
  refine .bind (.onPart .modify) fun _ => ?_
  refine .bind (.onPart (.onPart prompt_ringConnect)) fun _ => ?_
  refine .ite (.bind (.onPart (fail3 _)) fun _ => .pure) ?_
  refine .bind ?_ fun _ => ?_
  · exact .repeatUntil prompt_publishRoundNoted 11 0
  · refine .ite ?_ .pure
    exact .bind (.onPart (fail4 _)) fun _ => .pure

/-! ## 5. What has become of the transactions -/

/-- `port` and `ring-ref` have been written in the transaction, and it has been committed once. -/
structure Transaction.Committed (t : Transaction) (status : NtStatus) : Prop where
  port : t.port = true
  ringRef : t.ringRef = true
  ends : t.ends = [.commit status]

/-- No more than `most` transactions, each of them ended once. -/
structure AllEnded (most : Nat) (log : List Transaction) : Prop where
  bounded : log.length ≤ most
  ended : ∀ t ∈ log, t.ends.length = 1

/-- What the transactions say of the status the loop ends with: behind a success there is a commit
    of both nodes. -/
def Agrees (log : List Transaction) (status : NtStatus) : Prop :=
  status.ntSuccess = true → ∃ t, log.getLast? = some t ∧ t.Committed status

theorem AllEnded.snoc {log : List Transaction} {most : Nat} (h : AllEnded most log)
    {t : Transaction} (ht : t.ends.length = 1) : AllEnded (most + 1) (log ++ [t]) where
  bounded := by
    have hlog := h.bounded
    rw [List.length_append, List.length_singleton]
    omega
  ended t' ht' := by
    rcases List.mem_append.mp ht' with hin | hin
    · exact h.ended t' hin
    · rw [List.mem_singleton.mp hin]
      exact ht

/-- The newest transaction is the one that is worked on. -/
theorem modify_newest (log : List Transaction) (t : Transaction) (g : Transaction → Transaction) :
    (log ++ [t]).modify log.length g = log ++ [g t] := by
  induction log with
  | nil => rfl
  | cons t' log ih => exact congrArg (t' :: ·) ih

section Specs

variable {f : Frontend} {log : List Transaction}

/-- A note in the newest transaction. -/
theorem noteIn_spec {t : Transaction} {g : Transaction → Transaction}
    {Q : Unit → Frontend × List Transaction → Prop} (h : Q () (f, log ++ [g t])) :
    (noteIn log.length g).Ensures Q (f, log ++ [t]) := by
  refine .note ?_
  rwa [modify_newest]

/-- `RingStoreWrite` succeeds where both nodes have been written. -/
theorem ringStoreWriteNoted_spec :
    (ringStoreWriteNoted log.length).Ensures (fun status s => s.1 = f ∧
      ∃ port ringRef, s.2 = log ++ [⟨port, ringRef, []⟩] ∧
        (status.ntSuccess = true → port = true ∧ ringRef = true))
      (f, log ++ [⟨false, false, []⟩]) := by
  refine .askOr (fun a no => .pure ⟨rfl, _, _, rfl, fun hs => ?_⟩) fun a _ =>
    .bind (noteIn_spec ?_)
  · rw [no] at hs
    exact absurd hs Bool.false_ne_true
  refine .askOr (fun a no => .pure ⟨rfl, _, _, rfl, fun hs => ?_⟩) fun a _ =>
    .bind (noteIn_spec (.pure ⟨rfl, _, _, rfl, fun _ => ⟨rfl, rfl⟩⟩))
  rw [no] at hs
  exact absurd hs Bool.false_ne_true

/-- **One transaction**: it is ended once, whatever comes of it. The loop goes on where it is to be
    retried, and ends with a success only behind its commit. -/
theorem publishRoundNoted_spec {attempt : Nat} (ha : attempt ≤ 10)
    (hlog : AllEnded attempt log) :
    (publishRoundNoted attempt).Ensures (fun r s => s.1 = f ∧ match r with
      | .inl next => next = attempt + 1 ∧ next ≤ 10 ∧ AllEnded next s.2
      | .inr status => AllEnded 11 s.2 ∧ Agrees s.2 status) (f, log) := by
  have hmost : AllEnded 11 log := ⟨Nat.le_trans hlog.bounded (by omega), hlog.ended⟩
  refine .askOr (fun a no => .pure ⟨rfl, hmost, fun hs => ?_⟩) fun a _ => ?_
  · rw [no] at hs
    exact absurd hs Bool.false_ne_true
  refine .bind ?_
  refine .get_bind ?_
  refine .bind (.note ?_)
  refine .pure ?_
  refine .bind (.lift ?_)
  refine .modify ?_
  refine .bind ?_
  refine ringStoreWriteNoted_spec.mono fun status s hs => ?_
  obtain ⟨f', log'⟩ := s
  obtain ⟨rfl : f' = _, port, ringRef, rfl : log' = _, hboth⟩ := hs
  refine .bind (.lift ?_)
  refine .modify (.ite (fun no => .bind (noteIn_spec (.pure ?_))) fun yes => ?_)
  · -- abort
    refine ⟨rfl, ⟨?_, (hlog.snoc rfl).ended⟩, fun hs => ?_⟩
    · exact Nat.le_trans (hlog.snoc (t := ⟨port, ringRef, [.abort]⟩) rfl).bounded (by omega)
    · rw [hs] at no
      cases no
  · have hok : status.ntSuccess = true := by simpa using yes
    obtain ⟨rfl, rfl⟩ := hboth hok
    refine .ask_bind fun b => ?_
    refine .bind (noteIn_spec (.ite (fun _ => .pure ?_) fun goesOn => .pure ?_))
    · have hended := hlog.snoc (t := ⟨true, true, [.commit b.status]⟩) rfl
      refine ⟨rfl, ⟨Nat.le_trans hended.bounded (by omega), hended.ended⟩, fun _ => ?_⟩
      exact ⟨_, List.getLast?_concat, rfl, rfl, rfl⟩
    · exact ⟨rfl, rfl, by omega, hlog.snoc rfl⟩

/-- **All of them.** -/
theorem publishNoted_spec :
    publishNoted.Ensures (fun status s => s.1 = f ∧ AllEnded 11 s.2 ∧ Agrees s.2 status)
      (f, []) := by
  refine .repeatUntil_of_variant
    (I := fun attempt s => attempt ≤ 10 ∧ s.1 = f ∧ AllEnded attempt s.2)
    (v := fun attempt _ => 10 - attempt) (fun attempt s hI => ?_) 11 0 _
    ⟨by decide, rfl, Nat.le_refl _, nofun⟩ (by decide)
  obtain ⟨f', log⟩ := s
  obtain ⟨ha, rfl : f' = f, hlog⟩ := hI
  refine (publishRoundNoted_spec ha hlog).mono fun r s' h => ?_
  cases r with
  | inl next =>
      obtain ⟨hf, rfl, hnext, hended⟩ := h
      exact ⟨⟨hnext, hf, hended⟩, by omega⟩
  | inr status => exact h

/-- What `FrontendConnect` has come to when it is to go on to the handshake, or returns: to go on,
    the last transaction has been committed with both nodes written in it; else it fails, and its
    ring is disconnected. -/
structure ConnectPublished (f : Frontend) (r : Unit ⊕ NtStatus) (f' : Frontend)
    (log : List Transaction) : Prop where
  ended : AllEnded 11 log
  published : f'.published = f.published
  goesOn : r = .inl () → f'.ring.Holding true false ∧
    ∃ t status, log.getLast? = some t ∧ status.ntSuccess = true ∧ t.Committed status
  returns : ∀ status, r = .inr status → status.ntSuccess = false ∧ f'.ring.Holding false false

/-- A label that `FrontendConnect` returns from. -/
theorem ConnectPublished.fails {f f' : Frontend} {status : NtStatus} {log : List Transaction}
    (hs : status.ntSuccess = false) (hlog : AllEnded 11 log) (hp : f'.published = f.published)
    (hr : f'.ring.Holding false false) : ConnectPublished f (.inr status) f' log where
  ended := hlog
  published := hp
  goesOn := nofun
  returns status' he := by
    cases he
    exact ⟨hs, hr⟩

theorem connectPublishNoted_spec (hr : f.ring.Holding false false) :
    connectPublishNoted.Ensures (fun r s => ConnectPublished f r s.1 s.2) (f, []) := by
  have none : AllEnded 11 [] := ⟨by decide, nofun⟩
  refine .askOr (fun a no => .pure (.fails no none rfl hr)) fun a _ => ?_
  refine .bind (.lift ?_)
  refine .modify ?_
  refine .askOr (fun a no => ?_) fun a _ => ?_
  · refine .bind (.lift ?_)
    refine .modify_bind ?_
    refine .pure ?_
    exact .pure (.fails no none rfl hr)
  refine .bind (.lift ?_)
  refine .modify ?_
  refine .bind (.lift ?_)
  refine onRing_spec ((ringConnect_spec hr).mono fun status r hring => ?_)
  refine .ite (fun no => ?_) fun yes => .bind ?_
  · have hno : status.ntSuccess = false := by simpa using no
    rw [hno] at hring
    refine .bind (.lift ?_)
    refine .modify_bind ?_
    refine .modify_bind ?_
    exact .pure (.pure (.fails hno none rfl hring))
  · have hyes : status.ntSuccess = true := by simpa using yes
    rw [hyes] at hring
    refine publishNoted_spec.mono fun st s hs => ?_
    obtain ⟨f', log⟩ := s
    obtain ⟨rfl : f' = _, hlog, hagrees⟩ := hs
    refine .ite (fun no => ?_) fun yes => .pure ?_
    · have hno : st.ntSuccess = false := by simpa using no
      refine .bind (.lift ?_)
      refine .bind (onRing_spec ((ringDisconnect_spec hring).mono fun _ r' hr' => ?_))
      refine .modify_bind ?_
      refine .modify_bind ?_
      exact .pure (.pure (.fails hno hlog rfl hr'))
    · have hok : st.ntSuccess = true := by simpa using yes
      obtain ⟨t, hlast, hcommitted⟩ := hagrees hok
      exact ⟨hlog, rfl, fun _ => ⟨hring, t, st, hlast, hok, hcommitted⟩, nofun⟩

end Specs

/-! ## 6. FrontendConnect -/

/-- **`FrontendConnect` comes to the handshake only behind a commit of both nodes.** Whatever the
    store and the other interfaces answer, all of it up to there returns, with no more than eleven
    transactions, each of them ended once; where it does not come to the handshake it fails, with the
    ring disconnected and nothing written to its `state` node. -/
theorem frontendConnect_publishes (fuel : Nat) (tape : Nat → Answer) (n : Nat) {f : Frontend}
    (hr : f.ring.Holding false false) :
    ∃ r n' f' log, connectPublishNoted tape n (f, []) = .returns (r, n', f', log) ∧
      ConnectPublished f r f' log ∧
      frontendConnect fuel tape n f =
        match r with
        | .inl _ => connectHandshake fuel tape n' f'
        | .inr status => .returns (status, n', f') := by
  obtain ⟨r, n', ⟨f', log⟩, hrun, hpublished⟩ :=
    prompt_connectPublishNoted.yields (connectPublishNoted_spec hr) tape n
  refine ⟨r, n', f', log, hrun, hpublished, ?_⟩
  rw [frontendConnect_eq, run_bind, erases_connectPublish.returns hrun, Call.returns_bind]
  cases r <;> rfl

/-- With a store that commits. -/
theorem frontendConnect_publishes_willing :
    ∃ r n' f' log, connectPublishNoted willing 0 (.created, []) = .returns (r, n', f', log) ∧
      ConnectPublished .created r f' log ∧
      frontendConnect 2 willing 0 .created =
        match r with
        | .inl _ => connectHandshake 2 willing n' f'
        | .inr status => .returns (status, n', f') :=
  frontendConnect_publishes 2 willing 0 created_held.ring

end Xencons
