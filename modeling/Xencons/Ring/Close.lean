import Xencons.Ring.Custody

/-!
# RingClose against RingPoll

`RingClose` takes the requests of its file off the read queue until it finds none, and then off the
write queue. A request that an activation of `RingPoll` holds meanwhile is not found; when the ring
is blocked it goes back to a queue the scan may have left already.

* `CancelPc.Passed` -- the queues whose scan is over;
* `NotPutBehind` -- no request of the file goes back behind the scan;
* `Cleared`, `Move.cleared` -- the invariant and its step lemma;
* `close_completes` -- with it every request of the file ends up completed; `put_behind_close` -- a
  run without it, which leaves one in the queue.
-/

namespace Xencons

open Lib Function RingSys

variable {ι : Type}

/-- The call is behind its scan of queue `d`. -/
def CancelPc.Passed (d : MajorFunction) : CancelPc → Prop
  | .idle | .remove .read _ | .complete .read _ _ => False
  | .remove .write _ | .complete .write _ _ => d = .read
  | .done _ => True

/-- The call is `RingClose` of that file. -/
def CancelPc.Closes (file : FileObject) : CancelPc → Prop
  | .idle => False
  | .remove _ ctx | .complete _ ctx _ | .done ctx => ctx = some file

/-- **No request of the file goes back behind the scan** of call `c`: an activation that puts back
    one of the requests `old` of that file does so in a queue the call has not scanned to its
    end. -/
def NotPutBehind (c : Nat) (file : FileObject) (old : List Irp) (s : RingSys ι) :
    RingLabel ι → Prop
  | .pollStep a => ∀ d irp, s.poll a = .copied d irp 0 → s.cancel irp.seq = false → irp ∈ old →
      irp.fileObject = file → ¬(s.canceler c).Passed d
  | _ => True

/-- What call `c` has scanned holds none of the requests `old` of the file. -/
structure Cleared (c : Nat) (file : FileObject) (old : List Irp) (s : RingSys ι) : Prop where
  closes : (s.canceler c).Closes file
  older : old.length ≤ s.queued.length
  cleared : ∀ d, (s.canceler c).Passed d → ∀ irp ∈ s.queue d, irp ∈ old → irp.fileObject ≠ file

section Steps

variable {c : Nat} {file : FileObject} {old : List Irp} {s s' : RingSys ι} {l : RingLabel ι}

theorem CancelPc.Passed.next {d d' : MajorFunction} {ctx : Option FileObject} :
    (cancelNext ctx d').Passed d ↔ d = d' ∨ (CancelPc.remove d' ctx).Passed d := by
  cases d' <;> cases d <;> simp [RingSys.cancelNext, CancelPc.Passed]

theorem CancelPc.Passed.complete {d d' : MajorFunction} {ctx : Option FileObject} {irp : Irp} :
    (CancelPc.complete d' ctx irp).Passed d ↔ (CancelPc.remove d' ctx).Passed d := by
  cases d' <;> exact Iff.rfl

theorem CancelPc.Closes.next {d : MajorFunction} {ctx : Option FileObject} :
    (cancelNext ctx d).Closes file ↔ ctx = some file := by
  cases d <;> exact Iff.rfl

/-- Another call may do what it likes with its place. -/
theorem Cleared.setCanceler_ne (h : Cleared c file old s) {c' : Nat} (hne : c ≠ c')
    {pc : CancelPc} : Cleared c file old (s.setCanceler c' pc) := by
  have he : (s.setCanceler c' pc).canceler c = s.canceler c := by simp [hne]
  exact ⟨by rw [he]; exact h.closes, h.older, fun d hp => h.cleared d (by rwa [he] at hp)⟩

/-- The call itself goes on. -/
theorem Cleared.setCanceler_self (h : Cleared c file old s) {pc : CancelPc}
    (hcl : pc.Closes file)
    (hpc : ∀ d, pc.Passed d → ∀ irp ∈ s.queue d, irp ∈ old → irp.fileObject ≠ file) :
    Cleared c file old (s.setCanceler c pc) := by
  have he : (s.setCanceler c pc).canceler c = pc := by simp
  exact ⟨by rw [he]; exact hcl, h.older, fun d hp => hpc d (by rwa [he] at hp)⟩

/-- Requests may leave a queue. -/
theorem Cleared.removed (h : Cleared c file old s) {d : MajorFunction} {list : List Irp}
    (hl : list.Sublist (s.queue d)) : Cleared c file old (s.setQueue d list) := by
  refine ⟨h.closes, h.older, fun d' hp irp hirp => h.cleared d' hp irp ?_⟩
  by_cases hd : d' = d
  · subst hd
    simp only [setQueue_queue, update_self] at hirp
    exact hl.subset hirp
  · simpa only [setQueue_queue, update_of_ne hd] using hirp

/-- A request may come to a queue whose scan is not over, or if it is not one of those. -/
theorem Cleared.added (h : Cleared c file old s) {d : MajorFunction} (irp : Irp) {list : List Irp}
    (hl : ∀ irp' ∈ list, irp' = irp ∨ irp' ∈ s.queue d)
    (hirp : (s.canceler c).Passed d → irp ∈ old → irp.fileObject ≠ file) :
    Cleared c file old (s.setQueue d list) := by
  refine ⟨h.closes, h.older, fun d' hp irp' hirp' hold => ?_⟩
  by_cases hd : d' = d
  · subst hd
    simp only [setQueue_queue, update_self] at hirp'
    rcases hl irp' hirp' with rfl | hmem
    · exact hirp hp hold
    · exact h.cleared d' hp irp' hmem hold
  · simp only [setQueue_queue, update_of_ne hd] at hirp'
    exact h.cleared d' hp irp' hirp' hold

/-- A new request is none of the old ones. -/
theorem Cleared.not_old (h : Cleared c file old s) (hold : ∀ irp ∈ old, irp.seq < old.length)
    {irp : Irp} (hseq : irp.seq = s.queued.length) : irp ∉ old := by
  intro hmem
  have hlt := hold irp hmem
  have hle := h.older
  omega

variable [DecidableEq ι]

/-- **Every step that puts nothing behind the scan keeps what is cleared.** -/
theorem Move.cleared (hold : ∀ irp ∈ old, irp.seq < old.length) (hc : Cleared c file old s)
    (hl : NotPutBehind c file old s l) (h : Move s l s') : Cleared c file old s' := by
  cases h with
  | insertQueue t irp hseq hlive =>
      have ha : Cleared c file old (s.arrive t irp false) :=
        ⟨hc.closes, hc.older.trans (by simp), hc.cleared⟩
      exact ha.added irp (by simp; tauto) fun _ hmem => absurd hmem (hc.not_old hold hseq)
  | insertCancelled t irp hseq hlive => exact ⟨hc.closes, hc.older.trans (by simp), hc.cleared⟩
  | cancelQueued irp hq =>
      have hf : Cleared c file old (s.setCancel irp.seq true) := ⟨hc.closes, hc.older, hc.cleared⟩
      have hr := hf.removed (d := irp.major) (ringCsqRemoveIrp_sublist (s.queue irp.major) irp)
      exact ⟨hr.closes, hr.older, hr.cleared⟩
  | closeStart c' file' hidle hlive =>
      refine hc.setCanceler_ne fun he => ?_
      subst he
      have hcl := hc.closes
      rw [hidle] at hcl
      exact hcl
  | destroyStart c' hidle hpoll hcancel hlive =>
      have hd : Cleared c file old { s with destroying := true } :=
        ⟨hc.closes, hc.older, hc.cleared⟩
      refine hd.setCanceler_ne fun he => ?_
      subst he
      have hcl := hc.closes
      rw [hidle] at hcl
      exact hcl
  | scanEnd c' d ctx hpc hq =>
      by_cases hcc : c = c'
      · subst hcc
        have hcl := hc.closes
        rw [hpc] at hcl
        refine hc.setCanceler_self (CancelPc.Closes.next.mpr hcl) fun d' hp irp hirp hmem => ?_
        rcases CancelPc.Passed.next.mp hp with rfl | hp
        · -- the scan has just found nothing of the file here
          have hno := hq irp hirp
          rw [show ctx = some file from hcl] at hno
          exact fun hf => by simp [(peekMatches_some file irp).mpr hf] at hno
        · exact hc.cleared d' (by rwa [hpc]) irp hirp hmem
      · exact hc.setCanceler_ne hcc
  | scanTake c' d ctx irp hpc hq hm =>
      have hr := hc.removed (ringCsqRemoveIrp_sublist (s.queue d) irp)
      by_cases hcc : c = c'
      · subst hcc
        have hcl := hc.closes
        rw [hpc] at hcl
        refine hr.setCanceler_self hcl fun d' hp => hr.cleared d' ?_
        simpa [hpc] using CancelPc.Passed.complete.mp hp
      · exact hr.setCanceler_ne hcc
  | scanComplete c' d ctx irp hpc =>
      have hr : Cleared c file old (s.ringCsqCompleteCanceledIrp irp) :=
        ⟨hc.closes, hc.older, hc.cleared⟩
      by_cases hcc : c = c'
      · subst hcc
        have hcl := hc.closes
        rw [hpc] at hcl
        refine hr.setCanceler_self hcl fun d' hp => hr.cleared d' ?_
        simpa [hpc] using CancelPc.Passed.complete.mpr hp
      · exact hr.setCanceler_ne hcc
  | pollTake a d irp rest hpc hq =>
      have hr : Cleared c file old (s.setQueue d rest) :=
        hc.removed (hq ▸ List.sublist_cons_self _ _)
      exact ⟨hr.closes, hr.older, hr.cleared⟩
  | pollPutBack a d irp hpc hcan =>
      have hr : Cleared c file old (s.setQueue d (irp :: s.queue d)) :=
        hc.added irp (by simp) fun hp hmem hf => hl d irp hpc hcan hmem hf hp
      exact ⟨hr.closes, hr.older, hr.cleared⟩
  | _ => exact ⟨hc.closes, hc.older, hc.cleared⟩

/-- Nothing is ever struck from the record. -/
theorem Move.queued_prefix (h : Move s l s') : s.queued <+: s'.queued := by
  cases h with
  | insertQueue t irp hseq hlive | insertCancelled t irp hseq hlive =>
      exact List.prefix_append _ _
  | _ => exact List.prefix_rfl

end Steps

/-! ## Runs -/

section Runs

variable [DecidableEq ι] {shared : XenconsInterface} {s₀ s : RingSys ι}

/-- **`RingClose` completes the requests of its file**: in a run in which no activation puts one of
    them back behind the scan, when the close, the polls and the other scans are over, none of the
    requests queued before the close started is left in a queue and all of them are completed. -/
theorem close_completes {c : Nat} {file : FileObject}
    (h₀ : Reach (ringSystem ι) (fun _ _ => True) (RingSys.init ι shared) s₀)
    (he : ringEnabled s₀ (.closeStart c file))
    (h : Reach (ringSystem ι) (NotPutBehind c file s₀.queued)
      (ringNext s₀ (.closeStart c file)) s)
    (hdone : s.canceler c = .done (some file)) (hpoll : ∀ a, s.poll a = .idle)
    (hscan : ∀ c', s.canceler c' = .idle ∨ ∃ ctx, s.canceler c' = .done ctx) :
    ∀ irp ∈ s₀.queued, irp.fileObject = file →
      (∀ d, irp ∉ s.queue d) ∧ ∃ done ∈ s.completed, done.irp.seq = irp.seq := by
  have hs₀ := reach_sound h₀
  have hall : Reach (ringSystem ι) (fun _ _ => True) (RingSys.init ι shared) s :=
    Reach.trans (.step (S := ringSystem ι) (.closeStart c file) h₀ he trivial)
      (h.mono fun _ _ _ => trivial)
  have hs := reach_sound hall
  have hpend : AllPending s₀ :=
    h₀.ringInvariant (allPending_init ι shared) (allPending_init ι shared)
      fun _ _ _ hp _ hm => hm.allPending hp
  have hinv : Cleared c file s₀.queued s ∧ s₀.queued <+: s.queued := by
    refine h.ringInvariant (I := fun s => Cleared c file s₀.queued s ∧ s₀.queued <+: s.queued)
      ((Move.closeStart c file he.1 he.2).allPending hpend) ⟨⟨?_, le_rfl, fun d hp => ?_⟩,
        List.prefix_rfl⟩ fun s l s' hi hl hm =>
      ⟨hm.cleared (fun irp hirp => hs₀.seq_lt hirp) hi.1 hl, hi.2.trans hm.queued_prefix⟩
    · simp [CancelPc.Closes]
    · simp [CancelPc.Passed] at hp
  intro irp hirp hfile
  have hrec : irp ∈ s.queued := hinv.2.subset hirp
  have hnot : ∀ d, irp ∉ s.queue d := fun d hmem =>
    hinv.1.cleared d (by rw [hdone]; trivial) irp hmem hirp hfile
  refine ⟨hnot, ?_⟩
  obtain ⟨p, hmem⟩ := ((reach_placed hall).cover irp.seq).mp (hs.seq_lt hrec)
  cases p with
  | completed => simpa using hmem
  | queue d =>
      obtain ⟨irp', hirp', hseq⟩ := List.mem_map.mp hmem
      exact absurd (hs.eq_of_seq (hs.queue d irp' hirp').1 hrec hseq ▸ hirp') (hnot d)
  | poll a => simp [hpoll a] at hmem
  | canceler c' =>
      rcases hscan c' with h' | ⟨ctx, h'⟩ <;> simp [h', CancelPc.held] at hmem

end Runs

/-- An activation has taken a read of file 7 and found nothing to copy; then `RingClose` comes. -/
def blockedRead : List (RingLabel Unit) :=
  [.insert 0 (.oneByte 0 .read 7 0) false, .pollStart (), .pollStep (), .pollStep ()]

theorem reach_blockedRead : Reach (ringSystem Unit) (fun _ _ => True) (RingSys.init Unit .zero)
    (runs (ringSystem Unit) (RingSys.init Unit .zero) blockedRead) :=
  .of_admits _ .start ⟨⟨rfl, rfl, rfl⟩, trivial, ⟨rfl, rfl⟩, trivial, nofun, trivial, nofun, trivial,
    trivial⟩

/-- The read goes back before the scan, which then finds it. -/
def scanAfterPutBack : List (RingLabel Unit) :=
  [.pollStep (), .pollStep (), .cancelStep 0, .cancelStep 0, .cancelStep 0, .cancelStep 0]

/-- The read goes back behind the scan. -/
def scanBeforePutBack : List (RingLabel Unit) :=
  [.cancelStep 0, .cancelStep 0, .pollStep (), .pollStep ()]

theorem close_completes_blockedRead :
    ∃ done ∈ (runs (ringSystem Unit) (ringNext (runs (ringSystem Unit)
        (RingSys.init Unit .zero) blockedRead) (.closeStart 0 7)) scanAfterPutBack).completed,
      done.irp.seq = 0 := by
  have hreach : Reach (ringSystem Unit)
      (NotPutBehind 0 7 (runs (ringSystem Unit) (RingSys.init Unit .zero) blockedRead).queued)
      (ringNext (runs (ringSystem Unit) (RingSys.init Unit .zero) blockedRead) (.closeStart 0 7))
      (runs (ringSystem Unit) (ringNext (runs (ringSystem Unit)
        (RingSys.init Unit .zero) blockedRead) (.closeStart 0 7)) scanAfterPutBack) :=
    .of_admits _ .start ⟨nofun, fun _ _ _ _ _ _ h => h, nofun, nofun, ⟨nofun, nofun⟩, trivial,
      ⟨nofun, nofun⟩, trivial, ⟨nofun, nofun⟩, trivial, ⟨nofun, nofun⟩, trivial, trivial⟩
  refine (close_completes reach_blockedRead ⟨rfl, rfl⟩ hreach rfl (fun _ => rfl) (fun c => ?_)
    (.oneByte 0 .read 7 0) List.mem_cons_self rfl).2
  cases c with
  | zero => exact .inr ⟨some 7, rfl⟩
  | succ c => exact .inl rfl

/-- When the read goes back behind the scan, it stays in the queue. -/
theorem put_behind_close : ¬∀ (s₀ s : RingSys Unit),
    Reach (ringSystem Unit) (fun _ _ => True) (RingSys.init Unit .zero) s₀ →
    ringEnabled s₀ (.closeStart 0 7) →
    Reach (ringSystem Unit) (fun _ _ => True) (ringNext s₀ (.closeStart 0 7)) s →
    s.canceler 0 = .done (some 7) → (∀ a, s.poll a = .idle) →
    ∀ irp ∈ s₀.queued, irp.fileObject = 7 →
      (∀ d, irp ∉ s.queue d) ∧ ∃ done ∈ s.completed, done.irp.seq = irp.seq := by
  intro hall
  have hreach : Reach (ringSystem Unit) (fun _ _ => True)
      (ringNext (runs (ringSystem Unit) (RingSys.init Unit .zero) blockedRead) (.closeStart 0 7))
      (runs (ringSystem Unit) (ringNext (runs (ringSystem Unit)
        (RingSys.init Unit .zero) blockedRead) (.closeStart 0 7)) scanBeforePutBack) :=
    .of_admits _ .start ⟨⟨nofun, nofun⟩, trivial, ⟨nofun, nofun⟩, trivial, nofun, trivial, nofun,
      trivial, trivial⟩
  have hno := (hall _ _ reach_blockedRead ⟨rfl, rfl⟩ hreach rfl (fun _ => rfl)
    (.oneByte 0 .read 7 0) List.mem_cons_self rfl).1 .read
  exact hno List.mem_cons_self

end Xencons
