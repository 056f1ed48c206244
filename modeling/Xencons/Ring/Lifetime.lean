import Xencons.Lib.Chain
import Xencons.Ring.Dpc

/-!
# When RingDpc may touch the page and the channel

`RingDpc` looks at `Enabled` under the lock and then works without it; nothing keeps the ring
connected meanwhile, and nothing keeps a DPC of a ring that is not connected from running to its
`Unmask`.

* `Live` -- page and channel are those of the last `RingConnect` and still there; `Uses` -- the
  steps of `RingDpc` that touch them;
* `Wired` -- what the control thread guarantees by itself: page, channel and `Enabled` are at each
  of its steps as the steps still to come need them, so a ring that is enabled is connected;
* `Disciplined` -- what nobody enforces: no activation finds `Enabled` FALSE on a ring that is not
  connected, and nothing is torn down behind the back of one that has looked;
* `uses_live` -- disciplined runs; `used_after_look`, `used_after_teardown` -- without the
  discipline the next `Unmask` goes wrong; `unmask_never_connected` -- a `PutQueue` on a ring that
  has never been connected.
-/

namespace Xencons

open Lib Function DpcSys

/-! ## 1. What is touched, and when it is there -/

/-- **The ring is connected**: `Shared` and `Channel` are what the last `RingConnect` installed, the
    page has not been freed and the channel has not been closed. -/
def Live (s : DpcSys) : Prop :=
  s.shared = some s.generation ∧ s.channel = some s.generation ∧ s.pageMapped = true ∧
    s.evtchn.isOpen = true

/-- The step copies from or to `Ring->Shared`, or passes `Ring->Channel` to the `Unmask`. -/
def Uses (s : DpcSys) : DpcLabel → Prop
  | .dpc a => s.activation a = .polling ∧ (∃ d irp, s.ring.poll a = .copy d irp) ∨
      s.activation a = .unmask
  | _ => False

/-- Steps after which the ring is no longer connected. -/
def RingOp.TearsDown : RingOp → Prop
  | .closeChannel | .clearChannel | .freeShared => True
  | _ => False

/-- The activation has looked at `Enabled` and still has its `Unmask` to come. -/
def DpcPc.HasLooked : DpcPc → Prop
  | .polling | .unmask => True
  | .idle | .top => False

/-- **The discipline**: an activation that finds `Enabled` FALSE finds a connected ring, and nothing
    is torn down while an activation has looked. -/
def Disciplined (s : DpcSys) : DpcLabel → Prop
  | .dpc a => s.activation a = .top → s.enabled = false → Live s
  | .control => ∀ op ops, s.ops = op :: ops → op.TearsDown → ∀ a, ¬(s.activation a).HasLooked
  | _ => True

/-! ## 2. What the control calls rely on -/

/-- What the steps of the control calls set and clear. -/
inductive RingItem where
  /-- `Ring->Shared`, and the page itself -/
  | page
  /-- `Ring->Channel` -/
  | channel
  /-- the channel itself -/
  | isOpen
  /-- the first unmask of the channel is still to come -/
  | fresh
  /-- `Ring->Enabled` -/
  | enabled

/-- **What each step relies on and what it leaves.** `RingEnable` and `RingDisable` come to a
    connected ring, and page and channel are installed and torn down with `Enabled` FALSE. -/
def RingItem.effect : RingItem → Effect RingOp Bool
  | .page, .mapShared => some (false, true)
  | .page, .freeShared => some (true, false)
  | .page, .setEnabled _ => some (true, true)
  | .channel, .openChannel success => some (false, success)
  | .channel, .closeChannel => some (true, true)
  | .channel, .clearChannel => some (true, false)
  | .channel, .setEnabled _ => some (true, true)
  | .isOpen, .openChannel success => some (false, success)
  | .isOpen, .closeChannel => some (true, false)
  | .isOpen, .clearChannel => some (false, false)
  | .isOpen, .setEnabled _ => some (true, true)
  | .fresh, .openChannel success => some (false, success)
  | .fresh, .forceUnmask => some (true, false)
  | .enabled, .setEnabled value => some (!value, value)
  | .enabled, .mapShared | .enabled, .freeShared | .enabled, .openChannel _
  | .enabled, .closeChannel | .enabled, .clearChannel => some (false, false)
  | _, _ => none

/-- What a control call that leads to a stage leaves. -/
def RingItem.final : RingItem → RingStage → Bool
  | .page, .connected | .page, .enabled => true
  | .channel, .connected | .channel, .enabled => true
  | .isOpen, .connected | .isOpen, .enabled => true
  | .enabled, .enabled => true
  | _, _ => false

/-- What the steps still to come need. -/
def DpcSys.wants (s : DpcSys) (i : RingItem) : Bool := wanted i.effect (i.final s.stage) s.ops

/-- Page, channel and `Enabled` are as the steps still to come need them, and each of these leaves
    what the next one needs. -/
structure Wired (s : DpcSys) : Prop where
  shared : s.shared = if s.wants .page then some s.generation else none
  pageMapped : s.pageMapped = s.wants .page
  channel : s.channel = if s.wants .channel then some s.generation else none
  isOpen : s.evtchn.isOpen = s.wants .isOpen
  enabled : s.enabled = s.wants .enabled
  chained : ∀ i : RingItem, Chained i.effect (i.final s.stage) s.ops

/-- Page and channel, and what the control thread has still to do, are as they were. -/
structure Untouched (s s' : DpcSys) : Prop where
  shared : s'.shared = s.shared
  channel : s'.channel = s.channel
  generation : s'.generation = s.generation
  pageMapped : s'.pageMapped = s.pageMapped
  isOpen : s'.evtchn.isOpen = s.evtchn.isOpen
  enabled : s'.enabled = s.enabled
  stage : s'.stage = s.stage
  ops : s'.ops = s.ops

/-- Steps of the control thread. -/
def DpcLabel.ByControl : DpcLabel → Prop
  | .start _ | .control => True
  | _ => False

section Steps

variable {s s' : DpcSys} {l : DpcLabel}

/-- `RingDpc` unmasks the channel, and touches nothing else of it. -/
theorem untouched_ringDpcStep (s : DpcSys) (a : Nat) : Untouched s (s.ringDpcStep a) := by
  unfold ringDpcStep
  cases s.activation a with
  | idle => exact ⟨rfl, rfl, rfl, rfl, rfl, rfl, rfl, rfl⟩
  | top =>
      simp only
      split <;> exact ⟨rfl, rfl, rfl, rfl, rfl, rfl, rfl, rfl⟩
  | polling =>
      simp only
      split <;> exact ⟨rfl, rfl, rfl, rfl, rfl, rfl, rfl, rfl⟩
  | unmask =>
      refine ⟨rfl, rfl, rfl, rfl, ?_, rfl, rfl, rfl⟩
      simp only [setActivation]
      split
      · exact ChannelState.unmask_isOpen _ _
      · rfl

/-- **Page and channel change hands on the control thread only.** -/
theorem untouched_next (he : dpcEnabled s l) (hl : ¬l.ByControl) : Untouched s (dpcNext s l) := by
  cases l with
  | start action | control => exact absurd trivial hl
  | dpc a => exact untouched_ringDpcStep s a
  | putQueued t =>
      simp only [dpcNext, ringPutQueued]
      split <;> exact ⟨rfl, rfl, rfl, rfl, rfl, rfl, rfl, rfl⟩
  | callback =>
      simp only [dpcNext, ringEvtchnCallback]
      split <;> exact ⟨rfl, rfl, rfl, rfl, he.1.symm, rfl, rfl, rfl⟩
  | ring l | event | dispatch a => exact ⟨rfl, rfl, rfl, rfl, rfl, rfl, rfl, rfl⟩

theorem Untouched.live_iff (hs : Untouched s s') : Live s' ↔ Live s := by
  rw [Live, hs.shared, hs.channel, hs.generation, hs.pageMapped, hs.isOpen, Live]

theorem Untouched.wants (hs : Untouched s s') (i : RingItem) : s'.wants i = s.wants i := by
  rw [DpcSys.wants, hs.stage, hs.ops, DpcSys.wants]

theorem Wired.untouched (h : Wired s) (hs : Untouched s s') : Wired s' where
  shared := by rw [hs.shared, hs.wants, hs.generation, h.shared]
  pageMapped := by rw [hs.pageMapped, hs.wants, h.pageMapped]
  channel := by rw [hs.channel, hs.wants, hs.generation, h.channel]
  isOpen := by rw [hs.isOpen, hs.wants, h.isOpen]
  enabled := by rw [hs.enabled, hs.wants, h.enabled]
  chained := by
    rw [hs.stage, hs.ops]
    exact h.chained

/-- **Every control call is chained**: each of its steps leaves what the rest of it needs. -/
theorem chained_ops {action : RingAction} {from_ stage : RingStage}
    (hnext : action.next from_ = some stage) (i : RingItem) :
    Chained i.effect (i.final stage) action.ops := by
  cases from_ <;> rcases action with (_ | _ | _ | _ | _) | _ | _ | _ <;> cases hnext <;> cases i <;>
    decide

/-- **And it starts with what it needs.** -/
theorem wanted_ops {action : RingAction} {from_ stage : RingStage}
    (hnext : action.next from_ = some stage) (i : RingItem) :
    wanted i.effect (i.final stage) action.ops = i.final from_ := by
  cases from_ <;> rcases action with (_ | _ | _ | _ | _) | _ | _ | _ <;> cases hnext <;> cases i <;>
    rfl

theorem wants_startAction (hops : s.ops = []) {action : RingAction} {stage : RingStage}
    (hnext : action.next s.stage = some stage) (i : RingItem) :
    (s.startAction action stage).wants i = s.wants i := by
  have h : (s.startAction action stage).wants i = wanted i.effect (i.final stage) action.ops := by
    cases action <;> rfl
  rw [h, wanted_ops hnext, wants, hops, wanted_nil]

/-- `RingConnect` comes to a ring without page and channel. -/
theorem wants_connect (hops : s.ops = []) {outcome : ConnectOutcome} {stage : RingStage}
    (hnext : (RingAction.connect outcome).next s.stage = some stage) (i : RingItem) :
    s.wants i = false := by
  have hstage : s.stage = .disconnected := by
    cases hs : s.stage <;> rw [hs] at hnext <;> first | rfl | cases hnext
  rw [wants, hops, wanted_nil, hstage]
  cases i <;> rfl

theorem Wired.start (h : Wired s) (hops : s.ops = []) {action : RingAction} {stage : RingStage}
    (hnext : action.next s.stage = some stage) : Wired (s.startAction action stage) := by
  have hwants := wants_startAction hops hnext
  have hchained := chained_ops hnext
  obtain ⟨hshared, hmapped, hchannel, hopen, henabled, -⟩ := h
  cases action with
  | connect outcome =>
      have hnot := wants_connect hops hnext
      rw [hnot, if_neg Bool.false_ne_true] at hshared hchannel
      refine ⟨?_, ?_, ?_, ?_, ?_, hchained⟩ <;> rw [hwants]
      · rw [hnot, if_neg Bool.false_ne_true]
        exact hshared
      · exact hmapped
      · rw [hnot, if_neg Bool.false_ne_true]
        exact hchannel
      · exact hopen
      · exact henabled
  | enable | disable | disconnect =>
      refine ⟨?_, ?_, ?_, ?_, ?_, hchained⟩ <;> rw [hwants]
      · exact hshared
      · exact hmapped
      · exact hchannel
      · exact hopen
      · exact henabled

/-- What is wanted behind a step of a control call is what the step leaves. -/
theorem Wired.wants_control (h : Wired s) {op : RingOp} {ops : List RingOp}
    (hops : s.ops = op :: ops) (i : RingItem) :
    ({ s with ops := ops }.controlStep op).wants i = i.effect.after op (s.wants i) := by
  have hsame : ({ s with ops := ops }.controlStep op).wants i =
      wanted i.effect (i.final s.stage) ops := by
    rcases op with _ | (_ | _) | _ | _ | _ | _ | _ | _ | _ | _ | _ | _ <;> rfl
  have hchained := h.chained i
  rw [hops] at hchained
  rw [hsame, hchained.after_eq (by rw [wants, hops])]

/-- A step that leaves what it needs changes nothing. -/
theorem Wired.wants_keep (h : Wired s) {op : RingOp} {ops : List RingOp} (hops : s.ops = op :: ops)
    (i : RingItem) (hkeep : i.effect.Keeps op) :
    ({ s with ops := ops }.controlStep op).wants i = s.wants i := by
  rw [h.wants_control hops, wants, hops]
  exact hkeep.after_before _

/-- **Every step of a control call leaves what the rest of it needs.** -/
theorem Wired.control (h : Wired s) {op : RingOp} {ops : List RingOp} (hops : s.ops = op :: ops) :
    Wired ({ s with ops := ops }.controlStep op) := by
  have hset := h.wants_control hops
  have hkeep := h.wants_keep hops
  refine ⟨?_, ?_, ?_, ?_, ?_, ?_⟩
  · cases op with
    | mapShared | freeShared => rw [hset .page]; rfl
    | openChannel success => cases success <;> rw [hkeep .page trivial] <;> exact h.shared
    | _ => rw [hkeep .page (by trivial)]; exact h.shared
  · cases op with
    | mapShared | freeShared => rw [hset .page]; rfl
    | openChannel success => cases success <;> rw [hkeep .page trivial] <;> exact h.pageMapped
    | _ => rw [hkeep .page (by trivial)]; exact h.pageMapped
  · cases op with
    | openChannel success => cases success <;> rw [hset .channel] <;> rfl
    | clearChannel => rw [hset .channel]; rfl
    | _ => rw [hkeep .channel (by trivial)]; exact h.channel
  · cases op with
    | openChannel success =>
        cases success with
        | true => rw [hset .isOpen]; rfl
        | false => rw [hkeep .isOpen rfl]; exact h.isOpen
    | closeChannel => rw [hset .isOpen]; rfl
    | forceUnmask =>
        rw [hkeep .isOpen trivial, controlStep, ChannelState.unmask_isOpen]
        exact h.isOpen
    | _ => rw [hkeep .isOpen (by trivial)]; exact h.isOpen
  · cases op with
    | setEnabled value => rw [hset .enabled]; rfl
    | openChannel success => cases success <;> rw [hkeep .enabled rfl] <;> exact h.enabled
    | _ => rw [hkeep .enabled (by trivial)]; exact h.enabled
  · have hchained := h.chained
    rw [hops] at hchained
    rcases op with _ | (_ | _) | _ | _ | _ | _ | _ | _ | _ | _ | _ | _ <;>
      exact fun i => (hchained i).2

/-- **Every step keeps the wiring.** -/
theorem wired_next (h : Wired s) (he : dpcEnabled s l) : Wired (dpcNext s l) := by
  cases l with
  | start action =>
      obtain ⟨stage, hstage⟩ := Option.isSome_iff_exists.mp he.2
      simp only [dpcNext, hstage, Option.getD_some]
      exact h.start he.1 hstage
  | control =>
      cases hops : s.ops with
      | nil => exact absurd hops he
      | cons op ops =>
          simp only [dpcNext, hops]
          exact h.control hops
  | _ => exact h.untouched (untouched_next he id)

/-- Where one thing is there, another one is. -/
theorem wants_imp {i j : RingItem} (hfinal : ∀ stage, i.final stage = true → j.final stage = true)
    (hstep : ∀ op v w, (v = true → w = true) →
      i.effect.before op v = true → j.effect.before op w = true) :
    s.wants i = true → s.wants j = true :=
  wanted_rel (r := fun v w => v = true → w = true) (hfinal s.stage) hstep s.ops

/-- **An open channel is the one `Ring->Channel` names.** -/
theorem Wired.named (h : Wired s) (hopen : s.evtchn.isOpen = true) :
    s.channel = some s.generation := by
  have himp : s.wants .isOpen = true → s.wants .channel = true := by
    refine wants_imp (fun stage => ?_) fun op v w hvw => ?_
    · cases stage <;> exact id
    · cases op <;> first | exact hvw | exact id | exact fun _ => rfl
  rw [h.channel, himp (h.isOpen ▸ hopen), if_pos rfl]

/-- **A ring that is enabled is connected.** -/
theorem Wired.live_of_enabled (h : Wired s) (he : s.enabled = true) : Live s := by
  have himp (i : RingItem) (hi : i = .page ∨ i = .isOpen) :
      s.wants .enabled = true → s.wants i = true := by
    refine wants_imp (fun stage => ?_) fun op v w hvw => ?_
    · rcases hi with rfl | rfl <;> cases stage <;> first | exact id | exact nofun
    · rcases hi with rfl | rfl <;> cases op <;>
        first | exact hvw | exact fun _ => rfl | exact nofun
  rw [h.enabled] at he
  have hpage := himp .page (.inl rfl) he
  have hopen : s.evtchn.isOpen = true := h.isOpen.trans (himp .isOpen (.inr rfl) he)
  exact ⟨by rw [h.shared, hpage, if_pos rfl], h.named hopen, h.pageMapped.trans hpage, hopen⟩

/-- A ring without a channel is not connected. -/
theorem Wired.not_live (h : Wired s) (hw : s.wants .channel = false) : ¬Live s := fun hl => by
  rw [Live, h.channel, hw, if_neg Bool.false_ne_true] at hl
  exact nomatch hl.2.1

/-! ## 3. The discipline -/

/-- Whoever has looked has a connected ring. -/
def LookedLive (s : DpcSys) : Prop :=
  ∀ a, (s.activation a).HasLooked → Live s

theorem LookedLive.start (hw : Wired s) (h : LookedLive s) (hops : s.ops = [])
    {action : RingAction} {stage : RingStage} (hnext : action.next s.stage = some stage) :
    LookedLive (s.startAction action stage) := by
  cases action with
  | connect outcome =>
      have hdead : ¬Live s := hw.not_live (wants_connect hops hnext .channel)
      exact fun a hlook => absurd (h a hlook) hdead
  | enable | disable | disconnect => exact h

theorem LookedLive.control (hw : Wired s) (h : LookedLive s) {op : RingOp} {ops : List RingOp}
    (hops : s.ops = op :: ops) (hd : op.TearsDown → ∀ a, ¬(s.activation a).HasLooked) :
    LookedLive ({ s with ops := ops }.controlStep op) := by
  cases op with
  | closeChannel | clearChannel | freeShared => exact fun a hlook => absurd hlook (hd trivial a)
  | mapShared => exact fun a hlook => ⟨rfl, (h a hlook).2.1, rfl, (h a hlook).2.2.2⟩
  | openChannel success =>
      have hdead : ¬Live s := hw.not_live (by rw [wants, hops]; rfl)
      cases success <;> exact fun a hlook => absurd (h a hlook) hdead
  | forceUnmask =>
      refine fun a hlook => ⟨(h a hlook).1, (h a hlook).2.1, (h a hlook).2.2.1, ?_⟩
      rw [controlStep, ChannelState.unmask_isOpen]
      exact (h a hlook).2.2.2
  | _ => exact h

/-- **A step taken with discipline leaves a connected ring to whoever has looked.** -/
theorem lookedLive_next (hw : Wired s) (h : LookedLive s) (he : dpcEnabled s l)
    (hd : Disciplined s l) : LookedLive (dpcNext s l) := by
  cases l with
  | start action =>
      obtain ⟨stage, hstage⟩ := Option.isSome_iff_exists.mp he.2
      simp only [dpcNext, hstage, Option.getD_some]
      exact h.start hw he.1 hstage
  | control =>
      cases hops : s.ops with
      | nil => exact absurd hops he
      | cons op ops =>
          simp only [dpcNext, hops]
          exact h.control hw hops (hd op ops hops)
  | dpc a =>
      have hlive : Live s := by
        cases hpc : s.activation a with
        | idle => exact absurd hpc he
        | top =>
            cases henabled : s.enabled with
            | true => exact hw.live_of_enabled henabled
            | false => exact hd hpc henabled
        | polling | unmask => exact h a (by rw [hpc]; trivial)
      exact fun _ _ => (untouched_ringDpcStep s a).live_iff.mpr hlive
  | dispatch a =>
      intro b hlook
      by_cases hba : b = a
      · subst hba
        simp only [dpcNext, setActivation_activation, update_self] at hlook
        exact hlook.elim
      · simp only [dpcNext, setActivation_activation, update_of_ne hba] at hlook
        exact h b hlook
  | putQueued t =>
      simp only [dpcNext, ringPutQueued]
      split <;> exact h
  | callback =>
      have hsame : (dpcNext s .callback).activation = s.activation := by
        simp only [dpcNext, ringEvtchnCallback]
        split <;> rfl
      exact fun a hlook => (untouched_next he id).live_iff.mpr (h a (hsame ▸ hlook))
  | ring l | event => exact h

/-- **An activation that finds `Enabled` FALSE on a ring that is not connected** unmasks next. -/
theorem used_after_look {a : Nat} (hpc : s.activation a = .top) (he : s.enabled = false)
    (hdead : ¬Live s) :
    Uses (dpcNext s (.dpc a)) (.dpc a) ∧ ¬Live (dpcNext s (.dpc a)) := by
  refine ⟨.inr ?_, fun hl => hdead ((untouched_ringDpcStep s a).live_iff.mp hl)⟩
  simp [dpcNext, ringDpcStep, hpc, he]

/-- **What is torn down behind the back of an activation about to use it** is used next. -/
theorem used_after_teardown {a : Nat} {op : RingOp} {ops : List RingOp} (hops : s.ops = op :: ops)
    (ht : op.TearsDown) (hu : Uses s (.dpc a)) :
    Uses (dpcNext s .control) (.dpc a) ∧ ¬Live (dpcNext s .control) := by
  simp only [dpcNext, hops]
  cases op with
  | closeChannel => exact ⟨hu, fun hl => nomatch hl.2.2.2⟩
  | clearChannel => exact ⟨hu, fun hl => nomatch hl.2.1⟩
  | freeShared => exact ⟨hu, fun hl => nomatch hl.1⟩
  | _ => exact ht.elim

end Steps

theorem wired_init : Wired .init :=
  ⟨rfl, rfl, rfl, rfl, rfl, fun _ => trivial⟩

/-! ## 4. Runs -/

theorem reach_wired {P : DpcSys → DpcLabel → Prop} {s : DpcSys} (h : Reach dpcSystem P .init s) :
    Wired s :=
  h.invariant wired_init fun _ _ hw he _ => wired_next hw he

/-- **Page and channel are there when `RingDpc` uses them**, in every run in which no activation
    finds `Enabled` FALSE on a ring that is not connected and nothing is torn down while an
    activation has looked. -/
theorem uses_live {s : DpcSys} (h : Reach dpcSystem Disciplined .init s) :
    ∀ l, dpcEnabled s l → Uses s l → Live s := by
  have hlooked : LookedLive s :=
    h.invariant_using (fun _ h' => reach_wired h') (fun _ hlook => hlook.elim)
      fun _ _ hw hr he hd => lookedLive_next hw hr he hd
  intro l he hu
  cases l with
  | dpc a =>
      rcases hu with ⟨hpc, -⟩ | hpc <;> exact hlooked a (by rw [hpc]; trivial)
  | _ => exact hu.elim

/-- `RingConnect`, `RingEnable`, and the DPC it queues, up to its `Unmask`. -/
def enabledPoll : List DpcLabel :=
  [.start (.connect .success), .control, .control, .control, .control, .start .enable, .control,
    .control, .dispatch 0, .dpc 0, .dpc 0, .dpc 0]

theorem uses_live_enabledPoll : Live (runs dpcSystem .init enabledPoll) := by
  have hreach : Reach dpcSystem Disciplined .init (runs dpcSystem .init enabledPoll) := by
    refine .of_admits _ .start ⟨⟨rfl, rfl⟩, trivial, nofun, ?_, nofun, ?_, nofun, ?_, nofun, ?_,
      ⟨rfl, rfl⟩, trivial, nofun, ?_, nofun, ?_, ⟨rfl, rfl⟩, trivial, nofun, nofun, nofun, nofun,
      nofun, nofun, trivial⟩ <;> exact fun _ _ _ _ _ => id
  exact uses_live hreach (.dpc 0) nofun (.inr rfl)

/-- A write on a ring that has never been connected: its DPC finds `Enabled` FALSE and passes a
    `Channel` that is `NULL` to the `Unmask`. -/
theorem unmask_never_connected : ¬∀ s : DpcSys, Reach dpcSystem (fun _ _ => True) .init s →
    ∀ l, dpcEnabled s l → Uses s l → Live s := by
  intro hall
  have hreach : Reach dpcSystem (fun _ _ => True) .init (runs dpcSystem .init
      [.ring (.insert 0 (.oneByte 0 .write 7 65) false), .putQueued 0, .dispatch 0, .dpc 0]) :=
    .of_admits _ .start ⟨⟨trivial, rfl, rfl, rfl⟩, trivial, nofun, trivial, ⟨rfl, rfl⟩, trivial,
      nofun, trivial, trivial⟩
  have hlive := hall _ hreach (.dpc 0) nofun (.inr rfl)
  exact nomatch hlive.1

end Xencons
