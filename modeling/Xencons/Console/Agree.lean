import Xencons.Console.Stream
import Xencons.Ring.Poll
import Mathlib.Data.List.Perm.Subperm

/-!
# The two consoles beside each other (stream.c, ring.c)

The default console serves its requests in one queue and asks `CanRead` and `CanWrite` first; a PV
console has a queue for each direction and looks at what its copy returns. Both are run here over
the same requests, with the same input available and the same space free, until they stop.

* `StreamSys.serve` -- `StreamWorker` on its own, with a console that transfers
  `min(Length, available)` (`RingPoll` on its own is in Poll.lean);
* `streamReplies` -- what it completes: `stream_halts`;
* `streamRest` -- where `StreamWorker` stops: `ringReplies_split`, what `RingPoll` completes
  besides;
* `FindsRoom` -- a request finds room behind those ahead of it: `rest_blocked_iff`;
* `served_alike_iff` -- the result.
-/

namespace Xencons

open Lib Function

/-! ## 1. StreamWorker on its own -/

namespace StreamSys

/-- The thread waits for an event that nobody sets. -/
def Stopped (s : StreamSys) : Prop := s.worker = .wait ∧ s.event = false

/-- `StreamWorker` goes on; `Read` and `Write` use up what they transfer. -/
def serve (s : StreamSys) : StreamSys :=
  match s.worker with
  | .transfer irp =>
    let n := min irp.length.toNat (s.room irp.major)
    streamNext (streamNext s (.worker true (BitVec.ofNat 32 n)))
      (.use (update s.room irp.major (s.room irp.major - n)))
  | _ => streamNext s (.worker true 0)

/-- The thread has been woken for these requests. -/
def woken (room : MajorFunction → Nat) (queue : List Irp) : StreamSys :=
  { StreamSys.init with
    room := room
    list := queue
    put := queue
    event := true
    wakeup := true
    worker := .wait }

end StreamSys

open StreamSys RingSys

/-! ## 2. What it completes -/

/-- What `StreamWorker` completes: it stops at the first request that is blocked. -/
def streamReplies : (MajorFunction → Nat) → List Irp → List Reply
  | _, [] => []
  | room, irp :: rest =>
    if room irp.major = 0 then []
    else
      let n := min irp.length.toNat (room irp.major)
      irp.served n :: streamReplies (update room irp.major (room irp.major - n)) rest

section Stream

variable {s : StreamSys} {irp : Irp} {rest : List Irp}

/-- A step of the thread that has not stopped. -/
theorem advance_serve {s' : StreamSys} (h : ¬Stopped s) (e : serve s = s') :
    Relation.ReflTransGen (Advance serve Stopped) s s' := .single ⟨h, e⟩

/-- A head that is blocked goes back, and the thread waits. -/
theorem serve_blocked (hpc : s.worker = .dequeue) (hl : s.list = irp :: rest)
    (hc : s.cancel irp.seq = false) (hroom : s.room irp.major = 0) :
    Relation.ReflTransGen (Advance serve Stopped) s { s with worker := .wait } := by
  have htake : serve s = { s with list := rest, worker := .test irp } := by
    simp [serve, hpc, hl, streamNext, streamWorkerStep]
  have htest : serve { s with list := rest, worker := .test irp } =
      { s with list := rest, worker := .putBack irp } := by
    simp [serve, streamNext, streamWorkerStep, Blocked, hroom]
  have hback : serve { s with list := rest, worker := .putBack irp } =
      { s with worker := .wait } := by
    simp [serve, streamNext, streamWorkerStep, StreamSys.ioCsqInsertIrpEx, streamCsqInsertIrpEx,
      hc, hl]
  refine (advance_serve (by simp [Stopped, hpc]) htake).trans ?_
  refine (advance_serve (by simp [Stopped]) htest).trans ?_
  exact advance_serve (by simp [Stopped]) hback

/-- The stream when its head has been served. -/
def StreamSys.headServed (s : StreamSys) (irp : Irp) (rest : List Irp) (n : Nat) : StreamSys :=
  { s with
    room := update s.room irp.major (s.room irp.major - n)
    list := rest
    calls := s.calls ++ [⟨irp, BitVec.ofNat 32 n⟩]
    completed := s.completed ++ [⟨irp, .success, BitVec.ofNat 32 n⟩] }

/-- A head that is not blocked is completed with what it is given. -/
theorem serve_head (hpc : s.worker = .dequeue) (hl : s.list = irp :: rest)
    (hroom : s.room irp.major ≠ 0) :
    Relation.ReflTransGen (Advance serve Stopped) s
      (s.headServed irp rest (min irp.length.toNat (s.room irp.major))) := by
  have htake : serve s = { s with list := rest, worker := .test irp } := by
    simp [serve, hpc, hl, streamNext, streamWorkerStep]
  have htest : serve { s with list := rest, worker := .test irp } =
      { s with list := rest, worker := .transfer irp } := by
    simp [serve, streamNext, streamWorkerStep, Blocked, hroom]
  let n := min irp.length.toNat (s.room irp.major)
  let s₁ : StreamSys := { s with
    room := update s.room irp.major (s.room irp.major - n)
    list := rest
    calls := s.calls ++ [⟨irp, BitVec.ofNat 32 n⟩]
    worker := .complete irp (BitVec.ofNat 32 n) }
  have htransfer : serve { s with list := rest, worker := .transfer irp } = s₁ := rfl
  have hcomplete : serve s₁ = s.headServed irp rest n := by
    simp [s₁, serve, streamNext, streamWorkerStep, StreamSys.ioCompleteRequest, headServed, hpc]
  refine (advance_serve (by simp [Stopped, hpc]) htake).trans ?_
  refine (advance_serve (by simp [Stopped]) htest).trans ?_
  refine (advance_serve (by simp [Stopped]) htransfer).trans ?_
  exact advance_serve (by simp [Stopped, s₁]) hcomplete

/-- The loop of `StreamWorker` over its queue. -/
theorem stream_loop (list : List Irp) : ∀ s : StreamSys, s.worker = .dequeue → s.list = list →
    s.event = false → (∀ seq, s.cancel seq = false) → ∃ s', Halts serve Stopped s s' ∧
      s'.completed.map (·.reply) = s.completed.map (·.reply) ++ streamReplies s.room list := by
  induction list with
  | nil =>
      intro s hpc hl hev _
      have hend : serve s = { s with worker := .wait } := by
        simp [serve, hpc, hl, streamNext, streamWorkerStep]
      refine ⟨{ s with worker := .wait },
        .append (advance_serve (by simp [Stopped, hpc]) hend) ⟨.refl, rfl, hev⟩, ?_⟩
      exact (List.append_nil _).symm
  | cons irp rest ih =>
      intro s hpc hl hev hc
      by_cases hroom : s.room irp.major = 0
      · refine ⟨{ s with worker := .wait },
          .append (serve_blocked hpc hl (hc _) hroom) ⟨.refl, rfl, hev⟩, ?_⟩
        simp [streamReplies, hroom]
      · obtain ⟨s', hs', hreplies⟩ := ih (s.headServed irp rest _) hpc rfl hev hc
        refine ⟨s', .append (serve_head hpc hl hroom) hs', ?_⟩
        rw [hreplies, streamReplies, if_neg hroom]
        simp [headServed, Completion.reply, Irp.served]

/-- **What `StreamWorker` completes until it stops.** -/
theorem stream_halts (room : MajorFunction → Nat) (queue : List Irp) :
    ∃ s, Halts serve Stopped (woken room queue) s ∧
      s.completed.map (·.reply) = streamReplies room queue := by
  let s₀ : StreamSys := { woken room queue with event := false, worker := .dequeue }
  obtain ⟨s, hs, hreplies⟩ := stream_loop queue s₀ rfl rfl rfl fun _ => rfl
  refine ⟨s, .append ?_ hs, hreplies⟩
  have hwait : serve (woken room queue) = { woken room queue with worker := .clear } := rfl
  have hclear : serve { woken room queue with worker := .clear } =
      { woken room queue with event := false, worker := .alerted } := rfl
  refine (advance_serve (by simp [Stopped, woken]) hwait).trans ?_
  refine (advance_serve (by simp [Stopped]) hclear).trans ?_
  exact advance_serve (by simp [Stopped]) rfl

end Stream

/-! ## 3. Where the stream stops -/

/-- The room that is left where `StreamWorker` stops, and the requests it has not served. -/
def streamRest : (MajorFunction → Nat) → List Irp → (MajorFunction → Nat) × List Irp
  | room, [] => (room, [])
  | room, irp :: rest =>
    if room irp.major = 0 then (room, irp :: rest)
    else
      streamRest
        (update room irp.major (room irp.major - min irp.length.toNat (room irp.major))) rest

/-- The bytes that requests of one direction ask for. -/
def asked (d : MajorFunction) (list : List Irp) : Nat :=
  ((list.filter (·.major = d)).map (·.length.toNat)).sum

/-- A request finds room behind the ones ahead of it. -/
def FindsRoom (room : MajorFunction → Nat) (ahead : List Irp) (irp : Irp) : Prop :=
  asked irp.major ahead < room irp.major

instance (room : MajorFunction → Nat) (ahead : List Irp) (irp : Irp) :
    Decidable (FindsRoom room ahead irp) :=
  inferInstanceAs (Decidable (_ < _))

section Rest

variable {room : MajorFunction → Nat} {queue : List Irp} {d : MajorFunction}

theorem asked_append (d : MajorFunction) (l l' : List Irp) :
    asked d (l ++ l') = asked d l + asked d l' := by
  simp [asked]

theorem asked_cons (d : MajorFunction) (irp : Irp) (l : List Irp) :
    asked d (irp :: l) = (if irp.major = d then irp.length.toNat else 0) + asked d l := by
  unfold asked
  by_cases h : irp.major = d <;> simp [h]

theorem toNat_length_ne {irp : Irp} (h : irp.length ≠ 0) : irp.length.toNat ≠ 0 := fun h0 =>
  h (BitVec.eq_of_toNat_eq h0)

/-- A request that is served takes what it asks for off the room of its direction, ... -/
theorem room_cons (room : MajorFunction → Nat) (irp : Irp) (served : List Irp)
    (d : MajorFunction) :
    update room irp.major (room irp.major - min irp.length.toNat (room irp.major)) d -
      asked d served = room d - asked d (irp :: served) := by
  rw [asked_cons]
  by_cases hd : irp.major = d
  · subst hd
    rw [update_self, if_pos rfl]
    omega
  · rw [update_of_ne (Ne.symm hd), if_neg hd, Nat.zero_add]

/-- ... so that whoever finds room in what it leaves finds room behind it. -/
theorem FindsRoom.cons {head irp : Irp} {ahead : List Irp}
    (h : FindsRoom (update room head.major
      (room head.major - min head.length.toNat (room head.major))) ahead irp) :
    FindsRoom room (head :: ahead) irp := by
  have hroom := room_cons room head ahead irp.major
  unfold FindsRoom at h ⊢
  omega

/-- **`RingPoll` completes what `StreamWorker` completes**, and goes on with what that leaves. -/
theorem ringReplies_split (room : MajorFunction → Nat) (hq : ∀ irp ∈ queue, irp.length ≠ 0)
    (d : MajorFunction) :
    ringReplies (room d) (queue.filter (·.major = d)) =
      (streamReplies room queue).filter (·.major = d) ++
        ringReplies ((streamRest room queue).1 d)
          ((streamRest room queue).2.filter (·.major = d)) := by
  induction queue generalizing room with
  | nil => rfl
  | cons irp rest ih =>
      have hne : irp.length.toNat ≠ 0 := toNat_length_ne (hq irp List.mem_cons_self)
      rw [streamReplies, streamRest]
      by_cases hroom : room irp.major = 0
      · rw [if_pos hroom, if_pos hroom]
        rfl
      · rw [if_neg hroom, if_neg hroom]
        have hih := ih (update room irp.major
          (room irp.major - min irp.length.toNat (room irp.major)))
          fun irp' h => hq irp' (List.mem_cons_of_mem _ h)
        by_cases hd : irp.major = d
        · subst hd
          rw [update_self] at hih
          rw [List.filter_cons_of_pos (by simp), ringReplies, if_neg (by omega), hih,
            List.filter_cons_of_pos (by simp [Irp.served])]
          rfl
        · rw [update_of_ne (Ne.symm hd)] at hih
          rw [List.filter_cons_of_neg (by simpa using hd), hih,
            List.filter_cons_of_neg (by simp [Irp.served, hd])]

/-- A loop completes nothing where there is nothing left, or no room. -/
theorem ringReplies_eq_nil {n : Nat} {list : List Irp} (hq : ∀ irp ∈ list, irp.length ≠ 0) :
    ringReplies n list = [] ↔ ∀ irp ∈ list, n = 0 := by
  cases list with
  | nil => simp [ringReplies]
  | cons irp rest =>
      have hne : irp.length.toNat ≠ 0 := toNat_length_ne (hq irp List.mem_cons_self)
      rw [ringReplies]
      constructor
      · intro h irp' _
        by_contra hn
        rw [if_neg (by omega)] at h
        cases h
      · intro h
        rw [if_pos (by have := h irp List.mem_cons_self; omega)]

/-- What is served and what is left. -/
theorem streamRest_spec (room : MajorFunction → Nat) (queue : List Irp) :
    ∃ served, queue = served ++ (streamRest room queue).2 ∧
      (∀ d, (streamRest room queue).1 d = room d - asked d served) ∧
      (∀ ahead irp behind, served = ahead ++ irp :: behind → FindsRoom room ahead irp) ∧
      ∀ irp rest, (streamRest room queue).2 = irp :: rest →
        (streamRest room queue).1 irp.major = 0 := by
  induction queue generalizing room with
  | nil => exact ⟨[], rfl, fun _ => rfl, fun ahead _ _ h => by simp at h, fun _ _ h => by cases h⟩
  | cons irp rest ih =>
      rw [streamRest]
      by_cases hroom : room irp.major = 0
      · rw [if_pos hroom]
        refine ⟨[], rfl, fun _ => rfl, fun ahead _ _ h => by simp at h, fun irp' rest' h => ?_⟩
        obtain ⟨rfl, -⟩ := List.cons.inj h
        exact hroom
      · rw [if_neg hroom]
        obtain ⟨served, hq, hleft, hfinds, hblocked⟩ := ih (update room irp.major
          (room irp.major - min irp.length.toNat (room irp.major)))
        refine ⟨irp :: served, congrArg (irp :: ·) hq, fun d => ?_, fun ahead irp' behind h => ?_,
          hblocked⟩
        · rw [hleft d, room_cons]
        · cases ahead with
          | nil =>
              obtain ⟨rfl, -⟩ := List.cons.inj h
              exact Nat.pos_of_ne_zero hroom
          | cons irp₀ ahead =>
              obtain ⟨rfl, hserved⟩ := List.cons.inj h
              exact (hfinds ahead irp' behind hserved).cons

/-- The first request of a direction with room, and nothing of that direction ahead of it. -/
theorem exists_first (list : List Irp) (h : ∃ irp ∈ list, room irp.major ≠ 0) :
    ∃ ahead irp behind, list = ahead ++ irp :: behind ∧ room irp.major ≠ 0 ∧
      (∀ irp' ∈ ahead, room irp'.major = 0) ∧ asked irp.major ahead = 0 := by
  induction list with
  | nil =>
      obtain ⟨irp, hmem, -⟩ := h
      exact absurd hmem List.not_mem_nil
  | cons head rest ih =>
      by_cases hhead : room head.major = 0
      · obtain ⟨irp, hmem, hroom⟩ := h
        have hrest : irp ∈ rest := (List.mem_cons.mp hmem).resolve_left fun e =>
          hroom (e ▸ hhead)
        obtain ⟨ahead, irp, behind, rfl, hroom, hahead, hasked⟩ := ih ⟨irp, hrest, hroom⟩
        refine ⟨head :: ahead, irp, behind, rfl, hroom, fun irp' h => ?_, ?_⟩
        · rcases List.mem_cons.mp h with rfl | h
          · exact hhead
          · exact hahead irp' h
        · have hne : head.major ≠ irp.major := fun e => hroom (e ▸ hhead)
          rw [asked_cons, if_neg hne, hasked]
      · exact ⟨[], head, rest, rfl, hhead, fun _ h => absurd h List.not_mem_nil, rfl⟩

/-- **Where the stream stops nothing is left with room**, if and only if no request that finds room
    stands behind one that finds none. -/
theorem rest_blocked_iff :
    (∀ irp ∈ (streamRest room queue).2, (streamRest room queue).1 irp.major = 0) ↔
      ∀ ahead irp between irp' behind, queue = ahead ++ irp :: (between ++ irp' :: behind) →
        FindsRoom room (ahead ++ irp :: between) irp' → FindsRoom room ahead irp := by
  obtain ⟨served, hq, hleft, hfinds, hblocked⟩ := streamRest_spec room queue
  constructor
  · intro hrest ahead irp between irp' behind he hf
    -- the later one is among the served, and so is whoever is ahead of it
    have hq' : served ++ (streamRest room queue).2 =
        (ahead ++ irp :: between) ++ irp' :: behind := by
      rw [← hq, he]
      simp
    rcases List.append_eq_append_iff.mp hq' with ⟨as, hahead, hr⟩ | ⟨bs, hserved, hr⟩
    · exfalso
      have hmem : irp' ∈ (streamRest room queue).2 := by rw [hr]; simp
      have h0 := hrest irp' hmem
      rw [hleft] at h0
      unfold FindsRoom at hf
      rw [hahead, asked_append] at hf
      omega
    · refine hfinds ahead irp (between ++ bs) ?_
      rw [hserved, List.append_assoc]
      rfl
  · intro hcond
    by_contra hn
    simp only [not_forall, exists_prop] at hn
    obtain ⟨pre, irp', behind, hr, hroom, hpre, hasked⟩ := exists_first _ hn
    cases pre with
    | nil => exact hroom (hblocked irp' behind hr)
    | cons irp between =>
        have h0 : (streamRest room queue).1 irp.major = 0 := hpre irp List.mem_cons_self
        have he : queue = served ++ irp :: (between ++ irp' :: behind) := by
          rw [hr] at hq
          simpa using hq
        have hf : FindsRoom room (served ++ irp :: between) irp' := by
          unfold FindsRoom
          rw [asked_append, hasked]
          rw [hleft] at hroom
          omega
        have hf' := hcond served irp between irp' behind he hf
        unfold FindsRoom at hf'
        rw [hleft] at h0
        omega

theorem streamReplies_perm (replies : List Reply) :
    (replies.filter (·.major = .read) ++ replies.filter (·.major = .write)).Perm replies := by
  have hnot : ∀ reply : Reply, decide (reply.major = .write) = !decide (reply.major = .read) := by
    intro reply
    cases reply.major <;> rfl
  rw [List.filter_congr fun reply _ => hnot reply]
  exact List.filter_append_perm _ replies

/-- **What the two complete differs by what `RingPoll` completes behind a blocked request.** -/
theorem ringReplies_perm (room : MajorFunction → Nat) (hq : ∀ irp ∈ queue, irp.length ≠ 0) :
    ∃ more : List Reply,
      (ringReplies (room .read) (queue.filter (·.major = .read)) ++
        ringReplies (room .write) (queue.filter (·.major = .write))).Perm
        (streamReplies room queue ++ more) ∧
      (more = [] ↔ ∀ irp ∈ (streamRest room queue).2, (streamRest room queue).1 irp.major = 0) := by
  obtain ⟨served, hserved, -⟩ := streamRest_spec room queue
  have hq' : ∀ d, ∀ irp ∈ (streamRest room queue).2.filter (·.major = d), irp.length ≠ 0 := by
    intro d irp h
    refine hq irp ?_
    rw [hserved]
    exact List.mem_append_right _ (List.mem_of_mem_filter h)
  refine ⟨ringReplies ((streamRest room queue).1 .read)
        ((streamRest room queue).2.filter (·.major = .read)) ++
      ringReplies ((streamRest room queue).1 .write)
        ((streamRest room queue).2.filter (·.major = .write)), ?_, ?_⟩
  · rw [ringReplies_split room hq .read, ringReplies_split room hq .write]
    refine List.Perm.trans ?_ ((streamReplies_perm _).append_right _)
    rw [List.append_assoc, List.append_assoc]
    refine List.Perm.append_left _ ?_
    rw [← List.append_assoc, ← List.append_assoc]
    exact List.perm_append_comm.append_right _
  · rw [List.append_eq_nil_iff, ringReplies_eq_nil (hq' .read), ringReplies_eq_nil (hq' .write)]
    constructor
    · rintro ⟨hread, hwrite⟩ irp h
      cases hd : irp.major with
      | read => exact hread irp (List.mem_filter.mpr ⟨h, by simp [hd]⟩)
      | write => exact hwrite irp (List.mem_filter.mpr ⟨h, by simp [hd]⟩)
    · intro h
      refine ⟨fun irp hmem => ?_, fun irp hmem => ?_⟩ <;>
        · obtain ⟨hmem, hd⟩ := List.mem_filter.mp hmem
          have h0 := h irp hmem
          rwa [of_decide_eq_true hd] at h0

end Rest

/-! ## 4. The two beside each other -/

/-- **Both consoles run to a stop, and whatever `StreamWorker` completes `RingPoll` completes too,
    with the same count.** They complete the same requests if and only if no request that finds room
    in its own direction stands behind one that finds none. -/
theorem served_alike_iff (shared : XenconsInterface) (queue : List Irp)
    (hq : ∀ irp ∈ queue, irp.length ≠ 0) :
    (∃ s, Halts serve Stopped (woken shared.room queue) s) ∧
    (∃ r, Halts goOn Polled (polled shared queue) r) ∧
    ∀ s r, Halts serve Stopped (woken shared.room queue) s →
      Halts goOn Polled (polled shared queue) r →
        (s.completed.map (·.reply)).Subperm (r.completed.map (·.reply)) ∧
        ((s.completed.map (·.reply)).Perm (r.completed.map (·.reply)) ↔
          ∀ ahead irp between irp' behind, queue = ahead ++ irp :: (between ++ irp' :: behind) →
            FindsRoom shared.room (ahead ++ irp :: between) irp' →
              FindsRoom shared.room ahead irp) := by
  obtain ⟨s₀, hs₀, hstream⟩ := stream_halts shared.room queue
  obtain ⟨r₀, hr₀, hring⟩ := ring_halts shared queue
  refine ⟨⟨s₀, hs₀⟩, ⟨r₀, hr₀⟩, fun s r hs hr => ?_⟩
  obtain rfl := hs.unique hs₀
  obtain rfl := hr.unique hr₀
  obtain ⟨more, hmore, hnil⟩ := ringReplies_perm shared.room hq
  rw [← rest_blocked_iff, ← hnil, hstream, hring]
  refine ⟨?_, fun h => ?_, ?_⟩
  · exact ((List.sublist_append_left _ more).subperm).trans hmore.symm.subperm
  · have hlen := (h.trans hmore).length_eq
    rw [List.length_append] at hlen
    exact List.length_eq_zero_iff.mp (by omega)
  · rintro rfl
    rw [List.append_nil] at hmore
    exact hmore.symm

/-- A write and a read behind it, and the other way round. -/
def writeThenRead : List Irp := [.oneByte 0 .write 0 0, .oneByte 1 .read 0 0]

def readAheadOfWrite : List Irp := [.oneByte 0 .read 0 0, .oneByte 1 .write 0 0]

/-- With no input the write is served by both, and the read waits behind it in both. -/
theorem served_alike_iff_writeThenRead :
    ∃ s r, Halts serve Stopped (woken XenconsInterface.zero.room writeThenRead) s ∧
      Halts goOn Polled (polled XenconsInterface.zero writeThenRead) r ∧
      (s.completed.map (·.reply)).Perm (r.completed.map (·.reply)) := by
  obtain ⟨⟨s, hs⟩, ⟨r, hr⟩, h⟩ := served_alike_iff .zero writeThenRead (by decide)
  refine ⟨s, r, hs, hr, (h s r hs hr).2.mpr ?_⟩
  intro ahead irp between irp' behind he _
  cases ahead with
  | nil =>
      obtain ⟨rfl, -⟩ := List.cons.inj he
      decide
  | cons irp₀ ahead =>
      have hlen := congrArg List.length he
      simp [writeThenRead] at hlen
      omega

/-- With no input a read keeps the write behind it from `StreamWorker`, and not from `RingPoll`; and
    a write of no bytes is completed by `StreamWorker`, and put back by `RingPoll`. -/
theorem not_served_alike :
    (∃ s r, Halts serve Stopped (woken XenconsInterface.zero.room readAheadOfWrite) s ∧
      Halts goOn Polled (polled XenconsInterface.zero readAheadOfWrite) r ∧
      s.completed.map (·.reply) = [] ∧ r.completed.map (·.reply) = [⟨1, .write, .success, 1⟩]) ∧
    ∃ s r, Halts serve Stopped (woken XenconsInterface.zero.room [⟨0, .write, 0, 0, [], rfl⟩]) s ∧
      Halts goOn Polled (polled XenconsInterface.zero [⟨0, .write, 0, 0, [], rfl⟩]) r ∧
      s.completed.map (·.reply) = [⟨0, .write, .success, 0⟩] ∧ r.completed.map (·.reply) = [] := by
  constructor
  · obtain ⟨s, hs, hstream⟩ := stream_halts XenconsInterface.zero.room readAheadOfWrite
    obtain ⟨r, hr, hring⟩ := ring_halts .zero readAheadOfWrite
    exact ⟨s, r, hs, hr, hstream.trans (by decide), hring.trans (by decide)⟩
  · obtain ⟨s, hs, hstream⟩ := stream_halts XenconsInterface.zero.room [⟨0, .write, 0, 0, [], rfl⟩]
    obtain ⟨r, hr, hring⟩ := ring_halts .zero [⟨0, .write, 0, 0, [], rfl⟩]
    exact ⟨s, r, hs, hr, hstream.trans (by decide), hring.trans (by decide)⟩

end Xencons
