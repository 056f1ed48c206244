import Xencons.Ring.Stream

/-!
# Who has one request at a time

A thread that reads or writes synchronously has one request of its own on the ring at a time,
whoever else uses the ring. What its requests have been completed with is what it has taken, in that
order, and what the one under way has been completed with.

* `RingFacts` -- what is known of the ring; `move_grows`: what a step adds to its history;
* `OneAtATime` -- the requests of one party, and what it has taken of them;
* `OneAtATime.ring`, `OneAtATime.insert`, `OneAtATime.take` -- the ring goes on, the party puts a
  request on it, and it takes what that has been completed with.
-/

namespace Xencons

open Lib

/-! ## 1. The ring -/

/-- The requests that a step puts on the ring. -/
def inserted : RingLabel Unit → List Irp
  | .insert _ irp _ => [irp]
  | _ => []

section Ring

variable {r r' : RingSys Unit} {l : RingLabel Unit} {d : MajorFunction}

/-- **A step completes one request at most**, and puts those on record that it inserts. -/
theorem move_grows (h : Move r l r') :
    (∃ cs, r'.completed = r.completed ++ cs ∧ cs.length ≤ 1) ∧
      r'.queued = r.queued ++ inserted l := by
  cases h with
  | insertQueue t irp hseq hlive => exact ⟨⟨[], by simp [RingSys.arrive], by simp⟩, rfl⟩
  | insertCancelled t irp hseq hlive => exact ⟨⟨[_], rfl, Nat.le_refl 1⟩, rfl⟩
  | cancelQueued irp hq | scanComplete c d ctx irp hpc | pollPutBackCancelled a d irp hpc hc
  | pollComplete a d irp n hpc hn => exact ⟨⟨[_], rfl, Nat.le_refl 1⟩, (List.append_nil _).symm⟩
  | _ => exact ⟨⟨[], (List.append_nil _).symm, Nat.zero_le 1⟩, (List.append_nil _).symm⟩

/-- What is known of the ring whoever is there beside it. -/
structure RingFacts (r : RingSys Unit) : Prop where
  pending : AllPending r
  sound : Sound r
  placed : Placement r

theorem reach_ringFacts {P : RingSys Unit → RingLabel Unit → Prop} {shared : XenconsInterface}
    (h : Reach (ringSystem Unit) P (RingSys.init Unit shared) r) : RingFacts r :=
  ⟨h.ringInvariant (allPending_init Unit shared) (allPending_init Unit shared)
    fun _ _ _ hp _ hm => hm.allPending hp, reach_sound h, reach_placed h⟩

namespace RingFacts

variable (h : RingFacts r)
include h

theorem move (he : ringEnabled r l) : Move r l (ringNext r l) := move_of_enabled h.pending he

theorem next (he : ringEnabled r l) : RingFacts (ringNext r l) :=
  ⟨(h.move he).allPending h.pending, (h.move he).sound h.sound,
    (h.move he).placed h.sound h.placed⟩

theorem nodup : (r.completed.map fun c => c.irp.seq).Nodup := by
  have hplaced := h.placed.nodup .completed
  rwa [contents_completed, List.map_map] at hplaced

/-- A request is completed once. -/
theorem completed_inj {c c' : Completion} (hc : c ∈ r.completed) (hc' : c' ∈ r.completed)
    (he : c.irp.seq = c'.irp.seq) : c = c' :=
  List.inj_on_of_nodup_map h.nodup hc hc' he

/-- What has been completed had been put on the ring. -/
theorem request {c : Completion} (hc : c ∈ r.completed) :
    ∃ irp ∈ r.queued, c.irp.SameRequest irp := by
  rcases h.sound.completed c hc with ⟨-, -, -, irp, hirp, hsame⟩ | ⟨-, -, hirp⟩
  · exact ⟨irp, hirp, hsame⟩
  · exact ⟨c.irp, hirp, .refl _⟩

theorem seq_lt {irp : Irp} (hirp : irp ∈ r.queued) : irp.seq < r.queued.length := by
  have hmem : irp.seq ∈ r.queued.map Irp.seq := List.mem_map_of_mem hirp
  rw [h.sound.seqs] at hmem
  exact List.mem_range.mp hmem

end RingFacts

theorem mem_served {c : Completion} :
    c ∈ r.served d ↔ c ∈ r.completed ∧ c.status = .success ∧ c.irp.major = d := by
  simp [RingSys.served]

theorem served_append {cs : List Completion} (h : r'.completed = r.completed ++ cs) :
    r'.served d = r.served d ++ cs.filter fun c => c.status = .success ∧ c.irp.major = d := by
  rw [RingSys.served, h, List.filter_append]
  rfl

/-- An insertion serves nobody. -/
theorem served_insert {t : Nat} {irp : Irp} {cancelled : Bool}
    (he : ringEnabled r (.insert t irp cancelled)) :
    (ringNext r (.insert t irp cancelled)).served d = r.served d := by
  have hm := move_insert he
  revert hm
  generalize ringNext r (.insert t irp cancelled) = r'
  intro hm
  cases hm with
  | insertQueue => rfl
  | insertCancelled => exact served_cancelled irp 0

end Ring

/-! ## 2. The requests of one party -/

/-- What the request `q` has been completed with successfully. -/
def RingSys.servedFor (r : RingSys Unit) (d : MajorFunction) (q : Option Nat) : List Completion :=
  (r.served d).filter fun c => q = some c.irp.seq

/-- That is one completion at most. -/
theorem RingFacts.servedFor_le_one {r : RingSys Unit} (h : RingFacts r) (d : MajorFunction)
    (q : Nat) : r.servedFor d (some q) = [] ∨
      ∃ c, r.servedFor d (some q) = [c] ∧ c ∈ r.completed ∧ c.irp.seq = q := by
  rcases hs : r.servedFor d (some q) with _ | ⟨c, cs⟩
  · exact .inl rfl
  · have hall {c' : Completion} (hc' : c' ∈ r.servedFor d (some q)) :
        c' ∈ r.completed ∧ c'.irp.seq = q := by
      obtain ⟨hmem, hseq⟩ := List.mem_filter.mp hc'
      exact ⟨(mem_served.mp hmem).1, (Option.some.inj (of_decide_eq_true hseq)).symm⟩
    obtain ⟨hc, hseq⟩ := hall (hs ▸ List.mem_cons_self)
    have hnodup : (r.servedFor d (some q)).Nodup := ((h.nodup.of_map _).filter _).filter _
    have hsub : r.servedFor d (some q) ⊆ [c] := fun c' hc' =>
      List.mem_singleton.mpr (h.completed_inj (hall hc').1 hc ((hall hc').2.trans hseq.symm))
    have hone := (List.subperm_singleton_iff.mp
      (List.subperm_of_subset hnodup hsub)).resolve_left (hs ▸ List.cons_ne_nil _ _)
    exact .inr ⟨c, hs ▸ hone, hc, hseq⟩

/-- **The requests of a party that has one of them under way at a time**: `mine` tells which they
    are, `outstanding` is the one under way, and `done` are the successful ones that it has taken. -/
structure OneAtATime (d : MajorFunction) (r : RingSys Unit) (mine : Nat → Bool)
    (outstanding : Option Nat) (done : List Completion) : Prop where
  request : ∀ irp ∈ r.queued, mine irp.seq = true → irp.major = d ∧
    (irp.seq ∈ r.completed.map (fun c => c.irp.seq) ∨ outstanding = some irp.seq)
  bound : ∀ q, mine q = true → q < r.queued.length
  waits : ∀ q, outstanding = some q → mine q = true
  served : (r.served d).filter (fun c => mine c.irp.seq) = done ++ r.servedFor d outstanding

namespace OneAtATime

variable {d : MajorFunction} {r : RingSys Unit} {mine : Nat → Bool} {outstanding : Option Nat}
  {done : List Completion}

theorem init (d : MajorFunction) (shared : XenconsInterface) :
    OneAtATime d (.init Unit shared) (fun _ => false) none [] :=
  ⟨fun _ _ h => (Bool.false_ne_true h).elim, fun _ h => (Bool.false_ne_true h).elim, nofun, rfl⟩

/-- **The ring goes on**: it completes the request under way, or nothing of the party's. -/
theorem ring (h : OneAtATime d r mine outstanding done) (hf : RingFacts r) {l : RingLabel Unit}
    (he : ringEnabled r l) : OneAtATime d (ringNext r l) mine outstanding done := by
  have hf' := hf.next he
  obtain ⟨⟨cs, hcs, -⟩, hqueued⟩ := move_grows (hf.move he)
  -- what is being put on the ring has a number of its own
  have hold {irp : Irp} (hirp : irp ∈ (ringNext r l).queued) (hmine : mine irp.seq = true) :
      irp ∈ r.queued := by
    rw [hqueued] at hirp
    rcases List.mem_append.mp hirp with hirp | hirp
    · exact hirp
    · have hlt := h.bound _ hmine
      cases l with
      | insert t irp' cancelled =>
          obtain rfl := List.mem_singleton.mp hirp
          have hseq : irp.seq = r.queued.length := he.2.1
          omega
      | _ => exact absurd hirp List.not_mem_nil
  refine ⟨fun irp hirp hmine => ?_, fun q hq => ?_, h.waits, ?_⟩
  · obtain ⟨hmajor, hdone⟩ := h.request irp (hold hirp hmine) hmine
    refine ⟨hmajor, hdone.imp_left fun hmem => ?_⟩
    rw [hcs, List.map_append]
    exact List.mem_append_left _ hmem
  · have hlt := h.bound q hq
    rw [hqueued, List.length_append]
    omega
  · -- of what has just succeeded, the party's was under way
    have hnew : (cs.filter fun c => c.status = .success ∧ c.irp.major = d).filter
        (fun c => mine c.irp.seq) = (cs.filter fun c => c.status = .success ∧ c.irp.major = d).filter
          fun c => outstanding = some c.irp.seq := by
      refine List.filter_congr fun c hc => ?_
      have hmem : c ∈ cs := (List.mem_filter.mp hc).1
      have hmem' : c ∈ (ringNext r l).completed := by
        rw [hcs]
        exact List.mem_append_right _ hmem
      rw [Bool.eq_iff_iff, decide_eq_true_iff]
      refine ⟨fun hmine => ?_, fun hout => h.waits _ hout⟩
      obtain ⟨irp, hirp, hsame⟩ := hf'.request hmem'
      rw [hsame.seq] at hmine
      rcases (h.request irp (hold hirp hmine) hmine).2 with hdone | hdone
      · obtain ⟨c', hc', hseq⟩ := List.mem_map.mp hdone
        have hnodup := hf'.nodup
        rw [hcs, List.map_append] at hnodup
        have hagain : c'.irp.seq ∈ cs.map fun c => c.irp.seq :=
          List.mem_map.mpr ⟨c, hmem, hsame.seq.trans hseq.symm⟩
        exact absurd hagain (List.disjoint_of_nodup_append hnodup (List.mem_map_of_mem hc'))
      · rw [hdone, hsame.seq]
    rw [served_append hcs, List.filter_append, h.served, hnew, List.append_assoc,
      RingSys.servedFor, RingSys.servedFor, served_append hcs, List.filter_append]

/-- **The party puts a request on the ring**, when it has none there. -/
theorem insert (h : OneAtATime d r mine none done) (hf : RingFacts r) {t : Nat} {irp : Irp}
    {cancelled : Bool} (he : ringEnabled r (.insert t irp cancelled)) (hd : irp.major = d) :
    OneAtATime d (ringNext r (.insert t irp cancelled)) (fun q => mine q || q == irp.seq)
      (some irp.seq) done := by
  obtain ⟨⟨cs, hcs, -⟩, hqueued⟩ := move_grows (hf.move he)
  have hseq : irp.seq = r.queued.length := he.2.1
  -- it is none of those that have been served
  have hlt {c : Completion} (hc : c ∈ r.served d) : c.irp.seq < irp.seq := by
    obtain ⟨irp', hirp', hsame⟩ := hf.request (mem_served.mp hc).1
    rw [hsame.seq, hseq]
    exact hf.seq_lt hirp'
  refine ⟨fun irp' hirp' hmine => ?_, fun q hq => ?_, fun q hq => ?_, ?_⟩
  · rw [hqueued] at hirp'
    rcases List.mem_append.mp hirp' with hirp' | hirp'
    · have hne : irp'.seq ≠ irp.seq := by
        have := hf.seq_lt hirp'
        omega
      obtain ⟨hmajor, hdone⟩ := h.request irp' hirp' (by simpa [hne] using hmine)
      refine ⟨hmajor, .inl ?_⟩
      rw [hcs, List.map_append]
      exact List.mem_append_left _ (hdone.resolve_right nofun)
    · obtain rfl := List.mem_singleton.mp hirp'
      exact ⟨hd, .inr rfl⟩
  · rw [hqueued, List.length_append]
    rcases Bool.or_eq_true _ _ ▸ hq with hq | hq
    · have := h.bound q hq
      omega
    · have : q = irp.seq := by simpa using hq
      simp only [inserted, List.length_singleton]
      omega
  · cases hq
    simp
  · have hserved := h.served
    have hnothing : r.servedFor d (some irp.seq) = [] := by
      refine List.filter_eq_nil_iff.mpr fun c hc => ?_
      have := hlt hc
      simp only [Option.some.injEq, decide_eq_true_eq]
      omega
    have hnone : r.servedFor d none = [] := by simp [RingSys.servedFor]
    rw [hnone] at hserved
    have hservedFor : (ringNext r (.insert t irp cancelled)).servedFor d (some irp.seq) =
        r.servedFor d (some irp.seq) := by rw [RingSys.servedFor, served_insert he]; rfl
    rw [hservedFor, hnothing, served_insert he, ← hserved]
    refine List.filter_congr fun c hc => ?_
    have := hlt hc
    have hne : c.irp.seq ≠ irp.seq := by omega
    simp [hne]

/-- **The party takes what its request has been completed with.** -/
theorem take (h : OneAtATime d r mine outstanding done) (hf : RingFacts r) {c : Completion}
    (hc : c ∈ r.completed) (hout : outstanding = some c.irp.seq) :
    OneAtATime d r mine none (done ++ if c.status = .success then [c] else []) := by
  subst hout
  refine ⟨fun irp hirp hmine => ?_, h.bound, nofun, ?_⟩
  · obtain ⟨hmajor, hdone⟩ := h.request irp hirp hmine
    refine ⟨hmajor, .inl (hdone.elim id fun hdone => ?_)⟩
    exact List.mem_map.mpr ⟨c, hc, Option.some.inj hdone⟩
  · have hnone : r.servedFor d none = [] := by simp [RingSys.servedFor]
    rw [h.served, hnone, List.append_nil]
    congr 1
    by_cases hsuccess : c.status = .success
    · have hmajor : c.irp.major = d := by
        obtain ⟨irp, hirp, hsame'⟩ := hf.request hc
        have hmine : mine irp.seq = true := hsame'.seq ▸ h.waits _ rfl
        rw [hsame'.major]
        exact (h.request irp hirp hmine).1
      have hmem : c ∈ r.servedFor d (some c.irp.seq) :=
        List.mem_filter.mpr ⟨mem_served.mpr ⟨hc, hsuccess, hmajor⟩, by simp⟩
      rw [if_pos hsuccess]
      rcases hf.servedFor_le_one d c.irp.seq with hnone | ⟨c', hone, hc', hseq⟩
      · exact absurd hnone (List.ne_nil_of_mem hmem)
      · rw [hone, hf.completed_inj hc' hc hseq]
    · rw [if_neg hsuccess]
      rcases hf.servedFor_le_one d c.irp.seq with hnone | ⟨c', hone, hc', hseq⟩
      · exact hnone
      · have hmem : c' ∈ r.servedFor d (some c.irp.seq) := hone ▸ List.mem_singleton.mpr rfl
        obtain rfl := hf.completed_inj hc' hc hseq
        exact absurd (mem_served.mp (List.mem_filter.mp hmem).1).2.1 hsuccess

/-- The same requests, told apart in another way. -/
theorem congr {mine' : Nat → Bool} (h : OneAtATime d r mine outstanding done)
    (hm : ∀ q, mine' q = mine q) : OneAtATime d r mine' outstanding done := by
  obtain rfl : mine' = mine := funext hm
  exact h

end OneAtATime

end Xencons
