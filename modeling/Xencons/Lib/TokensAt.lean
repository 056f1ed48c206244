import Mathlib.Data.List.Basic
import Xencons.Lib.Tokens

/-!
# Runs between separators, and where they are

* `TokenAt p s k t` -- `t` is a run of `s` without separators that cannot be made longer, and `k` is
  where it starts;
* `tokensAt p s` -- all of them; `mem_tokensAt`, and from the left: `pairwise_tokensFrom`;
* `tokensFrom_seps`, `tokensFrom_run`, ... -- what it starts with;
* `tokens_induction` -- a list has no run, or one run up to its end, or a first run and a separator
  behind it;
* `nextToken_run` -- the first of them is what `nextToken` takes.
-/

namespace Xencons.Lib

variable {α : Type*} {p : α → Bool}

/-- **A maximal run**: nothing but separators is next to it. -/
structure TokenAt (p : α → Bool) (s : List α) (k : Nat) (t : List α) : Prop where
  nonempty : t ≠ []
  inside : ∀ c ∈ t, p c = false
  maximal : ∃ a b, s = a ++ t ++ b ∧ k = a.length ∧
    (∀ c ∈ a.getLast?, p c = true) ∧ ∀ c ∈ b.head?, p c = true

/-- The runs that start from `k` on; `inside` says that `k` is in the middle of one. -/
def tokensFrom (p : α → Bool) : Bool → Nat → List α → List (Nat × List α)
  | _, _, [] => []
  | inside, k, c :: s =>
    if p c then tokensFrom p false (k + 1) s
    else if inside then tokensFrom p true (k + 1) s
    else (k, c :: s.takeWhile (! p ·)) :: tokensFrom p true (k + 1) s

def tokensAt (p : α → Bool) (s : List α) : List (Nat × List α) := tokensFrom p false 0 s

/-! ## 1. What it starts with -/

/-- Separators are skipped. -/
theorem tokensFrom_seps {d : List α} (hd : ∀ c ∈ d, p c = true) (k : Nat) (s : List α) :
    tokensFrom p false k (d ++ s) = tokensFrom p false (k + d.length) s := by
  induction d generalizing k with
  | nil => rfl
  | cons c d ih =>
      rw [List.cons_append, tokensFrom, if_pos (hd c List.mem_cons_self),
        ih fun c hc => hd c (List.mem_cons_of_mem _ hc), List.length_cons, Nat.add_assoc,
        Nat.add_comm 1]

/-- So is the rest of a run. -/
theorem tokensFrom_inside {t : List α} (ht : ∀ c ∈ t, p c = false) (k : Nat) (s : List α) :
    tokensFrom p true k (t ++ s) = tokensFrom p true (k + t.length) s := by
  induction t generalizing k with
  | nil => rfl
  | cons c t ih =>
      have hc : ¬p c = true := by rw [ht c List.mem_cons_self]; exact Bool.false_ne_true
      rw [List.cons_append, tokensFrom, if_neg hc, if_pos rfl,
        ih fun c hc => ht c (List.mem_cons_of_mem _ hc), List.length_cons, Nat.add_assoc,
        Nat.add_comm 1]

theorem tokensFrom_sep {c : α} (hc : p c = true) (inside : Bool) (k : Nat) (s : List α) :
    tokensFrom p inside k (c :: s) = tokensFrom p false (k + 1) s := if_pos hc

/-- What is taken up to a separator. -/
theorem takeWhile_run {t b : List α} (ht : ∀ c ∈ t, p c = false) (hb : ∀ c ∈ b.head?, p c = true) :
    (t ++ b).takeWhile (! p ·) = t := by
  have hstop : b.takeWhile (! p ·) = [] := by
    cases b with
    | nil => rfl
    | cons c b =>
        rw [List.takeWhile_cons_of_neg]
        rw [hb c rfl]
        exact Bool.false_ne_true
  rw [List.takeWhile_append_of_pos fun c hc => by rw [ht c hc]; rfl, hstop, List.append_nil]

/-- **A run is listed where it starts.** -/
theorem tokensFrom_run {t b : List α} (hne : t ≠ []) (ht : ∀ c ∈ t, p c = false)
    (hb : ∀ c ∈ b.head?, p c = true) (k : Nat) :
    tokensFrom p false k (t ++ b) = (k, t) :: tokensFrom p true (k + t.length) b := by
  cases t with
  | nil => exact absurd rfl hne
  | cons c t =>
      have hc : ¬p c = true := by rw [ht c List.mem_cons_self]; exact Bool.false_ne_true
      have ht' : ∀ c ∈ t, p c = false := fun c hc => ht c (List.mem_cons_of_mem _ hc)
      rw [List.cons_append, tokensFrom, if_neg hc, if_neg Bool.false_ne_true, takeWhile_run ht' hb,
        tokensFrom_inside ht', List.length_cons, Nat.add_assoc, Nat.add_comm 1]

/-! ## 2. What is listed -/

/-- What is listed from `k` on. -/
theorem mem_tokensFrom {inside : Bool} {k k' : Nat} {s t : List α} :
    (k', t) ∈ tokensFrom p inside k s ↔ t ≠ [] ∧ (∀ c ∈ t, p c = false) ∧
      ∃ a b, s = a ++ t ++ b ∧ k' = k + a.length ∧ (a = [] → inside = false) ∧
        (∀ c ∈ a.getLast?, p c = true) ∧ ∀ c ∈ b.head?, p c = true := by
  induction s generalizing inside k with
  | nil =>
      refine iff_of_false List.not_mem_nil ?_
      rintro ⟨hne, -, a, b, he, -⟩
      exact hne (List.append_eq_nil_iff.mp (List.append_eq_nil_iff.mp he.symm).1).2
  | cons c s ih =>
      -- the runs that start behind `c`
      have hbehind {inside' : Bool} (hinside : inside' = !p c) :
          (k', t) ∈ tokensFrom p inside' (k + 1) s ↔ t ≠ [] ∧ (∀ c ∈ t, p c = false) ∧
            ∃ a b, c :: s = (c :: a) ++ t ++ b ∧ k' = k + (c :: a).length ∧
              (∀ d ∈ (c :: a).getLast?, p d = true) ∧ ∀ d ∈ b.head?, p d = true := by
        rw [ih]
        refine and_congr_right fun _ => and_congr_right fun _ => exists_congr fun a =>
          exists_congr fun b => and_congr (by simp) (and_congr ?_ ?_)
        · rw [List.length_cons, Nat.add_assoc, Nat.add_comm 1]
        · rw [← and_assoc]
          refine and_congr_left fun _ => ?_
          cases a with
          | nil => simp [hinside]
          | cons d a => simp
      by_cases hc : p c = true
      · rw [tokensFrom_sep hc, hbehind (by rw [hc]; rfl)]
        refine and_congr_right fun hne => and_congr_right fun ht => ?_
        constructor
        · rintro ⟨a, b, h⟩
          exact ⟨c :: a, b, h.1, h.2.1, nofun, h.2.2⟩
        · rintro ⟨a, b, he, hk, -, h⟩
          cases a with
          | nil =>
              -- the run would start with the separator
              obtain ⟨d, t, rfl⟩ := List.exists_cons_of_ne_nil hne
              obtain ⟨rfl, -⟩ := List.cons_eq_cons.mp he
              rw [ht c List.mem_cons_self] at hc
              cases hc
          | cons d a =>
              obtain ⟨rfl, -⟩ := List.cons_eq_cons.mp he
              exact ⟨a, b, he, hk, h⟩
      · have hf : p c = false := Bool.eq_false_iff.mpr hc
        -- a run behind `c` has a separator ahead of it
        have hrest : (∃ a b, c :: s = (c :: a) ++ t ++ b ∧ k' = k + (c :: a).length ∧
              (∀ d ∈ (c :: a).getLast?, p d = true) ∧ ∀ d ∈ b.head?, p d = true) ↔
            ∃ a b, c :: s = a ++ t ++ b ∧ k' = k + a.length ∧ a ≠ [] ∧
              (∀ d ∈ a.getLast?, p d = true) ∧ ∀ d ∈ b.head?, p d = true := by
          constructor
          · rintro ⟨a, b, he, hk, h⟩
            exact ⟨c :: a, b, he, hk, nofun, h⟩
          · rintro ⟨a, b, he, hk, hne, h⟩
            obtain ⟨d, a, rfl⟩ := List.exists_cons_of_ne_nil hne
            obtain ⟨rfl, -⟩ := List.cons_eq_cons.mp he
            exact ⟨a, b, he, hk, h⟩
        rw [tokensFrom, if_neg hc]
        cases inside with
        | true =>
            rw [if_pos rfl, hbehind (by rw [hf]; rfl), hrest]
            simp
        | false =>
            rw [if_neg Bool.false_ne_true, List.mem_cons, hbehind (by rw [hf]; rfl), hrest]
            constructor
            · rintro (he | ⟨hne, ht, a, b, h⟩)
              · obtain ⟨rfl, rfl⟩ := Prod.mk.inj he
                refine ⟨nofun, fun d hd => ?_, [], s.dropWhile (! p ·), ?_, rfl, fun _ => rfl,
                  nofun, fun d hd => ?_⟩
                · rcases List.mem_cons.mp hd with rfl | hd
                  · exact hf
                  · simpa using List.all_eq_true.mp (List.all_takeWhile (p := (! p ·))) d hd
                · rw [List.nil_append, List.cons_append, List.takeWhile_append_dropWhile]
                · have := List.head?_dropWhile_not (! p ·) s
                  rw [hd] at this
                  simpa using this
              · exact ⟨hne, ht, a, b, h.1, h.2.1, fun _ => rfl, h.2.2.2⟩
            · rintro ⟨hne, ht, a, b, he, hk, -, hlast, hhead⟩
              cases a with
              | nil =>
                  obtain ⟨d, t, rfl⟩ := List.exists_cons_of_ne_nil hne
                  obtain ⟨rfl, hs⟩ := List.cons_eq_cons.mp he
                  have htake : s.takeWhile (! p ·) = t := by
                    rw [hs]
                    exact takeWhile_run (fun d hd => ht d (List.mem_cons_of_mem _ hd)) hhead
                  exact .inl (by rw [htake, hk]; rfl)
              | cons d a => exact .inr ⟨hne, ht, d :: a, b, he, hk, nofun, hlast, hhead⟩

/-- **What is listed are the maximal runs.** -/
theorem mem_tokensAt {s t : List α} {k : Nat} : (k, t) ∈ tokensAt p s ↔ TokenAt p s k t := by
  rw [tokensAt, mem_tokensFrom]
  constructor
  · rintro ⟨hne, ht, a, b, he, hk, -, h⟩
    exact ⟨hne, ht, a, b, he, by rw [hk, Nat.zero_add], h⟩
  · rintro ⟨hne, ht, a, b, he, hk, h⟩
    exact ⟨hne, ht, a, b, he, by rw [hk, Nat.zero_add], fun _ => rfl, h⟩

theorem le_of_mem_tokensFrom {inside : Bool} {k : Nat} {s : List α} {r : Nat × List α}
    (h : r ∈ tokensFrom p inside k s) : k ≤ r.1 := by
  obtain ⟨-, -, a, b, -, hk, -⟩ := mem_tokensFrom.mp h
  omega

/-- They are listed from the left. -/
theorem pairwise_tokensFrom (inside : Bool) (k : Nat) (s : List α) :
    (tokensFrom p inside k s).Pairwise fun r r' => r.1 < r'.1 := by
  induction s generalizing inside k with
  | nil => exact .nil
  | cons c s ih =>
      rw [tokensFrom]
      split
      · exact ih false (k + 1)
      · split
        · exact ih true (k + 1)
        · exact .cons (fun r hr => le_of_mem_tokensFrom hr) (ih true (k + 1))

/-! ## 3. TokenAt by run -/

/-- **The rule for whoever takes the runs one by one.** -/
theorem tokens_induction {motive : List α → Prop} (none : ∀ d, (∀ c ∈ d, p c = true) → motive d)
    (last : ∀ d t, (∀ c ∈ d, p c = true) → t ≠ [] → (∀ c ∈ t, p c = false) → motive (d ++ t))
    (more : ∀ d t x s, (∀ c ∈ d, p c = true) → t ≠ [] → (∀ c ∈ t, p c = false) → p x = true →
      motive s → motive (d ++ t ++ x :: s)) (s : List α) : motive s := by
  induction hn : s.length using Nat.strongRecOn generalizing s with
  | ind n ih =>
      have hseps : ∀ c ∈ s.takeWhile p, p c = true :=
        fun c hc => List.all_eq_true.mp List.all_takeWhile c hc
      have hs : s.takeWhile p ++ s.dropWhile p = s := List.takeWhile_append_dropWhile
      cases hd : s.dropWhile p with
      | nil =>
          rw [hd, List.append_nil] at hs
          rw [← hs]
          exact none _ hseps
      | cons c u =>
          have hc : p c = false := by
            have := List.head?_dropWhile_not p s
            rw [hd] at this
            simpa using this
          have hrun : ∀ d ∈ (c :: u).takeWhile (! p ·), p d = false := fun d hd => by
            simpa using List.all_eq_true.mp (List.all_takeWhile (p := (! p ·))) d hd
          have hne : (c :: u).takeWhile (! p ·) ≠ [] := by
            rw [List.takeWhile_cons_of_pos (by rw [hc]; rfl)]
            nofun
          have hu : (c :: u).takeWhile (! p ·) ++ (c :: u).dropWhile (! p ·) = c :: u :=
            List.takeWhile_append_dropWhile
          cases hd' : (c :: u).dropWhile (! p ·) with
          | nil =>
              rw [hd', List.append_nil] at hu
              rw [← hs, hd, ← hu]
              exact last _ _ hseps hne hrun
          | cons x v =>
              have hx : p x = true := by
                have := List.head?_dropWhile_not (! p ·) (c :: u)
                rw [hd'] at this
                simpa using this
              rw [hd'] at hu
              have hlength : v.length < n := by
                rw [← hn, ← hs, hd, ← hu, List.length_append, List.length_append, List.length_cons]
                omega
              rw [← hs, hd, ← hu, ← List.append_assoc]
              exact more _ _ _ _ hseps hne hrun hx (ih _ hlength v rfl)

/-- The first token of what has none. -/
theorem nextToken_none {d : List α} (hd : ∀ c ∈ d, p c = true) : nextToken p d = none := by
  induction d with
  | nil => rfl
  | cons c d ih =>
      rw [nextToken_cons_sep (hd c List.mem_cons_self),
        ih fun c hc => hd c (List.mem_cons_of_mem _ hc)]

/-- **The first token is the first run.** -/
theorem nextToken_run {d t b : List α} (hd : ∀ c ∈ d, p c = true) (hne : t ≠ [])
    (ht : ∀ c ∈ t, p c = false) (hb : ∀ c ∈ b.head?, p c = true) :
    nextToken p (d ++ (t ++ b)) = some (t, b.drop 1) := by
  induction d with
  | nil =>
      obtain ⟨c, t, rfl⟩ := List.exists_cons_of_ne_nil hne
      have ht' : ∀ c ∈ t, p c = false := fun c hc => ht c (List.mem_cons_of_mem _ hc)
      have hrest : (t ++ b).dropWhile (! p ·) = b := by
        have := List.takeWhile_append_dropWhile (p := (! p ·)) (l := t ++ b)
        rw [takeWhile_run ht' hb] at this
        exact List.append_cancel_left this
      rw [List.nil_append, List.cons_append, nextToken_cons (ht c List.mem_cons_self),
        takeWhile_run ht' hb, hrest]
  | cons c d ih =>
      rw [List.cons_append, nextToken_cons_sep (hd c List.mem_cons_self),
        ih fun c hc => hd c (List.mem_cons_of_mem _ hc)]

end Xencons.Lib
